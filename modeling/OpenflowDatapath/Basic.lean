import Mathlib

/-! # Datapaths, bridge ports and host devices

The state that `datapath.c` guards with `dp_mutex`: the table `dps` of datapath pointers,
the datapaths, their `net_bridge_port`s and the host `net_device`s the ports are bound to.
Each kind of object lives in a heap of partial maps addressed by `Nat`, so that the target
of a pointer, its identity (`dev->br_port = p`) and `kfree` are all explicit.
-/

namespace OpenflowDatapath

def dpMax : Nat := 256
def dpMaxPorts : Nat := 256

def ofppInPort : Nat := 0xfff8
def ofppTable : Nat := 0xfff9
def ofppFlood : Nat := 0xfffb
def ofppAll : Nat := 0xfffc
def ofppController : Nat := 0xfffd
def ofppLocal : Nat := 0xfffe
def ofppNone : Nat := 0xffff

def ofppcPortDown : UInt32 := 1
def ofppcNoFlood : UInt32 := 16
def ofppcNoFwd : UInt32 := 32
def ofppsLinkDown : UInt32 := 1

def iffUp : Nat := 0x1
def iffLoopback : Nat := 0x8
def arphrdEther : Nat := 1

def enoent : Int := 2
def esrch : Int := 3
def e2big : Int := 7
def enomem : Int := 12
def ebusy : Int := 16
def eexist : Int := 17
def enodev : Int := 19
def einval : Int := 22
def exfull : Int := 54
def enobufs : Int := 105

abbrev DevId := Nat
abbrev PortRef := Nat
abbrev DpRef := Nat

/-- The fields of `struct net_device` that the datapath reads or writes. -/
structure NetDevice where
  name : String
  flags : Nat
  type : Nat
  isDpDev : Bool
  carrier : Bool
  mtu : Nat
  devAddr : List UInt8
  brPort : Option PortRef
  promiscuity : Int
  refcnt : Int
  deriving DecidableEq, Repr

/-- `struct net_bridge_port`. -/
structure BridgePort where
  dp : DpRef
  dev : DevId
  portNo : Nat
  config : UInt32
  state : UInt32
  deriving DecidableEq, Repr

/-- `struct datapath`, without the flow chain, which the stats dumps take as an argument. -/
structure Datapath where
  dpIdx : Nat
  netdev : Option DevId
  ports : Nat → Option PortRef
  portList : List PortRef
  localPort : Option PortRef
  flags : Nat
  missSendLen : Nat

/-- The global state: `dps[DP_MAX]`, the three heaps, and the module's reference count. -/
structure Sys where
  dps : Nat → Option DpRef
  dpHeap : DpRef → Option Datapath
  portHeap : PortRef → Option BridgePort
  devs : DevId → Option NetDevice
  moduleRefs : Nat

/-- A kernel oops: a dereference of a null, freed or error pointer, or a `BUG_ON` that fires. -/
inductive Oops where
  | badDeref
  | bug
  deriving DecidableEq, Repr

abbrev K := Except Oops

/-- Dereferencing a pointer: a missing object is an oops. -/
def deref {α : Type} : Option α → K α
  | some a => .ok a
  | none => .error .badDeref

@[simp] theorem deref_some {α : Type} (a : α) : deref (some a) = .ok a := rfl
@[simp] theorem deref_none {α : Type} : deref (none : Option α) = .error .badDeref := rfl

@[simp] theorem deref_eq_ok {α : Type} {o : Option α} {a : α} : deref o = .ok a ↔ o = some a := by
  cases o <;> simp [deref]

@[simp] theorem pure_eq_ok {α : Type} {a b : α} : (pure a : K α) = .ok b ↔ a = b := by
  simp [pure, Except.pure]

@[simp] theorem ok_bind {α β : Type} (a : α) (f : α → K β) : (Except.ok a : K α) >>= f = f a := rfl

@[simp] theorem error_bind {α β : Type} (e : Oops) (f : α → K β) :
    (Except.error e : K α) >>= f = .error e := rfl

theorem bind_eq_ok {α β : Type} {x : K α} {f : α → K β} {b : β} :
    x >>= f = .ok b ↔ ∃ a, x = .ok a ∧ f a = .ok b := by
  cases x <;> simp [bind, Except.bind]

theorem bind_eq_error {α β : Type} {x : K α} {f : α → K β} {e : Oops} :
    x >>= f = .error e ↔ x = .error e ∨ ∃ a, x = .ok a ∧ f a = .error e := by
  cases x <;> simp [bind, Except.bind]

/-- A datapath that is published in `dps` and allocated. -/
def Live (s : Sys) (a : DpRef) (dp : Datapath) : Prop :=
  (∃ i, s.dps i = some a) ∧ s.dpHeap a = some dp

/-- `lookup_port`, which `dp_set_origin` and `dp_update_port_flags` repeat inline. -/
def lookupPort (dp : Datapath) (portNo : Nat) : Option PortRef :=
  if portNo < dpMaxPorts then dp.ports portNo
  else if portNo = ofppLocal then dp.localPort else none

/-- `dp_get_by_idx`. -/
def dpGetByIdx (s : Sys) (dpIdx : Int) : Option DpRef :=
  if dpIdx < 0 ∨ dpMax ≤ dpIdx then none else s.dps dpIdx.toNat

end OpenflowDatapath
