import OpenflowDatapath.Admin.Tables

/-! # The output path

`dp_output_port`, `output_all` and `dp_xmit_skb` over socket buffers that carry an identity,
so that a run of the output path is a trace of what happens to each frame: cloned, passed to
`dp_output_port` by `output_all`, transmitted, delivered to the local device, taken by the
flow chain or the control path, or freed. The external calls are an environment.
-/

namespace OpenflowDatapath

abbrev SkbId := Nat

/-- The fields of `struct sk_buff` the output path reads; `vlan` is an 802.1Q frame. -/
structure Skb where
  id : SkbId
  dev : Option DevId
  len : Nat
  vlan : Bool
  gso : Bool
  deriving DecidableEq, Repr

inductive Event where
  | clone (src dst : SkbId)
  -- `output_all` passes frame `skb` to `dp_output_port` for port number `portNo`.
  | output (skb : SkbId) (portNo : Nat)
  | xmit (skb : SkbId) (dev : DevId)
  | devRecv (skb : SkbId) (dev : DevId)
  | chain (skb : SkbId)
  -- `dp_output_control` builds a packet-in with this `in_port` and frees the frame.
  | control (skb : SkbId) (inPort : Nat)
  | free (skb : SkbId)
  deriving DecidableEq, Repr

def Event.consumed : Event → Option SkbId
  | .xmit f _ | .devRecv f _ | .chain f | .control f _ | .free f => some f
  | .clone _ _ | .output _ _ => none

def Event.cloned : Event → Option SkbId
  | .clone _ c => some c
  | _ => none

def Event.outputTo : Event → Option (SkbId × Nat)
  | .output f q => some (f, q)
  | _ => none

theorem Event.not_cloned_of_consumed {e : Event} {f : SkbId} (h : e.consumed = some f) :
    e.cloned = none ∧ e.outputTo = none := by
  cases e <;> simp_all [Event.consumed, Event.cloned, Event.outputTo]

structure Out where
  trace : List Event
  next : SkbId
  clones : Nat

abbrev OutM := StateT Out K

/-- What `skb_clone`, the chain, the packet-in's send and `dp_dev_recv` return. -/
structure FwdEnv where
  cloneOk : Nat → Bool
  tableRet : SkbId → Int
  controlRet : SkbId → Int
  devRecvRet : SkbId → Int

def emit (e : Event) : OutM Unit := fun o => .ok ((), { o with trace := o.trace ++ [e] })

def derefO {α : Type} (x : Option α) : OutM α := fun o =>
  match x with
  | some a => .ok (a, o)
  | none => .error .badDeref

def kfreeSkb (skb : Skb) : OutM Unit := emit (.free skb.id)

@[simp] theorem derefO_some_bind {α β : Type} (a : α) (f : α → OutM β) :
    (derefO (some a) >>= f) = f a := rfl

theorem bind_run_ok {α β : Type} {x : OutM α} {f : α → OutM β} {o o₁ : Out} {a : α}
    (h : x o = .ok (a, o₁)) : (x >>= f) o = f a o₁ := by
  show Except.bind (x o) _ = _
  rw [h]
  rfl

def skbClone (env : FwdEnv) (skb : Skb) : OutM (Option Skb) := fun o =>
  if env.cloneOk o.clones then
    .ok (some { skb with id := o.next },
      { trace := o.trace ++ [.clone skb.id o.next], next := o.next + 1, clones := o.clones + 1 })
  else .ok (none, { o with clones := o.clones + 1 })

def ethHlen : Nat := 14
def vlanHlen : Nat := 4

/-- `packet_length`, in `unsigned` arithmetic. -/
def packetLength (skb : Skb) : Nat :=
  (((skb.len : Int) - ethHlen - if skb.vlan then (vlanHlen : Int) else 0) % 2 ^ 32).toNat

def dpXmitSkb (s : Sys) (skb : Skb) : OutM Int := do
  let d ← derefO skb.dev
  let dev ← derefO (s.devs d)
  let p ← derefO dev.brPort
  let _ ← derefO (s.portHeap p)
  if packetLength skb > dev.mtu ∧ skb.gso = false then
    kfreeSkb skb
    return -e2big
  emit (.xmit skb.id d)
  return skb.len

/-- Modelled from the spec: `run_flow_through_tables` (forward.c); 0 when the chain took it. -/
def runFlowThroughTables (env : FwdEnv) (skb : Skb) : OutM Int := do
  let r := env.tableRet skb.id
  if r = 0 then emit (.chain skb.id)
  return r

/-- `dp_output_control` as the output path sees it: the `in_port`, and the frame freed. -/
def dpOutputControl (env : FwdEnv) (s : Sys) (skb : Skb) : OutM Int := do
  let inPort ← match skb.dev with
    | none => pure ofppLocal
    | some d => do
      let dev ← derefO (s.devs d)
      match dev.brPort with
      | none => pure ofppLocal
      | some p => do
        let port ← derefO (s.portHeap p)
        pure port.portNo
  emit (.control skb.id inPort)
  return env.controlRet skb.id

/-- Modelled from the spec: `dp_dev_recv` (dp_dev.c) delivers the frame to the local device. -/
def dpDevRecv (env : FwdEnv) (d : DevId) (skb : Skb) : OutM Int := do
  emit (.devRecv skb.id d)
  return env.devRecvRet skb.id

/-- `dp_output_port` on every `out_port` but `OFPP_FLOOD` and `OFPP_ALL`. -/
def dpOutputPortNoFlood (env : FwdEnv) (s : Sys) (dp : Datapath) (skb : Skb) (outPort : Nat)
    (ignoreNoFwd : Bool) : OutM Int :=
  if outPort = ofppInPort then
    match skb.dev with
    | none => do kfreeSkb skb; return -esrch
    | some _ => dpXmitSkb s skb
  else if outPort = ofppTable then do
    let d ← derefO skb.dev
    let _ ← derefO (s.devs d)
    let r ← runFlowThroughTables env skb
    if r ≠ 0 then kfreeSkb skb
    return r
  else if outPort = ofppController then dpOutputControl env s skb
  else if outPort = ofppLocal then
    match dp.netdev with
    | some d => dpDevRecv env d skb
    | none => return -esrch
  else if outPort < dpMaxPorts then
    match dp.ports outPort with
    | none => do kfreeSkb skb; return -enoent
    | some p => do
      let port ← derefO (s.portHeap p)
      if skb.dev = some port.dev then
        kfreeSkb skb
        return -einval
      if port.config &&& ofppcNoFwd ≠ 0 ∧ ignoreNoFwd = false then
        kfreeSkb skb
        return 0
      dpXmitSkb s { skb with dev := some port.dev }
  else do kfreeSkb skb; return -enoent

/-- The loop of `output_all` from `prev_port`; `none` where it returned `-ENOMEM`. -/
def outputAllLoop (env : FwdEnv) (s : Sys) (dp : Datapath) (skb : Skb) (disable : UInt32) :
    List PortRef → Option Nat → OutM (Option (Option Nat))
  | [], prev => pure (some prev)
  | p :: ps, prev => do
    let port ← derefO (s.portHeap p)
    if skb.dev = some port.dev ∨ port.config &&& disable ≠ 0 then
      outputAllLoop env s dp skb disable ps prev
    else
      match prev with
      | none => outputAllLoop env s dp skb disable ps (some port.portNo)
      | some q => do
        match ← skbClone env skb with
        | none => do kfreeSkb skb; return none
        | some c => do
          emit (.output c.id q)
          let _ ← dpOutputPortNoFlood env s dp c q false
          outputAllLoop env s dp skb disable ps (some port.portNo)

def outputAll (env : FwdEnv) (s : Sys) (dp : Datapath) (skb : Skb) (flood : Bool) : OutM Int := do
  let disable : UInt32 := if flood then ofppcNoFlood else 0
  match ← outputAllLoop env s dp skb disable dp.portList none with
  | none => return -enomem
  | some (some q) => do
    emit (.output skb.id q)
    let _ ← dpOutputPortNoFlood env s dp skb q false
    return 0
  | some none => do kfreeSkb skb; return 0

def dpOutputPort (env : FwdEnv) (s : Sys) (dp : Datapath) (skb : Skb) (outPort : Nat)
    (ignoreNoFwd : Bool) : OutM Int :=
  if outPort = ofppFlood then outputAll env s dp skb true
  else if outPort = ofppAll then outputAll env s dp skb false
  else dpOutputPortNoFlood env s dp skb outPort ignoreNoFwd

/-- On a live datapath's ports, `dp_output_port` is what `outputAll` calls. -/
theorem PortTables.dpOutputPort_portList {s : Sys} (ht : PortTables s) {a : DpRef} {dp : Datapath}
    (hlive : Live s a dp) {p : PortRef} (hp : p ∈ dp.portList) {port : BridgePort}
    (hport : s.portHeap p = some port) (env : FwdEnv) (skb : Skb) (ignoreNoFwd : Bool) :
    dpOutputPort env s dp skb port.portNo ignoreNoFwd =
      dpOutputPortNoFlood env s dp skb port.portNo ignoreNoFwd := by
  have hno : port.portNo = ofppLocal ∨ port.portNo < dpMaxPorts := by
    rcases (ht.mem a dp p hlive).1 hp with hl | ⟨n, -, hn, hs⟩
    · obtain ⟨lp, port', hlp, hport', hno, -⟩ := ht.localPort a dp hlive
      rw [hl, Option.some.injEq] at hlp
      subst hlp
      rw [hport, Option.some.injEq] at hport'
      exact .inl (hport' ▸ hno)
    · obtain ⟨port', hport', hno, -⟩ := ht.slot a dp n p hlive hs
      rw [hport, Option.some.injEq] at hport'
      exact .inr (hport' ▸ hno ▸ hn)
  have hflood : port.portNo ≠ ofppFlood ∧ port.portNo ≠ ofppAll := by
    simp only [ofppLocal, dpMaxPorts, ofppFlood, ofppAll] at hno ⊢
    omega
  rw [dpOutputPort, if_neg hflood.1, if_neg hflood.2]

def dpSetOrigin (s : Sys) (dp : Datapath) (inPort : Nat) (skb : Skb) : K Skb :=
  match lookupPort dp inPort with
  | some p => do
    let port ← deref (s.portHeap p)
    return { skb with dev := some port.dev }
  | none => return { skb with dev := none }

def demoFwdEnv : FwdEnv := ⟨fun _ => true, fun _ => 0, fun _ => 0, fun _ => 0⟩

def demoSkb : Skb := ⟨0, some 0, 60, false, false⟩

/-- After `dp_set_origin` to no port or the local one, `OFPP_TABLE` and `OFPP_IN_PORT` oops. -/
theorem dpOutputPort_faults_after_set_origin :
    (dpSetOrigin demoSys demoDp ofppNone demoSkb >>= fun skb =>
      dpOutputPort demoFwdEnv demoSys demoDp skb ofppTable false ⟨[], 1, 0⟩) = .error .badDeref ∧
    (dpSetOrigin demoSys demoDp ofppLocal demoSkb >>= fun skb =>
      dpOutputPort demoFwdEnv demoSys demoDp skb ofppInPort false ⟨[], 1, 0⟩) = .error .badDeref :=
  ⟨rfl, rfl⟩

end OpenflowDatapath
