import OpenflowDatapath.Admin.Maint

/-! # Administrative operations

The operations that run under `dp_mutex`: creating and destroying a datapath, attaching and
detaching a host device, and a port-mod. Each takes the outcome of every allocation and
external call it makes as an argument, so that each failure exit is a run of the model.
-/

namespace OpenflowDatapath

open Function

def findPortno (dp : Datapath) : Option Nat :=
  (List.range' 1 (dpMaxPorts - 1)).find? fun i => (dp.ports i).isNone

def attachPort (s : Sys) (a : DpRef) (dp : Datapath) (d : DevId) (dev : NetDevice)
    (portNo : Nat) (p : PortRef) : Sys :=
  { s with
    devs := update s.devs d (some { dev with
      promiscuity := dev.promiscuity + 1, refcnt := dev.refcnt + 1
      brPort := if portNo ≠ ofppLocal then some p else dev.brPort })
    dpHeap := update s.dpHeap a (some { dp with
      ports := if portNo < dpMaxPorts then update dp.ports portNo (some p) else dp.ports
      portList := p :: dp.portList })
    portHeap := update s.portHeap p (some ⟨a, d, portNo, 0, 0⟩) }

def newNbp (s : Sys) (a : DpRef) (d : DevId) (portNo : Nat) (alloc : Option PortRef) :
    K (Sys × Except Int PortRef) := do
  let dev ← deref (s.devs d)
  if dev.brPort.isSome then return (s, .error (-ebusy))
  let some p := alloc | return (s, .error (-enomem))
  let dp ← deref (s.dpHeap a)
  return (attachPort s a dp d dev portNo p, .ok p)

def initPortStatus (s : Sys) (p : PortRef) : K Sys := do
  let port ← deref (s.portHeap p)
  let dev ← deref (s.devs port.dev)
  let config := if dev.flags &&& iffUp ≠ 0 then port.config &&& ~~~ofppcPortDown
    else port.config ||| ofppcPortDown
  let state := if dev.carrier then port.state &&& ~~~ofppsLinkDown
    else port.state ||| ofppsLinkDown
  return { s with portHeap := update s.portHeap p (some { port with config, state }) }

/-- `add_switch_port`; the `PORT_STATUS` it sends is not part of this state. -/
def addSwitchPort (s : Sys) (a : DpRef) (d : DevId) (alloc : Option PortRef) :
    K (Sys × Int) := do
  let dev ← deref (s.devs d)
  if dev.flags &&& iffLoopback ≠ 0 ∨ dev.type ≠ arphrdEther ∨ dev.isDpDev then
    return (s, -einval)
  let dp ← deref (s.dpHeap a)
  let some portNo := findPortno dp | return (s, -exfull)
  let (s, r) ← newNbp s a d portNo alloc
  match r with
  | .error e => return (s, e)
  | .ok p => return (← initPortStatus s p, 0)

def detachPort (s : Sys) (p : PortRef) (port : BridgePort) (dev : NetDevice) (dp : Datapath) :
    Sys :=
  { s with
    dpHeap := update s.dpHeap port.dp (some { dp with
      portList := dp.portList.erase p
      ports := if port.portNo ≠ ofppLocal then update dp.ports port.portNo none else dp.ports })
    devs := update s.devs port.dev (some { dev with
      promiscuity := dev.promiscuity - 1, brPort := none, refcnt := dev.refcnt - 1 })
    portHeap := update s.portHeap p none }

def dpDelSwitchPort (s : Sys) (p : PortRef) : K Sys := do
  let port ← deref (s.portHeap p)
  let dev ← deref (s.devs port.dev)
  let dp ← deref (s.dpHeap port.dp)
  return detachPort s p port dev dp

def genDpIdx (s : Sys) : Int :=
  match (List.range dpMax).find? fun i => (s.dps i).isNone with
  | some i => i
  | none => -1

/-- What the external calls of `new_dp` return, in the order it makes them. -/
structure NewDpEnv where
  moduleGet : Bool
  dpAlloc : Option DpRef
  devSetup : Except Int (DevId × NetDevice)
  chainCreate : Bool
  portAlloc : Option PortRef
  kthreadRun : Bool

/-- Modelled from the spec: `dp_dev_setup` (dp_dev.c) binds a new local datapath device. -/
def dpDevSetup (dpName : Option String) (r : Except Int (DevId × NetDevice)) :
    Except Int (DevId × NetDevice) :=
  r.map fun (d, dev) => (d, { dev with name := dpName.getD dev.name, isDpDev := true, brPort := none })

/-- `new_dp`; `try_module_get`'s reference is kept only when the datapath is published. -/
def newDp (s : Sys) (dpIdx : Int) (dpName : Option String) (env : NewDpEnv) :
    K (Sys × Int) := do
  let dpIdx := if dpIdx = -1 then genDpIdx s else dpIdx
  if dpIdx < 0 ∨ dpMax ≤ dpIdx then return (s, -einval)
  if !env.moduleGet then return (s, -enodev)
  let i := dpIdx.toNat
  if (s.dps i).isSome then return (s, -eexist)
  let some a := env.dpAlloc | return (s, -enomem)
  match dpDevSetup dpName env.devSetup with
  | .error e => return (s, e)
  | .ok (d, dev) =>
    -- `err` is still 0 after a failing `chain_create`
    if !env.chainCreate then return (s, 0)
    let dp : Datapath := {
      dpIdx := i, netdev := some d, ports := fun _ => none
      portList := [], localPort := none, flags := 0, missSendLen := 0 }
    let s1 := { s with dpHeap := update s.dpHeap a (some dp), devs := update s.devs d (some dev) }
    let (s2, r) ← newNbp s1 a d ofppLocal env.portAlloc
    match r with
    -- the unwinding passes the error pointer in `dp->local_port` to `dp_del_switch_port`
    | .error _ => .error .badDeref
    | .ok p =>
      -- a failing `kthread_run` unwinds past the local port, which stays allocated and bound
      if !env.kthreadRun then
        return ({ s2 with devs := update s2.devs d none, dpHeap := update s2.dpHeap a none }, 0)
      let dp ← deref (s2.dpHeap a)
      return ({ s2 with
        dpHeap := update s2.dpHeap a (some { dp with localPort := some p, missSendLen := 128 })
        dps := update s2.dps i (some a)
        moduleRefs := s2.moduleRefs + 1 }, 0)

/-- `del_dp` past `kthread_stop`: the ports, the `dps` slot, the device, the record. -/
def delDp (s : Sys) (a : DpRef) : K Sys := do
  let dp ← deref (s.dpHeap a)
  let s ← dp.portList.foldlM dpDelSwitchPort s
  let d ← deref dp.netdev
  return { s with
    dps := update s.dps dp.dpIdx none
    -- `dp_dev_destroy`, modelled from the spec: the device is unregistered
    devs := update s.devs d none
    dpHeap := update s.dpHeap a none
    moduleRefs := s.moduleRefs - 1 }

/-- `del_dp` in full, with `kthread_stop` under the schedule `acts`; `none` while it waits. -/
def delDpStopping (s : Sys) (a : DpRef) (th : MaintState) (acts : List MaintActor) :
    K (Option Sys) :=
  if (maintRun th acts).stop = .stopped then some <$> delDp s a else pure none

structure PortMod where
  portNo : Nat
  hwAddr : List UInt8
  config : UInt32
  mask : UInt32

def dpUpdatePortFlags (s : Sys) (a : DpRef) (opm : PortMod) : K (Sys × Int) := do
  let dp ← deref (s.dpHeap a)
  let some p := lookupPort dp opm.portNo | return (s, -1)
  let port ← deref (s.portHeap p)
  let dev ← deref (s.devs port.dev)
  if opm.hwAddr.take 6 ≠ dev.devAddr.take 6 then return (s, -1)
  if opm.mask = 0 then return (s, 0)
  let config := port.config &&& ~~~opm.mask ||| opm.config &&& opm.mask
  return ({ s with portHeap := update s.portHeap p (some { port with config }) }, 0)

/-- A request's attributes; names are strings, so `VERIFY_NUL_STRING` never fails here. -/
structure Attrs where
  dpIdx : Option UInt32
  dpName : Option String
  portName : Option String

/-- `attr ? nla_get_u32(attr) : -1` stored in an `int`: the `u32` wraps. -/
def Attrs.idx (attrs : Attrs) : Int :=
  match attrs.dpIdx with
  | some v => if v.toNat < 2 ^ 31 then v.toNat else v.toNat - 2 ^ 32
  | none => -1

def netdevName (s : Sys) (a : DpRef) : K String := do
  let dp ← deref (s.dpHeap a)
  let d ← deref dp.netdev
  let dev ← deref (s.devs d)
  return dev.name

def dpGetByName (s : Sys) (name : String) : K (Option DpRef) :=
  (List.range dpMax).findSomeM? fun i =>
    match s.dps i with
    | none => pure none
    | some a => do return if (← netdevName s a) = name then some a else none

def lookupDp (s : Sys) (attrs : Attrs) : K (Except Int DpRef) := do
  if attrs.idx ≠ -1 then
    match dpGetByIdx s attrs.idx with
    | none => return .error (-enoent)
    | some a =>
      match attrs.dpName with
      | some name => return if (← netdevName s a) ≠ name then .error (-einval) else .ok a
      | none => return .ok a
  else
    match attrs.dpName with
    | some name => return match ← dpGetByName s name with
      | some a => .ok a
      | none => .error (-enoent)
    | none => return .error (-einval)

def dpGenlAdd (s : Sys) (attrs : Attrs) (env : NewDpEnv) : K (Sys × Int) :=
  if attrs.idx = -1 ∧ attrs.dpName.isNone then pure (s, -einval)
  else newDp s attrs.idx attrs.dpName env

/-- `dp_genl_del` with `del_dp` past `kthread_stop` (`dpGenlDelStopping_stopped`). -/
def dpGenlDel (s : Sys) (attrs : Attrs) : K (Sys × Int) := do
  match ← lookupDp s attrs with
  | .error e => return (s, e)
  | .ok a => return (← delDp s a, 0)

/-- `dp_genl_del` with `del_dp` in full; `none` while its `kthread_stop` waits. -/
def dpGenlDelStopping (s : Sys) (attrs : Attrs) (th : MaintState) (acts : List MaintActor) :
    K (Option (Sys × Int)) := do
  match ← lookupDp s attrs with
  | .error e => return some (s, e)
  | .ok a => return (← delDpStopping s a th acts).map fun s' => (s', 0)

/-- `dp_genl_add_del_port`; `dev` is what `dev_get_by_name` finds under the port name. -/
def dpGenlAddDelPort (s : Sys) (add : Bool) (attrs : Attrs) (dev : Option DevId)
    (alloc : Option PortRef) : K (Sys × Int) := do
  if attrs.portName.isNone then return (s, -einval)
  match ← lookupDp s attrs with
  | .error e => return (s, e)
  | .ok a =>
    let some d := dev | return (s, -enoent)
    if add then addSwitchPort s a d alloc
    else
      let D ← deref (s.devs d)
      match D.brPort with
      | none => return (s, -enoent)
      | some p =>
        let port ← deref (s.portHeap p)
        if port.dp ≠ a then return (s, -enoent)
        return (← dpDelSwitchPort s p, 0)

inductive AdminOp where
  | addDp (attrs : Attrs) (env : NewDpEnv)
  | delDp (attrs : Attrs)
  | addPort (attrs : Attrs) (dev : Option DevId) (alloc : Option PortRef)
  | delPort (attrs : Attrs) (dev : Option DevId)
  | portMod (dpIdx : UInt32) (opm : PortMod)

def adminStep (s : Sys) : AdminOp → K (Sys × Int)
  | .addDp attrs env => dpGenlAdd s attrs env
  | .delDp attrs => dpGenlDel s attrs
  | .addPort attrs dev alloc => dpGenlAddDelPort s true attrs dev alloc
  | .delPort attrs dev => dpGenlAddDelPort s false attrs dev none
  | .portMod i opm =>
    match dpGetByIdx s ({ dpIdx := some i, dpName := none, portName := none } : Attrs).idx with
    | none => pure (s, -enoent)
    | some a => dpUpdatePortFlags s a opm

def AdminOp.Env (s : Sys) : AdminOp → Prop
  | .addDp _ env =>
    (∀ a, env.dpAlloc = some a → s.dpHeap a = none) ∧
    (∀ d dev, env.devSetup = .ok (d, dev) → s.devs d = none) ∧
    (∀ p, env.portAlloc = some p → s.portHeap p = none)
  | .addPort _ dev alloc =>
    (∀ d, dev = some d → (s.devs d).isSome) ∧ (∀ p, alloc = some p → s.portHeap p = none)
  | .delPort _ dev => ∀ d, dev = some d → (s.devs d).isSome
  | _ => True

/-- The states reachable from module load by requests that return. -/
inductive Reach : Sys → Prop where
  | boot (devs : DevId → Option NetDevice) (h : ∀ d dev, devs d = some dev → dev.brPort = none) :
      Reach {
        dps := fun _ => none, dpHeap := fun _ => none, portHeap := fun _ => none
        devs, moduleRefs := 0 }
  | step {s s' : Sys} {op : AdminOp} {r : Int} :
      Reach s → op.Env s → adminStep s op = .ok (s', r) → Reach s'

end OpenflowDatapath
