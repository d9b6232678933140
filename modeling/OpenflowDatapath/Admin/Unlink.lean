import OpenflowDatapath.Admin.Race
import OpenflowDatapath.Control.PacketIn

/-! # Deleting a port while frames pass through it

`dp_del_switch_port` unpublishes the port from `port_list`, `ports[]` and `dev->br_port`,
waits in `synchronize_rcu` for the read-side sections that began before it to end, and only
then sends `PORT_STATUS(DELETE)` and frees the port. A frame arriving on the device runs under
`rcu_read_lock` from the driver's `handle_bridge` through `dp_frame_hook`, the chain and
`dp_output_control`. A run is a schedule of steps of the deleting thread and of the frames.
The grace period is the list of frames inside a read-side section when `synchronize_rcu`
starts, and `synchronize_rcu` returns only once each of them has left it. `del_dp` deletes
each of its ports with the same steps.

The deleting thread alone runs `dp_del_switch_port` (`unlinkRun_admin`). In every
interleaving, a `PACKET_IN` whose `in_port` was read through the deleted port is sent before
that port's `PORT_STATUS(DELETE)` (`packetIn_before_portDelete`).
-/

namespace OpenflowDatapath

open Function

structure UnlinkEnv where
  d : DevId
  p : PortRef
  statusSent : Bool
  toController : Nat → Bool

/-- Where a frame is; all but `idle` and `exited` are inside its RCU read-side section. -/
inductive ReaderPc where
  | idle
  -- `rcu_read_lock` taken; `handle_bridge` has not read `dev->br_port` yet.
  | entered
  -- `dp_frame_hook` took the frame.
  | hooked
  -- The chain hands the frame to `dp_output_control`.
  | control
  -- `dp_output_control` read `dev->br_port` as `via` and built the `in_port` from it.
  | resolved (via : Option PortRef) (inPort : Nat)
  -- Done with the frame, still inside the section.
  | leaving
  -- `rcu_read_unlock`.
  | exited
  deriving DecidableEq, Repr

def ReaderPc.inSection : ReaderPc → Bool
  | .idle | .exited => false
  | _ => true

inductive UnlinkEvent where
  -- `dp_output_control` multicasts a `PACKET_IN` for frame `f`, its `in_port` read through `via`
  | packetIn (f : Nat) (via : Option PortRef) (inPort : Nat)
  -- `dp_send_port_status(p, OFPPR_DELETE)` multicasts a `PORT_STATUS`.
  | portDelete (p : PortRef)
  deriving DecidableEq, Repr

structure UnlinkState where
  sys : Sys
  pc : Nat
  entered : List Nat
  grace : List Nat
  rx : Nat → ReaderPc
  trace : List UnlinkEvent

/-- The stores before `synchronize_rcu`; a frame reads only `dev->br_port` of them. -/
def unlinkPort (s : Sys) (p : PortRef) (port : BridgePort) (dev : NetDevice) (dp : Datapath) :
    Sys :=
  { s with
    dpHeap := update s.dpHeap port.dp (some { dp with
      portList := dp.portList.erase p
      ports := if port.portNo ≠ ofppLocal then update dp.ports port.portNo none else dp.ports })
    devs := update s.devs port.dev (some { dev with
      promiscuity := dev.promiscuity - 1, brPort := none }) }

@[simp] theorem unlinkPort_portHeap (s : Sys) (p : PortRef) (port : BridgePort) (dev : NetDevice)
    (dp : Datapath) : (unlinkPort s p port dev dp).portHeap = s.portHeap := rfl

def releasePort (s : Sys) (p : PortRef) (port : BridgePort) (dev : NetDevice) : Sys :=
  { s with
    devs := update s.devs port.dev (some { dev with refcnt := dev.refcnt - 1 })
    portHeap := update s.portHeap p none }

/-- One step of an actor; the grace period ends only once every frame in it has left. -/
def unlinkStep (env : UnlinkEnv) (st : UnlinkState) : Actor → Option UnlinkState
  | .admin =>
    match st.pc with
    | 0 => do
      let port ← st.sys.portHeap env.p
      let dev ← st.sys.devs port.dev
      let dp ← st.sys.dpHeap port.dp
      return { st with sys := unlinkPort st.sys env.p port dev dp, pc := 1 }
    | 1 => some { st with pc := 2, grace := st.entered.filter fun f => (st.rx f).inSection }
    | 2 => if st.grace.all (fun f => st.rx f = .exited) then some { st with pc := 3 } else none
    | 3 => some { st with
        pc := 4
        trace := if env.statusSent then st.trace ++ [.portDelete env.p] else st.trace }
    | 4 => do
      let port ← st.sys.portHeap env.p
      let dev ← st.sys.devs port.dev
      return { st with sys := releasePort st.sys env.p port dev, pc := 5 }
    | _ => none
  | .frame f =>
    match st.rx f with
    | .idle => some { st with rx := update st.rx f .entered, entered := st.entered ++ [f] }
    | .entered =>
      match (st.sys.devs env.d).bind (·.brPort) with
      | none => some { st with rx := update st.rx f .leaving }
      | some _ => some { st with rx := update st.rx f .hooked }
    | .hooked =>
      some { st with rx := update st.rx f (if env.toController f then .control else .leaving) }
    | .control => (Control.inPortOf st.sys (some env.d)).map fun n =>
        { st with rx := update st.rx f (.resolved ((st.sys.devs env.d).bind (·.brPort)) n) }
    | .resolved via n =>
      some { st with rx := update st.rx f .leaving, trace := st.trace ++ [.packetIn f via n] }
    | .leaving => some { st with rx := update st.rx f .exited }
    | .exited => none

def unlinkRun (env : UnlinkEnv) : UnlinkState → List Actor → Option UnlinkState
  | st, [] => some st
  | st, a :: as => (unlinkStep env st a).bind (unlinkRun env · as)

def unlinkInit (s : Sys) : UnlinkState := ⟨s, 0, [], [], fun _ => .idle, []⟩

theorem releasePort_unlinkPort (s : Sys) (p : PortRef) (port : BridgePort) (dev : NetDevice)
    (dp : Datapath) :
    releasePort (unlinkPort s p port dev dp) p port
        { dev with promiscuity := dev.promiscuity - 1, brPort := none } =
      detachPort s p port dev dp := by
  simp only [releasePort, unlinkPort, detachPort, update_idem]

theorem unlinkRun_admin {env : UnlinkEnv} {s s' : Sys} {rx : Nat → ReaderPc}
    {t : List UnlinkEvent} (hdel : dpDelSwitchPort s env.p = .ok s') :
    unlinkRun env ⟨s, 0, [], [], rx, t⟩ (List.replicate 5 .admin) = some ⟨s', 5, [], [], rx,
      t ++ if env.statusSent then [.portDelete env.p] else []⟩ := by
  obtain ⟨port, dev, dp, hp, hdev, hdp, rfl⟩ := dpDelSwitchPort_eq_ok hdel
  have hdev' : (unlinkPort s env.p port dev dp).devs port.dev =
      some { dev with promiscuity := dev.promiscuity - 1, brPort := none } := update_same _ _ _
  simp only [List.replicate, unlinkRun, unlinkStep, hp, hdev, hdp, Option.pure_def,
    Option.bind_eq_bind, Option.some_bind, List.filter_nil, List.all_nil, if_true,
    unlinkPort_portHeap, hdev', releasePort_unlinkPort]
  cases env.statusSent <;> simp

def PacketInFirst (p : PortRef) (t : List UnlinkEvent) : Prop :=
  ∀ (i j : Nat) f n, t[i]? = some (.packetIn f (some p) n) → t[j]? = some (.portDelete p) → i < j

theorem PacketInFirst.append {p : PortRef} {t : List UnlinkEvent} {e : UnlinkEvent}
    (h : PacketInFirst p t) (he : ∀ f n, e = .packetIn f (some p) n → .portDelete p ∉ t) :
    PacketInFirst p (t ++ [e]) := by
  intro i j f n hi hj
  rcases getElem?_append_singleton hi with ⟨hil, hi'⟩ | ⟨rfl, rfl⟩
  · rcases getElem?_append_singleton hj with ⟨-, hj'⟩ | ⟨rfl, -⟩
    · exact h i j f n hi' hj'
    · exact hil
  · rcases getElem?_append_singleton hj with ⟨-, hj'⟩ | ⟨-, hje⟩
    · exact absurd (List.getElem?_mem hj') (he f n rfl)
    · cases hje

structure UnlinkStart (env : UnlinkEnv) (s : Sys) : Prop where
  port : ∃ port, s.portHeap env.p = some port ∧ port.dev = env.d

structure UnlinkInv (env : UnlinkEnv) (st : UnlinkState) : Prop where
  port : st.pc ≤ 4 → ∃ port, st.sys.portHeap env.p = some port ∧ port.dev = env.d
  unbound : 1 ≤ st.pc → (st.sys.devs env.d).bind (·.brPort) = none
  entered : ∀ f, (st.rx f).inSection → f ∈ st.entered
  via : ∀ f n, st.rx f = .resolved (some env.p) n → st.pc ≤ 2 ∧ (st.pc = 2 → f ∈ st.grace)
  graceDone : 3 ≤ st.pc → ∀ f ∈ st.grace, st.rx f = .exited
  deleteLate : .portDelete env.p ∈ st.trace → 4 ≤ st.pc
  ordered : PacketInFirst env.p st.trace

theorem UnlinkInv.init {env : UnlinkEnv} {s : Sys} (hs : UnlinkStart env s) :
    UnlinkInv env (unlinkInit s) where
  port _ := hs.port
  unbound h := (Nat.not_succ_le_zero 0 h).elim
  entered _ h := by cases h
  via _ _ h := by cases h
  graceDone h := (Nat.not_succ_le_zero 2 h).elim
  deleteLate h := by cases h
  ordered _ _ _ _ h := by cases h

section Step

variable {env : UnlinkEnv} {st st' : UnlinkState}

theorem UnlinkInv.frame_update (hinv : UnlinkInv env st) {f : Nat} {r : ReaderPc}
    {E : List Nat} {t : List UnlinkEvent} (hne : st.rx f ≠ .exited) (hE : st.entered ⊆ E)
    (hfE : f ∈ E)
    (hvia : ∀ n, r = .resolved (some env.p) n → st.pc ≤ 2 ∧ (st.pc = 2 → f ∈ st.grace))
    (hlate : .portDelete env.p ∈ t → 4 ≤ st.pc) (hord : PacketInFirst env.p t) :
    UnlinkInv env { st with rx := update st.rx f r, entered := E, trace := t } where
  port := hinv.port
  unbound := hinv.unbound
  entered := (forall_update_iff st.rx fun g r => r.inSection → g ∈ E).2
    ⟨fun _ => hfE, fun g _ hg => hE (hinv.entered g hg)⟩
  via := (forall_update_iff st.rx fun g r =>
      ∀ n, r = .resolved (some env.p) n → st.pc ≤ 2 ∧ (st.pc = 2 → g ∈ st.grace)).2
    ⟨hvia, fun g _ => hinv.via g⟩
  graceDone h := (forall_update_iff st.rx fun g r => g ∈ st.grace → r = .exited).2
    ⟨fun hg => absurd (hinv.graceDone h f hg) hne, fun g _ => hinv.graceDone h g⟩
  deleteLate := hlate
  ordered := hord

theorem unlinkStep_frame_inv {f : Nat} (hinv : UnlinkInv env st)
    (h : unlinkStep env st (.frame f) = some st') : UnlinkInv env st' := by
  have hne : st.rx f ≠ .exited := fun he => by simp [unlinkStep, he] at h
  have hin : (st.rx f).inSection → f ∈ st.entered := hinv.entered f
  -- a step inside the section that does not read the port
  have hstay : ∀ {r : ReaderPc}, (st.rx f).inSection → (∀ n, r ≠ .resolved (some env.p) n) →
      UnlinkInv env { st with rx := update st.rx f r, entered := st.entered, trace := st.trace } :=
    fun hsec hr => hinv.frame_update hne (List.Subset.refl _) (hin hsec)
      (fun n h => absurd h (hr n)) hinv.deleteLate hinv.ordered
  match hrx : st.rx f with
  | .idle =>
    simp only [unlinkStep, hrx, Option.some.injEq] at h
    subst h
    exact hinv.frame_update hne (List.subset_append_left _ _)
      (List.mem_append_right _ (List.mem_singleton_self f)) nofun hinv.deleteLate hinv.ordered
  | .entered =>
    simp only [unlinkStep, hrx] at h
    split at h <;> cases h <;> exact hstay (hrx ▸ rfl) nofun
  | .hooked =>
    simp only [unlinkStep, hrx, Option.some.injEq] at h
    subst h
    exact hstay (hrx ▸ rfl) fun n => by split <;> nofun
  | .control =>
    simp only [unlinkStep, hrx] at h
    obtain ⟨n, -, rfl⟩ := Option.map_eq_some'.1 h
    refine hinv.frame_update hne (List.Subset.refl _) (hin (hrx ▸ rfl)) (fun n' hv => ?_)
      hinv.deleteLate hinv.ordered
    -- `dev->br_port` still reads the port, so the unlink has not happened
    obtain ⟨hb, -⟩ := ReaderPc.resolved.inj hv
    have h0 : st.pc = 0 := by
      by_contra h0
      rw [hinv.unbound (Nat.one_le_iff_ne_zero.2 h0)] at hb
      cases hb
    exact ⟨by omega, fun h2 => absurd h2 (by omega)⟩
  | .resolved via n =>
    simp only [unlinkStep, hrx, Option.some.injEq] at h
    subst h
    refine hinv.frame_update hne (List.Subset.refl _) (hin (hrx ▸ rfl)) nofun (fun hd => ?_)
      (hinv.ordered.append fun f' n' he hd => ?_)
    · rcases List.mem_append.1 hd with hd | hd
      · exact hinv.deleteLate hd
      · simp at hd
    · -- the frame read the port, so the grace period has not ended
      cases he
      have := (hinv.via f n hrx).1
      have := hinv.deleteLate hd
      omega
  | .leaving =>
    simp only [unlinkStep, hrx, Option.some.injEq] at h
    subst h
    exact hstay (hrx ▸ rfl) nofun
  | .exited => exact absurd hrx hne

theorem UnlinkInv.port_dev (hinv : UnlinkInv env st) (hpc : st.pc ≤ 4) {port : BridgePort}
    (hp : st.sys.portHeap env.p = some port) : port.dev = env.d :=
  let ⟨_, hp', hd⟩ := hinv.port hpc
  Option.some.inj (hp.symm.trans hp') ▸ hd

theorem unlinkStep_admin_inv (hinv : UnlinkInv env st)
    (h : unlinkStep env st .admin = some st') : UnlinkInv env st' := by
  match hpc : st.pc with
  | 0 =>
    -- the unlink: `dev->br_port` no longer reads the port
    simp only [unlinkStep, hpc, Option.bind_eq_bind, Option.pure_def, Option.bind_eq_some,
      Option.some.injEq] at h
    obtain ⟨port, hp, dev, -, dp, -, rfl⟩ := h
    have hd := hinv.port_dev (by omega) hp
    exact { hinv with
            port := fun _ => hinv.port (by omega)
            unbound := fun _ => by simp [unlinkPort, ← hd]
            via := fun _ _ _ => by simp
            graceDone := by simp
            deleteLate := fun hd => absurd (hinv.deleteLate hd) (by omega) }
  | 1 =>
    -- `synchronize_rcu` starts: the grace period is every frame inside its section
    simp only [unlinkStep, hpc, Option.some.injEq] at h
    subst h
    exact { hinv with
            port := fun _ => hinv.port (by omega)
            unbound := fun _ => hinv.unbound (by omega)
            via := fun f _ hf => ⟨by simp, fun _ =>
              List.mem_filter.2 ⟨hinv.entered f (by rw [hf]; rfl), by rw [hf]; rfl⟩⟩
            graceDone := by simp
            deleteLate := fun hd => absurd (hinv.deleteLate hd) (by omega) }
  | 2 =>
    -- `synchronize_rcu` returns once every frame of the grace period has left its section
    simp only [unlinkStep, hpc] at h
    split at h
    · rename_i hall
      cases h
      have hexit : ∀ f ∈ st.grace, st.rx f = .exited :=
        fun f hf => of_decide_eq_true (List.all_eq_true.1 hall f hf)
      exact { hinv with
              port := fun _ => hinv.port (by omega)
              unbound := fun _ => hinv.unbound (by omega)
              via := fun f n hf => nomatch hf.symm.trans (hexit f ((hinv.via f n hf).2 hpc))
              graceDone := fun _ => hexit
              deleteLate := fun hd => absurd (hinv.deleteLate hd) (by omega) }
    · cases h
  | 3 =>
    -- `PORT_STATUS(DELETE)`, after the grace period
    simp only [unlinkStep, hpc, Option.some.injEq] at h
    subst h
    refine { hinv with
             port := fun _ => hinv.port (by omega)
             unbound := fun _ => hinv.unbound (by omega)
             via := fun f n hf => absurd (hinv.via f n hf).1 (by omega)
             graceDone := fun _ => hinv.graceDone (by omega)
             deleteLate := fun _ => le_refl 4
             ordered := ?_ }
    split
    · exact hinv.ordered.append nofun
    · exact hinv.ordered
  | 4 =>
    -- the port is freed
    simp only [unlinkStep, hpc, Option.bind_eq_bind, Option.pure_def, Option.bind_eq_some,
      Option.some.injEq] at h
    obtain ⟨port, hp, dev, hdev, rfl⟩ := h
    have hd := hinv.port_dev (by omega) hp
    have hunb := hinv.unbound (by omega)
    rw [← hd, hdev] at hunb
    exact { hinv with
            port := by simp
            unbound := fun _ => by simpa [releasePort, ← hd] using hunb
            via := fun f n hf => absurd (hinv.via f n hf).1 (by omega)
            graceDone := fun _ => hinv.graceDone (by omega)
            deleteLate := fun _ => by simp }
  | _ + 5 => simp [unlinkStep, hpc] at h

theorem unlinkStep_inv {a : Actor} (hinv : UnlinkInv env st)
    (h : unlinkStep env st a = some st') : UnlinkInv env st' := by
  cases a with
  | admin => exact unlinkStep_admin_inv hinv h
  | frame f => exact unlinkStep_frame_inv hinv h

theorem unlinkRun_inv {σ : List Actor} (hinv : UnlinkInv env st)
    (h : unlinkRun env st σ = some st') : UnlinkInv env st' := by
  induction σ generalizing st with
  | nil => cases h; exact hinv
  | cons a σ ih =>
    obtain ⟨st₁, h₁, h⟩ := Option.bind_eq_some.1 h
    exact ih (unlinkStep_inv hinv h₁) h

end Step

/-- A `PACKET_IN` whose `in_port` was read through the port precedes its `PORT_STATUS(DELETE)`. -/
theorem packetIn_before_portDelete {env : UnlinkEnv} {s : Sys} {σ : List Actor}
    {st : UnlinkState} (hs : UnlinkStart env s) (h : unlinkRun env (unlinkInit s) σ = some st) :
    ∀ (i j : Nat) f n, st.trace[i]? = some (.packetIn f (some env.p) n) →
      st.trace[j]? = some (.portDelete env.p) → i < j :=
  (unlinkRun_inv (UnlinkInv.init hs) h).ordered


def demoUnlinkEnv : UnlinkEnv := ⟨0, 1, true, fun _ => true⟩

def demoUnlinkSchedule : List Actor :=
  List.replicate 4 (.frame 0) ++ List.replicate 2 .admin ++ List.replicate 2 (.frame 0) ++
    List.replicate 3 .admin

example : unlinkRun demoUnlinkEnv (unlinkInit demoSys)
    (List.replicate 4 (.frame 0) ++ List.replicate 3 .admin) = none := rfl

theorem demoUnlink_packetIn_first :
    UnlinkStart demoUnlinkEnv demoSys ∧
      ∃ st, unlinkRun demoUnlinkEnv (unlinkInit demoSys) demoUnlinkSchedule = some st ∧
        st.trace = [.packetIn 0 (some 1) 1, .portDelete 1] ∧
        ∀ (i j : Nat) f n, st.trace[i]? = some (.packetIn f (some 1) n) →
          st.trace[j]? = some (.portDelete 1) → i < j :=
  ⟨⟨_, rfl, rfl⟩, _, rfl, rfl,
    @packetIn_before_portDelete demoUnlinkEnv demoSys demoUnlinkSchedule _ ⟨_, rfl, rfl⟩ rfl⟩

end OpenflowDatapath
