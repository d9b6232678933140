import OpenflowDatapath.Forward.Output

/-! # Adding a port while frames arrive

`add_switch_port` runs under RTNL and `dp_mutex`, but frames arrive on the device under
`rcu_read_lock` only, so the receive path interleaves with it statement by statement. A run is
a schedule of steps of the admin thread and of the frames, and it leaves a trace: `new_nbp`
publishing `dev->br_port`, `dp_frame_hook` taking a frame, and the messages to the
controller, `PORT_STATUS` and `PACKET_IN`, in the order they are sent.

The admin thread's statements run back to back are `add_switch_port`'s success path
(`addStmts_attachPort`). A frame that arrives after `dev->br_port` is published and before
`dp_send_port_status` reaches the controller first (`packetIn_before_portStatus`); what every
interleaving keeps is `packetIn_after_reception`.
-/

namespace OpenflowDatapath

open Function

/-- An `ADD_PORT` of device `d` as port `portNo` at `p`; `toController` stands for the chain. -/
structure RaceEnv where
  a : DpRef
  d : DevId
  portNo : Nat
  p : PortRef
  statusSent : Bool
  toController : Nat → Bool

/-- Where a frame received on the device is. -/
inductive RxPc where
  -- In the driver: `handle_bridge` has not read `dev->br_port` yet.
  | arriving
  -- `dev->br_port` was null: the frame went up the stack.
  | stack
  -- `dp_frame_hook` took it, and `fwd_port_input` runs it through the chain.
  | hooked
  -- The chain sends it to the controller: `dp_output_control`.
  | control
  | done
  deriving DecidableEq, Repr

inductive RaceEvent where
  -- `new_nbp` publishes `dev->br_port`.
  | published
  -- `dp_frame_hook` takes frame `f`.
  | received (f : Nat)
  -- `dp_send_port_status(p, OFPPR_ADD)` multicasts a `PORT_STATUS` for port `portNo`.
  | portStatus (portNo : Nat)
  -- `dp_output_control` sends a `PACKET_IN` for frame `f` with this `in_port`.
  | packetIn (f : Nat) (inPort : Nat)
  deriving DecidableEq, Repr

structure RaceState where
  sys : Sys
  pc : Nat
  rx : Nat → RxPc
  trace : List RaceEvent

inductive Actor where
  | admin
  | frame (f : Nat)
  deriving DecidableEq, Repr

def publishBrPort (env : RaceEnv) (s : Sys) : Sys :=
  { s with
    devs := update s.devs env.d ((s.devs env.d).map fun dev => { dev with
      promiscuity := dev.promiscuity + 1, refcnt := dev.refcnt + 1
      brPort := if env.portNo ≠ ofppLocal then some env.p else dev.brPort })
    portHeap := update s.portHeap env.p (some ⟨env.a, env.d, env.portNo, 0, 0⟩) }

def publishSlot (env : RaceEnv) (s : Sys) : Sys :=
  { s with dpHeap := update s.dpHeap env.a ((s.dpHeap env.a).map fun dp => { dp with
      ports := if env.portNo < dpMaxPorts then update dp.ports env.portNo (some env.p)
        else dp.ports }) }

def publishListEntry (env : RaceEnv) (s : Sys) : Sys :=
  { s with dpHeap := update s.dpHeap env.a ((s.dpHeap env.a).map fun dp => { dp with
      portList := env.p :: dp.portList }) }

def packetInPort (s : Sys) (d : DevId) (f : Nat) : Option Nat :=
  match dpOutputControl ⟨fun _ => true, fun _ => 0, fun _ => 0, fun _ => 0⟩ s
      ⟨f, some d, 0, false, false⟩ ⟨[], 0, 0⟩ with
  | .ok (_, ⟨[.control _ n], _, _⟩) => some n
  | _ => none

/-- One step of an actor, `none` when it has none left. -/
def raceStep (env : RaceEnv) (st : RaceState) : Actor → Option RaceState
  | .admin =>
    match st.pc with
    | 0 => some { st with
        sys := publishBrPort env st.sys
        pc := 1
        trace := st.trace ++ [.published] }
    | 1 => some { st with sys := publishSlot env st.sys, pc := 2 }
    | 2 => some { st with sys := publishListEntry env st.sys, pc := 3 }
    | 3 => (initPortStatus st.sys env.p).toOption.map fun s => { st with sys := s, pc := 4 }
    | 4 => some { st with
        pc := 5
        trace := if env.statusSent then st.trace ++ [.portStatus env.portNo] else st.trace }
    | _ => none
  | .frame f =>
    match st.rx f with
    | .arriving =>
      match (st.sys.devs env.d).bind (·.brPort) with
      | none => some { st with rx := update st.rx f .stack }
      | some _ => some { st with rx := update st.rx f .hooked, trace := st.trace ++ [.received f] }
    | .hooked =>
      some { st with rx := update st.rx f (if env.toController f then .control else .done) }
    | .control => (packetInPort st.sys env.d f).map fun n => { st with
        rx := update st.rx f .done
        trace := st.trace ++ [.packetIn f n] }
    | _ => none

def raceRun (env : RaceEnv) : RaceState → List Actor → Option RaceState
  | st, [] => some st
  | st, a :: as => (raceStep env st a).bind (raceRun env · as)

def raceInit (s : Sys) : RaceState := ⟨s, 0, fun _ => .arriving, []⟩

theorem publish_attachPort {env : RaceEnv} {s : Sys} {dev : NetDevice} {dp : Datapath}
    (hd : s.devs env.d = some dev) (hdp : s.dpHeap env.a = some dp) :
    publishListEntry env (publishSlot env (publishBrPort env s)) =
      attachPort s env.a dp env.d dev env.portNo env.p := by
  simp only [publishListEntry, publishSlot, publishBrPort, attachPort, hd, hdp, Option.map_some',
    update_same, update_idem]

theorem raceRun_admin {env : RaceEnv} {s s' : Sys} {rx : Nat → RxPc} {t : List RaceEvent}
    {dev : NetDevice} {dp : Datapath} (hd : s.devs env.d = some dev) (hb : dev.brPort = none)
    (hchk : ¬(dev.flags &&& iffLoopback ≠ 0 ∨ dev.type ≠ arphrdEther ∨ dev.isDpDev))
    (hdp : s.dpHeap env.a = some dp) (hno : findPortno dp = some env.portNo)
    (hadd : addSwitchPort s env.a env.d (some env.p) = .ok (s', 0)) :
    raceRun env ⟨s, 0, rx, t⟩ (List.replicate 5 .admin) = some ⟨s', 5, rx,
      t ++ [.published] ++ if env.statusSent then [.portStatus env.portNo] else []⟩ := by
  have hinit : initPortStatus (attachPort s env.a dp env.d dev env.portNo env.p) env.p =
      .ok s' := by
    simp only [addSwitchPort, newNbp, hd, hb, hdp, hno, deref_some, ok_bind, if_neg hchk,
      Option.isSome_none, Bool.false_eq_true, if_false, pure_bind] at hadd
    cases hi : initPortStatus (attachPort s env.a dp env.d dev env.portNo env.p) env.p with
    | error e => rw [hi] at hadd; cases hadd
    | ok s'' => rw [hi] at hadd; cases hadd; rfl
  simp only [List.replicate, raceRun, raceStep, Option.some_bind]
  rw [publish_attachPort hd hdp, hinit]
  cases env.statusSent <;> simp [Except.toOption]

/-- A `PORT_STATUS` and every frame come after the publication, a `PACKET_IN` after its frame. -/
structure Ordered (env : RaceEnv) (t : List RaceEvent) : Prop where
  portStatus : ∀ (i : Nat) n, t[i]? = some (RaceEvent.portStatus n) →
    n = env.portNo ∧ ∃ j < i, t[j]? = some RaceEvent.published
  received : ∀ (k : Nat) f, t[k]? = some (RaceEvent.received f) → ∃ j < k, t[j]? = some RaceEvent.published
  packetIn : ∀ (i : Nat) f n, t[i]? = some (RaceEvent.packetIn f n) →
    n = env.portNo ∧ ∃ k < i, t[k]? = some (RaceEvent.received f)

def RaceEvent.Allowed (env : RaceEnv) (t : List RaceEvent) : RaceEvent → Prop
  | .published => True
  | .received _ => .published ∈ t
  | .portStatus n => n = env.portNo ∧ .published ∈ t
  | .packetIn f n => n = env.portNo ∧ .received f ∈ t

theorem index_of_mem {t : List RaceEvent} {e : RaceEvent} (h : e ∈ t) (u : List RaceEvent) :
    ∃ j < t.length, (t ++ u)[j]? = some e := by
  obtain ⟨j, hj⟩ := List.mem_iff_getElem?.1 h
  have hlt : j < t.length := (List.getElem?_eq_some_iff.1 hj).1
  exact ⟨j, hlt, by rw [List.getElem?_append_left hlt, hj]⟩

theorem getElem?_append_singleton {α : Type} {t : List α} {e x : α} {i : Nat}
    (h : (t ++ [e])[i]? = some x) : (i < t.length ∧ t[i]? = some x) ∨ (i = t.length ∧ x = e) := by
  by_cases hlt : i < t.length
  · rw [List.getElem?_append_left hlt] at h
    exact .inl ⟨hlt, h⟩
  · rw [List.getElem?_append_right (Nat.le_of_not_lt hlt)] at h
    match hi : i - t.length, h with
    | 0, h => exact .inr ⟨by omega, (Option.some.inj h).symm⟩

theorem Ordered.nil (env : RaceEnv) : Ordered env [] :=
  ⟨nofun, nofun, nofun⟩

theorem Ordered.append {env : RaceEnv} {t : List RaceEvent} {e : RaceEvent} (h : Ordered env t)
    (he : e.Allowed env t) : Ordered env (t ++ [e]) where
  portStatus i n hi := by
    rcases getElem?_append_singleton hi with ⟨hlt, hi⟩ | ⟨rfl, rfl⟩
    · obtain ⟨hn, j, hj, hj'⟩ := h.portStatus i n hi
      exact ⟨hn, j, hj, by rw [List.getElem?_append_left (by omega), hj']⟩
    · exact ⟨he.1, index_of_mem he.2 _⟩
  received k f hk := by
    rcases getElem?_append_singleton hk with ⟨hlt, hk⟩ | ⟨rfl, rfl⟩
    · obtain ⟨j, hj, hj'⟩ := h.received k f hk
      exact ⟨j, hj, by rw [List.getElem?_append_left (by omega), hj']⟩
    · exact index_of_mem he _
  packetIn i f n hi := by
    rcases getElem?_append_singleton hi with ⟨hlt, hi⟩ | ⟨rfl, rfl⟩
    · obtain ⟨hn, k, hk, hk'⟩ := h.packetIn i f n hi
      exact ⟨hn, k, hk, by rw [List.getElem?_append_left (by omega), hk']⟩
    · exact ⟨he.1, index_of_mem he.2 _⟩

structure RaceStart (env : RaceEnv) (s : Sys) : Prop where
  dev : ∃ dev, s.devs env.d = some dev ∧ dev.brPort = none
  slot : env.portNo < dpMaxPorts

structure RaceInv (env : RaceEnv) (st : RaceState) : Prop where
  unpublished : st.pc = 0 → ∃ dev, st.sys.devs env.d = some dev ∧ dev.brPort = none
  published : 1 ≤ st.pc → .published ∈ st.trace ∧ ∃ dev port, st.sys.devs env.d = some dev ∧
    dev.brPort = some env.p ∧ st.sys.portHeap env.p = some port ∧ port.portNo = env.portNo
  inside : ∀ f, st.rx f = .hooked ∨ st.rx f = .control → 1 ≤ st.pc ∧ .received f ∈ st.trace
  ordered : Ordered env st.trace

theorem RaceInv.init {env : RaceEnv} {s : Sys} (hs : RaceStart env s) :
    RaceInv env (raceInit s) where
  unpublished _ := hs.dev
  published h := absurd h (by show ¬1 ≤ 0; decide)
  inside _ h := by rcases h with h | h <;> cases h
  ordered := .nil env

theorem packetInPort_of_brPort {s : Sys} {d : DevId} {f : Nat} {dev : NetDevice} {q : PortRef}
    {port : BridgePort} (hd : s.devs d = some dev) (hb : dev.brPort = some q)
    (hq : s.portHeap q = some port) : packetInPort s d f = some port.portNo := by
  simp only [packetInPort, dpOutputControl, derefO, hd, hb, hq, bind, StateT.bind, emit, pure,
    StateT.pure, Except.bind, Except.pure]
  rfl

theorem initPortStatus_portNo {s s' : Sys} {p : PortRef} (h : initPortStatus s p = .ok s') :
    s'.devs = s.devs ∧ ∀ port, s.portHeap p = some port →
      ∃ port', s'.portHeap p = some port' ∧ port'.portNo = port.portNo := by
  obtain ⟨port, hp, h⟩ := bind_eq_ok.1 h
  obtain ⟨dev, -, h⟩ := bind_eq_ok.1 h
  cases h
  refine ⟨rfl, fun port' hp' => ?_⟩
  rw [deref_eq_ok.1 hp] at hp'
  cases hp'
  exact ⟨_, update_same _ _ _, rfl⟩

section Step

variable {env : RaceEnv} {st st' : RaceState}

theorem raceStep_admin_inv (hslot : env.portNo < dpMaxPorts) (hinv : RaceInv env st)
    (h : raceStep env st .admin = some st') : RaceInv env st' := by
  have hkeep : ∀ {s : Sys} {pc : Nat}, 1 ≤ st.pc → st.pc ≤ pc → s.devs = st.sys.devs →
      (∀ port, st.sys.portHeap env.p = some port →
        ∃ port', s.portHeap env.p = some port' ∧ port'.portNo = port.portNo) →
      RaceInv env { st with sys := s, pc := pc } := by
    intro s pc h1 hle hdevs hport
    obtain ⟨hpub, dev, port, hd, hb, hp, hn⟩ := hinv.published h1
    obtain ⟨port', hp', hn'⟩ := hport port hp
    refine ⟨fun h0 => ?_, fun _ => ⟨hpub, dev, port', hdevs ▸ hd, hb, hp', hn'.trans hn⟩,
      fun f hf => ⟨?_, (hinv.inside f hf).2⟩, hinv.ordered⟩
    · dsimp only at h0
      omega
    · dsimp only
      omega
  dsimp only [raceStep] at h
  match hpc : st.pc, h with
  | 0, h =>
    cases h
    obtain ⟨dev, hd, hb⟩ := hinv.unpublished hpc
    have hne : env.portNo ≠ ofppLocal := by simp only [dpMaxPorts, ofppLocal] at hslot ⊢; omega
    refine ⟨nofun, fun _ => ⟨List.mem_append_right _ (List.mem_singleton_self _),
      { dev with
        promiscuity := dev.promiscuity + 1, refcnt := dev.refcnt + 1
        brPort := some env.p }, ⟨env.a, env.d, env.portNo, 0, 0⟩,
      by simp only [publishBrPort, update_same, hd, Option.map_some', if_pos hne], rfl,
      update_same _ _ _, rfl⟩, fun f hf => ?_, hinv.ordered.append trivial⟩
    have := (hinv.inside f hf).1
    omega
  | 1, h | 2, h =>
    cases h
    exact hkeep (by omega) (by omega) rfl fun port hp => ⟨port, hp, rfl⟩
  | 3, h =>
    obtain ⟨s, hs, h⟩ := Option.map_eq_some'.1 h
    cases h
    cases hinit : initPortStatus st.sys env.p with
    | error => rw [hinit] at hs; cases hs
    | ok s' =>
      rw [hinit] at hs
      cases hs
      exact hkeep (by omega) (by omega) (initPortStatus_portNo hinit).1
        (initPortStatus_portNo hinit).2
  | 4, h =>
    cases h
    have h1 : 1 ≤ st.pc := by omega
    obtain ⟨hpub, hrest⟩ := hinv.published h1
    split
    · refine ⟨nofun, fun _ => ⟨List.mem_append_left _ hpub, hrest⟩,
        fun f hf => ⟨by show 1 ≤ 5; decide, List.mem_append_left _ (hinv.inside f hf).2⟩,
        hinv.ordered.append (e := .portStatus env.portNo) ⟨rfl, hpub⟩⟩
    · exact hkeep h1 (by omega) rfl fun port hp => ⟨port, hp, rfl⟩
  | _ + 5, h => cases h

theorem inside_update {rx : Nat → RxPc} {f : Nat} {r : RxPc} {pc : Nat} {t : List RaceEvent}
    (hold : ∀ g, g ≠ f → rx g = .hooked ∨ rx g = .control → 1 ≤ pc ∧ .received g ∈ t)
    (hnew : r = .hooked ∨ r = .control → 1 ≤ pc ∧ .received f ∈ t) (g : Nat)
    (hg : update rx f r g = .hooked ∨ update rx f r g = .control) :
    1 ≤ pc ∧ .received g ∈ t := by
  by_cases hgf : g = f
  · subst hgf
    rw [update_same] at hg
    exact hnew hg
  · rw [update_noteq hgf] at hg
    exact hold g hgf hg

theorem raceStep_frame_inv {f : Nat} (hinv : RaceInv env st)
    (h : raceStep env st (.frame f) = some st') : RaceInv env st' := by
  have hold : ∀ {t : List RaceEvent}, st.trace ⊆ t → ∀ g, g ≠ f →
      st.rx g = .hooked ∨ st.rx g = .control → 1 ≤ st.pc ∧ .received g ∈ t :=
    fun ht g _ hg => ⟨(hinv.inside g hg).1, ht (hinv.inside g hg).2⟩
  dsimp only [raceStep] at h
  match hrx : st.rx f, h with
  | .arriving, h =>
    match hq : (st.sys.devs env.d).bind (·.brPort), h with
    | none, h =>
      cases h
      exact ⟨hinv.unpublished, hinv.published,
        inside_update (hold (List.Subset.refl _)) (by rintro (h | h) <;> cases h), hinv.ordered⟩
    | some q, h =>
      cases h
      have h1 : 1 ≤ st.pc := by
        refine Nat.one_le_iff_ne_zero.2 fun h0 => ?_
        obtain ⟨dev, hd, hb⟩ := hinv.unpublished h0
        simp only [hd, hb, Option.some_bind] at hq
        cases hq
      obtain ⟨hpub, hrest⟩ := hinv.published h1
      exact ⟨fun h0 => absurd h0 (Nat.one_le_iff_ne_zero.1 h1),
        fun _ => ⟨List.mem_append_left _ hpub, hrest⟩,
        inside_update (hold (List.subset_append_left _ _))
          fun _ => ⟨h1, List.mem_append_right _ (List.mem_singleton_self _)⟩,
        hinv.ordered.append (e := .received f) hpub⟩
  | .hooked, h =>
    cases h
    exact ⟨hinv.unpublished, hinv.published,
      inside_update (hold (List.Subset.refl _)) fun _ => hinv.inside f (.inl hrx), hinv.ordered⟩
  | .control, h =>
    obtain ⟨n, hn, h⟩ := Option.map_eq_some'.1 h
    cases h
    obtain ⟨h1, hrec⟩ := hinv.inside f (.inr hrx)
    obtain ⟨hpub, dev, port, hd, hb, hp, hno⟩ := hinv.published h1
    rw [packetInPort_of_brPort hd hb hp, Option.some.injEq] at hn
    subst hn
    exact ⟨hinv.unpublished, fun _ => ⟨List.mem_append_left _ hpub, dev, port, hd, hb, hp, hno⟩,
      inside_update (hold (List.subset_append_left _ _)) (by rintro (h | h) <;> cases h),
      hinv.ordered.append (e := .packetIn f port.portNo) ⟨hno, hrec⟩⟩
  | .stack, h => cases h
  | .done, h => cases h

theorem raceStep_inv {a : Actor} (hslot : env.portNo < dpMaxPorts) (hinv : RaceInv env st)
    (h : raceStep env st a = some st') : RaceInv env st' := by
  cases a with
  | admin => exact raceStep_admin_inv hslot hinv h
  | frame f => exact raceStep_frame_inv hinv h

theorem raceRun_inv {σ : List Actor} (hslot : env.portNo < dpMaxPorts) (hinv : RaceInv env st)
    (h : raceRun env st σ = some st') : RaceInv env st' := by
  induction σ generalizing st with
  | nil =>
    cases h
    exact hinv
  | cons a as ih =>
    obtain ⟨st1, h1, h⟩ := Option.bind_eq_some.1 h
    exact ih (raceStep_inv hslot hinv h1) h

end Step

/-- In every interleaving, `PORT_STATUS` and `PACKET_IN` report the new port, after publication. -/
theorem packetIn_after_reception {env : RaceEnv} {s : Sys} {σ : List Actor} {st : RaceState}
    (hs : RaceStart env s) (h : raceRun env (raceInit s) σ = some st) :
    (∀ (i : Nat) n, st.trace[i]? = some (.portStatus n) →
      n = env.portNo ∧ ∃ j < i, st.trace[j]? = some .published) ∧
    (∀ (i : Nat) f n, st.trace[i]? = some (.packetIn f n) → n = env.portNo ∧
      ∃ k < i, st.trace[k]? = some (.received f) ∧ ∃ j < k, st.trace[j]? = some .published) ∧
    (∀ (i : Nat) f n (j : Nat), st.trace[i]? = some (.packetIn f n) →
      st.trace[j]? = some (.portStatus env.portNo) →
      (∀ (k : Nat), st.trace[k]? = some (.received f) → j < k) → j < i) := by
  have ho := (raceRun_inv hs.slot (.init hs) h).ordered
  have hpi : ∀ (i : Nat) f n, st.trace[i]? = some (.packetIn f n) → n = env.portNo ∧
      ∃ k < i, st.trace[k]? = some (.received f) ∧ ∃ j < k, st.trace[j]? = some .published := by
    intro i f n hi
    obtain ⟨hn, k, hk, hk'⟩ := ho.packetIn i f n hi
    exact ⟨hn, k, hk, hk', ho.received k f hk'⟩
  refine ⟨ho.portStatus, hpi, fun i f n j hi _ hlate => ?_⟩
  obtain ⟨-, k, hk, hk', -⟩ := hpi i f n hi
  exact Nat.lt_trans (hlate k hk') hk

def addEth0Race : RaceEnv := ⟨0, 0, 1, 1, true, fun _ => true⟩

def eth0Window : List Actor :=
  [.admin, .frame 0, .frame 0, .frame 0, .admin, .admin, .admin, .admin]

/-- A frame right after `br_port` is published reaches the controller before the `PORT_STATUS`. -/
theorem packetIn_before_portStatus :
    (raceRun addEth0Race (raceInit dp0Sys) eth0Window).map (·.trace) =
      some [.published, .received 0, .packetIn 0 1, .portStatus 1] := rfl

theorem packetIn_after_reception_eth0 :
    RaceStart addEth0Race dp0Sys ∧ ∃ st, raceRun addEth0Race (raceInit dp0Sys) eth0Window = some st ∧
      (∀ (i : Nat) n, st.trace[i]? = some (.portStatus n) →
        n = addEth0Race.portNo ∧ ∃ j < i, st.trace[j]? = some .published) ∧
      (∀ (i : Nat) f n, st.trace[i]? = some (.packetIn f n) → n = addEth0Race.portNo ∧
        ∃ k < i, st.trace[k]? = some (.received f) ∧ ∃ j < k, st.trace[j]? = some .published) ∧
      (∀ (i : Nat) f n (j : Nat), st.trace[i]? = some (.packetIn f n) →
        st.trace[j]? = some (.portStatus addEth0Race.portNo) →
        (∀ (k : Nat), st.trace[k]? = some (.received f) → j < k) → j < i) :=
  have hs : RaceStart addEth0Race dp0Sys := ⟨⟨eth0, rfl, rfl⟩, by decide⟩
  ⟨hs, _, rfl, packetIn_after_reception (σ := eth0Window) hs rfl⟩

end OpenflowDatapath
