import OpenflowDatapath.Admin.Tables

/-! # The life of a datapath

`new_dp` takes a module reference with `try_module_get` and keeps it only when it publishes
the datapath; `del_dp` gives it back with `module_put`. So in every reachable state the module
holds one reference per published datapath. A `dp_genl_del` right after the `dp_genl_add` that
published a datapath restores the state exactly once its `kthread_stop` returns, which it does
on every schedule that keeps the new thread out of the lost wake-up. Every request keeps, on
every device that stays registered, the reference count and the promiscuity less the one each
takes while the device is bound to a port.
-/

namespace OpenflowDatapath

open Function

variable {s s' : Sys}

def leakedState (s : Sys) (a : DpRef) (d : DevId) (p : PortRef) : Sys :=
  { s with
    dpHeap := update s.dpHeap a none
    devs := update s.devs d none
    portHeap := update s.portHeap p (some ⟨a, d, ofppLocal, 0, 0⟩) }

def publishedState (s : Sys) (i : Nat) (a : DpRef) (d : DevId) (dev : NetDevice) (p : PortRef) :
    Sys :=
  { s with
    dps := update s.dps i (some a)
    dpHeap := update s.dpHeap a (some (newDpRecord i d p))
    devs := update s.devs d
      (some { dev with promiscuity := dev.promiscuity + 1, refcnt := dev.refcnt + 1 })
    portHeap := update s.portHeap p (some ⟨a, d, ofppLocal, 0, 0⟩)
    moduleRefs := s.moduleRefs + 1 }

theorem newDp_cases {idx : Int} {name : Option String} {env : NewDpEnv} {r : Int}
    (h : newDp s idx name env = .ok (s', r)) :
    s' = s ∨ ∃ i a d dev p, i < dpMax ∧ s.dps i = none ∧ env.dpAlloc = some a ∧
      dpDevSetup name env.devSetup = .ok (d, dev) ∧ env.portAlloc = some p ∧ r = 0 ∧
      (s' = leakedState s a d p ∨ s' = publishedState s i a d dev p) := by
  simp only [newDp] at h
  generalize (if idx = -1 then genDpIdx s else idx) = I at h
  split at h
  · exact .inl (Prod.mk.inj (pure_eq_ok.1 h)).1.symm
  rename_i hI
  simp only [bind_eq_ok, pure_eq_ok, exists_eq_left', true_and, exists_const] at h
  split at h
  · exact .inl (Prod.mk.inj (pure_eq_ok.1 h)).1.symm
  simp only [bind_eq_ok, pure_eq_ok, exists_eq_left', true_and, exists_const] at h
  split at h
  · exact .inl (Prod.mk.inj (pure_eq_ok.1 h)).1.symm
  rename_i he
  simp only [bind_eq_ok, pure_eq_ok, exists_eq_left', true_and, exists_const] at h
  split at h
  swap
  · exact .inl (Prod.mk.inj (pure_eq_ok.1 h)).1.symm
  rename_i a ha
  split at h
  · exact .inl (Prod.mk.inj (pure_eq_ok.1 h)).1.symm
  rename_i d dev hds
  split at h
  · exact .inl (Prod.mk.inj (pure_eq_ok.1 h)).1.symm
  simp only [bind_eq_ok, pure_eq_ok, exists_eq_left', true_and, exists_const] at h
  obtain ⟨⟨s₂, r₂⟩, hnbp, h⟩ := h
  rcases newNbp_eq_ok hnbp with ⟨rfl, e, rfl⟩ | ⟨dev', dp', p, hdev', -, hp, hdp', rfl, rfl⟩
  · cases h
  simp only [update_same, Option.some.injEq] at hdev' hdp'
  subst hdev' hdp'
  right
  refine ⟨I.toNat, a, d, dev, p, by simp only [not_or] at hI; omega, by simpa using he, ha,
    hds, hp, ?_⟩
  simp only at h
  split at h
  · simp only [pure_eq_ok, Prod.mk.injEq] at h
    obtain ⟨rfl, rfl⟩ := h
    exact ⟨rfl, .inl (by simp only [leakedState, attachPort, update_idem])⟩
  · simp only [bind_eq_ok, pure_eq_ok, exists_eq_left', true_and, exists_const, deref_eq_ok,
      Prod.mk.injEq] at h
    obtain ⟨dpx, hdpx, rfl, rfl⟩ := h
    simp only [attachPort, update_same, Option.some.injEq] at hdpx
    subst hdpx
    exact ⟨rfl, .inr (by simp [publishedState, attachPort, update_idem, newDpRecord, ofppLocal,
      dpMaxPorts])⟩

theorem initPortStatus_eq_ok {p : PortRef} (h : initPortStatus s p = .ok s') :
    ∃ port, s' = { s with portHeap := update s.portHeap p (some port) } := by
  simp only [initPortStatus, bind_eq_ok, deref_eq_ok, pure_eq_ok] at h
  obtain ⟨_, -, _, -, rfl⟩ := h
  exact ⟨_, rfl⟩

theorem dpUpdatePortFlags_eq_ok {a : DpRef} {opm : PortMod} {r : Int}
    (h : dpUpdatePortFlags s a opm = .ok (s', r)) :
    s' = s ∨ ∃ p port, s' = { s with portHeap := update s.portHeap p (some port) } := by
  simp only [dpUpdatePortFlags, bind_eq_ok, deref_eq_ok] at h
  obtain ⟨dp, -, h⟩ := h
  split at h
  · simp only [bind_eq_ok, deref_eq_ok] at h
    obtain ⟨port, -, dev, -, h⟩ := h
    split_ifs at h <;> simp only [bind_eq_ok, pure_eq_ok, Prod.mk.injEq, exists_const, true_and] at h
    · exact .inl h.1.symm
    · exact .inl h.1.symm
    · exact .inr ⟨_, _, h.1.symm⟩
  · exact .inl (Prod.mk.inj (pure_eq_ok.1 h)).1.symm

theorem dpGenlAddDelPort_cases {add : Bool} {attrs : Attrs} {dev : Option DevId}
    {alloc : Option PortRef} {r : Int} (h : dpGenlAddDelPort s add attrs dev alloc = .ok (s', r)) :
    s' = s ∨ ∃ i a d, s.dps i = some a ∧ dev = some d ∧
      ((add = true ∧ addSwitchPort s a d alloc = .ok (s', r)) ∨
       (add = false ∧ ∃ D p, s.devs d = some D ∧ D.brPort = some p ∧
         dpDelSwitchPort s p = .ok s')) := by
  unfold dpGenlAddDelPort at h
  by_cases hname : attrs.portName.isNone
  · rw [if_pos hname] at h
    exact .inl (Prod.mk.inj (pure_eq_ok.1 h)).1.symm
  simp only [if_neg hname, bind_eq_ok, pure_eq_ok, exists_eq_left', true_and, exists_const] at h
  obtain ⟨l, hl, h⟩ := h
  split at h
  · exact .inl (Prod.mk.inj (pure_eq_ok.1 h)).1.symm
  rename_i a
  obtain ⟨i, hi⟩ := lookupDp_eq_ok hl
  obtain _ | d := dev
  · exact .inl (Prod.mk.inj (pure_eq_ok.1 h)).1.symm
  cases add
  · simp only [Bool.false_eq_true, if_false, bind_eq_ok, deref_eq_ok] at h
    obtain ⟨D, hD, h⟩ := h
    split at h
    · exact .inl (Prod.mk.inj (pure_eq_ok.1 h)).1.symm
    rename_i p hp
    simp only [bind_eq_ok, deref_eq_ok] at h
    obtain ⟨port, -, h⟩ := h
    split at h
    · exact .inl (Prod.mk.inj (pure_eq_ok.1 h)).1.symm
    simp only [bind_eq_ok, pure_eq_ok, Prod.mk.injEq, exists_eq_left', true_and,
      exists_const] at h
    obtain ⟨s₁, hdel, rfl, -⟩ := h
    exact .inr ⟨i, a, d, hi, rfl, .inr ⟨rfl, D, p, hD, hp, hdel⟩⟩
  · exact .inr ⟨i, a, d, hi, rfl, .inl ⟨rfl, h⟩⟩

def publishedIdx (dps : Nat → Option DpRef) : Finset Nat :=
  (Finset.range dpMax).filter fun i => (dps i).isSome

theorem card_publishedIdx_publish {dps : Nat → Option DpRef} {i : Nat} {a : DpRef}
    (hi : i < dpMax) (hfree : dps i = none) :
    (publishedIdx (update dps i (some a))).card = (publishedIdx dps).card + 1 := by
  have heq : publishedIdx (update dps i (some a)) = insert i (publishedIdx dps) := by
    ext j
    by_cases hj : j = i
    · subst hj; simp [publishedIdx, hi]
    · simp [publishedIdx, hj]
  rw [heq, Finset.card_insert_of_not_mem (by simp [publishedIdx, hfree])]

theorem card_publishedIdx_clear {dps : Nat → Option DpRef} {i : Nat} {a : DpRef}
    (hi : i < dpMax) (ha : dps i = some a) :
    (publishedIdx (update dps i none)).card + 1 = (publishedIdx dps).card := by
  have heq : publishedIdx (update dps i none) = (publishedIdx dps).erase i := by
    ext j
    by_cases hj : j = i
    · subst hj; simp [publishedIdx]
    · simp [publishedIdx, hj]
  rw [heq, Finset.card_erase_add_one (by simp [publishedIdx, hi, ha])]

/-- The module holds one reference per published datapath. -/
def RefsCounted (s : Sys) : Prop := s.moduleRefs = (publishedIdx s.dps).card

theorem RefsCounted.of_eq (h : RefsCounted s) (hdps : s'.dps = s.dps)
    (hrefs : s'.moduleRefs = s.moduleRefs) : RefsCounted s' := by
  rw [RefsCounted, hdps, hrefs]
  exact h

theorem RefsCounted.newDp (h : RefsCounted s) {idx : Int} {name : Option String}
    {env : NewDpEnv} {r : Int} (hnew : newDp s idx name env = .ok (s', r)) : RefsCounted s' := by
  rcases newDp_cases hnew with rfl | ⟨i, a, d, dev, p, hi, hfree, -, -, -, -, rfl | rfl⟩
  · exact h
  · exact h.of_eq rfl rfl
  · simp only [RefsCounted, publishedState, card_publishedIdx_publish hi hfree]
    rw [h]

theorem foldlM_dpDelSwitchPort_registry :
    ∀ {l : List PortRef} {s : Sys}, l.foldlM dpDelSwitchPort s = .ok s' →
      s'.dps = s.dps ∧ s'.moduleRefs = s.moduleRefs
  | [], _, h => by cases h; exact ⟨rfl, rfl⟩
  | q :: l, s, h => by
    simp only [List.foldlM_cons, bind_eq_ok] at h
    obtain ⟨s₁, h₁, h⟩ := h
    obtain ⟨_, _, _, -, -, -, rfl⟩ := dpDelSwitchPort_eq_ok h₁
    obtain ⟨hdps, hrefs⟩ := foldlM_dpDelSwitchPort_registry h
    exact ⟨hdps, hrefs⟩

theorem RefsCounted.delDp (h : RefsCounted s) (hs : Inv s) {i : Nat} {a : DpRef}
    (hi : s.dps i = some a) (hdel : delDp s a = .ok s') : RefsCounted s' := by
  simp only [OpenflowDatapath.delDp, bind_eq_ok, deref_eq_ok, pure_eq_ok] at hdel
  obtain ⟨dp, hdp, s₁, hrun, d, -, rfl⟩ := hdel
  obtain ⟨hdps, hrefs⟩ := foldlM_dpDelSwitchPort_registry hrun
  obtain ⟨dp', hdp', hidx⟩ := hs.dpsIdx i a hi
  rw [hdp] at hdp'
  cases hdp'
  have hlt : i < dpMax := Nat.lt_of_not_le fun hle => by simp [hs.dpsRange i hle] at hi
  have hcard := card_publishedIdx_clear hlt hi
  unfold RefsCounted at h ⊢
  simp only [hdps, hrefs, hidx, h]
  omega

theorem RefsCounted.adminStep (h : RefsCounted s) (hs : Inv s) {op : AdminOp} {r : Int}
    (hstep : adminStep s op = .ok (s', r)) : RefsCounted s' := by
  cases op with
  | addDp attrs env =>
    simp only [OpenflowDatapath.adminStep, dpGenlAdd] at hstep
    split at hstep
    · exact (Prod.mk.inj (pure_eq_ok.1 hstep)).1 ▸ h
    · exact h.newDp hstep
  | delDp attrs =>
    simp only [OpenflowDatapath.adminStep, dpGenlDel, bind_eq_ok] at hstep
    obtain ⟨l, hl, hstep⟩ := hstep
    split at hstep
    · exact (Prod.mk.inj (pure_eq_ok.1 hstep)).1 ▸ h
    · simp only [bind_eq_ok, pure_eq_ok, Prod.mk.injEq] at hstep
      obtain ⟨s₁, hdel, rfl, -⟩ := hstep
      obtain ⟨i, hi⟩ := lookupDp_eq_ok hl
      exact h.delDp hs hi hdel
  | addPort attrs dev alloc =>
    rcases dpGenlAddDelPort_cases hstep with rfl | ⟨i, a, d, -, -, ⟨-, hadd⟩ | ⟨h', -⟩⟩
    · exact h
    · rcases addSwitchPort_eq_ok hadd with rfl | ⟨_, _, _, _, -, -, -, -, -, -, hinit, -⟩
      · exact h
      · obtain ⟨_, rfl⟩ := initPortStatus_eq_ok hinit
        exact h.of_eq rfl rfl
    · cases h'
  | delPort attrs dev =>
    rcases dpGenlAddDelPort_cases hstep with rfl | ⟨i, a, d, -, -, ⟨h', -⟩ | ⟨-, _, _, -, -, hdel⟩⟩
    · exact h
    · cases h'
    · obtain ⟨_, _, _, -, -, -, rfl⟩ := dpDelSwitchPort_eq_ok hdel
      exact h.of_eq rfl rfl
  | portMod i opm =>
    simp only [OpenflowDatapath.adminStep] at hstep
    split at hstep
    · exact (Prod.mk.inj (pure_eq_ok.1 hstep)).1 ▸ h
    · rcases dpUpdatePortFlags_eq_ok hstep with rfl | ⟨_, _, rfl⟩
      · exact h
      · exact h.of_eq rfl rfl

/-- In every reachable state the module holds one reference per published datapath. -/
theorem moduleRefs_eq_published (hs : Reach s) :
    s.moduleRefs = (publishedIdx s.dps).card := by
  induction hs with
  | boot devs _ => rfl
  | step hr _ hstep ih => exact RefsCounted.adminStep ih hr.inv hstep

theorem demoSys_moduleRefs : Reach demoSys ∧ demoSys.moduleRefs = (publishedIdx demoSys.dps).card :=
  ⟨reach_demoSys, moduleRefs_eq_published reach_demoSys⟩

theorem delDp_publishedState {i : Nat} {a : DpRef} {d : DevId} {dev : NetDevice} {p : PortRef}
    (hi : s.dps i = none) (ha : s.dpHeap a = none) (hd : s.devs d = none)
    (hp : s.portHeap p = none) : delDp (publishedState s i a d dev p) a = .ok s := by
  have hdps : update s.dps i none = s.dps := hi ▸ update_eq_self i s.dps
  have hdh : update s.dpHeap a none = s.dpHeap := ha ▸ update_eq_self a s.dpHeap
  have hdevs : update s.devs d none = s.devs := hd ▸ update_eq_self d s.devs
  have hph : update s.portHeap p none = s.portHeap := hp ▸ update_eq_self p s.portHeap
  simp [OpenflowDatapath.delDp, publishedState, newDpRecord, dpDelSwitchPort, detachPort,
    update_idem, hdps, hdh, hdevs, hph]

theorem lookupDp_idx {attrs : Attrs} {i : Nat} {a : DpRef} (hidx : attrs.idx = i)
    (hname : attrs.dpName = none) (hi : i < dpMax) (ha : s.dps i = some a) :
    lookupDp s attrs = .ok (.ok a) := by
  have hne : (i : Int) ≠ -1 := by omega
  have hpos : ¬(i : Int) < 0 := by omega
  simp [lookupDp, hidx, hname, hne, hpos, dpGetByIdx, ha, Nat.not_le.2 hi]

theorem dpGenlAdd_published {attrs : Attrs} {env : NewDpEnv} {r : Int}
    (henv : (AdminOp.addDp attrs env).Env s) (hadd : dpGenlAdd s attrs env = .ok (s', r))
    {i : Nat} (hi : s.dps i = none) (hpub : (s'.dps i).isSome) {del : Attrs}
    (hidx : del.idx = i) (hname : del.dpName = none) :
    ∃ a, lookupDp s' del = .ok (.ok a) ∧ delDp s' a = .ok s := by
  unfold dpGenlAdd at hadd
  split at hadd
  · cases hadd
    simp [hi] at hpub
  rcases newDp_cases hadd with rfl | ⟨j, a, d, dev, p, hj, -, ha, hds, hp, -, rfl | rfl⟩
  · simp [hi] at hpub
  · simp [leakedState, hi] at hpub
  obtain rfl : j = i := by
    by_contra hne
    simp [publishedState, update_noteq (Ne.symm hne), hi] at hpub
  obtain ⟨dev₀, hsetup, -, -⟩ := dpDevSetup_eq_ok hds
  exact ⟨a, lookupDp_idx hidx hname hj (by simp [publishedState]),
    delDp_publishedState hi (henv.1 a ha) (henv.2.1 d dev₀ hsetup) (henv.2.2 p hp)⟩

/-- `dp_genl_del` undoes `dp_genl_add` on every schedule where its `kthread_stop` returns. -/
theorem dpGenlDel_undoes_dpGenlAdd {attrs : Attrs} {env : NewDpEnv} {r : Int}
    (henv : (AdminOp.addDp attrs env).Env s) (hadd : dpGenlAdd s attrs env = .ok (s', r))
    {i : Nat} (hi : s.dps i = none) (hpub : (s'.dps i).isSome) {del : Attrs}
    (hidx : del.idx = i) (hname : del.dpName = none) {pre : List MaintActor}
    (hpre : MaintActor.delDp ∉ pre) (acts : List MaintActor) :
    dpGenlDelStopping s' del (maintRun maintInit pre) acts =
        (if (maintRun (maintRun maintInit pre) acts).stop = .stopped then .ok (some (s, 0))
          else .ok none) ∧
      (maintRun (maintRun maintInit pre) finishSchedule).stop = .stopped := by
  obtain ⟨a, hl, hdel⟩ := dpGenlAdd_published henv hadd hi hpub hidx hname
  refine ⟨?_, maintBefore_stops hpre⟩
  split_ifs with hst
  · rw [dpGenlDelStopping_stopped hst]
    simp only [dpGenlDel, hl, hdel, ok_bind]
    rfl
  · exact dpGenlDelStopping_waits hst hl

theorem addDp0_then_delete :
    (AdminOp.addDp ⟨some 0, none, none⟩ demoEnv).Env bootSys ∧
      dpGenlAdd bootSys ⟨some 0, none, none⟩ demoEnv = .ok (dp0Sys, 0) ∧ bootSys.dps 0 = none ∧
      (dp0Sys.dps 0).isSome ∧ MaintActor.delDp ∉ ([] : List MaintActor) ∧
      dpGenlDelStopping dp0Sys ⟨some 0, none, none⟩ maintInit finishSchedule =
        .ok (some (bootSys, 0)) ∧
      dpGenlDelStopping dp0Sys ⟨some 0, none, none⟩ maintInit hangSchedule = .ok none :=
  have henv : (AdminOp.addDp ⟨some 0, none, none⟩ demoEnv).Env bootSys := by
    simp [AdminOp.Env, demoEnv, bootSys, bootDevs]
  have hadd : dpGenlAdd bootSys ⟨some 0, none, none⟩ demoEnv = .ok (dp0Sys, 0) := rfl
  have hpre : MaintActor.delDp ∉ ([] : List MaintActor) := List.not_mem_nil _
  have hdel : ∀ acts, dpGenlDelStopping dp0Sys ⟨some 0, none, none⟩ maintInit acts =
      if (maintRun maintInit acts).stop = .stopped then .ok (some (bootSys, 0)) else .ok none :=
    fun acts => (dpGenlDel_undoes_dpGenlAdd henv hadd (i := 0) rfl rfl
      (show (⟨some 0, none, none⟩ : Attrs).idx = (0 : Nat) from rfl) rfl hpre acts).1
  ⟨henv, hadd, rfl, rfl, hpre, (hdel finishSchedule).trans (if_pos (by decide)),
    (hdel hangSchedule).trans (if_neg (by decide))⟩

def NetDevice.held (dev : NetDevice) : Int := if dev.brPort.isSome then 1 else 0

/-- A device's reference count and promiscuity, less what it holds for a bound port. -/
def NetDevice.balance (dev : NetDevice) : Int × Int :=
  (dev.refcnt - dev.held, dev.promiscuity - dev.held)

theorem NetDevice.balance_bind (dev : NetDevice) (p : PortRef) (h : dev.brPort = none) :
    ({ dev with promiscuity := dev.promiscuity + 1, refcnt := dev.refcnt + 1, brPort := some p }
      : NetDevice).balance = dev.balance := by
  simp [NetDevice.balance, NetDevice.held, h]

theorem NetDevice.balance_release (dev : NetDevice) (h : dev.brPort.isSome) :
    ({ dev with promiscuity := dev.promiscuity - 1, brPort := none, refcnt := dev.refcnt - 1 }
      : NetDevice).balance = dev.balance := by
  simp [NetDevice.balance, NetDevice.held, h]

def DevKept (s' : Sys) (d : DevId) (dev : NetDevice) : Prop :=
  ∃ dev', s'.devs d = some dev' ∧ dev'.isDpDev = dev.isDpDev ∧ dev'.balance = dev.balance

theorem DevKept.of_eq {d : DevId} {dev : NetDevice} (h : s'.devs d = some dev) : DevKept s' d dev :=
  ⟨dev, h, rfl, rfl⟩

theorem DevKept.trans {s₁ : Sys} {d : DevId} {dev : NetDevice} (h₁ : DevKept s₁ d dev)
    (h₂ : ∀ dev₁, s₁.devs d = some dev₁ → DevKept s' d dev₁) : DevKept s' d dev :=
  let ⟨dev₁, hd₁, hx₁, hb₁⟩ := h₁
  let ⟨dev', hd', hx', hb'⟩ := h₂ dev₁ hd₁
  ⟨dev', hd', hx'.trans hx₁, hb'.trans hb₁⟩

theorem detachPort_devKept {p : PortRef} {port : BridgePort} {dev : NetDevice} {dp : Datapath}
    (hdev : s.devs port.dev = some dev) (hbr : dev.brPort = some p) {e : DevId}
    {dev₀ : NetDevice} (he : s.devs e = some dev₀) : DevKept (detachPort s p port dev dp) e dev₀ := by
  by_cases hed : e = port.dev
  · subst hed
    rw [hdev] at he
    cases he
    exact ⟨{ dev with promiscuity := dev.promiscuity - 1, brPort := none, refcnt := dev.refcnt - 1 },
      by simp [detachPort], rfl, NetDevice.balance_release _ (by simp [hbr])⟩
  · exact DevKept.of_eq (by simp [detachPort, hed, he])

theorem attachPort_devKept {a : DpRef} {dp : Datapath} {d : DevId} {D : NetDevice} {n : Nat}
    {p : PortRef} (hD : s.devs d = some D) (hbr : D.brPort = none) (hn : n ≠ ofppLocal)
    {e : DevId} {dev₀ : NetDevice} (he : s.devs e = some dev₀) :
    DevKept (attachPort s a dp d D n p) e dev₀ := by
  by_cases hde : e = d
  · subst hde
    rw [hD] at he
    cases he
    exact ⟨{ D with promiscuity := D.promiscuity + 1, refcnt := D.refcnt + 1, brPort := some p },
      by simp [attachPort, hn], rfl, NetDevice.balance_bind D p hbr⟩
  · exact DevKept.of_eq (by simp [attachPort, hde, he])

theorem foldlM_dpDelSwitchPort_kept {d : DevId} :
    ∀ {l : List PortRef} {s : Sys}, l.Nodup →
      (∀ q ∈ l, ∀ port, s.portHeap q = some port →
        port.dev = d ∨ ∃ dev, s.devs port.dev = some dev ∧ dev.brPort = some q) →
      l.foldlM dpDelSwitchPort s = .ok s' →
      ∀ e, e ≠ d → ∀ dev, s.devs e = some dev → DevKept s' e dev
  | [], _, _, _, h => by cases h; exact fun _ _ _ => DevKept.of_eq
  | q :: l, s, hnd, hl, h => by
    obtain ⟨hq, hnd⟩ := List.nodup_cons.1 hnd
    simp only [List.foldlM_cons, bind_eq_ok] at h
    obtain ⟨s₁, h₁, h⟩ := h
    obtain ⟨port, dev, dp, hport, hdev, -, rfl⟩ := dpDelSwitchPort_eq_ok h₁
    have hl₁ : ∀ q' ∈ l, ∀ port', (detachPort s q port dev dp).portHeap q' = some port' →
        port'.dev = d ∨ ∃ dev', (detachPort s q port dev dp).devs port'.dev = some dev' ∧
          dev'.brPort = some q' := by
      intro q' hq' port' hport'
      rw [show (detachPort s q port dev dp).portHeap q' = s.portHeap q' from
        update_noteq (fun h : q' = q => hq (h ▸ hq')) _ _] at hport'
      rcases hl q' (List.mem_cons_of_mem q hq') port' hport' with hpd | ⟨dev', hdev', hbr⟩
      · exact .inl hpd
      by_cases hed : port'.dev = port.dev
      · -- a device bound to `q'` is not the device of `q`, unless that is `d`
        rcases hl q (List.mem_cons_self q l) port hport with hpd | ⟨dev'', hdev'', hbr'⟩
        · exact .inl (hed.trans hpd)
        · rw [hed, hdev''] at hdev'
          cases hdev'
          rw [hbr] at hbr'
          exact absurd (Option.some.inj hbr' ▸ hq') hq
      · exact .inr ⟨dev', by simp [detachPort, hed, hdev'], hbr⟩
    intro e he dev₀ hdev₀
    refine DevKept.trans ?_ (foldlM_dpDelSwitchPort_kept hnd hl₁ h e he)
    by_cases hed : e = port.dev
    · rcases hl q (List.mem_cons_self q l) port hport with hpd | ⟨dev', hdev', hbr⟩
      · exact absurd (hed.trans hpd) he
      rw [hdev] at hdev'
      cases hdev'
      exact detachPort_devKept hdev hbr hdev₀
    · exact DevKept.of_eq (by simp [detachPort, hed, hdev₀])

theorem DpWf.port_dev {a : DpRef} {dp : Datapath} (hw : DpWf s.portAt s.devAt a dp) {e : DevId}
    (hne : dp.netdev = some e) : ∀ q ∈ dp.portList, ∀ port, s.portHeap q = some port →
      port.dev = e ∨ ∃ dev, s.devs port.dev = some dev ∧ dev.brPort = some q := by
  intro q hq port hport
  rcases (hw.mem q).1 hq with hlp | ⟨n, hn⟩
  · obtain ⟨lp, e', hlp', hne', hpa⟩ := hw.localPort
    rw [hlp] at hlp'
    rw [hne] at hne'
    cases hlp'
    cases hne'
    simp only [Sys.portAt, hport, Option.map_some', Option.some.injEq, Prod.mk.injEq] at hpa
    exact .inl hpa.2.2
  · obtain ⟨e', hpa, hda⟩ := hw.slot n q hn
    simp only [Sys.portAt, hport, Option.map_some', Option.some.injEq, Prod.mk.injEq] at hpa
    obtain ⟨-, -, rfl⟩ := hpa
    obtain ⟨dev', hdev', hbr, -⟩ := Sys.devAt_eq_some.1 hda
    exact .inr ⟨dev', hdev', hbr⟩

section DevKept

variable {d : DevId} {dev : NetDevice}

theorem newDp_devKept {idx : Int} {name : Option String} {env : NewDpEnv} {r : Int}
    (hfresh : ∀ e dev₀, env.devSetup = .ok (e, dev₀) → s.devs e = none)
    (h : newDp s idx name env = .ok (s', r)) (hd : s.devs d = some dev) : DevKept s' d dev := by
  rcases newDp_cases h with rfl | ⟨i, a, e, dev₁, p, -, -, -, hds, -, -, rfl | rfl⟩
  · exact DevKept.of_eq hd
  all_goals
    obtain ⟨dev₀, hsetup, -, -⟩ := dpDevSetup_eq_ok hds
    have hde : d ≠ e := fun h => by simp [h, hfresh e dev₀ hsetup] at hd
    exact DevKept.of_eq (by simp [leakedState, publishedState, hde, hd])

theorem delDp_devKept (hs : Inv s) {i : Nat} {a : DpRef} (hi : s.dps i = some a)
    (hdel : delDp s a = .ok s') (hd : s.devs d = some dev) (hhost : dev.isDpDev = false) :
    DevKept s' d dev := by
  simp only [OpenflowDatapath.delDp, bind_eq_ok, deref_eq_ok, pure_eq_ok] at hdel
  obtain ⟨dp, hdp, s₁, hrun, e, hne, rfl⟩ := hdel
  have hw := hs.wf i a dp hi hdp
  -- the local device is a datapath device, so it is not `d`
  have hde : d ≠ e := by
    rintro rfl
    obtain ⟨dev', hdev', -, hx⟩ := Sys.devAt_eq_some.1 (hw.netdev_eq hne)
    rw [hd] at hdev'
    cases hdev'
    simp [hhost] at hx
  obtain ⟨dev', hdev', hx, hb⟩ :=
    foldlM_dpDelSwitchPort_kept hw.nodup (hw.port_dev hne) hrun d hde dev hd
  exact ⟨dev', by simp [hde, hdev'], hx, hb⟩

theorem addSwitchPort_devKept {a : DpRef} {e : DevId} {alloc : Option PortRef} {r : Int}
    (hadd : addSwitchPort s a e alloc = .ok (s', r)) (hd : s.devs d = some dev) :
    DevKept s' d dev := by
  rcases addSwitchPort_eq_ok hadd with rfl | ⟨D, dp, n, p, hD, -, hbr, -, hn, -, hinit, -⟩
  · exact DevKept.of_eq hd
  obtain ⟨_, rfl⟩ := initPortStatus_eq_ok hinit
  have hnl : n ≠ ofppLocal := by
    have := (findPortno_eq_some hn).2.1
    simp only [dpMaxPorts, ofppLocal] at this ⊢
    omega
  -- `init_port_status` writes only the port record
  exact (attachPort_devKept hD hbr hnl hd : DevKept (attachPort s a dp e D n p) d dev)

theorem dpDelSwitchPort_devKept (hs : Inv s) {e : DevId} {D : NetDevice} {p : PortRef}
    (hD : s.devs e = some D) (hp : D.brPort = some p) (hdel : dpDelSwitchPort s p = .ok s')
    (hd : s.devs d = some dev) : DevKept s' d dev := by
  obtain ⟨port, dev₁, dp, hport, hdev₁, -, rfl⟩ := dpDelSwitchPort_eq_ok hdel
  -- the port `e` is bound to is on `e`
  obtain ⟨j, b, dpb, n, -, -, -, hpa⟩ := hs.brPort e p D.isDpDev (by simp [Sys.devAt, hD, hp])
  obtain ⟨_, hport', -, -, hpe⟩ := Sys.portAt_eq_some.1 hpa
  rw [hport] at hport'
  cases hport'
  rw [hpe, hD] at hdev₁
  cases hdev₁
  exact detachPort_devKept (hpe ▸ hD) hp hd

theorem adminStep_devKept (hs : Inv s) {op : AdminOp} {r : Int} (henv : op.Env s)
    (hstep : adminStep s op = .ok (s', r)) (hd : s.devs d = some dev)
    (hhost : dev.isDpDev = false) : DevKept s' d dev := by
  cases op with
  | addDp attrs env =>
    simp only [OpenflowDatapath.adminStep, dpGenlAdd] at hstep
    split at hstep
    · exact (Prod.mk.inj (pure_eq_ok.1 hstep)).1 ▸ DevKept.of_eq hd
    · exact newDp_devKept henv.2.1 hstep hd
  | delDp attrs =>
    simp only [OpenflowDatapath.adminStep, dpGenlDel, bind_eq_ok] at hstep
    obtain ⟨l, hl, hstep⟩ := hstep
    split at hstep
    · exact (Prod.mk.inj (pure_eq_ok.1 hstep)).1 ▸ DevKept.of_eq hd
    obtain ⟨i, hi⟩ := lookupDp_eq_ok hl
    simp only [bind_eq_ok, pure_eq_ok, Prod.mk.injEq] at hstep
    obtain ⟨_, hdel, rfl, -⟩ := hstep
    exact delDp_devKept hs hi hdel hd hhost
  | addPort attrs dev' alloc =>
    rcases dpGenlAddDelPort_cases hstep with rfl | ⟨i, a, e, -, -, ⟨-, hadd⟩ | ⟨h', -⟩⟩
    · exact DevKept.of_eq hd
    · exact addSwitchPort_devKept hadd hd
    · cases h'
  | delPort attrs dev' =>
    rcases dpGenlAddDelPort_cases hstep with rfl | ⟨i, a, e, -, -, ⟨h', -⟩ | ⟨-, D, p, hD, hp, hdel⟩⟩
    · exact DevKept.of_eq hd
    · cases h'
    · exact dpDelSwitchPort_devKept hs hD hp hdel hd
  | portMod i opm =>
    simp only [OpenflowDatapath.adminStep] at hstep
    split at hstep
    · exact (Prod.mk.inj (pure_eq_ok.1 hstep)).1 ▸ DevKept.of_eq hd
    · rcases dpUpdatePortFlags_eq_ok hstep with rfl | ⟨_, _, rfl⟩ <;> exact DevKept.of_eq hd

end DevKept

/-- A run of requests that return, each in the environment it promises. -/
inductive AdminRun : Sys → Sys → Prop where
  | refl (s : Sys) : AdminRun s s
  | step {s s₁ s' : Sys} {op : AdminOp} {r : Int} :
      op.Env s → adminStep s op = .ok (s₁, r) → AdminRun s₁ s' → AdminRun s s'

/-- Along every run from a reachable state, a host device stays registered and balanced. -/
theorem hostDevice_balance_run (hrun : AdminRun s s') (hs : Reach s) {d : DevId}
    {dev : NetDevice} (hd : s.devs d = some dev) (hhost : dev.isDpDev = false) :
    ∃ dev', s'.devs d = some dev' ∧ dev'.isDpDev = false ∧ dev'.balance = dev.balance := by
  induction hrun generalizing dev with
  | refl => exact ⟨dev, hd, hhost, rfl⟩
  | step henv hstep _ ih =>
    obtain ⟨dev₁, hd₁, hx₁, hb₁⟩ := adminStep_devKept hs.inv henv hstep hd hhost
    obtain ⟨dev', hd', hx', hb'⟩ := ih (.step hs henv hstep) hd₁ (hx₁.trans hhost)
    exact ⟨dev', hd', hx', hb'.trans hb₁⟩

theorem reach_bootSys : Reach bootSys :=
  .boot bootDevs fun d dev h => by
    simp only [bootDevs, Option.ite_none_right_eq_some, Option.some.injEq] at h
    obtain ⟨-, rfl⟩ := h
    rfl

theorem run_bootSys_demoSys : AdminRun bootSys demoSys :=
  @AdminRun.step bootSys _ demoSys addDp0 _
    (by simp [AdminOp.Env, addDp0, demoEnv, bootSys, bootDevs]) rfl
    (@AdminRun.step _ _ demoSys addEth0 _ ⟨fun _ h => by cases h; rfl, fun _ h => by cases h; rfl⟩
      rfl (.refl _))

theorem eth0_balance_demo :
    AdminRun bootSys demoSys ∧ Reach bootSys ∧ bootSys.devs 0 = some eth0 ∧
      eth0.isDpDev = false ∧
      ∃ dev', demoSys.devs 0 = some dev' ∧ dev'.isDpDev = false ∧ dev'.balance = eth0.balance :=
  ⟨run_bootSys_demoSys, reach_bootSys, rfl, rfl,
    hostDevice_balance_run run_bootSys_demoSys reach_bootSys rfl rfl⟩

example : (demoSys.devs 0).map (fun dev => (dev.refcnt, dev.promiscuity)) = some (2, 1) := rfl

end OpenflowDatapath
