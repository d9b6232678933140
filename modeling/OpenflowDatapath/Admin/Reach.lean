import OpenflowDatapath.Admin.Preservation

/-! # Creating and destroying datapaths, and every reachable state

`new_dp` either changes nothing, or leaks its local port after a failed `kthread_run`, or
publishes a fresh datapath; `del_dp` unbinds every port of the datapath in turn. With the
port operations, every request that returns keeps `Inv`, so every reachable state has it.
-/

namespace OpenflowDatapath

open Function

variable {s s' : Sys}

theorem dpDevSetup_eq_ok {name : Option String} {r : Except Int (DevId × NetDevice)} {d : DevId}
    {dev : NetDevice} (h : dpDevSetup name r = .ok (d, dev)) :
    ∃ dev₀, r = .ok (d, dev₀) ∧ dev.brPort = none ∧ dev.isDpDev = true := by
  cases r with
  | error e => simp [dpDevSetup, Except.map] at h
  | ok v =>
    simp only [dpDevSetup, Except.map, Except.ok.injEq, Prod.mk.injEq] at h
    obtain ⟨rfl, rfl⟩ := h
    exact ⟨v.2, rfl, rfl, rfl⟩

def newDpRecord (i : Nat) (d : DevId) (p : PortRef) : Datapath :=
  { dpIdx := i, netdev := some d, ports := fun _ => none, portList := [p], localPort := some p,
    flags := 0, missSendLen := 128 }

/-- A returning `new_dp` changed nothing, unwound to a leaked port, or published a fresh record. -/
theorem newDp_eq_ok {idx : Int} {name : Option String} {env : NewDpEnv} {r : Int}
    (h : newDp s idx name env = .ok (s', r)) :
    s' = s ∨ ∃ i a d dev p, i < dpMax ∧ s.dps i = none ∧ env.dpAlloc = some a ∧
      env.devSetup = .ok (d, dev) ∧ env.portAlloc = some p ∧
      s'.portAt = update s.portAt p (some (ofppLocal, a, d)) ∧
      ((s'.devAt = update s.devAt d none ∧ s'.dps = s.dps ∧ s'.dpHeap = update s.dpHeap a none) ∨
       (s'.devAt = update s.devAt d (some (none, true)) ∧ s'.dps = update s.dps i (some a) ∧
        s'.dpHeap = update s.dpHeap a (some (newDpRecord i d p)))) := by
  simp only [newDp] at h
  generalize (if idx = -1 then genDpIdx s else idx) = I at h
  split at h
  · exact .inl (Prod.mk.inj (pure_eq_ok.1 h)).1.symm
  rename_i hI
  simp only [bind_eq_ok, pure_eq_ok, exists_eq_left', true_and, exists_const] at h
  split at h
  · exact .inl (Prod.mk.inj (pure_eq_ok.1 h)).1.symm
  simp only [bind_eq_ok, pure_eq_ok, exists_eq_left', true_and, exists_const] at h
  split at h
  · exact .inl (Prod.mk.inj (pure_eq_ok.1 h)).1.symm
  rename_i he
  simp only [bind_eq_ok, pure_eq_ok, exists_eq_left', true_and, exists_const] at h
  split at h
  swap
  · exact .inl (Prod.mk.inj (pure_eq_ok.1 h)).1.symm
  rename_i a ha
  split at h
  · exact .inl (Prod.mk.inj (pure_eq_ok.1 h)).1.symm
  rename_i d dev hds
  obtain ⟨dev₀, hsetup, hbr, hdp⟩ := dpDevSetup_eq_ok hds
  split at h
  · exact .inl (Prod.mk.inj (pure_eq_ok.1 h)).1.symm
  simp only [bind_eq_ok, pure_eq_ok, exists_eq_left', true_and, exists_const] at h
  obtain ⟨⟨s₂, r₂⟩, hnbp, h⟩ := h
  rcases newNbp_eq_ok hnbp with ⟨rfl, e, rfl⟩ | ⟨dev', dp', p, hdev', -, hp, hdp', rfl, rfl⟩
  · cases h
  simp only [update_same, Option.some.injEq] at hdev' hdp'
  subst hdev' hdp'
  right
  refine ⟨I.toNat, a, d, dev₀, p, by simp only [not_or] at hI; omega, by simpa using he, ha,
    hsetup, hp, ?_⟩
  simp only at h
  split at h
  · simp only [pure_eq_ok, Prod.mk.injEq] at h
    obtain ⟨rfl, -⟩ := h
    refine ⟨portAt_of_portHeap rfl, .inl ⟨?_, rfl, ?_⟩⟩
    · funext e
      by_cases he : e = d
      · subst he; simp [Sys.devAt]
      · simp [Sys.devAt, attachPort, he]
    · funext b
      by_cases hb : b = a
      · subst hb; simp
      · simp [attachPort, hb]
  · simp only [bind_eq_ok, pure_eq_ok, exists_eq_left', true_and, exists_const, deref_eq_ok,
      Prod.mk.injEq] at h
    obtain ⟨dpx, hdpx, rfl, -⟩ := h
    simp only [attachPort, update_same, Option.some.injEq] at hdpx
    subst hdpx
    refine ⟨portAt_of_portHeap rfl, .inr ⟨?_, rfl, ?_⟩⟩
    · funext e
      by_cases he : e = d
      · subst he; simp [Sys.devAt, attachPort, hbr, hdp]
      · simp [Sys.devAt, attachPort, he]
    · funext b
      by_cases hb : b = a
      · subst hb; simp [newDpRecord, ofppLocal, dpMaxPorts]
      · simp [attachPort, hb]

section Failures

variable {i : Nat} {name : Option String} {env : NewDpEnv} {a : DpRef} {d : DevId}
  {dev : NetDevice}

theorem newDp_chainCreate_fails (hi : i < dpMax) (hfree : s.dps i = none)
    (hget : env.moduleGet = true) (ha : env.dpAlloc = some a) (hd : env.devSetup = .ok (d, dev))
    (hc : env.chainCreate = false) : newDp s i name env = .ok (s, 0) := by
  have hI : ¬((i : Int) < 0 ∨ dpMax ≤ i) := by omega
  simp [newDp, hI, hget, hfree, ha, hd, hc, dpDevSetup, Except.map]

theorem newDp_kthreadRun_fails (hi : i < dpMax) (hfree : s.dps i = none)
    (hget : env.moduleGet = true) (ha : env.dpAlloc = some a) (hd : env.devSetup = .ok (d, dev))
    (hc : env.chainCreate = true) {p : PortRef} (hp : env.portAlloc = some p)
    (hk : env.kthreadRun = false) :
    ∃ s', newDp s i name env = .ok (s', 0) ∧ s'.dps = s.dps ∧ (s'.portHeap p).isSome := by
  have hI : ¬((i : Int) < 0 ∨ dpMax ≤ i) := by omega
  simp [newDp, hI, hget, hfree, ha, hd, hc, hp, hk, dpDevSetup, Except.map, newNbp, attachPort]

end Failures

def eth0 : NetDevice :=
  { name := "eth0", flags := iffUp, type := arphrdEther, isDpDev := false, carrier := true,
    mtu := 1500, devAddr := [0, 1, 2, 3, 4, 5], brPort := none, promiscuity := 0, refcnt := 1 }

def bootDevs : DevId → Option NetDevice := fun d => if d = 0 then some eth0 else none

def bootSys : Sys :=
  { dps := fun _ => none, dpHeap := fun _ => none, portHeap := fun _ => none, devs := bootDevs,
    moduleRefs := 0 }

def demoEnv : NewDpEnv :=
  { moduleGet := true, dpAlloc := some 0, devSetup := .ok (1, eth0), chainCreate := true,
    portAlloc := some 0, kthreadRun := true }

/-- When `chain_create` or `kthread_run` fails, `new_dp` returns 0 with nothing published. -/
theorem newDp_returns_zero_unpublished :
    (∃ s', newDp bootSys 0 none { demoEnv with chainCreate := false } = .ok (s', 0) ∧
      s'.dps 0 = none) ∧
    (∃ s', newDp bootSys 0 none { demoEnv with kthreadRun := false } = .ok (s', 0) ∧
      s'.dps 0 = none ∧ (s'.portHeap 0).isSome) :=
  have hk : ∃ s', newDp bootSys (0 : Nat) none { demoEnv with kthreadRun := false } =
      .ok (s', 0) ∧ s'.dps = bootSys.dps ∧ (s'.portHeap 0).isSome :=
    newDp_kthreadRun_fails (by decide) rfl rfl rfl rfl rfl rfl rfl
  ⟨⟨_, newDp_chainCreate_fails (i := 0) (by decide) rfl rfl rfl rfl rfl, rfl⟩,
    let ⟨s', h, hdps, hp⟩ := hk; ⟨s', h, hdps ▸ rfl, hp⟩⟩

theorem Inv.newDp (hs : Inv s) {idx : Int} {name : Option String} {env : NewDpEnv} {r : Int}
    (hda : ∀ a, env.dpAlloc = some a → s.dpHeap a = none)
    (hdd : ∀ d dev, env.devSetup = .ok (d, dev) → s.devs d = none)
    (hdp : ∀ p, env.portAlloc = some p → s.portHeap p = none)
    (h : newDp s idx name env = .ok (s', r)) : Inv s' := by
  rcases newDp_eq_ok h with rfl | ⟨i, a, d, dev, p, hi, hfree, ha, hd, hp, hpa, hrest⟩
  · exact hs
  have hda' : s.devAt d = none := by simp [Sys.devAt, hdd d dev hd]
  have hpa' : s.portAt p = none := by simp [Sys.portAt, hdp p hp]
  unfold Inv
  rcases hrest with ⟨hdv, hdps, hdh⟩ | ⟨hdv, hdps, hdh⟩ <;> rw [hpa, hdv, hdps, hdh]
  · have hdh' : update s.dpHeap a none = s.dpHeap := by
      rw [← hda a ha]; exact update_eq_self a s.dpHeap
    rw [hdh', ← hda', update_eq_self]
    exact Coherent.leak hs hpa' _
  · exact Coherent.create hs hi hfree (hda a ha) hpa' hda' rfl rfl (fun _ => rfl) rfl rfl

/-- `del_dp`'s loop over its ports frees exactly them and unbinds their devices. -/
theorem foldlM_dpDelSwitchPort {a : DpRef} : ∀ {l : List PortRef} {s : Sys}, l.Nodup →
    (∀ q ∈ l, ∃ port, s.portHeap q = some port ∧ port.dp = a ∧ (s.devs port.dev).isSome) →
    (s.dpHeap a).isSome →
    ∃ s', l.foldlM dpDelSwitchPort s = .ok s' ∧ s'.dps = s.dps ∧
      (∀ b, b ≠ a → s'.dpHeap b = s.dpHeap b) ∧
      (∀ q, q ∉ l → s'.portAt q = s.portAt q) ∧
      (∀ e, (∀ q ∈ l, ∀ port, s.portHeap q = some port → port.dev ≠ e) → s'.devAt e = s.devAt e) ∧
      (∀ q ∈ l, ∀ port, s.portHeap q = some port → ∃ x, s'.devAt port.dev = some (none, x))
  | [], s, _, _, _ => ⟨s, rfl, rfl, fun _ _ => rfl, fun _ _ => rfl, fun _ _ => rfl, by simp⟩
  | q :: l, s, hnd, hl, ha => by
    obtain ⟨hq, hnd⟩ := List.nodup_cons.1 hnd
    obtain ⟨port, hport, hpd, hdev⟩ := hl q (List.mem_cons_self q l)
    obtain ⟨dev, hdev⟩ := Option.isSome_iff_exists.1 hdev
    obtain ⟨dp, hdp⟩ := Option.isSome_iff_exists.1 ha
    set s₁ := detachPort s q port dev dp with hs₁
    have hstep : dpDelSwitchPort s q = .ok s₁ := by
      simp [dpDelSwitchPort, hport, hdev, hpd, hdp, hs₁]
    have hheap : ∀ q' ∈ l, s₁.portHeap q' = s.portHeap q' := fun q' hq' =>
      update_noteq (fun h : q' = q => hq (h ▸ hq')) _ _
    obtain ⟨s', hrun, hdps, hdh, hpa, hdv, hdown⟩ := foldlM_dpDelSwitchPort (s := s₁) hnd
      (fun q' hq' => by
        obtain ⟨port', h₁, h₂, h₃⟩ := hl q' (List.mem_cons_of_mem q hq')
        refine ⟨port', (hheap q' hq').trans h₁, h₂, ?_⟩
        by_cases he : port'.dev = port.dev
        · simp [hs₁, detachPort, he]
        · simpa [hs₁, detachPort, he] using h₃)
      (by simp [hs₁, detachPort, hpd])
    refine ⟨s', by simp [List.foldlM_cons, hstep, hrun], hdps, fun b hb => ?_, fun q' hq' => ?_,
      fun e he => ?_, fun q' hq' port' hport' => ?_⟩
    · rw [hdh b hb]
      simp [hs₁, detachPort, hpd, hb]
    · rw [hpa q' (fun h => hq' (List.mem_cons_of_mem q h))]
      rw [hs₁, portAt_detachPort]
      exact update_noteq (fun h : q' = q => hq' (h ▸ List.mem_cons_self q l)) _ _
    · rw [hdv e fun q' hq' port' h' => he q' (List.mem_cons_of_mem q hq') port'
        (by rw [← hheap q' hq']; exact h')]
      simp [hs₁, (he q (List.mem_cons_self q l) port hport).symm]
    · rcases List.mem_cons.1 hq' with rfl | hq'
      · rw [hport] at hport'
        cases hport'
        by_cases hin : ∃ q'' ∈ l, ∃ port'', s₁.portHeap q'' = some port'' ∧ port''.dev = port.dev
        · obtain ⟨q'', hq'', port'', h'', hdev''⟩ := hin
          exact hdev''  ▸ hdown q'' hq'' port'' h''
        · push_neg at hin
          rw [hdv port.dev fun q'' hq'' port'' h'' => hin q'' hq'' port'' h'']
          simp [hs₁]
      · exact hdown q' hq' port' ((hheap q' hq').trans hport')

theorem Inv.delDp (hs : Inv s) {i : Nat} {a : DpRef} (hi : s.dps i = some a)
    (h : delDp s a = .ok s') : Inv s' := by
  simp only [OpenflowDatapath.delDp, bind_eq_ok, deref_eq_ok, pure_eq_ok] at h
  obtain ⟨dp, hdp, s₁, hrun, d, hnd, rfl⟩ := h
  have hw := hs.wf i a dp hi hdp
  have hlist : ∀ q ∈ dp.portList, ∃ port, s.portHeap q = some port ∧ port.dp = a ∧
      (s.devs port.dev).isSome := by
    intro q hq
    obtain ⟨n, e, hpq, hcase⟩ := hw.port_of_mem hq
    obtain ⟨port, hport, hpe⟩ := Option.map_eq_some'.1 hpq
    simp only [Prod.mk.injEq] at hpe
    obtain ⟨-, rfl, rfl⟩ := hpe
    refine ⟨port, hport, rfl, ?_⟩
    rcases hcase with ⟨-, -, -, h'⟩ | ⟨-, h'⟩ <;>
      simpa [Sys.devAt] using congrArg Option.isSome h'
  obtain ⟨s₂, hrun', hdps, hdh, hpa, hdv, hdown⟩ :=
    foldlM_dpDelSwitchPort hw.nodup hlist (by simp [hdp])
  rw [hrun] at hrun'
  cases hrun'
  obtain ⟨dp₀, hdp₀, hidx⟩ := hs.dpsIdx i a hi
  rw [hdp] at hdp₀
  cases hdp₀
  have hportOf : ∀ q ∈ dp.portList, ∀ m c e, s.portAt q = some (m, c, e) →
      ∃ port, s.portHeap q = some port ∧ port.dev = e := by
    intro q _ m c e hq
    obtain ⟨port, hport, hpe⟩ := Option.map_eq_some'.1 hq
    simp only [Prod.mk.injEq] at hpe
    exact ⟨port, hport, hpe.2.2⟩
  obtain ⟨lp, e₀, hlp, hne₀, hlpa⟩ := hw.localPort
  rw [hnd] at hne₀
  cases hne₀
  have hlm : lp ∈ dp.portList := (hw.mem lp).2 (.inl hlp)
  have hnet : ∀ q ∈ dp.portList, ∀ port, s.portHeap q = some port → ∃ x,
      (update s₁.devAt d none) port.dev = some (none, x) ∨
      (update s₁.devAt d none) port.dev = none := by
    intro q hq port hport
    obtain ⟨x, hx⟩ := hdown q hq port hport
    by_cases he : port.dev = d
    · exact ⟨x, .inr (by rw [he, update_same])⟩
    · exact ⟨x, .inl (by rw [update_noteq he, hx])⟩
  unfold Inv
  have hc : Coherent s₁.portAt (update s₁.devAt d none) _ _ := Coherent.destroy hs hi hdp
    (fun q hq => hpa q hq)
    (fun e he => by
      have hed : e ≠ d := fun hed => he lp hlm _ _ (hed ▸ hlpa)
      rw [update_noteq hed]
      exact hdv e fun q hq port hport hpe => by
        refine he q hq port.portNo port.dp ?_
        simp [Sys.portAt, hport, hpe])
    (fun q hq m c e hpq q' x hx => by
      obtain ⟨port, hport, rfl⟩ := hportOf q hq m c e hpq
      obtain ⟨y, hy | hy⟩ := hnet q hq port hport <;> rw [hy] at hx <;> cases hx)
  have hdh' : update s₁.dpHeap a none = update s.dpHeap a none := by
    funext b
    by_cases hb : b = a
    · subst hb; simp
    · simp [hb, hdh b hb]
  rw [← hidx] at hc
  simp only [hdps, hdh']
  convert hc using 1
  funext e
  by_cases he : e = d
  · subst he; simp [Sys.devAt]
  · simp [Sys.devAt, he]

theorem dpGetByIdx_eq_some {idx : Int} {a : DpRef} (h : dpGetByIdx s idx = some a) :
    s.dps idx.toNat = some a := by
  unfold dpGetByIdx at h
  split at h
  · cases h
  · exact h

theorem findSomeM?_eq_ok {α β : Type} {f : α → K (Option β)} :
    ∀ {l : List α} {b : β}, l.findSomeM? f = .ok (some b) → ∃ x ∈ l, f x = .ok (some b)
  | [], _, h => by simp [List.findSomeM?] at h
  | x :: l, b, h => by
    simp only [List.findSomeM?, bind_eq_ok] at h
    obtain ⟨o, hx, h⟩ := h
    cases o with
    | some c =>
      simp only [pure_eq_ok, Option.some.injEq] at h
      exact ⟨x, List.mem_cons_self x l, h ▸ hx⟩
    | none =>
      obtain ⟨y, hy, hfy⟩ := findSomeM?_eq_ok h
      exact ⟨y, List.mem_cons_of_mem x hy, hfy⟩

theorem dpGetByName_eq_some {name : String} {a : DpRef}
    (h : dpGetByName s name = .ok (some a)) : ∃ i, s.dps i = some a := by
  obtain ⟨i, -, hi⟩ := findSomeM?_eq_ok h
  split at hi
  · simp at hi
  · rename_i b hb
    simp only [bind_eq_ok, pure_eq_ok] at hi
    obtain ⟨x, -, hx⟩ := hi
    split at hx
    · cases hx; exact ⟨i, hb⟩
    · cases hx

theorem lookupDp_eq_ok {attrs : Attrs} {a : DpRef} (h : lookupDp s attrs = .ok (.ok a)) :
    ∃ i, s.dps i = some a := by
  unfold lookupDp at h
  split at h
  · split at h
    · simp at h
    · rename_i b hb
      have hbi := dpGetByIdx_eq_some hb
      split at h
      · simp only [bind_eq_ok, pure_eq_ok] at h
        obtain ⟨x, -, hx⟩ := h
        split at hx
        · cases hx
        · cases hx; exact ⟨_, hbi⟩
      · cases h; exact ⟨_, hbi⟩
  · split at h
    · simp only [bind_eq_ok, pure_eq_ok] at h
      obtain ⟨o, ho, hx⟩ := h
      split at hx
      · cases hx; exact dpGetByName_eq_some ho
      · cases hx
    · cases h

theorem Inv.dpGenlAdd (hs : Inv s) {attrs : Attrs} {env : NewDpEnv} {r : Int}
    (henv : AdminOp.Env s (.addDp attrs env)) (h : dpGenlAdd s attrs env = .ok (s', r)) :
    Inv s' := by
  unfold OpenflowDatapath.dpGenlAdd at h
  split at h
  · cases h; exact hs
  · exact hs.newDp henv.1 henv.2.1 henv.2.2 h

theorem Inv.dpGenlDel (hs : Inv s) {attrs : Attrs} {r : Int}
    (h : dpGenlDel s attrs = .ok (s', r)) : Inv s' := by
  simp only [OpenflowDatapath.dpGenlDel, bind_eq_ok] at h
  obtain ⟨l, hl, h⟩ := h
  split at h
  · cases h; exact hs
  · rename_i a
    simp only [bind_eq_ok, pure_eq_ok, Prod.mk.injEq] at h
    obtain ⟨s₁, hdel, rfl, -⟩ := h
    obtain ⟨i, hi⟩ := lookupDp_eq_ok hl
    exact hs.delDp hi hdel

theorem Inv.dpGenlAddDelPort (hs : Inv s) {add : Bool} {attrs : Attrs} {dev : Option DevId}
    {alloc : Option PortRef} {r : Int} (hfresh : ∀ p, alloc = some p → s.portHeap p = none)
    (h : dpGenlAddDelPort s add attrs dev alloc = .ok (s', r)) : Inv s' := by
  unfold OpenflowDatapath.dpGenlAddDelPort at h
  by_cases hname : attrs.portName.isNone
  · rw [if_pos hname, pure_eq_ok, Prod.mk.injEq] at h
    exact h.1 ▸ hs
  simp only [if_neg hname, bind_eq_ok, pure_eq_ok, exists_eq_left', true_and, exists_const] at h
  obtain ⟨l, hl, h⟩ := h
  split at h
  · cases h; exact hs
  rename_i a
  obtain ⟨i, hi⟩ := lookupDp_eq_ok hl
  obtain _ | d := dev
  · cases h; exact hs
  cases add
  swap
  · exact hs.addSwitchPort hi hfresh h
  simp only [Bool.false_eq_true, if_false, bind_eq_ok, deref_eq_ok] at h
  obtain ⟨D, hD, h⟩ := h
  split at h
  · cases h; exact hs
  rename_i p hp
  simp only [bind_eq_ok, deref_eq_ok] at h
  obtain ⟨port, -, h⟩ := h
  split at h
  · cases h; exact hs
  simp only [bind_eq_ok, pure_eq_ok, Prod.mk.injEq, exists_eq_left', true_and, exists_const] at h
  obtain ⟨s₁, hdel, rfl, -⟩ := h
  exact hs.dpDelSwitchPort hD hp hdel

/-- Every request that returns keeps the invariant. -/
theorem Inv.adminStep (hs : Inv s) {op : AdminOp} {r : Int} (henv : op.Env s)
    (h : adminStep s op = .ok (s', r)) : Inv s' := by
  cases op with
  | addDp attrs env => exact hs.dpGenlAdd henv h
  | delDp attrs => exact hs.dpGenlDel h
  | addPort attrs dev alloc => exact hs.dpGenlAddDelPort henv.2 h
  | delPort attrs dev => exact hs.dpGenlAddDelPort (by simp) h
  | portMod i opm =>
    simp only [OpenflowDatapath.adminStep] at h
    split at h
    · cases h; exact hs
    · exact hs.dpUpdatePortFlags h

theorem inv_boot {devs : DevId → Option NetDevice}
    (h : ∀ d dev, devs d = some dev → dev.brPort = none) :
    Inv { dps := fun _ => none, dpHeap := fun _ => none, portHeap := fun _ => none
          devs, moduleRefs := 0 } where
  dpsRange _ _ := rfl
  dpsIdx _ _ h := nomatch h
  wf _ _ _ h := nomatch h
  brPort d p x hd := by
    obtain ⟨dev, hdev, he⟩ := Option.map_eq_some'.1 hd
    simp only [Prod.mk.injEq, h d dev hdev] at he
    cases he.1
  netdevInj _ _ _ _ _ _ h := nomatch h

theorem Reach.inv (h : Reach s) : Inv s := by
  induction h with
  | boot devs h => exact inv_boot h
  | step _ henv hstep ih => exact ih.adminStep henv hstep

section Stopping

variable {attrs : Attrs} {th : MaintState} {acts : List MaintActor}

theorem dpGenlDelStopping_stopped (h : (maintRun th acts).stop = .stopped) :
    dpGenlDelStopping s attrs th acts = some <$> dpGenlDel s attrs := by
  simp only [dpGenlDelStopping, dpGenlDel, delDpStopping, if_pos h]
  rcases lookupDp s attrs with e | e | a
  · rfl
  · rfl
  · simp only [ok_bind]
    rcases delDp s a with e | s₁ <;> rfl

theorem dpGenlDelStopping_waits (h : (maintRun th acts).stop ≠ .stopped) {a : DpRef}
    (ha : lookupDp s attrs = .ok (.ok a)) : dpGenlDelStopping s attrs th acts = .ok none := by
  simp only [dpGenlDelStopping, delDpStopping, if_neg h, ha]
  rfl

/-- Every `dp_genl_del` that returns, on any `kthread_stop` schedule, is a step of `Reach`. -/
theorem Reach.dpGenlDelStopping (hs : Reach s) {r : Int}
    (h : dpGenlDelStopping s attrs th acts = .ok (some (s', r))) : Reach s' := by
  by_cases hst : (maintRun th acts).stop = .stopped
  · rw [dpGenlDelStopping_stopped hst] at h
    cases hd : dpGenlDel s attrs with
    | error e => rw [hd] at h; cases h
    | ok v =>
      rw [hd] at h
      cases h
      exact .step hs (show (AdminOp.delDp attrs).Env s from trivial) hd
  · cases hl : lookupDp s attrs with
    | error e => simp [OpenflowDatapath.dpGenlDelStopping, hl] at h
    | ok l =>
      cases l with
      | error e =>
        simp only [OpenflowDatapath.dpGenlDelStopping, hl, ok_bind, pure_eq_ok,
          Option.some.injEq, Prod.mk.injEq] at h
        exact h.1 ▸ hs
      | ok a => rw [dpGenlDelStopping_waits hst hl] at h; cases h

end Stopping

end OpenflowDatapath
