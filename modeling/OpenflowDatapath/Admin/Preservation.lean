import OpenflowDatapath.Admin.Invariant

/-! # Each administrative operation keeps the invariant

One spec lemma per operation says what a run that returns can have done; the preservation
lemmas read the views off it and apply the matching lemma of `Coherent`.
-/

namespace OpenflowDatapath

open Function

variable {s s' : Sys}

theorem portAt_of_portHeap {p : PortRef} {port : BridgePort}
    (h : s'.portHeap = update s.portHeap p (some port)) :
    s'.portAt = update s.portAt p (some (port.portNo, port.dp, port.dev)) := by
  funext q
  by_cases hq : q = p
  · subst hq; simp [Sys.portAt, h]
  · simp [Sys.portAt, h, hq]

@[simp] theorem portAt_attachPort (a : DpRef) (dp : Datapath) (d : DevId) (dev : NetDevice)
    (n : Nat) (p : PortRef) :
    (attachPort s a dp d dev n p).portAt = update s.portAt p (some (n, a, d)) :=
  portAt_of_portHeap rfl

@[simp] theorem devAt_attachPort (a : DpRef) (dp : Datapath) (d : DevId) (dev : NetDevice)
    (n : Nat) (p : PortRef) :
    (attachPort s a dp d dev n p).devAt =
      update s.devAt d (some (if n ≠ ofppLocal then some p else dev.brPort, dev.isDpDev)) := by
  funext e
  by_cases he : e = d
  · subst he; simp [Sys.devAt, attachPort]
  · simp [Sys.devAt, attachPort, he]

@[simp] theorem dps_attachPort (a : DpRef) (dp : Datapath) (d : DevId) (dev : NetDevice)
    (n : Nat) (p : PortRef) : (attachPort s a dp d dev n p).dps = s.dps := rfl

@[simp] theorem portAt_detachPort (p : PortRef) (port : BridgePort) (dev : NetDevice)
    (dp : Datapath) : (detachPort s p port dev dp).portAt = update s.portAt p none := by
  funext q
  by_cases hq : q = p
  · subst hq; simp [Sys.portAt, detachPort]
  · simp [Sys.portAt, detachPort, hq]

@[simp] theorem devAt_detachPort (p : PortRef) (port : BridgePort) (dev : NetDevice)
    (dp : Datapath) :
    (detachPort s p port dev dp).devAt = update s.devAt port.dev (some (none, dev.isDpDev)) := by
  funext e
  by_cases he : e = port.dev
  · subst he; simp [Sys.devAt, detachPort]
  · simp [Sys.devAt, detachPort, he]

@[simp] theorem dps_detachPort (p : PortRef) (port : BridgePort) (dev : NetDevice)
    (dp : Datapath) : (detachPort s p port dev dp).dps = s.dps := rfl

theorem inv_of_views (hs : Inv s) (hp : s'.portAt = s.portAt) (hd : s'.devAt = s.devAt)
    (hdps : s'.dps = s.dps) (hdp : s'.dpHeap = s.dpHeap) : Inv s' := by
  unfold Inv
  rw [hp, hd, hdps, hdp]
  exact hs

theorem findPortno_eq_some {dp : Datapath} {n : Nat} (h : findPortno dp = some n) :
    0 < n ∧ n < dpMaxPorts ∧ dp.ports n = none := by
  have hm := List.mem_range'_1.1 (List.mem_of_find?_eq_some h)
  have hf := List.find?_some h
  simp only [Option.isNone_iff_eq_none] at hf
  exact ⟨by omega, by simp only [dpMaxPorts] at hm ⊢; omega, hf⟩

theorem newNbp_eq_ok {a : DpRef} {d : DevId} {n : Nat} {alloc : Option PortRef}
    {r : Except Int PortRef} (h : newNbp s a d n alloc = .ok (s', r)) :
    (s' = s ∧ ∃ e, r = .error e) ∨ ∃ dev dp p, s.devs d = some dev ∧ dev.brPort = none ∧
      alloc = some p ∧ s.dpHeap a = some dp ∧ s' = attachPort s a dp d dev n p ∧ r = .ok p := by
  simp only [newNbp, bind_eq_ok, deref_eq_ok] at h
  obtain ⟨dev, hdev, h⟩ := h
  split_ifs at h with hb
  · simp only [pure_eq_ok, Prod.mk.injEq] at h
    exact .inl ⟨h.1.symm, _, h.2.symm⟩
  cases alloc with
  | none =>
    simp only [bind_eq_ok, pure_eq_ok, Prod.mk.injEq] at h
    obtain ⟨_, -, h⟩ := h
    exact .inl ⟨h.1.symm, _, h.2.symm⟩
  | some p =>
    simp only [bind_eq_ok, pure_eq_ok, deref_eq_ok, Prod.mk.injEq] at h
    obtain ⟨_, -, dp, hdp, h⟩ := h
    exact .inr ⟨dev, dp, p, hdev, by simpa using hb, rfl, hdp, h.1.symm, h.2.symm⟩

theorem initPortStatus_views {p : PortRef} (h : initPortStatus s p = .ok s') :
    s'.portAt = s.portAt ∧ s'.devAt = s.devAt ∧ s'.dps = s.dps ∧ s'.dpHeap = s.dpHeap := by
  simp only [initPortStatus, bind_eq_ok, deref_eq_ok, pure_eq_ok] at h
  obtain ⟨port, hp, dev, -, rfl⟩ := h
  refine ⟨funext fun q => ?_, rfl, rfl, rfl⟩
  by_cases hq : q = p
  · subst hq; simp [Sys.portAt, hp]
  · simp [Sys.portAt, hq]

theorem addSwitchPort_eq_ok {a : DpRef} {d : DevId} {alloc : Option PortRef} {r : Int}
    (h : addSwitchPort s a d alloc = .ok (s', r)) :
    s' = s ∨ ∃ dev dp n p, s.devs d = some dev ∧
      (dev.flags &&& iffLoopback = 0 ∧ dev.type = arphrdEther ∧ dev.isDpDev = false) ∧
      dev.brPort = none ∧ s.dpHeap a = some dp ∧ findPortno dp = some n ∧ alloc = some p ∧
      initPortStatus (attachPort s a dp d dev n p) p = .ok s' ∧ r = 0 := by
  simp only [addSwitchPort, bind_eq_ok, deref_eq_ok] at h
  obtain ⟨dev, hdev, h⟩ := h
  split_ifs at h with hchk
  · simp only [pure_eq_ok, Prod.mk.injEq] at h
    exact .inl h.1.symm
  simp only [bind_eq_ok, deref_eq_ok, pure_eq_ok] at h
  obtain ⟨_, -, dp, hdp, h⟩ := h
  split at h
  · rename_i n hn
    obtain ⟨⟨s₁, r₁⟩, hres, h⟩ := bind_eq_ok.1 h
    rcases newNbp_eq_ok hres with ⟨rfl, e, rfl⟩ | ⟨dev', dp', p, hdev', hbr, rfl, hdp', rfl, rfl⟩
    · simp only [pure_eq_ok, Prod.mk.injEq] at h
      exact .inl h.1.symm
    · rw [hdev] at hdev'
      cases hdev'
      rw [hdp] at hdp'
      cases hdp'
      simp only [bind_eq_ok, pure_eq_ok, Prod.mk.injEq] at h
      obtain ⟨s₂, hs₂, rfl, rfl⟩ := h
      exact .inr ⟨dev, dp, n, p, hdev, by simpa [not_or] using hchk, hbr, hdp, hn, rfl, hs₂, rfl⟩
  · simp only [pure_eq_ok, Prod.mk.injEq] at h
    exact .inl h.1.symm

theorem dpDelSwitchPort_eq_ok {p : PortRef} (h : dpDelSwitchPort s p = .ok s') :
    ∃ port dev dp, s.portHeap p = some port ∧ s.devs port.dev = some dev ∧
      s.dpHeap port.dp = some dp ∧ s' = detachPort s p port dev dp := by
  simp only [dpDelSwitchPort, bind_eq_ok, deref_eq_ok, pure_eq_ok] at h
  obtain ⟨port, hp, dev, hd, dp, hdp, rfl⟩ := h
  exact ⟨port, dev, dp, hp, hd, hdp, rfl⟩

theorem dpUpdatePortFlags_views {a : DpRef} {opm : PortMod} {r : Int}
    (h : dpUpdatePortFlags s a opm = .ok (s', r)) :
    s'.portAt = s.portAt ∧ s'.devAt = s.devAt ∧ s'.dps = s.dps ∧ s'.dpHeap = s.dpHeap := by
  simp only [dpUpdatePortFlags, bind_eq_ok, deref_eq_ok] at h
  obtain ⟨dp, -, h⟩ := h
  split at h
  · rename_i p _
    simp only [bind_eq_ok, deref_eq_ok] at h
    obtain ⟨port, hp, dev, -, h⟩ := h
    split_ifs at h <;> simp only [bind_eq_ok, pure_eq_ok, Prod.mk.injEq, exists_const, true_and] at h <;>
      obtain ⟨rfl, -⟩ := h
    · exact ⟨rfl, rfl, rfl, rfl⟩
    · exact ⟨rfl, rfl, rfl, rfl⟩
    · refine ⟨funext fun q => ?_, rfl, rfl, rfl⟩
      by_cases hq : q = p
      · subst hq; simp [Sys.portAt, hp]
      · simp [Sys.portAt, hq]
  · simp only [pure_eq_ok, Prod.mk.injEq] at h
    obtain ⟨rfl, -⟩ := h
    exact ⟨rfl, rfl, rfl, rfl⟩

theorem Inv.addSwitchPort (hs : Inv s) {i : Nat} {a : DpRef} (hi : s.dps i = some a)
    {d : DevId} {alloc : Option PortRef} (hfresh : ∀ p, alloc = some p → s.portHeap p = none)
    {r : Int} (h : addSwitchPort s a d alloc = .ok (s', r)) : Inv s' := by
  rcases addSwitchPort_eq_ok h with rfl | ⟨dev, dp, n, p, hdev, ⟨-, -, hdp⟩, hbr, hdpa, hn, rfl, hinit, -⟩
  · exact hs
  obtain ⟨hn0, hnm, hfree⟩ := findPortno_eq_some hn
  obtain ⟨h₁, h₂, h₃, h₄⟩ := initPortStatus_views hinit
  have hnl : n ≠ ofppLocal := by simp only [dpMaxPorts, ofppLocal] at hnm ⊢; omega
  refine inv_of_views ?_ h₁ h₂ h₃ h₄
  have hc := Coherent.attach hs hi hdpa ⟨hn0, hnm⟩ hfree (d := d) (p := p)
    (by simp [Sys.portAt, hfresh p rfl]) (by simp [Sys.devAt, hdev, hbr, hdp])
  unfold Inv
  simp only [portAt_attachPort, devAt_attachPort, dps_attachPort, hnl, hdp, ne_eq,
    not_false_eq_true, ite_true]
  simpa [attachPort, hnm] using hc

theorem Inv.dpDelSwitchPort (hs : Inv s) {d : DevId} {dev : NetDevice} {p : PortRef}
    (hd : s.devs d = some dev) (hp : dev.brPort = some p) (h : dpDelSwitchPort s p = .ok s') :
    Inv s' := by
  obtain ⟨j, b, dpb, n, hj, hb, hn, hpa⟩ := hs.brPort d p dev.isDpDev (by simp [Sys.devAt, hd, hp])
  obtain ⟨e, hpa', hda⟩ := (hs.wf j b dpb hj hb).slot n p hn
  rw [hpa] at hpa'
  cases hpa'
  obtain ⟨port, dev', dp', hport, hdev', hdp', rfl⟩ := dpDelSwitchPort_eq_ok h
  simp only [Sys.portAt, hport, Option.map_some', Option.some.injEq, Prod.mk.injEq] at hpa
  obtain ⟨hno, hdpb, hdv⟩ := hpa
  rw [hdpb, hb] at hdp'
  cases hdp'
  have hlt := (hs.wf j b dpb hj hb).slot_lt hn
  have hnl : n ≠ ofppLocal := by simp only [dpMaxPorts, ofppLocal] at hlt ⊢; omega
  have hflag : dev'.isDpDev = false := by
    have := hda
    simp only [Sys.devAt, ← hdv, hdev', Option.map_some', Option.some.injEq, Prod.mk.injEq] at this
    exact this.2
  have hc := Coherent.detach hs hj hb hn (by simp [Sys.portAt, hport, hno, hdpb, hdv]) hda
  unfold Inv
  simp only [portAt_detachPort, devAt_detachPort, dps_detachPort, hflag, hdv]
  simpa [detachPort, hdpb, hno, hnl] using hc

theorem Inv.dpUpdatePortFlags (hs : Inv s) {a : DpRef} {opm : PortMod} {r : Int}
    (h : dpUpdatePortFlags s a opm = .ok (s', r)) : Inv s' :=
  let ⟨h₁, h₂, h₃, h₄⟩ := dpUpdatePortFlags_views h
  inv_of_views hs h₁ h₂ h₃ h₄

end OpenflowDatapath
