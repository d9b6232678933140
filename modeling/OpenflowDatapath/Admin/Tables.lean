import OpenflowDatapath.Admin.Reach

/-! # The port tables of every reachable state

`PortTables` says, on the objects themselves rather than on the views, what the datapath's
code assumes of `dps`, `ports[]`, `port_list`, `local_port` and the devices' `br_port`. It
follows from `Inv`, so every state reachable by the administrative requests has it.
-/

namespace OpenflowDatapath

variable {s : Sys}

/-- The shape of the datapath table, the port tables and the device bindings. -/
structure PortTables (s : Sys) : Prop where
  -- `dps[i]->dp_idx = i`.
  dpIdx : ∀ i a, s.dps i = some a → ∃ dp, s.dpHeap a = some dp ∧ dp.dpIdx = i
  -- `ports[0]` is never used.
  slotZero : ∀ a dp, Live s a dp → dp.ports 0 = none
  -- An occupied slot holds a port of this datapath with that number, on `port_list`.
  slot : ∀ a dp n p, Live s a dp → dp.ports n = some p →
    ∃ port, s.portHeap p = some port ∧ port.portNo = n ∧ port.dp = a ∧ p ∈ dp.portList
  -- `port_list` has no repeated port.
  nodup : ∀ a dp, Live s a dp → dp.portList.Nodup
  -- `port_list` holds the slots `1 .. DP_MAX_PORTS - 1` and the local port.
  mem : ∀ a dp p, Live s a dp → (p ∈ dp.portList ↔
    dp.localPort = some p ∨ ∃ n, 0 < n ∧ n < dpMaxPorts ∧ dp.ports n = some p)
  -- The local port is `OFPP_LOCAL` on the datapath's own device.
  localPort : ∀ a dp, Live s a dp → ∃ lp port, dp.localPort = some lp ∧
    s.portHeap lp = some port ∧ port.portNo = ofppLocal ∧ dp.netdev = some port.dev
  -- A slot port's device is bound back to it.
  brPort : ∀ a dp n p, Live s a dp → dp.ports n = some p →
    ∃ port dev, s.portHeap p = some port ∧ s.devs port.dev = some dev ∧ dev.brPort = some p
  -- The datapath's own device is bound to no port.
  localDev : ∀ a dp, Live s a dp →
    ∃ d dev, dp.netdev = some d ∧ s.devs d = some dev ∧ dev.brPort = none
  -- A bound device is bound to a non-local port of a live datapath.
  bound : ∀ d dev p, s.devs d = some dev → dev.brPort = some p →
    ∃ a dp, Live s a dp ∧ p ∈ dp.portList ∧ dp.localPort ≠ some p
  -- No two ports of live datapaths share a device.
  devInj : ∀ a₁ dp₁ a₂ dp₂ p₁ p₂ port₁ port₂, Live s a₁ dp₁ → Live s a₂ dp₂ →
    p₁ ∈ dp₁.portList → p₂ ∈ dp₂.portList → s.portHeap p₁ = some port₁ →
    s.portHeap p₂ = some port₂ → port₁.dev = port₂.dev → p₁ = p₂
  -- At most `DP_MAX_PORTS` ports.
  length : ∀ a dp, Live s a dp → dp.portList.length ≤ dpMaxPorts
  -- `lookup_port` finds exactly the member of `port_list` with that number.
  lookup : ∀ a dp n p, Live s a dp →
    (lookupPort dp n = some p ↔ p ∈ dp.portList ∧ ∃ port, s.portHeap p = some port ∧ port.portNo = n)

section Facts

variable {pa : PortRef → Option (Nat × DpRef × DevId)} {da : DevId → Option (Option PortRef × Bool)}
  {a : DpRef} {dp : Datapath}

theorem DpWf.length_le (h : DpWf pa da a dp) : dp.portList.length ≤ dpMaxPorts := by
  have hsub : dp.portList ⊆
      dp.localPort.toList ++ (List.range' 1 (dpMaxPorts - 1)).filterMap dp.ports := by
    intro p hp
    rcases (h.mem p).1 hp with hl | ⟨n, hn⟩
    · simp [hl]
    · have := h.slot_lt hn
      exact List.mem_append_right _ (List.mem_filterMap.2 ⟨n, List.mem_range'_1.2 ⟨by omega,
        by omega⟩, hn⟩)
  calc dp.portList.length
      ≤ (dp.localPort.toList ++ (List.range' 1 (dpMaxPorts - 1)).filterMap dp.ports).length :=
        (List.subperm_of_subset h.nodup hsub).length_le
    _ ≤ 1 + (dpMaxPorts - 1) := by
        rw [List.length_append]
        exact Nat.add_le_add (by cases dp.localPort <;> simp)
          ((List.length_filterMap_le _ _).trans (List.length_range' _ _ _).le)
    _ = dpMaxPorts := by simp [dpMaxPorts]

theorem DpWf.lookupPort_eq_some (h : DpWf pa da a dp) {n : Nat} {p : PortRef} :
    lookupPort dp n = some p ↔ p ∈ dp.portList ∧ ∃ m d, pa p = some (m, a, d) ∧ m = n := by
  constructor
  · intro hl
    unfold lookupPort at hl
    split_ifs at hl with hn hloc
    · obtain ⟨d, hpa, -⟩ := h.slot n p hl
      exact ⟨(h.mem p).2 (.inr ⟨n, hl⟩), n, d, hpa, rfl⟩
    · obtain ⟨lp, d, hlp, -, hpa⟩ := h.localPort
      rw [hlp] at hl
      cases hl
      exact ⟨(h.mem _).2 (.inl hlp), ofppLocal, d, hpa, hloc.symm⟩
  · rintro ⟨hp, m, d, hpa, rfl⟩
    obtain ⟨m', d', hpa', hcase⟩ := h.port_of_mem hp
    rw [hpa] at hpa'
    cases hpa'
    rcases hcase with ⟨rfl, hl, -⟩ | ⟨hn, -⟩
    · simp [lookupPort, hl, ofppLocal, dpMaxPorts]
    · simp [lookupPort, hn, (h.slot_lt hn).2]

end Facts

theorem Inv.wf_of_live (hs : Inv s) {a : DpRef} {dp : Datapath} (h : Live s a dp) :
    DpWf s.portAt s.devAt a dp :=
  let ⟨⟨i, hi⟩, hdp⟩ := h
  hs.wf i a dp hi hdp

theorem Inv.portTables (hs : Inv s) : PortTables s where
  dpIdx := hs.dpsIdx
  slotZero _ _ h := (hs.wf_of_live h).slotZero
  slot a dp n p h hn := by
    have hw := hs.wf_of_live h
    obtain ⟨d, hpa, -⟩ := hw.slot n p hn
    obtain ⟨port, hport, hno, hdp, -⟩ := Sys.portAt_eq_some.1 hpa
    exact ⟨port, hport, hno, hdp, (hw.mem p).2 (.inr ⟨n, hn⟩)⟩
  nodup _ _ h := (hs.wf_of_live h).nodup
  mem a dp p h := by
    have hw := hs.wf_of_live h
    rw [hw.mem p]
    refine or_congr_right ⟨fun ⟨n, hn⟩ => ⟨n, (hw.slot_lt hn).1, (hw.slot_lt hn).2, hn⟩, ?_⟩
    rintro ⟨n, -, -, hn⟩
    exact ⟨n, hn⟩
  localPort a dp h := by
    obtain ⟨lp, d, hlp, hnd, hpa⟩ := (hs.wf_of_live h).localPort
    obtain ⟨port, hport, hno, -, rfl⟩ := Sys.portAt_eq_some.1 hpa
    exact ⟨lp, port, hlp, hport, hno, hnd⟩
  brPort a dp n p h hn := by
    obtain ⟨d, hpa, hda⟩ := (hs.wf_of_live h).slot n p hn
    obtain ⟨port, hport, -, -, rfl⟩ := Sys.portAt_eq_some.1 hpa
    obtain ⟨dev, hdev, hbr, -⟩ := Sys.devAt_eq_some.1 hda
    exact ⟨port, dev, hport, hdev, hbr⟩
  localDev a dp h := by
    obtain ⟨d, hnd, hda⟩ := (hs.wf_of_live h).netdev
    obtain ⟨dev, hdev, hbr, -⟩ := Sys.devAt_eq_some.1 hda
    exact ⟨d, dev, hnd, hdev, hbr⟩
  bound d dev p hdev hbr := by
    obtain ⟨i, a, dp, n, hi, hdp, hn, hpa⟩ :=
      hs.brPort d p dev.isDpDev (Sys.devAt_eq_some.2 ⟨dev, hdev, hbr, rfl⟩)
    have hw := hs.wf_of_live ⟨⟨i, hi⟩, hdp⟩
    refine ⟨a, dp, ⟨⟨i, hi⟩, hdp⟩, (hw.mem p).2 (.inr ⟨n, hn⟩), fun hlp => ?_⟩
    obtain ⟨lp, e, hlp', -, hlpa⟩ := hw.localPort
    rw [hlp] at hlp'
    cases hlp'
    rw [hpa] at hlpa
    have hlt := (hw.slot_lt hn).2
    simp only [Option.some.injEq, Prod.mk.injEq] at hlpa
    simp [hlpa.1, ofppLocal, dpMaxPorts] at hlt
  devInj a₁ dp₁ a₂ dp₂ p₁ p₂ port₁ port₂ h₁ h₂ hp₁ hp₂ hport₁ hport₂ hdev := by
    obtain ⟨⟨i₁, hi₁⟩, hdp₁⟩ := h₁
    obtain ⟨⟨i₂, hi₂⟩, hdp₂⟩ := h₂
    obtain ⟨n₁, d₁, hpa₁, -⟩ := (hs.wf i₁ a₁ dp₁ hi₁ hdp₁).port_of_mem hp₁
    obtain ⟨n₂, d₂, hpa₂, -⟩ := (hs.wf i₂ a₂ dp₂ hi₂ hdp₂).port_of_mem hp₂
    obtain ⟨q₁, hq₁, -, -, rfl⟩ := Sys.portAt_eq_some.1 hpa₁
    obtain ⟨q₂, hq₂, -, -, rfl⟩ := Sys.portAt_eq_some.1 hpa₂
    rw [hport₁] at hq₁
    rw [hport₂] at hq₂
    cases hq₁
    cases hq₂
    exact hs.dev_unique hi₁ hdp₁ hi₂ hdp₂ hp₁ hp₂ hpa₁ (hdev ▸ hpa₂)
  length _ _ h := (hs.wf_of_live h).length_le
  lookup a dp n p h := by
    have hw := hs.wf_of_live h
    rw [hw.lookupPort_eq_some]
    refine and_congr_right fun hm => ⟨?_, ?_⟩
    · rintro ⟨m, d, hpa, rfl⟩
      obtain ⟨port, hport, hno, -⟩ := Sys.portAt_eq_some.1 hpa
      exact ⟨port, hport, hno⟩
    · rintro ⟨port, hport, rfl⟩
      obtain ⟨m, d, hpa, -⟩ := hw.port_of_mem hm
      obtain ⟨q, hq, hno, -, -⟩ := Sys.portAt_eq_some.1 hpa
      rw [hport] at hq
      cases hq
      exact ⟨m, d, hpa, hno.symm⟩

theorem reach_port_tables (h : Reach s) : PortTables s :=
  h.inv.portTables

def addDp0 : AdminOp := .addDp { dpIdx := some 0, dpName := none, portName := none } demoEnv

def addEth0 : AdminOp :=
  .addPort { dpIdx := some 0, dpName := none, portName := some "eth0" } (some 0) (some 1)

def dp0Sys : Sys :=
  match adminStep bootSys addDp0 with
  | .ok (s, _) => s
  | .error _ => bootSys

def demoSys : Sys :=
  match adminStep bootSys addDp0 >>= fun (s, _) => adminStep s addEth0 with
  | .ok (s, _) => s
  | .error _ => bootSys

theorem reach_demoSys : Reach demoSys :=
  have hboot : Reach bootSys := .boot bootDevs fun d dev h => by
    simp only [bootDevs, Option.ite_none_right_eq_some, Option.some.injEq] at h
    obtain ⟨-, rfl⟩ := h
    rfl
  have hdp : Reach _ := @Reach.step bootSys _ addDp0 _ hboot
    (by simp [AdminOp.Env, addDp0, demoEnv, bootSys, bootDevs]) rfl
  @Reach.step _ _ addEth0 _ hdp ⟨fun _ h => by cases h; rfl, fun _ h => by cases h; rfl⟩ rfl

theorem port_tables_demoSys : PortTables demoSys :=
  reach_port_tables reach_demoSys

/-- Datapath 0 of `demoSys`: local port 0 on device 1, and `eth0` as port 1. -/
def demoDp : Datapath :=
  match demoSys.dpHeap 0 with
  | some dp => dp
  | none => newDpRecord 0 1 0

end OpenflowDatapath
