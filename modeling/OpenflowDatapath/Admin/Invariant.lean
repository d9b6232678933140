import OpenflowDatapath.Admin.Ops

/-! # The port-table invariant

`Coherent` relates the `dps` table, the datapath records and two views of the heaps: for a
port its number, datapath and device, for a device its `br_port` and whether it is a
datapath's own device. Configuration bits, counters and names are outside the views, so an
operation that only changes them keeps the invariant by rewriting.
-/

namespace OpenflowDatapath

open Function

def Sys.portAt (s : Sys) (p : PortRef) : Option (Nat × DpRef × DevId) :=
  (s.portHeap p).map fun port => (port.portNo, port.dp, port.dev)

def Sys.devAt (s : Sys) (d : DevId) : Option (Option PortRef × Bool) :=
  (s.devs d).map fun dev => (dev.brPort, dev.isDpDev)

theorem Sys.portAt_eq_some {s : Sys} {p : PortRef} {n : Nat} {a : DpRef} {d : DevId} :
    s.portAt p = some (n, a, d) ↔
      ∃ port, s.portHeap p = some port ∧ port.portNo = n ∧ port.dp = a ∧ port.dev = d := by
  simp [Sys.portAt]

theorem Sys.devAt_eq_some {s : Sys} {d : DevId} {b : Option PortRef} {x : Bool} :
    s.devAt d = some (b, x) ↔ ∃ dev, s.devs d = some dev ∧ dev.brPort = b ∧ dev.isDpDev = x := by
  simp [Sys.devAt]

section Shape

variable (portAt : PortRef → Option (Nat × DpRef × DevId))
  (devAt : DevId → Option (Option PortRef × Bool))

/-- A live datapath's ports: the local port, a slot per other port, each once on `port_list`. -/
structure DpWf (a : DpRef) (dp : Datapath) : Prop where
  netdev : ∃ d, dp.netdev = some d ∧ devAt d = some (none, true)
  localPort : ∃ lp d, dp.localPort = some lp ∧ dp.netdev = some d ∧
    portAt lp = some (ofppLocal, a, d)
  slotZero : dp.ports 0 = none
  slotRange : ∀ n, dpMaxPorts ≤ n → dp.ports n = none
  slot : ∀ n p, dp.ports n = some p →
    ∃ d, portAt p = some (n, a, d) ∧ devAt d = some (some p, false)
  nodup : dp.portList.Nodup
  mem : ∀ p, p ∈ dp.portList ↔ dp.localPort = some p ∨ ∃ n, dp.ports n = some p

/-- Published datapaths are allocated, indexed and well formed; bound devices are bound to them. -/
structure Coherent (dps : Nat → Option DpRef) (dpHeap : DpRef → Option Datapath) : Prop where
  dpsRange : ∀ i, dpMax ≤ i → dps i = none
  dpsIdx : ∀ i a, dps i = some a → ∃ dp, dpHeap a = some dp ∧ dp.dpIdx = i
  wf : ∀ i a dp, dps i = some a → dpHeap a = some dp → DpWf portAt devAt a dp
  brPort : ∀ d p x, devAt d = some (some p, x) →
    ∃ i a dp n, dps i = some a ∧ dpHeap a = some dp ∧ dp.ports n = some p ∧
      portAt p = some (n, a, d)
  netdevInj : ∀ i₁ a₁ dp₁ i₂ a₂ dp₂, dps i₁ = some a₁ → dpHeap a₁ = some dp₁ →
    dps i₂ = some a₂ → dpHeap a₂ = some dp₂ → dp₁.netdev = dp₂.netdev → a₁ = a₂

end Shape

/-- The invariant of every reachable state. -/
def Inv (s : Sys) : Prop := Coherent s.portAt s.devAt s.dps s.dpHeap

section Facts

variable {pa : PortRef → Option (Nat × DpRef × DevId)} {da : DevId → Option (Option PortRef × Bool)}
  {a : DpRef} {dp : Datapath}

namespace DpWf

theorem netdev_eq (h : DpWf pa da a dp) {d : DevId} (hd : dp.netdev = some d) :
    da d = some (none, true) := by
  obtain ⟨d', hd', h'⟩ := h.netdev
  rw [hd] at hd'
  cases hd'
  exact h'

theorem port_of_mem (h : DpWf pa da a dp) {p : PortRef} (hp : p ∈ dp.portList) :
    ∃ n d, pa p = some (n, a, d) ∧
      ((n = ofppLocal ∧ dp.localPort = some p ∧ dp.netdev = some d ∧ da d = some (none, true)) ∨
       (dp.ports n = some p ∧ da d = some (some p, false))) := by
  rcases (h.mem p).1 hp with hl | ⟨n, hn⟩
  · obtain ⟨lp, d, hlp, hd, hpa⟩ := h.localPort
    rw [hlp] at hl
    cases hl
    exact ⟨_, d, hpa, .inl ⟨rfl, hlp, hd, h.netdev_eq hd⟩⟩
  · obtain ⟨d, hpa, hda⟩ := h.slot n p hn
    exact ⟨n, d, hpa, .inr ⟨hn, hda⟩⟩

theorem slot_lt (h : DpWf pa da a dp) {n : Nat} {p : PortRef} (hn : dp.ports n = some p) :
    0 < n ∧ n < dpMaxPorts := by
  refine ⟨Nat.pos_of_ne_zero fun h0 => ?_, Nat.lt_of_not_le fun hle => ?_⟩
  · rw [h0, h.slotZero] at hn; cases hn
  · rw [h.slotRange n hle] at hn; cases hn

theorem frame (h : DpWf pa da a dp) {pa' : PortRef → Option (Nat × DpRef × DevId)}
    {da' : DevId → Option (Option PortRef × Bool)}
    (hp : ∀ p ∈ dp.portList, pa' p = pa p)
    (hd : ∀ p ∈ dp.portList, ∀ n b d, pa p = some (n, b, d) → da' d = da d) :
    DpWf pa' da' a dp where
  netdev := by
    obtain ⟨lp, d, hlp, hnd, hpa⟩ := h.localPort
    have hm : lp ∈ dp.portList := (h.mem lp).2 (.inl hlp)
    exact ⟨d, hnd, (hd lp hm _ _ _ hpa).trans (h.netdev_eq hnd)⟩
  localPort := by
    obtain ⟨lp, d, hlp, hnd, hpa⟩ := h.localPort
    exact ⟨lp, d, hlp, hnd, (hp lp ((h.mem lp).2 (.inl hlp))).trans hpa⟩
  slotZero := h.slotZero
  slotRange := h.slotRange
  slot n p hn := by
    obtain ⟨d, hpa, hda⟩ := h.slot n p hn
    have hm : p ∈ dp.portList := (h.mem p).2 (.inr ⟨n, hn⟩)
    exact ⟨d, (hp p hm).trans hpa, (hd p hm _ _ _ hpa).trans hda⟩
  nodup := h.nodup
  mem := h.mem

theorem addSlot (h : DpWf pa da a dp) {n : Nat} {p : PortRef} {d : DevId}
    (hn : 0 < n ∧ n < dpMaxPorts) (hfree : dp.ports n = none) (hp : pa p = none)
    (hd : ∀ q ∈ dp.portList, ∀ m b, pa q ≠ some (m, b, d)) :
    DpWf (update pa p (some (n, a, d))) (update da d (some (some p, false))) a
      { dp with ports := update dp.ports n (some p), portList := p :: dp.portList } := by
  have hne : ∀ q ∈ dp.portList, q ≠ p := fun q hq hqp => by
    obtain ⟨_, _, hq', -⟩ := h.port_of_mem hq
    rw [hqp, hp] at hq'
    cases hq'
  obtain ⟨lp, e, hlp, he, hpa⟩ := h.localPort
  have hlm : lp ∈ dp.portList := (h.mem lp).2 (.inl hlp)
  have hed : e ≠ d := by rintro rfl; exact hd lp hlm _ _ hpa
  refine ⟨⟨e, he, by rw [update_noteq hed]; exact h.netdev_eq he⟩,
    ⟨lp, e, hlp, he, by rw [update_noteq (hne lp hlm)]; exact hpa⟩, ?_, ?_, ?_, ?_, ?_⟩
  · simp only [update_noteq (Nat.pos_iff_ne_zero.1 hn.1).symm, h.slotZero]
  · intro m hm
    simp only [update_noteq (show m ≠ n by omega), h.slotRange m hm]
  · intro m q hq
    dsimp only at hq
    by_cases hmn : m = n
    · subst hmn
      simp only [update_same, Option.some.injEq] at hq
      subst hq
      exact ⟨d, update_same .., update_same ..⟩
    · rw [update_noteq hmn] at hq
      obtain ⟨e', hpa', hda'⟩ := h.slot m q hq
      have hqm : q ∈ dp.portList := (h.mem q).2 (.inr ⟨m, hq⟩)
      have he' : e' ≠ d := by rintro rfl; exact hd q hqm _ _ hpa'
      exact ⟨e', by rw [update_noteq (hne q hqm)]; exact hpa', by rw [update_noteq he']; exact hda'⟩
  · exact List.nodup_cons.2 ⟨fun hm => hne p hm rfl, h.nodup⟩
  · intro q
    dsimp only
    simp only [List.mem_cons]
    constructor
    · rintro (rfl | hq)
      · exact .inr ⟨n, update_same ..⟩
      · rcases (h.mem q).1 hq with hl | ⟨m, hm⟩
        · exact .inl hl
        · refine .inr ⟨m, ?_⟩
          rwa [update_noteq (show m ≠ n by rintro rfl; rw [hfree] at hm; cases hm)]
    · rintro (hl | ⟨m, hm⟩)
      · exact .inr ((h.mem q).2 (.inl hl))
      · by_cases hmn : m = n
        · subst hmn
          simp only [update_same, Option.some.injEq] at hm
          exact .inl hm.symm
        · rw [update_noteq hmn] at hm
          exact .inr ((h.mem q).2 (.inr ⟨m, hm⟩))

theorem removeSlot (h : DpWf pa da a dp) {n : Nat} {p : PortRef} {d : DevId}
    (hn : dp.ports n = some p) (hpa : pa p = some (n, a, d))
    (hda : da d = some (some p, false)) :
    DpWf (update pa p none) (update da d (some (none, false))) a
      { dp with portList := dp.portList.erase p, ports := update dp.ports n none } := by
  have hlt := h.slot_lt hn
  obtain ⟨lp, e, hlp, he, hlpa⟩ := h.localPort
  have hed : e ≠ d := by rintro rfl; rw [h.netdev_eq he] at hda; cases hda
  have hlpp : lp ≠ p := by
    rintro rfl; rw [hpa] at hlpa; cases hlpa; simp [dpMaxPorts, ofppLocal] at hlt
  refine ⟨⟨e, he, by rw [update_noteq hed]; exact h.netdev_eq he⟩,
    ⟨lp, e, hlp, he, by rw [update_noteq hlpp]; exact hlpa⟩, ?_, ?_, ?_, h.nodup.erase p, ?_⟩
  · by_cases h0 : 0 = n <;> simp [update_apply, h0, h.slotZero]
  · intro m hm
    by_cases hmn : m = n <;> simp [update_apply, hmn, h.slotRange m hm]
  · intro m q hq
    dsimp only at hq
    have hmn : m ≠ n := by rintro rfl; simp at hq
    rw [update_noteq hmn] at hq
    obtain ⟨e', hpa', hda'⟩ := h.slot m q hq
    have hqp : q ≠ p := by rintro rfl; rw [hpa] at hpa'; cases hpa'; exact hmn rfl
    have he' : e' ≠ d := by rintro rfl; rw [hda] at hda'; cases hda'; exact hqp rfl
    exact ⟨e', by rw [update_noteq hqp]; exact hpa', by rw [update_noteq he']; exact hda'⟩
  · intro q
    dsimp only
    rw [h.nodup.mem_erase_iff, h.mem q]
    constructor
    · rintro ⟨hqp, hl | ⟨m, hm⟩⟩
      · exact .inl hl
      · refine .inr ⟨m, ?_⟩
        rwa [update_noteq (show m ≠ n by rintro rfl; rw [hn] at hm; cases hm; exact hqp rfl)]
    · rintro (hl | ⟨m, hm⟩)
      · exact ⟨by rintro rfl; exact hlpp (Option.some.inj (hlp.symm.trans hl)), .inl hl⟩
      · have hmn : m ≠ n := by rintro rfl; simp at hm
        rw [update_noteq hmn] at hm
        refine ⟨?_, .inr ⟨m, hm⟩⟩
        rintro rfl
        obtain ⟨_, h', -⟩ := h.slot m _ hm
        rw [hpa] at h'
        cases h'
        exact hmn rfl

end DpWf

namespace Coherent

variable {dps : Nat → Option DpRef} {dh : DpRef → Option Datapath}

theorem dps_inj (hc : Coherent pa da dps dh) {i j : Nat} {a : DpRef} (hi : dps i = some a)
    (hj : dps j = some a) : i = j := by
  obtain ⟨dp, hdp, rfl⟩ := hc.dpsIdx i a hi
  obtain ⟨dp', hdp', rfl⟩ := hc.dpsIdx j a hj
  rw [hdp] at hdp'
  cases hdp'
  rfl

theorem dev_unique (hc : Coherent pa da dps dh) {i₁ i₂ : Nat} {a₁ a₂ : DpRef}
    {dp₁ dp₂ : Datapath} (h₁ : dps i₁ = some a₁) (hd₁ : dh a₁ = some dp₁)
    (h₂ : dps i₂ = some a₂) (hd₂ : dh a₂ = some dp₂) {p₁ p₂ : PortRef}
    (hp₁ : p₁ ∈ dp₁.portList) (hp₂ : p₂ ∈ dp₂.portList) {n₁ n₂ : Nat} {d : DevId}
    (hpa₁ : pa p₁ = some (n₁, a₁, d)) (hpa₂ : pa p₂ = some (n₂, a₂, d)) : p₁ = p₂ := by
  obtain ⟨m₁, e₁, hq₁, hc₁⟩ := (hc.wf _ _ _ h₁ hd₁).port_of_mem hp₁
  obtain ⟨m₂, e₂, hq₂, hc₂⟩ := (hc.wf _ _ _ h₂ hd₂).port_of_mem hp₂
  rw [hpa₁] at hq₁
  rw [hpa₂] at hq₂
  cases hq₁
  cases hq₂
  rcases hc₁ with ⟨rfl, hl₁, hn₁, hda₁⟩ | ⟨-, hda₁⟩ <;>
    rcases hc₂ with ⟨rfl, hl₂, hn₂, hda₂⟩ | ⟨-, hda₂⟩
  · obtain rfl := hc.netdevInj _ _ _ _ _ _ h₁ hd₁ h₂ hd₂ (hn₁.trans hn₂.symm)
    rw [hd₁] at hd₂
    cases hd₂
    rw [hl₁] at hl₂
    cases hl₂
    rfl
  all_goals rw [hda₁] at hda₂; cases hda₂
  rfl

theorem dp_of_mem (hc : Coherent pa da dps dh) {i₁ i₂ : Nat} {a₁ a₂ : DpRef}
    {dp₁ dp₂ : Datapath} (h₁ : dps i₁ = some a₁) (hd₁ : dh a₁ = some dp₁)
    (h₂ : dps i₂ = some a₂) (hd₂ : dh a₂ = some dp₂) {p : PortRef}
    (hp₁ : p ∈ dp₁.portList) (hp₂ : p ∈ dp₂.portList) : a₁ = a₂ := by
  obtain ⟨_, _, hq₁, -⟩ := (hc.wf _ _ _ h₁ hd₁).port_of_mem hp₁
  obtain ⟨_, _, hq₂, -⟩ := (hc.wf _ _ _ h₂ hd₂).port_of_mem hp₂
  rw [hq₁] at hq₂
  cases hq₂
  rfl

/-- The invariant survives a change to one live datapath's footprint that keeps it well formed. -/
theorem replace (hc : Coherent pa da dps dh) {i : Nat} (hi : dps i = some a) (ha : dh a = some dp)
    {pa' : PortRef → Option (Nat × DpRef × DevId)} {da' : DevId → Option (Option PortRef × Bool)}
    {dp' : Datapath} (hidx : dp'.dpIdx = dp.dpIdx) (hnet : dp'.netdev = dp.netdev)
    (hwf : DpWf pa' da' a dp')
    (hfoot : ∀ j b dpb, dps j = some b → dh b = some dpb → b ≠ a →
      (∀ q ∈ dpb.portList, pa' q = pa q) ∧
      (∀ q ∈ dpb.portList, ∀ m c e, pa q = some (m, c, e) → da' e = da e))
    (hbr : ∀ e q x, da' e = some (some q, x) →
      (∃ m, dp'.ports m = some q ∧ pa' q = some (m, a, e)) ∨
      (da e = some (some q, x) ∧ pa' q = pa q ∧ ∀ m, dp.ports m = some q → dp'.ports m = some q)) :
    Coherent pa' da' dps (update dh a (some dp')) := by
  have hrec : ∀ b dpb, update dh a (some dp') b = some dpb →
      ∃ dpb₀, dh b = some dpb₀ ∧ dpb.netdev = dpb₀.netdev ∧ dpb.dpIdx = dpb₀.dpIdx := by
    intro b dpb hb
    by_cases hba : b = a
    · subst hba
      rw [update_same] at hb
      cases hb
      exact ⟨dp, ha, hnet, hidx⟩
    · rw [update_noteq hba] at hb
      exact ⟨dpb, hb, rfl, rfl⟩
  refine ⟨hc.dpsRange, fun j b hj => ?_, fun j b dpb hj hb => ?_, fun e q x hx => ?_, ?_⟩
  · obtain ⟨dpb, hb, rfl⟩ := hc.dpsIdx j b hj
    by_cases hba : b = a
    · subst hba
      rw [ha] at hb
      cases hb
      exact ⟨dp', update_same .., hidx⟩
    · exact ⟨dpb, by rw [update_noteq hba]; exact hb, rfl⟩
  · by_cases hba : b = a
    · subst hba
      rw [update_same] at hb
      cases hb
      exact hwf
    · rw [update_noteq hba] at hb
      obtain ⟨h₁, h₂⟩ := hfoot j b dpb hj hb hba
      exact (hc.wf j b dpb hj hb).frame h₁ h₂
  · rcases hbr e q x hx with ⟨m, hm, hpa⟩ | ⟨hold, hpa, hkeep⟩
    · exact ⟨i, a, dp', m, hi, update_same .., hm, hpa⟩
    · obtain ⟨j, b, dpb, m, hj, hb, hm, hpq⟩ := hc.brPort e q x hold
      by_cases hba : b = a
      · subst hba
        rw [ha] at hb
        cases hb
        exact ⟨j, b, dp', m, hj, update_same .., hkeep m hm, hpa.trans hpq⟩
      · exact ⟨j, b, dpb, m, hj, by rw [update_noteq hba]; exact hb, hm, hpa.trans hpq⟩
  · intro j₁ b₁ d₁ j₂ b₂ d₂ h₁ hb₁ h₂ hb₂ heq
    obtain ⟨e₁, he₁, hn₁, -⟩ := hrec b₁ d₁ hb₁
    obtain ⟨e₂, he₂, hn₂, -⟩ := hrec b₂ d₂ hb₂
    exact hc.netdevInj _ _ _ _ _ _ h₁ he₁ h₂ he₂ (hn₁.symm.trans (heq.trans hn₂))

theorem attach (hc : Coherent pa da dps dh) {i : Nat} (hi : dps i = some a) (ha : dh a = some dp)
    {n : Nat} {p : PortRef} {d : DevId} (hn : 0 < n ∧ n < dpMaxPorts)
    (hfree : dp.ports n = none) (hp : pa p = none) (hd : da d = some (none, false)) :
    Coherent (update pa p (some (n, a, d))) (update da d (some (some p, false))) dps
      (update dh a (some { dp with ports := update dp.ports n (some p),
                                   portList := p :: dp.portList })) := by
  have hfootd : ∀ j b dpb, dps j = some b → dh b = some dpb →
      ∀ q ∈ dpb.portList, ∀ m c e, pa q = some (m, c, e) → q ≠ p ∧ e ≠ d := by
    intro j b dpb hj hb q hq m c e hpq
    obtain ⟨m', e', hq', hcase⟩ := (hc.wf j b dpb hj hb).port_of_mem hq
    rw [hpq] at hq'
    cases hq'
    refine ⟨fun hqp => ?_, fun hed => ?_⟩
    · rw [hqp, hp] at hpq
      cases hpq
    subst hed
    rcases hcase with ⟨-, -, -, h'⟩ | ⟨-, h'⟩ <;> rw [hd] at h' <;> cases h'
  refine hc.replace hi ha rfl rfl ?_ ?_ ?_
  · refine (hc.wf i a dp hi ha).addSlot hn hfree hp fun q hq m b hpq => ?_
    exact (hfootd i a dp hi ha q hq m b d hpq).2 rfl
  · intro j b dpb hj hb _
    refine ⟨fun q hq => ?_, fun q hq m c e hpq => ?_⟩
    · obtain ⟨_, _, hpq, -⟩ := (hc.wf j b dpb hj hb).port_of_mem hq
      exact update_noteq (hfootd j b dpb hj hb q hq _ _ _ hpq).1 _ _
    · exact update_noteq (hfootd j b dpb hj hb q hq m c e hpq).2 _ _
  · intro e q x hx
    by_cases hed : e = d
    · subst hed
      simp only [update_same, Option.some.injEq, Prod.mk.injEq] at hx
      obtain ⟨rfl, -⟩ := hx
      exact .inl ⟨n, update_same .., update_same ..⟩
    · rw [update_noteq hed] at hx
      obtain ⟨j, b, dpb, m, hj, hb, hm, hpq⟩ := hc.brPort e q x hx
      have hqp : q ≠ p := by rintro rfl; rw [hp] at hpq; cases hpq
      refine .inr ⟨hx, update_noteq hqp _ _, fun m' hm' => ?_⟩
      have hm'n : m' ≠ n := by rintro rfl; rw [hfree] at hm'; cases hm'
      simp only [update_noteq hm'n, hm']

theorem detach (hc : Coherent pa da dps dh) {i : Nat} (hi : dps i = some a) (ha : dh a = some dp)
    {n : Nat} {p : PortRef} {d : DevId} (hn : dp.ports n = some p)
    (hpa : pa p = some (n, a, d)) (hda : da d = some (some p, false)) :
    Coherent (update pa p none) (update da d (some (none, false))) dps
      (update dh a (some { dp with portList := dp.portList.erase p,
                                   ports := update dp.ports n none })) := by
  have hw := hc.wf i a dp hi ha
  have hpm : p ∈ dp.portList := (hw.mem p).2 (.inr ⟨n, hn⟩)
  refine hc.replace hi ha rfl rfl (hw.removeSlot hn hpa hda) ?_ ?_
  · intro j b dpb hj hb hba
    have hqp : ∀ q ∈ dpb.portList, q ≠ p := fun q hq hqp =>
      hba (hc.dp_of_mem hj hb hi ha (hqp ▸ hq) hpm)
    refine ⟨fun q hq => update_noteq (hqp q hq) _ _, fun q hq m c e hpq => ?_⟩
    obtain ⟨_, _, hpq', -⟩ := (hc.wf j b dpb hj hb).port_of_mem hq
    rw [hpq] at hpq'
    cases hpq'
    refine update_noteq (fun hed => hqp q hq ?_) _ _
    subst hed
    exact hc.dev_unique hj hb hi ha hq hpm hpq hpa
  · intro e q x hx
    have hed : e ≠ d := by rintro rfl; simp at hx
    rw [update_noteq hed] at hx
    obtain ⟨j, b, dpb, m, hj, hb, hm, hpq⟩ := hc.brPort e q x hx
    have hqp : q ≠ p := by rintro rfl; rw [hpa] at hpq; cases hpq; exact hed rfl
    refine .inr ⟨hx, update_noteq hqp _ _, fun m' hm' => ?_⟩
    have hm'n : m' ≠ n := by rintro rfl; rw [hn] at hm'; cases hm'; exact hqp rfl
    simp only [update_noteq hm'n, hm']

theorem leak (hc : Coherent pa da dps dh) {p : PortRef} (hp : pa p = none)
    (v : Option (Nat × DpRef × DevId)) : Coherent (update pa p v) da dps dh := by
  have hne : ∀ j b dpb, dps j = some b → dh b = some dpb → ∀ q ∈ dpb.portList, q ≠ p := by
    intro j b dpb hj hb q hq hqp
    obtain ⟨_, _, hpq, -⟩ := (hc.wf j b dpb hj hb).port_of_mem hq
    rw [hqp, hp] at hpq
    cases hpq
  refine ⟨hc.dpsRange, hc.dpsIdx, fun j b dpb hj hb => ?_, fun e q x hx => ?_, hc.netdevInj⟩
  · exact (hc.wf j b dpb hj hb).frame (fun q hq => update_noteq (hne j b dpb hj hb q hq) _ _)
      fun _ _ _ _ _ _ => rfl
  · obtain ⟨j, b, dpb, m, hj, hb, hm, hpq⟩ := hc.brPort e q x hx
    have hqp : q ≠ p := by rintro rfl; rw [hp] at hpq; cases hpq
    exact ⟨j, b, dpb, m, hj, hb, hm, by rw [update_noteq hqp]; exact hpq⟩

theorem create (hc : Coherent pa da dps dh) {i : Nat} {p : PortRef} {d : DevId}
    (hiR : i < dpMax) (hi : dps i = none) (ha : dh a = none) (hp : pa p = none) (hd : da d = none)
    (hidx : dp.dpIdx = i) (hnet : dp.netdev = some d) (hports : ∀ n, dp.ports n = none)
    (hlist : dp.portList = [p]) (hlocal : dp.localPort = some p) :
    Coherent (update pa p (some (ofppLocal, a, d))) (update da d (some (none, true)))
      (update dps i (some a)) (update dh a (some dp)) := by
  have hba : ∀ b dpb, dh b = some dpb → b ≠ a := by rintro b dpb hb rfl; rw [ha] at hb; cases hb
  have hcases : ∀ j b dpb, update dps i (some a) j = some b → update dh a (some dp) b = some dpb →
      (j = i ∧ b = a ∧ dpb = dp) ∨ (j ≠ i ∧ b ≠ a ∧ dps j = some b ∧ dh b = some dpb) := by
    intro j b dpb hj hb
    by_cases hji : j = i
    · subst hji
      simp only [update_same, Option.some.injEq] at hj
      subst hj
      simp only [update_same, Option.some.injEq] at hb
      exact .inl ⟨rfl, rfl, hb.symm⟩
    · rw [update_noteq hji] at hj
      obtain ⟨dpb₀, hb₀, -⟩ := hc.dpsIdx j b hj
      have hb' := hba b dpb₀ hb₀
      rw [update_noteq hb'] at hb
      exact .inr ⟨hji, hb', hj, hb⟩
  have hfoot : ∀ j b dpb, dps j = some b → dh b = some dpb → ∀ q ∈ dpb.portList,
      q ≠ p ∧ ∀ m c e, pa q = some (m, c, e) → e ≠ d := by
    intro j b dpb hj hb q hq
    obtain ⟨m, e, hpq, hcase⟩ := (hc.wf j b dpb hj hb).port_of_mem hq
    refine ⟨(by rintro rfl; rw [hp] at hpq; cases hpq), fun m' c e' hpq' => ?_⟩
    rw [hpq] at hpq'
    cases hpq'
    rintro rfl
    rcases hcase with ⟨-, -, -, h'⟩ | ⟨-, h'⟩ <;> rw [hd] at h' <;> cases h'
  refine ⟨fun j hj => ?_, fun j b hj => ?_, fun j b dpb hj hb => ?_, fun e q x hx => ?_, ?_⟩
  · rw [update_noteq (show j ≠ i by omega)]
    exact hc.dpsRange j hj
  · by_cases hji : j = i
    · subst hji
      simp only [update_same, Option.some.injEq] at hj
      subst hj
      exact ⟨dp, update_same .., hidx⟩
    · rw [update_noteq hji] at hj
      obtain ⟨dpb, hb, hidx'⟩ := hc.dpsIdx j b hj
      exact ⟨dpb, by rw [update_noteq (hba b dpb hb)]; exact hb, hidx'⟩
  · rcases hcases j b dpb hj hb with ⟨-, rfl, rfl⟩ | ⟨-, -, hj', hb'⟩
    · refine ⟨⟨d, hnet, update_same ..⟩, ⟨p, d, hlocal, hnet, update_same ..⟩, hports 0,
        fun n _ => hports n, fun n q hq => (by rw [hports n] at hq; cases hq), (by simp [hlist]),
        fun q => ?_⟩
      simp [hlist, hlocal, hports, eq_comm]
    · exact (hc.wf j b dpb hj' hb').frame (fun q hq => update_noteq (hfoot j b dpb hj' hb' q hq).1 _ _)
        fun q hq m c e hpq => update_noteq ((hfoot j b dpb hj' hb' q hq).2 m c e hpq) _ _
  · have hed : e ≠ d := by rintro rfl; simp at hx
    rw [update_noteq hed] at hx
    obtain ⟨j, b, dpb, m, hj, hb, hm, hpq⟩ := hc.brPort e q x hx
    have hji : j ≠ i := by rintro rfl; rw [hi] at hj; cases hj
    have hqp : q ≠ p := by rintro rfl; rw [hp] at hpq; cases hpq
    exact ⟨j, b, dpb, m, by rw [update_noteq hji]; exact hj,
      by rw [update_noteq (hba b dpb hb)]; exact hb, hm, by rw [update_noteq hqp]; exact hpq⟩
  · intro j₁ b₁ d₁ j₂ b₂ d₂ h₁ hb₁ h₂ hb₂ heq
    have hnew : ∀ j b dpb, dps j = some b → dh b = some dpb → dpb.netdev ≠ some d := by
      intro j b dpb hj hb hn
      have := (hc.wf j b dpb hj hb).netdev_eq hn
      rw [hd] at this
      cases this
    rcases hcases j₁ b₁ d₁ h₁ hb₁ with ⟨-, rfl, rfl⟩ | ⟨-, -, h₁', hb₁'⟩ <;>
      rcases hcases j₂ b₂ d₂ h₂ hb₂ with ⟨-, rfl, rfl⟩ | ⟨-, -, h₂', hb₂'⟩
    · rfl
    · exact absurd (heq.symm.trans hnet) (hnew _ _ _ h₂' hb₂')
    · exact absurd (heq.trans hnet) (hnew _ _ _ h₁' hb₁')
    · exact hc.netdevInj _ _ _ _ _ _ h₁' hb₁' h₂' hb₂' heq

theorem destroy (hc : Coherent pa da dps dh) {i : Nat} (hi : dps i = some a) (ha : dh a = some dp)
    {pa' : PortRef → Option (Nat × DpRef × DevId)} {da' : DevId → Option (Option PortRef × Bool)}
    (hpa : ∀ q, q ∉ dp.portList → pa' q = pa q)
    (hda : ∀ e, (∀ q ∈ dp.portList, ∀ m c, pa q ≠ some (m, c, e)) → da' e = da e)
    (hdown : ∀ q ∈ dp.portList, ∀ m c e, pa q = some (m, c, e) → ∀ q' x, da' e ≠ some (some q', x)) :
    Coherent pa' da' (update dps i none) (update dh a none) := by
  have hold : ∀ j b, update dps i none j = some b → j ≠ i ∧ b ≠ a ∧ dps j = some b := by
    intro j b hj
    have hji : j ≠ i := by rintro rfl; simp at hj
    rw [update_noteq hji] at hj
    exact ⟨hji, by rintro rfl; exact hji (hc.dps_inj hj hi), hj⟩
  have hout : ∀ j b dpb, dps j = some b → dh b = some dpb → b ≠ a → ∀ q ∈ dpb.portList,
      q ∉ dp.portList ∧ ∀ m c e, pa q = some (m, c, e) → da' e = da e := by
    intro j b dpb hj hb hba q hq
    refine ⟨fun hq' => hba (hc.dp_of_mem hj hb hi ha hq hq'), fun m c e hpq => hda e ?_⟩
    intro q' hq' m' c' hpq'
    obtain ⟨_, _, hpq₀, -⟩ := (hc.wf j b dpb hj hb).port_of_mem hq
    rw [hpq] at hpq₀
    cases hpq₀
    obtain rfl := hc.dev_unique hj hb hi ha hq hq' hpq (by
      obtain ⟨_, _, h', -⟩ := (hc.wf i a dp hi ha).port_of_mem hq'
      rw [hpq'] at h'
      cases h'
      exact hpq')
    exact hba (hc.dp_of_mem hj hb hi ha hq hq')
  refine ⟨fun j hj => ?_, fun j b hj => ?_, fun j b dpb hj hb => ?_, fun e q x hx => ?_,
    fun j₁ b₁ d₁ j₂ b₂ d₂ h₁ hb₁ h₂ hb₂ heq => ?_⟩
  · by_cases hji : j = i
    · subst hji; exact update_same ..
    · rw [update_noteq hji]; exact hc.dpsRange j hj
  · obtain ⟨-, hba, hj⟩ := hold j b hj
    rw [update_noteq hba]
    exact hc.dpsIdx j b hj
  · obtain ⟨-, hba, hj⟩ := hold j b hj
    rw [update_noteq hba] at hb
    exact (hc.wf j b dpb hj hb).frame (fun q hq => hpa q (hout j b dpb hj hb hba q hq).1)
      fun q hq => (hout j b dpb hj hb hba q hq).2
  · have hnot : ∀ q' ∈ dp.portList, ∀ m c, pa q' ≠ some (m, c, e) :=
      fun q' hq' m c hpq' => hdown q' hq' m c e hpq' q x hx
    rw [hda e hnot] at hx
    obtain ⟨j, b, dpb, m, hj, hb, hm, hpq⟩ := hc.brPort e q x hx
    have hba : b ≠ a := by
      rintro rfl
      rw [ha] at hb
      cases hb
      exact hnot q ((hc.wf i _ dp hi ha).mem q |>.2 (.inr ⟨m, hm⟩)) m _ hpq
    have hqm : q ∉ dp.portList := fun hq =>
      hba (hc.dp_of_mem hj hb hi ha ((hc.wf j b dpb hj hb).mem q |>.2 (.inr ⟨m, hm⟩)) hq)
    have hji : j ≠ i := by rintro rfl; exact hba (Option.some.inj (hj.symm.trans hi))
    refine ⟨j, b, dpb, m, ?_, ?_, hm, (hpa q hqm).trans hpq⟩
    · rw [update_noteq hji]; exact hj
    · rw [update_noteq hba]; exact hb
  · obtain ⟨-, hba₁, h₁⟩ := hold j₁ b₁ h₁
    obtain ⟨-, hba₂, h₂⟩ := hold j₂ b₂ h₂
    rw [update_noteq hba₁] at hb₁
    rw [update_noteq hba₂] at hb₂
    exact hc.netdevInj _ _ _ _ _ _ h₁ hb₁ h₂ hb₂ heq

end Coherent

end Facts

end OpenflowDatapath
