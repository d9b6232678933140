import OpenflowDatapath.Control.Features

/-! # Adding a port and taking it away

Every outcome of `add_switch_port`, with the `PORT_STATUS` it sends: the four errors in the
order the code checks for them, each leaving the state as it was, or the new port in the least
free slot with its status bits from the device, and a notification when its buffer can be
allocated. Deleting the port again through `dp_genl_add_del_port` gives back the state from
before the add.
-/

namespace OpenflowDatapath

open Function

def ofptPortStatus : Nat := 12
def ofpprAdd : Nat := 0

def portStatusSize : Nat := 64

structure PortStatus where
  msg : NlMsg
  reason : Nat
  desc : PhyPort

/-- `dp_send_port_status`, given what `genlmsg_new` and `send_openflow_skb` return. -/
def dpSendPortStatus (s : Sys) (p : PortRef) (status : Nat) (features : DevId → PortFeatures)
    (room : Option Int) (sendRet : Int) : K (Int × Option PortStatus) := do
  let port ← deref (s.portHeap p)
  let dp ← deref (s.dpHeap port.dp)
  match ← allocOpenflowSkb dp.dpIdx portStatusSize ofptPortStatus none room with
  | none => return (-enomem, none)
  | some m =>
    let desc ← fillPortDesc s features port
    return (sendRet, some ⟨m, status % 2 ^ 8, desc⟩)

/-- `add_switch_port` with the `PORT_STATUS` it sends on success, whose value it drops. -/
def addSwitchPortNotify (s : Sys) (a : DpRef) (d : DevId) (alloc : Option PortRef)
    (features : DevId → PortFeatures) (room : Option Int) (sendRet : Int) :
    K (Sys × Int × List PortStatus) := do
  let (s', r) ← addSwitchPort s a d alloc
  if r ≠ 0 then return (s', r, [])
  let some p := alloc | return (s', r, [])
  let (_, msg) ← dpSendPortStatus s' p ofpprAdd features room sendRet
  return (s', 0, msg.toList)

def AddPortRejects (dev : NetDevice) : Prop :=
  dev.flags &&& iffLoopback ≠ 0 ∨ dev.type ≠ arphrdEther ∨ dev.isDpDev

structure LeastFree (dp : Datapath) (n : Nat) : Prop where
  pos : 0 < n
  lt : n < dpMaxPorts
  free : dp.ports n = none
  least : ∀ j, 0 < j → j < n → dp.ports j ≠ none

/-- The state after device `d` is attached to datapath `a` as port `p` in slot `n`. -/
def addedState (s : Sys) (a : DpRef) (dp : Datapath) (d : DevId) (dev : NetDevice) (n : Nat)
    (p : PortRef) : Sys :=
  { s with
    devs := update s.devs d (some { dev with
      promiscuity := dev.promiscuity + 1, refcnt := dev.refcnt + 1, brPort := some p })
    dpHeap := update s.dpHeap a (some { dp with
      ports := update dp.ports n (some p), portList := p :: dp.portList })
    portHeap := update s.portHeap p (some ⟨a, d, n,
      if dev.flags &&& iffUp ≠ 0 then 0 else ofppcPortDown,
      if dev.carrier then 0 else ofppsLinkDown⟩) }

theorem addedState_portHeap (s : Sys) (a : DpRef) (dp : Datapath) (d : DevId) (dev : NetDevice)
    (n : Nat) (p : PortRef) :
    (addedState s a dp d dev n p).portHeap p = some ⟨a, d, n,
      if dev.flags &&& iffUp ≠ 0 then 0 else ofppcPortDown,
      if dev.carrier then 0 else ofppsLinkDown⟩ :=
  Function.update_same _ _ _

theorem addedState_dpHeap (s : Sys) (a : DpRef) (dp : Datapath) (d : DevId) (dev : NetDevice)
    (n : Nat) (p : PortRef) :
    (addedState s a dp d dev n p).dpHeap a = some { dp with
      ports := Function.update dp.ports n (some p), portList := p :: dp.portList } :=
  Function.update_same _ _ _

theorem addedState_devs (s : Sys) (a : DpRef) (dp : Datapath) (d : DevId) (dev : NetDevice)
    (n : Nat) (p : PortRef) :
    (addedState s a dp d dev n p).devs d = some { dev with
      promiscuity := dev.promiscuity + 1, refcnt := dev.refcnt + 1, brPort := some p } :=
  Function.update_same _ _ _

/-- The outcomes of `add_switch_port`, each with its conditions; the errors change nothing. -/
inductive AddPortOutcome (s : Sys) (a : DpRef) (dp : Datapath) (d : DevId) (dev : NetDevice)
    (alloc : Option PortRef) : Sys → Int → Prop where
  | rejected : AddPortRejects dev → AddPortOutcome s a dp d dev alloc s (-einval)
  | full : ¬AddPortRejects dev → (∀ i, 0 < i → i < dpMaxPorts → dp.ports i ≠ none) →
      AddPortOutcome s a dp d dev alloc s (-exfull)
  | busy {n : Nat} : ¬AddPortRejects dev → LeastFree dp n → dev.brPort ≠ none →
      AddPortOutcome s a dp d dev alloc s (-ebusy)
  | noMem {n : Nat} : ¬AddPortRejects dev → LeastFree dp n → dev.brPort = none → alloc = none →
      AddPortOutcome s a dp d dev alloc s (-enomem)
  | added {n : Nat} {p : PortRef} : ¬AddPortRejects dev → LeastFree dp n → dev.brPort = none →
      alloc = some p → AddPortOutcome s a dp d dev alloc (addedState s a dp d dev n p) 0

theorem findPortno_eq_none_iff {dp : Datapath} :
    findPortno dp = none ↔ ∀ i, 0 < i → i < dpMaxPorts → dp.ports i ≠ none := by
  simp only [findPortno, List.find?_range'_eq_none, Bool.not_eq_true', ← Bool.not_eq_true,
    Option.isNone_iff_eq_none, dpMaxPorts]
  exact ⟨fun h i h0 hi => h i h0 (by omega), fun h i h0 hi => h i h0 (by omega)⟩

theorem findPortno_eq_some_iff {dp : Datapath} {n : Nat} :
    findPortno dp = some n ↔ LeastFree dp n := by
  simp only [findPortno, List.find?_range'_eq_some, List.mem_range'_1, Option.isNone_iff_eq_none,
    Bool.not_eq_true', ← Bool.not_eq_true, decide_eq_true_eq, dpMaxPorts]
  constructor
  · rintro ⟨hf, ⟨h0, hn⟩, hl⟩
    exact ⟨h0, by simp only [dpMaxPorts]; omega, hf, hl⟩
  · rintro ⟨h0, hn, hf, hl⟩
    exact ⟨hf, ⟨h0, by simp only [dpMaxPorts] at hn; omega⟩, hl⟩

theorem uint32_zero_and (x : UInt32) : 0 &&& x = 0 := UInt32.eq_of_toBitVec_eq BitVec.zero_and

theorem uint32_zero_or (x : UInt32) : 0 ||| x = x := UInt32.eq_of_toBitVec_eq BitVec.zero_or

section Add

variable {s : Sys} {a : DpRef} {dp : Datapath} {d : DevId} {dev : NetDevice}

theorem initPortStatus_attachPort {n : Nat} {p : PortRef} (hn : n < dpMaxPorts) :
    initPortStatus (attachPort s a dp d dev n p) p = .ok (addedState s a dp d dev n p) := by
  have hloc : n ≠ ofppLocal := by simp only [dpMaxPorts, ofppLocal] at hn ⊢; omega
  simp only [initPortStatus, attachPort, update_same, deref_some, ok_bind, if_pos hloc,
    if_pos hn, update_idem, uint32_zero_and, uint32_zero_or]
  rfl

theorem addSwitchPort_outcome_ok (hdp : s.dpHeap a = some dp) (hdev : s.devs d = some dev)
    (alloc : Option PortRef) :
    ∃ s' r, addSwitchPort s a d alloc = .ok (s', r) ∧ AddPortOutcome s a dp d dev alloc s' r := by
  by_cases hrej : AddPortRejects dev
  · have hc : dev.flags &&& iffLoopback ≠ 0 ∨ dev.type ≠ arphrdEther ∨ dev.isDpDev = true := hrej
    refine ⟨s, -einval, ?_, .rejected hrej⟩
    simp only [addSwitchPort, hdev, deref_some, ok_bind, if_pos hc]
    rfl
  have hc : ¬(dev.flags &&& iffLoopback ≠ 0 ∨ dev.type ≠ arphrdEther ∨ dev.isDpDev = true) := hrej
  simp only [addSwitchPort, hdev, hdp, deref_some, ok_bind, if_neg hc, pure_bind]
  rcases hfind : findPortno dp with _ | n
  · exact ⟨s, -exfull, rfl, .full hrej (findPortno_eq_none_iff.1 hfind)⟩
  have hlf := findPortno_eq_some_iff.1 hfind
  simp only [newNbp, hdev, hdp, deref_some, ok_bind]
  by_cases hbr : dev.brPort = none
  · simp only [hbr, Option.isSome_none, Bool.false_eq_true, if_false]
    cases alloc with
    | none => exact ⟨s, -enomem, rfl, .noMem hrej hlf hbr rfl⟩
    | some p =>
      refine ⟨_, 0, ?_, .added hrej hlf hbr rfl⟩
      simp only [pure_bind, initPortStatus_attachPort hlf.lt]
      rfl
  · have hsome : dev.brPort.isSome = true := Option.isSome_iff_ne_none.2 hbr
    simp only [hsome, if_true]
    exact ⟨s, -ebusy, rfl, .busy hrej hlf hbr⟩

variable {features : DevId → PortFeatures}

theorem dpSendPortStatus_no_room {p : PortRef} {port : BridgePort} {dp' : Datapath}
    (hp : s.portHeap p = some port) (hdp : s.dpHeap port.dp = some dp') (status : Nat)
    (sendRet : Int) : dpSendPortStatus s p status features none sendRet = .ok (-enomem, none) := by
  simp only [dpSendPortStatus, hp, hdp, deref_some, ok_bind, allocOpenflowSkb_none_room]
  rfl

theorem dpSendPortStatus_sends (features : DevId → PortFeatures) {p : PortRef} {port : BridgePort}
    {dp' : Datapath}
    (hp : s.portHeap p = some port) (hdp : s.dpHeap port.dp = some dp')
    (hdev : s.devs port.dev = some dev) (status : Nat) {t : Int}
    (ht : genlmsgNewSize (genlLen portStatusSize) ≤ t) (hwrap : t < 65564) (sendRet : Int) :
    ∃ m desc, dpSendPortStatus s p status features (some t) sendRet =
        .ok (sendRet, some ⟨m, status % 2 ^ 8, desc⟩) ∧
      m.ofType = ofptPortStatus ∧ DescOf s features p desc := by
  obtain ⟨m, halloc, -, -, -, -, htype, -⟩ :=
    allocOpenflowSkb_ok (by decide) ht hwrap dp'.dpIdx ofptPortStatus none
  have hdesc : fillPortDesc s features port = .ok ⟨port.portNo, dev.devAddr.take ethAlen,
      dev.name.take (ofpMaxPortNameLen - 1), port.config, port.state, (features port.dev).curr,
      (features port.dev).supported, (features port.dev).advertised, 0⟩ := by
    rw [fillPortDesc, hdev]
    rfl
  refine ⟨m, _, ?_, htype, port, hp, hdesc⟩
  simp only [dpSendPortStatus, hp, hdp, deref_some, ok_bind, halloc, hdesc]
  rfl

theorem addSwitchPortNotify_of_ne {alloc : Option PortRef} {s' : Sys} {r : Int}
    (h : addSwitchPort s a d alloc = .ok (s', r)) (hr : r ≠ 0) (room : Option Int)
    (sendRet : Int) : addSwitchPortNotify s a d alloc features room sendRet = .ok (s', r, []) := by
  simp only [addSwitchPortNotify, h, ok_bind, if_pos hr]
  rfl

theorem addSwitchPortNotify_of_added {p : PortRef} {s' : Sys}
    (h : addSwitchPort s a d (some p) = .ok (s', 0)) (room : Option Int) (sendRet : Int) :
    addSwitchPortNotify s a d (some p) features room sendRet =
      (dpSendPortStatus s' p ofpprAdd features room sendRet).map fun x => (s', 0, x.2.toList) := by
  simp only [addSwitchPortNotify, h, ok_bind, ne_eq, not_true_eq_false, if_false]
  cases dpSendPortStatus s' p ofpprAdd features room sendRet <;> rfl

/-- What an `add_switch_port` sends: at most one `PORT_STATUS`, the `ADD` of the new port. -/
structure Notified (s' : Sys) (r : Int) (alloc : Option PortRef) (features : DevId → PortFeatures)
    (room : Option Int) (N : List PortStatus) : Prop where
  atMostOne : N.length ≤ 1
  onError : r ≠ 0 → N = []
  noBuffer : room = none → N = []
  sent : r = 0 → ∀ p t, alloc = some p → room = some t →
    ∃ msg, N = [msg] ∧ msg.reason = ofpprAdd ∧ msg.msg.ofType = ofptPortStatus ∧
      DescOf s' features p msg.desc

theorem Notified.of_ne {s' : Sys} {r : Int} {alloc : Option PortRef} {room : Option Int}
    (hr : r ≠ 0) : Notified s' r alloc features room [] :=
  ⟨by simp, fun _ => rfl, fun _ => rfl, fun h => absurd h hr⟩

/-- `add_switch_port` has an outcome of `AddPortOutcome` and sends what `Notified` says. -/
theorem addSwitchPort_outcome (hdp : s.dpHeap a = some dp) (hdev : s.devs d = some dev)
    (alloc : Option PortRef) (features : DevId → PortFeatures) {room : Option Int}
    (hroom : ∀ t, room = some t → genlmsgNewSize (genlLen portStatusSize) ≤ t ∧ t < 65564)
    (sendRet : Int) :
    ∃ s' r N, addSwitchPortNotify s a d alloc features room sendRet = .ok (s', r, N) ∧
      AddPortOutcome s a dp d dev alloc s' r ∧ Notified s' r alloc features room N := by
  obtain ⟨s', r, hadd, hout⟩ := addSwitchPort_outcome_ok hdp hdev alloc
  have herr (hr : r ≠ 0) : ∃ s' r N, addSwitchPortNotify s a d alloc features room sendRet =
      .ok (s', r, N) ∧ AddPortOutcome s a dp d dev alloc s' r ∧
      Notified s' r alloc features room N :=
    ⟨s', r, [], addSwitchPortNotify_of_ne hadd hr room sendRet, hout, .of_ne hr⟩
  cases hout with
  | rejected h => exact herr (by decide)
  | full h₁ h₂ => exact herr (by decide)
  | busy h₁ h₂ h₃ => exact herr (by decide)
  | noMem h₁ h₂ h₃ h₄ => exact herr (by decide)
  | @added n p hrej hlf hbr halloc =>
    subst halloc
    have hport := addedState_portHeap s a dp d dev n p
    have hdp' := addedState_dpHeap s a dp d dev n p
    rw [addSwitchPortNotify_of_added hadd]
    cases room with
    | none =>
      refine ⟨_, 0, [], ?_, .added hrej hlf hbr rfl,
        ⟨by simp, fun h => absurd rfl h, fun _ => rfl, fun _ _ _ _ h => nomatch h⟩⟩
      rw [dpSendPortStatus_no_room hport hdp']
      rfl
    | some t =>
      obtain ⟨m, desc, hsend, htype, hdesc⟩ := dpSendPortStatus_sends features hport hdp'
        (addedState_devs s a dp d dev n p) ofpprAdd (hroom t rfl).1 (hroom t rfl).2 sendRet
      refine ⟨_, 0, [⟨m, ofpprAdd % 2 ^ 8, desc⟩], ?_, .added hrej hlf hbr rfl,
        ⟨by simp, fun h => absurd rfl h, nofun, fun _ q t' hq _ => ?_⟩⟩
      · rw [hsend]
        rfl
      · cases hq
        exact ⟨_, rfl, rfl, htype, hdesc⟩

theorem detachPort_addedState {n : Nat} {p : PortRef} (hfresh : s.portHeap p = none)
    (hdp : s.dpHeap a = some dp) (hdev : s.devs d = some dev) (hbr : dev.brPort = none)
    (hlf : LeastFree dp n) :
    detachPort (addedState s a dp d dev n p) p ⟨a, d, n,
        if dev.flags &&& iffUp ≠ 0 then 0 else ofppcPortDown,
        if dev.carrier then 0 else ofppsLinkDown⟩
      { dev with promiscuity := dev.promiscuity + 1, refcnt := dev.refcnt + 1, brPort := some p }
      { dp with ports := update dp.ports n (some p), portList := p :: dp.portList } = s := by
  have hloc : n ≠ ofppLocal := by have := hlf.lt; simp only [dpMaxPorts, ofppLocal] at this ⊢; omega
  have hports : update dp.ports n none = dp.ports := by
    rw [← hlf.free]
    exact update_eq_self n dp.ports
  have hdp' : ({ dp with ports := update dp.ports n none, portList := dp.portList } : Datapath) =
      dp := by
    rw [hports]
  have hdev' : ({ dev with
      promiscuity := dev.promiscuity + 1 - 1, brPort := none, refcnt := dev.refcnt + 1 - 1 } :
      NetDevice) = dev := by
    rw [← hbr, add_sub_cancel_right, add_sub_cancel_right]
  have h₁ : update s.dpHeap a (some dp) = s.dpHeap := by rw [← hdp]; exact update_eq_self a _
  have h₂ : update s.devs d (some dev) = s.devs := by rw [← hdev]; exact update_eq_self d _
  have h₃ : update s.portHeap p none = s.portHeap := by rw [← hfresh]; exact update_eq_self p _
  simp only [detachPort, addedState, update_idem, if_pos hloc, List.erase_cons_head, hdp', hdev',
    h₁, h₂, h₃]

/-- Adding a port and deleting it at once gives back the state from before the add. -/
theorem addSwitchPort_then_delete {s' : Sys} {p : PortRef} (hfresh : s.portHeap p = none)
    (hadd : addSwitchPort s a d (some p) = .ok (s', 0)) {attrs : Attrs}
    (hname : attrs.portName.isSome) (hl : lookupDp s' attrs = .ok (.ok a)) :
    dpGenlAddDelPort s' false attrs (some d) none = .ok (s, 0) := by
  obtain ⟨dev, hdev⟩ : ∃ dev, s.devs d = some dev := by
    cases h : s.devs d with
    | none => simp [addSwitchPort, h] at hadd
    | some dev => exact ⟨dev, rfl⟩
  obtain ⟨dp, hdp⟩ : ∃ dp, s.dpHeap a = some dp := by
    cases h : s.dpHeap a with
    | none =>
      simp only [addSwitchPort, hdev, h, deref_some, deref_none, ok_bind] at hadd
      split at hadd <;> simp [einval] at hadd
    | some dp => exact ⟨dp, rfl⟩
  obtain ⟨s'', r, h', hout⟩ := addSwitchPort_outcome_ok hdp hdev (some p)
  rw [hadd] at h'
  cases hout with
  | rejected => simp [einval] at h'
  | full => simp [exfull] at h'
  | busy => simp [ebusy] at h'
  | noMem _ _ _ h => cases h
  | @added n q _ hlf hbr hq =>
    cases hq
    cases h'
    have hname' : attrs.portName.isNone = false := by simpa using hname
    have hne : ¬(a ≠ a) := not_not.2 rfl
    simp only [dpGenlAddDelPort, hname', Bool.false_eq_true, if_false, pure_bind, hl, ok_bind,
      addedState_devs, deref_some, addedState_portHeap, if_neg hne, dpDelSwitchPort,
      addedState_dpHeap, detachPort_addedState hfresh hdp hdev hbr hlf]
    rfl

end Add

/-- When `genlmsg_new` fails, `eth0` is added with no `PORT_STATUS` sent. -/
theorem addPort_status_lost :
    ∃ s', addSwitchPortNotify dp0Sys 0 0 (some 1) (fun _ => ⟨0, 0, 0⟩) none 0 = .ok (s', 0, []) :=
  ⟨_, rfl⟩

theorem addSwitchPort_outcome_eth0 :
    dp0Sys.dpHeap 0 = some (newDpRecord 0 1 0) ∧ dp0Sys.devs 0 = some eth0 ∧
    (∀ t, some (116 : Int) = some t → genlmsgNewSize (genlLen portStatusSize) ≤ t ∧ t < 65564) ∧
    ∃ s' r N, addSwitchPortNotify dp0Sys 0 0 (some 1) (fun _ => ⟨0, 0, 0⟩) (some 116) 0 =
        .ok (s', r, N) ∧
      AddPortOutcome dp0Sys 0 (newDpRecord 0 1 0) 0 eth0 (some 1) s' r ∧
      Notified s' r (some 1) (fun _ => ⟨0, 0, 0⟩) (some 116) N :=
  have hroom : ∀ t, some (116 : Int) = some t →
      genlmsgNewSize (genlLen portStatusSize) ≤ t ∧ t < 65564 := by
    rintro t ⟨⟩
    decide
  ⟨rfl, rfl, hroom, addSwitchPort_outcome rfl rfl _ _ hroom _⟩

theorem add_then_delete_eth0 :
    dp0Sys.portHeap 1 = none ∧ ∃ s', addSwitchPort dp0Sys 0 0 (some 1) = .ok (s', 0) ∧
      ({ dpIdx := some 0, dpName := none, portName := some "eth0" } : Attrs).portName.isSome ∧
      lookupDp s' { dpIdx := some 0, dpName := none, portName := some "eth0" } = .ok (.ok 0) ∧
      dpGenlAddDelPort s' false { dpIdx := some 0, dpName := none, portName := some "eth0" }
        (some 0) none = .ok (dp0Sys, 0) :=
  ⟨rfl, _, rfl, rfl, rfl, addSwitchPort_then_delete (a := 0) (p := 1) rfl (by rfl) rfl (by rfl)⟩

end OpenflowDatapath
