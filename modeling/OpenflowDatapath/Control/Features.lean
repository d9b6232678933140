import OpenflowDatapath.Stats.Dump
import OpenflowDatapath.Netlink.Message
import OpenflowDatapath.Admin.Tables

/-! # The features reply

`dp_send_features_reply` allocates a `FEATURES_REPLY` with room for `DP_MAX_PORTS` port
descriptions, lets `fill_features_reply` write one `ofp_phy_port` per member of `port_list`,
and shrinks the message to the ports written. On every reachable state the descriptions are
those of the members of `port_list` in order, with distinct port numbers, and the shrink stays
inside what was allocated. The datapath id of the reply is the local device's address, read
big-endian into the low 48 bits.
-/

namespace OpenflowDatapath

def ofptFeaturesReply : Nat := 6

def switchFeaturesSize : Nat := 32

def phyPortSize : Nat := 48

def ethAlen : Nat := 6

def ofpMaxPortNameLen : Nat := 16

/-- The feature words `fill_port_desc` derives from `get_settings`; 0 without it. -/
structure PortFeatures where
  curr : UInt32
  supported : UInt32
  advertised : UInt32

structure PhyPort where
  portNo : Nat
  hwAddr : List UInt8
  name : String
  config : UInt32
  state : UInt32
  curr : UInt32
  supported : UInt32
  advertised : UInt32
  peer : UInt32

/-- `get_datapath_id`: the six bytes of the device's address, most significant first. -/
def getDatapathId (dev : NetDevice) : Nat :=
  (List.range ethAlen).foldl
    (fun id i => id ||| (dev.devAddr.getD i 0).toNat <<< (8 * (ethAlen - 1 - i))) 0

def fillPortDesc (s : Sys) (features : DevId → PortFeatures) (port : BridgePort) : K PhyPort := do
  let dev ← deref (s.devs port.dev)
  let f := features port.dev
  return ⟨port.portNo, dev.devAddr.take ethAlen, dev.name.take (ofpMaxPortNameLen - 1),
    port.config, port.state, f.curr, f.supported, f.advertised, 0⟩

structure FeaturesReply where
  msg : NlMsg
  datapathId : Nat
  nTables : Nat
  ports : List PhyPort

/-- `fill_features_reply`: the datapath id, `n_tables`, a description per `port_list` member. -/
def fillFeaturesReply (s : Sys) (dp : Datapath) (chain : Chain)
    (features : DevId → PortFeatures) : K (Nat × Nat × List PhyPort) := do
  let d ← deref dp.netdev
  let dev ← deref (s.devs d)
  let ports ← dp.portList.mapM fun p => do
    let port ← deref (s.portHeap p)
    fillPortDesc s features port
  return (getDatapathId dev, chain.tables.length % 2 ^ 8, ports)

/-- `dp_send_features_reply`, given `genlmsg_new`'s tailroom and what the send returns. -/
def dpSendFeaturesReply (s : Sys) (dp : Datapath) (chain : Chain)
    (features : DevId → PortFeatures) (sender : Option Sender) (room : Option Int)
    (sendRet : Int) : K (Int × Option FeaturesReply) := do
  let portMaxLen := phyPortSize * dpMaxPorts
  match ← allocOpenflowSkb dp.dpIdx (switchFeaturesSize + portMaxLen) ofptFeaturesReply sender
      room with
  | none => return (-enomem, none)
  | some m =>
    let (dpid, nTables, ports) ← fillFeaturesReply s dp chain features
    let ofrLen := switchFeaturesSize + phyPortSize * ports.length
    let m ← resizeOpenflowSkb m ofrLen
    return (sendRet, some ⟨m, dpid, nTables, ports⟩)

variable {s : Sys} {features : DevId → PortFeatures}

def DescOf (s : Sys) (features : DevId → PortFeatures) (p : PortRef) (d : PhyPort) : Prop :=
  ∃ port, s.portHeap p = some port ∧ fillPortDesc s features port = .ok d

theorem fillPortDesc_portNo {port : BridgePort} {d : PhyPort}
    (h : fillPortDesc s features port = .ok d) : d.portNo = port.portNo := by
  unfold fillPortDesc at h
  cases hd : s.devs port.dev with
  | none => rw [hd] at h; cases h
  | some dev => rw [hd] at h; cases h; rfl

theorem fillPorts_ok (features : DevId → PortFeatures) {l : List PortRef}
    (h : ∀ p ∈ l, ∃ port dev, s.portHeap p = some port ∧ s.devs port.dev = some dev) :
    ∃ ds, (l.mapM fun p => do
        let port ← deref (s.portHeap p)
        fillPortDesc s features port) = .ok ds ∧ List.Forall₂ (DescOf s features) l ds := by
  induction l with
  | nil => exact ⟨[], rfl, .nil⟩
  | cons p l ih =>
    obtain ⟨port, dev, hp, hdev⟩ := h p (List.mem_cons_self p l)
    obtain ⟨ds, hds, hR⟩ := ih fun q hq => h q (List.mem_cons_of_mem p hq)
    have hd : fillPortDesc s features port = .ok ⟨port.portNo, dev.devAddr.take ethAlen,
        dev.name.take (ofpMaxPortNameLen - 1), port.config, port.state, (features port.dev).curr,
        (features port.dev).supported, (features port.dev).advertised, 0⟩ := by
      rw [fillPortDesc, hdev]
      rfl
    refine ⟨_ :: ds, ?_, .cons ⟨port, hp, hd⟩ hR⟩
    rw [List.mapM_cons, hds]
    simp only [hp, deref_some, ok_bind, hd]
    rfl

theorem Forall₂_descOf_portNo {l : List PortRef} {ds : List PhyPort}
    (h : List.Forall₂ (DescOf s features) l ds) :
    ds.map PhyPort.portNo = l.map fun p => ((s.portHeap p).map BridgePort.portNo).getD 0 := by
  induction h with
  | nil => rfl
  | cons hR _ ih =>
    obtain ⟨port, hp, hd⟩ := hR
    simp only [List.map_cons, ih, fillPortDesc_portNo hd, hp, Option.map_some', Option.getD_some]

variable {a : DpRef} {dp : Datapath}

theorem PortTables.member_dev (ht : PortTables s) (hlive : Live s a dp) {p : PortRef}
    (hp : p ∈ dp.portList) : ∃ port dev, s.portHeap p = some port ∧ s.devs port.dev = some dev := by
  rcases (ht.mem a dp p hlive).1 hp with hl | ⟨n, -, -, hn⟩
  · obtain ⟨lp, port, hlp, hport, -, hnd⟩ := ht.localPort a dp hlive
    obtain ⟨d, dev, hd, hdev, -⟩ := ht.localDev a dp hlive
    rw [hl] at hlp
    cases hlp
    rw [hnd] at hd
    cases hd
    exact ⟨port, dev, hport, hdev⟩
  · obtain ⟨port, dev, hport, hdev, -⟩ := ht.brPort a dp n p hlive hn
    exact ⟨port, dev, hport, hdev⟩

theorem PortTables.portNo_inj (ht : PortTables s) (hlive : Live s a dp) :
    ∀ p ∈ dp.portList, ∀ q ∈ dp.portList,
      ((s.portHeap p).map BridgePort.portNo).getD 0 =
        ((s.portHeap q).map BridgePort.portNo).getD 0 →
      p = q := by
  intro p hp q hq heq
  obtain ⟨port, -, hport, -⟩ := ht.member_dev hlive hp
  obtain ⟨port', -, hport', -⟩ := ht.member_dev hlive hq
  simp only [hport, hport', Option.map_some', Option.getD_some] at heq
  have h₁ := (ht.lookup a dp port.portNo p hlive).2 ⟨hp, port, hport, rfl⟩
  have h₂ := (ht.lookup a dp port.portNo q hlive).2 ⟨hq, port', hport', heq.symm⟩
  rw [h₁] at h₂
  exact Option.some.inj h₂

/-- On a reachable state the features reply describes each port of `port_list` once, in order. -/
theorem dpSendFeaturesReply_ports (hs : Reach s) (hlive : Live s a dp) (chain : Chain)
    (features : DevId → PortFeatures) (sender : Option Sender) {t : Int}
    (ht : genlmsgNewSize (genlLen (switchFeaturesSize + phyPortSize * dpMaxPorts)) ≤ t)
    (hwrap : t < 65564) (sendRet : Int) :
    ∃ r, dpSendFeaturesReply s dp chain features sender (some t) sendRet = .ok (sendRet, some r) ∧
      List.Forall₂ (DescOf s features) dp.portList r.ports ∧
      (r.ports.map PhyPort.portNo).Nodup ∧ r.ports.length ≤ dpMaxPorts ∧
      r.msg.ofLength = switchFeaturesSize + phyPortSize * dp.portList.length ∧
      r.msg.ofNlaLen = nlaHdrlen + (switchFeaturesSize + phyPortSize * dp.portList.length) ∧
      switchFeaturesSize + phyPortSize * dp.portList.length ≤
        switchFeaturesSize + phyPortSize * dpMaxPorts := by
  have htab := hs.inv.portTables
  have hlen := htab.length a dp hlive
  have hfit : switchFeaturesSize + phyPortSize * dp.portList.length ≤
      switchFeaturesSize + phyPortSize * dpMaxPorts :=
    Nat.add_le_add_left (Nat.mul_le_mul_left _ hlen) _
  obtain ⟨m, halloc, hnla, -⟩ := allocOpenflowSkb_ok (by decide) ht hwrap dp.dpIdx
    ofptFeaturesReply sender
  obtain ⟨d, dev, hnd, hdev, -⟩ := htab.localDev a dp hlive
  obtain ⟨ds, hds, hR⟩ := fillPorts_ok features fun p hp => htab.member_dev hlive hp
  have hdl : ds.length = dp.portList.length := hR.length_eq.symm
  have hlen' : (((switchFeaturesSize + phyPortSize * ds.length : Nat) : Int)) ≤
      ((switchFeaturesSize + phyPortSize * dpMaxPorts : Nat) : Int) := by
    rw [hdl]
    exact_mod_cast hfit
  obtain ⟨m', hres, hnla'⟩ := resizeOpenflowSkb_ok (m := m) (by rw [hnla]; push_cast; rfl) hlen'
    (by omega) (by decide)
  refine ⟨⟨m', getDatapathId dev, chain.tables.length % 2 ^ 8, ds⟩, ?_, hR, ?_, hdl ▸ hlen, ?_,
    ?_, hfit⟩
  · simp only [dpSendFeaturesReply, halloc, ok_bind, pure_bind, fillFeaturesReply, hnd, hdev, hds,
      deref_some, hres]
    rfl
  · rw [Forall₂_descOf_portNo hR]
    exact (htab.nodup a dp hlive).map_on (htab.portNo_inj hlive)
  · rw [resizeOpenflowSkb_ofLength hres, hdl]
    simp only [switchFeaturesSize, phyPortSize, dpMaxPorts] at hlen ⊢
    omega
  · simp only [hdl, nlaHdrlen, switchFeaturesSize, phyPortSize] at hnla' ⊢
    omega

theorem features_reply_demo :
    Reach demoSys ∧ Live demoSys 0 demoDp ∧
    genlmsgNewSize (genlLen (switchFeaturesSize + phyPortSize * dpMaxPorts)) ≤ 12372 ∧
    (12372 : Int) < 65564 ∧
    ∃ r, dpSendFeaturesReply demoSys demoDp ⟨[], ⟨fun _ _ => []⟩⟩ (fun _ => ⟨0, 0, 0⟩) none
        (some 12372) 0 = .ok (0, some r) ∧
      List.Forall₂ (DescOf demoSys fun _ => ⟨0, 0, 0⟩) demoDp.portList r.ports ∧
      (r.ports.map PhyPort.portNo).Nodup ∧ r.ports.length ≤ dpMaxPorts ∧
      r.msg.ofLength = switchFeaturesSize + phyPortSize * demoDp.portList.length ∧
      r.msg.ofNlaLen = nlaHdrlen + (switchFeaturesSize + phyPortSize * demoDp.portList.length) ∧
      switchFeaturesSize + phyPortSize * demoDp.portList.length ≤
        switchFeaturesSize + phyPortSize * dpMaxPorts :=
  ⟨reach_demoSys, ⟨⟨0, rfl⟩, rfl⟩, by decide, by decide,
    dpSendFeaturesReply_ports reach_demoSys ⟨⟨0, rfl⟩, rfl⟩ _ _ _ (by decide) (by decide) _⟩

section DatapathId

variable (m : List UInt8)

theorem datapathId_step {n : Nat} (hn : n < ethAlen) :
    (∑ i ∈ Finset.range n, (m.getD i 0).toNat * 2 ^ (8 * (ethAlen - 1 - i))) |||
        (m.getD n 0).toNat <<< (8 * (ethAlen - 1 - n)) =
      ∑ i ∈ Finset.range (n + 1), (m.getD i 0).toNat * 2 ^ (8 * (ethAlen - 1 - i)) := by
  have hdvd : 2 ^ (8 * (ethAlen - 1 - n) + 8) ∣
      ∑ i ∈ Finset.range n, (m.getD i 0).toNat * 2 ^ (8 * (ethAlen - 1 - i)) :=
    Finset.dvd_sum fun i hi => Dvd.dvd.mul_left (pow_dvd_pow 2 (by
      rw [Finset.mem_range] at hi; simp only [ethAlen] at hn ⊢; omega)) _
  obtain ⟨c, hc⟩ := hdvd
  have hb : (m.getD n 0).toNat <<< (8 * (ethAlen - 1 - n)) < 2 ^ (8 * (ethAlen - 1 - n) + 8) := by
    rw [Nat.shiftLeft_eq, pow_add, mul_comm (2 ^ _)]
    exact Nat.mul_lt_mul_of_pos_right (UInt8.toNat_lt_size _ : _ < 2 ^ 8) (Nat.two_pow_pos _)
  rw [Finset.sum_range_succ, hc, ← Nat.mul_add_lt_is_or hb, Nat.shiftLeft_eq]

theorem datapathId_loop {n : Nat} (hn : n ≤ ethAlen) :
    (List.range n).foldl (fun id i => id ||| (m.getD i 0).toNat <<< (8 * (ethAlen - 1 - i))) 0 =
      ∑ i ∈ Finset.range n, (m.getD i 0).toNat * 2 ^ (8 * (ethAlen - 1 - i)) := by
  induction n with
  | zero => rfl
  | succ n ih =>
    rw [List.range_succ, List.foldl_append, ih (by omega), List.foldl_cons, List.foldl_nil,
      datapathId_step m (by omega)]

theorem datapathId_sum_bytes :
    ∑ i ∈ Finset.range ethAlen, (m.getD i 0).toNat * 2 ^ (8 * (ethAlen - 1 - i)) =
      (m.getD 0 0).toNat * 2 ^ 40 + (m.getD 1 0).toNat * 2 ^ 32 + (m.getD 2 0).toNat * 2 ^ 24 +
        (m.getD 3 0).toNat * 2 ^ 16 + (m.getD 4 0).toNat * 2 ^ 8 + (m.getD 5 0).toNat := by
  simp [Finset.sum_range_succ, ethAlen]

theorem datapathId_sum_lt :
    ∑ i ∈ Finset.range ethAlen, (m.getD i 0).toNat * 2 ^ (8 * (ethAlen - 1 - i)) < 2 ^ 48 := by
  rw [datapathId_sum_bytes]
  simp only [UInt8.toNat]
  bv_omega

theorem datapathId_sum_byte {i : Nat} (hi : i < ethAlen) :
    (∑ i ∈ Finset.range ethAlen, (m.getD i 0).toNat * 2 ^ (8 * (ethAlen - 1 - i))) /
        2 ^ (8 * (ethAlen - 1 - i)) % 2 ^ 8 = (m.getD i 0).toNat := by
  rw [datapathId_sum_bytes]
  simp only [ethAlen] at hi ⊢
  interval_cases i <;> simp only [UInt8.toNat, Nat.reduceSub, Nat.reduceMul] <;> bv_omega

end DatapathId

theorem getDatapathId_eq_sum (dev : NetDevice) :
    getDatapathId dev =
      ∑ i ∈ Finset.range ethAlen, (dev.devAddr.getD i 0).toNat * 2 ^ (8 * (ethAlen - 1 - i)) :=
  datapathId_loop dev.devAddr le_rfl

theorem eq_of_getD_eq {m m' : List UInt8} (h : m.length = ethAlen) (h' : m'.length = ethAlen)
    (hb : ∀ i < ethAlen, m'.getD i 0 = m.getD i 0) : m' = m := by
  ext i : 1
  by_cases hi : i < ethAlen
  · have := hb i hi
    rw [List.getD_eq_getElem _ _ (h' ▸ hi), List.getD_eq_getElem _ _ (h ▸ hi)] at this
    rw [List.getElem?_eq_getElem (h' ▸ hi), List.getElem?_eq_getElem (h ▸ hi), this]
  · rw [List.getElem?_eq_none (by omega), List.getElem?_eq_none (by omega)]

/-- `get_datapath_id` reads a six-byte address big-endian; distinct addresses get distinct ids. -/
theorem getDatapathId_big_endian (dev : NetDevice) (h : dev.devAddr.length = ethAlen) :
    getDatapathId dev =
        ∑ i ∈ Finset.range ethAlen, (dev.devAddr.getD i 0).toNat * 2 ^ (8 * (ethAlen - 1 - i)) ∧
      getDatapathId dev < 2 ^ 48 ∧
      ∀ dev' : NetDevice, dev'.devAddr.length = ethAlen → getDatapathId dev' = getDatapathId dev →
        dev'.devAddr = dev.devAddr := by
  refine ⟨getDatapathId_eq_sum dev, getDatapathId_eq_sum dev ▸ datapathId_sum_lt _,
    fun dev' h' heq => eq_of_getD_eq h h' fun i hi => UInt8.toNat.inj ?_⟩
  rw [getDatapathId_eq_sum, getDatapathId_eq_sum] at heq
  rw [← datapathId_sum_byte _ hi, heq, datapathId_sum_byte _ hi]

example : getDatapathId { eth0 with devAddr := [0xff, 0x80, 0, 0, 0, 1] } = 0xff8000000001 := by
  decide

theorem eth0_datapathId :
    eth0.devAddr.length = ethAlen ∧
      (getDatapathId eth0 =
          ∑ i ∈ Finset.range ethAlen, (eth0.devAddr.getD i 0).toNat * 2 ^ (8 * (ethAlen - 1 - i)) ∧
        getDatapathId eth0 < 2 ^ 48 ∧
        ∀ dev' : NetDevice, dev'.devAddr.length = ethAlen →
          getDatapathId dev' = getDatapathId eth0 → dev'.devAddr = eth0.devAddr) :=
  ⟨rfl, getDatapathId_big_endian eth0 rfl⟩

theorem dpSendFeaturesReply_datapathId {dp : Datapath} {chain : Chain}
    {sender : Option Sender} {room : Option Int} {sendRet ret : Int} {r : FeaturesReply}
    (h : dpSendFeaturesReply s dp chain features sender room sendRet = .ok (ret, some r)) :
    ∃ d dev, dp.netdev = some d ∧ s.devs d = some dev ∧ r.datapathId = getDatapathId dev := by
  simp only [dpSendFeaturesReply, bind_eq_ok] at h
  obtain ⟨_ | m, -, h⟩ := h
  · cases h
  simp only [fillFeaturesReply, bind_eq_ok, deref_eq_ok, pure_eq_ok] at h
  obtain ⟨_, ⟨d, hd, dev, hdev, ports, -, rfl⟩, m', -, hr⟩ := h
  cases hr
  exact ⟨d, dev, hd, hdev, rfl⟩

end OpenflowDatapath
