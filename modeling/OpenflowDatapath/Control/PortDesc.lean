import OpenflowDatapath.Control.Features

/-! # The feature words of a port description

`fill_port_desc` asks the device's `ethtool_ops->get_settings` for its link settings and
translates them into the three feature words of `struct ofp_phy_port`: `supported` and
`advertised` test one ethtool bit after another and set the matching `OFPPF_*` bit, and
`curr` is built from the speed and duplex, the port type and autonegotiation. The words are
the images of the ethtool bits under one table, `curr` being the image of the mode the link
runs in (`ethtoolCurr_eq_translate`). So a device that advertises only modes it supports and
runs in one of them gets a description whose `advertised` and `curr` are within its
`supported` (`fillPortDesc_features_within`).
-/

namespace OpenflowDatapath

-- `linux/ethtool.h`: the link-mode bits, written out where the header has `1 << k`

def supported10baseTHalf : UInt32 := 0x1
def supported10baseTFull : UInt32 := 0x2
def supported100baseTHalf : UInt32 := 0x4
def supported100baseTFull : UInt32 := 0x8
def supported1000baseTHalf : UInt32 := 0x10
def supported1000baseTFull : UInt32 := 0x20
def supportedAutoneg : UInt32 := 0x40
def supportedTp : UInt32 := 0x80
def supportedAui : UInt32 := 0x100
def supportedMii : UInt32 := 0x200
def supportedFibre : UInt32 := 0x400
def supportedBnc : UInt32 := 0x800
def supported10000baseTFull : UInt32 := 0x1000
def supportedPause : UInt32 := 0x2000
def supportedAsymPause : UInt32 := 0x4000

def advertised10baseTHalf : UInt32 := 0x1
def advertised10baseTFull : UInt32 := 0x2
def advertised100baseTHalf : UInt32 := 0x4
def advertised100baseTFull : UInt32 := 0x8
def advertised1000baseTHalf : UInt32 := 0x10
def advertised1000baseTFull : UInt32 := 0x20
def advertisedAutoneg : UInt32 := 0x40
def advertisedTp : UInt32 := 0x80
def advertisedFibre : UInt32 := 0x400
def advertised10000baseTFull : UInt32 := 0x1000
def advertisedPause : UInt32 := 0x2000
def advertisedAsymPause : UInt32 := 0x4000

def speed10 : Nat := 10
def speed100 : Nat := 100
def speed1000 : Nat := 1000
def speed10000 : Nat := 10000

def duplexHalf : Nat := 0

def portTp : Nat := 0
def portAui : Nat := 1
def portMii : Nat := 2
def portFibre : Nat := 3
def portBnc : Nat := 4

def ofppf10mbHd : UInt32 := 0x1
def ofppf10mbFd : UInt32 := 0x2
def ofppf100mbHd : UInt32 := 0x4
def ofppf100mbFd : UInt32 := 0x8
def ofppf1gbHd : UInt32 := 0x10
def ofppf1gbFd : UInt32 := 0x20
def ofppf10gbFd : UInt32 := 0x40
def ofppfCopper : UInt32 := 0x80
def ofppfFiber : UInt32 := 0x100
def ofppfAutoneg : UInt32 := 0x200
def ofppfPause : UInt32 := 0x400
def ofppfPauseAsym : UInt32 := 0x800

/-- What `get_settings` fills in of `struct ethtool_cmd`, as `fill_port_desc` reads it. -/
structure EthtoolCmd where
  supported : UInt32
  advertising : UInt32
  speed : Nat
  duplex : Nat
  port : Nat
  autoneg : Nat
  deriving DecidableEq, Repr

/-- The tests on `ecmd.supported`, in order; the pause bits are those of 2.6.14 on. -/
def supportedModes : List (UInt32 × UInt32) :=
  [(supported10baseTHalf, ofppf10mbHd), (supported10baseTFull, ofppf10mbFd),
    (supported100baseTHalf, ofppf100mbHd), (supported100baseTFull, ofppf100mbFd),
    (supported1000baseTHalf, ofppf1gbHd), (supported1000baseTFull, ofppf1gbFd),
    (supported10000baseTFull, ofppf10gbFd), (supportedTp, ofppfCopper),
    (supportedFibre, ofppfFiber), (supportedAutoneg, ofppfAutoneg),
    (supportedPause, ofppfPause), (supportedAsymPause, ofppfPauseAsym)]

def advertisedModes : List (UInt32 × UInt32) :=
  [(advertised10baseTHalf, ofppf10mbHd), (advertised10baseTFull, ofppf10mbFd),
    (advertised100baseTHalf, ofppf100mbHd), (advertised100baseTFull, ofppf100mbFd),
    (advertised1000baseTHalf, ofppf1gbHd), (advertised1000baseTFull, ofppf1gbFd),
    (advertised10000baseTFull, ofppf10gbFd), (advertisedTp, ofppfCopper),
    (advertisedFibre, ofppfFiber), (advertisedAutoneg, ofppfAutoneg),
    (advertisedPause, ofppfPause), (advertisedAsymPause, ofppfPauseAsym)]

/-- A run of `if (bits & E) desc->... |= O;` over a table, from 0. -/
def translateModes (modes : List (UInt32 × UInt32)) (bits : UInt32) : UInt32 :=
  modes.foldl (fun d m => if bits &&& m.1 ≠ 0 then d ||| m.2 else d) 0

def currSpeed (e : EthtoolCmd) : UInt32 :=
  if e.speed = speed10 then (if e.duplex ≠ 0 then ofppf10mbFd else ofppf10mbHd)
  else if e.speed = speed100 then (if e.duplex ≠ 0 then ofppf100mbFd else ofppf100mbHd)
  else if e.speed = speed1000 then (if e.duplex ≠ 0 then ofppf1gbFd else ofppf1gbHd)
  else if e.speed = speed10000 then ofppf10gbFd
  else 0

/-- `fill_port_desc`'s `curr`: the speed and duplex, then the medium, then autonegotiation. -/
def ethtoolCurr (e : EthtoolCmd) : UInt32 :=
  let curr := currSpeed e
  let curr := if e.port = portTp then curr ||| ofppfCopper
    else if e.port = portFibre then curr ||| ofppfFiber else curr
  if e.autoneg ≠ 0 then curr ||| ofppfAutoneg else curr

/-- The feature words `fill_port_desc` stores: 0 unless `get_settings` returns 0 (`some ecmd`). -/
def portFeatures : Option EthtoolCmd → PortFeatures
  | none => ⟨0, 0, 0⟩
  | some e => ⟨ethtoolCurr e, translateModes supportedModes e.supported,
      translateModes advertisedModes e.advertising⟩

def ethtoolLinkMode (e : EthtoolCmd) : UInt32 :=
  let full := e.duplex ≠ duplexHalf
  let speed :=
    if e.speed = speed10 then (if full then supported10baseTFull else supported10baseTHalf)
    else if e.speed = speed100 then (if full then supported100baseTFull else supported100baseTHalf)
    else if e.speed = speed1000 then
      (if full then supported1000baseTFull else supported1000baseTHalf)
    else if e.speed = speed10000 then supported10000baseTFull
    else 0
  let medium :=
    if e.port = portTp then supportedTp else if e.port = portAui then supportedAui
    else if e.port = portMii then supportedMii else if e.port = portFibre then supportedFibre
    else if e.port = portBnc then supportedBnc else 0
  speed ||| medium ||| (if e.autoneg ≠ 0 then supportedAutoneg else 0)

section Bits

theorem uint32_toNat_or (a b : UInt32) : (a ||| b).toNat = a.toNat ||| b.toNat :=
  BitVec.toNat_or ..

theorem uint32_or_zero (a : UInt32) : a ||| 0 = a :=
  UInt32.ext (by rw [uint32_toNat_or, UInt32.toNat_zero, Nat.or_zero])

theorem uint32_and_ne_zero {a b : UInt32} :
    a &&& b ≠ 0 ↔ ∃ j, a.toNat.testBit j = true ∧ b.toNat.testBit j = true := by
  rw [Ne, UInt32.ext_iff, UInt32.and_toNat, UInt32.toNat_zero]
  constructor
  · intro h
    obtain ⟨j, hj⟩ := Nat.ne_zero_implies_bit_true h
    rw [Nat.testBit_and, Bool.and_eq_true] at hj
    exact ⟨j, hj⟩
  · rintro ⟨j, ha, hb⟩ h
    have := congrArg (Nat.testBit · j) h
    simp [Nat.testBit_and, ha, hb] at this

theorem uint32_and_eq_left {a b : UInt32} :
    a &&& b = a ↔ ∀ j, a.toNat.testBit j = true → b.toNat.testBit j = true := by
  rw [UInt32.ext_iff, UInt32.and_toNat]
  constructor
  · intro h j hj
    have := congrArg (Nat.testBit · j) h
    simp only [Nat.testBit_and, hj, Bool.true_and] at this
    exact this
  · intro h
    refine Nat.eq_of_testBit_eq fun j => ?_
    rw [Nat.testBit_and]
    cases ha : a.toNat.testBit j
    · rfl
    · simp [h j ha]

end Bits

section Translate

variable {modes : List (UInt32 × UInt32)} {x y : UInt32}

theorem testBit_foldl_modes (bits : UInt32) (j : Nat) :
    ∀ (modes : List (UInt32 × UInt32)) (d : UInt32),
      (modes.foldl (fun d m => if bits &&& m.1 ≠ 0 then d ||| m.2 else d) d).toNat.testBit j =
          true ↔
        d.toNat.testBit j = true ∨ ∃ m ∈ modes, bits &&& m.1 ≠ 0 ∧ m.2.toNat.testBit j = true
  | [], d => by simp
  | m :: ms, d => by
    rw [List.foldl_cons, testBit_foldl_modes bits j ms]
    by_cases hm : bits &&& m.1 ≠ 0
    · rw [if_pos hm, uint32_toNat_or, Nat.testBit_or, Bool.or_eq_true]
      simp only [List.exists_mem_cons_iff, hm, ne_eq, not_false_eq_true, true_and, or_assoc]
    · rw [if_neg hm]
      simp only [List.exists_mem_cons_iff, hm, false_and, false_or]

theorem testBit_translateModes (j : Nat) :
    (translateModes modes x).toNat.testBit j = true ↔
      ∃ m ∈ modes, x &&& m.1 ≠ 0 ∧ m.2.toNat.testBit j = true := by
  rw [translateModes, testBit_foldl_modes]
  simp

theorem translateModes_mono (h : x &&& y = x) :
    translateModes modes x &&& translateModes modes y = translateModes modes x := by
  rw [uint32_and_eq_left] at h ⊢
  intro j hj
  obtain ⟨m, hm, hx, hb⟩ := (testBit_translateModes j).1 hj
  obtain ⟨k, hxk, hek⟩ := uint32_and_ne_zero.1 hx
  exact (testBit_translateModes j).2 ⟨m, hm, uint32_and_ne_zero.2 ⟨k, h k hxk, hek⟩, hb⟩

theorem translateModes_or : translateModes modes (x ||| y) =
    translateModes modes x ||| translateModes modes y := by
  refine UInt32.ext (Nat.eq_of_testBit_eq fun j => Bool.eq_iff_iff.2 ?_)
  rw [uint32_toNat_or, Nat.testBit_or, Bool.or_eq_true, testBit_translateModes,
    testBit_translateModes, testBit_translateModes]
  constructor
  · rintro ⟨m, hm, hxy, hb⟩
    obtain ⟨k, hk, hek⟩ := uint32_and_ne_zero.1 hxy
    rw [uint32_toNat_or, Nat.testBit_or, Bool.or_eq_true] at hk
    rcases hk with hk | hk
    · exact .inl ⟨m, hm, uint32_and_ne_zero.2 ⟨k, hk, hek⟩, hb⟩
    · exact .inr ⟨m, hm, uint32_and_ne_zero.2 ⟨k, hk, hek⟩, hb⟩
  · rintro (⟨m, hm, hx, hb⟩ | ⟨m, hm, hy, hb⟩)
    · obtain ⟨k, hk, hek⟩ := uint32_and_ne_zero.1 hx
      refine ⟨m, hm, uint32_and_ne_zero.2 ⟨k, ?_, hek⟩, hb⟩
      simp [uint32_toNat_or, Nat.testBit_or, hk]
    · obtain ⟨k, hk, hek⟩ := uint32_and_ne_zero.1 hy
      refine ⟨m, hm, uint32_and_ne_zero.2 ⟨k, ?_, hek⟩, hb⟩
      simp [uint32_toNat_or, Nat.testBit_or, hk]

end Translate

theorem advertisedModes_eq : advertisedModes = supportedModes := by decide

theorem ethtoolCurr_eq_translate (e : EthtoolCmd) :
    ethtoolCurr e = translateModes supportedModes (ethtoolLinkMode e) := by
  simp only [ethtoolLinkMode, translateModes_or]
  -- each of the three parts, on the values it tests
  have hspeed : translateModes supportedModes
      (if e.speed = speed10 then
        (if e.duplex ≠ duplexHalf then supported10baseTFull else supported10baseTHalf)
      else if e.speed = speed100 then
        (if e.duplex ≠ duplexHalf then supported100baseTFull else supported100baseTHalf)
      else if e.speed = speed1000 then
        (if e.duplex ≠ duplexHalf then supported1000baseTFull else supported1000baseTHalf)
      else if e.speed = speed10000 then supported10000baseTFull else 0) = currSpeed e := by
    simp only [apply_ite (translateModes supportedModes), currSpeed, duplexHalf]
    rfl
  have hmedium : translateModes supportedModes
      (if e.port = portTp then supportedTp else if e.port = portAui then supportedAui
      else if e.port = portMii then supportedMii else if e.port = portFibre then supportedFibre
      else if e.port = portBnc then supportedBnc else 0) =
      if e.port = portTp then ofppfCopper else if e.port = portFibre then ofppfFiber else 0 := by
    generalize e.port = n
    rcases n with _ | _ | _ | _ | _ | n
    iterate 5 decide
    simp (disch := omega) only [portTp, portAui, portMii, portFibre, portBnc, if_neg]
    rfl
  have hauto : translateModes supportedModes (if e.autoneg ≠ 0 then supportedAutoneg else 0) =
      if e.autoneg ≠ 0 then ofppfAutoneg else 0 := by
    split_ifs <;> rfl
  rw [hspeed, hmedium, hauto, ethtoolCurr]
  split_ifs <;> simp only [uint32_or_zero]

/-- `fill_port_desc` keeps `advertised` and `curr` within `supported` when the device does. -/
theorem fillPortDesc_features_within {s : Sys} (getSettings : DevId → Option EthtoolCmd)
    {port : BridgePort} {desc : PhyPort}
    (h : fillPortDesc s (fun d => portFeatures (getSettings d)) port = .ok desc) :
    ∀ e, getSettings port.dev = some e →
      (e.advertising &&& e.supported = e.advertising →
        desc.advertised &&& desc.supported = desc.advertised) ∧
      (ethtoolLinkMode e &&& e.supported = ethtoolLinkMode e →
        desc.curr &&& desc.supported = desc.curr) := by
  intro e he
  simp only [fillPortDesc, bind_eq_ok, deref_eq_ok, pure_eq_ok, he, portFeatures] at h
  obtain ⟨dev, -, rfl⟩ := h
  refine ⟨fun hadv => ?_, fun hcur => ?_⟩
  · rw [advertisedModes_eq]
    exact translateModes_mono hadv
  · rw [ethtoolCurr_eq_translate]
    exact translateModes_mono hcur

def eth0Settings : EthtoolCmd :=
  ⟨supported1000baseTFull ||| supportedTp ||| supportedAutoneg,
    advertised1000baseTFull ||| advertisedAutoneg, speed1000, 1, portTp, 1⟩

theorem eth0_features_within :
    fillPortDesc demoSys (fun d => portFeatures (if d = 0 then some eth0Settings else none))
        ⟨0, 0, 1, 0, 0⟩ =
      .ok ⟨1, [0, 1, 2, 3, 4, 5], "eth0", 0, 0, ofppf1gbFd ||| ofppfCopper ||| ofppfAutoneg,
        ofppf1gbFd ||| ofppfCopper ||| ofppfAutoneg, ofppf1gbFd ||| ofppfAutoneg, 0⟩ ∧
      ∀ e, (if (0 : DevId) = 0 then some eth0Settings else none) = some e →
        (e.advertising &&& e.supported = e.advertising →
          (ofppf1gbFd ||| ofppfAutoneg) &&& (ofppf1gbFd ||| ofppfCopper ||| ofppfAutoneg) =
            ofppf1gbFd ||| ofppfAutoneg) ∧
        (ethtoolLinkMode e &&& e.supported = ethtoolLinkMode e →
          (ofppf1gbFd ||| ofppfCopper ||| ofppfAutoneg) &&&
              (ofppf1gbFd ||| ofppfCopper ||| ofppfAutoneg) =
            ofppf1gbFd ||| ofppfCopper ||| ofppfAutoneg) := by
  have h : fillPortDesc demoSys (fun d => portFeatures (if d = 0 then some eth0Settings else none))
      ⟨0, 0, 1, 0, 0⟩ =
      .ok ⟨1, [0, 1, 2, 3, 4, 5], "eth0", 0, 0, ofppf1gbFd ||| ofppfCopper ||| ofppfAutoneg,
        ofppf1gbFd ||| ofppfCopper ||| ofppfAutoneg, ofppf1gbFd ||| ofppfAutoneg, 0⟩ :=
    rfl
  exact ⟨h, fillPortDesc_features_within _ h⟩

end OpenflowDatapath
