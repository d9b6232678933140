import OpenflowDatapath.Basic

/-! # Building an OpenFlow message in a Generic Netlink buffer

`alloc_openflow_skb` asks `genlmsg_new` for room for the netlink and Generic Netlink
headers, the `DP_GENL_A_DP_IDX` attribute and an OpenFlow attribute of `openflow_len` bytes;
`put_openflow_headers` then reserves for the OpenFlow attribute all the room the buffer has,
and `resize_openflow_skb` shrinks it with `nla_shrink`. A buffer is the record of the fields
these calls write. `nla_len` is 16 bits wide, `int` arithmetic is `Int`, and the kernel's
netlink helpers are as the kernel defines them.
-/

namespace OpenflowDatapath

def nlmsgHdrlen : Nat := 16
def genlHdrlen : Nat := 4
def nlaHdrlen : Nat := 4
def ofpHeaderLen : Nat := 8
def ofpVersion : Nat := 1
def uint16Max : Nat := 65535

def dpGenlFamilyHdrsize : Nat := 0

/-- `NLMSG_ALIGN` and `NLA_ALIGN` on an `int`: `(len + 3) & ~3`. -/
def align4 (x : Int) : Int := (x + 3) - (x + 3) % 4

def nlaTotalSize (payload : Int) : Int := align4 (nlaHdrlen + payload)

def nlmsgTotalSize (payload : Int) : Int := align4 (nlmsgHdrlen + payload)

/-- The size `genlmsg_new` allocates: `nlmsg_new(genlmsg_total_size(payload))`. -/
def genlmsgNewSize (payload : Int) : Int := nlmsgTotalSize (align4 (genlHdrlen + payload))

def genlLen (openflowLen : Nat) : Int :=
  nlmsgTotalSize (genlHdrlen + dpGenlFamilyHdrsize) + nlaTotalSize 4 + nlaTotalSize openflowLen

structure Sender where
  xid : Nat
  pid : Nat
  seq : Nat
  deriving DecidableEq, Repr

/-- A buffer with one netlink message at its head: bytes used, tailroom, and header fields. -/
structure NlMsg where
  len : Int
  room : Int
  nlmsgLen : Nat
  nlmsgPid : Nat
  nlmsgSeq : Nat
  dpIdx : Nat
  -- The 16-bit `nla_len` of the `DP_GENL_A_OPENFLOW` attribute.
  ofNlaLen : Nat
  ofVersion : Nat
  ofType : Nat
  ofXid : Nat
  ofLength : Nat
  deriving DecidableEq, Repr

def NlMsg.empty (room : Int) : NlMsg := ⟨0, room, 0, 0, 0, 0, 0, 0, 0, 0, 0⟩

def NlMsg.put (m : NlMsg) (n : Int) : NlMsg := { m with len := m.len + n, room := m.room - n }

def genlmsgPut (m : NlMsg) (sender : Option Sender) : Option NlMsg :=
  let payload : Int := genlHdrlen + dpGenlFamilyHdrsize
  if m.room < nlmsgTotalSize payload then none
  else some { m.put (align4 (nlmsgHdrlen + payload)) with
    nlmsgLen := (nlmsgHdrlen + payload).toNat
    nlmsgPid := (sender.map (·.pid)).getD 0
    nlmsgSeq := (sender.map (·.seq)).getD 0 }

def nlaPutU32 (m : NlMsg) (v : Nat) : Option NlMsg :=
  if m.room < nlaTotalSize 4 then none
  else some { m.put (nlaTotalSize 4) with dpIdx := v }

/-- `nla_reserve` of the OpenFlow attribute: `nla_len` keeps the low 16 bits. -/
def nlaReserve (m : NlMsg) (attrlen : Int) : Option NlMsg :=
  if m.room < nlaTotalSize attrlen then none
  else some { m.put (nlaTotalSize attrlen) with ofNlaLen := ((nlaHdrlen + attrlen) % 2 ^ 16).toNat }

def nlaLen (m : NlMsg) : Int := m.ofNlaLen - nlaHdrlen

def nlaShrink (m : NlMsg) (len : Int) : K NlMsg :=
  let delta := nlaTotalSize len - nlaTotalSize (nlaLen m)
  if delta > 0 then .error .bug
  else .ok { m.put delta with ofNlaLen := ((nlaHdrlen + len) % 2 ^ 16).toNat }

/-- `put_openflow_headers`; a negative `int` passes its check against a `size_t`. -/
def putOpenflowHeaders (m : NlMsg) (dpIdx : Nat) (type : Nat) (sender : Option Sender) :
    K (Except Int (NlMsg × Int)) := do
  let some m := genlmsgPut m sender | return .error (-enobufs)
  let some m := nlaPutU32 m dpIdx | return .error (-enobufs)
  let openflowLen := (m.room - nlaHdrlen) - (m.room - nlaHdrlen) % 4
  if 0 ≤ openflowLen ∧ openflowLen < ofpHeaderLen then return .error (-enobufs)
  let some m := nlaReserve m openflowLen | .error .bug
  let oh := { m with
    ofVersion := ofpVersion
    ofType := type
    ofXid := (sender.map (·.xid)).getD 0 }
  return .ok (oh, openflowLen)

/-- `resize_openflow_skb`; the `size_t` length reaches `nla_shrink` as an `int`. -/
def resizeOpenflowSkb (m : NlMsg) (newLength : Int) : K NlMsg := do
  let m ← nlaShrink m newLength
  return { m with ofLength := (newLength % 2 ^ 16).toNat, nlmsgLen := m.len.toNat }

/-- `alloc_openflow_skb`; `room` is the tailroom `genlmsg_new` gives, `none` when it fails. -/
def allocOpenflowSkb (dpIdx : Nat) (openflowLen : Nat) (type : Nat) (sender : Option Sender)
    (room : Option Int) : K (Option NlMsg) := do
  if openflowLen + ofpHeaderLen > uint16Max then return none
  let some t := room | return none
  match ← putOpenflowHeaders (NlMsg.empty t) dpIdx type sender with
  | .error _ => .error .bug
  | .ok (m, _) => return some (← resizeOpenflowSkb m openflowLen)

theorem align4_of_mod {x : Int} (h : x % 4 = 0) : align4 x = x := by
  unfold align4; omega

theorem genlmsgNewSize_genlLen (n : Nat) : genlmsgNewSize (genlLen n) = 48 + align4 (4 + n) := by
  simp only [genlmsgNewSize, genlLen, nlmsgTotalSize, nlaTotalSize, genlHdrlen, nlmsgHdrlen,
    nlaHdrlen, dpGenlFamilyHdrsize]
  rw [align4_of_mod (by unfold align4; omega), align4_of_mod (by unfold align4; omega)]
  unfold align4
  omega

/-- Below 65564 bytes of tailroom `nla_len` does not wrap, and the message is well formed. -/
theorem allocOpenflowSkb_ok {n : Nat} {t : Int} (hn : n + ofpHeaderLen ≤ uint16Max)
    (ht : genlmsgNewSize (genlLen n) ≤ t) (hwrap : t < 65564) (dpIdx type : Nat)
    (sender : Option Sender) :
    ∃ m, allocOpenflowSkb dpIdx n type sender (some t) = .ok (some m) ∧
      m.ofNlaLen = nlaHdrlen + n ∧ m.len = 28 + nlaTotalSize n ∧ m.nlmsgLen = m.len ∧
      m.ofVersion = ofpVersion ∧ m.ofType = type ∧ m.ofXid = (sender.map (·.xid)).getD 0 ∧
      m.ofLength = n := by
  rw [genlmsgNewSize_genlLen] at ht
  simp only [ofpHeaderLen, uint16Max] at hn
  simp only [align4] at ht
  simp (disch := omega) only [allocOpenflowSkb, putOpenflowHeaders, genlmsgPut, nlaPutU32,
    nlaReserve, resizeOpenflowSkb, nlaShrink, nlaLen, NlMsg.put, NlMsg.empty, nlaTotalSize,
    nlmsgTotalSize, align4, ofpHeaderLen, uint16Max, nlaHdrlen, nlmsgHdrlen, genlHdrlen,
    dpGenlFamilyHdrsize, if_neg, pure_bind, Nat.cast_ofNat, Nat.cast_zero, add_zero, Int.reduceAdd,
    Int.reduceSub, Int.reduceMod]
  rw [if_neg (by omega)]
  -- the OpenFlow attribute reserves `L` bytes: the room left after 32 bytes of headers
  generalize hL : t - 20 - 8 - 4 - (t - 20 - 8 - 4) % 4 = L
  have hnla : ((4 + L) % 2 ^ 16).toNat = 4 + L := by omega
  simp only [Int.ofNat_toNat, hnla]
  refine ⟨_, rfl, ?_, ?_, ?_, rfl, rfl, rfl, ?_⟩ <;> dsimp only <;> omega

theorem resizeOpenflowSkb_ok {m : NlMsg} {L len : Int} (hm : (m.ofNlaLen : Int) = nlaHdrlen + L)
    (hlen : len ≤ L) (h0 : 0 ≤ nlaHdrlen + len) (hL : nlaHdrlen + L < 2 ^ 16) :
    ∃ m', resizeOpenflowSkb m len = .ok m' ∧ (m'.ofNlaLen : Int) = nlaHdrlen + len := by
  simp only [nlaHdrlen] at hm h0 hL ⊢
  simp (disch := omega) only [resizeOpenflowSkb, nlaShrink, nlaLen, nlaTotalSize, nlaHdrlen, align4,
    hm, if_neg, bind, Except.bind, pure, Except.pure]
  exact ⟨_, rfl, by dsimp only; omega⟩

theorem allocOpenflowSkb_none_room (dpIdx n type : Nat) (sender : Option Sender) :
    allocOpenflowSkb dpIdx n type sender none = .ok none := by
  simp only [allocOpenflowSkb]
  split <;> rfl

theorem resizeOpenflowSkb_ofLength {m m' : NlMsg} {len : Int} (h : resizeOpenflowSkb m len = .ok m') :
    m'.ofLength = (len % 2 ^ 16).toNat := by
  unfold resizeOpenflowSkb at h
  cases hs : nlaShrink m len with
  | error e => rw [hs] at h; cases h
  | ok m₁ => rw [hs] at h; cases h; rfl

theorem putOpenflowHeaders_empty {room : Int} (h44 : 44 ≤ room) (hwrap : room < 65564)
    (dpIdx type : Nat) (sender : Option Sender) :
    ∃ m L, putOpenflowHeaders (NlMsg.empty room) dpIdx type sender = .ok (.ok (m, L)) ∧
      L = (room - 32) - (room - 32) % 4 ∧ (m.ofNlaLen : Int) = nlaHdrlen + L ∧
      nlaHdrlen + L ≤ m.len := by
  simp (disch := omega) only [putOpenflowHeaders, genlmsgPut, nlaPutU32, nlaReserve, NlMsg.put,
    NlMsg.empty, nlaTotalSize, nlmsgTotalSize, align4, ofpHeaderLen, nlaHdrlen, nlmsgHdrlen,
    genlHdrlen, dpGenlFamilyHdrsize, if_neg, pure_bind]
  exact ⟨_, _, rfl, by omega, by dsimp only; omega, by dsimp only; omega⟩

/-- A 65509-byte message wraps `nla_len` to 0, and `nla_shrink`'s `BUG_ON` fires. -/
theorem allocOpenflowSkb_bug_65509 :
    genlmsgNewSize (genlLen 65509) = 65564 ∧ 65509 + ofpHeaderLen ≤ uint16Max ∧
      allocOpenflowSkb 0 65509 3 none (some (genlmsgNewSize (genlLen 65509))) = .error .bug :=
  ⟨by decide, by decide, rfl⟩

theorem allocOpenflowSkb_bug_of_wrap {n : Nat} (hn : 65509 ≤ n)
    (hmax : n + ofpHeaderLen ≤ uint16Max) (dpIdx type : Nat) (sender : Option Sender) :
    allocOpenflowSkb dpIdx n type sender (some (genlmsgNewSize (genlLen n))) = .error .bug := by
  rw [genlmsgNewSize_genlLen]
  simp only [ofpHeaderLen, uint16Max] at hmax
  simp (disch := omega) only [allocOpenflowSkb, putOpenflowHeaders, genlmsgPut, nlaPutU32,
    nlaReserve, resizeOpenflowSkb, nlaShrink, nlaLen, NlMsg.put, NlMsg.empty, nlaTotalSize,
    nlmsgTotalSize, align4, ofpHeaderLen, uint16Max, nlaHdrlen, nlmsgHdrlen, genlHdrlen,
    dpGenlFamilyHdrsize, if_neg, pure_bind, Nat.cast_ofNat, Nat.cast_zero, add_zero, Int.reduceAdd,
    Int.reduceSub, Int.reduceMod]
  rw [if_pos (by omega)]
  rfl

end OpenflowDatapath
