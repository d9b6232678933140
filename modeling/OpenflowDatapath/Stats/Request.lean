import OpenflowDatapath.Stats.Dumpit

/-! # Resolving a request's datapath

A dump request and an OpenFlow request both name their datapath by the `u32` attribute
`DP_GENL_A_DP_IDX` (`dp_genl_openflow_policy` declares it `NLA_U32`). The first call of
`dp_genl_openflow_dumpit` reads it with `nla_get_u16`; `dp_genl_openflow` and `lookup_dp` read
it with `nla_get_u32`. This module puts the two readings side by side, and looks at the
first call's checks on a request without the OpenFlow attribute.
-/

namespace OpenflowDatapath

/-- `nla_get_u16` of the `u32` attribute, on a little-endian host: its low half. -/
def nlaGetU16 (v : UInt32) : Nat := v.toNat % 2 ^ 16

def DumpRequest.ofAttr (v : Option UInt32) (openflow : Option OfpStatsRequest)
    (pid seq : Nat) : DumpRequest :=
  ⟨none, v.map nlaGetU16, openflow, pid, seq⟩

/-- `dp_genl_openflow`, given `nla_len(va)` and what `fwd_control_input` (forward.c) returns. -/
def dpGenlOpenflow (s : Sys) (attrs : Attrs) (va : Option Nat) (fwdControlInput : DpRef → Int) :
    Int :=
  match attrs.dpIdx, va with
  | some _, some len =>
    match dpGetByIdx s attrs.idx with
    | none => -enoent
    | some a => if len < ofpHeaderLen then -einval else fwdControlInput a
  | _, _ => -einval

section Index

variable {s : Sys} {v : UInt32}

theorem dpGetByIdx_u32_high (hv : 2 ^ 16 ≤ v.toNat) :
    dpGetByIdx s (Attrs.idx ⟨some v, none, none⟩) = none := by
  have hlt := v.toNat_lt
  simp only [Attrs.idx, dpGetByIdx, dpMax]
  split <;> rw [if_pos (by omega)]

theorem lookupDp_u32_high {portName : Option String} (hv : 2 ^ 16 ≤ v.toNat) :
    lookupDp s ⟨some v, none, portName⟩ =
      .ok (.error (if v.toNat = 2 ^ 32 - 1 then -einval else -enoent)) := by
  have hidx : Attrs.idx ⟨some v, none, portName⟩ = Attrs.idx ⟨some v, none, none⟩ := rfl
  have hval : Attrs.idx ⟨some v, none, none⟩ =
      if v.toNat < 2 ^ 31 then (v.toNat : Int) else v.toNat - 2 ^ 32 := rfl
  have hlt := v.toNat_lt
  by_cases hm : v.toNat = 2 ^ 32 - 1
  · rw [lookupDp, hidx, if_neg (by rw [hval, if_neg (by omega)]; omega), if_pos hm]
    rfl
  · rw [lookupDp, hidx, if_pos (by rw [hval]; split <;> omega), dpGetByIdx_u32_high hv,
      if_neg hm]
    rfl

theorem dpGenlOpenflow_u32_high {portName : Option String} (hv : 2 ^ 16 ≤ v.toNat) (len : Nat)
    (fwd : DpRef → Int) : dpGenlOpenflow s ⟨some v, none, portName⟩ (some len) fwd = -enoent := by
  simp only [dpGenlOpenflow]
  rw [show Attrs.idx ⟨some v, none, portName⟩ = Attrs.idx ⟨some v, none, none⟩ from rfl,
    dpGetByIdx_u32_high hv]

theorem checkStatsRequest_dp {req : DumpRequest} {i : Nat} {a : DpRef}
    (hparse : req.parseErr = none) (hidx : req.dpIdx = some i) (ha : dpGetByIdx s i = some a) :
    checkStatsRequest s req ≠ .ok (.error (-enoent, none)) ∧
      ∀ j b rq st, checkStatsRequest s req = .ok (.ok (j, b, rq, st)) → j = i ∧ b = a := by
  cases hof : req.openflow with
  | none =>
    have : checkStatsRequest s req = .error .badDeref := by
      simp [checkStatsRequest, hparse, hidx, ha, hof]
    rw [this]
    exact ⟨nofun, fun _ _ _ _ h => nomatch h⟩
  | some rq =>
    simp only [checkStatsRequest, hparse, hidx, ha, hof, deref, bind, Except.bind, pure,
      Except.pure]
    constructor
    · repeat' split
      all_goals simp [einval, enoent]
    · intro j b rq' st h
      repeat' split at h
      all_goals cases h <;> exact ⟨rfl, rfl⟩

/-- An index of `2 ^ 16` or more: dumps use its low half, `dp_genl_openflow` rejects it. -/
theorem dumpit_resolves_low_half (hv : 2 ^ 16 ≤ v.toNat) {a : DpRef}
    (ha : dpGetByIdx s (nlaGetU16 v) = some a) (openflow : Option OfpStatsRequest)
    (pid seq : Nat) :
    checkStatsRequest s (.ofAttr (some v) openflow pid seq) ≠ .ok (.error (-enoent, none)) ∧
    (∀ j b rq st, checkStatsRequest s (.ofAttr (some v) openflow pid seq) =
        .ok (.ok (j, b, rq, st)) → j = nlaGetU16 v ∧ b = a) ∧
    lookupDp s ⟨some v, none, none⟩ =
      .ok (.error (if v.toNat = 2 ^ 32 - 1 then -einval else -enoent)) ∧
    ∀ len fwd, dpGenlOpenflow s ⟨some v, none, none⟩ (some len) fwd = -enoent :=
  ⟨(checkStatsRequest_dp rfl rfl ha).1, (checkStatsRequest_dp rfl rfl ha).2,
    lookupDp_u32_high hv, fun len fwd => dpGenlOpenflow_u32_high hv len fwd⟩

theorem dumpit_resolves_low_half_65536 :
    2 ^ 16 ≤ (65536 : UInt32).toNat ∧ dpGetByIdx demoSys (nlaGetU16 65536) = some 0 ∧
    checkStatsRequest demoSys (.ofAttr (some 65536) none 0 0) ≠ .ok (.error (-enoent, none)) ∧
    (∀ j b rq st, checkStatsRequest demoSys (.ofAttr (some 65536) none 0 0) =
        .ok (.ok (j, b, rq, st)) → j = nlaGetU16 65536 ∧ b = 0) ∧
    lookupDp demoSys ⟨some 65536, none, none⟩ =
      .ok (.error (if (65536 : UInt32).toNat = 2 ^ 32 - 1 then -einval else -enoent)) ∧
    ∀ len fwd, dpGenlOpenflow demoSys ⟨some 65536, none, none⟩ (some len) fwd = -enoent :=
  ⟨by decide, rfl, dumpit_resolves_low_half (s := demoSys) (v := 65536) (a := 0) (by decide) rfl
    none 0 0⟩

end Index

/-- What the first call's checks ask of a request, to go on with datapath `a` and type `st`. -/
structure Accepted (s : Sys) (req : DumpRequest) (rq : OfpStatsRequest) (i : Nat) (a : DpRef)
    (st : StatsType) : Prop where
  parsed : req.parseErr = none
  idx : req.dpIdx = some i
  live : dpGetByIdx s i = some a
  len : ofpStatsRequestSize ≤ rq.len
  version : rq.version = ofpVersion
  type : rq.type = ofptStatsRequest
  length : rq.length = rq.len
  stats : statsOf rq.statsType = some st
  body : st.minBody ≤ rq.len - statsBodyOffset ∧ rq.len - statsBodyOffset ≤ st.maxBody

theorem checkStatsRequest_ok_iff {s : Sys} {req : DumpRequest} {rq : OfpStatsRequest}
    (hva : req.openflow = some rq) {i : Nat} {a : DpRef} {st : StatsType} :
    checkStatsRequest s req = .ok (.ok (i, a, rq, st)) ↔ Accepted s req rq i a st := by
  constructor
  · intro h
    obtain ⟨-, hst, hi⟩ := checkStatsRequest_ok h
    simp only [checkStatsRequest, hva, deref, bind, Except.bind, pure, Except.pure] at h
    repeat' split at h
    all_goals cases h
    rename_i _ hpe _ _ hlen hver htl _ hidx _ _ hbody
    obtain ⟨hty, hlg⟩ := not_or.1 htl
    obtain ⟨hmin, hmax⟩ := not_or.1 hbody
    exact ⟨Option.eq_none_iff_forall_not_mem.2 hpe, hidx, hi, Nat.not_lt.1 hlen, not_not.1 hver,
      not_not.1 hty, not_not.1 hlg, hst, Nat.not_lt.1 hmin, Nat.not_lt.1 hmax⟩
  · intro h
    have hbody : ¬(rq.len - statsBodyOffset < st.minBody ∨ rq.len - statsBodyOffset > st.maxBody) :=
      by have := h.body; omega
    simp [checkStatsRequest, h.parsed, h.idx, h.live, hva, h.stats, h.version, h.type, h.length,
      Nat.not_lt.2 h.len, hbody]

/-- Without an OpenFlow attribute the first call reads `nla_len(va)` of nothing and oopses. -/
theorem dumpitFirst_oops_without_openflow {env : DumpCallEnv} {req : DumpRequest}
    {cb : Callback} {mem : DumpMem} {i : Nat} {a : DpRef} (hparse : req.parseErr = none)
    (hidx : req.dpIdx = some i) (hdp : dpGetByIdx env.sys i = some a)
    (hva : req.openflow = none) : dumpitFirst env req cb mem = .error .badDeref := by
  have h : checkStatsRequest env.sys req = .error .badDeref := by
    simp [checkStatsRequest, hparse, hidx, hdp, hva]
  rw [dumpitFirst, h]
  rfl

theorem dumpitFirst_oops_demo :
    (⟨none, some 0, none, 0, 0⟩ : DumpRequest).parseErr = none ∧
    dpGetByIdx (demoCall 148).sys 0 = some 0 ∧
    dumpitFirst (demoCall 148) ⟨none, some 0, none, 0, 0⟩ Callback.zero DumpMem.empty =
      .error .badDeref :=
  ⟨rfl, rfl, dumpitFirst_oops_without_openflow (i := 0) (a := 0) rfl rfl rfl rfl⟩

end OpenflowDatapath
