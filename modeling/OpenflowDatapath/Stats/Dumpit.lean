import OpenflowDatapath.Stats.Dump
import OpenflowDatapath.Netlink.Message
import OpenflowDatapath.Admin.Tables

/-! # The stats dump protocol

Netlink calls `dp_genl_openflow_dumpit` again and again while it returns more than 0, and
`dp_genl_openflow_done` once at the end, whatever ended the dump. Between calls the dump
lives in the callback's `args`: the phase (`args[0]`: 0 before the first call, 1 while
dumping, 2 once the dump is done), the datapath's index, the stats type, the request's
`xid` and the dump state. Dump states are objects of a heap whose `kmalloc`s and `kfree`s
are logged. On buffers of 44 to 65563 bytes only a port dump can report more than its body
holds, which `nla_shrink`'s `BUG_ON` catches; every dump but the vendor's frees what it owns
exactly once.
-/

namespace OpenflowDatapath

def ofpstDesc : Nat := 0
def ofpstFlow : Nat := 1
def ofpstAggregate : Nat := 2
def ofpstTable : Nat := 3
def ofpstPort : Nat := 4
def ofpstVendor : Nat := 0xffff

def ofptStatsRequest : Nat := 16
def ofptStatsReply : Nat := 17
def ofpsfReplyMore : Nat := 1
def ofpetBadRequest : Nat := 1
def ofpbrcBadVersion : Nat := 0
def ofpbrcBadStat : Nat := 2

/-- `sizeof(struct ofp_stats_request)`, also the body's offset in it and in the reply. -/
def ofpStatsRequestSize : Nat := 12
def statsBodyOffset : Nat := 12
def flowStatsRequestSize : Nat := 44
def aggregateStatsRequestSize : Nat := 44
def portStatsRequestSize : Nat := 8

/-- `struct stats_type` as the dump uses it: body bounds, and whether `init` and `done` exist. -/
structure StatsType where
  minBody : Nat
  maxBody : Nat
  hasInit : Bool
  hasDone : Bool
  deriving DecidableEq, Repr

/-- `stats[type]`, for the types the array has an entry with a `dump` for. -/
def stats (type : Nat) : Option StatsType :=
  if type = ofpstDesc then some ⟨0, 0, false, false⟩
  else if type = ofpstFlow then some ⟨flowStatsRequestSize, flowStatsRequestSize, true, true⟩
  else if type = ofpstAggregate then
    some ⟨aggregateStatsRequestSize, aggregateStatsRequestSize, true, false⟩
  else if type = ofpstTable then some ⟨0, 0, false, false⟩
  else if type = ofpstPort then some ⟨portStatsRequestSize, portStatsRequestSize, true, true⟩
  else none

def statsVendor : StatsType := ⟨8, 32, true, true⟩

/-- The stats type a dump of type `type` uses: `stats_vendor` or `stats[type]`. -/
def statsOf (type : Nat) : Option StatsType :=
  if type = ofpstVendor then some statsVendor else stats type

theorem stats_ne_vendor (type : Nat) : stats type ≠ some statsVendor := by
  unfold stats
  split_ifs <;> decide

theorem statsOf_eq_vendor {type : Nat} (h : statsOf type = some statsVendor) :
    type = ofpstVendor := by
  by_contra hv
  rw [statsOf, if_neg hv] at h
  exact stats_ne_vendor type h

/-- The body of a stats request, as each `init` reads it. -/
structure StatsBody where
  -- As `struct ofp_flow_stats_request` or `struct ofp_aggregate_stats_request`.
  flow : FlowStatsRequest
  -- `ntohs(psr->port_no)`.
  portNo : Nat
  -- `ntohl(*(uint32_t *)body)`.
  vendor : Nat
  deriving DecidableEq, Repr

/-- The `DP_GENL_A_OPENFLOW` attribute: its `nla_len`, and the `ofp_stats_request` fields read. -/
structure OfpStatsRequest where
  len : Nat
  version : Nat
  type : Nat
  length : Nat
  xid : Nat
  statsType : Nat
  body : StatsBody
  deriving DecidableEq, Repr

/-- A dump request as `nlmsg_parse` leaves it. -/
structure DumpRequest where
  -- The error of `nlmsg_parse` when the message breaks `dp_genl_openflow_policy`.
  parseErr : Option Int
  -- `nla_get_u16(attrs[DP_GENL_A_DP_IDX])`.
  dpIdx : Option Nat
  openflow : Option OfpStatsRequest
  pid : Nat
  seq : Nat
  deriving DecidableEq, Repr

/-- What `args[4]` points to. -/
inductive StatePtr where
  | null
  -- The request's body, which `aggregate_stats_init` keeps.
  | body
  -- A `kmalloc`ed object.
  | heap (a : Nat)
  deriving DecidableEq, Repr

/-- `args[0 .. 4]` of `struct netlink_callback`. -/
structure Callback where
  phase : Nat
  dpIdx : Nat
  type : Nat
  xid : Nat
  state : StatePtr
  deriving DecidableEq, Repr

def Callback.zero : Callback := ⟨0, 0, 0, 0, .null⟩

inductive DumpObj where
  | flow (st : FlowStatsState)
  | port (st : PortStatsState)
  deriving DecidableEq, Repr

def DumpObj.type : DumpObj → Nat
  | .flow _ => ofpstFlow
  | .port _ => ofpstPort

inductive MemEvent where
  | alloc (a : Nat)
  | free (a : Nat)
  deriving DecidableEq, Repr

/-- The dump states in the kernel heap, and the log of `kmalloc` and `kfree` on them. -/
structure DumpMem where
  heap : Nat → Option DumpObj
  log : List MemEvent

def DumpMem.empty : DumpMem := ⟨fun _ => none, []⟩

def kmallocState (ok : Bool) (mem : DumpMem) (o : DumpObj) : Except Int (StatePtr × DumpMem) :=
  if ok then
    .ok (.heap mem.log.length,
      ⟨Function.update mem.heap mem.log.length (some o), mem.log ++ [.alloc mem.log.length]⟩)
  else .error (-enomem)

/-- `kfree`: `kfree(NULL)` does nothing; freeing what is not allocated is an oops. -/
def kfree (mem : DumpMem) : StatePtr → K DumpMem
  | .null => pure mem
  | .body => .error .badDeref
  | .heap a => do
    let _ ← deref (mem.heap a)
    return ⟨Function.update mem.heap a none, mem.log ++ [.free a]⟩

def readState (mem : DumpMem) : StatePtr → Option DumpObj
  | .heap a => mem.heap a
  | _ => none

/-- `*(uint32_t *)state`: the object's first member, or the request body's first word. -/
def vendorHead (body : Option StatsBody) (mem : DumpMem) : StatePtr → Option Nat
  | .null => none
  | .body => body.map (·.vendor)
  | .heap a => (mem.heap a).map fun
    | .flow st => st.tableIdx
    | .port st => st.startPort

/-- The `init` of a stats type; `vendor_stats_init` knows no vendor. -/
def statsInit (type : Nat) (body : StatsBody) (kmallocOk : Bool) (mem : DumpMem) :
    Except Int (StatePtr × DumpMem) :=
  if type = ofpstFlow then kmallocState kmallocOk mem (.flow (flowStatsInit body.flow))
  else if type = ofpstAggregate then .ok (.body, mem)
  else if type = ofpstPort then kmallocState kmallocOk mem (.port (portStatsInit body.portNo))
  else .error (-einval)

def statsDump (s : Sys) (dp : Datapath) (chain : Chain) (body : Option StatsBody) (type : Nat)
    (ptr : StatePtr) (mem : DumpMem) (c : Int) : K (Dumped × DumpMem) :=
  if type = ofpstDesc then pure (descStatsDump c, mem)
  else if type = ofpstFlow then
    match ptr, readState mem ptr with
    | .heap a, some (.flow st) =>
      let r := flowStatsDump chain st c
      pure (r.1, { mem with heap := Function.update mem.heap a (some (.flow r.2)) })
    | _, _ => .error .badDeref
  else if type = ofpstAggregate then
    match ptr, body with
    | .body, some b => pure (aggregateStatsDump chain b.flow c, mem)
    | _, _ => .error .badDeref
  else if type = ofpstTable then pure (tableStatsDump chain c, mem)
  else if type = ofpstPort then
    match ptr, readState mem ptr with
    | .heap a, some (.port st) => do
      let r ← portStatsDump s dp st c
      pure (r.1, { mem with heap := Function.update mem.heap a (some (.port r.2)) })
    | _, _ => .error .badDeref
  else do
    let d ← vendorStatsDump (vendorHead body mem ptr) c
    pure (d, mem)

/-- What one call gets: the datapaths, their chains, the buffer's tailroom, `kmalloc`'s success. -/
structure DumpCallEnv where
  sys : Sys
  chain : DpRef → Chain
  room : Int
  kmallocOk : Bool

inductive DumpitSetup where
  | reply (a : DpRef) (xid : Nat) (cb : Callback) (mem : DumpMem)
  | out (ret : Int) (cb : Callback) (mem : DumpMem) (msg : Option (Nat × Nat))

def DumpitSetup.cb : DumpitSetup → Callback
  | .reply _ _ cb _ => cb
  | .out _ cb _ _ => cb

def DumpitSetup.mem : DumpitSetup → DumpMem
  | .reply _ _ _ mem => mem
  | .out _ _ mem _ => mem

/-- The first call's checks in the source's order; `nla_len(va)` is read before `!va` is tested. -/
def checkStatsRequest (s : Sys) (req : DumpRequest) :
    K (Except (Int × Option (Nat × Nat)) (Nat × DpRef × OfpStatsRequest × StatsType)) := do
  if let some err := req.parseErr then return .error (err, none)
  let some dpIdx := req.dpIdx | return .error (-einval, none)
  let some a := dpGetByIdx s dpIdx | return .error (-enoent, none)
  let rq ← deref req.openflow
  if rq.len < ofpStatsRequestSize then return .error (-einval, none)
  if rq.version ≠ ofpVersion then return .error (-einval, some (ofpetBadRequest, ofpbrcBadVersion))
  if rq.type ≠ ofptStatsRequest ∨ rq.length ≠ rq.len then return .error (-einval, none)
  let some st := statsOf rq.statsType |
    return .error (-einval, some (ofpetBadRequest, ofpbrcBadStat))
  let bodyLen := rq.len - statsBodyOffset
  if bodyLen < st.minBody ∨ bodyLen > st.maxBody then return .error (-einval, none)
  return .ok (dpIdx, a, rq, st)

def dumpitFirst (env : DumpCallEnv) (req : DumpRequest) (cb : Callback) (mem : DumpMem) :
    K DumpitSetup := do
  match ← checkStatsRequest env.sys req with
  | .error (ret, msg) => return .out ret cb mem msg
  | .ok (dpIdx, a, rq, st) =>
    let cb := { cb with phase := 1, dpIdx := dpIdx, type := rq.statsType, xid := rq.xid }
    if st.hasInit then
      match statsInit rq.statsType rq.body env.kmallocOk mem with
      | .error err => return .out err cb mem none
      | .ok (ptr, mem) => return .reply a rq.xid { cb with state := ptr } mem
    else return .reply a rq.xid cb mem

def dumpitSetup (env : DumpCallEnv) (req : DumpRequest) (cb : Callback) (mem : DumpMem) :
    K DumpitSetup :=
  if cb.phase = 0 then dumpitFirst env req cb mem
  else if cb.phase = 1 then
    match dpGetByIdx env.sys cb.dpIdx with
    | some a => pure (.reply a cb.xid cb mem)
    | none => pure (.out (-enoent) cb mem none)
  else pure (.out 0 cb mem none)

structure StatsReply where
  msg : NlMsg
  type : Nat
  flags : Nat
  records : List StatsRecord

structure DumpitOut where
  ret : Int
  cb : Callback
  mem : DumpMem
  msg : Option (Nat × Nat)
  reply : Option StatsReply

def dpGenlOpenflowDumpit (env : DumpCallEnv) (req : DumpRequest) (cb : Callback)
    (mem : DumpMem) : K DumpitOut := do
  match ← dumpitSetup env req cb mem with
  | .out ret cb mem msg => return ⟨ret, cb, mem, msg, none⟩
  | .reply a xid cb mem =>
    let dp ← deref (env.sys.dpHeap a)
    let sender : Sender := ⟨xid, req.pid, req.seq⟩
    match ← putOpenflowHeaders (NlMsg.empty env.room) dp.dpIdx ofptStatsReply (some sender) with
    | .error err => return ⟨err, cb, mem, none, none⟩
    | .ok (m, maxLen) =>
      let m ← resizeOpenflowSkb m maxLen
      let (d, mem) ← statsDump env.sys dp (env.chain a) (req.openflow.map (·.body)) cb.type
        cb.state mem (maxLen - statsBodyOffset)
      if d.ret < 0 then return ⟨d.ret, cb, mem, none, none⟩
      let cb := if d.ret = 0 then { cb with phase := 2 } else cb
      let m ← resizeOpenflowSkb m (statsBodyOffset + d.bodyLen)
      return ⟨m.len, cb, mem, none,
        some ⟨m, cb.type, if d.ret = 0 then 0 else ofpsfReplyMore, d.records⟩⟩

/-- `dp_genl_openflow_done`; `vendor_stats_done` reads the vendor id before its `kfree`. -/
def dpGenlOpenflowDone (req : DumpRequest) (cb : Callback) (mem : DumpMem) : K DumpMem :=
  if cb.phase = 0 then pure mem
  else if cb.type = ofpstVendor then do
    let _ ← deref (vendorHead (req.openflow.map (·.body)) mem cb.state)
    kfree mem cb.state
  else match stats cb.type with
    | some st => if st.hasDone then kfree mem cb.state else pure mem
    | none => .error .badDeref

/-- The calls of a dump, one per environment while they return more than 0. -/
def dumpitCalls (req : DumpRequest) : List DumpCallEnv → Callback → DumpMem →
    K (List DumpitOut × Callback × DumpMem)
  | [], cb, mem => pure ([], cb, mem)
  | env :: envs, cb, mem => do
    let o ← dpGenlOpenflowDumpit env req cb mem
    if o.ret > 0 then do
      let r ← dumpitCalls req envs o.cb o.mem
      pure (o :: r.1, r.2)
    else pure ([o], o.cb, o.mem)

def dumpSession (req : DumpRequest) (envs : List DumpCallEnv) : K (List DumpitOut × DumpMem) := do
  let r ← dumpitCalls req envs Callback.zero DumpMem.empty
  let mem ← dpGenlOpenflowDone req r.2.1 r.2.2
  pure (r.1, mem)

theorem dumpSession_of_calls {req : DumpRequest} {envs : List DumpCallEnv}
    {r : List DumpitOut × Callback × DumpMem}
    (h : dumpitCalls req envs Callback.zero DumpMem.empty = .ok r) :
    dumpSession req envs = dpGenlOpenflowDone req r.2.1 r.2.2 >>= fun mem => pure (r.1, mem) := by
  rw [dumpSession, h]
  rfl

theorem dpGenlOpenflowDone_vendor_null {req : DumpRequest} {i x : Nat} :
    dpGenlOpenflowDone req ⟨1, i, ofpstVendor, x, .null⟩ DumpMem.empty = .error .badDeref := by
  rw [dpGenlOpenflowDone, if_neg Nat.one_ne_zero, if_pos rfl]
  rfl

section Calls

variable {env : DumpCallEnv} {req : DumpRequest} {cb : Callback} {s : Sys} {dp : Datapath}
  {chain : Chain} {body : Option StatsBody} {type : Nat} {ptr : StatePtr} {mem mem' : DumpMem}
  {c : Int} {d : Dumped}

theorem checkStatsRequest_error {s : Sys} {req : DumpRequest} {e : Oops}
    (h : checkStatsRequest s req = .error e) : e = .badDeref := by
  cases hof : req.openflow <;>
    simp only [checkStatsRequest, hof, deref, bind, Except.bind, pure, Except.pure] at h <;>
    repeat' split at h
  all_goals cases h <;> rfl

theorem checkStatsRequest_ok {s : Sys} {req : DumpRequest} {i : Nat} {a : DpRef}
    {rq : OfpStatsRequest} {st : StatsType}
    (h : checkStatsRequest s req = .ok (.ok (i, a, rq, st))) :
    req.openflow = some rq ∧ statsOf rq.statsType = some st ∧ dpGetByIdx s i = some a := by
  cases hof : req.openflow <;>
    simp only [checkStatsRequest, hof, deref, bind, Except.bind, pure, Except.pure] at h <;>
    repeat' split at h
  all_goals cases h
  exact ⟨rfl, ‹_›, ‹_›⟩

theorem dumpitFirst_ne_bug : dumpitFirst env req cb mem ≠ .error .bug := by
  intro h
  rcases bind_eq_error.1 h with h | ⟨c, -, h⟩
  · cases checkStatsRequest_error h
  · rcases c with ⟨ret, msg⟩ | ⟨i, a, rq, st⟩
    · cases h
    · dsimp only at h
      split at h
      · split at h <;> cases h
      · cases h

theorem dumpitSetup_ne_bug : dumpitSetup env req cb mem ≠ .error .bug := by
  unfold dumpitSetup
  split
  · exact dumpitFirst_ne_bug
  · split
    · split <;> nofun
    · nofun

theorem statsDump_within (hc : 0 ≤ c) (hport : type ≠ ofpstPort)
    (h : statsDump s dp chain body type ptr mem c = .ok (d, mem')) : d.Within c := by
  unfold statsDump at h
  split_ifs at h
  · cases h
    exact descStatsDump_within hc
  · split at h
    · cases h
      exact flowStatsDump_within hc _ _
    · cases h
  · split at h
    · cases h
      exact aggregateStatsDump_within hc _ _
    · cases h
  · cases h
    exact tableStatsDump_within hc _
  · obtain ⟨d', hd, h⟩ := bind_eq_ok.1 h
    cases h
    exact vendorStatsDump_within hc hd

theorem statsDump_ne_bug (hport : type ≠ ofpstPort) :
    statsDump s dp chain body type ptr mem c ≠ .error .bug := by
  intro h
  unfold statsDump at h
  split_ifs at h
  all_goals first | cases h | skip
  · split at h <;> cases h
  · split at h <;> cases h
  · rcases bind_eq_error.1 h with h | ⟨d, -, h⟩
    · cases hv : vendorHead body mem ptr <;>
        simp [vendorStatsDump, hv, bind, Except.bind, pure, Except.pure] at h
    · cases h
theorem dpGenlOpenflowDumpit_bug_port {env : DumpCallEnv} {req : DumpRequest} {cb : Callback}
    {mem : DumpMem} (h44 : 44 ≤ env.room) (hwrap : env.room < 65564)
    (h : dpGenlOpenflowDumpit env req cb mem = .error .bug) :
    ∃ a xid cb' mem', dumpitSetup env req cb mem = .ok (.reply a xid cb' mem') ∧
      cb'.type = ofpstPort := by
  unfold dpGenlOpenflowDumpit at h
  rcases bind_eq_error.1 h with h | ⟨r, hr, h⟩
  · exact absurd h dumpitSetup_ne_bug
  cases r with
  | out ret cb' mem' msg => cases h
  | reply a xid cb' mem' =>
    refine ⟨a, xid, cb', mem', hr, Classical.byContradiction fun hport => ?_⟩
    rcases bind_eq_error.1 h with h | ⟨dp, -, h⟩
    · cases hd : env.sys.dpHeap a <;> simp [hd] at h
    obtain ⟨m, L, hput, hL, hm, -⟩ :=
      putOpenflowHeaders_empty h44 hwrap dp.dpIdx ofptStatsReply (some ⟨xid, req.pid, req.seq⟩)
    simp only [hput, ok_bind] at h
    simp only [nlaHdrlen] at hm
    obtain ⟨m1, hres1, hm1⟩ := resizeOpenflowSkb_ok hm (Int.le_refl L)
      (by simp only [nlaHdrlen]; omega) (by simp only [nlaHdrlen]; omega)
    rw [hres1, ok_bind] at h
    rcases bind_eq_error.1 h with h | ⟨⟨d, mem''⟩, hd, h⟩
    · exact statsDump_ne_bug hport h
    have hw := statsDump_within (by simp only [statsBodyOffset]; omega) hport hd
    dsimp only at h
    split at h
    · cases h
    rcases bind_eq_error.1 h with h | ⟨_, -, h⟩
    · cases h
    have := hw.bodyLen_nonneg
    have hfit : (statsBodyOffset : Int) + d.bodyLen ≤ L := by
      have := hw.bodyLen_le
      simp only [statsBodyOffset] at this ⊢
      omega
    obtain ⟨m2, hres2, -⟩ := resizeOpenflowSkb_ok hm1 hfit
      (by simp only [nlaHdrlen, statsBodyOffset]; omega) (by simp only [nlaHdrlen]; omega)
    rw [hres2, ok_bind] at h
    cases h
end Calls

def demoCall (room : Int) : DumpCallEnv := ⟨demoSys, fun _ => ⟨[], ⟨fun _ _ => []⟩⟩, room, true⟩

def statsRequest (type bodyLen : Nat) (body : StatsBody) : DumpRequest where
  parseErr := none
  dpIdx := some 0
  openflow := some
    { len := ofpStatsRequestSize + bodyLen
      version := ofpVersion
      type := ofptStatsRequest
      length := ofpStatsRequestSize + bodyLen
      xid := 0
      statsType := type
      body := body }
  pid := 0
  seq := 0

def portStatsRequest (portNo : Nat) : DumpRequest :=
  statsRequest ofpstPort portStatsRequestSize ⟨⟨0, 0, 0⟩, portNo, 0⟩

def vendorRequest : DumpRequest := statsRequest ofpstVendor 8 ⟨⟨0, 0, 0⟩, 0, 0x2320⟩

/-- On `demoSys` a port dump of every port into a one-record body overruns it and hits `BUG_ON`. -/
theorem portStatsDump_overruns_body :
    portStatsDump demoSys demoDp (portStatsInit ofppNone) 104 =
        .ok (⟨1, [.port 1 0, .port ofppLocal 1], 208⟩, ⟨ofppLocal + 1, ofppNone⟩) ∧
      dumpSession (portStatsRequest ofppNone) [demoCall 148] = .error .bug :=
  ⟨rfl, rfl⟩

/-- What a dump owns between calls: nothing, the request's body, or the one object `init` made. -/
structure Owns (req : DumpRequest) (cb : Callback) (mem : DumpMem) : Prop where
  started : cb.phase ≠ 0 → ∃ rq st, req.openflow = some rq ∧ cb.type = rq.statsType ∧
    statsOf cb.type = some st
  fresh : cb.phase = 0 → cb.state = .null
  state : (cb.state = .null ∧ mem.log = []) ∨
    (cb.state = .body ∧ cb.type = ofpstAggregate ∧ mem.log = []) ∨
    ∃ a o, cb.state = .heap a ∧ mem.log = [.alloc a] ∧ mem.heap a = some o ∧ o.type = cb.type

theorem Owns.zero (req : DumpRequest) : Owns req Callback.zero DumpMem.empty :=
  ⟨fun h => absurd rfl h, fun _ => rfl, .inl ⟨rfl, rfl⟩⟩

theorem statsInit_owns {type : Nat} {body : StatsBody} {ok : Bool} {mem mem' : DumpMem}
    {ptr : StatePtr} (hlog : mem.log = []) (h : statsInit type body ok mem = .ok (ptr, mem')) :
    (ptr = .body ∧ type = ofpstAggregate ∧ mem'.log = []) ∨
      ∃ a o, ptr = .heap a ∧ mem'.log = [.alloc a] ∧ mem'.heap a = some o ∧ o.type = type := by
  unfold statsInit kmallocState at h
  split_ifs at h with h1 h2 h3 h4 <;> cases h
  · exact .inr ⟨_, _, rfl, by simp [hlog], Function.update_same _ _ _, h1.symm⟩
  · exact .inl ⟨rfl, h3, hlog⟩
  · exact .inr ⟨_, _, rfl, by simp [hlog], Function.update_same _ _ _, h4.symm⟩

section Owns

variable {env : DumpCallEnv} {req : DumpRequest} {cb : Callback} {mem : DumpMem}

theorem dumpitFirst_owns {r : DumpitSetup} (hown : Owns req cb mem) (h0 : cb.phase = 0)
    (h : dumpitFirst env req cb mem = .ok r) :
    Owns req r.cb r.mem ∧ ∀ a xid cb' mem', r = .reply a xid cb' mem' → cb'.phase ≠ 0 := by
  have hnull := hown.fresh h0
  have hlog : mem.log = [] := by
    rcases hown.state with ⟨-, h⟩ | ⟨h, -⟩ | ⟨a, o, h, -⟩ <;> simp_all
  unfold dumpitFirst at h
  obtain ⟨c, hc, h⟩ := bind_eq_ok.1 h
  rcases c with ⟨ret, msg⟩ | ⟨i, a, rq, st⟩
  · cases h
    exact ⟨hown, nofun⟩
  obtain ⟨hof, hst, -⟩ := checkStatsRequest_ok hc
  have hstarted : (1 : Nat) ≠ 0 → ∃ rq' st', req.openflow = some rq' ∧
      rq.statsType = rq'.statsType ∧ statsOf rq.statsType = some st' :=
    fun _ => ⟨rq, st, hof, rfl, hst⟩
  dsimp only at h
  split at h
  · split at h
    · cases h
      exact ⟨⟨hstarted, nofun, .inl ⟨hnull, hlog⟩⟩, nofun⟩
    · cases h
      refine ⟨⟨hstarted, nofun, ?_⟩, fun _ _ _ _ h => by cases h; exact Nat.one_ne_zero⟩
      rcases statsInit_owns hlog ‹_› with ⟨rfl, ht, hl⟩ | ⟨a, o, rfl, hl, ho, ht⟩
      · exact .inr (.inl ⟨rfl, ht, hl⟩)
      · exact .inr (.inr ⟨a, o, rfl, hl, ho, ht⟩)
  · cases h
    exact ⟨⟨hstarted, nofun, .inl ⟨hnull, hlog⟩⟩, fun _ _ _ _ h => by cases h; exact Nat.one_ne_zero⟩

theorem dumpitSetup_owns {r : DumpitSetup} (hown : Owns req cb mem)
    (h : dumpitSetup env req cb mem = .ok r) :
    Owns req r.cb r.mem ∧ ∀ a xid cb' mem', r = .reply a xid cb' mem' → cb'.phase ≠ 0 := by
  unfold dumpitSetup at h
  split at h
  · exact dumpitFirst_owns hown ‹_› h
  · split at h
    · split at h <;> cases h
      · exact ⟨hown, fun _ _ _ _ h' => by cases h'; omega⟩
      · exact ⟨hown, nofun⟩
    · cases h
      exact ⟨hown, nofun⟩

theorem update_type {heap : Nat → Option DumpObj} {a : Nat} {o o' : DumpObj}
    (ho : heap a = some o) (ht : o'.type = o.type) (a' : Nat) :
    (Function.update heap a (some o') a').map DumpObj.type = (heap a').map DumpObj.type := by
  by_cases ha : a' = a
  · subst ha
    simp [ho, ht]
  · rw [Function.update_noteq ha]

theorem statsDump_mem {s : Sys} {dp : Datapath} {chain : Chain} {body : Option StatsBody}
    {type : Nat} {ptr : StatePtr} {c : Int} {d : Dumped} {mem' : DumpMem}
    (h : statsDump s dp chain body type ptr mem c = .ok (d, mem')) :
    mem'.log = mem.log ∧ ∀ a, (mem'.heap a).map DumpObj.type = (mem.heap a).map DumpObj.type := by
  unfold statsDump at h
  split_ifs at h
  · cases h; exact ⟨rfl, fun _ => rfl⟩
  · -- `OFPST_FLOW` rewrites its state
    split at h
    · rename_i hrs
      cases h
      exact ⟨rfl, update_type hrs rfl⟩
    · cases h
  · split at h
    · cases h
      exact ⟨rfl, fun _ => rfl⟩
    · cases h
  · cases h; exact ⟨rfl, fun _ => rfl⟩
  · -- `OFPST_PORT` rewrites its state
    split at h
    · rename_i hrs
      obtain ⟨r, -, h⟩ := bind_eq_ok.1 h
      cases h
      exact ⟨rfl, update_type hrs rfl⟩
    · cases h
  · obtain ⟨d', -, h⟩ := bind_eq_ok.1 h
    cases h
    exact ⟨rfl, fun _ => rfl⟩

theorem Owns.of_mem {mem' : DumpMem} (hown : Owns req cb mem) (hlog : mem'.log = mem.log)
    (hheap : ∀ a, (mem'.heap a).map DumpObj.type = (mem.heap a).map DumpObj.type) :
    Owns req cb mem' := by
  refine ⟨hown.started, hown.fresh, ?_⟩
  rcases hown.state with h | h | ⟨a, o, hs, hl, ho, ht⟩
  · exact .inl (hlog ▸ h)
  · exact .inr (.inl (hlog ▸ h))
  · have := hheap a
    rw [ho] at this
    obtain ⟨o', ho', hto⟩ := Option.map_eq_some'.1 this
    exact .inr (.inr ⟨a, o', hs, hlog ▸ hl, ho', hto.trans ht⟩)

theorem dpGenlOpenflowDumpit_owns {o : DumpitOut} (hown : Owns req cb mem)
    (h : dpGenlOpenflowDumpit env req cb mem = .ok o) : Owns req o.cb o.mem := by
  obtain ⟨r, hr, h⟩ := bind_eq_ok.1 h
  obtain ⟨hown, hreply⟩ := dumpitSetup_owns hown hr
  cases r with
  | out ret cb' mem' msg =>
    cases h
    exact hown
  | reply a xid cb' mem' =>
    have hp := hreply a xid cb' mem' rfl
    obtain ⟨dp, -, h⟩ := bind_eq_ok.1 h
    obtain ⟨x, -, h⟩ := bind_eq_ok.1 h
    split at h
    · cases h
      exact hown
    obtain ⟨m1, -, h⟩ := bind_eq_ok.1 h
    obtain ⟨⟨d, mem''⟩, hd, h⟩ := bind_eq_ok.1 h
    obtain ⟨hlog, hheap⟩ := statsDump_mem hd
    have hown' : Owns req cb' mem'' := hown.of_mem hlog hheap
    dsimp only at h
    split at h
    · cases h
      exact hown'
    obtain ⟨_, -, h⟩ := bind_eq_ok.1 h
    obtain ⟨m2, -, h⟩ := bind_eq_ok.1 h
    cases h
    dsimp only
    split
    · exact ⟨fun _ => hown'.started hp, nofun, hown'.state⟩
    · exact hown'

theorem dumpitCalls_owns {envs : List DumpCallEnv} {outs : List DumpitOut} {cb' : Callback}
    {mem' : DumpMem} (hown : Owns req cb mem)
    (h : dumpitCalls req envs cb mem = .ok (outs, cb', mem')) : Owns req cb' mem' := by
  induction envs generalizing cb mem outs with
  | nil =>
    cases h
    exact hown
  | cons env envs ih =>
    obtain ⟨o, ho, h⟩ := bind_eq_ok.1 h
    have hown' := dpGenlOpenflowDumpit_owns hown ho
    split at h
    · obtain ⟨⟨outs', cb'', mem''⟩, hr, h⟩ := bind_eq_ok.1 h
      cases h
      exact ih hown' hr
    · cases h
      exact hown'

theorem stats_hasDone {type : Nat} {st : StatsType} (h : stats type = some st) :
    st.hasDone = true ↔ type = ofpstFlow ∨ type = ofpstPort := by
  unfold stats at h
  split_ifs at h <;> cases h <;> simp_all [ofpstDesc, ofpstFlow, ofpstAggregate, ofpstTable,
    ofpstPort]

theorem dpGenlOpenflowDone_releases (hown : Owns req cb mem)
    (hv : ∀ rq, req.openflow = some rq → rq.statsType ≠ ofpstVendor) :
    ∃ mem', dpGenlOpenflowDone req cb mem = .ok mem' ∧
      (mem'.log = [] ∨ ∃ a, mem'.log = [.alloc a, .free a]) := by
  unfold dpGenlOpenflowDone
  by_cases h0 : cb.phase = 0
  · rw [if_pos h0]
    rcases hown.state with ⟨-, hl⟩ | ⟨hs, -⟩ | ⟨a, o, hs, -⟩
    · exact ⟨mem, rfl, .inl hl⟩
    all_goals simp [hown.fresh h0] at hs
  obtain ⟨rq, st, hof, hty, hst⟩ := hown.started h0
  have hnv : cb.type ≠ ofpstVendor := hty ▸ hv rq hof
  rw [statsOf, if_neg hnv] at hst
  rw [if_neg h0, if_neg hnv, hst]
  dsimp only
  rcases hown.state with ⟨hs, hl⟩ | ⟨hs, ht, hl⟩ | ⟨a, o, hs, hl, ho, ht⟩
  · split
    · exact ⟨mem, by rw [hs]; rfl, .inl hl⟩
    · exact ⟨mem, rfl, .inl hl⟩
  · have : st.hasDone = false := by
      cases hd : st.hasDone
      · rfl
      · rcases (stats_hasDone hst).1 hd with h | h <;> rw [h] at ht <;> cases ht
    rw [this]
    exact ⟨mem, rfl, .inl hl⟩
  · have : st.hasDone = true := (stats_hasDone hst).2 (by cases o <;> simp [DumpObj.type] at ht <;> simp [← ht])
    rw [if_pos this, hs]
    refine ⟨_, by simp [kfree, ho, bind, Except.bind, pure, Except.pure]; rfl, .inr ⟨a, by simp [hl]⟩⟩

/-- Every dump but the vendor's that does not oops frees what it allocated exactly once. -/
theorem dumpSession_releases_once {envs : List DumpCallEnv} {outs : List DumpitOut}
    {cb' : Callback} {mem' : DumpMem}
    (hv : ∀ rq, req.openflow = some rq → rq.statsType ≠ ofpstVendor)
    (h : dumpitCalls req envs Callback.zero DumpMem.empty = .ok (outs, cb', mem')) :
    ∃ mem'', dumpSession req envs = .ok (outs, mem'') ∧
      (mem''.log = [] ∨ ∃ a, mem''.log = [.alloc a, .free a]) := by
  obtain ⟨mem'', hd, hl⟩ := dpGenlOpenflowDone_releases (dumpitCalls_owns (Owns.zero req) h) hv
  exact ⟨mem'', by rw [dumpSession_of_calls h, hd]; rfl, hl⟩

theorem portDump_cut_short_releases :
    (∀ rq, (portStatsRequest 1).openflow = some rq → rq.statsType ≠ ofpstVendor) ∧
      ∃ outs cb' mem', dumpitCalls (portStatsRequest 1) [demoCall 148] Callback.zero
          DumpMem.empty = .ok (outs, cb', mem') ∧
        ∃ mem'', dumpSession (portStatsRequest 1) [demoCall 148] = .ok (outs, mem'') ∧
          (mem''.log = [] ∨ ∃ a, mem''.log = [.alloc a, .free a]) :=
  have hv : ∀ rq, (portStatsRequest 1).openflow = some rq → rq.statsType ≠ ofpstVendor := by
    rintro rq ⟨⟩
    decide
  ⟨hv, _, _, _, rfl, dumpSession_releases_once hv rfl⟩

theorem deref_ne_bug {α : Type} (o : Option α) : deref o ≠ .error .bug := by
  cases o <;> nofun

theorem kfree_ne_bug (mem : DumpMem) (ptr : StatePtr) : kfree mem ptr ≠ .error .bug := by
  cases ptr with
  | null => nofun
  | body => nofun
  | heap a =>
    intro h
    rcases bind_eq_error.1 h with h | ⟨_, -, h⟩
    · exact deref_ne_bug _ h
    · cases h

theorem dpGenlOpenflowDone_ne_bug : dpGenlOpenflowDone req cb mem ≠ .error .bug := by
  unfold dpGenlOpenflowDone
  split_ifs
  · nofun
  · intro h
    rcases bind_eq_error.1 h with h | ⟨_, -, h⟩
    · exact deref_ne_bug _ h
    · exact kfree_ne_bug _ _ h
  · split
    · split
      · exact kfree_ne_bug _ _
      · nofun
    · nofun

theorem dumpitCalls_bug_port {envs : List DumpCallEnv} (hown : Owns req cb mem)
    (hroom : ∀ e ∈ envs, 44 ≤ e.room ∧ e.room < 65564)
    (h : dumpitCalls req envs cb mem = .error .bug) :
    ∃ rq, req.openflow = some rq ∧ rq.statsType = ofpstPort := by
  induction envs generalizing cb mem with
  | nil => cases h
  | cons env envs ih =>
    obtain ⟨h44, hwrap⟩ := hroom env (List.mem_cons_self _ _)
    rcases bind_eq_error.1 h with h | ⟨o, ho, h⟩
    · obtain ⟨a, xid, cb', mem', hset, hty⟩ := dpGenlOpenflowDumpit_bug_port h44 hwrap h
      obtain ⟨hown', hphase⟩ := dumpitSetup_owns hown hset
      obtain ⟨rq, -, hof, hrq, -⟩ := hown'.started (hphase a xid cb' mem' rfl)
      exact ⟨rq, hof, hrq ▸ hty⟩
    · split at h
      · rcases bind_eq_error.1 h with h | ⟨_, -, h⟩
        · exact ih (dpGenlOpenflowDumpit_owns hown ho)
            (fun e he => hroom e (List.mem_cons_of_mem _ he)) h
        · cases h
      · cases h

/-- A vendor dump that passes the checks makes `vendor_stats_done` read through a null state. -/
theorem dumpSession_vendor_reads_null {env : DumpCallEnv} {envs : List DumpCallEnv}
    {i : Nat} {a : DpRef} {rq : OfpStatsRequest}
    (hchk : checkStatsRequest env.sys req = .ok (.ok (i, a, rq, statsVendor))) :
    dumpSession req (env :: envs) = .error .badDeref := by
  have hv := statsOf_eq_vendor (checkStatsRequest_ok hchk).2.1
  let cb : Callback := ⟨1, i, ofpstVendor, rq.xid, .null⟩
  have hfirst : dpGenlOpenflowDumpit env req Callback.zero DumpMem.empty =
      .ok ⟨-einval, cb, DumpMem.empty, none, none⟩ := by
    have hinit : statsInit ofpstVendor rq.body env.kmallocOk DumpMem.empty = .error (-einval) := rfl
    simp only [dpGenlOpenflowDumpit, dumpitSetup, Callback.zero, if_pos, dumpitFirst, hchk, ok_bind,
      statsVendor, hv, hinit, if_true]
    rfl
  have hcalls : dumpitCalls req (env :: envs) Callback.zero DumpMem.empty =
      .ok ([⟨-einval, cb, DumpMem.empty, none, none⟩], cb, DumpMem.empty) := by
    rw [dumpitCalls, hfirst, ok_bind, if_neg (show ¬(-einval : Int) > 0 by decide)]
    rfl
  rw [dumpSession_of_calls hcalls, dpGenlOpenflowDone_vendor_null]
  rfl

end Owns

theorem dumpSession_vendor_demo :
    (∃ rq, checkStatsRequest demoSys vendorRequest = .ok (.ok (0, 0, rq, statsVendor))) ∧
      dumpSession vendorRequest [demoCall 4096] = .error .badDeref :=
  ⟨⟨_, rfl⟩, dumpSession_vendor_reads_null rfl⟩

end OpenflowDatapath
