import OpenflowDatapath.Stats.Dumpit

/-! # Resumed dumps

A dump as its requester sees it: the records and flags of each reply, and the value the call
that ended the dump returned. `genRun` is a resumable generator that sends a list of records
in bodies of given capacities, and its theorems say what it is for: the replies carry the
records end to end with `OFPSF_REPLY_MORE` on all but the last, or the dump gives up with
`-ENOMEM` where a record does not fit, and it ends before the calls run out.

A dump whose state is a heap object (flow and port dumps) runs its type's `dump` on that
object once per call, with the body capacity the call's buffer leaves. `objTrace` is that run,
and `dumpitCalls_objTrace` says the calls of `dp_genl_openflow_dumpit` refine it.
-/

namespace OpenflowDatapath

def replies (outs : List DumpitOut) : List StatsReply := outs.filterMap (·.reply)

/-- The value the last call returned, if it ended the dump: netlink calls again on more than 0. -/
def ending : List DumpitOut → Option Int
  | [] => none
  | [o] => if o.ret ≤ 0 then some o.ret else none
  | _ :: os => ending os

def transcript (outs : List DumpitOut) : List (List StatsRecord × Nat) × Option Int :=
  ((replies outs).map fun r => (r.records, r.flags), ending outs)

@[simp] theorem transcript_nil : transcript [] = ([], none) := rfl

theorem transcript_cons_reply {o : DumpitOut} {r : StatsReply} (os : List DumpitOut)
    (hpos : 0 < o.ret) (hr : o.reply = some r) :
    transcript (o :: os) = ((r.records, r.flags) :: (transcript os).1, (transcript os).2) := by
  have hend : ending (o :: os) = ending os := by
    cases os with
    | nil => simp only [ending, if_neg (Int.not_le.2 hpos)]
    | cons _ _ => rfl
  simp only [transcript, replies, List.filterMap_cons, hr, List.map_cons, hend]

/-- A dump that ended with 0 having sent `recs` in order, `OFPSF_REPLY_MORE` on all but the last. -/
structure Completes (outs : List DumpitOut) (recs : List StatsRecord) : Prop where
  ended : ending outs = some 0
  records : ((replies outs).map (·.records)).flatten = recs
  flags : ∃ n, (replies outs).map (·.flags) = List.replicate n ofpsfReplyMore ++ [0]

/-- A dump that gave up with `-ENOMEM` on a body too small for the first record left. -/
structure GivesUp (caps : List Int) (outs : List DumpitOut) (recs : List StatsRecord) : Prop where
  ended : ending outs = some (-enomem)
  sent : ∃ k c r, ((replies outs).map (·.records)).flatten = recs.take k ∧
    caps[(replies outs).length]? = some c ∧ recs[k]? = some r ∧ c < r.size
  nonempty : ∀ rp ∈ replies outs, rp.records ≠ []
  flags : (replies outs).map (·.flags) = List.replicate (replies outs).length ofpsfReplyMore

/-- A resumable generator: `rs` in bodies of capacities `caps`, each the longest run that fits. -/
def genRun : List Int → List StatsRecord → List (List StatsRecord × Nat) × Option Int
  | [], _ => ([], none)
  | c :: cs, rs =>
    let q := fitPrefix c rs
    if q.length = rs.length then ([(q, 0)], if cs = [] then none else some 0)
    else if q = [] then ([], some (-enomem))
    else ((q, ofpsfReplyMore) :: (genRun cs (rs.drop q.length)).1,
      (genRun cs (rs.drop q.length)).2)

theorem fitPrefix_eq_take (c : Int) (rs : List StatsRecord) :
    fitPrefix c rs = rs.take (fitPrefix c rs).length :=
  List.prefix_iff_eq_take.1 (fitPrefix_isPrefix c rs)

theorem fitPrefix_eq_of_length {c : Int} {rs : List StatsRecord}
    (h : (fitPrefix c rs).length = rs.length) : fitPrefix c rs = rs :=
  (fitPrefix_isPrefix c rs).eq_of_length h

theorem fitPrefix_append_drop (c : Int) (rs : List StatsRecord) :
    fitPrefix c rs ++ rs.drop (fitPrefix c rs).length = rs := by
  nth_rewrite 1 [fitPrefix_eq_take c rs]
  exact List.take_append_drop _ rs

theorem length_drop_fitPrefix_lt {c : Int} {rs : List StatsRecord} (h : fitPrefix c rs ≠ []) :
    (rs.drop (fitPrefix c rs).length).length < rs.length := by
  have := (fitPrefix_isPrefix c rs).length_le
  have := List.length_pos.2 h
  rw [List.length_drop]
  omega

theorem fitPrefix_eq_nil {c : Int} {rs : List StatsRecord} (h : fitPrefix c rs = [])
    (hne : rs ≠ []) : ∃ r, rs[0]? = some r ∧ c < r.size := by
  obtain ⟨r, rs, rfl⟩ := List.exists_cons_of_ne_nil hne
  unfold fitPrefix at h
  split at h
  · cases h
  · exact ⟨r, List.getElem?_cons_zero, by omega⟩

theorem genRun_done {caps : List Int} {rs : List StatsRecord} (h : (genRun caps rs).2 = some 0) :
    ((genRun caps rs).1.map Prod.fst).flatten = rs ∧
      ∃ n, (genRun caps rs).1.map Prod.snd = List.replicate n ofpsfReplyMore ++ [0] := by
  induction caps generalizing rs with
  | nil => cases h
  | cons c cs ih =>
    unfold genRun at h ⊢
    by_cases hall : (fitPrefix c rs).length = rs.length
    · rw [if_pos hall, fitPrefix_eq_of_length hall]
      exact ⟨List.append_nil rs, 0, rfl⟩
    rw [if_neg hall] at h ⊢
    by_cases hq : fitPrefix c rs = []
    · rw [if_pos hq] at h
      cases h
    rw [if_neg hq] at h ⊢
    obtain ⟨hrec, n, hflags⟩ := ih h
    refine ⟨?_, n + 1, ?_⟩
    · rw [List.map_cons, List.flatten_cons, hrec, fitPrefix_append_drop]
    · rw [List.map_cons, hflags]
      rfl

theorem genRun_gives_up {caps : List Int} {rs : List StatsRecord} {e : Int}
    (h : (genRun caps rs).2 = some e) (he : e ≠ 0) :
    e = -enomem ∧
      (∃ k c r, ((genRun caps rs).1.map Prod.fst).flatten = rs.take k ∧
        caps[(genRun caps rs).1.length]? = some c ∧ rs[k]? = some r ∧ c < r.size) ∧
      (∀ f ∈ (genRun caps rs).1, f.1 ≠ []) ∧
      (genRun caps rs).1.map Prod.snd = List.replicate (genRun caps rs).1.length ofpsfReplyMore := by
  induction caps generalizing rs with
  | nil => cases h
  | cons c cs ih =>
    unfold genRun at h ⊢
    by_cases hall : (fitPrefix c rs).length = rs.length
    · rw [if_pos hall] at h
      split at h <;> cases h
      exact absurd rfl he
    rw [if_neg hall] at h ⊢
    by_cases hq : fitPrefix c rs = []
    · rw [if_pos hq] at h ⊢
      cases h
      have hne : rs ≠ [] := fun h' => hall (by rw [hq, h'])
      obtain ⟨r, hr, hc⟩ := fitPrefix_eq_nil hq hne
      exact ⟨rfl, ⟨0, c, r, rfl, List.getElem?_cons_zero, hr, hc⟩, nofun, rfl⟩
    rw [if_neg hq] at h ⊢
    obtain ⟨he, ⟨k, c', r, hrec, hc', hr, hlt⟩, hne, hflags⟩ := ih h
    refine ⟨he, ⟨(fitPrefix c rs).length + k, c', r, ?_, by simpa using hc', ?_, hlt⟩, ?_, ?_⟩
    · rw [List.map_cons, List.flatten_cons, hrec, List.take_add, ← fitPrefix_eq_take]
    · rwa [← List.getElem?_drop]
    · rintro f (_ | ⟨_, hf⟩)
      exacts [hq, hne f hf]
    · rw [List.map_cons, hflags, List.length_cons, List.replicate_succ]

theorem genRun_ends {caps : List Int} {rs : List StatsRecord} (h : rs.length + 2 ≤ caps.length) :
    (genRun caps rs).2.isSome := by
  induction caps generalizing rs with
  | nil => simp at h
  | cons c cs ih =>
    unfold genRun
    by_cases hall : (fitPrefix c rs).length = rs.length
    · rw [if_pos hall]
      cases cs with
      | nil => simp at h
      | cons _ _ => rfl
    rw [if_neg hall]
    by_cases hq : fitPrefix c rs = []
    · rw [if_pos hq]
      rfl
    rw [if_neg hq]
    have := length_drop_fitPrefix_lt hq
    exact ih (by simp only [List.length_cons] at h; omega)

theorem genRun_fits {caps : List Int} {rs : List StatsRecord}
    (h : ∀ r ∈ rs, ∀ c ∈ caps, r.size ≤ c) :
    (genRun caps rs).2 = none ∨ (genRun caps rs).2 = some 0 := by
  induction caps generalizing rs with
  | nil => exact .inl rfl
  | cons c cs ih =>
    unfold genRun
    by_cases hall : (fitPrefix c rs).length = rs.length
    · rw [if_pos hall]
      split
      · exact .inl rfl
      · exact .inr rfl
    rw [if_neg hall]
    by_cases hq : fitPrefix c rs = []
    · have hne : rs ≠ [] := fun h' => hall (by rw [hq, h'])
      obtain ⟨r, hr, hc⟩ := fitPrefix_eq_nil hq hne
      have := h r (List.getElem?_mem hr) c (List.mem_cons_self c cs)
      omega
    rw [if_neg hq]
    exact ih fun r hr c' hc' =>
      h r (List.mem_of_mem_drop hr) c' (List.mem_cons_of_mem c hc')

theorem completes_of_genRun {outs : List DumpitOut} {caps : List Int} {recs : List StatsRecord}
    (h : transcript outs = genRun caps recs) (hn : recs.length + 2 ≤ caps.length) :
    ((∀ r ∈ recs, ∀ c ∈ caps, r.size ≤ c) → Completes outs recs) ∧
      (Completes outs recs ∨ GivesUp caps outs recs) := by
  have hrec : (replies outs).map (·.records) = (genRun caps recs).1.map Prod.fst := by
    rw [← h, transcript, List.map_map]
    rfl
  have hflags : (replies outs).map (·.flags) = (genRun caps recs).1.map Prod.snd := by
    rw [← h, transcript, List.map_map]
    rfl
  have hlen : (replies outs).length = (genRun caps recs).1.length := by
    rw [← h, transcript, List.length_map]
  have hend : ending outs = (genRun caps recs).2 := by rw [← h]; rfl
  have done : (genRun caps recs).2 = some 0 → Completes outs recs := fun h0 => by
    obtain ⟨hr, n, hf⟩ := genRun_done h0
    exact ⟨hend.trans h0, hrec ▸ hr, n, hflags ▸ hf⟩
  obtain ⟨e, he⟩ := Option.isSome_iff_exists.1 (genRun_ends hn)
  refine ⟨fun hfit => done ?_, ?_⟩
  · rcases genRun_fits hfit with h' | h'
    · rw [he] at h'
      cases h'
    · exact h'
  by_cases h0 : e = 0
  · exact .inl (done (h0 ▸ he))
  obtain ⟨rfl, ⟨k, c, r, hr, hc, hk, hlt⟩, hne, hf⟩ := genRun_gives_up he h0
  refine .inr ⟨hend.trans he, ⟨k, c, r, hrec ▸ hr, hlen ▸ hc, hk, hlt⟩, fun rp hrp => ?_,
    by rw [hflags, hf, hlen]⟩
  have hmem : (rp.records, rp.flags) ∈ (transcript outs).1 := List.mem_map_of_mem _ hrp
  rw [h] at hmem
  exact hne _ hmem

/-- The body capacity a call passes in `*body_len`: `max_openflow_len` less the reply's header. -/
def bodyCap (room : Int) : Int := (room - 32) - (room - 32) % 4 - statsBodyOffset

/-- A call on datapath `a` of `s` with chain `chain`, on a buffer that holds the headers. -/
structure Serves (s : Sys) (chain : Chain) (a : DpRef) (env : DumpCallEnv) : Prop where
  sys : env.sys = s
  chain : env.chain a = chain
  room_ge : 44 ≤ env.room
  room_lt : env.room < 65564

theorem bodyCap_nonneg {room : Int} (h : 44 ≤ room) : 0 ≤ bodyCap room := by
  simp only [bodyCap, statsBodyOffset]
  omega

theorem resizeOpenflowSkb_bug {m : NlMsg} {L len : Int}
    (hm : (m.ofNlaLen : Int) = nlaHdrlen + L) (h4 : L % 4 = 0) (hlen : L < len) :
    resizeOpenflowSkb m len = .error .bug := by
  simp only [nlaHdrlen] at hm
  simp (disch := omega) only [resizeOpenflowSkb, nlaShrink, nlaLen, nlaTotalSize, nlaHdrlen,
    align4, hm, if_pos, bind, Except.bind]

theorem resizeOpenflowSkb_len {m m' : NlMsg} {L len : Int}
    (hm : (m.ofNlaLen : Int) = nlaHdrlen + L) (h4 : L % 4 = 0) (hlen' : nlaHdrlen + L ≤ m.len)
    (h : resizeOpenflowSkb m len = .ok m') : nlaHdrlen + len ≤ m'.len := by
  simp only [nlaHdrlen] at hm hlen' ⊢
  simp only [resizeOpenflowSkb, nlaShrink, nlaLen, nlaTotalSize, nlaHdrlen, align4, hm,
    bind, Except.bind] at h
  split at h
  · cases h
  · rename_i heq
    split at heq
    · cases heq
    · cases heq
      cases h
      simp only [NlMsg.put]
      omega

variable {env : DumpCallEnv} {req : DumpRequest} {cb cb' : Callback} {mem mem' : DumpMem}
  {a : DpRef} {xid : Nat} {dp : Datapath}

theorem dpGenlOpenflowDumpit_of_reply
    (hset : dumpitSetup env req cb mem = .ok (.reply a xid cb' mem'))
    (hdp : env.sys.dpHeap a = some dp) (h44 : 44 ≤ env.room) (hwrap : env.room < 65564) :
    ∃ m L, (m.ofNlaLen : Int) = nlaHdrlen + L ∧ L % 4 = 0 ∧ nlaHdrlen + L ≤ m.len ∧
      nlaHdrlen + L < 2 ^ 16 ∧ L - statsBodyOffset = bodyCap env.room ∧
      dpGenlOpenflowDumpit env req cb mem =
        statsDump env.sys dp (env.chain a) (req.openflow.map (·.body)) cb'.type cb'.state mem'
          (bodyCap env.room) >>= fun r =>
        if r.1.ret < 0 then pure ⟨r.1.ret, cb', r.2, none, none⟩ else
          resizeOpenflowSkb m (statsBodyOffset + r.1.bodyLen) >>= fun m2 =>
            pure ⟨m2.len, if r.1.ret = 0 then { cb' with phase := 2 } else cb', r.2, none,
              some ⟨m2, cb'.type, if r.1.ret = 0 then 0 else ofpsfReplyMore, r.1.records⟩⟩ := by
  obtain ⟨m, L, hput, hL, hm, hml⟩ :=
    putOpenflowHeaders_empty h44 hwrap dp.dpIdx ofptStatsReply (some ⟨xid, req.pid, req.seq⟩)
  obtain ⟨m1, hres1, hm1⟩ := resizeOpenflowSkb_ok hm (Int.le_refl L)
    (by simp only [nlaHdrlen]; omega) (by simp only [nlaHdrlen]; omega)
  have h4 : L % 4 = 0 := by omega
  have hcap : L - statsBodyOffset = bodyCap env.room := by rw [hL]; rfl
  refine ⟨m1, L, hm1, h4, resizeOpenflowSkb_len hm h4 hml hres1,
    by simp only [nlaHdrlen]; omega, hcap, ?_⟩
  simp only [dpGenlOpenflowDumpit, hset, ok_bind, hdp, deref_some, hput, hres1, hcap]
  congr
  funext r
  by_cases hneg : r.1.ret < 0
  · simp only [if_pos hneg]
  · by_cases h0 : r.1.ret = 0 <;> simp only [if_neg hneg, h0, if_true, if_false] <;> rfl

theorem dpGenlOpenflowDumpit_reply {d : Dumped} {mem'' : DumpMem}
    (hset : dumpitSetup env req cb mem = .ok (.reply a xid cb' mem'))
    (hdp : env.sys.dpHeap a = some dp) (h44 : 44 ≤ env.room) (hwrap : env.room < 65564)
    (hd : statsDump env.sys dp (env.chain a) (req.openflow.map (·.body)) cb'.type cb'.state mem'
      (bodyCap env.room) = .ok (d, mem'')) (hnn : 0 ≤ d.bodyLen) :
    (d.ret < 0 → dpGenlOpenflowDumpit env req cb mem = .ok ⟨d.ret, cb', mem'', none, none⟩) ∧
    (0 ≤ d.ret → bodyCap env.room < d.bodyLen →
      dpGenlOpenflowDumpit env req cb mem = .error .bug) ∧
    (0 ≤ d.ret → d.bodyLen ≤ bodyCap env.room → ∃ m, 0 < m.len ∧
      dpGenlOpenflowDumpit env req cb mem = .ok ⟨m.len,
        if d.ret = 0 then { cb' with phase := 2 } else cb', mem'', none,
        some ⟨m, cb'.type, if d.ret = 0 then 0 else ofpsfReplyMore, d.records⟩⟩) := by
  obtain ⟨m, L, hm, h4, hml, hL, hcap, hcall⟩ := dpGenlOpenflowDumpit_of_reply hset hdp h44 hwrap
  rw [hd, ok_bind] at hcall
  dsimp only at hcall
  refine ⟨fun hlt => by rw [hcall, if_pos hlt]; rfl, fun hge hgt => ?_, fun hge hle => ?_⟩
  · rw [hcall, if_neg (Int.not_lt.2 hge),
      resizeOpenflowSkb_bug hm h4 (by simp only [← hcap] at hgt; omega)]
    rfl
  · have hfit : (statsBodyOffset : Int) + d.bodyLen ≤ L := by
      simp only [← hcap] at hle
      omega
    obtain ⟨m2, hres2, -⟩ := resizeOpenflowSkb_ok hm hfit
      (by simp only [nlaHdrlen, statsBodyOffset]; omega) hL
    have hm2l := resizeOpenflowSkb_len hm h4 hml hres2
    refine ⟨m2, by simp only [nlaHdrlen, statsBodyOffset] at hm2l; omega, ?_⟩
    rw [hcall, if_neg (Int.not_lt.2 hge), hres2, ok_bind]
    rfl

theorem dpGenlOpenflowDumpit_oops {e : Oops}
    (hset : dumpitSetup env req cb mem = .ok (.reply a xid cb' mem'))
    (hdp : env.sys.dpHeap a = some dp) (h44 : 44 ≤ env.room) (hwrap : env.room < 65564)
    (hd : statsDump env.sys dp (env.chain a) (req.openflow.map (·.body)) cb'.type cb'.state mem'
      (bodyCap env.room) = .error e) :
    dpGenlOpenflowDumpit env req cb mem = .error e := by
  obtain ⟨_, _, -, -, -, -, -, hcall⟩ := dpGenlOpenflowDumpit_of_reply hset hdp h44 hwrap
  rw [hcall, hd, error_bind]

theorem dumpitSetup_later {i ty : Nat} {ptr : StatePtr} (hi : dpGetByIdx env.sys i = some a) :
    dumpitSetup env req ⟨1, i, ty, xid, ptr⟩ mem = .ok (.reply a xid ⟨1, i, ty, xid, ptr⟩ mem) := by
  simp only [dumpitSetup, if_neg Nat.one_ne_zero, if_true, hi]
  rfl

theorem dumpitCalls_done (h : cb.phase = 2) (envs : List DumpCallEnv) :
    dumpitCalls req (env :: envs) cb mem = .ok ([⟨0, cb, mem, none, none⟩], cb, mem) := by
  simp only [dumpitCalls, dpGenlOpenflowDumpit, dumpitSetup, h]
  rfl

theorem dumpitCalls_of_setup (envs : List DumpCallEnv)
    (h : dumpitSetup env req cb mem = dumpitSetup env req cb' mem') :
    dumpitCalls req (env :: envs) cb mem = dumpitCalls req (env :: envs) cb' mem' := by
  simp only [dumpitCalls, dpGenlOpenflowDumpit, h]

theorem dumpitSetup_first {i : Nat} {rq : OfpStatsRequest} {st : StatsType} {ptr : StatePtr}
    (hchk : checkStatsRequest env.sys req = .ok (.ok (i, a, rq, st))) (hinit : st.hasInit = true)
    (ho : statsInit rq.statsType rq.body env.kmallocOk DumpMem.empty = .ok (ptr, mem)) :
    dumpitSetup env req Callback.zero DumpMem.empty =
      .ok (.reply a rq.xid ⟨1, i, rq.statsType, rq.xid, ptr⟩ mem) := by
  simp only [dumpitSetup, Callback.zero, if_true, dumpitFirst, hchk, ok_bind, hinit, ho]
  rfl

def objDump (s : Sys) (dp : Datapath) (chain : Chain) (c : Int) : DumpObj → K (Dumped × DumpObj)
  | .flow st => pure ((flowStatsDump chain st c).1, .flow (flowStatsDump chain st c).2)
  | .port st => portStatsDump s dp st c >>= fun r => pure (r.1, .port r.2)

theorem objDump_type {s : Sys} {chain : Chain} {c : Int} {o o' : DumpObj} {d : Dumped}
    (h : objDump s dp chain c o = .ok (d, o')) : o'.type = o.type := by
  cases o with
  | flow st => cases h; rfl
  | port st =>
    obtain ⟨r, -, h⟩ := bind_eq_ok.1 h
    cases h
    rfl

theorem objDump_bodyLen_nonneg {s : Sys} {chain : Chain} {c : Int} {o o' : DumpObj} {d : Dumped}
    (hc : 0 ≤ c) (h : objDump s dp chain c o = .ok (d, o')) : 0 ≤ d.bodyLen := by
  cases o with
  | flow st =>
    cases h
    exact (flowStatsDump_within hc chain st).bodyLen_nonneg
  | port st =>
    obtain ⟨r, hr, h⟩ := bind_eq_ok.1 h
    cases h
    rcases portStatsDump_bodyLen hr with h | h <;> rw [h]
    · exact hc
    · simp only [portStatsSize]
      omega

theorem statsDump_heap (s : Sys) (dp : Datapath) (chain : Chain) (body : Option StatsBody)
    {p : Nat} {o : DumpObj} (hp : mem.heap p = some o) (c : Int) :
    statsDump s dp chain body o.type (.heap p) mem c = objDump s dp chain c o >>= fun r =>
      pure (r.1, { mem with heap := Function.update mem.heap p (some r.2) }) := by
  cases o with
  | flow st =>
    show statsDump s dp chain body ofpstFlow (.heap p) mem c = _
    unfold statsDump
    simp only [readState, hp, if_neg (by decide : ofpstFlow ≠ ofpstDesc), if_true]
    rfl
  | port st =>
    show statsDump s dp chain body ofpstPort (.heap p) mem c = _
    unfold statsDump
    simp only [readState, hp, objDump, if_true,
      if_neg (by decide : ofpstPort ≠ ofpstDesc), if_neg (by decide : ofpstPort ≠ ofpstFlow),
      if_neg (by decide : ofpstPort ≠ ofpstAggregate), if_neg (by decide : ofpstPort ≠ ofpstTable)]
    cases portStatsDump s dp st c <;> rfl

/-- What the requester sees of a dump whose state is the heap object `o`, `BUG_ON` included. -/
def objTrace (s : Sys) (dp : Datapath) (chain : Chain) :
    List Int → DumpObj → K (List (List StatsRecord × Nat) × Option Int)
  | [], _ => pure ([], none)
  | c :: cs, o => objDump s dp chain c o >>= fun r =>
    if r.1.ret < 0 then pure ([], some r.1.ret)
    else if c < r.1.bodyLen then .error .bug
    else if r.1.ret = 0 then pure ([(r.1.records, 0)], if cs = [] then none else some 0)
    else objTrace s dp chain cs r.2 >>= fun t => pure ((r.1.records, ofpsfReplyMore) :: t.1, t.2)

/-- `dp_genl_openflow_dumpit` refines `objTrace` from the dumping phase on. -/
theorem dumpitCalls_objTrace {s : Sys} {chain : Chain} {i : Nat} {envs : List DumpCallEnv}
    (hs : ∀ e ∈ envs, Serves s chain a e) (hi : dpGetByIdx s i = some a)
    (hdp : s.dpHeap a = some dp) {p : Nat} {o : DumpObj} (hp : mem.heap p = some o) :
    (dumpitCalls req envs ⟨1, i, o.type, xid, .heap p⟩ mem >>= fun r => pure (transcript r.1)) =
      objTrace s dp chain (envs.map fun e => bodyCap e.room) o := by
  induction envs generalizing o mem with
  | nil => rfl
  | cons e es ih =>
    obtain ⟨hsys, hch, h44, hwrap⟩ := hs e (List.mem_cons_self e es)
    have hs' : ∀ e' ∈ es, Serves s chain a e' := fun e' h => hs e' (List.mem_cons_of_mem e h)
    have hset : dumpitSetup e req ⟨1, i, o.type, xid, .heap p⟩ mem =
        .ok (.reply a xid ⟨1, i, o.type, xid, .heap p⟩ mem) := dumpitSetup_later (hsys ▸ hi)
    have hdp' : e.sys.dpHeap a = some dp := hsys ▸ hdp
    have hd := statsDump_heap e.sys dp (e.chain a) (req.openflow.map (·.body)) hp (bodyCap e.room)
    rw [hsys, hch] at hd
    simp only [List.map_cons, objTrace]
    cases hobj : objDump s dp chain (bodyCap e.room) o with
    | error err =>
      rw [hobj, error_bind] at hd
      rw [dumpitCalls, dpGenlOpenflowDumpit_oops hset hdp' h44 hwrap (hsys ▸ hch ▸ hd)]
      rfl
    | ok r =>
      obtain ⟨d, o'⟩ := r
      rw [hobj, ok_bind] at hd
      have hnn := objDump_bodyLen_nonneg (bodyCap_nonneg h44) hobj
      obtain ⟨hneg, hbug, hrep⟩ :=
        dpGenlOpenflowDumpit_reply hset hdp' h44 hwrap (hsys ▸ hch ▸ hd) hnn
      simp only [ok_bind]
      by_cases hlt : d.ret < 0
      · rw [if_pos hlt, dumpitCalls, hneg hlt, ok_bind, if_neg (show ¬d.ret > 0 by omega)]
        simp only [pure_bind, transcript, replies, ending, if_pos (Int.le_of_lt hlt)]
        rfl
      rw [if_neg hlt]
      by_cases hgt : bodyCap e.room < d.bodyLen
      · rw [if_pos hgt, dumpitCalls, hbug (by omega) hgt, error_bind]
        rfl
      rw [if_neg hgt]
      obtain ⟨m, hpos, hcall⟩ := hrep (by omega) (by omega)
      rw [dumpitCalls, hcall, ok_bind, if_pos hpos]
      by_cases h0 : d.ret = 0
      · simp only [if_pos h0]
        cases es with
        | nil =>
          simp only [dumpitCalls, pure_bind]
          rw [transcript_cons_reply _ hpos rfl]
          rfl
        | cons e' es' =>
          rw [dumpitCalls_done rfl]
          rfl
      · simp only [if_neg h0]
        have hp' : (⟨Function.update mem.heap p (some o'), mem.log⟩ : DumpMem).heap p = some o' :=
          Function.update_same _ _ _
        have ih' := ih hs' hp'
        rw [objDump_type hobj] at ih'
        rw [← ih']
        cases dumpitCalls req es ⟨1, i, o.type, xid, .heap p⟩
          ⟨Function.update mem.heap p (some o'), mem.log⟩ with
        | error _ => rfl
        | ok r =>
          simp only [ok_bind, pure_bind]
          rw [transcript_cons_reply _ hpos rfl]

end OpenflowDatapath
