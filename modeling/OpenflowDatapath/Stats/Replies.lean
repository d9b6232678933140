import OpenflowDatapath.Stats.Resume

/-! # The replies of flow and port dumps

A flow dump is the resumable generator over the records of the flows its request selects.
A port dump is not: it writes the local port's record on every call. `netlink_dump` hands
each call a buffer of `NLMSG_GOODSIZE` bytes, a 4 KiB page less the `skb_shared_info`: 3776
bytes of tailroom here, and any tailroom from 3684 to 3787 bytes gives `max_ports = 35`.
-/

namespace OpenflowDatapath

/-- The records of the flows a flow dump of `rq` visits, by its table selection. -/
def flowYields (chain : Chain) (rq : FlowStatsRequest) : List StatsRecord :=
  let recs (idx : Nat) (t : Table) := (t.flows rq.ofMatch rq.outPort).map (.flow idx)
  if rq.tableId = allTables then (chain.tables.enum.map fun e => recs e.1 e.2).flatten
  else if rq.tableId = emergTableIdForStats then recs emergTableIdForStats chain.emergTable
  else match chain.tables[rq.tableId]? with
    | some t => recs rq.tableId t
    | none => []

theorem pendingTables_all {rq : FlowStatsRequest} (h : rq.tableId = allTables)
    (ts : List Table) (idx : Nat) :
    pendingTables rq ts idx 0 =
      ((ts.enumFrom idx).map fun e => (e.2.flows rq.ofMatch rq.outPort).map (.flow e.1)).flatten := by
  induction ts generalizing idx with
  | nil => rfl
  | cons t ts ih =>
    rw [pendingTables, if_pos (.inl h), ih, List.drop_zero, List.enumFrom_cons, List.map_cons,
      List.flatten_cons]

theorem pendingTables_unselected {rq : FlowStatsRequest} {idx : Nat}
    (h : ¬(rq.tableId = allTables ∨ rq.tableId = idx)) (ts : List Table) (pos : Nat) :
    pendingTables rq ts idx pos = [] := by
  cases ts with
  | nil => rfl
  | cons t ts => rw [pendingTables, if_neg h]

theorem flowStatsInit_pending (chain : Chain) (rq : FlowStatsRequest) :
    (flowStatsInit rq).pending chain = flowYields chain rq := by
  unfold FlowStatsState.pending flowStatsInit flowYields
  dsimp only
  by_cases hall : rq.tableId = allTables
  · have he : rq.tableId ≠ emergTableIdForStats := by rw [hall]; decide
    rw [if_neg he, if_pos hall, if_pos hall, List.drop_zero, pendingTables_all hall]
    rfl
  rw [if_neg hall, if_neg hall]
  by_cases he : rq.tableId = emergTableIdForStats
  · rw [if_pos he, if_pos he, he, List.drop_zero]
  rw [if_neg he, if_neg he]
  have hnext : ¬(rq.tableId = allTables ∨ rq.tableId = rq.tableId + 1) := by omega
  cases ht : chain.tables[rq.tableId]? with
  | none =>
    rw [List.drop_eq_nil_of_le (List.getElem?_eq_none_iff.1 ht)]
    rfl
  | some t =>
    obtain ⟨hlt, rfl⟩ := List.getElem?_eq_some_iff.1 ht
    rw [List.drop_eq_getElem_cons hlt, pendingTables, if_pos (.inr rfl), List.drop_zero,
      pendingTables_unselected hnext, List.append_nil]

theorem objTrace_flow {s : Sys} {dp : Datapath} {chain : Chain} (caps : List Int)
    (hc : ∀ c ∈ caps, 0 ≤ c) (st : FlowStatsState) :
    objTrace s dp chain caps (.flow st) = .ok (genRun caps (st.pending chain)) := by
  induction caps generalizing st with
  | nil => rfl
  | cons c cs ih =>
    obtain ⟨hd, -, hnext⟩ := flowStatsDump_spec chain st c
    have hw := extent_fitPrefix_le (hc c (List.mem_cons_self c cs)) (st.pending chain)
    generalize st.pending chain = P at hd hnext hw
    simp only [objTrace, objDump, ok_bind, pure_bind, hd, genRun]
    by_cases hall : (fitPrefix c P).length = P.length
    · rw [if_pos hall, if_pos hall, if_neg (by decide), if_neg (by omega), if_pos rfl]
      rfl
    rw [if_neg hall, if_neg hall]
    by_cases hq : fitPrefix c P = []
    · rw [if_pos hq, if_pos hq, if_pos (by decide)]
      rfl
    have hlt : (fitPrefix c P).length < P.length :=
      Nat.lt_of_le_of_ne (fitPrefix_isPrefix c P).length_le hall
    rw [if_neg hq, if_neg hq, if_neg (by decide), if_neg (by omega), if_neg (by decide),
      ih (fun c' h => hc c' (List.mem_cons_of_mem c h)), hnext hlt]
    rfl

theorem dumpitSetup_first_flow {env : DumpCallEnv} {req : DumpRequest} {i : Nat} {a : DpRef}
    {rq : OfpStatsRequest} {st : StatsType}
    (hchk : checkStatsRequest env.sys req = .ok (.ok (i, a, rq, st)))
    (hflow : rq.statsType = ofpstFlow) (hk : env.kmallocOk = true) :
    ∃ mem, mem.heap 0 = some (.flow (flowStatsInit rq.body.flow)) ∧
      dumpitSetup env req Callback.zero DumpMem.empty =
        .ok (.reply a rq.xid ⟨1, i, ofpstFlow, rq.xid, .heap 0⟩ mem) := by
  have hst := (checkStatsRequest_ok hchk).2.1
  rw [hflow] at hst
  cases hst
  refine ⟨⟨Function.update (fun _ => none) 0 (some (.flow (flowStatsInit rq.body.flow))),
    [.alloc 0]⟩, by simp only [Function.update_same], ?_⟩
  rw [dumpitSetup_first hchk rfl (by rw [hflow, hk]; rfl), hflow]
  rfl

def demoChain : Chain :=
  ⟨[⟨fun _ _ => [⟨0, 0, 0, 0⟩, ⟨1, 0, 0, 0⟩]⟩, ⟨fun _ _ => [⟨2, 0, 0, 0⟩]⟩], ⟨fun _ _ => []⟩⟩

def demoFlowCall (room : Int) : DumpCallEnv := ⟨demoSys, fun _ => demoChain, room, true⟩

def allFlowsRequest : DumpRequest :=
  statsRequest ofpstFlow flowStatsRequestSize ⟨⟨0, allTables, ofppNone⟩, 0, 0⟩

theorem objTrace_port_lookup {s : Sys} {dp : Datapath} {chain : Chain} {st : PortStatsState}
    {p : PortRef} {r : StatsRecord} (hst : st.portNo ≠ ofppNone)
    (hl : lookupPort dp st.portNo = some p) (hr : portRecord s p = some r) (caps : List Int)
    (hc : ∀ c ∈ caps, (portStatsSize : Int) ≤ c ∧ c < 2 * portStatsSize) :
    objTrace s dp chain caps (.port st) = .ok (caps.map fun _ => ([r], ofpsfReplyMore), none) := by
  induction caps with
  | nil => rfl
  | cons c cs ih =>
    obtain ⟨h1, h2⟩ := hc c (List.mem_cons_self c cs)
    have hm : portMaxPorts c = 1 := by
      rw [portMaxPorts_of_nonneg (by omega) (by simp only [portStatsSize] at h2; omega)]
      simp only [portStatsSize] at h1 h2 ⊢
      omega
    have hd := portStatsDump_lookup (s := s) (c := c) hst (by rw [hm]; decide)
      (fun p' h => by rw [hl] at h; cases h; rw [hr]; rfl)
    simp only [hl, hr, Option.some_bind, Option.toList_some, List.length_singleton, hm] at hd
    simp only [objTrace, objDump, hd, ok_bind, pure_bind, if_pos (Int.le_refl 1),
      if_neg (by decide : ¬(1 : Int) < 0), if_neg (by decide : ¬(1 : Int) = 0),
      if_neg (by simp only [portStatsSize] at h1 ⊢; omega : ¬c < (1 : Nat) * (portStatsSize : Int)),
      ih fun c' h => hc c' (List.mem_cons_of_mem c h)]
    rfl

/-- A port dump's calls are `objTrace` from the state `port_stats_init` allocates. -/
theorem dumpitCalls_port {s : Sys} {chain : Chain} {a : DpRef} {dp : Datapath}
    {env : DumpCallEnv} {envs : List DumpCallEnv} {req : DumpRequest} {i : Nat}
    {rq : OfpStatsRequest} {st : StatsType} (hs : ∀ e ∈ env :: envs, Serves s chain a e)
    (hk : env.kmallocOk = true) (hchk : checkStatsRequest s req = .ok (.ok (i, a, rq, st)))
    (hst : rq.statsType = ofpstPort) (hdp : s.dpHeap a = some dp) :
    (dumpitCalls req (env :: envs) Callback.zero DumpMem.empty >>= fun r => pure (transcript r.1)) =
      objTrace s dp chain ((env :: envs).map fun e => bodyCap e.room)
        (.port (portStatsInit rq.body.portNo)) := by
  obtain ⟨-, hstats, hi⟩ := checkStatsRequest_ok hchk
  have hsys := (hs env (List.mem_cons_self _ _)).sys
  rw [hst] at hstats
  cases hstats
  obtain ⟨mem, hmem⟩ : ∃ mem : DumpMem, mem =
      ⟨Function.update (fun _ => none) 0 (some (.port (portStatsInit rq.body.portNo))), [.alloc 0]⟩ :=
    ⟨_, rfl⟩
  have hfirst : dumpitSetup env req Callback.zero DumpMem.empty =
      .ok (.reply a rq.xid ⟨1, i, ofpstPort, rq.xid, .heap 0⟩ mem) := by
    rw [← hst, hmem]
    exact dumpitSetup_first (hsys ▸ hchk) rfl (by rw [hst, hk]; rfl)
  have hlater : dumpitSetup env req ⟨1, i, ofpstPort, rq.xid, .heap 0⟩ mem =
      .ok (.reply a rq.xid ⟨1, i, ofpstPort, rq.xid, .heap 0⟩ mem) := dumpitSetup_later (hsys ▸ hi)
  rw [dumpitCalls_of_setup _ (hfirst.trans hlater.symm)]
  exact dumpitCalls_objTrace (o := .port (portStatsInit rq.body.portNo)) hs hi hdp
    (by rw [hmem]; rfl)

section PortNone

variable {s : Sys} {dp : Datapath} (chain : Chain) {c : Int}

theorem objTrace_port_none_overruns (hp : PortsAllocated s dp) (hc : (portStatsSize : Int) ≤ c)
    (hc' : c < 2 ^ 31) (hk : c / portStatsSize ≤ (slotRecords s dp 1 (dpMaxPorts - 1)).length)
    (cs : List Int) :
    objTrace s dp chain (c :: cs) (.port (portStatsInit ofppNone)) = .error .bug := by
  obtain ⟨d, st', hd, hret, hlt, -⟩ := portStatsDump_none_overruns hp hc hc' hk
  simp only [objTrace, objDump, hd, ok_bind, pure_bind, hret, if_neg (by decide : ¬(1 : Int) < 0),
    if_pos hlt]

theorem objTrace_port_none_local_twice (hs : SlotsAllocated s dp) {lp : PortRef}
    {lr : StatsRecord} (hlp : dp.localPort = some lp) (hlr : portRecord s lp = some lr)
    (hc : 2 * (portStatsSize : Int) ≤ c) (hc' : c < 2 ^ 31)
    (hk : (slotRecords s dp 1 (dpMaxPorts - 1)).length + 1 = c / portStatsSize) (cs : List Int) :
    objTrace s dp chain (c :: c :: cs) (.port (portStatsInit ofppNone)) =
      .ok ([(slotRecords s dp 1 (dpMaxPorts - 1) ++ [lr], ofpsfReplyMore), ([lr], 0)],
        if cs = [] then none else some 0) := by
  have hm : portMaxPorts c = c / 104 := portMaxPorts_of_nonneg (by omega) hc'
  simp only [portStatsSize] at hc hk
  have h1 := portStatsDump_none (c := c) hs hlp hlr
    (show (portStatsInit ofppNone).portNo = ofppNone from rfl)
    (by rw [hm]; omega)
  have h2 := portStatsDump_none (c := c) hs hlp hlr
    (show (⟨ofppLocal + 1, ofppNone⟩ : PortStatsState).portNo = ofppNone from rfl)
    (by rw [hm]; omega)
  -- the first call takes every slot, the second none
  have htake : (slotRecords s dp 1 (dpMaxPorts - 1)).take (c / 104).toNat =
      slotRecords s dp 1 (dpMaxPorts - 1) := List.take_of_length_le (by omega)
  have hnone : slotRecords s dp (ofppLocal + 1) (dpMaxPorts - (ofppLocal + 1)) = [] := rfl
  simp only [portStatsInit, htake, hnone, List.take_nil, List.nil_append, List.length_append,
    List.length_singleton, List.length_nil, hm, portStatsSize] at h1 h2
  have hge : (((slotRecords s dp 1 (dpMaxPorts - 1)).length + 1 : Nat) : Int) ≥ c / 104 := by
    push_cast; omega
  have hfit : ¬c < (((slotRecords s dp 1 (dpMaxPorts - 1)).length + 1 : Nat) : Int) *
      ((104 : Nat) : Int) := by push_cast; omega
  have hlt1 : ¬((1 : Nat) : Int) ≥ c / 104 := by omega
  have hfit1 : ¬c < ((1 : Nat) : Int) * ((104 : Nat) : Int) := by omega
  simp only [objTrace, objDump, portStatsInit, h1, h2, ok_bind, pure_bind, hge, hfit, hlt1, hfit1,
    if_true, if_false]
  rfl

end PortNone

theorem eq_error_of_bind_pure {α β : Type} {x : K α} {f : α → β} {e : Oops}
    (h : (x >>= fun a => pure (f a)) = .error e) : x = .error e := by
  rcases bind_eq_error.1 h with h | ⟨_, -, h⟩
  · exact h
  · cases h

section PortSession

variable {s : Sys} {chain : Chain} {a : DpRef} {dp : Datapath} {env : DumpCallEnv}
  {req : DumpRequest} {i : Nat} {rq : OfpStatsRequest} {st : StatsType}

theorem bodyCap_lt {env : DumpCallEnv} (h : Serves s chain a env) : bodyCap env.room < 2 ^ 31 := by
  have := h.room_lt
  simp only [bodyCap, statsBodyOffset]
  omega

/-- An `OFPP_NONE` dump on `max_ports` or more slot ports overruns its first body. -/
theorem dumpSession_port_none_overruns {envs : List DumpCallEnv}
    (hs : ∀ e ∈ env :: envs, Serves s chain a e) (hk : env.kmallocOk = true)
    (hchk : checkStatsRequest s req = .ok (.ok (i, a, rq, st))) (hst : rq.statsType = ofpstPort)
    (hnone : rq.body.portNo = ofppNone) (hdp : s.dpHeap a = some dp) (hp : PortsAllocated s dp)
    (hmax : 0 < portMaxPorts (bodyCap env.room))
    (hfull : portMaxPorts (bodyCap env.room) ≤ (slotRecords s dp 1 (dpMaxPorts - 1)).length) :
    dumpSession req (env :: envs) = .error .bug := by
  have hserve := hs env (List.mem_cons_self _ _)
  rw [portMaxPorts_of_nonneg (bodyCap_nonneg hserve.room_ge) (bodyCap_lt hserve)] at hmax hfull
  have h := dumpitCalls_port hs hk hchk hst hdp
  rw [List.map_cons, hnone, objTrace_port_none_overruns chain hp
    (by simp only [portStatsSize] at hmax ⊢; omega) (bodyCap_lt hserve) hfull] at h
  rw [dumpSession, eq_error_of_bind_pure h]
  rfl

/-- An `OFPP_NONE` dump on `max_ports - 1` slot ports sends the local port's record twice. -/
theorem dumpitCalls_port_none_local_twice {env' : DumpCallEnv} {envs : List DumpCallEnv}
    (hs : ∀ e ∈ env :: env' :: envs, Serves s chain a e) (hk : env.kmallocOk = true)
    (hchk : checkStatsRequest s req = .ok (.ok (i, a, rq, st))) (hst : rq.statsType = ofpstPort)
    (hnone : rq.body.portNo = ofppNone) (hdp : s.dpHeap a = some dp)
    (hslots : SlotsAllocated s dp) {lp : PortRef} {lr : StatsRecord}
    (hlp : dp.localPort = some lp) (hlr : portRecord s lp = some lr) (hroom : env'.room = env.room)
    (hne : 0 < (slotRecords s dp 1 (dpMaxPorts - 1)).length)
    (hmax : portMaxPorts (bodyCap env.room) = (slotRecords s dp 1 (dpMaxPorts - 1)).length + 1) :
    (dumpitCalls req (env :: env' :: envs) Callback.zero DumpMem.empty >>= fun r =>
        pure (transcript r.1)) =
      .ok ([(slotRecords s dp 1 (dpMaxPorts - 1) ++ [lr], ofpsfReplyMore), ([lr], 0)],
        if envs.isEmpty then none else some 0) := by
  have hserve := hs env (List.mem_cons_self _ _)
  rw [portMaxPorts_of_nonneg (bodyCap_nonneg hserve.room_ge) (bodyCap_lt hserve)] at hmax
  rw [dumpitCalls_port hs hk hchk hst hdp, List.map_cons, List.map_cons, hroom, hnone,
    objTrace_port_none_local_twice chain hslots hlp hlr
      (by simp only [portStatsSize] at hmax ⊢; omega) (bodyCap_lt hserve) hmax.symm]
  cases envs <;> rfl

end PortSession

/-- A datapath whose slots `1 .. k` hold ports `1 .. k`, with its local port 0. -/
def portsDp (k : Nat) : Datapath :=
  { newDpRecord 0 0 0 with
    ports := fun j => if 0 < j ∧ j ≤ k then some j else none
    portList := List.range (k + 1) }

def portsSys (k : Nat) : Sys where
  dps i := if i = 0 then some 0 else none
  dpHeap a := if a = 0 then some (portsDp k) else none
  portHeap p := if p ≤ k then some ⟨0, p, if p = 0 then ofppLocal else p, 0, 0⟩ else none
  devs _ := none
  moduleRefs := 1

def portsCall (k : Nat) (room : Int) : DumpCallEnv :=
  ⟨portsSys k, fun _ => ⟨[], ⟨fun _ _ => []⟩⟩, room, true⟩

theorem portsAllocated (k : Nat) : PortsAllocated (portsSys k) (portsDp k) where
  slots j p h := by
    simp only [portsDp] at h
    split_ifs at h with hj
    cases h
    simp [portRecord, portsSys, hj.2]
  localPort := ⟨0, .port ofppLocal 0, rfl, by simp [portRecord, portsSys]⟩

theorem goodsize_port_dump_overruns :
    portMaxPorts (bodyCap 3776) = 35 ∧
      (slotRecords (portsSys 35) (portsDp 35) 1 (dpMaxPorts - 1)).length = 35 ∧
      dumpSession (portStatsRequest ofppNone) [portsCall 35 3776] = .error .bug :=
  ⟨by decide, by decide, dumpSession_port_none_overruns (s := portsSys 35) (a := 0)
    (fun e he => by rw [List.mem_singleton.1 he]; exact ⟨rfl, rfl, by decide, by decide⟩) rfl rfl
    rfl rfl rfl (portsAllocated 35) (by decide) (by decide)⟩

theorem goodsize_port_dump_local_twice :
    portMaxPorts (bodyCap 3776) = 35 ∧
      (slotRecords (portsSys 34) (portsDp 34) 1 (dpMaxPorts - 1)).length = 34 ∧
      (dumpitCalls (portStatsRequest ofppNone) (List.replicate 3 (portsCall 34 3776)) Callback.zero
          DumpMem.empty >>= fun r => pure (transcript r.1)) =
        .ok ([(slotRecords (portsSys 34) (portsDp 34) 1 (dpMaxPorts - 1) ++ [.port ofppLocal 0],
          ofpsfReplyMore), ([.port ofppLocal 0], 0)], some 0) :=
  ⟨by decide, by decide, dumpitCalls_port_none_local_twice (s := portsSys 34) (a := 0)
    (fun e he => by rw [List.eq_of_mem_replicate (n := 3) he]; exact ⟨rfl, rfl, by decide, by decide⟩) rfl
    (show checkStatsRequest _ (portStatsRequest ofppNone) = _ from rfl) rfl rfl rfl (portsAllocated 34).slots rfl rfl rfl (by decide) (by decide)⟩

set_option maxRecDepth 1000 in
/-- On `demoSys` a dump of port 1 never ends, and a dump of every port repeats the local port. -/
theorem portDump_repeats :
    (∀ n, (dumpitCalls (portStatsRequest 1) (List.replicate n (demoCall 148)) Callback.zero
        DumpMem.empty >>= fun r => pure (transcript r.1)) =
      .ok (List.replicate n ([.port 1 0], ofpsfReplyMore), none)) ∧
    (dumpitCalls (portStatsRequest ofppNone) (List.replicate 3 (demoCall 252)) Callback.zero
        DumpMem.empty >>= fun r => pure (transcript r.1)) =
      .ok ([([.port 1 0, .port ofppLocal 1], ofpsfReplyMore), ([.port ofppLocal 1], 0)],
        some 0) := by
  refine ⟨fun n => ?_, rfl⟩
  cases n with
  | zero => rfl
  | succ k =>
    have hs : ∀ e ∈ demoCall 148 :: List.replicate k (demoCall 148),
        Serves demoSys ⟨[], ⟨fun _ _ => []⟩⟩ 0 e := fun e he => by
      rw [List.eq_of_mem_replicate (n := k + 1) he]
      exact ⟨rfl, rfl, by decide, by decide⟩
    have hport : objTrace demoSys demoDp ⟨[], ⟨fun _ _ => []⟩⟩ (List.replicate (k + 1) 104)
        (.port (portStatsInit 1)) =
        .ok ((List.replicate (k + 1) (104 : Int)).map fun _ => ([.port 1 0], ofpsfReplyMore), none) :=
      objTrace_port_lookup (by decide) (by rfl) (by rfl) _ fun c hc => by
        rw [List.eq_of_mem_replicate hc]
        decide
    rw [List.replicate_succ, dumpitCalls_port hs rfl
      (show checkStatsRequest _ (portStatsRequest 1) = _ from rfl) rfl
      (show demoSys.dpHeap 0 = some demoDp from rfl), ← List.replicate_succ,
      List.map_replicate, show bodyCap (demoCall 148).room = 104 from rfl, hport, List.map_replicate]

end OpenflowDatapath
