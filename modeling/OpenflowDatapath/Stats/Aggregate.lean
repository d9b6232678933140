import OpenflowDatapath.Stats.Replies

/-! # Aggregate stats against the flow dump

`aggregate_stats_dump` and `flow_stats_dump` copy the same table-selection loop. This module
proves that the aggregate reply is the totals of the records a complete flow dump emits for
the same request: the packet and byte counts summed in 64 bits, and the record count in the
32 bits of `flow_count`.
-/

namespace OpenflowDatapath

def StatsRecord.packets : StatsRecord → Nat
  | .flow _ f => f.packetCount
  | _ => 0

def StatsRecord.bytes : StatsRecord → Nat
  | .flow _ f => f.byteCount
  | _ => 0

/-- The totals of flow-stats records in `ofp_aggregate_stats_reply`'s widths: 64, 64, 32 bits. -/
def aggregateOf (rs : List StatsRecord) : StatsRecord :=
  .aggregate ((rs.map StatsRecord.packets).sum % 2 ^ 64) ((rs.map StatsRecord.bytes).sum % 2 ^ 64)
    (rs.length % 2 ^ 32)

def aggStep (t : Nat × Nat × Nat) (r : StatsRecord) : Nat × Nat × Nat :=
  ((t.1 + r.packets) % 2 ^ 64, (t.2.1 + r.bytes) % 2 ^ 64, (t.2.2 + 1) % 2 ^ 32)

theorem iterateFrom_aggregate (idx : Nat) (fs : List Flow) (pos : Nat) (t : Nat × Nat × Nat) :
    iterateFrom (aggregateStatsDumpCallback idx) fs pos t =
      (0, pos + fs.length, (fs.map (.flow idx)).foldl aggStep t) := by
  induction fs generalizing pos t with
  | nil => rfl
  | cons f fs ih =>
    simp only [iterateFrom, aggregateStatsDumpCallback, if_true, ih, List.map_cons,
      List.foldl_cons, List.length_cons, aggStep, StatsRecord.packets, StatsRecord.bytes]
    rw [Nat.add_assoc, Nat.add_comm 1]

theorem iterateTables_aggregate (rq : FlowStatsRequest) (ts : List Table) (idx pos : Nat)
    (t : Nat × Nat × Nat) :
    ∃ idx' pos', iterateTables rq aggregateStatsDumpCallback ts idx pos t =
      (0, idx', pos', (pendingTables rq ts idx pos).foldl aggStep t) := by
  induction ts generalizing idx pos t with
  | nil => exact ⟨idx, pos, rfl⟩
  | cons tb ts ih =>
    by_cases hsel : rq.tableId = allTables ∨ rq.tableId = idx
    · obtain ⟨idx', pos', h⟩ := ih (idx + 1) 0
        ((((tb.flows rq.ofMatch rq.outPort).drop pos).map (.flow idx)).foldl aggStep t)
      refine ⟨idx', pos', ?_⟩
      simp only [iterateTables, if_pos hsel, Table.iterate, iterateFrom_aggregate, if_true, h,
        pendingTables, List.foldl_append]
    · exact ⟨idx, pos, by simp only [iterateTables, if_neg hsel, pendingTables, List.foldl_nil]⟩

theorem foldl_aggStep (rs : List StatsRecord) (p b n : Nat) :
    rs.foldl aggStep (p % 2 ^ 64, b % 2 ^ 64, n % 2 ^ 32) =
      ((p + (rs.map StatsRecord.packets).sum) % 2 ^ 64,
        (b + (rs.map StatsRecord.bytes).sum) % 2 ^ 64, (n + rs.length) % 2 ^ 32) := by
  induction rs generalizing p b n with
  | nil => rfl
  | cons r rs ih =>
    simp only [List.foldl_cons, aggStep, Nat.mod_add_mod, ih, List.map_cons, List.sum_cons,
      List.length_cons, Nat.add_assoc, Nat.add_comm 1]

theorem aggregateStatsDump_eq (chain : Chain) (rq : FlowStatsRequest) {c : Int}
    (hc : (aggregateStatsReplySize : Int) ≤ c) :
    aggregateStatsDump chain rq c =
      ⟨0, [aggregateOf ((flowStatsInit rq).pending chain)], aggregateStatsReplySize⟩ := by
  have hP : ∀ P, P = (flowStatsInit rq).pending chain →
      (⟨0, [.aggregate (P.foldl aggStep (0, 0, 0)).1 (P.foldl aggStep (0, 0, 0)).2.1
        (P.foldl aggStep (0, 0, 0)).2.2], aggregateStatsReplySize⟩ : Dumped) =
      ⟨0, [aggregateOf ((flowStatsInit rq).pending chain)], aggregateStatsReplySize⟩ := by
    rintro P rfl
    have h0 := foldl_aggStep ((flowStatsInit rq).pending chain) 0 0 0
    simp only [Nat.zero_mod, Nat.zero_add] at h0
    rw [h0]
    rfl
  rw [aggregateStatsDump, if_neg (by omega)]
  by_cases he : rq.tableId = emergTableIdForStats
  · have hidx : (if rq.tableId = allTables then 0 else rq.tableId) = rq.tableId := by
      rw [if_neg (by rw [he]; decide)]
    simp only [if_pos he, Table.iterate, iterateFrom_aggregate, hidx, List.drop_zero]
    exact hP _ (by simp only [FlowStatsState.pending, flowStatsInit, if_pos he, hidx,
      List.drop_zero])
  · obtain ⟨idx', pos', h⟩ := iterateTables_aggregate rq
      (chain.tables.drop (if rq.tableId = allTables then 0 else rq.tableId))
      (if rq.tableId = allTables then 0 else rq.tableId) 0 (0, 0, 0)
    simp only [if_neg he, h]
    exact hP _ (by simp only [FlowStatsState.pending, flowStatsInit, if_neg he])

theorem fitPrefix_of_extent_le {c : Int} {rs : List StatsRecord} (h : extent rs ≤ c) :
    fitPrefix c rs = rs := by
  induction rs generalizing c with
  | nil => rfl
  | cons r rs ih =>
    rw [extent_cons] at h
    have := extent_nonneg rs
    rw [fitPrefix, if_pos (by omega), ih (by omega)]

theorem flowStatsDump_complete (chain : Chain) (rq : FlowStatsRequest) {c : Int}
    (hc : extent (flowYields chain rq) ≤ c) :
    (flowStatsDump chain (flowStatsInit rq) c).1 =
      ⟨0, flowYields chain rq, extent (flowYields chain rq)⟩ := by
  obtain ⟨h, -, -⟩ := flowStatsDump_spec chain (flowStatsInit rq) c
  rw [flowStatsInit_pending, fitPrefix_of_extent_le hc, if_pos rfl] at h
  exact h

/-- The aggregate reply is the totals of the records a complete flow dump of the request sends. -/
theorem aggregate_totals_flowDump (chain : Chain) (rq : FlowStatsRequest) {c c' : Int}
    (hc : extent (flowYields chain rq) ≤ c) (hc' : (aggregateStatsReplySize : Int) ≤ c') :
    (flowStatsDump chain (flowStatsInit rq) c).1.ret = 0 ∧
      (flowStatsDump chain (flowStatsInit rq) c).1.records = flowYields chain rq ∧
      aggregateStatsDump chain rq c' =
        ⟨0, [aggregateOf (flowStatsDump chain (flowStatsInit rq) c).1.records],
          aggregateStatsReplySize⟩ := by
  rw [flowStatsDump_complete chain rq hc, aggregateStatsDump_eq chain rq hc',
    flowStatsInit_pending]
  exact ⟨rfl, rfl, rfl⟩

theorem aggregate_totals_demo :
    extent (flowYields demoChain ⟨0, allTables, ofppNone⟩) ≤ 264 ∧
    (aggregateStatsReplySize : Int) ≤ 24 ∧
    (flowStatsDump demoChain (flowStatsInit ⟨0, allTables, ofppNone⟩) 264).1.ret = 0 ∧
    (flowStatsDump demoChain (flowStatsInit ⟨0, allTables, ofppNone⟩) 264).1.records =
      flowYields demoChain ⟨0, allTables, ofppNone⟩ ∧
    aggregateStatsDump demoChain ⟨0, allTables, ofppNone⟩ 24 =
      ⟨0, [aggregateOf (flowStatsDump demoChain (flowStatsInit ⟨0, allTables, ofppNone⟩)
        264).1.records], aggregateStatsReplySize⟩ :=
  ⟨by decide, by decide, aggregate_totals_flowDump demoChain ⟨0, allTables, ofppNone⟩
    (by decide) (by decide)⟩

/-- A chain whose one table holds `2 ^ 32` flows, all of them matching. -/
def wideChain : Chain :=
  ⟨[⟨fun _ _ => List.replicate (2 ^ 32) ⟨0, 0, 0, 0⟩⟩], ⟨fun _ _ => []⟩⟩

theorem flowYields_wideChain :
    flowYields wideChain ⟨0, allTables, ofppNone⟩ =
      List.replicate (2 ^ 32) (.flow 0 ⟨0, 0, 0, 0⟩) := by
  rw [flowYields, if_pos rfl, show wideChain.tables.enum = [(0, wideChain.tables[0])] from rfl]
  simp only [List.map_cons, List.map_nil, List.flatten_cons, List.flatten_nil, List.append_nil]
  exact List.map_replicate

/-- On `wideChain` a dump sends `2 ^ 32` records while the aggregate reply counts none. -/
theorem aggregate_count_wraps :
    (flowStatsDump wideChain (flowStatsInit ⟨0, allTables, ofppNone⟩) (88 * 2 ^ 32)).1.ret = 0 ∧
    (flowStatsDump wideChain (flowStatsInit ⟨0, allTables, ofppNone⟩)
      (88 * 2 ^ 32)).1.records.length = 2 ^ 32 ∧
    aggregateStatsDump wideChain ⟨0, allTables, ofppNone⟩ 24 = ⟨0, [.aggregate 0 0 0], 24⟩ := by
  have hext : extent (flowYields wideChain ⟨0, allTables, ofppNone⟩) ≤ 88 * 2 ^ 32 := by
    rw [flowYields_wideChain, extent_of_size (k := 88) fun r hr => by
      rw [List.eq_of_mem_replicate hr]; rfl, List.length_replicate]
    omega
  rw [flowStatsDump_complete _ _ hext, aggregateStatsDump_eq _ _ (by decide), flowStatsInit_pending,
    flowYields_wideChain]
  refine ⟨rfl, List.length_replicate _ _, ?_⟩
  simp only [aggregateOf, List.map_replicate, List.sum_replicate, List.length_replicate,
    StatsRecord.packets, StatsRecord.bytes, smul_zero, Nat.zero_mod, Nat.mod_self]
  rfl

end OpenflowDatapath
