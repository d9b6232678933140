import OpenflowDatapath.Basic

/-! # The statistics dumps

The `dump` function of each stats type, as a function of its dump state and of the body
capacity `*body_len`: its return value, the records it writes end to end from the start of
the body, and the `*body_len` it leaves. Struct sizes are OpenFlow 1.0's (`openflow.h`). The
flow chain (chain.c) and its tables (table-*.c) are not in the source: a table is what its
`iterate` visits, as the spec describes it.
-/

namespace OpenflowDatapath

-- `sizeof` of `ofp_desc_stats`, `ofp_flow_stats` without its actions, `ofp_aggregate_stats_reply`,
-- `ofp_table_stats` and `ofp_port_stats`

def descStatsSize : Nat := 1056
def flowStatsSize : Nat := 88
def aggregateStatsReplySize : Nat := 24
def tableStatsSize : Nat := 64
def portStatsSize : Nat := 104

/-- A flow as the dumps read it; `id` stands for the fields no dump computes with. -/
structure Flow where
  id : Nat
  actionsLen : Nat
  packetCount : Nat
  byteCount : Nat
  deriving DecidableEq, Repr

/-- A record of a reply body; the texts and the table and device counters are left out. -/
inductive StatsRecord where
  | desc
  | flow (tableId : Nat) (f : Flow)
  | aggregate (packetCount byteCount flowCount : Nat)
  | table (tableId : Nat)
  | port (portNo : Nat) (dev : DevId)
  deriving DecidableEq, Repr

def StatsRecord.size : StatsRecord → Nat
  | .desc => descStatsSize
  | .flow _ f => flowStatsSize + f.actionsLen
  | .aggregate .. => aggregateStatsReplySize
  | .table _ => tableStatsSize
  | .port .. => portStatsSize

theorem StatsRecord.size_pos (r : StatsRecord) : 0 < r.size := by
  cases r <;> simp only [StatsRecord.size, descStatsSize, flowStatsSize, aggregateStatsReplySize,
    tableStatsSize, portStatsSize] <;> omega

def extent (rs : List StatsRecord) : Int := (rs.map fun r => (r.size : Int)).sum

@[simp] theorem extent_nil : extent [] = 0 := rfl

@[simp] theorem extent_cons (r : StatsRecord) (rs : List StatsRecord) :
    extent (r :: rs) = r.size + extent rs := by
  simp [extent]

@[simp] theorem extent_append (rs ts : List StatsRecord) :
    extent (rs ++ ts) = extent rs + extent ts := by
  induction rs with
  | nil => simp
  | cons r rs ih => simp only [List.cons_append, extent_cons, ih]; omega

theorem extent_nonneg (rs : List StatsRecord) : 0 ≤ extent rs := by
  induction rs with
  | nil => exact Int.le_refl 0
  | cons r rs ih => rw [extent_cons]; omega

theorem extent_eq_zero_iff {rs : List StatsRecord} : extent rs = 0 ↔ rs = [] := by
  cases rs with
  | nil => simp
  | cons r rs =>
    have := r.size_pos
    have := extent_nonneg rs
    simp only [extent_cons, reduceCtorEq, iff_false]
    omega

/-- What a `dump` call leaves: its return value, the records it wrote, and `*body_len`. -/
structure Dumped where
  ret : Int
  records : List StatsRecord
  bodyLen : Int
  deriving DecidableEq, Repr

structure Dumped.Within (d : Dumped) (c : Int) : Prop where
  written : extent d.records ≤ c
  bodyLen_nonneg : 0 ≤ d.bodyLen
  bodyLen_le : d.bodyLen ≤ c

theorem Dumped.within_untouched {c : Int} (hc : 0 ≤ c) (ret : Int) : Dumped.Within ⟨ret, [], c⟩ c :=
  ⟨hc, hc, Int.le_refl c⟩

structure FlowStatsRequest where
  ofMatch : Nat
  tableId : Nat
  outPort : Nat
  deriving DecidableEq, Repr

def emergTableIdForStats : Nat := 0xfe

def allTables : Nat := 0xff

/-- Modelled from the spec: a table (table-*.c), its flows in the order `iterate` visits them. -/
structure Table where
  flows : Nat → Nat → List Flow

/-- The part of `dp->chain` (chain.c) the dumps read. -/
structure Chain where
  tables : List Table
  emergTable : Table

/-- Modelled from the spec: `table->iterate` from a saved position, up to a nonzero callback. -/
def iterateFrom {σ : Type} (cb : Flow → σ → Int × σ) : List Flow → Nat → σ → Int × Nat × σ
  | [], pos, st => (0, pos, st)
  | f :: fs, pos, st =>
    let r := cb f st
    if r.1 = 0 then iterateFrom cb fs (pos + 1) r.2 else (r.1, pos, r.2)

def Table.iterate {σ : Type} (t : Table) (m outPort pos : Nat) (cb : Flow → σ → Int × σ)
    (st : σ) : Int × Nat × σ :=
  iterateFrom cb ((t.flows m outPort).drop pos) pos st

/-- The `while` loop that `flow_stats_dump` and `aggregate_stats_dump` share. -/
def iterateTables {σ : Type} (rq : FlowStatsRequest) (cb : Nat → Flow → σ → Int × σ) :
    List Table → Nat → Nat → σ → Int × Nat × Nat × σ
  | [], idx, pos, st => (0, idx, pos, st)
  | t :: ts, idx, pos, st =>
    if rq.tableId = allTables ∨ rq.tableId = idx then
      let r := t.iterate rq.ofMatch rq.outPort pos (cb idx) st
      if r.1 = 0 then iterateTables rq cb ts (idx + 1) 0 r.2.2 else (r.1, idx, r.2.1, r.2.2)
    else (0, idx, pos, st)

def descStatsDump (c : Int) : Dumped :=
  if (descStatsSize : Int) > c then ⟨-enobufs, [], c⟩ else ⟨0, [.desc], descStatsSize⟩

/-- `struct flow_stats_state` across calls; its other fields are set afresh by each call. -/
structure FlowStatsState where
  tableIdx : Nat
  position : Nat
  rq : FlowStatsRequest
  deriving DecidableEq, Repr

def flowStatsInit (rq : FlowStatsRequest) : FlowStatsState :=
  ⟨if rq.tableId = allTables then 0 else rq.tableId, 0, rq⟩

/-- `flow_stats_dump_callback`: the flow's record after the others, or 1 when it does not fit. -/
def flowStatsDumpCallback (bytesAllocated : Int) (tableIdx : Nat) (f : Flow)
    (w : Int × List StatsRecord) : Int × (Int × List StatsRecord) :=
  let length : Int := flowStatsSize + f.actionsLen
  if length + w.1 > bytesAllocated then (1, w) else (0, (w.1 + length, w.2 ++ [.flow tableIdx f]))

def flowStatsDump (chain : Chain) (s : FlowStatsState) (c : Int) : Dumped × FlowStatsState :=
  let r : Int × FlowStatsState × Int × List StatsRecord :=
    if s.rq.tableId = emergTableIdForStats then
      let r := chain.emergTable.iterate s.rq.ofMatch s.rq.outPort s.position
        (flowStatsDumpCallback c s.tableIdx) (0, [])
      (r.1, { s with position := r.2.1 }, r.2.2)
    else
      let r := iterateTables s.rq (flowStatsDumpCallback c) (chain.tables.drop s.tableIdx)
        s.tableIdx s.position (0, [])
      (r.1, { s with tableIdx := r.2.1, position := r.2.2.1 }, r.2.2.2)
  (⟨if r.1 = 0 then 0 else if r.2.2.1 ≠ 0 then 1 else -enomem, r.2.2.2, r.2.2.1⟩, r.2.1)

/-- `aggregate_stats_dump_callback`: 64-bit packet and byte counts, a 32-bit flow count. -/
def aggregateStatsDumpCallback (_ : Nat) (f : Flow) (rpy : Nat × Nat × Nat) :
    Int × (Nat × Nat × Nat) :=
  (0, ((rpy.1 + f.packetCount) % 2 ^ 64, (rpy.2.1 + f.byteCount) % 2 ^ 64,
    (rpy.2.2 + 1) % 2 ^ 32))

/-- `aggregate_stats_dump`; `*body_len < sizeof *rpy` compares an `int` with a `size_t`. -/
def aggregateStatsDump (chain : Chain) (rq : FlowStatsRequest) (c : Int) : Dumped :=
  if 0 ≤ c ∧ c < aggregateStatsReplySize then ⟨-enobufs, [], c⟩
  else
    let idx := if rq.tableId = allTables then 0 else rq.tableId
    let r : Int × Nat × Nat × Nat :=
      if rq.tableId = emergTableIdForStats then
        let r := chain.emergTable.iterate rq.ofMatch rq.outPort 0 (aggregateStatsDumpCallback idx)
          (0, 0, 0)
        (r.1, r.2.2)
      else
        let r := iterateTables rq aggregateStatsDumpCallback (chain.tables.drop idx) idx 0 (0, 0, 0)
        (r.1, r.2.2.2)
    ⟨r.1, [.aggregate r.2.1 r.2.2.1 r.2.2.2], aggregateStatsReplySize⟩

def tableStatsDump (chain : Chain) (c : Int) : Dumped :=
  let nBytes : Int := chain.tables.length * tableStatsSize
  if nBytes > c then ⟨-enobufs, [], c⟩
  else ⟨0, (List.range chain.tables.length).map .table, nBytes⟩

structure PortStatsState where
  startPort : Nat
  portNo : Nat
  deriving DecidableEq, Repr

def portStatsInit (portNo : Nat) : PortStatsState := ⟨1, portNo⟩

def dumpPortStats (s : Sys) (p : PortRef) : K StatsRecord := do
  let port ← deref (s.portHeap p)
  return .port port.portNo port.dev

/-- `*body_len / sizeof *ops`, through `size_t` and back to `int`. -/
def portMaxPorts (c : Int) : Int := ((c % 2 ^ 64) / portStatsSize).bmod (2 ^ 32)

/-- The `for` loop of `port_stats_dump` from slot `i`; `fuel` is `DP_MAX_PORTS - i`. -/
def portStatsLoop (s : Sys) (dp : Datapath) (maxPorts : Int) :
    Nat → Nat → List StatsRecord → K (List StatsRecord × Nat)
  | 0, i, ops => pure (ops, i)
  | fuel + 1, i, ops =>
    if i < dpMaxPorts ∧ (ops.length : Int) < maxPorts then
      match dp.ports i with
      | none => portStatsLoop s dp maxPorts fuel (i + 1) ops
      | some p => do
        let r ← dumpPortStats s p
        portStatsLoop s dp maxPorts fuel (i + 1) (ops ++ [r])
    else pure (ops, i)

def portStatsDump (s : Sys) (dp : Datapath) (st : PortStatsState) (c : Int) :
    K (Dumped × PortStatsState) := do
  let maxPorts := portMaxPorts c
  if maxPorts = 0 then return (⟨-enomem, [], c⟩, st)
  let (ops, st) ← if st.portNo = ofppNone then do
      let (ops, i) ← portStatsLoop s dp maxPorts (dpMaxPorts - st.startPort) st.startPort []
      match dp.localPort with
      | some lp => do
        let r ← dumpPortStats s lp
        pure (ops ++ [r], { st with startPort := ofppLocal + 1 })
      | none => pure (ops, { st with startPort := i })
    else
      match lookupPort dp st.portNo with
      | some p => do
        let r ← dumpPortStats s p
        pure ([r], st)
      | none => pure ([], st)
  return (⟨if (ops.length : Int) ≥ maxPorts then 1 else 0, ops, ops.length * portStatsSize⟩, st)

/-- `vendor_stats_dump` on the vendor id its state holds: no vendor is known. -/
def vendorStatsDump (vendor : Option Nat) (c : Int) : K Dumped := do
  let _ ← deref vendor
  return ⟨0, [], c⟩

def fitPrefix (c : Int) : List StatsRecord → List StatsRecord
  | [] => []
  | r :: rs => if r.size ≤ c then r :: fitPrefix (c - r.size) rs else []

theorem fitPrefix_isPrefix (c : Int) (rs : List StatsRecord) : fitPrefix c rs <+: rs := by
  induction rs generalizing c with
  | nil => exact List.prefix_refl _
  | cons r rs ih =>
    unfold fitPrefix
    split
    · exact (List.prefix_cons_inj r).2 (ih _)
    · exact List.nil_prefix

theorem extent_fitPrefix_le {c : Int} (hc : 0 ≤ c) (rs : List StatsRecord) :
    extent (fitPrefix c rs) ≤ c := by
  induction rs generalizing c with
  | nil => exact hc
  | cons r rs ih =>
    unfold fitPrefix
    split
    · have := ih (c := c - r.size) (by omega)
      rw [extent_cons]
      omega
    · exact hc

theorem fitPrefix_append_of_eq {c : Int} {rs : List StatsRecord} (h : fitPrefix c rs = rs)
    (ts : List StatsRecord) : fitPrefix c (rs ++ ts) = rs ++ fitPrefix (c - extent rs) ts := by
  induction rs generalizing c with
  | nil => simp
  | cons r rs ih =>
    unfold fitPrefix at h
    split at h
    · rw [List.cons_append, fitPrefix, if_pos ‹_›, ih (List.cons.inj h).2, extent_cons,
        Int.sub_sub, List.cons_append]
    · cases h

theorem fitPrefix_append_of_ne {c : Int} {rs : List StatsRecord} (h : fitPrefix c rs ≠ rs)
    (ts : List StatsRecord) : fitPrefix c (rs ++ ts) = fitPrefix c rs := by
  induction rs generalizing c with
  | nil => exact absurd rfl h
  | cons r rs ih =>
    rw [List.cons_append]
    unfold fitPrefix at h ⊢
    split
    · rw [ih fun h' => h (by rw [if_pos ‹_›, h'])]
    · rfl

theorem iterateFrom_flowStatsDumpCallback (c : Int) (idx : Nat) (fs : List Flow) (pos : Nat)
    (used : Int) (recs : List StatsRecord) :
    iterateFrom (flowStatsDumpCallback c idx) fs pos (used, recs) =
      (if (fitPrefix (c - used) (fs.map (.flow idx))).length = fs.length then 0 else 1,
        pos + (fitPrefix (c - used) (fs.map (.flow idx))).length,
        used + extent (fitPrefix (c - used) (fs.map (.flow idx))),
        recs ++ fitPrefix (c - used) (fs.map (.flow idx))) := by
  induction fs generalizing pos used recs with
  | nil => simp [iterateFrom, fitPrefix]
  | cons f fs ih =>
    have hq : fitPrefix (c - used) ((f :: fs).map (.flow idx)) =
        if (flowStatsSize : Int) + f.actionsLen + used > c then []
        else .flow idx f ::
          fitPrefix (c - (used + (flowStatsSize + f.actionsLen))) (fs.map (.flow idx)) := by
      simp only [List.map_cons, fitPrefix, StatsRecord.size, Int.sub_sub]
      split_ifs <;> first | rfl | omega
    rw [hq]
    by_cases hfit : (flowStatsSize : Int) + f.actionsLen + used > c
    · simp [iterateFrom, flowStatsDumpCallback, hfit]
    · simp only [iterateFrom, flowStatsDumpCallback, if_neg hfit, if_true, ih]
      generalize fitPrefix _ (fs.map _) = q
      simp only [List.length_cons, Nat.add_right_cancel_iff, extent_cons, StatsRecord.size,
        List.append_assoc, List.singleton_append, Prod.mk.injEq, true_and, and_true]
      omega

def pendingTables (rq : FlowStatsRequest) : List Table → Nat → Nat → List StatsRecord
  | [], _, _ => []
  | t :: ts, idx, pos =>
    if rq.tableId = allTables ∨ rq.tableId = idx then
      ((t.flows rq.ofMatch rq.outPort).drop pos).map (.flow idx) ++ pendingTables rq ts (idx + 1) 0
    else []

theorem iterateTables_flowStatsDumpCallback (rq : FlowStatsRequest) (c : Int) (ts : List Table)
    (idx pos : Nat) (used : Int) (recs : List StatsRecord) :
    let P := pendingTables rq ts idx pos
    let q := fitPrefix (c - used) P
    ∃ m pos', iterateTables rq (flowStatsDumpCallback c) ts idx pos (used, recs) =
        (if q.length = P.length then 0 else 1, idx + m, pos', used + extent q, recs ++ q) ∧
      (q.length < P.length → pendingTables rq (ts.drop m) (idx + m) pos' = P.drop q.length) := by
  induction ts generalizing idx pos used recs with
  | nil => exact ⟨0, pos, by simp [iterateTables, pendingTables, fitPrefix]⟩
  | cons t ts ih =>
    intro P q
    by_cases hsel : rq.tableId = allTables ∨ rq.tableId = idx
    swap
    · exact ⟨0, pos, by simp [P, q, iterateTables, pendingTables, hsel, fitPrefix]⟩
    have hP : P = ((t.flows rq.ofMatch rq.outPort).drop pos).map (.flow idx) ++
        pendingTables rq ts (idx + 1) 0 := by
      simp only [P, pendingTables, if_pos hsel]
    have hit := iterateFrom_flowStatsDumpCallback c idx
      ((t.flows rq.ofMatch rq.outPort).drop pos) pos used recs
    simp only [iterateTables, if_pos hsel, Table.iterate]
    generalize hF : (t.flows rq.ofMatch rq.outPort).drop pos = F at hP hit ⊢
    have hR : (F.map (StatsRecord.flow idx)).length = F.length := List.length_map _ _
    generalize hRF : F.map (StatsRecord.flow idx) = R at hP hit hR
    have hpre := fitPrefix_isPrefix (c - used) R
    by_cases hall : (fitPrefix (c - used) R).length = F.length
    · have hfit : fitPrefix (c - used) R = R := hpre.eq_of_length (hall.trans hR.symm)
      rw [if_pos hall, hfit] at hit
      obtain ⟨m, pos', h1, h2⟩ := ih (idx + 1) 0 (used + extent R) (recs ++ R)
      have hq : q = R ++ fitPrefix (c - (used + extent R)) (pendingTables rq ts (idx + 1) 0) := by
        simp only [q, hP, fitPrefix_append_of_eq hfit, Int.sub_sub]
      refine ⟨m + 1, pos', ?_, fun hlt => ?_⟩
      · simp only [hit, if_true, h1, hq, hP, List.length_append, Nat.add_left_cancel_iff,
          extent_append, List.append_assoc, Prod.mk.injEq, eq_self_iff_true, and_true, true_and]
        omega
      · simp only [hq, hP, List.length_append] at hlt
        rw [List.drop_succ_cons, ← Nat.add_assoc, Nat.add_right_comm, h2 (by omega), hq, hP,
          List.length_append, ← List.drop_drop, List.drop_left]
    · rw [if_neg hall] at hit
      have hq : q = fitPrefix (c - used) R := by
        simp only [q, hP]
        exact fitPrefix_append_of_ne (fun h => hall (by rw [h, hR])) _
      have hlt : (fitPrefix (c - used) R).length < R.length := by
        have := hpre.length_le
        omega
      refine ⟨0, pos + (fitPrefix (c - used) R).length, ?_, fun _ => ?_⟩
      · simp only [hit, hq, hP, List.length_append]
        rw [if_neg (by decide), if_neg (by omega), Nat.add_zero]
      · rw [List.drop_zero, Nat.add_zero, hq, hP, pendingTables, if_pos hsel, ← List.drop_drop, hF,
          List.map_drop, hRF, List.drop_append_of_le_length hlt.le]

def FlowStatsState.pending (chain : Chain) (s : FlowStatsState) : List StatsRecord :=
  if s.rq.tableId = emergTableIdForStats then
    ((chain.emergTable.flows s.rq.ofMatch s.rq.outPort).drop s.position).map (.flow s.tableIdx)
  else pendingTables s.rq (chain.tables.drop s.tableIdx) s.tableIdx s.position

theorem flowStatsDump_ret (q P : List StatsRecord) :
    (if (if q.length = P.length then (0 : Int) else 1) = 0 then 0
      else if extent q ≠ 0 then 1 else -enomem) =
      if q.length = P.length then 0 else if q = [] then -enomem else 1 := by
  by_cases hl : q.length = P.length
  · simp [hl]
  · simp only [hl, if_false, if_neg (by decide : (1 : Int) ≠ 0), ne_eq, extent_eq_zero_iff]
    by_cases hq : q = [] <;> simp [hq]

/-- A `flow_stats_dump` call writes the longest run of its pending records that fits. -/
theorem flowStatsDump_spec (chain : Chain) (s : FlowStatsState) (c : Int) :
    let P := s.pending chain
    let q := fitPrefix c P
    (flowStatsDump chain s c).1 =
        ⟨if q.length = P.length then 0 else if q = [] then -enomem else 1, q, extent q⟩ ∧
      (flowStatsDump chain s c).2.rq = s.rq ∧
      (q.length < P.length → (flowStatsDump chain s c).2.pending chain = P.drop q.length) := by
  intro P q
  by_cases he : s.rq.tableId = emergTableIdForStats
  · have hP : P = ((chain.emergTable.flows s.rq.ofMatch s.rq.outPort).drop s.position).map
        (.flow s.tableIdx) := by
      simp only [P, FlowStatsState.pending, if_pos he]
    have hit := iterateFrom_flowStatsDumpCallback c s.tableIdx
      ((chain.emergTable.flows s.rq.ofMatch s.rq.outPort).drop s.position) s.position 0 []
    rw [Int.sub_zero, ← hP, Int.zero_add, List.nil_append] at hit
    simp only [flowStatsDump, if_pos he, Table.iterate, hit]
    refine ⟨?_, trivial, fun _ => ?_⟩
    · rw [← List.length_map _ (StatsRecord.flow s.tableIdx), ← hP, flowStatsDump_ret]
    · rw [List.map_drop] at hP
      simp only [FlowStatsState.pending, if_pos he, List.map_drop, ← List.drop_drop, ← hP]
  · obtain ⟨m, pos', h1, h2⟩ := iterateTables_flowStatsDumpCallback s.rq c
      (chain.tables.drop s.tableIdx) s.tableIdx s.position 0 []
    have hP : P = pendingTables s.rq (chain.tables.drop s.tableIdx) s.tableIdx s.position := by
      simp only [P, FlowStatsState.pending, if_neg he]
    simp only [Int.sub_zero, ← hP, Int.zero_add, List.nil_append] at h1 h2
    simp only [flowStatsDump, if_neg he, h1]
    refine ⟨by rw [flowStatsDump_ret], trivial, fun hlt => ?_⟩
    rw [List.drop_drop] at h2
    simp only [FlowStatsState.pending, if_neg he, h2 hlt]

def portRecord (s : Sys) (p : PortRef) : Option StatsRecord :=
  (s.portHeap p).map fun port => .port port.portNo port.dev

theorem dumpPortStats_eq (s : Sys) (p : PortRef) : dumpPortStats s p = deref (portRecord s p) := by
  unfold dumpPortStats portRecord
  cases s.portHeap p <;> rfl

def slotRecords (s : Sys) (dp : Datapath) (i n : Nat) : List StatsRecord :=
  (List.range' i n).filterMap fun j => (dp.ports j).bind (portRecord s)

theorem slotRecords_succ (s : Sys) (dp : Datapath) (i n : Nat) :
    slotRecords s dp i (n + 1) = ((dp.ports i).bind (portRecord s)).toList ++ slotRecords s dp (i + 1) n := by
  simp only [slotRecords, List.range'_succ, List.filterMap_cons]
  cases (dp.ports i).bind (portRecord s) <;> rfl

theorem portStatsDump_bodyLen {s : Sys} {dp : Datapath} {st st' : PortStatsState} {c : Int}
    {d : Dumped} (h : portStatsDump s dp st c = .ok (d, st')) :
    d.bodyLen = c ∨ d.bodyLen = d.records.length * portStatsSize := by
  by_cases hm : portMaxPorts c = 0
  · simp only [portStatsDump, hm, if_true, pure, Except.pure, Except.ok.injEq, Prod.mk.injEq] at h
    rw [← h.1]
    exact .inl rfl
  · simp only [portStatsDump, hm, if_false, bind, Except.bind, pure, Except.pure] at h
    right
    repeat' split at h
    all_goals cases h <;> rfl

section PortLoop

variable {s : Sys} {dp : Datapath}

def SlotsAllocated (s : Sys) (dp : Datapath) : Prop :=
  ∀ j p, dp.ports j = some p → (portRecord s p).isSome

theorem portStatsLoop_eq (hs : SlotsAllocated s dp) (maxPorts : Int) :
    ∀ n i (ops : List StatsRecord), n = dpMaxPorts - i → ∃ i',
      portStatsLoop s dp maxPorts n i ops =
        .ok (ops ++ (slotRecords s dp i n).take (maxPorts - ops.length).toNat, i') := by
  intro n
  induction n with
  | zero => exact fun i ops _ => ⟨i, by simp [portStatsLoop, slotRecords]⟩
  | succ n ih =>
    intro i ops hn
    rw [portStatsLoop, slotRecords_succ]
    by_cases hfull : (ops.length : Int) < maxPorts
    · rw [if_pos ⟨by omega, hfull⟩]
      cases hp : dp.ports i with
      | none => simpa using ih (i + 1) ops (by omega)
      | some p =>
        obtain ⟨r, hr⟩ := Option.isSome_iff_exists.1 (hs i p hp)
        obtain ⟨i', h⟩ := ih (i + 1) (ops ++ [r]) (by omega)
        refine ⟨i', ?_⟩
        simp only [dumpPortStats_eq, hr, Option.some_bind, deref_some, ok_bind, h,
          List.length_append, List.length_singleton, Option.toList_some, List.singleton_append,
          List.append_assoc]
        rw [List.take_cons (by omega),
          show (maxPorts - ↑(ops.length + 1)).toNat = (maxPorts - ↑ops.length).toNat - 1 by omega]
    · rw [if_neg (fun h => hfull h.2)]
      exact ⟨i, by rw [show (maxPorts - ops.length).toNat = 0 by omega]; simp⟩

theorem portMaxPorts_of_nonneg {c : Int} (h0 : 0 ≤ c) (h1 : c < 2 ^ 31) :
    portMaxPorts c = c / portStatsSize := by
  unfold portMaxPorts portStatsSize
  rw [Int.emod_eq_of_lt h0 (by omega), Int.bmod_pos _ _ (by omega)]
  omega

variable {st : PortStatsState} {c : Int}

/-- An `OFPP_NONE` dump writes up to `max_ports` slot records, then the local port's regardless. -/
theorem portStatsDump_none (hs : SlotsAllocated s dp) {lp : PortRef} {lr : StatsRecord}
    (hlp : dp.localPort = some lp) (hlr : portRecord s lp = some lr)
    (hst : st.portNo = ofppNone) (hm : portMaxPorts c ≠ 0) :
    let ops := (slotRecords s dp st.startPort (dpMaxPorts - st.startPort)).take
      (portMaxPorts c).toNat ++ [lr]
    portStatsDump s dp st c =
      .ok (⟨if (ops.length : Int) ≥ portMaxPorts c then 1 else 0, ops, ops.length * portStatsSize⟩,
        { st with startPort := ofppLocal + 1 }) := by
  obtain ⟨i', h⟩ := portStatsLoop_eq hs (portMaxPorts c) _ st.startPort [] rfl
  simp only [List.length_nil, Int.natCast_zero, Int.sub_zero, List.nil_append] at h
  simp only [portStatsDump, if_neg hm, if_pos hst, h, hlp, dumpPortStats_eq, hlr, deref_some]
  rfl

theorem portStatsDump_lookup (hst : st.portNo ≠ ofppNone) (hm : portMaxPorts c ≠ 0)
    (hp : ∀ p, lookupPort dp st.portNo = some p → (portRecord s p).isSome) :
    let ops := ((lookupPort dp st.portNo).bind (portRecord s)).toList
    portStatsDump s dp st c =
      .ok (⟨if (ops.length : Int) ≥ portMaxPorts c then 1 else 0, ops, ops.length * portStatsSize⟩,
        st) := by
  simp only [portStatsDump, if_neg hm, if_neg hst]
  cases hl : lookupPort dp st.portNo with
  | none => rfl
  | some p =>
    obtain ⟨r, hr⟩ := Option.isSome_iff_exists.1 (hp p hl)
    simp only [dumpPortStats_eq, hr, deref_some, Option.some_bind, Option.toList_some]
    rfl

structure PortsAllocated (s : Sys) (dp : Datapath) : Prop where
  slots : SlotsAllocated s dp
  localPort : ∃ lp r, dp.localPort = some lp ∧ portRecord s lp = some r

theorem portRecord_size {p : PortRef} {r : StatsRecord} (h : portRecord s p = some r) :
    r.size = portStatsSize := by
  unfold portRecord at h
  cases hp : s.portHeap p <;> simp only [hp, Option.map_none', Option.map_some',
    Option.some.injEq, reduceCtorEq] at h
  rw [← h]
  rfl

theorem extent_of_size {rs : List StatsRecord} {k : Nat} (h : ∀ r ∈ rs, r.size = k) :
    extent rs = rs.length * k := by
  induction rs with
  | nil => simp
  | cons r rs ih =>
    rw [extent_cons, h r (List.mem_cons_self r rs), ih fun r hr => h r (List.mem_cons_of_mem _ hr),
      List.length_cons, Int.natCast_add, Int.add_mul]
    omega

theorem slotRecords_size {i n : Nat} {r : StatsRecord} (h : r ∈ slotRecords s dp i n) :
    r.size = portStatsSize := by
  obtain ⟨j, -, hj⟩ := List.mem_filterMap.1 h
  obtain ⟨p, -, hp⟩ := Option.bind_eq_some.1 hj
  exact portRecord_size hp

/-- A port dump stays in `body[0, c)` exactly when it writes at most `max_ports` records. -/
theorem portStatsDump_within_iff (hp : PortsAllocated s dp) (hc : 0 ≤ c) (hc' : c < 2 ^ 31)
    {d : Dumped} {st' : PortStatsState} (h : portStatsDump s dp st c = .ok (d, st')) :
    d.Within c ↔ (d.records.length : Int) ≤ portMaxPorts c := by
  by_cases hm : portMaxPorts c = 0
  · simp only [portStatsDump, hm, if_true, pure, Except.pure, Except.ok.injEq, Prod.mk.injEq] at h
    rw [← h.1, hm]
    exact ⟨fun _ => by simp, fun _ => Dumped.within_untouched hc _⟩
  have hd : (∀ r ∈ d.records, r.size = portStatsSize) ∧
      d.bodyLen = d.records.length * portStatsSize := by
    by_cases hst : st.portNo = ofppNone
    · obtain ⟨lp, lr, hlp, hlr⟩ := hp.localPort
      rw [portStatsDump_none hp.slots hlp hlr hst hm] at h
      cases h
      refine ⟨fun r hr => ?_, rfl⟩
      rcases List.mem_append.1 hr with hr | hr
      · exact slotRecords_size (List.mem_of_mem_take hr)
      · rw [List.mem_singleton.1 hr]
        exact portRecord_size hlr
    · have hlk : ∀ p, lookupPort dp st.portNo = some p → (portRecord s p).isSome := by
        intro p hl
        unfold lookupPort at hl
        split at hl
        · exact hp.slots _ _ hl
        · split at hl
          · obtain ⟨lp, lr, hlp, hlr⟩ := hp.localPort
            rw [hlp, Option.some.injEq] at hl
            rw [← hl, hlr]
            rfl
          · cases hl
      rw [portStatsDump_lookup hst hm hlk] at h
      cases h
      refine ⟨fun r hr => ?_, rfl⟩
      obtain ⟨p, -, hr⟩ := Option.bind_eq_some.1 (Option.mem_toList.1 hr)
      exact portRecord_size hr
  have hext := extent_of_size hd.1
  rw [portMaxPorts_of_nonneg hc hc']
  simp only [portStatsSize] at hext hd ⊢
  exact ⟨fun hw => by have := hw.bodyLen_le; omega, fun hn => ⟨by omega, by omega, by omega⟩⟩

theorem portStatsDump_none_overruns (hp : PortsAllocated s dp) (hc : (portStatsSize : Int) ≤ c)
    (hc' : c < 2 ^ 31) (hk : c / portStatsSize ≤ (slotRecords s dp 1 (dpMaxPorts - 1)).length) :
    ∃ d st', portStatsDump s dp (portStatsInit ofppNone) c = .ok (d, st') ∧ d.ret = 1 ∧
      c < d.bodyLen ∧ ¬d.Within c := by
  obtain ⟨lp, lr, hlp, hlr⟩ := hp.localPort
  have hm : portMaxPorts c = c / 104 := portMaxPorts_of_nonneg (by omega) hc'
  simp only [portStatsSize] at hc hk
  have h := portStatsDump_none (c := c) hp.slots hlp hlr
    (show (portStatsInit ofppNone).portNo = ofppNone from rfl)
    (by rw [hm]; omega)
  simp only [portStatsInit, hm, portStatsSize] at h
  -- the body takes `c / 104` records from the slots, and the local port's comes on top
  have hlen : (((slotRecords s dp 1 (dpMaxPorts - 1)).take (c / 104).toNat ++ [lr]).length : Int) =
      c / 104 + 1 := by
    rw [List.length_append, List.length_take, List.length_singleton]
    omega
  refine ⟨_, _, h, ?_, ?_, fun hd => ?_⟩
  · dsimp only
    rw [hlen, if_pos (by omega)]
  · dsimp only
    rw [hlen]
    omega
  · have := (portStatsDump_within_iff hp (by omega) hc' h).1 hd
    dsimp only at this
    rw [hlen, hm] at this
    omega

end PortLoop

section Within

variable {c : Int}

theorem descStatsDump_within (hc : 0 ≤ c) : (descStatsDump c).Within c := by
  unfold descStatsDump
  split
  · exact Dumped.within_untouched hc _
  · constructor <;> simp only [extent_cons, extent_nil, StatsRecord.size] <;> omega

theorem flowStatsDump_within (hc : 0 ≤ c) (chain : Chain) (s : FlowStatsState) :
    (flowStatsDump chain s c).1.Within c := by
  rw [(flowStatsDump_spec chain s c).1]
  exact ⟨extent_fitPrefix_le hc _, extent_nonneg _, extent_fitPrefix_le hc _⟩

theorem aggregateStatsDump_within (hc : 0 ≤ c) (chain : Chain) (rq : FlowStatsRequest) :
    (aggregateStatsDump chain rq c).Within c := by
  unfold aggregateStatsDump
  split
  · exact Dumped.within_untouched hc _
  · constructor <;> simp only [extent_cons, extent_nil, StatsRecord.size] <;> omega

theorem extent_map_table (n : Nat) :
    extent ((List.range n).map StatsRecord.table) = n * tableStatsSize := by
  induction n with
  | zero => rfl
  | succ n ih =>
    rw [List.range_succ, List.map_append, extent_append, ih]
    simp only [List.map_cons, List.map_nil, extent_cons, extent_nil, StatsRecord.size,
      tableStatsSize]
    omega

theorem tableStatsDump_within (hc : 0 ≤ c) (chain : Chain) : (tableStatsDump chain c).Within c := by
  dsimp only [tableStatsDump]
  split
  · exact Dumped.within_untouched hc _
  · exact ⟨by rw [extent_map_table]; omega, by dsimp only [tableStatsSize]; omega, by dsimp only; omega⟩

theorem vendorStatsDump_within (hc : 0 ≤ c) {vendor : Option Nat} {d : Dumped}
    (h : vendorStatsDump vendor c = .ok d) : d.Within c := by
  cases vendor with
  | none => cases h
  | some v =>
    cases h
    exact Dumped.within_untouched hc _

end Within

end OpenflowDatapath
