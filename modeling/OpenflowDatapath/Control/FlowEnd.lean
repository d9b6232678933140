import OpenflowDatapath.Control.Buffer

/-! # Flow durations and `FLOW_REMOVED`

How `dp_send_flow_end` and `flow_stats_dump_callback` turn a flow's age in jiffies into the
`duration_sec` and `duration_nsec` they report, and which bytes of the `FLOW_REMOVED` message
`dp_send_flow_end` stores. `HZ`, a kernel configuration constant, is a parameter, and so are
the values `get_jiffies_64()` returns.
-/

namespace OpenflowDatapath

def ofptFlowRemoved : Nat := 11

def flowRemovedSize : Nat := 88

/-- `jiffies_64_to_secs`: `do_div` by `HZ`, and the quotient returned as a `u32`. -/
def jiffies64ToSecs (hz j : Nat) : Nat := j / hz % 2 ^ 32

/-- `jiffies_64_to_nsecs`: `j` less `jiffies_64_to_secs(j)`, as a `u32`. -/
def jiffies64ToNsecs (hz j : Nat) : Nat := (j - jiffies64ToSecs hz j) % 2 ^ 32

def jiffiesSince (now created : Nat) : Nat := (now + 2 ^ 64 - created) % 2 ^ 64

/-- What `flow_stats_dump_callback` reports: the age `do_div` by `HZ`, then both conversions. -/
def flowStatsDuration (hz now created : Nat) : Nat × Nat :=
  let duration := jiffiesSince now created / hz
  (jiffies64ToSecs hz duration, jiffies64ToNsecs hz duration)

/-- What `dp_send_flow_end` reports: each conversion on its own clock read. -/
def flowEndDuration (hz now₁ now₂ created : Nat) : Nat × Nat :=
  (jiffies64ToSecs hz (jiffiesSince now₁ created), jiffies64ToNsecs hz (jiffiesSince now₂ created))

/-- The duration of `e` jiffies as the spec words it: seconds, then the rest in nanoseconds. -/
def specDuration (hz e : Nat) : Nat × Nat := (e / hz % 2 ^ 32, e % hz * (10 ^ 9 / hz))

theorem jiffiesSince_of_le {now created : Nat} (h : created ≤ now) (hnow : now < 2 ^ 64) :
    jiffiesSince now created = now - created := by
  unfold jiffiesSince
  rw [show now + 2 ^ 64 - created = now - created + 2 ^ 64 by omega, Nat.add_mod_right,
    Nat.mod_eq_of_lt (by omega)]

theorem flowEndDuration_same_read {hz now created : Nat} (h : created ≤ now) (hnow : now < 2 ^ 64)
    (hfit : now - created < 2 ^ 32) :
    flowEndDuration hz now now created =
      ((now - created) / hz, now - created - (now - created) / hz) := by
  simp only [flowEndDuration, jiffies64ToSecs, jiffies64ToNsecs, jiffiesSince_of_le h hnow]
  have hd := Nat.div_le_self (now - created) hz
  generalize (now - created) / hz = d at hd ⊢
  rw [Nat.mod_eq_of_lt (by omega), Nat.mod_eq_of_lt (by omega)]

theorem flowStatsDuration_eq {hz now created : Nat} (h : created ≤ now) (hnow : now < 2 ^ 64)
    (hfit : (now - created) / hz < 2 ^ 32) :
    flowStatsDuration hz now created =
      ((now - created) / hz / hz, (now - created) / hz - (now - created) / hz / hz) := by
  simp only [flowStatsDuration, jiffies64ToSecs, jiffies64ToNsecs, jiffiesSince_of_le h hnow]
  have hd := Nat.div_le_self ((now - created) / hz) hz
  generalize (now - created) / hz / hz = d at hd ⊢
  rw [Nat.mod_eq_of_lt (by omega), Nat.mod_eq_of_lt (by omega)]

/-- At `HZ = 1000` and 1500 jiffies the spec, `dp_send_flow_end` and the stats dump all differ. -/
theorem flow_durations_diverge :
    specDuration 1000 1500 = (1, 500000000) ∧ flowEndDuration 1000 1500 1500 0 = (1, 1499) ∧
      flowStatsDuration 1000 1500 0 = (0, 1) := by
  refine ⟨rfl, ?_, ?_⟩
  · rw [flowEndDuration_same_read (Nat.zero_le _) (by norm_num) (by norm_num)]
  · rw [flowStatsDuration_eq (Nat.zero_le _) (by norm_num) (by norm_num)]

structure SwFlow where
  key : List UInt8
  priority : Nat
  idleTimeout : Nat
  packetCount : Nat
  byteCount : Nat
  created : Nat
  sendFlowRem : Bool
  emergFlow : Bool

/-- Modelled from the spec: `flow_fill_match` (flow.c) stores the key as `struct ofp_match`. -/
def flowFillMatch (f : SwFlow) : List UInt8 := (f.key ++ List.replicate 40 0).take 40

@[simp] theorem flowFillMatch_length (f : SwFlow) : (flowFillMatch f).length = 40 := by
  simp [flowFillMatch]

def flowRemovedWrites (m : NlMsg) (f : SwFlow) (reason : Nat) (dur : Nat × Nat) : List Write :=
  [⟨0, [UInt8.ofNat m.ofVersion]⟩, ⟨1, [UInt8.ofNat m.ofType]⟩, ⟨4, be 4 m.ofXid⟩,
    ⟨2, be 2 m.ofLength⟩,
    ⟨8, flowFillMatch f⟩,
    ⟨56, be 2 f.priority⟩, ⟨58, [UInt8.ofNat reason]⟩,
    ⟨60, be 4 dur.1⟩, ⟨64, be 4 dur.2⟩,
    ⟨68, be 2 f.idleTimeout⟩,
    ⟨72, be 8 f.packetCount⟩, ⟨80, be 8 f.byteCount⟩]

/-- `dp_send_flow_end`, given `HZ`, its two clock reads and what the buffer held before. -/
def dpSendFlowEnd (hz dpIdx : Nat) (f : SwFlow) (reason now₁ now₂ : Nat) (room : Option Int)
    (sendRet : Int) (prior : Buf) : K (Int × Option (List UInt8)) := do
  if !f.sendFlowRem then return (0, none)
  if f.emergFlow then return (0, none)
  match ← allocOpenflowSkb dpIdx flowRemovedSize ofptFlowRemoved none room with
  | none => return (-enomem, none)
  | some m =>
    let ws := flowRemovedWrites m f reason (flowEndDuration hz now₁ now₂ f.created)
    return (sendRet, some ((prior.writeAll ws).read flowRemovedSize))

def flowRemovedHoles : List Nat := List.range' 48 8 ++ [59, 70, 71]

theorem flowRemovedWrites_spans (m : NlMsg) (f : SwFlow) (reason : Nat) (dur : Nat × Nat) :
    (flowRemovedWrites m f reason dur).map Write.span =
      [(0, 1), (1, 1), (4, 4), (2, 2), (8, 40), (56, 2), (58, 1), (60, 4), (64, 4), (68, 2),
        (72, 8), (80, 8)] := by
  simp [flowRemovedWrites, Write.span]

theorem flowRemoved_uncovered_iff (P : Nat → Prop) :
    (∀ k < flowRemovedSize, coveredBy [(0, 1), (1, 1), (4, 4), (2, 2), (8, 40), (56, 2), (58, 1),
      (60, 4), (64, 4), (68, 2), (72, 8), (80, 8)] k = false → P k) ↔
      ∀ k ∈ flowRemovedHoles, P k := by
  have hcov : ∀ k < flowRemovedSize, coveredBy [(0, 1), (1, 1), (4, 4), (2, 2), (8, 40), (56, 2),
      (58, 1), (60, 4), (64, 4), (68, 2), (72, 8), (80, 8)] k = false ↔ k ∈ flowRemovedHoles := by
    decide
  have hlt : ∀ k ∈ flowRemovedHoles, k < flowRemovedSize := by decide
  exact ⟨fun h k hk => h k (hlt k hk) ((hcov k (hlt k hk)).2 hk),
    fun h k hk hc => h k ((hcov k hk).1 hc)⟩

/-- A `FLOW_REMOVED` carries the buffer's old bytes at `cookie`, `pad` and `pad2`, only there. -/
theorem dpSendFlowEnd_eq_iff_holes {hz dpIdx reason now₁ now₂ : Nat} {f : SwFlow}
    {room : Option Int} {sendRet : Int} {m : NlMsg} (hsend : f.sendFlowRem = true)
    (hemerg : f.emergFlow = false)
    (halloc : allocOpenflowSkb dpIdx flowRemovedSize ofptFlowRemoved none room = .ok (some m))
    (p₁ p₂ : Buf) :
    dpSendFlowEnd hz dpIdx f reason now₁ now₂ room sendRet p₁ =
        dpSendFlowEnd hz dpIdx f reason now₁ now₂ room sendRet p₂ ↔
      ∀ k ∈ flowRemovedHoles, p₁ k = p₂ k := by
  simp only [dpSendFlowEnd, hsend, hemerg, halloc, Bool.not_true, Bool.false_eq_true, if_false,
    ok_bind, pure, Except.pure, Except.ok.injEq, Prod.mk.injEq, true_and, Option.some.injEq]
  rw [read_writeAll_eq_iff, flowRemovedWrites_spans, flowRemoved_uncovered_iff]

def demoFlow : SwFlow := ⟨[], 0x8000, 60, 0, 0, 0, true, false⟩

theorem flowEnd_holes_demo :
    demoFlow.sendFlowRem = true ∧ demoFlow.emergFlow = false ∧
    (∃ m, allocOpenflowSkb 0 flowRemovedSize ofptFlowRemoved none (some 140) = .ok (some m)) ∧
    dpSendFlowEnd 1000 0 demoFlow 0 1500 1500 (some 140) 0 (fun _ => 0) ≠
      dpSendFlowEnd 1000 0 demoFlow 0 1500 1500 (some 140) 0 (fun _ => 255) :=
  ⟨rfl, rfl, ⟨_, rfl⟩, fun h =>
    absurd ((dpSendFlowEnd_eq_iff_holes (by rfl) (by rfl) (by rfl) _ _).1 h 48 (by decide))
      (by decide)⟩

end OpenflowDatapath
