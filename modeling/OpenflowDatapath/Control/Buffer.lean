import OpenflowDatapath.Netlink.Message

/-! # The bytes of a message

The data area of a socket buffer byte by byte, before and after the stores a message
builder makes into it. A builder is the list of its stores, each a run of bytes at an offset;
what the controller receives is the bytes `[0, length)` of the area after all of them. A byte
that no store covers keeps what the area held before: `genlmsg_new` does not clear it.
-/

namespace OpenflowDatapath

/-- The data area of a buffer. -/
abbrev Buf := Nat → UInt8

/-- A store of `bytes` at offset `off`. -/
structure Write where
  off : Nat
  bytes : List UInt8

def Write.span (w : Write) : Nat × Nat := (w.off, w.bytes.length)

def coveredBy (spans : List (Nat × Nat)) (k : Nat) : Bool :=
  spans.any fun sp => sp.1 ≤ k && k < sp.1 + sp.2

theorem coveredBy_cons (sp : Nat × Nat) (sps : List (Nat × Nat)) (k : Nat) :
    coveredBy (sp :: sps) k = ((sp.1 ≤ k && k < sp.1 + sp.2) || coveredBy sps k) := rfl

def Buf.write (b : Buf) (w : Write) : Buf := fun k =>
  if w.off ≤ k ∧ k < w.off + w.bytes.length then w.bytes.getD (k - w.off) 0 else b k

def Buf.writeAll (b : Buf) (ws : List Write) : Buf := ws.foldl Buf.write b

def Buf.read (b : Buf) (n : Nat) : List UInt8 := (List.range n).map b

/-- `v` in `w` bytes, most significant first, as `htons`, `htonl` and `cpu_to_be64` store it. -/
def be : Nat → Nat → List UInt8
  | 0, _ => []
  | w + 1, v => be w (v / 256) ++ [UInt8.ofNat (v % 256)]

@[simp] theorem be_length (w v : Nat) : (be w v).length = w := by
  induction w generalizing v with
  | zero => rfl
  | succ w ih => simp [be, ih]

theorem writeAll_of_not_covered (ws : List Write) {k : Nat}
    (hk : coveredBy (ws.map Write.span) k = false) (b : Buf) : b.writeAll ws k = b k := by
  induction ws generalizing b with
  | nil => rfl
  | cons w ws ih =>
    rw [List.map_cons, coveredBy_cons, Bool.or_eq_false_iff] at hk
    rw [Buf.writeAll, List.foldl_cons, ← Buf.writeAll, ih hk.2, Buf.write, if_neg]
    simpa [Write.span] using hk.1

theorem writeAll_of_covered (ws : List Write) {k : Nat}
    (hk : coveredBy (ws.map Write.span) k = true) (b b' : Buf) :
    b.writeAll ws k = b'.writeAll ws k := by
  induction ws generalizing b b' with
  | nil => cases hk
  | cons w ws ih =>
    show (b.write w).writeAll ws k = (b'.write w).writeAll ws k
    by_cases hrest : coveredBy (ws.map Write.span) k = true
    · exact ih hrest _ _
    · rw [Bool.not_eq_true] at hrest
      rw [writeAll_of_not_covered ws hrest, writeAll_of_not_covered ws hrest]
      rw [List.map_cons, coveredBy_cons, hrest, Bool.or_false] at hk
      have hw : w.off ≤ k ∧ k < w.off + w.bytes.length := by simpa [Write.span] using hk
      simp only [Buf.write, if_pos hw]

/-- Two areas read alike after the stores exactly when they agree where no store writes. -/
theorem read_writeAll_eq_iff (ws : List Write) (n : Nat) (b b' : Buf) :
    (b.writeAll ws).read n = (b'.writeAll ws).read n ↔
      ∀ k < n, coveredBy (ws.map Write.span) k = false → b k = b' k := by
  simp only [Buf.read, List.map_inj_left, List.mem_range]
  constructor
  · intro h k hk hc
    rw [← writeAll_of_not_covered ws hc b, ← writeAll_of_not_covered ws hc b']
    exact h k hk
  · intro h k hk
    cases hc : coveredBy (ws.map Write.span) k
    · rw [writeAll_of_not_covered ws hc, writeAll_of_not_covered ws hc]
      exact h k hk hc
    · exact writeAll_of_covered ws hc b b'

end OpenflowDatapath
