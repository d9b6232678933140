import OpenflowDatapath.Admin.Tables
import OpenflowDatapath.Control.Messages

/-! # Resolving and querying a datapath

`lookup_dp` resolves the datapath that an administrative request names by its index, by the
name of its local device, or by both. On every reachable state it resolves the first published
datapath, in index order, whose index and name agree with every attribute the request gives,
and it fails with `-ENOENT` or `-EINVAL` exactly when there is none (`lookupDp_spec`);
`dp_genl_query` then reports that datapath's index, its device's name and its multicast group
(`dpGenlQuery_reports`). A name is a string here, so the `-EINVAL` that `VERIFY_NUL_STRING`
gives an attribute without its terminating NUL is left out.
-/

namespace OpenflowDatapath

def PublishedAs (s : Sys) (i : Nat) (name : String) : Prop :=
  ∃ a dp d dev, s.dps i = some a ∧ s.dpHeap a = some dp ∧ dp.netdev = some d ∧
    s.devs d = some dev ∧ dev.name = name

/-- Request `attrs` gives index `i` or name `name` or both, and only these; -1 is no index. -/
def Attrs.Names (attrs : Attrs) (i : Nat) (name : String) : Prop :=
  (attrs.idx ≠ -1 ∨ attrs.dpName.isSome) ∧ (attrs.idx ≠ -1 → attrs.idx = i) ∧
    ∀ n, attrs.dpName = some n → n = name

/-- The datapath at index `i` is the first, in index order, that request `attrs` names. -/
def FirstNamed (s : Sys) (attrs : Attrs) (i : Nat) : Prop :=
  (∃ name, PublishedAs s i name ∧ attrs.Names i name) ∧
    ∀ j < i, ∀ n, PublishedAs s j n → ¬attrs.Names j n

def NoneNamed (s : Sys) (attrs : Attrs) : Prop :=
  ∀ i n, PublishedAs s i n → ¬attrs.Names i n

structure QueryReply where
  dpIdx : Nat
  dpName : String
  mcGroup : Nat
  deriving DecidableEq, Repr

/-- `dp_genl_query`; a `NLMSG_DEFAULT_SIZE` buffer always holds the reply. -/
def dpGenlQuery (s : Sys) (mcGroupIds : Nat → Nat) (alloc : Bool) (replyRet : Int)
    (attrs : Attrs) : K (Int × Option QueryReply) := do
  match ← lookupDp s attrs with
  | .error e => return (e, none)
  | .ok a =>
    if !alloc then return (-enomem, none)
    let dp ← deref (s.dpHeap a)
    let name ← netdevName s a
    return (replyRet, some ⟨dp.dpIdx, name, dpMcGroup mcGroupIds dp.dpIdx⟩)

variable {s : Sys}

theorem netdevName_eq_ok {a : DpRef} {name : String} :
    netdevName s a = .ok name ↔ ∃ dp d dev, s.dpHeap a = some dp ∧ dp.netdev = some d ∧
      s.devs d = some dev ∧ dev.name = name := by
  simp only [netdevName, bind_eq_ok, deref_eq_ok, pure_eq_ok, exists_and_left]

theorem publishedAs_iff {i : Nat} {name : String} :
    PublishedAs s i name ↔ ∃ a, s.dps i = some a ∧ netdevName s a = .ok name := by
  simp only [PublishedAs, netdevName_eq_ok, exists_and_left]

theorem PublishedAs.unique {i : Nat} {n m : String} (hn : PublishedAs s i n)
    (hm : PublishedAs s i m) : n = m := by
  obtain ⟨a, ha, hna⟩ := publishedAs_iff.1 hn
  obtain ⟨b, hb, hmb⟩ := publishedAs_iff.1 hm
  obtain rfl := Option.some.inj (ha.symm.trans hb)
  exact Except.ok.inj (hna.symm.trans hmb)

theorem Inv.published_named (hs : Inv s) {i : Nat} {a : DpRef} (hi : s.dps i = some a) :
    ∃ dp name, s.dpHeap a = some dp ∧ dp.dpIdx = i ∧ netdevName s a = .ok name := by
  obtain ⟨dp, hdp, hidx⟩ := hs.dpsIdx i a hi
  obtain ⟨d, hd, hdev⟩ := (hs.wf i a dp hi hdp).netdev
  obtain ⟨dev, hdev, -⟩ := Sys.devAt_eq_some.1 hdev
  exact ⟨dp, dev.name, hdp, hidx, netdevName_eq_ok.2 ⟨dp, d, dev, hdp, hd, hdev, rfl⟩⟩

theorem Inv.publishedAs_lt (hs : Inv s) {i : Nat} {name : String} (h : PublishedAs s i name) :
    i < dpMax := by
  obtain ⟨a, ha, -⟩ := publishedAs_iff.1 h
  by_contra hge
  rw [hs.dpsRange i (Nat.not_lt.1 hge)] at ha
  cases ha

section Search

variable {α β : Type}

theorem findSomeM?_eq_ok_findSome? {f : α → K (Option β)} {g : α → Option β} :
    ∀ {l : List α}, (∀ x ∈ l, f x = .ok (g x)) → l.findSomeM? f = .ok (l.findSome? g)
  | [], _ => rfl
  | x :: l, h => by
    have hl := findSomeM?_eq_ok_findSome? fun y hy => h y (List.mem_cons_of_mem x hy)
    simp only [List.findSomeM?, h x (List.mem_cons_self x l), ok_bind, List.findSome?]
    cases g x <;> simp [hl]

theorem findSome?_range_eq_some {g : Nat → Option β} {b : β} :
    ∀ {n : Nat}, (List.range n).findSome? g = some b →
      ∃ i < n, g i = some b ∧ ∀ j < i, g j = none
  | 0, h => by simp at h
  | n + 1, h => by
    rw [List.range_succ, List.findSome?_append] at h
    cases hn : (List.range n).findSome? g with
    | some c =>
      rw [hn, Option.or_some] at h
      obtain ⟨i, hi, hgi, hj⟩ := findSome?_range_eq_some (hn.trans h)
      exact ⟨i, by omega, hgi, hj⟩
    | none =>
      rw [hn, Option.none_or, List.findSome?_cons, List.findSome?_nil] at h
      have hj := List.findSome?_eq_none_iff.1 hn
      refine ⟨n, by omega, ?_, fun j hj' => hj j (List.mem_range.2 hj')⟩
      cases hgn : g n <;> simp_all

end Search

theorem dpGetByName_spec (hs : Inv s) (name : String) :
    ∃ r, dpGetByName s name = .ok r ∧
      match r with
      | some a => ∃ i, s.dps i = some a ∧ PublishedAs s i name ∧
          ∀ j < i, ¬PublishedAs s j name
      | none => ∀ i, ¬PublishedAs s i name := by
  -- the probe of index `i`, once every published device's name is known to be readable
  let g : Nat → Option DpRef := fun i =>
    match s.dps i with
    | none => none
    | some a =>
      match netdevName s a with
      | .ok m => if m = name then some a else none
      | .error _ => none
  have hg : ∀ i a, g i = some a ↔ s.dps i = some a ∧ netdevName s a = .ok name := fun i a => by
    simp only [g]
    cases s.dps i with
    | none => simp
    | some b =>
      constructor
      · intro h
        cases hn : netdevName s b with
        | error e => simp [hn] at h
        | ok m =>
          simp only [hn] at h
          split_ifs at h with hm
          cases h
          exact ⟨rfl, hm ▸ hn⟩
      · rintro ⟨h, hn⟩
        cases h
        simp [hn]
  have hnone : ∀ i, g i = none → ¬PublishedAs s i name := fun i hi hpub => by
    obtain ⟨b, hb⟩ := publishedAs_iff.1 hpub
    rw [(hg i b).2 hb] at hi
    cases hi
  have hf : dpGetByName s name = .ok ((List.range dpMax).findSome? g) := by
    refine findSomeM?_eq_ok_findSome? fun i _ => ?_
    simp only [g]
    cases hd : s.dps i with
    | none => rfl
    | some a =>
      obtain ⟨-, m, -, -, hm⟩ := hs.published_named hd
      simp [hm]
  refine ⟨_, hf, ?_⟩
  cases hr : (List.range dpMax).findSome? g with
  | some a =>
    obtain ⟨i, -, hgi, hj⟩ := findSome?_range_eq_some hr
    obtain ⟨hi, hn⟩ := (hg i a).1 hgi
    exact ⟨i, hi, publishedAs_iff.2 ⟨a, hi, hn⟩, fun j hji => hnone j (hj j hji)⟩
  | none =>
    exact fun i hi =>
      hnone i (List.findSome?_eq_none_iff.1 hr i (List.mem_range.2 (hs.publishedAs_lt hi))) hi

theorem lookupDp_spec_idx (hs : Inv s) {attrs : Attrs} (hidx : attrs.idx ≠ -1) :
    ∃ r, lookupDp s attrs = .ok r ∧
      match r with
      | .ok a => ∃ i, s.dps i = some a ∧ FirstNamed s attrs i
      | .error e => (e = -enoent ∨ e = -einval) ∧ NoneNamed s attrs := by
  -- a request with an index names only the datapath at that index
  have hat : ∀ j n, attrs.Names j n → attrs.idx = j := fun j n h => h.2.1 hidx
  simp only [lookupDp, if_pos hidx]
  cases hb : dpGetByIdx s attrs.idx with
  | none =>
    refine ⟨_, rfl, .inl rfl, fun j n hj hn => ?_⟩
    obtain ⟨a, ha, -⟩ := publishedAs_iff.1 hj
    have hlt := hs.publishedAs_lt hj
    rw [hat j n hn, dpGetByIdx, if_neg (by omega)] at hb
    simp [ha] at hb
  | some a =>
    have ha := dpGetByIdx_eq_some hb
    have hpos : 0 ≤ attrs.idx := by
      unfold dpGetByIdx at hb
      split at hb
      · cases hb
      · omega
    set i := attrs.idx.toNat with hi
    have hie : attrs.idx = i := by omega
    obtain ⟨-, m, -, -, hm⟩ := hs.published_named ha
    have hpub : PublishedAs s i m := publishedAs_iff.2 ⟨a, ha, hm⟩
    -- no earlier index is named
    have hfirst : ∀ j < i, ∀ n, PublishedAs s j n → ¬attrs.Names j n :=
      fun j hj n _ hn => by have := hat j n hn; omega
    cases hn : attrs.dpName with
    | none =>
      exact ⟨_, rfl, i, ha, ⟨m, hpub, .inl hidx, fun _ => hie, by simp [hn]⟩, hfirst⟩
    | some n =>
      simp only [hm, ok_bind, pure_eq_ok, exists_eq_left']
      by_cases hmn : m = n
      · rw [if_neg (not_not.2 hmn)]
        refine ⟨i, ha, ⟨m, hpub, .inl hidx, fun _ => hie, fun n' h => ?_⟩, hfirst⟩
        cases hn.symm.trans h
        exact hmn.symm
      · rw [if_pos hmn]
        refine ⟨.inr rfl, fun j n' hj hnames => hmn ?_⟩
        have hji : j = i := by have := hat j n' hnames; omega
        subst hji
        rw [hpub.unique hj, hnames.2.2 n hn]

theorem lookupDp_spec_name (hs : Inv s) {attrs : Attrs} (hidx : attrs.idx = -1) :
    ∃ r, lookupDp s attrs = .ok r ∧
      match r with
      | .ok a => ∃ i, s.dps i = some a ∧ FirstNamed s attrs i
      | .error e => (e = -enoent ∨ e = -einval) ∧ NoneNamed s attrs := by
  simp only [lookupDp, hidx, ne_eq, not_true_eq_false, if_false]
  cases hn : attrs.dpName with
  | none =>
    exact ⟨_, rfl, .inr rfl, fun _ _ _ h => by simpa [hidx, hn] using h.1⟩
  | some n =>
    -- the request names exactly the datapaths whose device is called `n`
    have hnames : ∀ j m, attrs.Names j m ↔ m = n := fun j m => by
      simp [Attrs.Names, hidx, hn, eq_comm]
    obtain ⟨r, hr, hspec⟩ := dpGetByName_spec hs n
    simp only [hr, ok_bind]
    cases r with
    | some a =>
      obtain ⟨i, ha, hpub, hj⟩ := hspec
      refine ⟨_, rfl, i, ha, ⟨n, hpub, (hnames i n).2 rfl⟩, fun j hji m hm hjm => ?_⟩
      rw [(hnames j m).1 hjm] at hm
      exact hj j hji hm
    | none =>
      refine ⟨_, rfl, .inl rfl, fun j m hm hjm => ?_⟩
      rw [(hnames j m).1 hjm] at hm
      exact hspec j hm

/-- On a coherent state `lookup_dp` resolves the first published datapath the request names. -/
theorem lookupDp_spec (hs : Inv s) (attrs : Attrs) :
    ∃ r, lookupDp s attrs = .ok r ∧
      match r with
      | .ok a => ∃ i, s.dps i = some a ∧ FirstNamed s attrs i
      | .error e => (e = -enoent ∨ e = -einval) ∧ NoneNamed s attrs := by
  by_cases hidx : attrs.idx = -1
  · exact lookupDp_spec_name hs hidx
  · exact lookupDp_spec_idx hs hidx

/-- On every reachable state `dp_genl_query` reports the first datapath the request names. -/
theorem dpGenlQuery_reports (hs : Reach s) (mcGroupIds : Nat → Nat) (alloc : Bool)
    (replyRet : Int) (attrs : Attrs) :
    ∃ err reply, dpGenlQuery s mcGroupIds alloc replyRet attrs = .ok (err, reply) ∧
      match reply with
      | some q => alloc = true ∧ err = replyRet ∧ FirstNamed s attrs q.dpIdx ∧
          PublishedAs s q.dpIdx q.dpName ∧ q.mcGroup = dpMcGroup mcGroupIds q.dpIdx
      | none => (alloc = false ∧ err = -enomem ∧ ∃ i, FirstNamed s attrs i) ∨
          ((err = -enoent ∨ err = -einval) ∧ NoneNamed s attrs) := by
  obtain ⟨r, hr, hspec⟩ := lookupDp_spec hs.inv attrs
  cases r with
  | error e => exact ⟨e, none, by simp [dpGenlQuery, hr], .inr hspec⟩
  | ok a =>
    obtain ⟨i, ha, hfirst⟩ := hspec
    cases alloc with
    | false => exact ⟨-enomem, none, by simp [dpGenlQuery, hr], .inl ⟨rfl, rfl, i, hfirst⟩⟩
    | true =>
      -- the reply reads the index the datapath records, which is where it is published
      obtain ⟨dp, m, hdp, rfl, hm⟩ := hs.inv.published_named ha
      exact ⟨replyRet, some ⟨dp.dpIdx, m, dpMcGroup mcGroupIds dp.dpIdx⟩,
        by simp [dpGenlQuery, hr, hdp, hm], rfl, rfl, hfirst, publishedAs_iff.2 ⟨a, ha, hm⟩, rfl⟩

theorem query_dp0_demo :
    Reach demoSys ∧
      ∃ err reply, dpGenlQuery demoSys (fun i => i + 16) true 0 ⟨some 0, none, none⟩ =
        .ok (err, reply) ∧
        match reply with
        | some q => true = true ∧ err = 0 ∧ FirstNamed demoSys ⟨some 0, none, none⟩ q.dpIdx ∧
            PublishedAs demoSys q.dpIdx q.dpName ∧ q.mcGroup = dpMcGroup (fun i => i + 16) q.dpIdx
        | none => (true = false ∧ err = -enomem ∧ ∃ i, FirstNamed demoSys ⟨some 0, none, none⟩ i) ∨
            ((err = -enoent ∨ err = -einval) ∧ NoneNamed demoSys ⟨some 0, none, none⟩) :=
  ⟨reach_demoSys, dpGenlQuery_reports reach_demoSys _ true 0 _⟩

end OpenflowDatapath
