import Mathlib.Algebra.BigOperators.Group.List.Basic
import Mathlib.Algebra.GroupWithZero.Nat
import Mathlib.Data.List.Count
import Mathlib.Data.List.Dedup
import Mathlib.Data.List.Sort

/-!
# Grouping and paging

What a query does to the rows it has selected. `GROUP BY` over a nullable column makes one group for
each value that occurs, and the rows without a value are in none of them; `OFFSET` and `LIMIT` cut
the ordered rows into pages.

The two facts that matter are that grouping loses nothing and counts nothing twice
(`sum_groupKeys`), and that the pages put together are the rows again (`flatMap_page`).

## Main definitions

* `groupKeys` — the values `GROUP BY` finds, in ascending order.
* `page` — one page, counted from one, and `carriedTotal` — the total it comes with.
* `leftJoin` — every row with the rows it matches, or with none.
-/

namespace Aggregates

universe u v

variable {α : Type u} {κ : Type v}

/-! ## Groups -/

theorem sum_ite_eq_countP (p : κ → Bool) (ks : List κ) :
    (ks.map fun k => if p k then 1 else 0).sum = ks.countP p := by
  induction ks with
  | nil => rfl
  | cons k ks ih =>
    rw [List.map_cons, List.sum_cons, ih, List.countP_cons, Nat.add_comm]

section Groups

variable [LinearOrder κ]

/-- The groups of `GROUP BY key`, for the rows whose key is not null, in ascending order. -/
def groupKeys (key : α → Option κ) (rows : List α) : List κ :=
  (rows.filterMap key).dedup.insertionSort (· ≤ ·)

theorem mem_groupKeys {key : α → Option κ} {rows : List α} {k : κ} :
    k ∈ groupKeys key rows ↔ ∃ r ∈ rows, key r = some k := by
  rw [groupKeys, List.mem_insertionSort, List.mem_dedup, List.mem_filterMap]

theorem nodup_groupKeys (key : α → Option κ) (rows : List α) : (groupKeys key rows).Nodup :=
  (List.perm_insertionSort _ _).nodup_iff.2 (List.nodup_dedup _)

theorem groupKeys_strictMono (key : α → Option κ) (rows : List α) :
    (groupKeys key rows).Pairwise (· < ·) := by
  have hle : (groupKeys key rows).Pairwise (· ≤ ·) := List.pairwise_insertionSort _ _
  exact hle.imp₂ (fun _ _ hab hne => lt_of_le_of_ne hab hne) (nodup_groupKeys key rows)

/-- A row is in at most one group. -/
theorem length_filter_groupKeys_le_one (key : α → Option κ) (rows : List α) (r : α) :
    ((groupKeys key rows).filter fun k => key r == some k).length ≤ 1 := by
  cases hr : key r with
  | none => simp
  | some k₀ =>
    have hcount : (groupKeys key rows).count k₀ ≤ 1 :=
      List.nodup_iff_count_le_one.1 (nodup_groupKeys key rows) k₀
    rw [List.count, List.countP_eq_length_filter] at hcount
    refine le_of_eq_of_le (congrArg List.length (List.filter_congr fun k _ => ?_)) hcount
    simp [eq_comm]

/-- The groups of one row: its own, if it has a key. -/
theorem sum_ite_key {ks : List κ} (hks : ks.Nodup) {o : Option κ}
    (hmem : ∀ k, o = some k → k ∈ ks) :
    (ks.map fun k => if o == some k then 1 else 0).sum = if o.isSome then 1 else 0 := by
  cases o with
  | none => simp
  | some k₀ =>
    have hcount : ks.count k₀ = 1 := List.count_eq_one_of_mem hks (hmem k₀ rfl)
    rw [sum_ite_eq_countP, Option.isSome_some, if_pos rfl, ← hcount]
    exact List.countP_congr fun k _ => by
      rw [Option.some_beq_some, beq_iff_eq, beq_iff_eq, eq_comm]

/-- Grouping loses no row that has a key, and counts none twice. -/
theorem sum_countP_key {ks : List κ} (hks : ks.Nodup) (key : α → Option κ) (p : α → Bool)
    {rows : List α} (hmem : ∀ r ∈ rows, ∀ k, key r = some k → k ∈ ks) :
    (ks.map fun k => rows.countP fun r => key r == some k && p r).sum =
      rows.countP fun r => (key r).isSome && p r := by
  induction rows with
  | nil => simp
  | cons r rows ih =>
    have ih := ih fun r' hr' => hmem r' (List.mem_cons_of_mem _ hr')
    simp only [List.countP_cons, List.sum_map_add]
    rw [ih]
    congr 1
    cases hp : p r with
    | false => simp
    | true => simpa using sum_ite_key hks (hmem r List.mem_cons_self)

/-- **Groups partition the rows that have a key.** -/
theorem sum_groupKeys (key : α → Option κ) (p : α → Bool) (rows : List α) :
    ((groupKeys key rows).map fun k => rows.countP fun r => key r == some k && p r).sum =
      rows.countP fun r => (key r).isSome && p r :=
  sum_countP_key (nodup_groupKeys key rows) key p fun r hr _ hk => mem_groupKeys.2 ⟨r, hr, hk⟩

end Groups

/-! ## Pages -/

/-- `OFFSET (number - 1) * size LIMIT size`. -/
def page (size number : ℕ) (rows : List α) : List α :=
  (rows.drop ((number - 1) * size)).take size

/-- The first pages are a beginning of the rows. -/
theorem flatMap_page (size pages : ℕ) (rows : List α) :
    ((List.range pages).flatMap fun i => page size (i + 1) rows) = rows.take (pages * size) := by
  induction pages with
  | zero => simp
  | succ n ih =>
    rw [List.range_succ, List.flatMap_append, ih, Nat.succ_mul, List.take_add]
    simp [page]

/-- **The pages up to an empty one are all the rows.** -/
theorem flatMap_page_of_nil {size pages : ℕ} (hsize : 0 < size) {rows : List α}
    (hlast : page size (pages + 1) rows = []) :
    ((List.range pages).flatMap fun i => page size (i + 1) rows) = rows := by
  rw [flatMap_page]
  refine List.take_of_length_le ?_
  by_contra hlt
  have hdrop : (rows.drop (pages * size)).length ≠ 0 := by
    rw [List.length_drop]
    omega
  have hlength : (page size (pages + 1) rows).length = 0 := by rw [hlast]; rfl
  rw [page, List.length_take, Nat.add_sub_cancel] at hlength
  omega

/-- A page is empty when the rows end before it. -/
theorem page_eq_nil_iff {size number : ℕ} (hsize : 0 < size) {rows : List α} :
    page size number rows = [] ↔ rows.length ≤ (number - 1) * size := by
  constructor
  · intro h
    by_contra hlt
    have hlength : (page size number rows).length = 0 := by rw [h]; rfl
    rw [page, List.length_take, List.length_drop] at hlength
    omega
  · intro h
    rw [page, List.drop_eq_nil_of_le h, List.take_nil]

/-- `count(*) OVER ()` stands on every row of a page, and a page without rows says nothing. -/
def carriedTotal (size number : ℕ) (rows : List α) : ℕ :=
  ((page size number rows).head?.map fun _ => rows.length).getD 0

/-- **A page carries the total unless it is beyond the end** of rows that there are. -/
theorem carriedTotal_eq_iff {size number : ℕ} (hsize : 0 < size) {rows : List α} :
    carriedTotal size number rows = rows.length ↔
      rows = [] ∨ (number - 1) * size < rows.length := by
  rw [carriedTotal]
  cases hpage : page size number rows with
  | nil =>
    have hend := (page_eq_nil_iff hsize).1 hpage
    rw [← List.length_eq_zero_iff]
    show 0 = rows.length ↔ _
    omega
  | cons r rest =>
    have hbefore : ¬rows.length ≤ (number - 1) * size := by
      rw [← page_eq_nil_iff hsize, hpage]
      exact List.cons_ne_nil r rest
    show rows.length = rows.length ↔ _
    simp only [true_iff]
    exact .inr (not_le.1 hbefore)

/-! ## Joins -/

variable {β : Type v}

/-- `LEFT JOIN … ON on`. -/
def leftJoin (on : α → β → Bool) (rows : List α) (others : List β) : List (α × Option β) :=
  rows.flatMap fun r =>
    if others.any (on r) then (others.filter (on r)).map fun o => (r, some o) else [(r, none)]

theorem leftJoin_cons (on : α → β → Bool) (r : α) (rows : List α) (others : List β) :
    leftJoin on (r :: rows) others = leftJoin on [r] others ++ leftJoin on rows others := by
  simp [leftJoin]

theorem fst_eq_of_mem_leftJoin {on : α → β → Bool} {r : α} {others : List β} {row : α × Option β}
    (h : row ∈ leftJoin on [r] others) : row.1 = r := by
  rw [leftJoin, List.flatMap_singleton] at h
  split at h
  · obtain ⟨o, -, rfl⟩ := List.mem_map.1 h
    rfl
  · rw [List.mem_singleton.1 h]

theorem fst_mem_of_mem_leftJoin {on : α → β → Bool} {rows : List α} {others : List β}
    {row : α × Option β} (h : row ∈ leftJoin on rows others) : row.1 ∈ rows := by
  obtain ⟨r, hr, hrow⟩ := List.mem_flatMap.1 h
  have hblock : row ∈ leftJoin on [r] others := by rwa [leftJoin, List.flatMap_singleton]
  rwa [fst_eq_of_mem_leftJoin hblock]

/-- **Rows that are hidden on either side do not matter** to a selection from a join that passes
none of them. -/
theorem filter_leftJoin_filter {on : α → β → Bool} {p : α → Bool} {q : β → Bool}
    {sel : α × Option β → Bool} {others : List β} {rows : List α}
    (hrows : ∀ r ∈ rows, ∀ o, sel (r, o) = true → p r = true)
    (hothers : ∀ r ∈ rows, p r = true → ∀ o, sel (r, o) = true → ∀ b ∈ others, on r b = true →
      q b = true) :
    (leftJoin on (rows.filter p) (others.filter q)).filter sel =
      (leftJoin on rows others).filter sel := by
  induction rows with
  | nil => rfl
  | cons r rows ih =>
    have hrest := ih (fun r hr => hrows r (List.mem_cons_of_mem _ hr)) fun r hr =>
      hothers r (List.mem_cons_of_mem _ hr)
    rw [leftJoin_cons, List.filter_append, ← hrest]
    by_cases hsel : ∃ o, sel (r, o) = true
    · obtain ⟨o, ho⟩ := hsel
      have hp := hrows r List.mem_cons_self o ho
      have hblock : leftJoin on [r] (others.filter q) = leftJoin on [r] others := by
        have hmatch : (others.filter q).filter (on r) = others.filter (on r) := by
          rw [List.filter_filter]
          refine List.filter_congr fun b hb => ?_
          by_cases hon : on r b = true
          · rw [hon, hothers r List.mem_cons_self hp o ho b hb hon]
            rfl
          · simp [hon]
        have hany : (others.filter q).any (on r) = others.any (on r) := by
          have hempty : ∀ l : List β, l.any (on r) = !(l.filter (on r)).isEmpty := by
            intro l
            induction l with
            | nil => rfl
            | cons b l ih => by_cases hb : on r b = true <;> simp [hb, ih]
          rw [hempty, hempty, hmatch]
        rw [leftJoin, leftJoin, List.flatMap_singleton, List.flatMap_singleton, hany, hmatch]
      rw [List.filter_cons_of_pos hp, leftJoin_cons, List.filter_append, hblock]
    · -- No row of the join with this one is selected.
      have hnone : ∀ bs : List β, (leftJoin on [r] bs).filter sel = [] := by
        intro bs
        refine List.filter_eq_nil_iff.2 fun row hrow hselected => hsel ⟨row.2, ?_⟩
        rwa [← fst_eq_of_mem_leftJoin hrow]
      rw [hnone, List.nil_append]
      by_cases hp : p r = true
      · rw [List.filter_cons_of_pos hp, leftJoin_cons, List.filter_append, hnone, List.nil_append]
      · rw [List.filter_cons_of_neg hp]

/-- **A join that matches at most one row keeps the rows as they are**, each with its match. -/
theorem leftJoin_of_unique {on : α → β → Bool} {rows : List α} {others : List β}
    (h : ∀ r ∈ rows, (others.filter (on r)).length ≤ 1) :
    leftJoin on rows others = rows.map fun r => (r, others.find? (on r)) := by
  rw [leftJoin, List.map_eq_flatMap]
  refine List.flatMap_congr fun r hr => ?_
  cases hfind : others.find? (on r) with
  | none =>
    have hnone : others.any (on r) = false := by
      rw [List.any_eq_false]
      exact List.find?_eq_none.1 hfind
    rw [if_neg (by simp [hnone])]
  | some o =>
    have hmem : o ∈ others.filter (on r) :=
      List.mem_filter.2 ⟨List.mem_of_find?_eq_some hfind, List.find?_some hfind⟩
    obtain ⟨o', ho'⟩ := List.length_eq_one_iff.1
      (le_antisymm (h r hr) (List.length_pos_of_mem hmem))
    have hany : others.any (on r) = true :=
      List.any_eq_true.2 ⟨o, List.mem_of_find?_eq_some hfind, List.find?_some hfind⟩
    rw [ho', List.mem_singleton] at hmem
    rw [if_pos hany, ho', hmem]
    rfl

end Aggregates
