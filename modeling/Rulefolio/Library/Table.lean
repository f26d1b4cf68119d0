import Mathlib.Data.List.Basic
import Mathlib.Data.List.Count
import Mathlib.Data.List.MinMax
import Mathlib.Data.List.Nodup
import Mathlib.Data.Set.Insert

/-!
# Tables as lists of rows

A table is the list of its rows, and the three writing statements of a relational database are
`update p f` (`UPDATE … SET f WHERE p`), `delete p` (`DELETE … WHERE p`) and `::` (`INSERT`).
Reading is `List.filter`, `List.find?` and `List.countP`, so nothing is defined for it.

What a proof about a statement needs is one of three facts: which rows the table has afterwards
(`mem_update`, `mem_delete`), that a property of every row survives (`forall_update`), or what a
reading of the table is afterwards (`map_update`, `filter_update`, `filter_update_self`,
`countP_update`, `filter_delete`, `filter_delete_self`).

Where rows have a key, `Touches` says of a change which keys it concerns.
-/

namespace Table

universe u v

variable {ρ : Type u} {κ : Type v}

/-- `UPDATE … SET f WHERE p`. -/
def update (p : ρ → Bool) (f : ρ → ρ) (t : List ρ) : List ρ :=
  t.map fun r => if p r then f r else r

/-- `DELETE … WHERE p`. -/
def delete (p : ρ → Bool) (t : List ρ) : List ρ :=
  t.filter fun r => !p r

/-! ### Which rows there are -/

@[simp] theorem update_nil (p : ρ → Bool) (f : ρ → ρ) : update p f [] = [] := rfl

theorem update_cons (p : ρ → Bool) (f : ρ → ρ) (r : ρ) (t : List ρ) :
    update p f (r :: t) = (if p r then f r else r) :: update p f t := rfl

theorem mem_update {p : ρ → Bool} {f : ρ → ρ} {t : List ρ} {r : ρ} :
    r ∈ update p f t ↔ (∃ r₀ ∈ t, p r₀ = true ∧ r = f r₀) ∨ (r ∈ t ∧ p r = false) := by
  constructor
  · intro h
    obtain ⟨r₀, h₀, rfl⟩ := List.mem_map.1 h
    by_cases hp : p r₀ = true
    · exact Or.inl ⟨r₀, h₀, hp, by simp [hp]⟩
    · exact Or.inr ⟨by simpa [hp] using h₀, by simp [hp]⟩
  · rintro (⟨r₀, h₀, hp, rfl⟩ | ⟨h, hp⟩)
    · exact List.mem_map.2 ⟨r₀, h₀, by simp [hp]⟩
    · exact List.mem_map.2 ⟨r, h, by simp [hp]⟩

@[simp] theorem mem_delete {p : ρ → Bool} {t : List ρ} {r : ρ} :
    r ∈ delete p t ↔ r ∈ t ∧ p r = false := by
  simp [delete]

/-- A selection of at most one row. -/
theorem eq_of_filter_le_one {p : ρ → Bool} {t : List ρ} (h : (t.filter p).length ≤ 1) {r r' : ρ}
    (hr : r ∈ t) (hr' : r' ∈ t) (hp : p r = true) (hp' : p r' = true) : r = r' := by
  have hmem : r ∈ t.filter p := List.mem_filter.2 ⟨hr, hp⟩
  have hmem' : r' ∈ t.filter p := List.mem_filter.2 ⟨hr', hp'⟩
  obtain ⟨s, hs⟩ := List.length_eq_one_iff.1
    (Nat.le_antisymm h (List.length_pos_of_mem hmem))
  rw [hs, List.mem_singleton] at hmem hmem'
  rw [hmem, hmem']

theorem eq_singleton_of_mem {t : List ρ} (ht : t.length ≤ 1) {r : ρ} (hr : r ∈ t) : t = [r] := by
  obtain ⟨r', rfl⟩ := List.length_eq_one_iff.1 (le_antisymm ht (List.length_pos_of_mem hr))
  rw [List.mem_singleton.1 hr]

/-- The row a selection can only find. -/
theorem find?_eq_some_of_unique {p : ρ → Bool} {t : List ρ} {r : ρ} (hr : r ∈ t) (hp : p r = true)
    (h : ∀ r' ∈ t, p r' = true → r' = r) : t.find? p = some r := by
  cases hfind : t.find? p with
  | none => exact absurd hp (List.find?_eq_none.1 hfind r hr)
  | some r' => rw [h r' (List.mem_of_find?_eq_some hfind) (List.find?_some hfind)]

/-- Rows that correspond pass the same selection. -/
theorem forall₂_filter {R : ρ → ρ → Prop} {p : ρ → Bool} (hp : ∀ r r', R r r' → p r = p r')
    {t t' : List ρ} (h : List.Forall₂ R t t') : List.Forall₂ R (t.filter p) (t'.filter p) := by
  induction h with
  | nil => exact .nil
  | cons hr h ih =>
    rw [List.filter_cons, List.filter_cons, ← hp _ _ hr]
    split
    · exact .cons hr ih
    · exact ih

/-- An update makes a row of each row. -/
theorem forall₂_update {R : ρ → ρ → Prop} (hrefl : ∀ r, R r r) {p : ρ → Bool} {f : ρ → ρ}
    (h : ∀ r, p r = true → R r (f r)) (t : List ρ) : List.Forall₂ R t (update p f t) := by
  rw [update, List.forall₂_map_right_iff, List.forall₂_same]
  intro r _
  split
  · exact h r ‹_›
  · exact hrefl r

theorem forall₂_trans {R : ρ → ρ → Prop} (htrans : ∀ r r' r'', R r r' → R r' r'' → R r r'')
    {t t' t'' : List ρ} (h : List.Forall₂ R t t') (h' : List.Forall₂ R t' t'') :
    List.Forall₂ R t t'' := by
  induction h generalizing t'' with
  | nil => exact h'
  | cons hr h ih =>
    cases h' with
    | cons hr' h' => exact .cons (htrans _ _ _ hr hr') (ih h')

theorem forall₂_imp {R S : ρ → ρ → Prop} {t t' : List ρ} (h : List.Forall₂ R t t')
    (hS : ∀ r ∈ t, ∀ r', R r r' → S r r') : List.Forall₂ S t t' := by
  induction h with
  | nil => exact .nil
  | cons hr h ih =>
    exact .cons (hS _ List.mem_cons_self _ hr) (ih fun r hmem => hS r (List.mem_cons_of_mem _ hmem))

theorem eq_of_forall₂ {R : ρ → ρ → Prop} {t t' : List ρ} (h : List.Forall₂ R t t')
    (hR : ∀ r ∈ t, ∀ r', R r r' → r' = r) : t' = t := by
  have heq : List.Forall₂ (· = ·) t t' := forall₂_imp h fun r hr r' hrr => (hR r hr r' hrr).symm
  rw [List.forall₂_eq_eq_eq] at heq
  exact heq.symm

/-- Every row has one that corresponds to it. -/
theorem forall₂_mem {ρ' : Type} {R : ρ → ρ' → Prop} {t : List ρ} {t' : List ρ'}
    (h : List.Forall₂ R t t') :
    (∀ r ∈ t, ∃ r' ∈ t', R r r') ∧ ∀ r' ∈ t', ∃ r ∈ t, R r r' := by
  induction h with
  | nil => exact ⟨nofun, nofun⟩
  | cons hr h ih =>
    constructor
    · intro r hmem
      rcases List.mem_cons.1 hmem with rfl | hmem
      · exact ⟨_, List.mem_cons_self, hr⟩
      · obtain ⟨r', hr', hR⟩ := ih.1 r hmem
        exact ⟨r', List.mem_cons_of_mem _ hr', hR⟩
    · intro r' hmem
      rcases List.mem_cons.1 hmem with rfl | hmem
      · exact ⟨_, List.mem_cons_self, hr⟩
      · obtain ⟨r, hr', hR⟩ := ih.2 r' hmem
        exact ⟨r, List.mem_cons_of_mem _ hr', hR⟩

/-- What is found first among rows that correspond corresponds. -/
theorem argmax_forall₂ {β : Type} [LinearOrder β] {R : ρ → ρ → Prop} {f : ρ → β}
    (hf : ∀ r r', R r r' → f r' = f r) {t t' : List ρ} (h : List.Forall₂ R t t') :
    Option.Rel R (t.argmax f) (t'.argmax f) := by
  induction h with
  | nil => exact .none
  | @cons r r' l l' hr h ih =>
    rw [List.argmax_cons, List.argmax_cons]
    generalize l.argmax f = o, l'.argmax f = o' at ih ⊢
    cases ih with
    | none => exact .some hr
    | some hc =>
      dsimp only
      rw [hf _ _ hr, hf _ _ hc]
      split
      · exact .some hc
      · exact .some hr

/-- Two updates of the same rows are one. -/
theorem update_update {p : ρ → Bool} {f g : ρ → ρ} (t : List ρ) (h : ∀ r, p (g r) = p r) :
    update p f (update p g t) = update p (fun r => f (g r)) t := by
  rw [update, update, update, List.map_map]
  refine List.map_congr_left fun r _ => ?_
  by_cases hp : p r = true <;> simp [h, hp]

/-- An update of no row. -/
theorem update_eq_self {p : ρ → Bool} {f : ρ → ρ} {t : List ρ} (h : ∀ r ∈ t, p r = false) :
    update p f t = t := by
  refine (List.map_congr_left fun r hr => ?_).trans (List.map_id t)
  rw [h r hr]
  rfl

theorem delete_eq_self {p : ρ → Bool} {t : List ρ} (h : ∀ r ∈ t, p r = false) :
    delete p t = t :=
  List.filter_eq_self.2 fun r hr => by rw [h r hr]; rfl

/-! ### Properties of every row -/

/-- A property of every row survives an update when the changed rows have it again. -/
theorem forall_update {p : ρ → Bool} {f : ρ → ρ} {t : List ρ} {P : ρ → Prop}
    (h : ∀ r ∈ t, P r) (hf : ∀ r ∈ t, p r = true → P r → P (f r)) :
    ∀ r ∈ update p f t, P r := by
  intro r hr
  rcases mem_update.1 hr with ⟨r₀, h₀, hp, rfl⟩ | ⟨hr, -⟩
  · exact hf r₀ h₀ hp (h r₀ h₀)
  · exact h r hr

/-! ### Readings a statement does not touch -/

/-- Columns that the update leaves alone read the same. -/
theorem map_update {p : ρ → Bool} {f : ρ → ρ} {c : ρ → κ} (t : List ρ)
    (h : ∀ r, p r = true → c (f r) = c r) : (update p f t).map c = t.map c := by
  rw [update, List.map_map]
  refine List.map_congr_left fun r _ => ?_
  by_cases hp : p r = true
  · simp [hp, h r hp]
  · simp [hp]

/-- A selection that contains no updated row, before or after, is the same selection. -/
theorem filter_update_of_mem {p q : ρ → Bool} {f : ρ → ρ} (t : List ρ)
    (h : ∀ r ∈ t, p r = true → q r = false ∧ q (f r) = false) :
    (update p f t).filter q = t.filter q := by
  induction t with
  | nil => rfl
  | cons r t ih =>
    have ih := ih fun r' hr' => h r' (List.mem_cons_of_mem _ hr')
    by_cases hp : p r = true
    · simp [update_cons, hp, h r List.mem_cons_self hp, ih]
    · simp [update_cons, hp, List.filter_cons, ih]

theorem filter_update {p q : ρ → Bool} {f : ρ → ρ} (t : List ρ)
    (h : ∀ r, p r = true → q r = false ∧ q (f r) = false) :
    (update p f t).filter q = t.filter q :=
  filter_update_of_mem t fun r _ => h r

/-- A selection whose columns the update leaves alone can be made before it. -/
theorem filter_update_comm {p q : ρ → Bool} {f : ρ → ρ} (t : List ρ)
    (h : ∀ r, p r = true → q (f r) = q r) :
    (update p f t).filter q = update p f (t.filter q) := by
  induction t with
  | nil => rfl
  | cons r t ih =>
    have hq : q (if p r then f r else r) = q r := by
      split
      · rename_i hp
        exact h r hp
      · rfl
    rw [update_cons, List.filter_cons, List.filter_cons, hq, ih]
    split
    · rw [update_cons]
    · rfl

/-- A selection of the updated rows themselves. -/
theorem filter_update_self {p : ρ → Bool} {f : ρ → ρ} (t : List ρ)
    (h : ∀ r, p r = true → p (f r) = true) : (update p f t).filter p = (t.filter p).map f := by
  induction t with
  | nil => rfl
  | cons r t ih =>
    by_cases hp : p r = true
    · simp [update_cons, hp, h r hp, ih]
    · simp [update_cons, hp, ih]

theorem countP_update {p q : ρ → Bool} {f : ρ → ρ} (t : List ρ) (h : ∀ r, q (f r) = q r) :
    (update p f t).countP q = t.countP q := by
  rw [update, List.countP_map]
  refine List.countP_congr fun r _ => ?_
  by_cases hp : p r = true
  · simp [hp, h r]
  · simp [hp]

theorem filter_delete_self (p : ρ → Bool) (t : List ρ) : (delete p t).filter p = [] := by
  rw [delete, List.filter_filter, List.filter_eq_nil_iff]
  intro r _
  cases p r <;> simp

theorem filter_delete_comm (p q : ρ → Bool) (t : List ρ) :
    (delete p t).filter q = delete p (t.filter q) := by
  rw [delete, delete, List.filter_filter, List.filter_filter]
  exact List.filter_congr fun r _ => Bool.and_comm _ _

/-- A selection that contains no deleted row is the same selection. -/
theorem filter_delete {p q : ρ → Bool} (t : List ρ) (h : ∀ r, q r = true → p r = false) :
    (delete p t).filter q = t.filter q := by
  rw [delete, List.filter_filter]
  refine List.filter_congr fun r _ => ?_
  cases hq : q r with
  | true => simp [h r hq]
  | false => simp

/-! ### The rows with a key -/

section Keyed

variable [BEq κ] [LawfulBEq κ]

/-- The rows with one key, as a function of the key. -/
def rowsWith (key : ρ → κ) (k : κ) (t : List ρ) : List ρ :=
  t.filter (key · == k)

/-- The change of a table concerns only the rows with a key in `K`, and what becomes of the rows
with one key depends on these rows alone. -/
structure Touches (key : ρ → κ) (K : Set κ) (g : List ρ → List ρ) : Prop where
  only : ∀ t k, k ∉ K → rowsWith key k (g t) = rowsWith key k t
  pointwise : ∀ t t' k, rowsWith key k t = rowsWith key k t' →
    rowsWith key k (g t) = rowsWith key k (g t')

variable {key : ρ → κ} {K : Set κ}

theorem mem_rowsWith {k : κ} {t : List ρ} {r : ρ} : r ∈ rowsWith key k t ↔ r ∈ t ∧ key r = k := by
  rw [rowsWith, List.mem_filter, beq_iff_eq]

theorem rowsWith_eq_nil {k : κ} {t : List ρ} (h : ∀ r ∈ t, key r ≠ k) : rowsWith key k t = [] :=
  List.filter_eq_nil_iff.2 fun r hr => by simpa using h r hr

theorem rowsWith_cons_self (r : ρ) (t : List ρ) :
    rowsWith key (key r) (r :: t) = r :: rowsWith key (key r) t :=
  List.filter_cons_of_pos (beq_self_eq_true _)

theorem rowsWith_cons {k : κ} {r : ρ} (h : key r = k) (t : List ρ) :
    rowsWith key k (r :: t) = r :: rowsWith key k t :=
  h ▸ rowsWith_cons_self r t

theorem rowsWith_cons_of_ne {k : κ} {r : ρ} (h : key r ≠ k) (t : List ρ) :
    rowsWith key k (r :: t) = rowsWith key k t :=
  List.filter_cons_of_neg (by simpa using h)

omit [LawfulBEq κ] in
theorem rowsWith_update {p : ρ → Bool} {f : ρ → ρ} (hf : ∀ r, p r = true → key (f r) = key r)
    (k : κ) (t : List ρ) : rowsWith key k (update p f t) = update p f (rowsWith key k t) :=
  filter_update_comm t fun r hp => by rw [hf r hp]

omit [LawfulBEq κ] in
theorem rowsWith_delete (p : ρ → Bool) (k : κ) (t : List ρ) :
    rowsWith key k (delete p t) = delete p (rowsWith key k t) :=
  filter_delete_comm p _ t

theorem touches_cons (r : ρ) : Touches key {key r} (r :: ·) where
  only t k hk := rowsWith_cons_of_ne (fun h => hk h.symm) t
  pointwise t t' k h := by
    rw [rowsWith, rowsWith, List.filter_cons, List.filter_cons]
    rw [rowsWith, rowsWith] at h
    rw [h]

theorem touches_update {p : ρ → Bool} {f : ρ → ρ} (hf : ∀ r, p r = true → key (f r) = key r)
    (hp : ∀ r, p r = true → key r ∈ K) : Touches key K (update p f) where
  only t k hk := by
    rw [rowsWith_update hf]
    refine (List.map_congr_left fun r hr => ?_).trans (List.map_id _)
    have hpr : p r ≠ true := fun h => hk ((mem_rowsWith.1 hr).2 ▸ hp r h)
    simp [hpr]
  pointwise t t' k h := by
    rw [rowsWith_update hf, rowsWith_update hf, h]

theorem touches_delete {p : ρ → Bool} (hp : ∀ r, p r = true → key r ∈ K) :
    Touches key K (delete p) where
  only t k hk := by
    rw [rowsWith_delete]
    refine List.filter_eq_self.2 fun r hr => ?_
    have hpr : p r ≠ true := fun h => hk ((mem_rowsWith.1 hr).2 ▸ hp r h)
    simp [hpr]
  pointwise t t' k h := by
    rw [rowsWith_delete, rowsWith_delete, h]

/-- An update of rows with one key, as the rows with this key see it. -/
theorem rowsWith_update_own {a : κ} {p q : ρ → Bool} {f : ρ → ρ}
    (hf : ∀ r, key (f r) = key r) (hp : ∀ r, p r = (key r == a && q r)) (t : List ρ) :
    rowsWith key a (update p f t) = update q f (rowsWith key a t) := by
  rw [rowsWith_update fun r _ => hf r]
  refine List.map_congr_left fun r hr => ?_
  rw [hp r, (mem_rowsWith.1 hr).2, beq_self_eq_true, Bool.true_and]

omit [LawfulBEq κ] in
/-- An update of all rows with one key. -/
theorem rowsWith_update_all {a : κ} {f : ρ → ρ} (hf : ∀ r, key (f r) = key r) (t : List ρ) :
    rowsWith key a (update (key · == a) f t) = (rowsWith key a t).map f :=
  filter_update_self t fun r hr => by rwa [hf r]

/-- An update of rows with one key, as the rows with another key see it. -/
theorem rowsWith_update_other {a k : κ} {p q : ρ → Bool} {f : ρ → ρ}
    (hf : ∀ r, key (f r) = key r) (hp : ∀ r, p r = (key r == a && q r)) (hk : k ≠ a)
    (t : List ρ) : rowsWith key k (update p f t) = rowsWith key k t := by
  refine (touches_update (K := {a}) (fun r _ => hf r) fun r hr => ?_).only t k hk
  rw [hp r, Bool.and_eq_true, beq_iff_eq] at hr
  exact hr.1

omit [LawfulBEq κ] in
/-- A search among the rows with one key. -/
theorem find?_rowsWith {a : κ} {p q : ρ → Bool} (hp : ∀ r, p r = (key r == a && q r))
    (t : List ρ) : t.find? p = (rowsWith key a t).find? q := by
  rw [rowsWith, List.find?_filter]
  refine congrArg (List.find? · t) (funext fun r => ?_)
  rw [hp r]
  cases key r == a <;> cases q r <;> rfl

omit [LawfulBEq κ] in
/-- A selection among the rows with one key. -/
theorem filter_rowsWith {a : κ} {p q : ρ → Bool} (hp : ∀ r, p r = (key r == a && q r))
    (t : List ρ) : t.filter p = (rowsWith key a t).filter q := by
  rw [rowsWith, List.filter_filter]
  exact List.filter_congr fun r _ => (hp r).trans (Bool.and_comm _ _)

/-- A deletion of rows with one key, as the rows with this key see it. -/
theorem rowsWith_delete_own {a : κ} {p q : ρ → Bool} (hp : ∀ r, p r = (key r == a && q r))
    (t : List ρ) : rowsWith key a (delete p t) = delete q (rowsWith key a t) := by
  rw [rowsWith_delete]
  refine List.filter_congr fun r hr => ?_
  rw [hp r, (mem_rowsWith.1 hr).2, beq_self_eq_true, Bool.true_and]

/-- A deletion of rows with one key, as the rows with another key see it. -/
theorem rowsWith_delete_other {a k : κ} {p q : ρ → Bool} (hp : ∀ r, p r = (key r == a && q r))
    (hk : k ≠ a) (t : List ρ) : rowsWith key k (delete p t) = rowsWith key k t := by
  refine (touches_delete (K := {a}) fun r hr => ?_).only t k hk
  rw [hp r, Bool.and_eq_true, beq_iff_eq] at hr
  exact hr.1

/-- Rows that are added with one key. -/
theorem rowsWith_append {a : κ} {rows : List ρ} (h : ∀ r ∈ rows, key r = a) (t : List ρ) :
    rowsWith key a (rows ++ t) = rows ++ rowsWith key a t := by
  rw [rowsWith, List.filter_append, List.filter_eq_self.2 fun r hr => beq_iff_eq.2 (h r hr)]
  rfl

theorem rowsWith_append_other {a k : κ} {rows : List ρ} (h : ∀ r ∈ rows, key r = a) (hk : k ≠ a)
    (t : List ρ) : rowsWith key k (rows ++ t) = rowsWith key k t := by
  have hnil : rows.filter (key · == k) = [] :=
    rowsWith_eq_nil fun r hr heq => hk (heq.symm.trans (h r hr))
  rw [rowsWith, List.filter_append, hnil]
  rfl

/-- Where identifiers differ, rows with different keys have different identifiers. -/
theorem ident_ne_of_key_ne {ι : Type*} {ident : ρ → ι} {t : List ρ} (h : (t.map ident).Nodup)
    {a k : κ} (hk : k ≠ a) {r r' : ρ} (hr : r ∈ rowsWith key a t) (hr' : r' ∈ rowsWith key k t) :
    ident r' ≠ ident r := by
  intro heq
  obtain ⟨hr, hra⟩ := mem_rowsWith.1 hr
  obtain ⟨hr', hrk⟩ := mem_rowsWith.1 hr'
  rw [List.inj_on_of_nodup_map h hr' hr heq, hra] at hrk
  exact hk hrk.symm

end Keyed

end Table
