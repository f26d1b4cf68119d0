import Mathlib.Data.List.Basic
import Mathlib.Order.Lattice

/-!
# Records that are told apart by their endings

A sequence of records is written as one text: each record is a body, which is any text at all, and
an ending. Where a body contains an ending itself, the text can be read in more than one way.

Here the records of a sequence are in the order of their bodies, so a text can be read in another
way only if the bodies are in order then, too. That takes a body that splits in order: it contains
an ending, and what stands before the ending comes before what stands behind it. Where no body
splits in order, different sequences have different texts.

This works when two endings that occur in one text never overlap, and when a text does not come
after the texts it is the beginning of.

## Main definitions

* `Endings` — a set of endings.
* `Endings.write` — the text of a sequence of records.
* `Endings.SplitsInOrder` — a body that can be taken for two.

## Main results

* `Endings.write_inj_of_unsplit`.
-/

variable {α β : Type}

/-! ## The first character that stops -/

section Stop

variable {p : α → Bool} {l l' r r' : List α} {x x' : α}

/-- What stands before the first character of a kind is determined by the text. -/
theorem append_stop_inj (hl : ∀ a ∈ l, p a = true) (hl' : ∀ a ∈ l', p a = true) (hx : p x = false)
    (hx' : p x' = false) (h : l ++ x :: r = l' ++ x' :: r') : l = l' ∧ x = x' ∧ r = r' := by
  induction l generalizing l' with
  | nil =>
    cases l' with
    | nil => exact ⟨rfl, List.cons.inj h⟩
    | cons a l' =>
      rw [(List.cons.inj h).1, hl' a List.mem_cons_self] at hx
      cases hx
  | cons a l ih =>
    cases l' with
    | nil =>
      rw [← (List.cons.inj h).1, hl a List.mem_cons_self] at hx'
      cases hx'
    | cons a' l' =>
      obtain ⟨rfl, htail⟩ := List.cons.inj h
      obtain ⟨rfl, hrest⟩ := ih (fun b hb => hl b (List.mem_cons_of_mem _ hb))
        (fun b hb => hl' b (List.mem_cons_of_mem _ hb)) htail
      exact ⟨rfl, hrest⟩

end Stop

/-! ## Endings -/

/-- Endings, each with what it stands for. -/
structure Endings (α β : Type) where
  enc : β → List α
  enc_ne_nil : ∀ e, enc e ≠ []
  enc_inj : ∀ e r e' r', enc e ++ r = enc e' ++ r' → e = e' ∧ r = r'
  /-- An ending that begins before another one is over before it begins. -/
  disjoint : ∀ c t e r e' r', c :: t ++ enc e ++ r = enc e' ++ r' → ∃ t', c :: t = enc e' ++ t'

namespace Endings

variable (E : Endings α β)

/-- The text of some records. -/
def write (records : List (List α × β)) : List α :=
  records.flatMap fun p => p.1 ++ E.enc p.2

theorem write_cons (p : List α × β) (records : List (List α × β)) :
    E.write (p :: records) = p.1 ++ (E.enc p.2 ++ E.write records) := by
  rw [write, List.flatMap_cons, List.append_assoc]
  rfl

/-- Where the text of some records goes on with another ending, the one is behind the other. -/
theorem eq_append_of_enc {w r r' : List α} {e e' : β} (hw : w ≠ [])
    (h : w ++ (E.enc e ++ r) = E.enc e' ++ r') :
    ∃ v, w = E.enc e' ++ v ∧ r' = v ++ (E.enc e ++ r) := by
  cases w with
  | nil => exact absurd rfl hw
  | cons c t =>
    obtain ⟨v, hv⟩ := E.disjoint c t e r e' r' (by rw [List.append_assoc, h])
    refine ⟨v, hv, ?_⟩
    rw [hv, List.append_assoc] at h
    exact (List.append_cancel_left h).symm

section Order

variable {γ : Type} [LinearOrder γ] (rank : List α → γ)

/-- The body contains an ending, and what stands before it comes before what stands behind it. -/
def SplitsInOrder (body : List α) : Prop :=
  ∃ c e c', body = c ++ (E.enc e ++ c') ∧ rank c < rank c'

variable {E rank} (hmono : ∀ c d, rank c ≤ rank (c ++ d))

include hmono in
/-- A sequence of records cannot go on from within a body of another one, if the rest of that body
comes before all bodies that follow. -/
theorem write_ne_of_behind (xs ys : List (List α × β)) (u : List α) (f : β)
    (hxs : ∀ p ∈ xs, rank u < rank p.1 ∧ ¬E.SplitsInOrder rank p.1)
    (hys : ∀ p ∈ ys, rank u < rank p.1 ∧ ¬E.SplitsInOrder rank p.1) :
    E.write xs ≠ u ++ (E.enc f ++ E.write ys) := by
  -- The two sequences take turns: the one that is behind gets ahead with its next record.
  induction h : xs.length + ys.length generalizing xs ys u f with
  | zero =>
    intro htext
    rw [List.length_eq_zero_iff.1 (Nat.eq_zero_of_add_eq_zero_right h)] at htext
    exact E.enc_ne_nil f (List.append_eq_nil_iff.1 (List.append_eq_nil_iff.1 htext.symm).2).1
  | succ n ih =>
    intro htext
    cases xs with
    | nil =>
      exact E.enc_ne_nil f (List.append_eq_nil_iff.1 (List.append_eq_nil_iff.1 htext.symm).2).1
    | cons p xs =>
      obtain ⟨hafter, hunsplit⟩ := hxs p List.mem_cons_self
      rw [write_cons] at htext
      rcases List.append_eq_append_iff.1 htext with ⟨w, hu, -⟩ | ⟨w, hp, hrest⟩
      · rw [hu] at hafter
        exact absurd hafter (hmono p.1 w).not_gt
      · by_cases hw : w = []
        · rw [hp, hw, List.append_nil] at hafter
          exact absurd hafter (lt_irrefl _)
        · obtain ⟨v, rfl, hbehind⟩ := E.eq_append_of_enc hw hrest.symm
          have hback : rank v ≤ rank u := not_lt.1 fun hlt => hunsplit ⟨u, f, v, hp, hlt⟩
          refine ih ys xs v p.2 (fun q hq => ?_) (fun q hq => ?_) ?_ hbehind
          · exact ⟨lt_of_le_of_lt hback (hys q hq).1, (hys q hq).2⟩
          · have hq := hxs q (List.mem_cons_of_mem _ hq)
            exact ⟨lt_of_le_of_lt hback hq.1, hq.2⟩
          · rw [List.length_cons] at h
            omega

include hmono in
/-- Where the first bodies of two texts differ, the texts do. -/
theorem write_ne_of_longer {xs ys : List (List α × β)} {k w : List α} {e f : β} (hw : w ≠ [])
    (hx : ∀ p ∈ xs, rank k < rank p.1) (hy : ∀ p ∈ ys, rank (k ++ w) < rank p.1)
    (hxs : ∀ p ∈ xs, ¬E.SplitsInOrder rank p.1)
    (hys : ∀ p ∈ (k ++ w, f) :: ys, ¬E.SplitsInOrder rank p.1) :
    E.write ((k, e) :: xs) ≠ E.write ((k ++ w, f) :: ys) := by
  intro htext
  rw [write_cons, write_cons, List.append_assoc] at htext
  obtain ⟨u, rfl, hbehind⟩ := E.eq_append_of_enc hw (List.append_cancel_left htext).symm
  have hback : rank u ≤ rank k := not_lt.1 fun hlt =>
    hys _ List.mem_cons_self ⟨k, e, u, rfl, hlt⟩
  refine write_ne_of_behind hmono xs ys u f (fun p hp => ?_) (fun p hp => ?_) hbehind
  · exact ⟨lt_of_le_of_lt hback (hx p hp), hxs p hp⟩
  · exact ⟨lt_of_le_of_lt hback (lt_of_le_of_lt (hmono k _) (hy p hp)),
      hys p (List.mem_cons_of_mem _ hp)⟩

include hmono in
/-- **Sequences in order are determined by their text**, where no body splits in order. -/
theorem write_inj_of_unsplit {xs ys : List (List α × β)}
    (hx : xs.Pairwise fun p q => rank p.1 < rank q.1)
    (hy : ys.Pairwise fun p q => rank p.1 < rank q.1)
    (hxs : ∀ p ∈ xs, ¬E.SplitsInOrder rank p.1) (hys : ∀ p ∈ ys, ¬E.SplitsInOrder rank p.1)
    (h : E.write xs = E.write ys) : xs = ys := by
  have hnil : ∀ (p : List α × β) (rest : List (List α × β)), E.write (p :: rest) ≠ [] := by
    intro p rest hempty
    rw [write_cons] at hempty
    exact E.enc_ne_nil _ (List.append_eq_nil_iff.1 (List.append_eq_nil_iff.1 hempty).2).1
  induction xs generalizing ys with
  | nil =>
    cases ys with
    | nil => rfl
    | cons q ys => exact absurd h.symm (hnil q ys)
  | cons p xs ih =>
    cases ys with
    | nil => exact absurd h (hnil p xs)
    | cons q ys =>
      obtain ⟨k, e⟩ := p
      obtain ⟨l, f⟩ := q
      obtain ⟨hk, hx'⟩ := List.pairwise_cons.1 hx
      obtain ⟨hl, hy'⟩ := List.pairwise_cons.1 hy
      have hxs' := fun p hp => hxs p (List.mem_cons_of_mem _ hp)
      have hys' := fun p hp => hys p (List.mem_cons_of_mem _ hp)
      have htext := h
      rw [write_cons, write_cons] at htext
      rcases List.append_eq_append_iff.1 htext with ⟨w, hw, hrest⟩ | ⟨w, hw, hrest⟩
      · dsimp only at hw
        subst hw
        by_cases hempty : w = []
        · subst hempty
          obtain ⟨rfl, htail⟩ := E.enc_inj _ _ _ _ hrest
          rw [ih hx' hy' hxs' hys' htail, List.append_nil]
        · exact absurd h (write_ne_of_longer hmono hempty hk hl hxs' hys)
      · dsimp only at hw
        subst hw
        by_cases hempty : w = []
        · subst hempty
          obtain ⟨rfl, htail⟩ := E.enc_inj _ _ _ _ hrest.symm
          rw [ih hx' hy' hxs' hys' htail, List.append_nil]
        · exact absurd h.symm (write_ne_of_longer hmono hempty hl hk hys' hxs)

end Order

end Endings
