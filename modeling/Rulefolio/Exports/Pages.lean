import Mathlib.Data.Int.Basic
import Mathlib.Data.List.Basic
import Mathlib.Tactic.Linarith

/-!
# Collecting pages

`_all_pages` asks for page after page until it has gathered as many items as the last page reported
in total. Between two calls the source may change, and with it the pages and the total. A page is
asked for once, so a function of the page covers every source, changing or not.

The loop has no bound, so it gets one here: a number of turns, after which the model gives up with
`none`.

## Main definitions

* `allPages` — the loop.
* `slices` — the pages of one list.
* `Gathers` — the pages the loop has passed.

## Main results

* `all_pages_exact`.
-/

namespace Rulefolio

namespace Exports

variable {α ε : Type}

/-- `PAGE_SIZE`. -/
def pageSize : ℕ := 1000

/-- What `_all_pages` raises: its own exception, or one of the function it calls. -/
inductive Raised (ε : Type)
  | workExportRetryable
  | fetch (e : ε)
  deriving DecidableEq, Repr

/-- A function that answers with the items of a page and a total, or raises. -/
abbrev Fetch (ε α : Type) := (page size : ℕ) → Except ε (List α × ℤ)

/-- The `while` loop, with the number of turns it is given. -/
def allPagesFrom (fetch : Fetch ε α) : (turns page : ℕ) → (result : List α) →
    Option (Except (Raised ε) (List α))
  | 0, _, _ => none
  | turns + 1, page, result =>
    match fetch page pageSize with
    | .error e => some (.error (.fetch e))
    | .ok (items, total) =>
      let result := result ++ items
      if (result.length : ℤ) = total then some (.ok result)
      else if total < result.length ∨ items = [] then some (.error .workExportRetryable)
      else allPagesFrom fetch turns (page + 1) result

/-- `_all_pages`. -/
def allPages (fetch : Fetch ε α) (turns : ℕ) : Option (Except (Raised ε) (List α)) :=
  allPagesFrom fetch turns 1 []

/-- The pages of one list, each with its length. -/
def slices (xs : List α) : Fetch ε α := fun page size =>
  .ok ((xs.drop ((page - 1) * size)).take size, xs.length)

example : allPages (slices [1, 2, 3] : Fetch Empty ℕ) 1 = some (.ok [1, 2, 3]) := rfl

/-! ## One list -/

theorem pageSize_pos : 0 < pageSize := by decide

/-- What is gathered after one more page. -/
theorem take_append_page (xs : List α) (k : ℕ) :
    xs.take (k * pageSize) ++ (xs.drop (k * pageSize)).take pageSize =
      xs.take ((k + 1) * pageSize) := by
  rw [Nat.succ_mul, List.take_add]

/-- The loop on the pages of a list, when `k` of them are behind it. -/
theorem allPagesFrom_slices (xs : List α) (turns k : ℕ)
    (h : xs.length ≤ (k + turns) * pageSize) :
    allPagesFrom (slices xs : Fetch ε α) (turns + 1) (k + 1) (xs.take (k * pageSize)) =
      some (.ok xs) := by
  induction turns generalizing k with
  | zero =>
    have hall : xs.length ≤ (k + 1) * pageSize := h.trans (Nat.mul_le_mul_right _ (by omega))
    rw [allPagesFrom, slices]
    dsimp only
    rw [Nat.add_sub_cancel, take_append_page, List.take_of_length_le hall, if_pos rfl]
  | succ turns ih =>
    rw [allPagesFrom, slices]
    dsimp only
    rw [Nat.add_sub_cancel, take_append_page]
    by_cases hall : xs.length ≤ (k + 1) * pageSize
    · rw [List.take_of_length_le hall, if_pos rfl]
    · have hmore : (k + 1) * pageSize < xs.length := not_le.1 hall
      have hlength : (xs.take ((k + 1) * pageSize)).length = (k + 1) * pageSize :=
        List.length_take_of_le hmore.le
      have hpage : (xs.drop (k * pageSize)).take pageSize ≠ [] := by
        intro hnil
        have hempty := congrArg List.length hnil
        rw [List.length_take, List.length_drop, List.length_nil] at hempty
        have hpos := pageSize_pos
        rw [Nat.succ_mul] at hmore
        omega
      rw [if_neg (by rw [hlength]; exact_mod_cast hmore.ne), if_neg]
      · exact ih (k + 1) (by rw [Nat.add_right_comm]; exact h)
      · rintro (hlt | hnil)
        · rw [hlength] at hlt
          exact absurd (Int.ofNat_lt.1 hlt) hmore.not_gt
        · exact hpage hnil

/-! ## Any source -/

/-- The loop has passed the pages before `page` and gathered `result`. -/
inductive Gathers (fetch : Fetch ε α) : (page : ℕ) → (result : List α) → Prop
  | start : Gathers fetch 1 []
  | next {page : ℕ} {result items : List α} {total : ℤ} (h : Gathers fetch page result)
      (hfetch : fetch page pageSize = .ok (items, total))
      (hmore : ((result ++ items).length : ℤ) < total) (hitems : items ≠ []) :
      Gathers fetch (page + 1) (result ++ items)

variable {fetch : Fetch ε α} {page : ℕ} {result : List α}

/-- The pages before `page`, in order, are what has been gathered. -/
theorem Gathers.answers (h : Gathers fetch page result) :
    ∃ answers : List (List α × ℤ), answers.length + 1 = page ∧
      (∀ k (hk : k < answers.length), fetch (k + 1) pageSize = .ok answers[k]) ∧
        result = (answers.map (·.1)).flatten := by
  induction h with
  | start => exact ⟨[], rfl, fun k hk => absurd hk (Nat.not_lt_zero k), rfl⟩
  | @next page result items total h hfetch hmore hitems ih =>
    obtain ⟨answers, hlength, hanswers, rfl⟩ := ih
    refine ⟨answers ++ [(items, total)], by simp [hlength], fun k hk => ?_, by simp⟩
    rcases Nat.lt_or_ge k answers.length with hlt | hge
    · rw [List.getElem_append_left hlt]
      exact hanswers k hlt
    · obtain rfl : k = answers.length := by
        rw [List.length_append, List.length_singleton] at hk
        omega
      rw [List.getElem_append_right le_rfl, hlength, hfetch]
      simp

/-- The loop that has passed some pages goes on where it is. -/
theorem Gathers.allPages_eq (h : Gathers fetch page result) (turns : ℕ) :
    allPages fetch (page - 1 + turns) = allPagesFrom fetch turns page result := by
  induction h generalizing turns with
  | start => rw [Nat.sub_self, Nat.zero_add, allPages]
  | @next page result items total h hfetch hmore hitems ih =>
    have hpage : 1 ≤ page := by
      obtain ⟨answers, hlength, -⟩ := h.answers
      omega
    have hturns : page + 1 - 1 + turns = page - 1 + (turns + 1) := by omega
    rw [hturns, ih, allPagesFrom, hfetch]
    dsimp only
    rw [if_neg hmore.ne, if_neg]
    rintro (hlt | hnil)
    · exact lt_asymm hlt hmore
    · exact hitems hnil

/-- A list the loop returns is what it has gathered with its last page. -/
theorem gathers_of_allPagesFrom {turns : ℕ} {found : List α} (h : Gathers fetch page result)
    (hreturn : allPagesFrom fetch turns page result = some (.ok found)) :
    ∃ last gathered items, Gathers fetch last gathered ∧
      fetch last pageSize = .ok (items, (found.length : ℤ)) ∧ found = gathered ++ items := by
  induction turns generalizing page result with
  | zero => cases hreturn
  | succ turns ih =>
    rw [allPagesFrom] at hreturn
    cases hfetch : fetch page pageSize with
    | error e =>
      rw [hfetch] at hreturn
      cases hreturn
    | ok answer =>
      obtain ⟨items, total⟩ := answer
      rw [hfetch] at hreturn
      dsimp only at hreturn
      split at hreturn
      · rename_i htotal
        cases hreturn
        exact ⟨page, result, items, h, by rw [hfetch, htotal], rfl⟩
      · rename_i htotal
        split at hreturn
        · cases hreturn
        · rename_i hgoes
          rw [not_or, not_lt] at hgoes
          exact ih (h.next hfetch (lt_of_le_of_ne hgoes.1 htotal) hgoes.2) hreturn

/-- **Collecting pages is exact.** On the pages of one list the loop ends and returns the list.
Whatever the source does, a list that is returned consists of the pages `1` to `n`, in order, and is
as long as page `n` reported; and where the total that a page reports is not what has been gathered,
an empty page or a total that is exceeded raises the retryable exception. -/
theorem all_pages_exact :
    (∀ (xs : List α) (turns : ℕ), xs.length < turns →
      allPages (slices xs : Fetch ε α) turns = some (.ok xs)) ∧
    ∀ fetch : Fetch ε α,
      (∀ turns result, allPages fetch turns = some (.ok result) →
        ∃ answers : List (List α × ℤ), ∃ n, answers.length = n + 1 ∧
          (∀ k (hk : k < answers.length), fetch (k + 1) pageSize = .ok answers[k]) ∧
            result = (answers.map (·.1)).flatten ∧
              (answers[n]?).map (·.2) = some (result.length : ℤ)) ∧
      ∀ page result items total, Gathers fetch page result →
        fetch page pageSize = .ok (items, total) → ((result ++ items).length : ℤ) ≠ total →
          (items = [] ∨ total < (result ++ items).length) →
            ∀ turns, allPages fetch (page + turns) = some (.error .workExportRetryable) := by
  refine ⟨fun xs turns hturns => ?_, fun fetch => ⟨fun turns result hreturn => ?_, ?_⟩⟩
  · obtain ⟨n, rfl⟩ := Nat.exists_eq_add_of_lt hturns
    have hbound : xs.length ≤ (0 + (xs.length + n)) * pageSize := by
      have hpos := pageSize_pos
      calc xs.length ≤ 0 + (xs.length + n) := by omega
        _ ≤ (0 + (xs.length + n)) * pageSize := Nat.le_mul_of_pos_right _ hpos
    have hloop := allPagesFrom_slices (ε := ε) xs (xs.length + n) 0 hbound
    rwa [Nat.zero_mul, List.take_zero] at hloop
  · obtain ⟨last, gathered, items, hgathers, hfetch, rfl⟩ :=
      gathers_of_allPagesFrom .start hreturn
    obtain ⟨answers, hlength, hanswers, rfl⟩ := hgathers.answers
    refine ⟨answers ++ [(items, (((answers.map (·.1)).flatten ++ items).length : ℤ))],
      answers.length, by simp, fun k hk => ?_, by simp, by rw [List.getElem?_concat_length]; rfl⟩
    rcases Nat.lt_or_ge k answers.length with hlt | hge
    · rw [List.getElem_append_left hlt]
      exact hanswers k hlt
    · obtain rfl : k = answers.length := by
        rw [List.length_append, List.length_singleton] at hk
        omega
      rw [List.getElem_append_right le_rfl, hlength, hfetch]
      simp
  · intro page result items total hgathers hfetch hne hstop turns
    have hpage : 1 ≤ page := by
      obtain ⟨answers, hlength, -⟩ := hgathers.answers
      omega
    have hturns : page + turns = page - 1 + (turns + 1) := by omega
    rw [hturns, hgathers.allPages_eq, allPagesFrom, hfetch]
    dsimp only
    rw [if_neg hne, if_pos hstop.symm]

/-- Two pages and a half. -/
theorem all_pages_exact_range :
    allPages (slices (List.range 2500) : Fetch Empty ℕ) 2501 = some (.ok (List.range 2500)) :=
  (all_pages_exact (ε := Empty)).1 (List.range 2500) 2501 (by simp)

end Exports

end Rulefolio
