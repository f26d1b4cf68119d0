import Mathlib.Data.Int.Log
import Mathlib.Data.Rat.Floor
import Mathlib.Tactic.FieldSimp
import Mathlib.Tactic.Linarith

/-!
# Rounding to a floating-point number

A number of the format `binary64` has 53 significant binary digits. An operation on such numbers, or
the quotient of two integers, is the exact result, rounded to the nearest of them, and to the one
with an even last digit where two are equally near. The positive numbers here are rational and the
exponent has no bounds.

Rounding comes before a whole part is taken, and may carry a number over the next integer. How far
below the integer that happens depends on the size of the number (`floor_nearest`).

## Main definitions

* `roundHalfEven`, `ulp`, `nearest`.
* `truncate` — the whole part.

## Main results

* `floor_nearest` — what rounding does to the whole part.
* `le_floor_nearest_iff` — when the whole part of the rounded number is no less than the number.
-/

namespace Binary64

/-- The nearest integer, the even one of two. -/
def roundHalfEven (x : ℚ) : ℤ :=
  if Int.fract x < 1 / 2 then ⌊x⌋
  else if 1 / 2 < Int.fract x then ⌊x⌋ + 1
  else if Even ⌊x⌋ then ⌊x⌋ else ⌊x⌋ + 1

/-- How far the numbers with 53 significant digits are apart, at a positive number. -/
def ulp (q : ℚ) : ℚ := 2 ^ (Int.log 2 q - 52)

/-- The nearest of these numbers. -/
def nearest (q : ℚ) : ℚ := roundHalfEven (q / ulp q) * ulp q

/-- The whole part, towards zero. -/
def truncate (x : ℚ) : ℤ := if 0 ≤ x then ⌊x⌋ else ⌈x⌉

theorem truncate_of_nonneg {x : ℚ} (h : 0 ≤ x) : truncate x = ⌊x⌋ := if_pos h

/-! ## Integers -/

/-- Half a unit more has the same whole part as the rounded number, but for a tie that goes down to
an even number. -/
theorem floor_add_half (x : ℚ) : ⌊x + 1 / 2⌋ = roundHalfEven x ∨
    Even (roundHalfEven x) ∧ ⌊x + 1 / 2⌋ = roundHalfEven x + 1 := by
  have hx : ⌊x⌋ + Int.fract x = x := Int.floor_add_fract x
  have hnonneg := Int.fract_nonneg x
  have hlt := Int.fract_lt_one x
  have hdown : Int.fract x < 1 / 2 → ⌊x + 1 / 2⌋ = ⌊x⌋ := fun h =>
    Int.floor_eq_iff.2 ⟨by linarith, by linarith⟩
  have hup : 1 / 2 ≤ Int.fract x → ⌊x + 1 / 2⌋ = ⌊x⌋ + 1 := by
    intro h
    refine Int.floor_eq_iff.2 ⟨?_, ?_⟩ <;> push_cast <;> linarith
  rw [roundHalfEven]
  split_ifs with hbelow habove heven
  · exact .inl (hdown hbelow)
  · exact .inl (hup habove.le)
  · exact .inr ⟨heven, hup (not_lt.1 hbelow)⟩
  · exact .inl (hup (not_lt.1 hbelow))

/-- The tie makes no difference to a quotient by an even number. -/
theorem roundHalfEven_ediv {s : ℤ} (hs : Even s) (hpos : 0 < s) (x : ℚ) :
    roundHalfEven x / s = ⌊x + 1 / 2⌋ / s := by
  rcases floor_add_half x with heq | ⟨heven, heq⟩
  · rw [heq]
  · rw [heq]
    have hdiv := Int.emod_add_mul_ediv (roundHalfEven x) s
    have hlt := Int.emod_lt_of_pos (roundHalfEven x) hpos
    have hnonneg := Int.emod_nonneg (roundHalfEven x) hpos.ne'
    -- The remainder is even, so it is not the last one.
    have hrest : Even (roundHalfEven x % s) := by
      rw [Int.emod_def]
      exact heven.sub (hs.mul_right _)
    have hlast : roundHalfEven x % s + 1 < s := by
      refine lt_of_le_of_ne hlt fun h => ?_
      rw [← h, Int.even_add_one] at hs
      exact hs hrest
    have hunique := (Int.ediv_emod_unique hpos).2
      ⟨show roundHalfEven x % s + 1 + s * (roundHalfEven x / s) = roundHalfEven x + 1 by linarith,
        by linarith, hlast⟩
    exact hunique.1.symm

/-! ## The whole part -/

section

variable {q : ℚ}

/-- Below 2⁵² half a unit is still a binary fraction. -/
theorem ulp_eq (hq : 0 < q) (hlt : q < 2 ^ 52) : ∃ j : ℕ, ulp q = ((2 ^ (j + 1) : ℤ) : ℚ)⁻¹ := by
  have hlog : Int.log 2 q < 52 := by
    refine (Int.lt_zpow_iff_log_lt Nat.one_lt_two hq).1 ?_
    exact_mod_cast hlt
  refine ⟨(51 - Int.log 2 q).toNat, ?_⟩
  have hj : Int.log 2 q - 52 = -(((51 - Int.log 2 q).toNat + 1 : ℕ) : ℤ) := by
    push_cast
    omega
  rw [ulp, hj, zpow_neg, zpow_natCast]
  push_cast
  rfl

theorem ulp_pos (q : ℚ) : 0 < ulp q := zpow_pos two_pos _

theorem ulp_le (hq : 0 < q) (hlt : q < 2 ^ 52) : ulp q ≤ 1 / 2 := by
  obtain ⟨j, hj⟩ := ulp_eq hq hlt
  rw [hj, one_div]
  refine inv_anti₀ two_pos ?_
  rw [pow_succ]
  push_cast
  exact le_mul_of_one_le_left two_pos.le (one_le_pow₀ one_le_two)

/-- **Rounding moves the whole part like an addition of half a unit.** -/
theorem floor_nearest (hq : 0 < q) (hlt : q < 2 ^ 52) : ⌊nearest q⌋ = ⌊q + ulp q / 2⌋ := by
  obtain ⟨j, hj⟩ := ulp_eq hq hlt
  have hpos : (0 : ℤ) < 2 ^ (j + 1) := by positivity
  have heven : Even (2 ^ (j + 1) : ℤ) := (even_two).pow_of_ne_zero (Nat.succ_ne_zero j)
  have hscaled : q + ulp q / 2 = (q / ulp q + 1 / 2) / ((2 ^ (j + 1) : ℤ) : ℚ) := by
    have hunit : ulp q ≠ 0 := (ulp_pos q).ne'
    rw [div_eq_mul_inv _ ((2 ^ (j + 1) : ℤ) : ℚ), ← hj]
    field_simp
  calc ⌊nearest q⌋ = ⌊(roundHalfEven (q / ulp q) : ℚ) / ((2 ^ (j + 1) : ℤ) : ℚ)⌋ := by
        rw [nearest, hj, div_eq_mul_inv _ ((2 ^ (j + 1) : ℤ) : ℚ)]
    _ = roundHalfEven (q / ulp q) / 2 ^ (j + 1) := by
        rw [Int.floor_div_cast_of_nonneg hpos.le, Int.floor_intCast]
    _ = ⌊q / ulp q + 1 / 2⌋ / 2 ^ (j + 1) := roundHalfEven_ediv heven hpos _
    _ = ⌊q + ulp q / 2⌋ := by rw [hscaled, Int.floor_div_cast_of_nonneg hpos.le]

/-- **The whole part is no less than the number** just when half a unit reaches the next integer. -/
theorem le_floor_nearest_iff (hq : 0 < q) (hlt : q < 2 ^ 52) :
    q ≤ ⌊nearest q⌋ ↔ ⌈q⌉ ≤ q + ulp q / 2 := by
  rw [floor_nearest hq hlt, ← Int.ceil_le, Int.le_floor]

/-- The whole part grows by less than one. -/
theorem floor_nearest_le {n : ℤ} (hq : 0 < q) (hlt : q < 2 ^ 52) (hn : q ≤ n) :
    ⌊nearest q⌋ ≤ n := by
  rw [floor_nearest hq hlt, ← Int.lt_add_one_iff, Int.floor_lt]
  have hulp := ulp_le hq hlt
  push_cast
  linarith

theorem floor_nearest_intCast {n : ℤ} (hq : 0 < n) (hlt : n < 2 ^ 52) :
    ⌊nearest n⌋ = n := by
  have hq' : (0 : ℚ) < n := Int.cast_pos.2 hq
  have hlt' : (n : ℚ) < 2 ^ 52 := by exact_mod_cast hlt
  refine le_antisymm (floor_nearest_le hq' hlt' le_rfl) ?_
  rw [floor_nearest hq' hlt', Int.le_floor]
  have hulp := ulp_pos (n : ℚ)
  linarith

theorem nearest_nonneg (hq : 0 < q) : 0 ≤ nearest q := by
  have hx : 0 ≤ q / ulp q := div_nonneg hq.le (ulp_pos q).le
  have hfloor : 0 ≤ ⌊q / ulp q⌋ := Int.floor_nonneg.2 hx
  refine mul_nonneg (Int.cast_nonneg ?_) (ulp_pos q).le
  rw [roundHalfEven]
  split_ifs <;> omega

end

end Binary64
