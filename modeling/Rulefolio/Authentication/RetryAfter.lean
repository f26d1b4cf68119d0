import Mathlib.Tactic.Linarith
import Mathlib.Tactic.Ring
import Rulefolio.Authentication.SingleUse
import Rulefolio.Library.Binary64

/-!
# How long a refused caller is told to wait

Both copies of `_attempt_retry_after`, in `app.identity.service` and in `app.workspaces.service`,
turn the time left in a window into whole seconds with `int`, which drops the fraction. Here clock
readings and durations are in microseconds, as `datetime` has them. What `int` is applied to is a
floating-point number, `total_seconds`. Where more than 2³⁴ seconds are left that number may be the
next whole second already, and then nothing is dropped.

## Main definitions

* `RetryAfter.attemptRetryAfter` — the decision and the record it leaves.
* `RetryAfter.Limiter` — the four callers.
* `RetryAfter.Sufficient` — what a caller may conclude from the answer.
* `RetryAfter.ReachesSecond` — no fraction is dropped.

## Main results

* `RetryAfter.attemptRetryAfter_seconds` — `attemptDecision`, which counts in seconds, is the same
  decision at whole seconds.
* `RetryAfter.reachesSecond_iff_of_lt` — what is not dropped below 2³⁴ seconds.
* `RetryAfter.retry_after_sufficient_iff`.
-/

namespace Rulefolio

namespace Authentication

namespace RetryAfter

/-- A second, in microseconds. -/
def second : ℤ := 1000000

theorem second_pos : 0 < second := by decide

/-- The columns of `AttemptRecord` and `WorkspaceInvitationAttempt` that the limiters read. -/
structure Attempt where
  windowStartedAt : ℤ
  count : ℕ
  deriving DecidableEq, Repr

/-- 10⁹ days, in microseconds. -/
def timedeltaEnd : ℤ := 1000000000 * 86400 * second

/-- A `timedelta`. It has less than 10⁹ days, and otherwise the constructor or the operator raises
`OverflowError`. -/
def timedelta (duration : ℤ) : Option ℤ :=
  if 86400 * second - timedeltaEnd ≤ duration ∧ duration < timedeltaEnd then some duration else none

/-- `total_seconds` of a positive duration: the quotient of two integers. -/
def totalSeconds (duration : ℤ) : ℚ :=
  Binary64.nearest (duration / second)

/-- `_attempt_retry_after`: the answer, and the record it leaves, or `none` for an `OverflowError`.
(The difference of two datetimes is always a `timedelta`.) -/
def attemptRetryAfter (length : ℤ) (maximum : ℕ) (now : ℤ) :
    Option Attempt → Option (Option ℤ × Option Attempt)
  | none => some (none, none)
  | some record => do
    let window ← timedelta length
    if window ≤ now - record.windowStartedAt then return (none, some ⟨now, 0⟩)
    else if maximum ≤ record.count then
      let left ← timedelta (window - (now - record.windowStartedAt))
      return (some (max 1 (Binary64.truncate (totalSeconds left))), some record)
    else return (none, some record)

/-- The calls that are limited. -/
inductive Limiter
  | login
  | recoveryRequest
  | credentialExchange
  | invitationExchange
  deriving DecidableEq, Repr

/-- The setting each of them passes as the maximum. -/
def Limiter.maximum (settings : IdentitySettings) : Limiter → ℕ
  | login => settings.loginMaxAttempts
  | recoveryRequest => settings.recoveryRequestMaxAttempts
  | credentialExchange | invitationExchange => settings.recoveryExchangeMaxAttempts

/-- `minutes=settings.auth_attempt_window_minutes`, in microseconds. -/
def window (settings : IdentitySettings) : ℤ :=
  attemptWindow settings * second

/-- The limiter at a moment. -/
def Limiter.decide (settings : IdentitySettings) (limiter : Limiter) (now : ℤ) :
    Option Attempt → Option (Option ℤ × Option Attempt) :=
  attemptRetryAfter (window settings) (limiter.maximum settings) now

/-! ## Seconds -/

/-- The time left is so little below a whole second that its floating-point number is no less than
that: by at most half the distance of the floating-point numbers there. For a whole number of
seconds it is by nothing. -/
def ReachesSecond (left : ℤ) : Prop :=
  -left % second * 2 ^ 53 ≤ second * 2 ^ Nat.log 2 (left / second).toNat

theorem timedelta_eq_some {duration d : ℤ} (h : timedelta duration = some d) :
    d = duration ∧ duration < 2 ^ 52 * second := by
  rw [timedelta] at h
  split_ifs at h with hrange
  exact ⟨(Option.some.inj h).symm, hrange.2.trans (by decide)⟩

theorem floor_div_second (left : ℤ) : ⌊(left : ℚ) / second⌋ = left / second := by
  rw [Int.floor_div_cast_of_nonneg second_pos.le, Int.floor_intCast]

section

variable {left : ℤ} (hpos : 0 < left) (hlt : left < 2 ^ 52 * second)

include hpos in
theorem div_second_pos : (0 : ℚ) < left / second :=
  div_pos (Int.cast_pos.2 hpos) (Int.cast_pos.2 second_pos)

include hlt in
theorem div_second_lt : (left : ℚ) / second < 2 ^ 52 := by
  rw [div_lt_iff₀ (Int.cast_pos.2 second_pos)]
  exact_mod_cast hlt

include hpos in
theorem truncate_totalSeconds :
    Binary64.truncate (totalSeconds left) = ⌊Binary64.nearest (left / second)⌋ :=
  Binary64.truncate_of_nonneg (Binary64.nearest_nonneg (div_second_pos hpos))

include hlt in
/-- The whole seconds cover the time that is left just when no fraction is dropped. -/
theorem le_truncate_iff (hsecond : second ≤ left) :
    left ≤ Binary64.truncate (totalSeconds left) * second ↔ ReachesSecond left := by
  have hleft : 0 < left := second_pos.trans_le hsecond
  have hq := div_second_pos hleft
  have hcast : (0 : ℚ) < second := Int.cast_pos.2 second_pos
  rw [truncate_totalSeconds hleft, ← Int.cast_le (R := ℚ), Int.cast_mul, ← div_le_iff₀ hcast,
    Binary64.le_floor_nearest_iff hq (div_second_lt hlt)]
  -- What is missing to the next second.
  have hceil : (⌈(left : ℚ) / second⌉ : ℚ) = left / second + (-left % second : ℤ) / second := by
    have hdiv := Int.emod_add_mul_ediv (-left) second
    have hneg : ⌈(left : ℚ) / second⌉ = -(-left / second) := by
      rw [← neg_eq_iff_eq_neg, ← Int.floor_neg, ← neg_div, ← Int.cast_neg, floor_div_second]
    rw [hneg, ← add_div, eq_div_iff hcast.ne']
    have hsum : -(-left / second) * second = left + -left % second := by linarith
    exact_mod_cast hsum
  have hlog : Int.log 2 ((left : ℚ) / second) = Nat.log 2 (left / second).toNat := by
    rw [Int.log_of_one_le_right, ← Int.floor_toNat, floor_div_second]
    rw [le_div_iff₀ hcast, one_mul]
    exact_mod_cast hsecond
  have hulp : Binary64.ulp ((left : ℚ) / second) / 2 =
      2 ^ Nat.log 2 (left / second).toNat / 2 ^ 53 := by
    rw [Binary64.ulp, hlog, zpow_sub₀ two_ne_zero, zpow_natCast, div_div]
    norm_num
  rw [hceil, hulp, add_le_add_iff_left, div_le_div_iff₀ hcast (by positivity), ReachesSecond,
    mul_comm (2 ^ Nat.log 2 _ : ℚ)]
  exact_mod_cast Iff.rfl

end

/-- Below 2³⁴ seconds it is reached by a whole number of seconds only. -/
theorem reachesSecond_iff_of_lt {left : ℤ} (hlt : left < 2 ^ 34 * second) :
    ReachesSecond left ↔ left % second = 0 := by
  have hmod : -left % second = 0 ↔ left % second = 0 := by
    rw [← Int.dvd_iff_emod_eq_zero, Int.dvd_neg, Int.dvd_iff_emod_eq_zero]
  have hnonneg := Int.emod_nonneg (-left) second_pos.ne'
  have hlog : Nat.log 2 (left / second).toNat ≤ 33 := by
    refine Nat.le_of_lt_succ (Nat.log_lt_of_lt_pow' (by decide) ?_)
    have hdiv : left / second < 2 ^ 34 := Int.ediv_lt_of_lt_mul second_pos hlt
    omega
  have hpow : (2 : ℤ) ^ Nat.log 2 (left / second).toNat ≤ 2 ^ 33 :=
    pow_le_pow_right₀ one_le_two hlog
  rw [ReachesSecond, ← hmod]
  constructor
  · intro hreaches
    have hbound : second * 2 ^ Nat.log 2 (left / second).toNat ≤ second * 2 ^ 33 :=
      mul_le_mul_of_nonneg_left hpow second_pos.le
    have hsmall : second * 2 ^ 33 < (2 : ℤ) ^ 53 := by decide
    omega
  · intro hwhole
    rw [hwhole, zero_mul]
    exact mul_nonneg second_pos.le (by positivity)

theorem truncate_totalSeconds_mul {n : ℤ} (hpos : 0 < n) (hlt : n < 2 ^ 52) :
    Binary64.truncate (totalSeconds (n * second)) = n := by
  have hcast : ((n * second : ℤ) : ℚ) / second = n := by
    rw [Int.cast_mul, mul_div_cancel_right₀ _ (Int.cast_ne_zero.2 second_pos.ne')]
  rw [truncate_totalSeconds (mul_pos hpos second_pos), hcast,
    Binary64.floor_nearest_intCast hpos hlt]

/-- At whole seconds it is the decision that counts in seconds. -/
theorem attemptRetryAfter_seconds (length maximum : ℕ) (now : Timestamp) (record : AttemptRecord)
    (hrange : ((record.windowStartedAt + length : ℕ) : ℤ) * second < timedeltaEnd) :
    (attemptRetryAfter (length * second) maximum (now * second)
        (some ⟨record.windowStartedAt * second, record.count⟩)).map (·.1) =
      some (match attemptDecision length maximum now record with
        | .refuse retryAfter => some (retryAfter : ℤ)
        | .letIn | .restart => none) := by
  have hpos := second_pos
  have hleft : (length : ℤ) * second - (now * second - record.windowStartedAt * second) =
      (record.windowStartedAt + length - now : ℤ) * second := by ring
  have hover : (length : ℤ) * second ≤ now * second - record.windowStartedAt * second ↔
      record.windowStartedAt + length ≤ now := by
    constructor
    · intro h
      have hscaled : ((record.windowStartedAt + length : ℕ) : ℤ) * second ≤ now * second := by
        push_cast
        linarith
      exact_mod_cast le_of_mul_le_mul_right hscaled hpos
    · intro h
      have hscaled : ((record.windowStartedAt + length : ℕ) : ℤ) * second ≤ now * second :=
        mul_le_mul_of_nonneg_right (by exact_mod_cast h) hpos.le
      push_cast at hscaled
      linarith
  have htimedelta : ∀ n : ℤ, 0 ≤ n → n ≤ (record.windowStartedAt + length : ℕ) →
      timedelta (n * second) = some (n * second) := by
    intro n hnonneg hn
    refine if_pos ⟨?_, lt_of_le_of_lt (mul_le_mul_of_nonneg_right hn hpos.le) hrange⟩
    exact le_trans (by decide) (mul_nonneg hnonneg hpos.le)
  rw [attemptRetryAfter, attemptDecision,
    htimedelta length (Int.natCast_nonneg _) (by push_cast; omega),
    Option.bind_eq_bind, Option.bind_some]
  by_cases hend : record.windowStartedAt + length ≤ now
  · rw [if_pos (hover.2 hend), if_pos hend]
    rfl
  · rw [if_neg (mt hover.1 hend), if_neg hend]
    by_cases hcount : maximum ≤ record.count
    · have hlt : now < record.windowStartedAt + length := not_le.1 hend
      have hseconds : (0 : ℤ) < record.windowStartedAt + length - now := by
        have hcast : (now : ℤ) < ((record.windowStartedAt + length : ℕ) : ℤ) := Int.ofNat_lt.2 hlt
        push_cast at hcast
        linarith
      have hbelow : (record.windowStartedAt + length - now : ℤ) < 2 ^ 52 := by
        have hscaled : ((record.windowStartedAt + length : ℕ) : ℤ) < 2 ^ 52 :=
          lt_of_mul_lt_mul_right (hrange.trans (by decide)) hpos.le
        push_cast at hscaled
        have hnow := Int.natCast_nonneg now
        linarith
      rw [if_pos hcount, if_pos hcount, hleft, htimedelta _ hseconds.le (by
        push_cast
        have hnow := Int.natCast_nonneg now
        linarith), Option.bind_some, truncate_totalSeconds_mul hseconds hbelow]
      push_cast [Nat.cast_sub hlt.le]
      rfl
    · rw [if_neg hcount, if_neg hcount]
      rfl

/-! ## What the answer promises -/

/-- The time left in the window of a record. -/
def timeLeft (settings : IdentitySettings) (record : Attempt) (now : ℤ) : ℤ :=
  window settings - (now - record.windowStartedAt)

/-- A caller that is told to wait for so many seconds waits at least one and no longer than a
window, and is let in from then on if nothing happens to the record. -/
def Sufficient (settings : IdentitySettings) (limiter : Limiter) (record : Option Attempt)
    (now retryAfter : ℤ) : Prop :=
  1 ≤ retryAfter ∧ retryAfter ≤ -(-window settings / second) ∧
    ∀ later, now + retryAfter * second ≤ later →
      ∃ after, limiter.decide settings later record = some (none, after)

/-- A record that refuses, what it answers and what is left of it. -/
theorem Limiter.decide_eq_some {settings : IdentitySettings} {limiter : Limiter} {now : ℤ}
    {record after : Option Attempt} {retryAfter : ℤ}
    (h : limiter.decide settings now record = some (some retryAfter, after)) :
    ∃ r : Attempt, record = some r ∧ after = some r ∧
      timedelta (window settings) = some (window settings) ∧ limiter.maximum settings ≤ r.count ∧
      0 < timeLeft settings r now ∧ timeLeft settings r now < 2 ^ 52 * second ∧
      retryAfter = max 1 (Binary64.truncate (totalSeconds (timeLeft settings r now))) := by
  cases record with
  | none => cases h
  | some r =>
    rw [Limiter.decide, attemptRetryAfter, Option.bind_eq_bind, Option.bind_eq_some_iff] at h
    obtain ⟨length, hlength, h⟩ := h
    obtain rfl := (timedelta_eq_some hlength).1
    split_ifs at h with hover hcount
    · cases h
    · obtain ⟨left, hleft, h⟩ := Option.bind_eq_some_iff.1 h
      obtain ⟨rfl, hlt⟩ := timedelta_eq_some hleft
      cases h
      refine ⟨r, rfl, rfl, hlength, hcount, ?_, hlt, rfl⟩
      rw [timeLeft]
      linarith
    · cases h

/-- A record that has reached its maximum lets in exactly when its window is over. -/
theorem Limiter.decide_letsIn_iff {settings : IdentitySettings} {limiter : Limiter} {r : Attempt}
    (hwindow : timedelta (window settings) = some (window settings))
    (hcount : limiter.maximum settings ≤ r.count) (now : ℤ) :
    (∃ after, limiter.decide settings now (some r) = some (none, after)) ↔
      timeLeft settings r now ≤ 0 := by
  rw [Limiter.decide, attemptRetryAfter, hwindow, Option.bind_eq_bind, Option.bind_some, timeLeft]
  by_cases hover : window settings ≤ now - r.windowStartedAt
  · rw [if_pos hover]
    exact ⟨fun _ => by linarith, fun _ => ⟨_, rfl⟩⟩
  · rw [if_neg hover, if_pos hcount]
    constructor
    · rintro ⟨after, h⟩
      obtain ⟨left, -, h⟩ := Option.bind_eq_some_iff.1 h
      cases h
    · intro h
      exact absurd (by linarith) hover

/-- The window is a whole number of seconds. -/
theorem neg_neg_window (settings : IdentitySettings) :
    -(-window settings / second) = attemptWindow settings := by
  rw [window, ← neg_mul, Int.mul_ediv_cancel _ second_pos.ne', neg_neg]

/-- The answer covers the time that is left just when no fraction is dropped. -/
theorem timeLeft_le_iff {left : ℤ} (hlt : left < 2 ^ 52 * second) :
    left ≤ max 1 (Binary64.truncate (totalSeconds left)) * second ↔
      left ≤ second ∨ ReachesSecond left := by
  have hpos := second_pos
  rcases le_or_gt left second with hle | hgt
  · refine ⟨fun _ => .inl hle, fun _ => ?_⟩
    calc left ≤ 1 * second := by linarith
      _ ≤ max 1 (Binary64.truncate (totalSeconds left)) * second :=
        mul_le_mul_of_nonneg_right (le_max_left _ _) hpos.le
  · have hleft : 0 < left := hpos.trans hgt
    have hone : 1 ≤ Binary64.truncate (totalSeconds left) := by
      rw [truncate_totalSeconds hleft, Binary64.floor_nearest (div_second_pos hleft)
        (div_second_lt hlt), Int.le_floor]
      have hwhole : (1 : ℚ) ≤ left / second := by
        rw [le_div_iff₀ (Int.cast_pos.2 hpos), one_mul]
        exact_mod_cast hgt.le
      have hulp := Binary64.ulp_pos ((left : ℚ) / second)
      push_cast
      linarith
    rw [max_eq_right hone, le_truncate_iff hlt hgt.le]
    exact (or_iff_right hgt.not_ge).symm

/-- **Retry-After is sufficient just when it is whole.** A caller that a limiter refuses, and tells
to wait, waits long enough and no longer than a window if and only if the time left in the window is
at most a second, or reaches a whole number of seconds, in a window that has already begun. -/
theorem retry_after_sufficient_iff (settings : IdentitySettings) (limiter : Limiter) (now : ℤ)
    (record after : Option Attempt) (retryAfter : ℤ)
    (h : limiter.decide settings now record = some (some retryAfter, after)) :
    Sufficient settings limiter after now retryAfter ↔
      ∀ r ∈ record, timeLeft settings r now ≤ second ∨
        r.windowStartedAt ≤ now ∧ ReachesSecond (timeLeft settings r now) := by
  obtain ⟨r, rfl, rfl, htimedelta, hcount, hleft, hlt, rfl⟩ := Limiter.decide_eq_some h
  simp only [Option.mem_some_iff, forall_eq']
  have hlater : (∀ later, now + max 1 (Binary64.truncate (totalSeconds (timeLeft settings r now))) *
      second ≤ later → ∃ after, limiter.decide settings later (some r) = some (none, after)) ↔
        timeLeft settings r now ≤
          max 1 (Binary64.truncate (totalSeconds (timeLeft settings r now))) * second := by
    have hshift : ∀ later, timeLeft settings r later = timeLeft settings r now - (later - now) := by
      intro later
      rw [timeLeft, timeLeft]
      ring
    constructor
    · intro hall
      have hover := (Limiter.decide_letsIn_iff htimedelta hcount _).1 (hall _ le_rfl)
      rw [hshift] at hover
      linarith
    · intro hcover later hlater
      rw [Limiter.decide_letsIn_iff htimedelta hcount, hshift]
      linarith
  have hlength : timeLeft settings r now = attemptWindow settings * second -
      (now - r.windowStartedAt) := rfl
  have hwindow : (1 : ℤ) ≤ attemptWindow settings := by
    have hminutes := settings.one_le_authAttemptWindowMinutes
    rw [attemptWindow, minutes]
    exact_mod_cast Nat.one_le_iff_ne_zero.2 (by omega)
  have hpos := second_pos
  rw [Sufficient, neg_neg_window, hlater]
  constructor
  · rintro ⟨-, hbound, hcover⟩
    have hcase := (timeLeft_le_iff hlt).1 hcover
    refine (le_or_gt (timeLeft settings r now) second).imp_right fun hgt =>
      ⟨?_, hcase.resolve_left hgt.not_ge⟩
    have hscaled := hcover.trans (mul_le_mul_of_nonneg_right hbound hpos.le)
    linarith
  · intro hcase
    refine ⟨le_max_left _ _, max_le hwindow ?_, (timeLeft_le_iff hlt).2 (hcase.imp_right And.right)⟩
    -- Rounding takes the time left to no more than the next second.
    rw [truncate_totalSeconds hleft]
    refine Binary64.floor_nearest_le (div_second_pos hleft) (div_second_lt hlt) ?_
    rw [div_le_iff₀ (Int.cast_pos.2 hpos)]
    have hwhole : timeLeft settings r now ≤ attemptWindow settings * second := by
      rcases hcase with hshort | ⟨hbegun, -⟩
      · exact hshort.trans (le_mul_of_one_le_left hpos.le hwindow)
      · linarith
    exact_mod_cast hwhole

/-! ## A fraction is dropped

Of a window of fifteen minutes 799.5 seconds are left. The caller is told to wait 799. -/

/-- A login that has failed five times since the clock was at zero. -/
def fiveFailures : Attempt := ⟨0, 5⟩

theorem retry_after_sufficient_iff_fiveFailures :
    Sufficient plainSettings .login (some fiveFailures) 100000000 800 := by
  refine (retry_after_sufficient_iff plainSettings .login 100000000 (some fiveFailures)
    (some fiveFailures) 800 (by decide +kernel)).2 fun r hr => .inr ?_
  obtain rfl := Option.mem_some_iff.1 hr
  exact ⟨by decide, (reachesSecond_iff_of_lt (by decide)).2 (by decide)⟩

/-- Half a second later the answer is a second less, and whoever waits for it is refused again. -/
theorem fiveFailures_refused_again :
    Limiter.login.decide plainSettings 100500000 (some fiveFailures) =
        some (some 799, some fiveFailures) ∧
      ¬ Sufficient plainSettings .login (some fiveFailures) 100500000 799 := by
  refine ⟨by decide +kernel, fun h => ?_⟩
  obtain ⟨after, hagain⟩ := h.2.2 899500000 (by decide)
  have hrefused : (Limiter.login.decide plainSettings 899500000 (some fiveFailures)).map (·.1) =
      some (some 1) := by decide +kernel
  rw [hagain] at hrefused
  cases hrefused

end RetryAfter

end Authentication

end Rulefolio
