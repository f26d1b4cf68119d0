import Rulefolio.Authentication.SingleUse

/-!
# The limiter of `login`

Any number of logins with one email take the statements of `login` in any order. A login that finds
an attempt record has it locked until it commits, so the failures are counted one by one. A login
that finds none has nothing to lock, and that is what a burst at the start of a window uses: every
login of it is let in, each verifies a password, and the failures are counted only afterwards.

The statements are those of `login` in `Service`, one step each. A `SELECT … FOR UPDATE` takes two:
it looks for the row, and it waits for the lock. What it finds after the wait is the row it was
waiting for, or nothing if that row was deleted meanwhile: a row that was inserted later is not in
its snapshot. The account is locked between, if the email has one. What the limiter makes of the
record is `attemptDecision` and `countAttempt`. `Authentication.Logins` compares a login here with
the program.

`window` numbers the stretches in which the failures are counted together: the next one begins
when a login finds the window of the record over, and when a login succeeds. `failures` has the
window in which each login that verified a password and failed was let in. Neither is read by any
step.

## Main definitions

* `LimiterState`, `LimiterEvent`, `limiterSystem`.
* `letsInAlone` — what has to hold when a login is let in that has found no record.

## Main results

* `burst_exceeds_limit` — six logins at the start of a window verify six passwords, where five are
  allowed.
* `guesses_bounded` — in a run whose steps all satisfy `letsInAlone` the limit holds.
-/

namespace Rulefolio

namespace Authentication

/-! ## Logins -/

/-- Where a login is. -/
inductive LoginPhase
  /-- Before `_attempt_retry_after`. -/
  | arrived
  /-- It has found this incarnation of the record there and waits for its lock. -/
  | waiting (incarnation : ℕ)
  /-- It has been let in, before the account is locked. -/
  | admitted
  /-- Before the password is verified. -/
  | checking
  /-- The verification has failed, before `_record_attempt`. -/
  | failed
  /-- `_record_attempt` has found this incarnation of the record and waits for its lock. -/
  | recording (incarnation : ℕ)
  /-- `_record_attempt` has found no record, before the `INSERT`. -/
  | inserting
  /-- The failure is counted, before the commit. -/
  | recorded
  /-- The password matches, before `_clear_attempt`. -/
  | matched
  /-- `_clear_attempt` has found this incarnation of the record and waits for its lock. -/
  | clearing (incarnation : ℕ)
  /-- The session is created, before the commit. -/
  | created (deletes : Bool)
  /-- It has returned or raised. -/
  | finished
  deriving DecidableEq, Repr

/-- A login has been let in and is not over. -/
def LoginPhase.isInFlight : LoginPhase → Bool
  | .arrived | .waiting _ | .finished => false
  | _ => true

/-- One call of `login`. -/
structure LoginCall where
  phase : LoginPhase
  /-- The clock readings of `_attempt_retry_after` and `_record_attempt`. -/
  now : Timestamp
  failedAt : Timestamp
  /-- The password is the one of the account, and the account is active. -/
  isRight : Bool
  /-- The record it has locked, as it has written it. -/
  own : Option AttemptRecord
  /-- The window it was let in in. -/
  window : ℕ
  deriving DecidableEq, Repr

/-- The state of the limiter for one email. -/
structure LimiterState where
  /-- The committed record. -/
  record : Option AttemptRecord
  /-- How often the record has been deleted. -/
  incarnation : ℕ
  recordLock : Option ℕ
  accountLock : Option ℕ
  logins : List LoginCall
  window : ℕ
  failures : List ℕ
  deriving DecidableEq, Repr

namespace LimiterState

/-- The record, if it is the one that was found. -/
def found (s : LimiterState) (incarnation : ℕ) : Option AttemptRecord :=
  if s.incarnation = incarnation then s.record else none

/-- The login is replaced. -/
def put (s : LimiterState) (i : ℕ) (l : LoginCall) : LimiterState :=
  { s with logins := s.logins.set i l }

/-- The locks of the login are released. -/
def release (s : LimiterState) (i : ℕ) : LimiterState :=
  { s with
    recordLock := if s.recordLock = some i then none else s.recordLock
    accountLock := if s.accountLock = some i then none else s.accountLock }

/-- The login is let in without a record. -/
def admitUnlocked (s : LimiterState) (i : ℕ) (l : LoginCall) : LimiterState :=
  s.put i { l with phase := .admitted, own := none, window := s.window }

/-- The login has the record locked: it is refused or let in. -/
def decide (settings : IdentitySettings) (s : LimiterState) (i : ℕ) (l : LoginCall)
    (record : AttemptRecord) : LimiterState :=
  match attemptDecision (attemptWindow settings) settings.loginMaxAttempts l.now record with
  | .refuse _ => s.put i { l with phase := .finished }
  | .letIn =>
    { s with recordLock := some i }.put i
      { l with phase := .admitted, own := some record, window := s.window }
  | .restart =>
    { s with recordLock := some i, window := s.window + 1 }.put i
      { l with
        phase := .admitted
        own := some { record with windowStartedAt := l.now, count := 0 }
        window := s.window + 1 }

/-- `_record_attempt` counts the failure on a record that is locked. -/
def count (settings : IdentitySettings) (s : LimiterState) (i : ℕ) (l : LoginCall)
    (record : AttemptRecord) : LimiterState :=
  { s with
    recordLock := some i
    window := if record.windowStartedAt + attemptWindow settings ≤ l.failedAt then s.window + 1
      else s.window }.put i
    { l with
      phase := .recorded
      own := some (countAttempt (attemptWindow settings) l.failedAt record) }

/-- The next statement of a login. -/
def advance (settings : IdentitySettings) (hasAccount : Bool) (subject : Bytes) (s : LimiterState)
    (i : ℕ) (l : LoginCall) : Option LimiterState :=
  match l.phase with
  | .arrived =>
    match s.record with
    | none => some (s.admitUnlocked i l)
    | some _ => some (s.put i { l with phase := .waiting s.incarnation })
  | .waiting incarnation =>
    match s.found incarnation with
    | none => some (s.admitUnlocked i l)
    | some record => if s.recordLock = none then some (s.decide settings i l record) else none
  | .admitted =>
    if hasAccount then
      if s.accountLock = none then
        some ({ s with accountLock := some i }.put i { l with phase := .checking })
      else none
    else some (s.put i { l with phase := .checking })
  | .checking =>
    if hasAccount && l.isRight then some (s.put i { l with phase := .matched })
    else some ({ s with failures := l.window :: s.failures }.put i { l with phase := .failed })
  | .failed =>
    match l.own, s.record with
    | some record, _ => some (s.count settings i l record)
    | none, some _ => some (s.put i { l with phase := .recording s.incarnation })
    | none, none => some (s.put i { l with phase := .inserting })
  | .recording incarnation =>
    match s.found incarnation with
    | none => some (s.put i { l with phase := .inserting })
    | some record => if s.recordLock = none then some (s.count settings i l record) else none
  | .inserting =>
    if s.recordLock = none then
      match s.record with
      | some _ => some ((s.release i).put i { l with phase := .finished })
      | none =>
        some ({ s with recordLock := some i }.put i
          { l with phase := .recorded, own := some ⟨.login, subject, l.failedAt, 1⟩ })
    else none
  | .recorded =>
    some (({ s with record := l.own }.release i).put i { l with phase := .finished })
  | .matched =>
    match l.own, s.record with
    | some _, _ => some (s.put i { l with phase := .created true })
    | none, some _ => some (s.put i { l with phase := .clearing s.incarnation })
    | none, none => some (s.put i { l with phase := .created false })
  | .clearing incarnation =>
    match s.found incarnation with
    | none => some (s.put i { l with phase := .created false })
    | some _ =>
      if s.recordLock = none then
        some ({ s with recordLock := some i }.put i { l with phase := .created true })
      else none
  | .created deletes =>
    some (({ s with
      record := if deletes then none else s.record
      incarnation := if deletes then s.incarnation + 1 else s.incarnation
      window := s.window + 1 }.release i).put i { l with phase := .finished })
  | .finished => none

end LimiterState

/-- What happens next. -/
inductive LimiterEvent
  | arrive (now failedAt : Timestamp) (isRight : Bool)
  | advance (i : ℕ)
  deriving DecidableEq, Repr

/-- One step. -/
def limiterStep (settings : IdentitySettings) (hasAccount : Bool) (subject : Bytes)
    (s : LimiterState) : LimiterEvent → Option LimiterState
  | .arrive now failedAt isRight =>
    some { s with logins := s.logins ++ [⟨.arrived, now, failedAt, isRight, none, 0⟩] }
  | .advance i => s.logins[i]?.bind (s.advance settings hasAccount subject i)

/-- **Any number of logins with one email**, over any record. -/
def limiterSystem (settings : IdentitySettings) (hasAccount : Bool) (subject : Bytes) :
    TransitionSystem LimiterState LimiterEvent where
  init s := s.recordLock = none ∧ s.accountLock = none ∧ s.logins = [] ∧ s.failures = []
  step := limiterStep settings hasAccount subject

/-! ## The burst -/

/-- Six logins with a wrong password come before the first has failed; then one after the other
verifies its password and has its failure counted. -/
def burst : List LimiterEvent :=
  (List.range 6).flatMap (fun i => [.arrive 100 101 false, .advance i]) ++
    .advance 0 :: .advance 0 :: .advance 0 :: .advance 0 :: .advance 0 ::
      (List.range' 1 5).flatMap fun i =>
        [.advance i, .advance i, .advance i, .advance i, .advance i]

/-- **A burst at the start of a window exceeds the limit.** -/
theorem burst_exceeds_limit : ∃ s, (limiterSystem plainSettings true []).Reachable s ∧
    s.logins.all (·.phase == .finished) = true ∧
      plainSettings.loginMaxAttempts < s.failures.count 0 := by
  obtain ⟨s, hs, hfacts⟩ := (Option.any_eq_true _ _).1
    (show ((limiterSystem plainSettings true []).run ⟨none, 0, none, none, [], 0, []⟩ burst).any
      (fun s => s.logins.all (·.phase == .finished) &&
        Nat.blt plainSettings.loginMaxAttempts (s.failures.count 0)) = true by decide +kernel)
  rw [Bool.and_eq_true, Nat.blt_eq] at hfacts
  exact ⟨s, ⟨_, burst, ⟨rfl, rfl, rfl, rfl⟩, hs⟩, hfacts⟩

/-! ## The condition -/

/-- The next statement of the login lets it in without a record. -/
def LimiterState.letsInUnlocked (s : LimiterState) (l : LoginCall) : Bool :=
  match l.phase with
  | .arrived => s.record.isNone
  | .waiting incarnation => (s.found incarnation).isNone
  | _ => false

/-- **A login that is let in because it has found no record is let in alone**: there is no record,
and no other login that has been let in is in progress. -/
def letsInAlone (s : LimiterState) : LimiterEvent → Bool
  | .arrive .. => true
  | .advance i => s.logins[i]?.all fun l =>
    !s.letsInUnlocked l || (s.record.isNone && s.logins.all (!·.phase.isInFlight))

/-! ## The invariant -/

namespace LimiterState

/-- The failures of the present window. -/
def tally (s : LimiterState) : ℕ := s.failures.count s.window

/-- The failures a record has counted. -/
def counted (record : Option AttemptRecord) : ℕ := (record.map (·.count)).getD 0

/-- What holds of the one login that is in flight. -/
def Fine (settings : IdentitySettings) (s : LimiterState) (l : LoginCall) : Prop :=
  match l.phase with
  | .admitted | .checking => (l.own = none → s.record = none) ∧ l.window = s.window ∧
    s.tally ≤ counted l.own ∧ counted l.own < settings.loginMaxAttempts
  | .failed => (l.own = none → s.record = none) ∧ s.tally ≤ counted l.own + 1
  | .inserting => s.record = none ∧ s.tally ≤ 1
  | .recorded => s.tally ≤ counted l.own
  | .matched => l.own = none → s.record = none
  | .created _ => True
  | _ => False

/-- No window has more failures than are allowed, and later ones have none. -/
structure Bounded (settings : IdentitySettings) (s : LimiterState) : Prop where
  count_le : ∀ n, s.failures.count n ≤ settings.loginMaxAttempts
  later : ∀ n, s.window < n → s.failures.count n = 0

/-- No login is in flight, apart from this one. -/
def OnlyInFlight (s : LimiterState) (i : ℕ) : Prop :=
  ∀ (j : ℕ) (l : LoginCall), s.logins[j]? = some l → l.phase.isInFlight = true → j = i

/-- No login is in flight, and the record has counted every failure of its window. -/
structure Idle (s : LimiterState) : Prop where
  none_inFlight : ∀ (j : ℕ) (l : LoginCall), s.logins[j]? = some l → l.phase.isInFlight = false
  tally_le : s.tally ≤ counted s.record

/-- One login is in flight, and it has the record locked if there is one. -/
structure Busy (settings : IdentitySettings) (s : LimiterState) : Prop where
  one : ∃ i l, s.logins[i]? = some l ∧ l.phase.isInFlight = true ∧ s.OnlyInFlight i ∧
    s.Fine settings l
  locked : s.recordLock = none → s.record = none

/-- The invariant of the runs in which logins without a record are let in alone. -/
def Inv (settings : IdentitySettings) (s : LimiterState) : Prop :=
  s.Bounded settings ∧ (s.Idle ∨ s.Busy settings)

variable {settings : IdentitySettings} {s t : LimiterState} {i : ℕ} {l l' : LoginCall}

theorem Bounded.mono (h : s.Bounded settings) (hfailures : t.failures = s.failures)
    (hwindow : s.window ≤ t.window) : t.Bounded settings := by
  refine ⟨fun n => ?_, fun n hn => ?_⟩
  · rw [hfailures]
    exact h.count_le n
  · rw [hfailures]
    exact h.later n (lt_of_le_of_lt hwindow hn)

/-- In a window that begins no login has failed. -/
theorem Bounded.tally_next (h : s.Bounded settings) (hfailures : t.failures = s.failures)
    (hwindow : t.window = s.window + 1) : t.tally = 0 := by
  rw [tally, hfailures, hwindow]
  exact h.later _ (Nat.lt_succ_self _)

theorem getElem_of_set (hl : s.logins[i]? = some l) (ht : t.logins = s.logins.set i l') :
    t.logins[i]? = some l' := by
  obtain ⟨hi, -⟩ := List.getElem?_eq_some_iff.1 hl
  rw [ht, List.getElem?_set_self hi]

theorem getElem_of_set_ne {j : ℕ} (hj : j ≠ i) (ht : t.logins = s.logins.set i l') :
    t.logins[j]? = s.logins[j]? := by
  rw [ht, List.getElem?_set_ne hj.symm]

/-- A login moves, and is in flight after it. -/
theorem busy_of_moves (hl : s.logins[i]? = some l) (hothers : s.OnlyInFlight i)
    (ht : t.logins = s.logins.set i l') (hflight : l'.phase.isInFlight = true)
    (hfine : t.Fine settings l') (hlocked : t.recordLock = none → t.record = none) :
    t.Busy settings := by
  refine ⟨⟨i, l', getElem_of_set hl ht, hflight, fun j m hm hflight' => ?_, hfine⟩, hlocked⟩
  by_contra hj
  rw [getElem_of_set_ne hj ht] at hm
  exact hj (hothers j m hm hflight')

/-- A login moves, and is not in flight after it. -/
theorem idle_of_moves (hl : s.logins[i]? = some l) (hothers : s.OnlyInFlight i)
    (ht : t.logins = s.logins.set i l') (hflight : l'.phase.isInFlight = false)
    (hcounted : t.tally ≤ counted t.record) : t.Idle := by
  refine ⟨fun j m hm => ?_, hcounted⟩
  by_cases hj : j = i
  · rw [hj, getElem_of_set hl ht] at hm
    exact Option.some.inj hm ▸ hflight
  · rw [getElem_of_set_ne hj ht] at hm
    by_contra hflight'
    exact hj (hothers j m hm (Bool.eq_true_of_not_eq_false hflight'))

theorem Idle.onlyInFlight (h : s.Idle) (i : ℕ) : s.OnlyInFlight i := by
  intro j m hm hflight
  rw [h.none_inFlight j m hm] at hflight
  cases hflight

/-- A login moves that is not in flight and will not be. -/
theorem Inv.put_still (h : s.Inv settings) (hl : s.logins[i]? = some l)
    (hflight : l.phase.isInFlight = false) (hflight' : l'.phase.isInFlight = false) :
    (s.put i l').Inv settings := by
  refine ⟨h.1.mono rfl le_rfl, ?_⟩
  rcases h.2 with hidle | ⟨⟨k, m, hm, hmflight, hothers, hfine⟩, hlocked⟩
  · exact .inl (idle_of_moves hl (hidle.onlyInFlight i) rfl hflight' hidle.tally_le)
  · have hk : k ≠ i := by
      rintro rfl
      rw [Option.some.inj (hl.symm.trans hm), hmflight] at hflight
      cases hflight
    refine .inr ⟨⟨k, m, ?_, hmflight, fun j p hp hpflight => ?_, hfine⟩, hlocked⟩
    · rw [getElem_of_set_ne hk rfl]
      exact hm
    · by_cases hj : j = i
      · rw [hj, getElem_of_set hl rfl] at hp
        rw [← Option.some.inj hp, hflight'] at hpflight
        cases hpflight
      · rw [getElem_of_set_ne hj rfl] at hp
        exact hothers j p hp hpflight

/-- Where a login is in flight, it is the one. -/
theorem Inv.busy (h : s.Inv settings) (hl : s.logins[i]? = some l)
    (hflight : l.phase.isInFlight = true) :
    s.OnlyInFlight i ∧ s.Fine settings l ∧ (s.recordLock = none → s.record = none) := by
  rcases h.2 with hidle | ⟨⟨k, m, hm, -, hothers, hfine⟩, hlocked⟩
  · rw [hidle.none_inFlight i l hl] at hflight
    cases hflight
  · have hk : i = k := hothers i l hl hflight
    rw [← hk] at hm hothers
    rw [Option.some.inj (hl.symm.trans hm)]
    exact ⟨hothers, hfine, hlocked⟩

/-! ## The steps -/

/-- A login that has found the record and locked it. -/
theorem Inv.decide (h : s.Inv settings) (hl : s.logins[i]? = some l)
    (hflight : l.phase.isInFlight = false) {record : AttemptRecord}
      (hrecord : s.record = some record)
    (hlock : s.recordLock = none) : (s.decide settings i l record).Inv settings := by
  have hidle : s.Idle := by
    refine h.2.resolve_right fun hbusy => ?_
    rw [hbusy.locked hlock] at hrecord
    cases hrecord
  have htally : s.tally ≤ record.count := by
    have := hidle.tally_le
    rwa [hrecord] at this
  rw [LimiterState.decide]
  cases hdecision : attemptDecision (attemptWindow settings)
    settings.loginMaxAttempts l.now record with
  | refuse retryAfter => exact h.put_still hl hflight rfl
  | letIn =>
    have hbelow : record.count < settings.loginMaxAttempts := by
      rw [attemptDecision] at hdecision
      split_ifs at hdecision with h₁ h₂
      exact not_le.1 h₂
    refine ⟨h.1.mono rfl le_rfl, .inr (busy_of_moves hl (hidle.onlyInFlight i) rfl rfl ?_ ?_)⟩
    · exact ⟨nofun, rfl, htally, hbelow⟩
    · exact nofun
  | restart =>
    refine ⟨h.1.mono rfl (Nat.le_succ _),
      .inr (busy_of_moves hl (hidle.onlyInFlight i) rfl rfl ?_ ?_)⟩
    · refine ⟨nofun, rfl, ?_, settings.one_le_loginMaxAttempts⟩
      refine (h.1.tally_next ?_ ?_).le <;> rfl
    · exact nofun

/-- A login that is let in without a record. -/
theorem Inv.admitUnlocked (h : s.Inv settings) (hl : s.logins[i]? = some l)
    (hrecord : s.record = none) (hnone : ∀ (j : ℕ) (m : LoginCall), s.logins[j]? = some m →
      m.phase.isInFlight = false) : (s.admitUnlocked i l).Inv settings := by
  have hidle : s.Idle := by
    refine h.2.resolve_right fun hbusy => ?_
    obtain ⟨j, m, hm, hflight, -⟩ := hbusy.one
    rw [hnone j m hm] at hflight
    cases hflight
  have htally : s.tally ≤ 0 := by
    have := hidle.tally_le
    rwa [hrecord] at this
  refine ⟨h.1.mono rfl le_rfl, .inr (busy_of_moves hl (hidle.onlyInFlight i) rfl rfl ?_ ?_)⟩
  · exact ⟨fun _ => hrecord, rfl, htally, settings.one_le_loginMaxAttempts⟩
  · exact fun _ => hrecord

/-- A login in flight moves, and is in flight after it. -/
theorem Inv.stays (h : s.Inv settings) (hl : s.logins[i]? = some l)
    (hflight : l.phase.isInFlight = true) (ht : t.logins = s.logins.set i l')
    (hbounded : t.Bounded settings) (hflight' : l'.phase.isInFlight = true)
    (hfine : t.Fine settings l') (hlocked : t.recordLock = none → t.record = none) :
    t.Inv settings :=
  ⟨hbounded, .inr (busy_of_moves hl (h.busy hl hflight).1 ht hflight' hfine hlocked)⟩

/-- A login in flight ends. -/
theorem Inv.ends (h : s.Inv settings) (hl : s.logins[i]? = some l)
    (hflight : l.phase.isInFlight = true) (ht : t.logins = s.logins.set i l')
    (hbounded : t.Bounded settings) (hflight' : l'.phase.isInFlight = false)
    (hcounted : t.tally ≤ counted t.record) : t.Inv settings :=
  ⟨hbounded, .inl (idle_of_moves hl (h.busy hl hflight).1 ht hflight' hcounted)⟩

/-- A failure is counted on a record that has counted all failures of its window but this. -/
theorem Inv.count (h : s.Inv settings) (hl : s.logins[i]? = some l)
    (hflight : l.phase.isInFlight = true) {record : AttemptRecord}
    (htally : s.tally ≤ record.count + 1) : (s.count settings i l record).Inv settings := by
  rw [LimiterState.count]
  by_cases hover : record.windowStartedAt + attemptWindow settings ≤ l.failedAt
  · rw [if_pos hover]
    refine h.stays hl hflight rfl (h.1.mono rfl (Nat.le_succ _)) rfl ?_ nofun
    refine le_trans (h.1.tally_next ?_ ?_).le (Nat.zero_le _) <;> rfl
  · rw [if_neg hover]
    refine h.stays hl hflight rfl (h.1.mono rfl le_rfl) rfl ?_ nofun
    show s.tally ≤ (countAttempt (attemptWindow settings) l.failedAt record).count
    rw [countAttempt, if_neg hover]
    exact htally

/-- What the condition says of a login that is let in without a record. -/
theorem alone_of_letsInAlone (hl : s.logins[i]? = some l) (hok : letsInAlone s (.advance i) = true)
    (hunlocked : s.letsInUnlocked l = true) : s.record = none ∧
      ∀ (j : ℕ) (m : LoginCall), s.logins[j]? = some m → m.phase.isInFlight = false := by
  rw [letsInAlone, hl, Option.all_some, hunlocked, Bool.not_true, Bool.false_or, Bool.and_eq_true,
    Option.isNone_iff_eq_none, List.all_eq_true] at hok
  refine ⟨hok.1, fun j m hm => ?_⟩
  exact (Bool.not_eq_true' _).mp (hok.2 m (List.mem_of_getElem? hm))

/-- A found record is the record. -/
theorem record_of_found {incarnation : ℕ} {record : AttemptRecord}
    (h : s.found incarnation = some record) : s.record = some record := by
  rw [found] at h
  split_ifs at h
  exact h

/-- **Every statement of a login keeps the invariant**, where it lets nobody in without a record
while another login is in flight. -/
theorem Inv.advance {hasAccount : Bool} {subject : Bytes} (h : s.Inv settings)
    (hl : s.logins[i]? = some l) (hok : letsInAlone s (.advance i) = true)
    (hstep : s.advance settings hasAccount subject i l = some t) : t.Inv settings := by
  have hbusy := h.busy hl
  rw [LimiterState.advance] at hstep
  cases hphase : l.phase with
  | arrived =>
    simp only [hphase] at hstep
    cases hrecord : s.record with
    | none =>
      rw [hrecord] at hstep
      cases hstep
      obtain ⟨-, hnone⟩ := alone_of_letsInAlone hl hok (by simp [letsInUnlocked, hphase, hrecord])
      exact h.admitUnlocked hl hrecord hnone
    | some record =>
      rw [hrecord] at hstep
      cases hstep
      exact h.put_still hl (by rw [hphase]; rfl) rfl
  | waiting incarnation =>
    simp only [hphase] at hstep
    cases hfound : s.found incarnation with
    | none =>
      rw [hfound] at hstep
      cases hstep
      obtain ⟨hrecord, hnone⟩ :=
        alone_of_letsInAlone hl hok (by simp [letsInUnlocked, hphase, hfound])
      exact h.admitUnlocked hl hrecord hnone
    | some record =>
      rw [hfound] at hstep
      dsimp only at hstep
      split_ifs at hstep with hlock
      cases hstep
      exact h.decide hl (by rw [hphase]; rfl) (record_of_found hfound) hlock
  | admitted =>
    obtain ⟨-, hfine, hlocked⟩ := hbusy (by rw [hphase]; rfl)
    rw [Fine, hphase] at hfine
    simp only [hphase] at hstep
    split_ifs at hstep
    all_goals
      cases hstep
      exact h.stays hl (by rw [hphase]; rfl) rfl (h.1.mono rfl le_rfl) rfl hfine hlocked
  | checking =>
    obtain ⟨-, hfine, hlocked⟩ := hbusy (by rw [hphase]; rfl)
    rw [Fine, hphase] at hfine
    obtain ⟨hown, hwindow, htally, hbelow⟩ := hfine
    simp only [hphase] at hstep
    split_ifs at hstep
    · cases hstep
      exact h.stays hl (by rw [hphase]; rfl) rfl (h.1.mono rfl le_rfl) rfl hown hlocked
    · cases hstep
      -- the one step at which the failures grow: by one, in the present window
      have hnext : (l.window :: s.failures).count s.window = s.tally + 1 := by
        rw [hwindow, List.count_cons_self, tally]
      refine h.stays hl (by rw [hphase]; rfl) rfl ⟨fun n => ?_, fun n hn => ?_⟩ rfl ?_ hlocked
      · show (l.window :: s.failures).count n ≤ settings.loginMaxAttempts
        by_cases hn : n = s.window
        · rw [hn, hnext]
          omega
        · rw [hwindow, List.count_cons_of_ne (Ne.symm hn)]
          exact h.1.count_le n
      · show (l.window :: s.failures).count n = 0
        have hne : s.window ≠ n := ne_of_lt hn
        rw [hwindow, List.count_cons_of_ne hne]
        exact h.1.later n hn
      · refine ⟨hown, ?_⟩
        show (l.window :: s.failures).count s.window ≤ counted l.own + 1
        omega
  | failed =>
    obtain ⟨-, hfine, hlocked⟩ := hbusy (by rw [hphase]; rfl)
    rw [Fine, hphase] at hfine
    simp only [hphase] at hstep
    cases hown : l.own with
    | some record =>
      rw [hown] at hstep hfine
      cases hstep
      exact h.count hl (by rw [hphase]; rfl) hfine.2
    | none =>
      have hrecord := hfine.1 hown
      rw [hown, hrecord] at hstep
      cases hstep
      have htally := hfine.2
      rw [hown] at htally
      exact h.stays hl (by rw [hphase]; rfl) rfl (h.1.mono rfl le_rfl) rfl ⟨hrecord, htally⟩ hlocked
  | inserting =>
    obtain ⟨-, hfine, -⟩ := hbusy (by rw [hphase]; rfl)
    rw [Fine, hphase] at hfine
    simp only [hphase] at hstep
    split_ifs at hstep
    rw [hfine.1] at hstep
    cases hstep
    exact h.stays hl (by rw [hphase]; rfl) rfl (h.1.mono rfl le_rfl) rfl hfine.2 nofun
  | recorded =>
    obtain ⟨-, hfine, -⟩ := hbusy (by rw [hphase]; rfl)
    rw [Fine, hphase] at hfine
    simp only [hphase] at hstep
    cases hstep
    exact h.ends hl (by rw [hphase]; rfl) rfl (h.1.mono rfl le_rfl) rfl hfine
  | matched =>
    obtain ⟨-, hfine, hlocked⟩ := hbusy (by rw [hphase]; rfl)
    rw [Fine, hphase] at hfine
    simp only [hphase] at hstep
    cases hown : l.own with
    | some record =>
      rw [hown] at hstep
      cases hstep
      exact h.stays hl (by rw [hphase]; rfl) rfl (h.1.mono rfl le_rfl) rfl trivial hlocked
    | none =>
      rw [hown, hfine hown] at hstep
      cases hstep
      exact h.stays hl (by rw [hphase]; rfl) rfl (h.1.mono rfl le_rfl) rfl trivial hlocked
  | created deletes =>
    simp only [hphase] at hstep
    cases hstep
    refine h.ends hl (by rw [hphase]; rfl) rfl (h.1.mono rfl (Nat.le_succ _)) rfl ?_
    refine le_trans (h.1.tally_next ?_ ?_).le (Nat.zero_le _) <;> rfl
  | recording incarnation =>
    have hfine := (hbusy (by rw [hphase]; rfl)).2.1
    rw [Fine, hphase] at hfine
    exact hfine.elim
  | clearing incarnation =>
    have hfine := (hbusy (by rw [hphase]; rfl)).2.1
    rw [Fine, hphase] at hfine
    exact hfine.elim
  | finished =>
    simp only [hphase] at hstep
    cases hstep

theorem Inv.arrive {now failedAt : Timestamp} {isRight : Bool} (h : s.Inv settings) :
    ({ s with logins := s.logins ++ [⟨.arrived, now, failedAt, isRight, none, 0⟩] } :
      LimiterState).Inv settings := by
  have hold : ∀ (j : ℕ) (m : LoginCall),
      (s.logins ++ [⟨.arrived, now, failedAt, isRight, none, 0⟩])[j]? = some m →
        m.phase.isInFlight = true → s.logins[j]? = some m := by
    intro j m hm hflight
    rw [List.getElem?_append] at hm
    split_ifs at hm
    · exact hm
    · rw [List.mem_singleton.1 (List.mem_of_getElem? hm)] at hflight
      cases hflight
  refine ⟨h.1.mono rfl le_rfl, ?_⟩
  rcases h.2 with hidle | ⟨⟨i, l, hl, hflight, hothers, hfine⟩, hlocked⟩
  · refine .inl ⟨fun j m hm => ?_, hidle.tally_le⟩
    by_contra hflight
    have hflight' := Bool.eq_true_of_not_eq_false hflight
    exact hflight (hidle.none_inFlight j m (hold j m hm hflight'))
  · obtain ⟨hi, -⟩ := List.getElem?_eq_some_iff.1 hl
    refine .inr ⟨⟨i, l, ?_, hflight, fun j m hm hm' => hothers j m (hold j m hm hm') hm', hfine⟩,
      hlocked⟩
    rw [List.getElem?_append_left hi]
    exact hl

end LimiterState

/-! ## The bound -/

theorem inv_inductive (settings : IdentitySettings) (hasAccount : Bool) (subject : Bytes) :
    ((limiterSystem settings hasAccount subject).restrict letsInAlone).Inductive
      (LimiterState.Inv settings) where
  init s hs := by
    obtain ⟨-, -, hlogins, hfailures⟩ := hs
    refine ⟨⟨fun n => ?_, fun n _ => ?_⟩, .inl ⟨fun j l hl => ?_, ?_⟩⟩
    · rw [hfailures]
      exact Nat.zero_le _
    · rw [hfailures]
      rfl
    · rw [hlogins] at hl
      cases hl
    · rw [LimiterState.tally, hfailures]
      exact Nat.zero_le _
  step s e t h hstep := by
    obtain ⟨hok, hstep⟩ := TransitionSystem.restrict_step_eq_some.1 hstep
    cases e with
    | arrive now failedAt isRight =>
      cases hstep
      exact h.arrive
    | advance i =>
      obtain ⟨l, hl, hadvance⟩ := Option.bind_eq_some_iff.1 hstep
      exact h.advance hl hok hadvance

/-- **The login limiter bounds guesses** in every run in which a login that has found no record is
let in alone: in no window do more logins verify a password and fail than are allowed. -/
theorem guesses_bounded (settings : IdentitySettings) (hasAccount : Bool) (subject : Bytes)
    {s : LimiterState}
    (hs : ((limiterSystem settings hasAccount subject).restrict letsInAlone).Reachable s)
    (window : ℕ) : s.failures.count window ≤ settings.loginMaxAttempts :=
  ((inv_inductive settings hasAccount subject).of_reachable hs).1.count_le window

/-- Two logins, one after the other. -/
def oneByOne : List LimiterEvent :=
  (List.range 2).flatMap fun i => .arrive (100 + 2 * i) (101 + 2 * i) false ::
    List.replicate (6 - i) (.advance i)

theorem guesses_bounded_oneByOne : ∃ s,
    ((limiterSystem plainSettings true []).restrict letsInAlone).run
      ⟨none, 0, none, none, [], 0, []⟩ oneByOne = some s ∧ s.failures = [0, 0] ∧
        s.failures.count 0 ≤ plainSettings.loginMaxAttempts := by
  obtain ⟨s, hs, hfailures⟩ := (Option.any_eq_true _ _).1
    (show (((limiterSystem plainSettings true []).restrict letsInAlone).run
      ⟨none, 0, none, none, [], 0, []⟩ oneByOne).any (·.failures == [0, 0]) = true
        by decide +kernel)
  exact ⟨s, hs, beq_iff_eq.1 hfailures,
    guesses_bounded plainSettings true [] ⟨_, oneByOne, ⟨rfl, rfl, rfl, rfl⟩, hs⟩ 0⟩

end Authentication

end Rulefolio
