import Rulefolio.Authentication.Limiter
import Rulefolio.Library.Returns

/-!
# A login in the limiter and in the identity service

The limiter of `login` is modelled twice: as statements of the program `login`, which the identity
system interleaves with every other call, and as the steps of `limiterSystem`, which follow one
record closely enough for its window to be counted. Here they are compared where a login runs alone.
Whatever the store holds, the login takes the record of its email from the same state to the same
state in both, and fails in the one where the other counts a failed verification.

## Main definitions

* `attemptOf` — the record of an email.
* `Quits` — what is left when a login of the limiter has ended.

## Main results

* `limiter_follows_login`.
-/

namespace Rulefolio

namespace Authentication

/-- The record that counts the failed logins of a subject. -/
def attemptOf (subject : Bytes) (db : Store) : Option AttemptRecord :=
  db.attempts.find? (isAttempt .login subject)

/-! ## The program, run alone -/

section Alone

variable {α : Type} {p : Store → Store} {db : Store} {subject : Bytes} {settings : IdentitySettings}

/-- Alone, a row is found again under its lock. -/
theorem execFrom_lockRow_bind {ρ : Type} (table : Store → List ρ) (key : ρ → RowKey)
    (where_ : ρ → Bool) (f : Option ρ → Program α) :
    ((lockRow table key where_).bind f).execFrom p db =
      (f ((table (p db)).find? where_)).execFrom p db := by
  rw [lockRow, Tx.bind_eq, Tx.bind_assoc, Tx.execFrom_read_bind]
  cases hfind : (table (p db)).find? where_ with
  | none => rfl
  | some row =>
    have hagain : (table (p db)).find? (fun r => key r == key row && where_ r) = some row := by
      obtain ⟨hrow, before, after, hsplit, hbefore⟩ := List.find?_eq_some_iff_append.1 hfind
      refine List.find?_eq_some_iff_append.2 ⟨by simp [hrow], before, after, hsplit, fun r hr => ?_⟩
      have hnot := hbefore r hr
      simp only [Bool.not_eq_true'] at hnot ⊢
      rw [hnot, Bool.and_false]
    dsimp only
    rw [Tx.bind_eq, Tx.bind_assoc, Tx.execFrom_lockAll_bind]
    show (f ((table (p db)).find? _)).execFrom p db = _
    rw [hagain]

theorem execFrom_insertRow_bind (keys : List RowKey) (isFree : Store → Bool) (δ : Store → Store)
    (f : Unit → Program α) (hfree : isFree (p db) = true) :
    ((insertRow keys isFree δ).bind f).execFrom p db = (f ()).execFrom (δ ∘ p) db := by
  rw [insertRow, Tx.bind_eq, Tx.bind_assoc, Tx.execFrom_lockAll_bind, Tx.execFrom_writeIf_bind,
    if_pos hfree]

theorem isAttempt_of_attemptOf {record : AttemptRecord}
    (h : attemptOf subject db = some record) : isAttempt .login subject record = true :=
  List.find?_some h

theorem purpose_of_isAttempt {purpose : AttemptPurpose} {record : AttemptRecord}
    (h : isAttempt purpose subject record = true) :
    record.purpose = purpose ∧ record.subjectHash = subject := by
  rw [isAttempt, Bool.and_eq_true, beq_iff_eq, beq_iff_eq] at h
  exact h

/-- A record is written over the one that is there. -/
theorem attemptOf_put {found : AttemptRecord} (record : AttemptRecord)
    (hfound : attemptOf subject db = some found)
    (hrecord : isAttempt .login subject record = true) :
    attemptOf subject { db with
      attempts := Table.update (isAttempt record.purpose record.subjectHash) (fun _ => record)
        db.attempts } = some record := by
  obtain ⟨hpurpose, hsubject⟩ := purpose_of_isAttempt hrecord
  rw [attemptOf, hpurpose, hsubject]
  rw [attemptOf] at hfound
  show (Table.update (isAttempt .login subject) (fun _ => record) db.attempts).find? _ = _
  generalize db.attempts = attempts at hfound
  induction attempts with
  | nil => cases hfound
  | cons r attempts ih =>
    by_cases hr : isAttempt .login subject r = true
    · rw [Table.update_cons, if_pos hr, List.find?_cons_of_pos hrecord]
    · rw [Table.update_cons, if_neg hr, List.find?_cons_of_neg hr]
      rw [List.find?_cons_of_neg hr] at hfound
      exact ih hfound

theorem attemptOf_delete : attemptOf subject { db with
    attempts := Table.delete (isAttempt .login subject) db.attempts } = none := by
  rw [attemptOf, List.find?_eq_none]
  intro r hr
  simp [(Table.mem_delete.1 hr).2]

/-- `_attempt_retry_after` and what follows. -/
theorem execFrom_refuseAbove_bind (now : Timestamp) (maximum : ℕ) (f : Unit → Program α) :
    ((refuseAbove settings now .login subject maximum).bind f).execFrom id db =
      match attemptOf subject db with
      | none => (f ()).execFrom id db
      | some record =>
        match attemptDecision (attemptWindow settings) maximum now record with
        | .refuse retryAfter => (db, .error (.rateLimited retryAfter))
        | .letIn => (f ()).execFrom id db
        | .restart => (f ()).execFrom (fun db => { db with
            attempts := Table.update (isAttempt record.purpose record.subjectHash)
              (fun _ => { record with windowStartedAt := now, count := 0 }) db.attempts }) db := by
  rw [refuseAbove, attemptRetryAfter, lockAttempt]
  simp only [Tx.bind_eq, Tx.bind_assoc]
  rw [execFrom_lockRow_bind]
  have hfind : (id db).attempts.find? (isAttempt .login subject) = attemptOf subject db := rfl
  rw [hfind]
  cases attemptOf subject db with
  | none => rfl
  | some record =>
    dsimp only
    cases attemptDecision (attemptWindow settings) maximum now record <;> rfl

/-- What a failure makes of the record that was let in. -/
def countFailure (settings : IdentitySettings) (subject : Bytes) (failedAt : Timestamp) :
    Option AttemptRecord → AttemptRecord
  | none => ⟨.login, subject, failedAt, 1⟩
  | some record => countAttempt (attemptWindow settings) failedAt record

theorem isAttempt_countAttempt {window : ℕ} {now : Timestamp} {record : AttemptRecord}
    (h : isAttempt .login subject record = true) :
    isAttempt .login subject (countAttempt window now record) = true := by
  rw [countAttempt]
  split <;> exact h

theorem failAttempt_exec (settings : IdentitySettings) (subject : Bytes) (failedAt : Timestamp)
    (e : IdentityError) (p : Store → Store) (db : Store) :
    ∃ db', (failAttempt settings failedAt .login subject e : Program α).execFrom p db =
        (db', .error e) ∧
      attemptOf subject db' = some (countFailure settings subject failedAt
        (attemptOf subject (p db))) := by
  rw [failAttempt, recordAttempt, lockAttempt]
  simp only [Tx.bind_eq, Tx.bind_assoc]
  rw [execFrom_lockRow_bind]
  have hfind : (p db).attempts.find? (isAttempt .login subject) = attemptOf subject (p db) := rfl
  rw [hfind]
  cases hrecord : attemptOf subject (p db) with
  | none =>
    dsimp only
    rw [execFrom_insertRow_bind]
    · refine ⟨_, rfl, ?_⟩
      exact List.find?_cons_of_pos (by simp [isAttempt])
    · rw [attemptOf, List.find?_eq_none] at hrecord
      simpa using hrecord
  | some record =>
    refine ⟨_, rfl, ?_⟩
    exact attemptOf_put _ hrecord (isAttempt_countAttempt (isAttempt_of_attemptOf hrecord))

/-- The password that decides a login. -/
def isRight (settings : IdentitySettings) (address password : String) (db : Store) : Bool :=
  let account := db.accounts.find? (·.email == address)
  (eligible account (account.bind fun a => findPassword a.id db)).any fun found =>
    settings.hasher.verify found.2.passwordHash password

/-- What is left of `login` when it has been let in. -/
def checkPassword (settings : IdentitySettings) (address password : String) (salt : Bytes)
    (new : NewSession) (failedAt : Timestamp) : Program Unit := do
  let subject := settings.attemptSubject address
  let account ← lockAccount (·.email == address)
  let credential ← passwordOf account
  match eligible account credential with
  | none => failAttempt settings failedAt .login subject .authenticationFailed
  | some (account, credential) =>
    if settings.hasher.verify credential.passwordHash password then do
      onlyIf (settings.hasher.checkNeedsRehash credential.passwordHash)
        (rehash account.id (settings.hasher.hash salt password))
      clearAttempt .login subject
      createSession settings new account.id credential.version
      Tx.commitNow
    else failAttempt settings failedAt .login subject .authenticationFailed

theorem login_eq (settings : IdentitySettings) (email password : String) (salt : Bytes)
    (new : NewSession) (failedAt : Timestamp) :
    login settings email password salt new failedAt =
      (Tx.require (settings.normalizeEmail email) .valueError).bind fun address =>
        (refuseAbove settings new.now .login (settings.attemptSubject address)
          settings.loginMaxAttempts).bind fun _ =>
            checkPassword settings address password salt new failedAt := rfl

/-- The identifier and the token of the new session are not taken. -/
def isNewSession (settings : IdentitySettings) (new : NewSession) (db : Store) : Bool :=
  db.sessions.all fun s => s.id != new.id && s.tokenHash != settings.tokenHash new.token

theorem execFrom_passwordOf_bind (account : Option Account)
    (f : Option PasswordCredential → Program α) :
    ((passwordOf account).bind f).execFrom p db =
      (f (account.bind fun a => findPassword a.id (p db))).execFrom p db := by
  cases account <;> rfl

theorem execFrom_onlyIf_rehash_bind (p : Store → Store) (db : Store) (b : Bool)
    (accountId : Uuid) (passwordHash : String) (f : Unit → Program α) : ∃ q : Store → Store,
      ((onlyIf b (rehash accountId passwordHash)).bind f).execFrom p db = (f ()).execFrom q db ∧
        (q db).attempts = (p db).attempts ∧ (q db).sessions = (p db).sessions := by
  cases b with
  | false => exact ⟨p, rfl, rfl, rfl⟩
  | true => exact ⟨_, rfl, rfl, rfl⟩

theorem execFrom_clearAttempt_bind (p : Store → Store) (db : Store) (subject : Bytes)
    (f : Unit → Program α) :
    ∃ q : Store → Store, ((clearAttempt .login subject).bind f).execFrom p db =
        (f ()).execFrom q db ∧
      attemptOf subject (q db) = none ∧ (q db).sessions = (p db).sessions := by
  rw [clearAttempt]
  simp only [Tx.bind_eq, Tx.bind_assoc]
  rw [Tx.execFrom_read_bind]
  have hfind : (p db).attempts.find? (isAttempt .login subject) = attemptOf subject (p db) := rfl
  rw [hfind]
  cases hrecord : attemptOf subject (p db) with
  | none => exact ⟨p, rfl, hrecord, rfl⟩
  | some record => exact ⟨_, rfl, attemptOf_delete, rfl⟩

/-- What is left of `login` when the password is right. -/
theorem grant_exec {new : NewSession} (hnew : isNewSession settings new (p db) = true)
    (needsRehash : Bool) (accountId : Uuid) (passwordHash : String) (version : ℕ)
    (subject : Bytes) : ∃ db', attemptOf subject db' = none ∧
      ((onlyIf needsRehash (rehash accountId passwordHash)).bind fun _ =>
        (clearAttempt .login subject).bind fun _ =>
          (createSession settings new accountId version).bind fun _ =>
            Tx.commitNow).execFrom p db = (db', .ok ()) := by
  obtain ⟨q, hrehash, -, hsessions⟩ := execFrom_onlyIf_rehash_bind p db needsRehash
    accountId passwordHash fun _ => (clearAttempt .login subject).bind fun _ =>
      (createSession settings new accountId version).bind fun _ => Tx.commitNow
  obtain ⟨q', hclear, hnone, hsessions'⟩ := execFrom_clearAttempt_bind q db subject
    fun _ => (createSession settings new accountId version).bind fun _ => Tx.commitNow
  rw [hrehash, hclear, createSession]
  rw [execFrom_insertRow_bind]
  · refine ⟨_, ?_, rfl⟩
    exact hnone
  · rw [isNewSession, ← hsessions, ← hsessions', List.all_eq_true] at hnew
    simp only [Bool.not_eq_true', List.any_eq_false, Bool.or_eq_true, beq_iff_eq, not_or]
    intro r hr
    have hfree := hnew r hr
    rw [Bool.and_eq_true, bne_iff_ne, bne_iff_ne] at hfree
    exact hfree

theorem checkPassword_exec {new : NewSession} (p : Store → Store) (db : Store)
    (hnew : isNewSession settings new (p db) = true) (address password : String) (salt : Bytes)
    (failedAt : Timestamp) :
    ∃ db', attemptOf (settings.attemptSubject address) db' =
        (if isRight settings address password (p db) then none
        else some (countFailure settings (settings.attemptSubject address) failedAt
          (attemptOf (settings.attemptSubject address) (p db)))) ∧
      (checkPassword settings address password salt new failedAt).execFrom p db =
        (db', if isRight settings address password (p db) then .ok ()
          else .error .authenticationFailed) := by
  obtain ⟨failed, hfailed, hcounted⟩ := failAttempt_exec (α := Unit) settings
    (settings.attemptSubject address) failedAt .authenticationFailed p db
  rw [checkPassword, isRight]
  simp only [Tx.bind_eq]
  rw [lockAccount, execFrom_lockRow_bind, execFrom_passwordOf_bind]
  cases eligible ((p db).accounts.find? (·.email == address))
    (((p db).accounts.find? (·.email == address)).bind fun a => findPassword a.id (p db)) with
  | none => exact ⟨failed, by simpa using hcounted, by simpa using hfailed⟩
  | some found =>
    obtain ⟨account, credential⟩ := found
    dsimp only
    by_cases hverify : settings.hasher.verify credential.passwordHash password = true
    · rw [if_pos hverify]
      simp only [Option.any_some, hverify, if_true]
      exact grant_exec hnew _ _ _ _ _
    · rw [if_neg hverify]
      exact ⟨failed, by simpa [hverify] using hcounted, by simpa [hverify] using hfailed⟩

/-- Who is let in, and with what record. -/
def admission (settings : IdentitySettings) (now : Timestamp) :
    Option AttemptRecord → Option (Option AttemptRecord)
  | none => some none
  | some record =>
    match attemptDecision (attemptWindow settings) settings.loginMaxAttempts now record with
    | .refuse _ => none
    | .letIn => some (some record)
    | .restart => some (some { record with windowStartedAt := now, count := 0 })

/-- **What a login does that runs alone.** -/
theorem login_exec {email address : String} {new : NewSession}
    (haddress : settings.normalizeEmail email = some address)
    (hnew : isNewSession settings new db = true) (password : String) (salt : Bytes)
    (failedAt : Timestamp) :
    match admission settings new.now (attemptOf (settings.attemptSubject address) db) with
    | none => ∃ retryAfter, (login settings email password salt new failedAt).exec db =
        (db, .error (.rateLimited retryAfter))
    | some own => ∃ db', attemptOf (settings.attemptSubject address) db' =
          (if isRight settings address password db then none
          else some (countFailure settings (settings.attemptSubject address) failedAt own)) ∧
        (login settings email password salt new failedAt).exec db =
          (db', if isRight settings address password db then .ok ()
            else .error .authenticationFailed) := by
  rw [login_eq, Tx.exec, haddress, Tx.execFrom_require_bind]
  dsimp only
  rw [execFrom_refuseAbove_bind]
  cases hrecord : attemptOf (settings.attemptSubject address) db with
  | none =>
    have hchecked := checkPassword_exec id db hnew address password salt failedAt
    rw [id_eq, hrecord] at hchecked
    exact hchecked
  | some record =>
    rw [admission]
    dsimp only
    cases attemptDecision (attemptWindow settings) settings.loginMaxAttempts new.now record with
    | refuse retryAfter => exact ⟨retryAfter, rfl⟩
    | letIn =>
      have hchecked := checkPassword_exec id db hnew address password salt failedAt
      rw [id_eq, hrecord] at hchecked
      exact hchecked
    | restart =>
      have hput := attemptOf_put { record with windowStartedAt := new.now, count := 0 } hrecord
        (isAttempt_of_attemptOf hrecord : isAttempt _ _ record = true)
      have hchecked := checkPassword_exec (fun db => { db with
        attempts := Table.update (isAttempt record.purpose record.subjectHash)
          (fun _ => { record with windowStartedAt := new.now, count := 0 }) db.attempts }) db hnew
        address password salt failedAt
      rw [hput] at hchecked
      exact hchecked

end Alone

/-! ## The limiter, with one login at a time -/

namespace LimiterState

variable {settings : IdentitySettings} {hasAccount : Bool} {subject : Bytes} {i : ℕ}
  {s t : LimiterState} {l : LoginCall} {record : Option AttemptRecord} {failures : ℕ}

/-- The login gets to its end. Then no lock is held, and these are the record and the number of
failures. -/
def Quits (settings : IdentitySettings) (hasAccount : Bool) (subject : Bytes) (i : ℕ)
    (s : LimiterState) (record : Option AttemptRecord) (failures : ℕ) : Prop :=
  ∃ n s', (limiterSystem settings hasAccount subject).run s (List.replicate n (.advance i)) =
      some s' ∧
    (s'.logins[i]?).map (·.phase) = some .finished ∧ s'.recordLock = none ∧
      s'.accountLock = none ∧ s'.record = record ∧ s'.failures.length = failures

theorem Quits.step (hl : s.logins[i]? = some l)
    (hs : s.advance settings hasAccount subject i l = some t)
    (h : Quits settings hasAccount subject i t record failures) :
    Quits settings hasAccount subject i s record failures := by
  obtain ⟨n, s', hrun, hrest⟩ := h
  refine ⟨n + 1, s', ?_, hrest⟩
  have hstep : (limiterSystem settings hasAccount subject).step s (.advance i) = some t := by
    show s.logins[i]?.bind _ = _
    rw [hl]
    exact hs
  rw [List.replicate_succ, TransitionSystem.run_cons, hstep]
  exact hrun

theorem advance_waiting {incarnation : ℕ} {found : AttemptRecord}
    (hphase : l.phase = .waiting incarnation) (hfound : s.found incarnation = some found)
    (hfree : s.recordLock = none) :
    s.advance settings hasAccount subject i l = some (s.decide settings i l found) := by
  simp only [advance, hphase, hfound, hfree, if_true]

theorem advance_inserting (hphase : l.phase = .inserting) (hfree : s.recordLock = none)
    (hrecord : s.record = none) :
    s.advance settings hasAccount subject i l = some ({ s with recordLock := some i }.put i
      { l with phase := .recorded, own := some ⟨.login, subject, l.failedAt, 1⟩ }) := by
  simp only [advance, hphase, hfree, hrecord, if_true]

/-- Nobody else holds a lock. -/
def Undisturbed (s : LimiterState) (i : ℕ) : Prop :=
  (s.recordLock = none ∨ s.recordLock = some i) ∧ (s.accountLock = none ∨ s.accountLock = some i)

theorem quits_released (h : s.Undisturbed i) (hl : i < s.logins.length)
    (hphase : l.phase = .finished) :
    Quits settings hasAccount subject i ((s.release i).put i l) s.record s.failures.length := by
  refine ⟨0, _, rfl, ?_, ?_, ?_, rfl, rfl⟩
  · show ((s.logins.set i l)[i]?).map _ = _
    rw [List.getElem?_set_self hl, Option.map_some, hphase]
  · show (if s.recordLock = some i then none else s.recordLock) = none
    rcases h.1 with hnone | hown
    · simp [hnone]
    · simp [hown]
  · show (if s.accountLock = some i then none else s.accountLock) = none
    rcases h.2 with hnone | hown
    · simp [hnone]
    · simp [hown]

theorem put_self (hl : s.logins[i]? = some l) (l' : LoginCall) :
    (s.put i l').logins[i]? = some l' :=
  getElem_of_set hl rfl

theorem quits_recorded (h : s.Undisturbed i) (hl : s.logins[i]? = some l)
    (hphase : l.phase = .recorded) :
    Quits settings hasAccount subject i s l.own s.failures.length := by
  obtain ⟨hi, -⟩ := List.getElem?_eq_some_iff.1 hl
  have hend : Quits settings hasAccount subject i
      (({ s with record := l.own }.release i).put i { l with phase := .finished }) l.own
        s.failures.length :=
    quits_released (s := { s with record := l.own }) h hi rfl
  exact hend.step hl (by rw [advance, hphase])

theorem quits_created (h : s.Undisturbed i) (hl : s.logins[i]? = some l) {deletes : Bool}
    (hphase : l.phase = .created deletes) :
    Quits settings hasAccount subject i s (if deletes then none else s.record)
      s.failures.length := by
  obtain ⟨hi, -⟩ := List.getElem?_eq_some_iff.1 hl
  let t : LimiterState := { s with
    record := if deletes then none else s.record
    incarnation := if deletes then s.incarnation + 1 else s.incarnation
    window := s.window + 1 }
  have hend : Quits settings hasAccount subject i
      ((t.release i).put i { l with phase := .finished }) t.record t.failures.length :=
    quits_released (s := t) h hi rfl
  exact hend.step hl (by rw [advance, hphase])

/-- A right password. -/
theorem quits_matched (h : s.Undisturbed i) (hl : s.logins[i]? = some l)
    (hphase : l.phase = .matched) (hown : l.own = none → s.record = none) :
    Quits settings hasAccount subject i s none s.failures.length := by
  cases hrecord : l.own with
  | some record =>
    have hend : Quits settings hasAccount subject i (s.put i { l with phase := .created true })
        none s.failures.length :=
      quits_created (s := s.put i { l with phase := .created true }) h (put_self hl _) rfl
    exact hend.step hl (by rw [advance, hphase, hrecord])
  | none =>
    have hnone := hown hrecord
    have hend : Quits settings hasAccount subject i (s.put i { l with phase := .created false })
        s.record s.failures.length :=
      quits_created (s := s.put i { l with phase := .created false }) h (put_self hl _) rfl
    rw [hnone] at hend
    exact hend.step hl (by rw [advance, hphase, hrecord, hnone])

/-- A failure is counted. -/
theorem quits_failed (h : s.Undisturbed i) (hl : s.logins[i]? = some l)
    (hphase : l.phase = .failed) (hown : l.own = none → s.record = none ∧ s.recordLock = none) :
    Quits settings hasAccount subject i s (some (countFailure settings subject l.failedAt l.own))
      s.failures.length := by
  cases hrecord : l.own with
  | some record =>
    have hl' : (s.count settings i l record).logins[i]? = some { l with
        phase := .recorded
        own := some (countAttempt (attemptWindow settings) l.failedAt record) } := put_self hl _
    have hend : Quits settings hasAccount subject i (s.count settings i l record)
        (some (countAttempt (attemptWindow settings) l.failedAt record)) s.failures.length :=
      quits_recorded (s := s.count settings i l record) ⟨.inr rfl, h.2⟩ hl' rfl
    exact hend.step hl (by rw [advance, hphase, hrecord])
  | none =>
    obtain ⟨hnone, hfree⟩ := hown hrecord
    let l₁ : LoginCall := { l with phase := .inserting }
    let l₂ : LoginCall :=
      { l with phase := .recorded, own := some ⟨.login, subject, l.failedAt, 1⟩ }
    have hl₁ : (s.put i l₁).logins[i]? = some l₁ := put_self hl _
    have hend : Quits settings hasAccount subject i
        ({ s.put i l₁ with recordLock := some i }.put i l₂)
        (some ⟨.login, subject, l.failedAt, 1⟩) s.failures.length :=
      quits_recorded (s := { s.put i l₁ with recordLock := some i }.put i l₂) ⟨.inr rfl, h.2⟩
        (put_self (s := { s.put i l₁ with recordLock := some i }) hl₁ l₂) rfl
    have hinsert : (s.put i l₁).advance settings hasAccount subject i l₁ =
        some ({ s.put i l₁ with recordLock := some i }.put i l₂) :=
      advance_inserting rfl hfree hnone
    exact (hend.step hl₁ hinsert).step hl (by simp [advance, hphase, hrecord, hnone, l₁])

/-- The password is verified. -/
theorem quits_checking (h : s.Undisturbed i) (hl : s.logins[i]? = some l)
    (hphase : l.phase = .checking) (hown : l.own = none → s.record = none ∧ s.recordLock = none) :
    Quits settings hasAccount subject i s
      (if hasAccount && l.isRight then none
        else some (countFailure settings subject l.failedAt l.own))
      (s.failures.length + if hasAccount && l.isRight then 0 else 1) := by
  by_cases hright : (hasAccount && l.isRight) = true
  · rw [if_pos hright, if_pos hright]
    have hend : Quits settings hasAccount subject i (s.put i { l with phase := .matched }) none
        s.failures.length :=
      quits_matched (s := s.put i { l with phase := .matched }) h (put_self hl _) rfl
        fun hnone => (hown hnone).1
    exact hend.step hl (by rw [advance, hphase]; exact if_pos hright)
  · rw [if_neg hright, if_neg hright]
    let t : LimiterState := { s with failures := l.window :: s.failures }
    let l' : LoginCall := { l with phase := .failed }
    have hend : Quits settings hasAccount subject i (t.put i l')
        (some (countFailure settings subject l.failedAt l.own)) (s.failures.length + 1) :=
      quits_failed (s := t.put i l') (l := l') h (put_self (s := t) hl _) rfl hown
    exact hend.step hl (by rw [advance, hphase]; exact if_neg hright)

/-- The login has been let in. -/
theorem quits_admitted (h : s.Undisturbed i) (hl : s.logins[i]? = some l)
    (hphase : l.phase = .admitted) (hfree : s.accountLock = none)
    (hown : l.own = none → s.record = none ∧ s.recordLock = none) :
    Quits settings hasAccount subject i s
      (if hasAccount && l.isRight then none
        else some (countFailure settings subject l.failedAt l.own))
      (s.failures.length + if hasAccount && l.isRight then 0 else 1) := by
  let l' : LoginCall := { l with phase := .checking }
  cases hasAccount with
  | true =>
    let t : LimiterState := { s with accountLock := some i }
    refine Quits.step (t := t.put i l') hl ?_ (quits_checking (s := t.put i l') (l := l')
      ⟨h.1, .inr rfl⟩ (put_self (s := t) hl _) rfl hown)
    rw [advance, hphase]
    exact if_pos hfree
  | false =>
    refine Quits.step (t := s.put i l') hl ?_ (quits_checking (s := s.put i l') (l := l') h
      (put_self hl _) rfl hown)
    rw [advance, hphase]
    rfl

/-- **What a login of the limiter does that comes when no other one is there.** -/
theorem quits_arrived (settings : IdentitySettings) (hasAccount : Bool) (subject : Bytes)
    (hl : s.logins[i]? = some l) (hphase : l.phase = .arrived)
    (hrecordLock : s.recordLock = none) (haccountLock : s.accountLock = none) :
    match admission settings l.now s.record with
    | none => Quits settings hasAccount subject i s s.record s.failures.length
    | some own => Quits settings hasAccount subject i s
        (if hasAccount && l.isRight then none
          else some (countFailure settings subject l.failedAt own))
        (s.failures.length + if hasAccount && l.isRight then 0 else 1) := by
  cases hrecord : s.record with
  | none =>
    let l' : LoginCall := { l with phase := .admitted, own := none, window := s.window }
    refine Quits.step (t := s.put i l') hl (by rw [advance, hphase, hrecord]; rfl)
      (quits_admitted (s := s.put i l') (l := l') ⟨.inl hrecordLock, .inl haccountLock⟩
        (put_self hl _) rfl haccountLock fun _ => ⟨hrecord, hrecordLock⟩)
  | some record =>
    let l' : LoginCall := { l with phase := .waiting s.incarnation }
    have hl' : (s.put i l').logins[i]? = some l' := put_self hl _
    have hwait : s.advance settings hasAccount subject i l = some (s.put i l') := by
      rw [advance, hphase, hrecord]
    have hfound : (s.put i l').found s.incarnation = some record := by
      show (if s.incarnation = s.incarnation then s.record else none) = _
      rw [if_pos rfl, hrecord]
    have hdecide : (s.put i l').advance settings hasAccount subject i l' =
        some ((s.put i l').decide settings i l' record) :=
      advance_waiting rfl hfound hrecordLock
    rw [admission]
    rw [LimiterState.decide] at hdecide
    cases hdecision : attemptDecision (attemptWindow settings) settings.loginMaxAttempts l.now
        record with
    | refuse retryAfter =>
      rw [show attemptDecision (attemptWindow settings) settings.loginMaxAttempts l'.now record = _
        from hdecision] at hdecide
      have hend : Quits settings hasAccount subject i
          ((s.put i l').put i { l' with phase := .finished }) (some record) s.failures.length := by
        refine ⟨0, _, rfl, ?_, hrecordLock, haccountLock, hrecord, rfl⟩
        rw [put_self hl' _]
        rfl
      exact (hend.step hl' hdecide).step hl hwait
    | letIn =>
      rw [show attemptDecision (attemptWindow settings) settings.loginMaxAttempts l'.now record = _
        from hdecision] at hdecide
      let t : LimiterState := { s.put i l' with recordLock := some i }
      let l₁ : LoginCall :=
        { l' with phase := .admitted, own := some record, window := (s.put i l').window }
      exact (Quits.step hl' hdecide (quits_admitted (s := t.put i l₁) (l := l₁)
        ⟨.inr rfl, .inl haccountLock⟩ (put_self (s := t) hl' _) rfl haccountLock
        (by intro h; cases h))).step hl hwait
    | restart =>
      rw [show attemptDecision (attemptWindow settings) settings.loginMaxAttempts l'.now record = _
        from hdecision] at hdecide
      let t : LimiterState :=
        { s.put i l' with recordLock := some i, window := (s.put i l').window + 1 }
      let l₁ : LoginCall :=
        { l' with
          phase := .admitted
          own := some { record with windowStartedAt := l'.now, count := 0 }
          window := (s.put i l').window + 1 }
      exact (Quits.step hl' hdecide (quits_admitted (s := t.put i l₁) (l := l₁)
        ⟨.inr rfl, .inl haccountLock⟩ (put_self (s := t) hl' _) rfl haccountLock
        (by intro h; cases h))).step hl hwait

end LimiterState

/-! ## The two together -/

/-- A password is right for an account only. -/
theorem any_and_isRight (settings : IdentitySettings) (address password : String) (db : Store) :
    (db.accounts.any (·.email == address) && isRight settings address password db) =
      isRight settings address password db := by
  cases hany : db.accounts.any (·.email == address) with
  | true => rfl
  | false =>
    have hnone : db.accounts.find? (·.email == address) = none := by
      rw [List.find?_eq_none]
      exact fun a ha => by simpa using List.any_eq_false.1 hany a ha
    rw [isRight, hnone]
    rfl

/-- **The limiter follows the login.** Where a login runs alone, it ends in the limiter with the
record that the program `login` leaves in the store, without a lock, and with one failure more
exactly if the program raises `AuthenticationFailed`. -/
theorem limiter_follows_login {settings : IdentitySettings} {email address password : String}
    {salt : Bytes} {new : NewSession} {failedAt : Timestamp} {db : Store} {s : LimiterState}
    (haddress : settings.normalizeEmail email = some address)
    (hnew : isNewSession settings new db = true)
    (hrecord : s.record = attemptOf (settings.attemptSubject address) db)
    (hrecordLock : s.recordLock = none) (haccountLock : s.accountLock = none) :
    ∃ n s', (limiterSystem settings (db.accounts.any (·.email == address))
        (settings.attemptSubject address)).run s
          (.arrive new.now failedAt (isRight settings address password db) ::
            List.replicate n (.advance s.logins.length)) = some s' ∧
      (s'.logins[s.logins.length]?).map (·.phase) = some .finished ∧
      s'.recordLock = none ∧ s'.accountLock = none ∧
      s'.record = attemptOf (settings.attemptSubject address)
        ((login settings email password salt new failedAt).exec db).1 ∧
      s'.failures.length = s.failures.length +
        if ((login settings email password salt new failedAt).exec db).2 =
          .error .authenticationFailed then 1 else 0 := by
  let l : LoginCall :=
    ⟨.arrived, new.now, failedAt, isRight settings address password db, none, 0⟩
  let t : LimiterState := { s with logins := s.logins ++ [l] }
  have hl : t.logins[s.logins.length]? = some l := List.getElem?_concat_length
  have hexec := login_exec haddress hnew password salt failedAt
  have hquits := LimiterState.quits_arrived settings (db.accounts.any (·.email == address))
    (settings.attemptSubject address) hl rfl hrecordLock haccountLock
  rw [any_and_isRight, show t.record = _ from hrecord] at hquits
  cases hadmitted : admission settings new.now (attemptOf (settings.attemptSubject address) db) with
  | none =>
    rw [hadmitted] at hexec
    rw [show admission settings l.now _ = _ from hadmitted] at hquits
    obtain ⟨retryAfter, hexec⟩ := hexec
    obtain ⟨n, s', hrun, hphase, hlock, hlock', hrecord', hfailures⟩ := hquits
    refine ⟨n, s', hrun, hphase, hlock, hlock', ?_, ?_⟩
    · rw [hexec]
      exact hrecord'
    · rw [hexec, hfailures]
      rfl
  | some own =>
    rw [hadmitted] at hexec
    rw [show admission settings l.now _ = _ from hadmitted] at hquits
    obtain ⟨db', hattempt, hexec⟩ := hexec
    obtain ⟨n, s', hrun, hphase, hlock, hlock', hrecord', hfailures⟩ := hquits
    refine ⟨n, s', hrun, hphase, hlock, hlock', ?_, ?_⟩
    · rw [hexec, hattempt]
      exact hrecord'
    · rw [hexec, hfailures]
      cases isRight settings address password db <;> rfl

end Authentication

end Rulefolio
