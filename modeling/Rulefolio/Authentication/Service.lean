import Mathlib.Data.List.MinMax
import Rulefolio.Authentication.Tables
import Rulefolio.Notifications.Service
import Rulefolio.Library.Table

/-!
# `app.identity.service`: passwords, sessions and recovery requests

Logging in, exchanging the token of a one-time credential, provisioning an account, and working off
the queue of recovery requests. The clock readings, the random values and the rows that
`SKIP LOCKED` passes by are inputs. A token is given by the text the caller has; the database has
its digest.

A row is found by what a statement asks for, locked under its key, and read again by its primary
key (`lockRow`): the row that was waited for is the one that is looked at again.

The audit rows and what is returned besides the token are left out.

## Main definitions

* `attemptDecision`, `countAttempt` — what the limiter makes of a record.
* `login`, `exchangeOneTimeCredential`, `provisionAccount`.
* `requestRecovery`, `claimRecoveryRequestJob`, `recoverStaleRecoveryRequestJobs`,
  `processNextRecoveryRequest`.
-/

namespace Rulefolio

namespace Authentication

/-! ## Statements -/

/-- `SELECT … FOR UPDATE` of one row. After the wait the row is looked at again. -/
def lockRow {ρ : Type} (table : Store → List ρ) (key : ρ → RowKey) (where_ : ρ → Bool) :
    Program (Option ρ) := do
  match ← Tx.read fun db => (table db).find? where_ with
  | none => return none
  | some row => do
    Tx.lockAll .update [key row]
    Tx.read fun db => (table db).find? fun r => key r == key row && where_ r

/-- `INSERT`. It holds the keys it inserts, and fails when one of them is taken. -/
def insertRow (keys : List RowKey) (isFree : Store → Bool) (δ : Store → Store) : Program Unit := do
  Tx.lockAll .update keys
  Tx.writeIf isFree .integrityError fun _ => δ

/-- A statement that is run in one case only. -/
def onlyIf (b : Bool) (statement : Program Unit) : Program Unit :=
  if b then statement else return ()

/-! ## The limiter -/

/-- What `_attempt_retry_after` makes of the record it has found. -/
inductive AttemptDecision
  | refuse (retryAfter : ℕ)
  | letIn
  /-- The window is over: admit, and start a new one. -/
  | restart
  deriving DecidableEq, Repr

/-- The decision of `_attempt_retry_after`. -/
def attemptDecision (window maximum : ℕ) (now : Timestamp) (record : AttemptRecord) :
    AttemptDecision :=
  if record.windowStartedAt + window ≤ now then .restart
  else if maximum ≤ record.count then .refuse (max 1 (record.windowStartedAt + window - now))
  else .letIn

/-- What `_record_attempt` makes of the record it has found. -/
def countAttempt (window : ℕ) (now : Timestamp) (record : AttemptRecord) : AttemptRecord :=
  if record.windowStartedAt + window ≤ now then
    { record with windowStartedAt := now, count := 1 }
  else { record with count := record.count + 1 }

section Attempts

variable (settings : IdentitySettings)

/-- `timedelta(minutes=settings.auth_attempt_window_minutes)`. -/
def attemptWindow : ℕ := minutes settings.authAttemptWindowMinutes

/-- The record of a subject. -/
def isAttempt (purpose : AttemptPurpose) (subjectHash : Bytes) (r : AttemptRecord) : Bool :=
  r.purpose == purpose && r.subjectHash == subjectHash

/-- Lock the record of a subject. -/
def lockAttempt (purpose : AttemptPurpose) (subjectHash : Bytes) :
    Program (Option AttemptRecord) :=
  lockRow (·.attempts) (fun r => .attempt r.purpose r.subjectHash) (isAttempt purpose subjectHash)

/-- Write the record of a subject back. -/
def putAttempt (record : AttemptRecord) : Program Unit :=
  Tx.write fun _ db => { db with
    attempts := Table.update (isAttempt record.purpose record.subjectHash) (fun _ => record)
      db.attempts }

/-- `_attempt_retry_after`. -/
def attemptRetryAfter (now : Timestamp) (purpose : AttemptPurpose) (subjectHash : Bytes)
    (maximum : ℕ) : Program (Option ℕ) := do
  match ← lockAttempt purpose subjectHash with
  | none => return none
  | some record =>
    match attemptDecision (attemptWindow settings) maximum now record with
    | .refuse retryAfter => return some retryAfter
    | .letIn => return none
    | .restart => do
      putAttempt { record with windowStartedAt := now, count := 0 }
      return none

/-- `_record_attempt`. -/
def recordAttempt (now : Timestamp) (purpose : AttemptPurpose) (subjectHash : Bytes) :
    Program Unit := do
  match ← lockAttempt purpose subjectHash with
  | none =>
    insertRow [.attempt purpose subjectHash]
      (fun db => !db.attempts.any (isAttempt purpose subjectHash))
      fun db => { db with attempts := ⟨purpose, subjectHash, now, 1⟩ :: db.attempts }
  | some record => putAttempt (countAttempt (attemptWindow settings) now record)

/-- `_clear_attempt`. -/
def clearAttempt (purpose : AttemptPurpose) (subjectHash : Bytes) : Program Unit := do
  match ← Tx.read fun db => db.attempts.find? (isAttempt purpose subjectHash) with
  | none => return ()
  | some _ => do
    Tx.lockAll .update [.attempt purpose subjectHash]
    Tx.write fun _ db => { db with
      attempts := Table.delete (isAttempt purpose subjectHash) db.attempts }

/-- The limit that stands before a call, with the commit of what it counted when it refuses. -/
def refuseAbove (now : Timestamp) (purpose : AttemptPurpose) (subjectHash : Bytes)
    (maximum : ℕ) : Program Unit := do
  match ← attemptRetryAfter settings now purpose subjectHash maximum with
  | some retryAfter => do
    Tx.commitNow
    Tx.raise (.rateLimited retryAfter)
  | none => return ()

/-- A failure is counted, and the call is over. -/
def failAttempt {α : Type} (now : Timestamp) (purpose : AttemptPurpose) (subjectHash : Bytes)
    (e : IdentityError) : Program α := do
  recordAttempt settings now purpose subjectHash
  Tx.commitNow
  Tx.raise e

end Attempts

/-! ## Accounts, passwords and sessions -/

/-- `SELECT … FOR UPDATE` of an account. -/
def lockAccount (where_ : Account → Bool) : Program (Option Account) :=
  lockRow (·.accounts) (fun a => .account a.id) where_

/-- `session.get(PasswordCredential, …)`. -/
def findPassword (accountId : Uuid) (db : Store) : Option PasswordCredential :=
  db.passwords.find? (·.accountId == accountId)

/-- The password of the account that was found. -/
def passwordOf : Option Account → Program (Option PasswordCredential)
  | some account => Tx.read (findPassword account.id)
  | none => return none

/-- `validate_password`. -/
def validPassword (settings : IdentitySettings) (password : String) : Bool :=
  settings.passwordMinLength ≤ password.length && password.length ≤ settings.passwordMaxLength

/-- `_set_password`: the version it leaves. -/
def setPassword (accountId : Uuid) (passwordHash : String) : Program ℕ := do
  match ← Tx.read (findPassword accountId) with
  | none => do
    insertRow [.password accountId] (fun db => !db.passwords.any (·.accountId == accountId))
      fun db => { db with passwords := ⟨accountId, passwordHash, 1⟩ :: db.passwords }
    return 1
  | some credential => do
    Tx.write fun _ db => { db with
      passwords := Table.update (·.accountId == accountId)
        (fun p => { p with passwordHash := passwordHash, version := credential.version + 1 })
        db.passwords }
    return credential.version + 1

/-- The password stays, its hash is renewed. -/
def rehash (accountId : Uuid) (passwordHash : String) : Program Unit :=
  Tx.write fun _ db => { db with
    passwords := Table.update (·.accountId == accountId)
      (fun p => { p with passwordHash := passwordHash }) db.passwords }

/-- Write the status of an account. -/
def setStatus (accountId : Uuid) (status : AccountStatus) : Program Unit :=
  Tx.write fun _ db => { db with
    accounts := Table.update (·.id == accountId) (fun a => { a with status := status })
      db.accounts }

/-- The values a new session is made of. -/
structure NewSession where
  id : Uuid
  token : String
  now : Timestamp
  deriving DecidableEq, Repr

/-- The row `_create_session` adds. -/
def NewSession.row (settings : IdentitySettings) (new : NewSession) (accountId : Uuid)
    (passwordVersion : ℕ) : SessionRecord where
  id := new.id
  accountId := accountId
  tokenHash := settings.tokenHash new.token
  expiresAt := new.now + 60 * minutes settings.sessionTtlHours
  revokedAt := none
  revokeReason := none
  passwordVersion := passwordVersion

/-- `_create_session`. -/
def createSession (settings : IdentitySettings) (new : NewSession) (accountId : Uuid)
    (passwordVersion : ℕ) : Program Unit :=
  let record := new.row settings accountId passwordVersion
  insertRow [.session record.id, .sessionToken record.tokenHash]
    (fun db => !db.sessions.any fun s => s.id == record.id || s.tokenHash == record.tokenHash)
    fun db => { db with sessions := record :: db.sessions }

/-- The sessions of an account that are not revoked. -/
def isOpenSession (accountId : Uuid) (s : SessionRecord) : Bool :=
  s.accountId == accountId && s.revokedAt.isNone

/-- The `UPDATE` that revokes the sessions of an account. -/
def revokeSessions (now : Timestamp) (accountId : Uuid) (reason : String) : Program Unit :=
  Tx.write fun _ db => { db with
    sessions := Table.update (isOpenSession accountId)
      (fun s => { s with revokedAt := some now, revokeReason := some reason }) db.sessions }

/-! ## One-time credentials -/

/-- The credentials of an account for a purpose that can be used. -/
def isActiveCredential (accountId : Uuid) (purpose : MailPurpose) (c : OneTimeCredential) : Bool :=
  c.accountId == accountId && c.purpose == purpose && c.status == .active

/-- `clear_outbox_envelopes`. -/
def clearOutboxEnvelopes (credentialIds : List Uuid) : Program Unit :=
  Tx.write fun _ db => { db with
    outbox := Table.update (fun r => Notifications.clearsEnvelope credentialIds r.toMailOutbox)
      (fun r => { r with
        toMailOutbox := { r.clearEnvelope with status := .cancelled, claimId := none } })
      db.outbox }

/-- `_revoke_credentials`. The flush writes the selected rows back by their keys. -/
def revokeCredentials (now : Timestamp) (accountId : Uuid) (purpose : MailPurpose) :
    Program (List Uuid) := do
  let credentials ← Tx.selectAllForUpdate (fun c : OneTimeCredential => .credential c.id)
    fun db : Store => db.credentials.filter (isActiveCredential accountId purpose)
  let ids := credentials.map (·.id)
  Tx.write fun _ db => { db with
    credentials := Table.update (fun c => c.accountId == accountId && ids.contains c.id)
      (fun c => { c with status := .revoked, revokedAt := some now }) db.credentials }
  return ids

/-- The values a new credential and its mail are made of. -/
structure NewCredential where
  id : Uuid
  token : String
  mailId : Uuid
  nonce : Bytes
  ciphertext : Bytes
  now : Timestamp
  deriving DecidableEq, Repr

/-- The row `_create_one_time_credential` adds. -/
def NewCredential.row (settings : IdentitySettings) (new : NewCredential) (accountId : Uuid)
    (purpose : MailPurpose) (issuedFor : Option Uuid) : OneTimeCredential where
  id := new.id
  accountId := accountId
  purpose := purpose
  tokenHash := settings.tokenHash new.token
  status := .active
  expiresAt := new.now + minutes settings.oneTimeTokenTtlMinutes
  consumedAt := none
  revokedAt := none
  issuedFor := issuedFor

/-- `enqueue_token_mail`. -/
def NewCredential.mail (settings : IdentitySettings) (new : NewCredential) (accountId : Uuid)
    (purpose : MailPurpose) (issuedFor : Option Uuid) : TokenMail where
  toMailOutbox := Notifications.enqueueTokenMail settings.mail new.mailId new.id accountId purpose
    new.nonce new.ciphertext none none new.now
  issuedFor := issuedFor

/-- `_create_one_time_credential`. -/
def createOneTimeCredential (settings : IdentitySettings) (new : NewCredential) (accountId : Uuid)
    (purpose : MailPurpose) (issuedFor : Option Uuid) : Program Unit := do
  let revoked ← revokeCredentials new.now accountId purpose
  clearOutboxEnvelopes revoked
  let row := new.row settings accountId purpose issuedFor
  insertRow [.credential row.id, .credentialToken row.tokenHash]
    (fun db => !db.credentials.any fun c => c.id == row.id || c.tokenHash == row.tokenHash)
    fun db => { db with credentials := row :: db.credentials }
  let mail := new.mail settings accountId purpose issuedFor
  insertRow [.outbox mail.id] (fun db => !db.outbox.any (·.id == mail.id))
    fun db => { db with outbox := mail :: db.outbox }

/-! ## Calls -/

/-- The account and the password a login is checked against, if it can succeed at all. -/
def eligible (account : Option Account) (credential : Option PasswordCredential) :
    Option (Account × PasswordCredential) :=
  match account, credential with
  | some account, some credential =>
    if account.status = .active then some (account, credential) else none
  | _, _ => none

/-- `login`. A login that cannot succeed verifies a dummy, whose outcome does not matter. -/
def login (settings : IdentitySettings) (email password : String) (salt : Bytes)
    (new : NewSession) (failedAt : Timestamp) : Program Unit := do
  let email ← Tx.require (settings.normalizeEmail email) .valueError
  let subject := settings.attemptSubject email
  refuseAbove settings new.now .login subject settings.loginMaxAttempts
  let account ← lockAccount (·.email == email)
  let credential ← passwordOf account
  match eligible account credential with
  | none => failAttempt settings failedAt .login subject .authenticationFailed
  | some (account, credential) =>
    if settings.hasher.verify credential.passwordHash password then do
      onlyIf (settings.hasher.checkNeedsRehash credential.passwordHash)
        (rehash account.id (settings.hasher.hash salt password))
      clearAttempt .login subject
      createSession settings new account.id credential.version
      Tx.commitNow
    else failAttempt settings failedAt .login subject .authenticationFailed

/-- The `WHERE` clause by which a token is found. -/
def hasToken (purpose : MailPurpose) (tokenHash : Bytes) (c : OneTimeCredential) : Bool :=
  c.purpose == purpose && c.tokenHash == tokenHash

/-- The `WHERE` clause of the `UPDATE` that consumes a credential. -/
def consumes (now : Timestamp) (credential c : OneTimeCredential) : Bool :=
  c.id == credential.id && c.accountId == credential.accountId && c.status == .active &&
    now < c.expiresAt

/-- The status an account must have for an exchange. -/
def requiredStatus (purpose : MailPurpose) : AccountStatus :=
  if purpose = .accountActivation then .pendingActivation else .active

/-- Consume a credential: whether there was a row to change. -/
def consumeCredential (now : Timestamp) (credential : OneTimeCredential) : Program Bool :=
  .stmt (fun _ db => { db with
      credentials := Table.update (consumes now credential)
        (fun c => { c with status := .consumed, consumedAt := some now }) db.credentials })
    fun db => .pure (db.credentials.countP (consumes now credential) == 1)

/-- What a recovery cuts off: the sessions, and the other credentials. -/
def cutOff (now : Timestamp) (accountId : Uuid) : Program Unit := do
  revokeSessions now accountId "password_recovered"
  let revoked ← revokeCredentials now accountId .passwordRecovery
  clearOutboxEnvelopes revoked

/-- The rest of an exchange, once the credential is consumed. -/
def finishExchange (settings : IdentitySettings) (purpose : MailPurpose) (subject : Bytes)
    (password : String) (salt : Bytes) (new : NewSession) (credential : OneTimeCredential) :
    Program Unit := do
  let version ← setPassword credential.accountId (settings.hasher.hash salt password)
  onlyIf (purpose = .accountActivation) (setStatus credential.accountId .active)
  clearOutboxEnvelopes [credential.id]
  onlyIf (purpose = .passwordRecovery) (cutOff new.now credential.accountId)
  createSession settings new credential.accountId version
  clearAttempt (.exchange purpose) subject
  Tx.commitNow

/-- The token is not, or no longer, of use. -/
def linkUnavailable (settings : IdentitySettings) (failedAt : Timestamp) (purpose : MailPurpose)
    (subject : Bytes) : Program Unit :=
  failAttempt settings failedAt (.exchange purpose) subject .linkUnavailable

/-- `_exchange_one_time_credential`: `activate` and `recover_password`. -/
def exchangeOneTimeCredential (settings : IdentitySettings) (token : String)
    (purpose : MailPurpose) (password : String) (salt : Bytes) (new : NewSession)
    (failedAt : Timestamp) : Program Unit := do
  Tx.ensure (validPassword settings password) .valueError
  let subject := settings.attemptSubject token
  refuseAbove settings new.now (.exchange purpose) subject settings.recoveryExchangeMaxAttempts
  match ← lockRow (·.credentials) (fun c => .credential c.id)
      (hasToken purpose (settings.tokenHash token)) with
  | none => linkUnavailable settings failedAt purpose subject
  | some credential =>
    if credential.status = .active ∧ new.now < credential.expiresAt then do
      match ← lockAccount (·.id == credential.accountId) with
      | none => linkUnavailable settings failedAt purpose subject
      | some account =>
        if account.status = requiredStatus purpose then do
          let consumed ← consumeCredential new.now credential
          if consumed then
            finishExchange settings purpose subject password salt new credential
          else linkUnavailable settings failedAt purpose subject
        else linkUnavailable settings failedAt purpose subject
    else linkUnavailable settings failedAt purpose subject

/-- `provision_account`. -/
def provisionAccount (settings : IdentitySettings) (email : String) (newId : Uuid)
    (new : NewCredential) : Program Unit := do
  let email ← Tx.require (settings.normalizeEmail email) .valueError
  match ← lockAccount (·.email == email) with
  | none => do
    insertRow [.account newId, .accountEmail email]
      (fun db => !db.accounts.any fun a => a.id == newId || a.email == email)
      fun db => { db with accounts := ⟨newId, email, .pendingActivation⟩ :: db.accounts }
    createOneTimeCredential settings new newId .accountActivation none
    Tx.commitNow
  | some account => do
    Tx.ensure (account.status != .active) .valueError
    setStatus account.id .pendingActivation
    revokeSessions new.now account.id "reprovisioned"
    let revoked ← revokeCredentials new.now account.id .passwordRecovery
    clearOutboxEnvelopes revoked
    createOneTimeCredential settings new account.id .accountActivation none
    Tx.commitNow

/-! ## Recovery requests -/

/-- The values a new job is made of. -/
structure NewJob where
  id : Uuid
  nonce : Bytes
  ciphertext : Bytes
  now : Timestamp
  deriving DecidableEq, Repr

/-- The row `_queue_recovery_request` adds. -/
def NewJob.row (settings : IdentitySettings) (new : NewJob) : RecoveryRequestJob where
  id := new.id
  emailCiphertext := some new.ciphertext
  emailNonce := some new.nonce
  keyVersion := some settings.mail.tokenEncryptionKeyVersion
  status := .pending
  claimId := none
  processingStartedAt := none
  createdAt := new.now
  completedAt := none

/-- `request_recovery`. -/
def requestRecovery (settings : IdentitySettings) (email : String) (new : NewJob) :
    Program Unit := do
  let email ← Tx.require (settings.normalizeEmail email) .valueError
  let subject := settings.attemptSubject email
  refuseAbove settings new.now .recoveryRequest subject settings.recoveryRequestMaxAttempts
  recordAttempt settings new.now .recoveryRequest subject
  insertRow [.job new.id] (fun db => !db.jobs.any (·.id == new.id))
    fun db => { db with jobs := new.row settings :: db.jobs }
  Tx.commitNow

/-- Write a job back by its key. -/
def updateJob (id : Uuid) (f : RecoveryRequestJob → RecoveryRequestJob) (db : Store) : Store :=
  { db with jobs := Table.update (·.id == id) f db.jobs }

/-- The oldest job that waits and that nobody has locked. -/
def nextPending (locked : List Uuid) (db : Store) : Option RecoveryRequestJob :=
  (db.jobs.filter fun j => j.status == .pending && !locked.contains j.id).argmin (·.createdAt)

/-- `_claim_recovery_request_job`: the job that was claimed. -/
def claimRecoveryRequestJob (now : Timestamp) (locked : List Uuid) (claimId : Uuid) :
    Program (Option Uuid) := do
  match ← Tx.read (nextPending locked) with
  | none => return none
  | some next => do
    Tx.lockAll .update [.job next.id]
    match ← Tx.read fun db => db.jobs.find? fun j => j.id == next.id && j.status == .pending with
    | none => return none
    | some job => do
      Tx.write fun _ => updateJob job.id fun j =>
        { j with
          status := .processing
          claimId := some claimId
          processingStartedAt := some now }
      Tx.commitNow
      return some job.id

/-- A job that was claimed too long ago. -/
def isStale (cutoff : Timestamp) (j : RecoveryRequestJob) : Bool :=
  j.status == .processing && j.processingStartedAt.any (· < cutoff)

/-- A claimed job goes back into the queue. -/
def resetJob (j : RecoveryRequestJob) : RecoveryRequestJob :=
  { j with status := .pending, claimId := none, processingStartedAt := none }

/-- `recover_stale_recovery_request_jobs`, behind the gate. -/
def recoverStaleRecoveryRequestJobs (settings : IdentitySettings) (stage : RecoveryStage)
    (now : Timestamp) (locked : List Uuid) : Program Unit :=
  if dispatcherAllowed settings.mail stage then do
    let jobs ← Tx.selectAllForUpdate (fun j : RecoveryRequestJob => .job j.id) fun db : Store =>
      db.jobs.filter fun j => isStale (now - minutes settings.recoveryJobStaleMinutes) j &&
        !locked.contains j.id
    Tx.write fun _ db => { db with
      jobs := Table.update (fun j => (jobs.map (·.id)).contains j.id) resetJob db.jobs }
    Tx.commitNow
  else return ()

/-- The job of a claim that is still held: the condition the second transaction repeats. -/
def holdsJob (jobId claimId : Uuid) (j : RecoveryRequestJob) : Bool :=
  j.id == jobId && j.status == .processing && j.claimId == some claimId

/-- `_finish_recovery_request_job`. -/
def finishRecoveryRequestJob (now : Timestamp) (jobId claimId : Uuid) (status : JobStatus) :
    Program Unit := do
  Tx.write fun _ db => { db with
    jobs := Table.update (holdsJob jobId claimId)
      (fun j => { j with
        status := status
        claimId := none
        emailCiphertext := none
        emailNonce := none
        keyVersion := none
        completedAt := some now }) db.jobs }
  Tx.commitNow

/-- The email of a job, unless it is gone or cannot be decrypted. -/
def jobEmail (settings : IdentitySettings) (job : RecoveryRequestJob) : Option String :=
  match job.emailNonce, job.emailCiphertext with
  | some nonce, some ciphertext => settings.decryptEmail nonce ciphertext job.id
  | _, _ => none

/-- The credential a job issues, if there is an account it can be issued to. -/
def issueRecovery (settings : IdentitySettings) (new : NewCredential) (jobId : Uuid) :
    Option (Account × PasswordCredential) → Program Unit
  | some (account, _) =>
    createOneTimeCredential settings new account.id .passwordRecovery (some jobId)
  | none => return ()

/-- `process_next_recovery_request`, behind the gate. -/
def processNextRecoveryRequest (settings : IdentitySettings) (stage : RecoveryStage)
    (now : Timestamp) (locked : List Uuid) (claimId : Uuid) (new : NewCredential) :
    Program Unit :=
  if dispatcherAllowed settings.mail stage then do
    match ← claimRecoveryRequestJob now locked claimId with
    | none => return ()
    | some jobId =>
      match ← lockRow (·.jobs) (fun j => .job j.id) (holdsJob jobId claimId) with
      | none => return ()
      | some job =>
        match jobEmail settings job with
        | none => finishRecoveryRequestJob new.now jobId claimId .failed
        | some email => do
          let account ← lockAccount (·.email == email)
          let credential ← passwordOf account
          issueRecovery settings new jobId (eligible account credential)
          finishRecoveryRequestJob new.now jobId claimId .completed
  else return ()

end Authentication

end Rulefolio
