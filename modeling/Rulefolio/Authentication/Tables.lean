import Rulefolio.Library.Transaction
import Rulefolio.Models
import Rulefolio.Settings

/-!
# The tables of `app.identity`

Accounts, their passwords, login sessions and one-time credentials, the attempts that are counted
against a limit, the queue of recovery requests, and the mail that carries a token. They form a
database of their own: no other package writes them in the functions modelled here.

Three fields are not columns but history variables. No statement reads them. They record what the
properties are about: which password a session was granted on, and which request a credential and
its mail were issued for.

## Main definitions

* `PasswordCredential`, `SessionRecord`, `OneTimeCredential`, `AttemptRecord`,
  `RecoveryRequestJob`, `TokenMail`, `Store`.
* `RowKey`, `IdentityError`, `IdentitySettings`, `Program`.
-/

namespace Rulefolio

namespace Authentication

/-- `identity_password_credentials`. -/
structure PasswordCredential where
  accountId : Uuid
  passwordHash : String
  /-- Not a column: how often a password has been set. -/
  version : ℕ
  deriving DecidableEq, Repr

/-- `identity_sessions`. -/
structure SessionRecord where
  id : Uuid
  accountId : Uuid
  tokenHash : Bytes
  expiresAt : Timestamp
  revokedAt : Option Timestamp
  revokeReason : Option String
  /-- Not a column: the version of the password it was granted on. -/
  passwordVersion : ℕ
  deriving DecidableEq, Repr

/-- `identity_one_time_credentials`. -/
structure OneTimeCredential where
  id : Uuid
  accountId : Uuid
  purpose : MailPurpose
  tokenHash : Bytes
  status : CredentialStatus
  expiresAt : Timestamp
  consumedAt : Option Timestamp
  revokedAt : Option Timestamp
  /-- Not a column: the recovery request it was issued for. -/
  issuedFor : Option Uuid
  deriving DecidableEq, Repr

/-- `identity_attempt_records.purpose`. -/
inductive AttemptPurpose
  | login
  | recoveryRequest
  | exchange (purpose : MailPurpose)
  deriving DecidableEq, Repr

/-- `identity_attempt_records`. -/
structure AttemptRecord where
  purpose : AttemptPurpose
  subjectHash : Bytes
  windowStartedAt : Timestamp
  count : ℕ
  deriving DecidableEq, Repr

/-- `identity_recovery_request_jobs.status`. -/
inductive JobStatus
  | pending
  | processing
  | completed
  | failed
  deriving DecidableEq, Repr

/-- `identity_recovery_request_jobs`. -/
structure RecoveryRequestJob where
  id : Uuid
  emailCiphertext : Option Bytes
  emailNonce : Option Bytes
  keyVersion : Option ℕ
  status : JobStatus
  claimId : Option Uuid
  processingStartedAt : Option Timestamp
  createdAt : Timestamp
  completedAt : Option Timestamp
  deriving DecidableEq, Repr

/-- A row of `mail_outbox` that carries the token of a credential. -/
structure TokenMail extends MailOutbox where
  /-- Not a column: the recovery request it was written for. -/
  issuedFor : Option Uuid
  deriving DecidableEq, Repr

/-- The committed rows. -/
structure Store where
  accounts : List Account
  passwords : List PasswordCredential
  sessions : List SessionRecord
  credentials : List OneTimeCredential
  attempts : List AttemptRecord
  jobs : List RecoveryRequestJob
  outbox : List TokenMail
  deriving DecidableEq, Repr

/-- A store without rows. -/
def Store.empty : Store := ⟨[], [], [], [], [], [], []⟩

/-- What a row lock can be taken on. A unique index is locked by the key that is inserted. -/
inductive RowKey
  | account (id : Uuid)
  | accountEmail (email : String)
  | password (accountId : Uuid)
  | session (id : Uuid)
  | sessionToken (tokenHash : Bytes)
  | credential (id : Uuid)
  | credentialToken (tokenHash : Bytes)
  | attempt (purpose : AttemptPurpose) (subjectHash : Bytes)
  | job (id : Uuid)
  | outbox (id : Uuid)
  deriving DecidableEq, Repr

/-- The exceptions of the service. -/
inductive IdentityError
  | valueError
  | rateLimited (retryAfter : ℕ)
  | authenticationFailed
  | linkUnavailable
  | integrityError
  deriving DecidableEq, Repr

/-- What a call runs. -/
abbrev Program (α : Type) := Tx Store RowKey IdentityError α

/-- `argon2.PasswordHasher`. A hash is salted. -/
structure PasswordHasher where
  hash : (salt : Bytes) → (password : String) → String
  /-- `false` is any of the exceptions of a verification. -/
  verify : (passwordHash password : String) → Bool
  checkNeedsRehash : String → Bool

/-- The settings and the primitives the service relies on. -/
structure IdentitySettings where
  mail : Settings
  /-- `normalize_email`; `none` is its `ValueError`. -/
  normalizeEmail : String → Option String
  /-- `_attempt_subject`. -/
  attemptSubject : String → Bytes
  /-- `_token_hash`. -/
  tokenHash : String → Bytes
  hasher : PasswordHasher
  /-- The decryption of a job's email; `none` is any exception it raises. -/
  decryptEmail : (nonce ciphertext : Bytes) → (jobId : Uuid) → Option String
  passwordMinLength : ℕ
  passwordMaxLength : ℕ
  sessionTtlHours : ℕ
  oneTimeTokenTtlMinutes : ℕ
  authAttemptWindowMinutes : ℕ
  loginMaxAttempts : ℕ
  recoveryRequestMaxAttempts : ℕ
  recoveryExchangeMaxAttempts : ℕ
  recoveryJobStaleMinutes : ℕ
  one_le_loginMaxAttempts : 1 ≤ loginMaxAttempts
  one_le_authAttemptWindowMinutes : 1 ≤ authAttemptWindowMinutes

end Authentication

end Rulefolio
