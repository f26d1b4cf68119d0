import Rulefolio.Authentication.Views

/-!
# The calls of `app.identity`, interleaved

Any number of logins, exchanges, provisionings, recovery requests, workers and stale resets run at
the same time under `READ COMMITTED`. What every commit of every call does is the guarantee
`guarantee`: each account and each request changes by a step, under its lock, and an exchange that
changes anything has used a credential up (`Exchanged`).

## Main definitions

* `Call`, `prog`, `identitySystem`.
* `Exchanged` — what the commit of a successful exchange makes of the account.
* `guarantee`, `identityEnvironment`.

## Main results

* `accounts_respected`, `jobs_respected`, `identity_closed`.
-/

namespace Rulefolio

namespace Authentication

open ReadCommitted

/-! ## Calls -/

/-- A call, with the values the outside world gives it. -/
inductive Call
  | login (email password : String) (salt : Bytes) (new : NewSession) (failedAt : Timestamp)
  | exchange (token : String) (purpose : MailPurpose) (password : String) (salt : Bytes)
      (new : NewSession) (failedAt : Timestamp)
  | provisionAccount (email : String) (newId : Uuid) (new : NewCredential)
  | requestRecovery (email : String) (new : NewJob)
  | recoverStaleRecoveryRequestJobs (stage : RecoveryStage) (now : Timestamp) (locked : List Uuid)
  | processNextRecoveryRequest (stage : RecoveryStage) (now : Timestamp) (locked : List Uuid)
      (claimId : Uuid) (new : NewCredential)

namespace Call

/-- `activate`. -/
def activate (token password : String) (salt : Bytes) (new : NewSession) (failedAt : Timestamp) :
    Call :=
  .exchange token .accountActivation password salt new failedAt

/-- `recover_password`. -/
def recoverPassword (token password : String) (salt : Bytes) (new : NewSession)
    (failedAt : Timestamp) : Call :=
  .exchange token .passwordRecovery password salt new failedAt

end Call

/-- What a call runs. -/
def prog (settings : IdentitySettings) : Call → Program Unit
  | .login email password salt new failedAt => login settings email password salt new failedAt
  | .exchange token purpose password salt new failedAt =>
    exchangeOneTimeCredential settings token purpose password salt new failedAt
  | .provisionAccount email newId new => provisionAccount settings email newId new
  | .requestRecovery email new => requestRecovery settings email new
  | .recoverStaleRecoveryRequestJobs stage now locked =>
    recoverStaleRecoveryRequestJobs settings stage now locked
  | .processNextRecoveryRequest stage now locked claimId new =>
    processNextRecoveryRequest settings stage now locked claimId new

/-- What holds of every committed state. -/
def StoreOk (db : Store) : Prop :=
  (∀ a, AccountOk (accountViews.view a db)) ∧ ∀ j, JobOk (jobViews.view j db)

/-- **The calls of `app.identity`**, over any store that is in order. -/
def identitySystem (settings : IdentitySettings) :
    TransitionSystem (Config Store RowKey IdentityError Unit Call) (Event Call) :=
  system StoreOk (prog settings)

/-! ## What a commit of a call can be -/

/-- **A successful exchange.** A credential with the digest of the token could be used before and is
consumed after. Where it was a recovery, the password is a new one, no session is valid that was
not granted on it, and no recovery credential can be used any more. -/
structure Exchanged (settings : IdentitySettings) (token : String) (purpose : MailPurpose)
    (id : Uuid) (v w : AccountRows) : Prop where
  before : ∃ c ∈ v.credentials, c.id = id ∧ c.purpose = purpose ∧
    c.tokenHash = settings.tokenHash token ∧ c.status = .active
  after : ∀ c ∈ w.credentials, c.id = id → c.status = .consumed
  version : v.version < w.version
  sessions : purpose = .passwordRecovery →
    ∀ s ∈ w.sessions, s.revokedAt = none → v.version < s.passwordVersion
  credentials : purpose = .passwordRecovery → w.active .passwordRecovery = []

/-- What is known of the commits of a call besides that they are steps. -/
def Effect (settings : IdentitySettings) : Call → Store → Store → Prop
  | .exchange token purpose _ _ _ _, db, db' => accountViews.Same db db' ∨
    ∃ a id, Exchanged settings token purpose id (accountViews.view a db) (accountViews.view a db')
  | _, _, _ => True

/-- What a commit of a call can be. -/
def guarantee (settings : IdentitySettings) (call : Call) : Tx.Guarantee Store RowKey :=
  fun _ H db db' => (accountViews.Commits AccountStep H db db' ∧ Effect settings call db db') ∧
    jobViews.Commits JobStep H db db'

/-- What a call may assume about the others. -/
def identityEnvironment (settings : IdentitySettings) : Environment Store RowKey :=
  environment StoreOk (guarantee settings)

theorem accounts_respected (settings : IdentitySettings) :
    accountViews.Respected (identityEnvironment settings) :=
  LockedViews.respected_environment fun _ _ _ _ _ hG => hG.1.1.locked

theorem jobs_respected (settings : IdentitySettings) :
    jobViews.Respected (identityEnvironment settings) :=
  LockedViews.respected_environment fun _ _ _ _ _ hG => hG.2.locked

theorem identity_closed (settings : IdentitySettings) :
    Closed (identityEnvironment settings) (guarantee settings) :=
  closed_environment fun _ _ _ _ _ hdb hG =>
    ⟨fun a => (hG.1.1.step a).ok (hdb.1 a), fun j => (hG.2.step j).ok (hdb.2 j)⟩

end Authentication

end Rulefolio
