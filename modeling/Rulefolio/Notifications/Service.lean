import Rulefolio.Library.Table
import Rulefolio.Settings

/-!
# `app.notifications.service`: statements on the outbox

Each function here is one `UPDATE` of `mail_outbox` or one row it inserts, as a function of the
table. The functions that call them, and the transactions those calls belong to, are modelled
where their interleaving matters.

Four statements take rows out of the queue. They agree on one point, which is what makes them
safe to race with a dispatcher: a row is only touched while its SMTP attempt has not started
(`MailOutbox.unstarted`), with the exception of `suppressForRestrictedRecovery`, which also
relabels rows whose outcome is already unknown.

## Main definitions

* `MailOutbox.unstarted` — the condition `_stop_todo_mail` and its siblings share.
* `stopTodoMail`, `suppressForRestrictedRecovery`, `suppressBusinessMails`,
  `clearOutboxEnvelopes` — the four statements.
* `enqueueTokenMail`, `enqueueBusinessMail` — the two ways a row is created.
-/

namespace Rulefolio

namespace MailOutbox

/-- `status = 'pending' OR (status = 'sending' AND smtp_started_at IS NULL)`: still in the queue,
or claimed by a dispatcher that has not called SMTP. -/
def unstarted (r : MailOutbox) : Bool :=
  r.status == .pending || (r.status == .sending && r.smtpStartedAt.isNone)

/-- The three envelope columns set to `NULL`. -/
def clearEnvelope (r : MailOutbox) : MailOutbox :=
  { r with tokenCiphertext := none, tokenNonce := none, keyVersion := none }

end MailOutbox

namespace Notifications

/-- The kinds `delete_work_access_todos` removes. -/
def todoMaintenanceKinds : List TodoKind :=
  [.feedbackSubmitted, .issueOpened, .retestArrangementNeeded, .retestArranged]

/-! ### Taking rows out of the queue -/

/-- The `WHERE` clause of `_stop_todo_mail`. -/
def stopsTodoMail (todoId : Uuid) (r : MailOutbox) : Bool :=
  r.todoId == some todoId && r.unstarted

/-- The values `_stop_todo_mail` sets; every caller leaves its `status` at `cancelled`. -/
def cancelMail (r : MailOutbox) : MailOutbox :=
  { r with status := .cancelled, claimId := none }

/-- `_stop_todo_mail`. -/
def stopTodoMail (todoId : Uuid) (outbox : List MailOutbox) : List MailOutbox :=
  Table.update (stopsTodoMail todoId) cancelMail outbox

/-- The `WHERE` clause of `suppress_for_restricted_recovery`. -/
def suppressesInRecovery (r : MailOutbox) : Bool :=
  r.status == .unknown || r.unstarted

/-- `suppress_for_restricted_recovery`. -/
def suppressForRestrictedRecovery (outbox : List MailOutbox) : List MailOutbox :=
  Table.update suppressesInRecovery
    (fun r => { r.clearEnvelope with status := .suppressed, claimId := none }) outbox

/-- The `WHERE` clause of `suppress_business_mails`. -/
def suppressesBusiness (businessScope : BusinessScope) (r : MailOutbox) : Bool :=
  r.businessScope == some businessScope && r.credentialId.isNone && r.unstarted

/-- `suppress_business_mails`. -/
def suppressBusinessMails (businessScope : BusinessScope) (outbox : List MailOutbox) :
    List MailOutbox :=
  Table.update (suppressesBusiness businessScope)
    (fun r => { r with status := .suppressed, claimId := none }) outbox

/-- The `WHERE` clause of `clear_outbox_envelopes`. -/
def clearsEnvelope (credentialIds : List Uuid) (r : MailOutbox) : Bool :=
  r.credentialId.any (credentialIds.contains ·) &&
    (r.status == .pending || r.status == .sending || r.status == .cancelled) &&
    r.smtpStartedAt.isNone

/-- `clear_outbox_envelopes`; every caller leaves its `status` argument at `cancelled`. -/
def clearOutboxEnvelopes (credentialIds : List Uuid) (outbox : List MailOutbox) :
    List MailOutbox :=
  Table.update (clearsEnvelope credentialIds)
    (fun r => { r.clearEnvelope with status := .cancelled, claimId := none }) outbox

/-! ### Creating rows -/

/-- The row `enqueue_token_mail` adds; the nonce and the ciphertext come from the cipher. -/
def enqueueTokenMail (settings : Settings) (id credentialId accountId : Uuid)
    (purpose : MailPurpose) (nonce ciphertext : Bytes) (workspaceName : Option String)
    (todoId : Option Uuid) (now : Timestamp) : MailOutbox where
  id := id
  credentialId := some credentialId
  todoId := todoId
  retryOperationKey := none
  recipientAccountId := accountId
  purpose := purpose
  workspaceName := workspaceName
  businessScope := none
  frozenSubject := none
  frozenBody := none
  status := .pending
  claimId := none
  tokenCiphertext := some ciphertext
  tokenNonce := some nonce
  keyVersion := some settings.tokenEncryptionKeyVersion
  attemptCount := 0
  nextAttemptAt := now
  dispatchStartedAt := none
  smtpStartedAt := none
  acceptedAt := none
  lastErrorCode := none
  createdAt := now

/-- The row `enqueue_business_mail` adds. -/
def enqueueBusinessMail (id accountId : Uuid) (purpose : MailPurpose) (subject body : String)
    (businessScope : BusinessScope) (todoId : Option Uuid) (retryOperationKey : Option String)
    (now : Timestamp) : MailOutbox where
  id := id
  credentialId := none
  todoId := todoId
  retryOperationKey := retryOperationKey
  recipientAccountId := accountId
  purpose := purpose
  workspaceName := none
  businessScope := some businessScope
  frozenSubject := some subject
  frozenBody := some body
  status := .pending
  claimId := none
  tokenCiphertext := none
  tokenNonce := none
  keyVersion := none
  attemptCount := 0
  nextAttemptAt := now
  dispatchStartedAt := none
  smtpStartedAt := none
  acceptedAt := none
  lastErrorCode := none
  createdAt := now

end Notifications

end Rulefolio
