import Mathlib.Data.List.DropRight
import Mathlib.Data.List.MinMax
import Rulefolio.Notifications.Eligibility

/-!
# `app.notifications.dispatcher`

The functions of the dispatcher, in the order of the source. Each writing function is one
transaction that commits before it returns, so as a function of the committed database it is
atomic; what happens between two of them is the business of `Notifications.MailSystem`.

`_update_claim` and `_start_smtp` are guarded `UPDATE`s: a claim is compared with the row at the
moment of writing, and the number of rows hit tells the caller whether it still owns the row.

## Main definitions

* `DispatchClaim` — what a dispatcher remembers of its claim.
* `recoverStaleDispatches`, `claimNext`, `startSmtp`, `updateClaim`, `markAccepted`,
  `markFailed`, `markUnknown`, `markIneligible`, `markBusinessIneligible`.
* `dispatchCheck` — the credential half of the eligibility check of `_dispatch_one`.
-/

namespace Rulefolio

namespace Notifications

/-- `DispatchClaim`. `attemptCount` is the row's count when it was claimed. -/
structure DispatchClaim where
  outboxId : Uuid
  claimId : Uuid
  attemptCount : ℕ
  deriving DecidableEq, Repr

/-- A mail as handed to `_send`. -/
structure Message where
  toAddress : String
  subject : String
  body : String
  deriving DecidableEq, Repr

/-- `str.rstrip("/")`. -/
def rstripSlash (s : String) : String :=
  String.ofList (s.toList.rdropWhile (· == '/'))

/-- `_message_content`; `none` is its `ValueError`. -/
def messageContent (settings : Settings) (purpose : MailPurpose) (token : String)
    (workspaceName : Option String) : Option (String × String) :=
  let content (subject path action bodyPrefix : String) :=
    (subject, bodyPrefix ++ "请在有效期内打开以下链接" ++ action ++ "：\n" ++
      rstripSlash settings.appPublicUrl ++ path ++ "#token=" ++ token ++
      "\n\n如果不是你本人发起的操作，请忽略此邮件。")
  match purpose, workspaceName with
  | .accountActivation, _ =>
    some (content "设置好玩实验室账户密码" "/auth/activate" "设置密码并激活账户" "")
  | .passwordRecovery, _ => some (content "恢复好玩实验室账户" "/auth/reset" "更新密码" "")
  | .workspaceInvitation, some name =>
    if name = "" then none
    else some (content "加入好玩实验室工作空间" "/auth/invitation" "继续加入工作空间"
      ("你受邀加入工作空间“" ++ name ++ "”。\n"))
  | _, _ => none

/-- `decrypt_token`; `none` is an exception. -/
def decryptToken (settings : Settings) (outbox : MailOutbox) : Option String :=
  match outbox.tokenCiphertext, outbox.tokenNonce with
  | some ciphertext, some nonce =>
    settings.decrypt nonce ciphertext outbox.credentialId outbox.purpose
  | _, _ => none

/-! ### Claiming and stale recovery -/

/-- The rows `recover_stale_dispatches` selects: sending since before the cutoff, and not locked
by another transaction (`SKIP LOCKED`). -/
def isStale (settings : Settings) (now : Timestamp) (locked : List Uuid) (r : MailOutbox) :
    Bool :=
  r.status == .sending &&
    r.dispatchStartedAt.any
      (fun t => t + minutes settings.mailDispatchStaleMinutes < now) &&
    !locked.contains r.id

/-- What `recover_stale_dispatches` does to a stale row: back to the queue if SMTP was never
called, otherwise the outcome is unknown and the token is dropped. -/
def recoverStale (r : MailOutbox) : MailOutbox :=
  match r.smtpStartedAt with
  | none => { r with claimId := none, status := .pending, dispatchStartedAt := none }
  | some _ =>
    { r.clearEnvelope with
      claimId := none, status := .unknown, lastErrorCode := some "smtp_result_unknown" }

/-- `recover_stale_dispatches`, given the stage its gate read. -/
def recoverStaleDispatches (settings : Settings) (stage : RecoveryStage) (now : Timestamp)
    (locked : List Uuid) (outbox : List MailOutbox) : List MailOutbox :=
  if dispatcherAllowed settings stage then
    Table.update (isStale settings now locked) recoverStale outbox
  else outbox

/-- A row `_claim_next` may take. -/
def isDue (now : Timestamp) (locked : List Uuid) (r : MailOutbox) : Bool :=
  r.status == .pending && r.nextAttemptAt ≤ now && !locked.contains r.id

/-- What `_claim_next` does to the row it takes. -/
def claimRow (claimId : Uuid) (now : Timestamp) (r : MailOutbox) : MailOutbox :=
  { r with
    status := .sending, claimId := some claimId, dispatchStartedAt := some now,
    attemptCount := r.attemptCount + 1 }

/-- `_claim_next`: the oldest due row that nobody has locked. -/
def claimNext (now : Timestamp) (locked : List Uuid) (claimId : Uuid)
    (outbox : List MailOutbox) : Option (DispatchClaim × List MailOutbox) :=
  ((outbox.filter (isDue now locked)).argmin (·.createdAt)).map fun r =>
    (⟨r.id, claimId, r.attemptCount + 1⟩,
      Table.update (·.id == r.id) (claimRow claimId now) outbox)

/-- The row of a claim that is still held: the condition `_load_claim`, `_start_smtp` and
`_update_claim` share. -/
def holds (claim : DispatchClaim) (r : MailOutbox) : Bool :=
  r.id == claim.outboxId && r.status == .sending && r.claimId == some claim.claimId

/-- `_load_claim`. -/
def loadClaim (claim : DispatchClaim) (outbox : List MailOutbox) : Option MailOutbox :=
  outbox.find? (holds claim)

/-! ### Eligibility -/

/-- `_associated_todo_is_open`. -/
def associatedTodoIsOpen (db : Database) (outbox : MailOutbox) : Bool :=
  match outbox.todoId with
  | none => true
  | some todoId => (db.todos.find? (·.id == todoId)).any (·.status == .opened)

/-- `_business_todo_is_eligible`. -/
def businessTodoIsEligible (db : Database) (outbox : MailOutbox) : Bool :=
  match outbox.todoId with
  | none => true
  | some todoId => (db.todos.find? (·.id == todoId)).any (businessTodoEligible db)

/-- The rest of the check of `_dispatch_one`: the account, and for a token mail the credential
and the invitation. `none` leads to `_mark_ineligible`. -/
def dispatchCheck (settings : Settings) (db : Database) (now : Timestamp)
    (outbox : MailOutbox) : Option Message :=
  match db.accounts.find? (·.id == outbox.recipientAccountId), outbox.credentialId with
  | none, _ => none
  | some account, none =>
    match outbox.frozenSubject, outbox.frozenBody with
    | some subject, some body =>
      if account.status = .active ∧ subject ≠ "" ∧ body ≠ "" then
        some ⟨account.email, subject, body⟩
      else none
    | _, _ => none
  | some account, some credentialId =>
    match db.credentials.find? (·.id == credentialId) with
    | none => none
    | some credential =>
      let invitation := db.invitations.find? (·.credentialId == credential.id)
      let unavailable : Bool :=
        credential.purpose != outbox.purpose || credential.status != .active ||
          credential.expiresAt ≤ now ||
          (outbox.purpose == .accountActivation && account.status != .pendingActivation) ||
          (outbox.purpose == .passwordRecovery && account.status != .active) ||
          (outbox.purpose == .workspaceInvitation &&
            (!invitation.any (fun i => i.status == .active && i.accountId == account.id) ||
              account.status == .disabled || outbox.workspaceName.all (· == "")))
      if unavailable then none
      else do
        let token ← decryptToken settings outbox
        let (subject, body) ← messageContent settings outbox.purpose token outbox.workspaceName
        return ⟨account.email, subject, body⟩

/-! ### The guarded updates -/

/-- The sub-selects of `_start_smtp`, on the row the `UPDATE` looks at. -/
def smtpMayStart (db : Database) (now : Timestamp) (r : MailOutbox) : Bool :=
  let todoOpen := db.todos.any fun t => r.todoId == some t.id && t.status == .opened
  let credentialAvailable := db.credentials.any fun c =>
    r.credentialId == some c.id && c.purpose == r.purpose && c.status == .active &&
      now < c.expiresAt
  let invitationAvailable := db.invitations.any fun i =>
    r.credentialId == some i.credentialId && i.accountId == r.recipientAccountId &&
      i.status == .active
  db.recoveryStage == .opened && (r.todoId.isNone || todoOpen) &&
    (r.credentialId.isNone || credentialAvailable) &&
    (r.purpose != .workspaceInvitation || invitationAvailable)

/-- The `WHERE` clause of `_start_smtp`. -/
def canStart (db : Database) (now : Timestamp) (claim : DispatchClaim) (r : MailOutbox) : Bool :=
  holds claim r && r.smtpStartedAt.isNone && smtpMayStart db now r

/-- `_start_smtp`: the new outbox and whether a row was hit. -/
def startSmtp (db : Database) (now : Timestamp) (claim : DispatchClaim) :
    List MailOutbox × Bool :=
  (Table.update (canStart db now claim) (fun r => { r with smtpStartedAt := some now }) db.outbox,
    db.outbox.any (canStart db now claim))

/-- `_update_claim`: the new outbox and whether a row was hit. -/
def updateClaim (claim : DispatchClaim) (values : MailOutbox → MailOutbox)
    (outbox : List MailOutbox) : List MailOutbox × Bool :=
  (Table.update (holds claim) (fun r => { values r with claimId := none }) outbox,
    outbox.any (holds claim))

/-- `_mark_ineligible`. -/
def markIneligible (claim : DispatchClaim) : List MailOutbox → List MailOutbox × Bool :=
  updateClaim claim fun r =>
    { r.clearEnvelope with
      status := .cancelled, lastErrorCode := some "credential_unavailable" }

/-- `_mark_business_ineligible`. -/
def markBusinessIneligible (claim : DispatchClaim) : List MailOutbox → List MailOutbox × Bool :=
  updateClaim claim fun r =>
    { r with status := .cancelled, lastErrorCode := some "business_unavailable" }

/-- `_mark_accepted`. -/
def markAccepted (now : Timestamp) (claim : DispatchClaim) :
    List MailOutbox → List MailOutbox × Bool :=
  updateClaim claim fun r =>
    { r.clearEnvelope with status := .accepted, acceptedAt := some now, lastErrorCode := none }

/-- `_mark_failed`: back to the queue after as many minutes as there were attempts, until the
attempts are used up. -/
def markFailed (settings : Settings) (now : Timestamp) (claim : DispatchClaim) :
    List MailOutbox → List MailOutbox × Bool :=
  updateClaim claim fun r =>
    if claim.attemptCount < settings.mailMaxAttempts then
      { r with
        status := .pending, nextAttemptAt := now + minutes claim.attemptCount,
        dispatchStartedAt := none, smtpStartedAt := none,
        lastErrorCode := some "smtp_explicit_failure" }
    else
      { r.clearEnvelope with
        status := .failed, lastErrorCode := some "smtp_explicit_failure" }

/-- `_mark_unknown`. -/
def markUnknown (claim : DispatchClaim) : List MailOutbox → List MailOutbox × Bool :=
  updateClaim claim fun r =>
    { r.clearEnvelope with status := .unknown, lastErrorCode := some "smtp_result_unknown" }

end Notifications

end Rulefolio
