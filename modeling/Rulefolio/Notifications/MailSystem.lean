import Mathlib.Logic.Function.Basic
import Rulefolio.Library.TransitionSystem
import Rulefolio.Notifications.Dispatcher
import Rulefolio.Notifications.Todos

/-!
# The mail system: dispatchers, todos and the outbox between them

The transition system in which the functions of `app.notifications` meet. Its granularity is that
of PostgreSQL under `READ COMMITTED`.

* A dispatcher runs `dispatch_one`. Each of its writing functions is a single statement followed
  by a commit, hence one step. Between two of them, and between two of its reads, anything else
  may happen; what it remembers meanwhile is in its `Pc`. It may crash anywhere, and an
  `SQLAlchemyError` (the result `retryable`) is such a crash.
* A transaction that ends todos is spread over several steps, because its statements take their
  snapshots at different times: it locks the todos, runs `_stop_todo_mail` for each of them, and
  commits later. The outbox rows its statements hit stay locked until then: a guarded `UPDATE` of
  such a row waits (the step is not enabled) and `SKIP LOCKED` passes it by.
* Every other writer of the outbox is one statement, hence one step.
* The remaining tables belong to other packages and may change at any moment (`Event.other`).

Three fields of the state are history, read by no step: which attempts were started and how each
ended, which claim identifiers were handed out, and which todo a row was enqueued for. The last
one outlives `mail_outbox.todo_id`, which the deletion of a todo sets to `NULL`.

## Main definitions

* `Pc`, `EndingTransaction`, `MailSystem` — the state.
* `Event` — the labels, with every nondeterministic choice.
* `mailSystem` — the transition system.
-/

namespace Rulefolio

namespace Notifications

/-! ## The state -/

/-- How an SMTP attempt went, as far as the dispatcher knows. -/
inductive AttemptOutcome
  /-- `_send` has been called and has not returned. -/
  | inFlight
  | accepted
  /-- An explicit failure: `_send` raised an `SMTPException` other than a disconnection. -/
  | failed
  | unknown
  /-- The dispatcher died during `_send`. -/
  | crashed
  deriving DecidableEq, Repr

/-- One call of `_send`, from the commit of the `_start_smtp` that permitted it. -/
structure Attempt where
  outboxId : Uuid
  claimId : Uuid
  message : Message
  outcome : AttemptOutcome
  deriving DecidableEq, Repr

/-- The ways `_send` returns: normally, or by one of the exceptions `_dispatch_one` handles. -/
inductive SmtpOutcome
  | returned
  /-- `SMTPServerDisconnected`. -/
  | disconnected
  /-- Any other `SMTPException`. -/
  | smtpException
  /-- `TimeoutError` or `OSError`. -/
  | osError
  deriving DecidableEq, Repr

/-- What the dispatcher takes the outcome for. -/
def SmtpOutcome.attemptOutcome : SmtpOutcome → AttemptOutcome
  | .returned => .accepted
  | .disconnected => .unknown
  | .smtpException => .failed
  | .osError => .unknown

/-- What `dispatch_one` returns. -/
inductive DispatchResult
  | superseded
  | cancelled
  | unknown
  | pending
  | failed
  | accepted
  deriving DecidableEq, Repr

/-- Where a dispatcher is in `dispatch_one`, with what it has read so far. -/
inductive Pc
  /-- Before the gate. -/
  | start
  /-- The gate let it pass. -/
  | admitted
  | claimed (claim : DispatchClaim)
  | loaded (claim : DispatchClaim) (outbox : MailOutbox)
  | todoOpen (claim : DispatchClaim) (outbox : MailOutbox)
  | eligible (claim : DispatchClaim) (outbox : MailOutbox)
  /-- About to mark the row, as business mail or not. -/
  | rejected (claim : DispatchClaim) (business : Bool)
  /-- About to call `_start_smtp`. -/
  | ready (claim : DispatchClaim) (message : Message)
  /-- Inside `_send`. -/
  | sending (claim : DispatchClaim) (message : Message)
  /-- About to record the outcome. -/
  | sent (claim : DispatchClaim) (outcome : SmtpOutcome)
  | returned (result : Option DispatchResult)
  | crashed
  deriving DecidableEq, Repr

/-- A todo that a transaction has locked and ends when it commits. -/
structure EndedTodo where
  todoId : Uuid
  verdict : Verdict
  resolvedAt : Timestamp
  deriving DecidableEq, Repr

/-- A transaction in progress that ends todos. -/
structure EndingTransaction where
  ended : List EndedTodo
  /-- Those whose `_stop_todo_mail` has not run. -/
  pendingStops : List Uuid
  /-- The outbox rows its `_stop_todo_mail` statements hit; locked until the end. -/
  stopped : List Uuid
  deriving DecidableEq, Repr

namespace EndingTransaction

/-- A session between two transactions. -/
def idle : EndingTransaction := ⟨[], [], []⟩

/-- The database with the ended todos as the transaction itself sees them. -/
def view (t : EndingTransaction) (db : Database) : Database :=
  t.ended.foldl (fun db e => e.verdict.apply e.resolvedAt e.todoId db) db

/-- The rows that `_stop_todo_mail` for this todo hits; its own earlier hits are cancelled. -/
def stops (t : EndingTransaction) (todoId : Uuid) (r : MailOutbox) : Bool :=
  stopsTodoMail todoId r && !t.stopped.contains r.id

/-- What its commit publishes. -/
def publish (t : EndingTransaction) (db : Database) : Database :=
  t.view { db with outbox := Table.update (t.stopped.contains ·.id) cancelMail db.outbox }

end EndingTransaction

/-- The whole state. -/
structure MailSystem where
  db : Database
  dispatchers : ℕ → Pc
  transactions : List EndingTransaction
  /-- Every attempt ever started, the latest first. -/
  attempts : List Attempt
  /-- Every claim identifier ever handed out. -/
  issued : List Uuid
  /-- Outbox rows with the todo they were enqueued for. -/
  enqueuedFor : List (Uuid × Uuid)

namespace MailSystem

/-- The outbox rows some open transaction has locked. -/
def lockedOutbox (s : MailSystem) : List Uuid :=
  s.transactions.flatMap (·.stopped)

/-- The todos some open transaction has locked. -/
def lockedTodos (s : MailSystem) : List Uuid :=
  s.transactions.flatMap fun t => t.ended.map (·.todoId)

/-- A statement that would hit a locked row has to wait. -/
def blocked (s : MailSystem) (hits : MailOutbox → Bool) : Bool :=
  s.db.outbox.any fun r => hits r && s.lockedOutbox.contains r.id

/-- The state without the locks of one transaction, which do not block itself. -/
def without (s : MailSystem) (k : ℕ) : MailSystem :=
  { s with transactions := s.transactions.eraseIdx k }

/-- Replace the state of one transaction. -/
def setTransaction (s : MailSystem) (k : ℕ) (t : EndingTransaction) : MailSystem :=
  { s with transactions := s.transactions.set k t }

/-- A statement on the outbox, run to its commit unless it has to wait. -/
def statement (s : MailSystem) (hits : MailOutbox → Bool)
    (f : List MailOutbox → List MailOutbox) : Option MailSystem :=
  if s.blocked hits then none else some { s with db.outbox := f s.db.outbox }

end MailSystem

/-! ## Dispatchers -/

/-- The function that records an outcome. -/
def markOutcome (settings : Settings) (now : Timestamp) (claim : DispatchClaim) :
    SmtpOutcome → List MailOutbox → List MailOutbox × Bool
  | .returned => markAccepted now claim
  | .disconnected | .osError => markUnknown claim
  | .smtpException => markFailed settings now claim

/-- What `_dispatch_one` returns after an outcome was recorded. -/
def outcomeResult (settings : Settings) (claim : DispatchClaim) : SmtpOutcome → DispatchResult
  | .returned => .accepted
  | .disconnected | .osError => .unknown
  | .smtpException =>
    if claim.attemptCount < settings.mailMaxAttempts then .pending else .failed

/-- The next step of `dispatch_one` outside of `_send`. The clock reading, the rows `SKIP LOCKED`
passes by and a fresh claim identifier are inputs. -/
def advance (settings : Settings) (now : Timestamp) (locked : List Uuid) (claimId : Uuid)
    (s : MailSystem) : Pc → Option (MailSystem × Pc)
  | .start =>
    if dispatcherAllowed settings s.db.recoveryStage then some (s, .admitted)
    else some (s, .returned none)
  | .admitted =>
    if s.issued.contains claimId then none
    else
      match claimNext now (locked ++ s.lockedOutbox) claimId s.db.outbox with
      | none => some (s, .returned none)
      | some (claim, outbox) =>
        some ({ s with db.outbox := outbox, issued := claimId :: s.issued }, .claimed claim)
  | .claimed claim =>
    match loadClaim claim s.db.outbox with
    | none => some (s, .returned (some .superseded))
    | some outbox => some (s, .loaded claim outbox)
  | .loaded claim outbox =>
    if associatedTodoIsOpen s.db outbox then some (s, .todoOpen claim outbox)
    else some (s, .rejected claim outbox.credentialId.isNone)
  | .todoOpen claim outbox =>
    if outbox.credentialId.isNone && !businessTodoIsEligible s.db outbox then
      some (s, .rejected claim true)
    else some (s, .eligible claim outbox)
  | .eligible claim outbox =>
    match dispatchCheck settings s.db now outbox with
    | none => some (s, .rejected claim false)
    | some message => some (s, .ready claim message)
  | .rejected claim business =>
    (s.statement (holds claim) fun outbox =>
      (if business then markBusinessIneligible claim outbox
        else markIneligible claim outbox).1).map (·, .returned (some .cancelled))
  | .ready claim message =>
    (s.statement (canStart s.db now claim) fun _ => (startSmtp s.db now claim).1).map fun s' =>
      if (startSmtp s.db now claim).2 then
        ({ s' with
            attempts := ⟨claim.outboxId, claim.claimId, message, .inFlight⟩ :: s.attempts },
          .sending claim message)
      else (s', .returned (some .superseded))
  | .sending _ _ => none
  | .sent claim outcome =>
    (s.statement (holds claim) fun outbox =>
      (markOutcome settings now claim outcome outbox).1).map
        (·, .returned (some
          (if (markOutcome settings now claim outcome s.db.outbox).2 then
            outcomeResult settings claim outcome
          else .superseded)))
  | .returned _ => some (s, .start)
  | .crashed => some (s, .start)

/-- Record how the attempt of a claim ended. -/
def closeAttempt (claimId : Uuid) (outcome : AttemptOutcome) :
    List Attempt → List Attempt :=
  Table.update (·.claimId == claimId) fun a => { a with outcome := outcome }

/-- What a dispatcher may do: go on, have `_send` return, or die. -/
inductive Action
  | advance (now : Timestamp) (locked : List Uuid) (claimId : Uuid)
  | smtp (outcome : SmtpOutcome)
  | crash

/-- A step of one dispatcher. -/
def act (settings : Settings) (s : MailSystem) (pc : Pc) : Action → Option (MailSystem × Pc)
  | .advance now locked claimId => advance settings now locked claimId s pc
  | .smtp outcome =>
    match pc with
    | .sending claim _ =>
      some ({ s with attempts := closeAttempt claim.claimId outcome.attemptOutcome s.attempts },
        .sent claim outcome)
    | _ => none
  | .crash =>
    match pc with
    | .sending claim _ =>
      some ({ s with attempts := closeAttempt claim.claimId .crashed s.attempts }, .crashed)
    | _ => some (s, .crashed)

/-! ## Ending todos -/

/-- `complete_todo` also requires that the workspace is writable; the helpers leave that to their
callers. -/
def Ending.permitted (db : Database) (todo : NotificationTodo) : Ending → Bool
  | .completeTodo _ _ => (Workspaces.ensureWorkspaceWritable db todo.workspaceId).isOk
  | _ => true

/-- The `SELECT … FOR UPDATE` of a call that ends todos, and the assignments that follow it. -/
def MailSystem.endTodos (s : MailSystem) (k : ℕ) (t : EndingTransaction) (ending : Ending)
    (now : Timestamp) : Option MailSystem :=
  let selected := (t.view s.db).todos.filter fun todo => ending.selects todo
  if t.pendingStops ≠ [] ∨ !selected.all (ending.permitted s.db) ∨
      selected.any (fun todo => (s.without k).lockedTodos.contains todo.id) then none
  else
    let ids := selected.map (·.id)
    some (s.setTransaction k
      { t with ended := t.ended ++ ids.map (⟨·, ending.verdict, now⟩), pendingStops := ids })

/-- The next `_stop_todo_mail` of the call. -/
def stopMail (s : MailSystem) (k : ℕ) (t : EndingTransaction) : Option MailSystem :=
  match t.pendingStops with
  | [] => none
  | todoId :: rest =>
    if (s.without k).blocked (t.stops todoId) then none
    else
      let hit := (s.db.outbox.filter (t.stops todoId)).map (·.id)
      some (s.setTransaction k { t with pendingStops := rest, stopped := t.stopped ++ hit })

/-- The commit of a transaction that ended todos. -/
def commitEnding (s : MailSystem) (k : ℕ) (t : EndingTransaction) : Option MailSystem :=
  if t.pendingStops ≠ [] then none
  else some ({ s with db := t.publish s.db }.setTransaction k .idle)

/-! ## New rows -/

/-- `btrim(text) <> ''`; `btrim` strips blanks and no other white space. -/
def notBlank (text : String) : Bool :=
  text.toList.any (· != ' ')

/-- The arguments of the two enqueueing functions. The table refuses a business mail with a blank
subject or body (`ck_mail_outbox_delivery_shape`); a `BusinessScope` is never blank. -/
inductive NewMail
  | token (credentialId accountId : Uuid) (purpose : MailPurpose) (nonce ciphertext : Bytes)
      (workspaceName : Option String)
  | business (accountId : Uuid) (purpose : MailPurpose) (subject body : String)
      (businessScope : BusinessScope) (hsubject : notBlank subject = true)
      (hbody : notBlank body = true)

/-- The row they add. -/
def NewMail.row (settings : Settings) (id : Uuid) (todoId : Option Uuid) (now : Timestamp) :
    NewMail → MailOutbox
  | .token credentialId accountId purpose nonce ciphertext workspaceName =>
    enqueueTokenMail settings id credentialId accountId purpose nonce ciphertext workspaceName
      todoId now
  | .business accountId purpose subject body businessScope _ _ =>
    enqueueBusinessMail id accountId purpose subject body businessScope todoId none now

/-- A mail about an issue, as the examples enqueue it. -/
def issueMail : NewMail :=
  .business 7 .issueOpened "subject" "body" (.issue 3) (by decide) (by decide)

/-- An identifier no todo ever had. -/
def freshTodo (s : MailSystem) (id : Uuid) : Bool :=
  s.db.todos.all (·.id != id) && s.enqueuedFor.all (·.2 != id) && !s.lockedTodos.contains id

/-- An identifier no outbox row ever had; rows are never deleted. -/
def freshOutbox (s : MailSystem) (id : Uuid) : Bool :=
  s.db.outbox.all (·.id != id) && s.enqueuedFor.all (·.1 != id)

/-- A todo as `create_todo` adds it. -/
def newTodo (todo : NotificationTodo) : NotificationTodo :=
  { todo with status := .opened, retryUsed := false, resolvedAt := none }

/-- `create_todo` for a new source, and the mail enqueued with it in the same transaction. -/
def MailSystem.createTodo (settings : Settings) (s : MailSystem) (now : Timestamp)
    (todo : NotificationTodo) (mailId : Uuid) (mail : NewMail) : Option MailSystem :=
  if freshTodo s todo.id && freshOutbox s mailId && s.db.todos.all (fun t =>
      t.recipientAccountId != todo.recipientAccountId || t.kind != todo.kind ||
        t.sourceKey != todo.sourceKey) then
    some { s with
      db.todos := newTodo todo :: s.db.todos
      db.outbox := mail.row settings mailId (some todo.id) now :: s.db.outbox
      enqueuedFor := (mailId, todo.id) :: s.enqueuedFor }
  else none

/-- A mail that belongs to no todo. -/
def enqueue (settings : Settings) (s : MailSystem) (now : Timestamp) (mailId : Uuid)
    (mail : NewMail) : Option MailSystem :=
  if freshOutbox s mailId then
    some { s with db.outbox := mail.row settings mailId none now :: s.db.outbox }
  else none

/-- `retry_failed_mail`, which waits for the lock on the todo. A refusal changes nothing. -/
def retry (s : MailSystem) (now : Timestamp) (newId recipientId todoId : Uuid)
    (operationKey : String) : Option MailSystem :=
  if freshOutbox s newId && !s.lockedTodos.contains todoId then
    match retryFailedMail s.db now newId recipientId todoId operationKey with
    | .error _ => some s
    | .ok db =>
      if db.outbox.any (·.id == newId) then
        some { s with db := db, enqueuedFor := (newId, todoId) :: s.enqueuedFor }
      else some s
  else none

/-! ## The system -/

/-- Everything that can happen, with every choice it involves. -/
inductive Event
  | dispatcher (i : ℕ) (action : Action)
  /-- `recover_stale_dispatches`, with the stage its gate read. -/
  | recoverStale (stage : RecoveryStage) (now : Timestamp) (locked : List Uuid)
  /-- A new session for ending todos. -/
  | connect
  | endTodos (k : ℕ) (ending : Ending) (now : Timestamp)
  | stopMail (k : ℕ)
  | commitEnding (k : ℕ)
  | rollbackEnding (k : ℕ)
  | createTodo (now : Timestamp) (todo : NotificationTodo) (mailId : Uuid) (mail : NewMail)
  | enqueue (now : Timestamp) (mailId : Uuid) (mail : NewMail)
  | retryFailedMail (now : Timestamp) (newId recipientId todoId : Uuid) (operationKey : String)
  | suppressForRestrictedRecovery
  | suppressBusinessMails (businessScope : BusinessScope)
  | clearOutboxEnvelopes (credentialIds : List Uuid)
  /-- The tables of the other packages change. -/
  | other (db : Database)

/-- The effect of an event. -/
def step (settings : Settings) (s : MailSystem) : Event → Option MailSystem
  | .dispatcher i action =>
    (act settings s (s.dispatchers i) action).map fun (s', pc) =>
      { s' with dispatchers := Function.update s.dispatchers i pc }
  | .recoverStale stage now locked =>
    some { s with
      db.outbox :=
        recoverStaleDispatches settings stage now (locked ++ s.lockedOutbox) s.db.outbox }
  | .connect => some { s with transactions := s.transactions ++ [.idle] }
  | .endTodos k ending now => s.transactions[k]?.bind fun t => s.endTodos k t ending now
  | .stopMail k => s.transactions[k]?.bind fun t => stopMail s k t
  | .commitEnding k => s.transactions[k]?.bind fun t => commitEnding s k t
  | .rollbackEnding k => some (s.setTransaction k .idle)
  | .createTodo now todo mailId mail => MailSystem.createTodo settings s now todo mailId mail
  | .enqueue now mailId mail => enqueue settings s now mailId mail
  | .retryFailedMail now newId recipientId todoId operationKey =>
    retry s now newId recipientId todoId operationKey
  | .suppressForRestrictedRecovery =>
    s.statement suppressesInRecovery suppressForRestrictedRecovery
  | .suppressBusinessMails businessScope =>
    s.statement (suppressesBusiness businessScope) (suppressBusinessMails businessScope)
  | .clearOutboxEnvelopes credentialIds =>
    s.statement (clearsEnvelope credentialIds) (clearOutboxEnvelopes credentialIds)
  | .other db =>
    some { s with db := { db with todos := s.db.todos, outbox := s.db.outbox } }

/-- **The mail system**: any number of dispatchers, of transactions that end todos and of other
writers, over an outbox and a todo table that start out empty. -/
def mailSystem (settings : Settings) : TransitionSystem MailSystem Event where
  init s :=
    s.db.todos = [] ∧ s.db.outbox = [] ∧ s.dispatchers = (fun _ => .start) ∧
      s.transactions = [] ∧ s.attempts = [] ∧ s.issued = [] ∧ s.enqueuedFor = []
  step := step settings

/-- A mail system that has not run yet, over the given database. -/
def MailSystem.initial (db : Database) : MailSystem where
  db := { db with todos := [], outbox := [] }
  dispatchers _ := .start
  transactions := []
  attempts := []
  issued := []
  enqueuedFor := []

theorem MailSystem.initial_init (settings : Settings) (db : Database) :
    (mailSystem settings).init (MailSystem.initial db) :=
  ⟨rfl, rfl, rfl, rfl, rfl, rfl, rfl⟩

end Notifications

end Rulefolio
