import Mathlib.Data.List.MinMax
import Mathlib.Data.Prod.Lex
import Rulefolio.Errors
import Rulefolio.Notifications.Eligibility

/-!
# `app.notifications.service`: ending todos and retrying their mail

Seven functions end todos. They differ in which todos they select and in what becomes of them,
and agree on the rest: select the rows `FOR UPDATE`, and for each of them end it and call
`_stop_todo_mail`. So a call is an `Ending`, and `Ending.selects` is its `WHERE` clause together
with the `status == "open"` test that follows it.

`retry_failed_mail` is the only function that adds a mail to a todo that already exists.

## Main definitions

* `Ending`, `Ending.selects`, `Ending.verdict`, `Verdict.apply`.
* `retryFailedMail` — with every refusal of the source.
-/

namespace Rulefolio

/-- `workspaces.service.ensure_workspace_writable`, on the row its session sees. -/
def Workspaces.ensureWorkspaceWritable (db : Database) (workspaceId : Uuid) :
    Except ServiceError Unit :=
  match db.workspaces.find? (·.id == workspaceId) with
  | none => .error .workspaceUnavailable
  | some workspace =>
    if workspace.exitRequestedAt.isSome then .error .workspaceExitInProgress else .ok ()

namespace Notifications

/-- What becomes of a todo that a transaction ends. -/
inductive Verdict
  | completed
  | cancelled
  | deleted
  deriving DecidableEq, Repr

/-- The calls that end todos, with their arguments. -/
inductive Ending
  /-- `complete_todo`. -/
  | completeTodo (recipientId todoId : Uuid)
  /-- `complete_todo_by_source`. -/
  | completeTodoBySource (recipientId : Uuid) (kind : TodoKind) (sourceKey : SourceKey)
  /-- `cancel_todo_by_source`. -/
  | cancelTodoBySource (recipientId : Uuid) (kind : TodoKind) (sourceKey : SourceKey)
  /-- `complete_todos_for_target`; `none` is the absent `kinds` argument. -/
  | completeTodosForTarget (targetKind : TodoTargetKind) (targetId : Uuid)
      (kinds : Option (List TodoKind))
  /-- `cancel_todos_for_target`. -/
  | cancelTodosForTarget (targetKind : TodoTargetKind) (targetId : Uuid)
      (kinds : Option (List TodoKind))
  /-- `cancel_workspace_todos`. -/
  | cancelWorkspaceTodos (workspaceId : Uuid)
  /-- `delete_work_access_todos`. -/
  | deleteWorkAccessTodos (recipientId workId : Uuid)
  deriving DecidableEq, Repr

/-- The todos a call ends. All but `delete_work_access_todos` require an open todo. -/
def Ending.selects (todo : NotificationTodo) : Ending → Bool
  | .completeTodo recipientId todoId =>
    todo.id == todoId && todo.recipientAccountId == recipientId && todo.status == .opened
  | .completeTodoBySource recipientId kind sourceKey
  | .cancelTodoBySource recipientId kind sourceKey =>
    todo.recipientAccountId == recipientId && todo.kind == kind && todo.sourceKey == sourceKey &&
      todo.status == .opened
  | .completeTodosForTarget targetKind targetId kinds
  | .cancelTodosForTarget targetKind targetId kinds =>
    todo.targetKind == targetKind && todo.targetId == targetId && todo.status == .opened &&
      kinds.all (·.contains todo.kind)
  | .cancelWorkspaceTodos workspaceId =>
    todo.workspaceId == workspaceId && todo.status == .opened
  | .deleteWorkAccessTodos recipientId workId =>
    todo.recipientAccountId == recipientId && todo.workId == some workId &&
      todoMaintenanceKinds.contains todo.kind

/-- What the call makes of them. -/
def Ending.verdict : Ending → Verdict
  | .completeTodo .. | .completeTodoBySource .. | .completeTodosForTarget .. => .completed
  | .cancelTodoBySource .. | .cancelTodosForTarget .. | .cancelWorkspaceTodos .. => .cancelled
  | .deleteWorkAccessTodos .. => .deleted

/-- `todo.status = …; todo.resolved_at = _now()`. -/
def endTodo (status : TodoStatus) (now : Timestamp) (todoId : Uuid) :
    List NotificationTodo → List NotificationTodo :=
  Table.update (·.id == todoId) fun t => { t with status := status, resolvedAt := some now }

/-- The foreign key action of `mail_outbox.todo_id` when the todo is deleted. -/
def forgetTodo (todoId : Uuid) : List MailOutbox → List MailOutbox :=
  Table.update (·.todoId == some todoId) fun r => { r with todoId := none }

/-- The todo row and the outbox rows after the todo with this identifier has ended. -/
def Verdict.apply (now : Timestamp) (todoId : Uuid) (db : Database) : Verdict → Database
  | .completed => { db with todos := endTodo .completed now todoId db.todos }
  | .cancelled => { db with todos := endTodo .cancelled now todoId db.todos }
  | .deleted =>
    { db with
      todos := Table.delete (·.id == todoId) db.todos
      outbox := forgetTodo todoId db.outbox }

/-! ### Retrying a failed mail -/

/-- `_latest_mail`. -/
def latestMail (db : Database) (todoId : Uuid) : Option MailOutbox :=
  (db.outbox.filter (·.todoId == some todoId)).argmax fun r => toLex (r.createdAt, r.id)

/-- `retry_failed_mail`. The new row's identifier and the clock reading are inputs. -/
def retryFailedMail (db : Database) (now : Timestamp) (newId recipientId todoId : Uuid)
    (operationKey : String) : Except ServiceError Database := do
  let some todo := db.todos.find? fun t => t.id == todoId && t.recipientAccountId == recipientId
    | throw .notificationTodoUnavailable
  let existingRetry := db.outbox.find? fun r =>
    r.todoId == some todo.id && r.retryOperationKey == some operationKey
  if existingRetry.isSome then return db
  if todo.status ≠ .opened then
    throw (.notificationTodoConflict "notification_todo_not_open")
  Workspaces.ensureWorkspaceWritable db todo.workspaceId
  if todo.retryUsed then
    throw (.notificationTodoConflict "notification_mail_retry_used")
  if !businessTodoEligible db todo then
    throw (.notificationTodoConflict "notification_mail_retry_unavailable")
  let some failed := latestMail db todo.id
    | throw (.notificationTodoConflict "notification_mail_retry_unavailable")
  match failed.frozenSubject, failed.frozenBody, failed.businessScope with
  | some subject, some body, some businessScope =>
    if failed.status ≠ .failed ∨ failed.credentialId.isSome then
      throw (.notificationTodoConflict "notification_mail_retry_unavailable")
    let row := enqueueBusinessMail newId todo.recipientAccountId failed.purpose subject body
      businessScope (some todo.id) (some operationKey) now
    return { db with
      todos := Table.update (·.id == todo.id) (fun t => { t with retryUsed := true }) db.todos
      outbox := row :: db.outbox }
  | _, _, _ => throw (.notificationTodoConflict "notification_mail_retry_unavailable")

end Notifications

end Rulefolio
