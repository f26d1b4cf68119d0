import Rulefolio.Workspaces.Membership

/-!
# `app.notifications.service` inside the transactions of others

The services end todos, create them and enqueue their mail inside their own transactions. Here
these functions are programs, statement by statement; the tables they change and how are those of
`Notifications.Service` and `Notifications.Todos`.

What the other packages need to know of them is one fact: they change todos, mails and the mail a
participant was last notified by, and nothing else. `Database.business` is the database without
these, and `SameBusiness` the relation their statements stay within.

## Main definitions

* `endAll`, `createTodo`, `enqueueMail`, `notify`, `completeTodo`.
* `Database.business`, `SameBusiness`.

## Main results

* `endAll_within`, `createTodo_within`, `enqueueMail_within`.
-/

namespace Rulefolio

/-! ## Everything but notifications -/

/-- A participant without the reference to their latest mail. -/
def PlaytestSessionParticipant.forgetMail (p : PlaytestSessionParticipant) :
    PlaytestSessionParticipant :=
  { p with latestOutboxId := none }

/-- The database without todos and mails. -/
def Database.business (db : Database) : Database :=
  { db with
    participants := db.participants.map (·.forgetMail)
    todos := []
    outbox := [] }

/-- The two states differ in todos and mails only. -/
def SameBusiness (db db' : Database) : Prop :=
  db'.business = db.business

theorem SameBusiness.refl (db : Database) : SameBusiness db db := rfl

theorem SameBusiness.trans {db db' db'' : Database} (h : SameBusiness db db')
    (h' : SameBusiness db' db'') : SameBusiness db db'' :=
  Eq.trans h' h

namespace Notifications

/-! ## Ending todos -/

/-- One turn of the loop: the todo is written back, and its mail is stopped. A deleted todo is
written back last, when the session is flushed. -/
def endSelected (maintenance : Option Uuid) (now : Timestamp) (verdict : Verdict)
    (todo : NotificationTodo) : Program Unit := do
  let stop : Program Unit :=
    Tx.write fun _ db => { db with outbox := stopTodoMail todo.id db.outbox }
  let writeBack := updateRow
    (fun db => db.todos.any (·.id == todo.id) && exitAllowsWrite maintenance todo.workspaceId db)
    (fun db => verdict.apply now todo.id db)
  match verdict with
  | .deleted => do stop; writeBack
  | _ => do writeBack; stop

/-- The functions that end todos: select the rows `FOR UPDATE`, and end each of them. -/
def endAll (maintenance : Option Uuid) (now : Timestamp) (ending : Ending) : Program Unit := do
  let todos ← Tx.selectAllForUpdate (fun t => .todo t.id) fun db =>
    db.todos.filter fun t => ending.selects t && exitAllowsWrite maintenance t.workspaceId db
  Tx.forEach todos (endSelected maintenance now ending.verdict)

/-- `complete_todo`. -/
def completeTodo (now : Timestamp) (recipientId todoId : Uuid) : Program Unit := do
  let todo ← Tx.selectForUpdate (fun t : NotificationTodo => .todo t.id) fun db =>
    db.todos.find? fun t => t.id == todoId && t.recipientAccountId == recipientId &&
      exitAllowsWrite none t.workspaceId db
  let todo ← Tx.require todo .notificationTodoUnavailable
  Tx.ensure (todo.status != .cancelled) (.notificationTodoConflict "notification_todo_not_open")
  Workspaces.ensureWritable todo.workspaceId
  if todo.status = .opened then
    endSelected none now .completed todo
  Tx.commitNow

/-! ## Creating todos and mails -/

/-- The todo `create_todo` adds. -/
def todoRow (id recipientAccountId workspaceId : Uuid) (workId : Option Uuid) (kind : TodoKind)
    (targetKind : TodoTargetKind) (targetId : Uuid) (sourceKey : SourceKey)
    (summary contextLabel : String) : NotificationTodo where
  id := id
  recipientAccountId := recipientAccountId
  workspaceId := workspaceId
  workId := workId
  kind := kind
  targetKind := targetKind
  targetId := targetId
  sourceKey := sourceKey
  summary := summary
  contextLabel := contextLabel
  status := .opened
  retryUsed := false
  resolvedAt := none

/-- The `WHERE` clause by which `create_todo` looks for a todo with the same source. -/
def sameSource (todo t : NotificationTodo) : Bool :=
  t.recipientAccountId == todo.recipientAccountId && t.kind == todo.kind &&
    t.sourceKey == todo.sourceKey

/-- `create_todo`: the identifier of the todo, and whether it is new. The new row is added to the
session before the savepoint, so it is inserted outside of it, and where another transaction has
committed a todo with the same source the whole transaction is lost. -/
def createTodo (todo : NotificationTodo) : Program (Uuid × Bool) := do
  let existing ← Tx.selectForUpdate (fun t : NotificationTodo => .todo t.id) fun db =>
    db.todos.find? fun t => sameSource todo t && exitAllowsWrite none t.workspaceId db
  match existing with
  | some existing => return (existing.id, false)
  | none => do
    insertRow [.todoSource todo.recipientAccountId todo.kind todo.sourceKey, .todo todo.id]
      (fun db => !db.todos.any fun t => t.id == todo.id || sameSource todo t)
      (exitAllowsWrite none todo.workspaceId) fun db => { db with todos := todo :: db.todos }
    return (todo.id, true)

/-- `enqueue_business_mail` and `enqueue_token_mail` after the row has been built. -/
def enqueueMail (mail : MailOutbox) : Program Unit :=
  insertRow [.outbox mail.id] (fun db => !db.outbox.any (·.id == mail.id)) (fun _ => true)
    fun db => { db with outbox := mail :: db.outbox }

/-- A todo and, where it is new, a mail about it. The two identifiers are the call's first keys. -/
def notify (uuids : Uuids) (todo : Uuid → NotificationTodo)
    (mail : (id todoId : Uuid) → MailOutbox) : Program (Option Uuid) := do
  let (todoId, created) ← createTodo (todo (uuids.sub 0).here)
  if created then do
    enqueueMail (mail (uuids.sub 1).here todoId)
    return some (uuids.sub 1).here
  else
    return none

/-! ## They stay within notifications -/

variable (maintenance : Option Uuid) (now : Timestamp)

theorem endSelected_within (verdict : Verdict) (todo : NotificationTodo) :
    (endSelected maintenance now verdict todo).Within SameBusiness fun _ => True := by
  have hstop : (Tx.write fun _ db => { db with outbox := stopTodoMail todo.id db.outbox } :
      Program Unit).Within SameBusiness fun _ => True := Tx.Within.write fun _ _ => rfl
  have hback : ∀ v : Verdict, (updateRow
      (fun db => db.todos.any (·.id == todo.id) &&
        exitAllowsWrite maintenance todo.workspaceId db)
      (fun db => v.apply now todo.id db)).Within SameBusiness fun _ => True := fun v =>
    updateRow_within SameBusiness.refl (fun s => by cases v <;> rfl) _
  cases verdict with
  | completed => exact (hback _).andThen fun _ => hstop
  | cancelled => exact (hback _).andThen fun _ => hstop
  | deleted => exact hstop.andThen fun _ => hback _

theorem endAll_within (ending : Ending) :
    (endAll maintenance now ending).Within SameBusiness fun _ => True :=
  (Tx.Within.selectAllForUpdate SameBusiness.refl _ _).andThen fun _ =>
    Tx.Within.forEach (fun _ => endSelected_within maintenance now _ _) _

theorem createTodo_within (todo : NotificationTodo) :
    (createTodo todo).Within SameBusiness fun _ => True := by
  refine (Tx.Within.selectForUpdate SameBusiness.refl (P := fun _ => True) _ _ trivial
    fun _ => trivial).andThen fun existing => ?_
  cases existing with
  | some existing => exact Tx.Within.pure trivial
  | none =>
    refine Tx.Within.andThen (R := fun _ => True) ?_ fun _ => Tx.Within.pure trivial
    exact insertRow_within SameBusiness.refl (fun _ => by rfl) _ _ _

theorem enqueueMail_within (mail : MailOutbox) :
    (enqueueMail mail).Within SameBusiness fun _ => True :=
  insertRow_within SameBusiness.refl (fun _ => by rfl) _ _ _

end Notifications

end Rulefolio
