import Rulefolio.Library.Returns
import Rulefolio.Notifications.Transactions

/-!
# What a recipient does about a todo

`complete_todo` and `retry_failed_mail` run in the session of the recipient. Both read the workspace
of the todo in between, to see whether it takes writes, and row-level security shows a workspace to
its owner and its members only. A todo may belong to somebody who is neither: a participant of a
playtest is invited by address, and who is invited to a workspace is not a member yet.

Here the two functions are programs in which the read of the workspace sees what the policy shows.
`Notifications.completeTodo` and `Notifications.retryFailedMail` are what they do where the
workspace can be seen.

## Main definitions

* `Workspaces.workspaceRead` — the policy.
* `Recipient.completeTodo`, `Recipient.retryFailedMail`.
* `Recipient.Belongs` — the account is the owner or a member of a workspace.

## Main results

* `Recipient.completeTodo_exec`, `Recipient.retryFailedMail_exec` — what they do when run alone.
-/

namespace Rulefolio

/-- The policies `workspace_read` and `workspace_exit_read`, for an account in a session of its
own. -/
def Workspaces.workspaceRead (now : Timestamp) (actorId : Uuid) (db : Database)
    (workspace : Workspace) : Bool :=
  (workspace.ownerAccountId == actorId || db.members.any fun m =>
    m.workspaceId == workspace.id && m.accountId == actorId) &&
  workspace.exitReadUntil.all (now < ·)

/-- `ensure_workspace_writable`, in the session of an account. -/
def Workspaces.ensureVisibleWritable (now : Timestamp) (actorId workspaceId : Uuid) :
    Program Unit := do
  let workspace ← Tx.read fun db : Database => db.workspaces.find? fun w =>
    w.id == workspaceId && workspaceRead now actorId db w
  let workspace ← Tx.require workspace .workspaceUnavailable
  Tx.ensure workspace.exitRequestedAt.isNone .workspaceExitInProgress

namespace Notifications

namespace Recipient

/-- The `SELECT … FOR UPDATE` of a recipient's own todo. -/
def findTodo (recipientId todoId : Uuid) (db : Database) : Option NotificationTodo :=
  db.todos.find? fun t => t.id == todoId && t.recipientAccountId == recipientId &&
    exitAllowsWrite none t.workspaceId db

/-- `complete_todo`. -/
def completeTodo (now : Timestamp) (recipientId todoId : Uuid) : Program Unit := do
  let todo ← Tx.selectForUpdate (fun t : NotificationTodo => .todo t.id)
    (findTodo recipientId todoId)
  let todo ← Tx.require todo .notificationTodoUnavailable
  Tx.ensure (todo.status != .cancelled) (.notificationTodoConflict "notification_todo_not_open")
  Workspaces.ensureVisibleWritable now recipientId todo.workspaceId
  if todo.status = .opened then
    endSelected none now .completed todo
  Tx.commitNow

/-- The mail of a todo that a retry with this key has added. -/
def findRetry (todoId : Uuid) (operationKey : String) (db : Database) : Option MailOutbox :=
  db.outbox.find? fun r => r.todoId == some todoId && r.retryOperationKey == some operationKey

/-- What is left of `retry_failed_mail` when the latest mail has been locked. -/
def sendAgain (now : Timestamp) (newId : Uuid) (todo : NotificationTodo) (operationKey : String)
    (failed : MailOutbox) : Program NotificationTodo :=
  match failed.frozenSubject, failed.frozenBody, failed.businessScope with
  | some subject, some body, some businessScope => do
    Tx.ensure (failed.status == .failed && failed.credentialId.isNone)
      (.notificationTodoConflict "notification_mail_retry_unavailable")
    updateRow
      (fun db => db.todos.any (·.id == todo.id) && exitAllowsWrite none todo.workspaceId db)
      fun db => { db with
        todos := Table.update (·.id == todo.id) (fun t => { t with retryUsed := true }) db.todos }
    let row := enqueueBusinessMail newId todo.recipientAccountId failed.purpose subject body
      businessScope (some todo.id) (some operationKey) now
    insertRow [.outbox newId] (fun db => !db.outbox.any fun r => r.id == newId ||
        (r.todoId == some todo.id && r.retryOperationKey == some operationKey)) (fun _ => true)
      fun db => { db with outbox := row :: db.outbox }
    Tx.commitNow
    return { todo with retryUsed := true }
  | _, _, _ => .raise (.notificationTodoConflict "notification_mail_retry_unavailable")

/-- `retry_failed_mail`, which returns the data of the todo. -/
def retryFailedMail (now : Timestamp) (newId recipientId todoId : Uuid) (operationKey : String) :
    Program NotificationTodo := do
  let todo ← Tx.selectForUpdate (fun t : NotificationTodo => .todo t.id)
    (findTodo recipientId todoId)
  let todo ← Tx.require todo .notificationTodoUnavailable
  let existingRetry ← Tx.selectForUpdate (fun r : MailOutbox => .outbox r.id)
    (findRetry todo.id operationKey)
  if existingRetry.isSome then do
    Tx.commitNow
    return todo
  else do
    Tx.ensure (todo.status == .opened) (.notificationTodoConflict "notification_todo_not_open")
    Workspaces.ensureVisibleWritable now recipientId todo.workspaceId
    Tx.ensure (!todo.retryUsed) (.notificationTodoConflict "notification_mail_retry_used")
    let eligible ← Tx.read (businessTodoEligible · todo)
    Tx.ensure eligible (.notificationTodoConflict "notification_mail_retry_unavailable")
    let failed ← Tx.selectForUpdate (fun r : MailOutbox => .outbox r.id) (latestMail · todo.id)
    let failed ← Tx.require failed (.notificationTodoConflict "notification_mail_retry_unavailable")
    sendAgain now newId todo operationKey failed

/-! ## Running alone -/

variable {now : Timestamp} {newId recipientId todoId : Uuid} {operationKey : String}
  {db : Database} {todo : NotificationTodo}

/-- The workspace as the recipient sees it. -/
def visibleWorkspace (now : Timestamp) (actorId workspaceId : Uuid) (db : Database) :
    Option Workspace :=
  db.workspaces.find? fun w => w.id == workspaceId && Workspaces.workspaceRead now actorId db w

/-- `ensure_workspace_writable` at the beginning of what is left of a call. -/
theorem execFrom_ensureVisibleWritable {α : Type} {f : Unit → Program α} {workspaceId : Uuid}
    {p : Database → Database} :
    ((Workspaces.ensureVisibleWritable now recipientId workspaceId).bind f).execFrom p db =
      match visibleWorkspace now recipientId workspaceId (p db) with
      | none => (db, .error .workspaceUnavailable)
      | some workspace =>
        if workspace.exitRequestedAt.isNone then (f ()).execFrom p db
        else (db, .error .workspaceExitInProgress) := by
  rw [Workspaces.ensureVisibleWritable]
  simp only [Tx.bind_eq, Tx.bind_assoc]
  rw [Tx.execFrom_read_bind, Tx.execFrom_require_bind, ← visibleWorkspace]
  cases visibleWorkspace now recipientId workspaceId (p db) with
  | none => rfl
  | some workspace => exact Tx.execFrom_ensure_bind _ _ _

/-- The database when a todo is completed. -/
def completed (now : Timestamp) (todoId : Uuid) (db : Database) : Database :=
  { db with
    todos := endTodo .completed now todoId db.todos
    outbox := stopTodoMail todoId db.outbox }

theorem mem_of_findTodo (h : findTodo recipientId todoId db = some todo) :
    todo ∈ db.todos ∧ todo.id = todoId ∧ todo.recipientAccountId = recipientId ∧
      exitAllowsWrite none todo.workspaceId db = true := by
  have hfound := List.find?_some h
  simp only [Bool.and_eq_true, beq_iff_eq] at hfound
  exact ⟨List.mem_of_find?_eq_some h, hfound.1.1, hfound.1.2, hfound.2⟩

/-- `complete_todo` on an open todo. -/
theorem completeTodo_exec (h : findTodo recipientId todoId db = some todo)
    (hopen : todo.status = .opened) :
    (completeTodo now recipientId todoId).exec db =
      match visibleWorkspace now recipientId todo.workspaceId db with
      | none => (db, .error .workspaceUnavailable)
      | some workspace =>
        if workspace.exitRequestedAt.isNone then (completed now todoId db, .ok ())
        else (db, .error .workspaceExitInProgress) := by
  obtain ⟨hmem, hid, -, hwrite⟩ := mem_of_findTodo h
  have hany : (db.todos.any (·.id == todo.id) && exitAllowsWrite none todo.workspaceId db) =
      true := by
    rw [hwrite, Bool.and_true]
    exact List.any_eq_true.2 ⟨todo, hmem, beq_self_eq_true _⟩
  have hend : endSelected none now .completed todo = (updateRow
      (fun db => db.todos.any (·.id == todo.id) && exitAllowsWrite none todo.workspaceId db)
      (fun db => Verdict.completed.apply now todo.id db)).bind fun _ =>
        Tx.write fun _ db => { db with outbox := stopTodoMail todo.id db.outbox } := rfl
  rw [completeTodo, Tx.exec]
  simp only [Tx.bind_eq]
  rw [Tx.execFrom_selectForUpdate_bind, id_eq, h, Tx.execFrom_require_bind]
  dsimp only
  rw [Tx.execFrom_ensure_bind, if_pos (by rw [hopen]; rfl), execFrom_ensureVisibleWritable, id_eq,
    if_pos hopen, hend, Tx.bind_assoc, updateRow, Tx.execFrom_writeIf_bind, id_eq, if_pos hany,
    Tx.execFrom_write_bind, ← hid]
  rfl

/-- Neither table has two rows with one primary key. -/
structure UniqueKeys (db : Database) : Prop where
  todo : ∀ t ∈ db.todos, ∀ t' ∈ db.todos, t.id = t'.id → t = t'
  workspace : ∀ w ∈ db.workspaces, ∀ w' ∈ db.workspaces, w.id = w'.id → w = w'

/-- The outcome of a retry, of which a function computes the new database. -/
def outcome (db : Database) (todo : NotificationTodo) :
    Except ServiceError Database → Database × Except ServiceError NotificationTodo
  | .ok db' => (db', .ok { todo with retryUsed := true })
  | .error e => (db, .error e)

/-- The database when a failed mail is sent again, if it may be. -/
def resent (db : Database) (now : Timestamp) (newId : Uuid) (todo : NotificationTodo)
    (operationKey : String) (failed : MailOutbox) : Except ServiceError Database :=
  match failed.frozenSubject, failed.frozenBody, failed.businessScope with
  | some subject, some body, some businessScope =>
    if failed.status ≠ .failed ∨ failed.credentialId.isSome then
      .error (.notificationTodoConflict "notification_mail_retry_unavailable")
    else
      .ok { db with
        todos := Table.update (·.id == todo.id) (fun t => { t with retryUsed := true }) db.todos
        outbox := enqueueBusinessMail newId todo.recipientAccountId failed.purpose subject body
          businessScope (some todo.id) (some operationKey) now :: db.outbox }
  | _, _, _ => .error (.notificationTodoConflict "notification_mail_retry_unavailable")

theorem sendAgain_exec {failed : MailOutbox} (hmem : todo ∈ db.todos)
    (hwrite : exitAllowsWrite none todo.workspaceId db = true)
    (hfresh : ∀ r ∈ db.outbox, r.id ≠ newId) (hnone : findRetry todo.id operationKey db = none) :
    (sendAgain now newId todo operationKey failed).execFrom id db =
      outcome db todo (resent db now newId todo operationKey failed) := by
  have hany : (db.todos.any (·.id == todo.id) && exitAllowsWrite none todo.workspaceId db) =
      true := by
    rw [hwrite, Bool.and_true]
    exact List.any_eq_true.2 ⟨todo, hmem, beq_self_eq_true _⟩
  have hfree : (!db.outbox.any fun r => r.id == newId ||
      (r.todoId == some todo.id && r.retryOperationKey == some operationKey)) = true := by
    rw [Bool.not_eq_true', List.any_eq_false]
    intro r hr
    have hnot := List.find?_eq_none.1 hnone r hr
    simpa [hfresh r hr] using hnot
  rw [sendAgain, resent]
  split
  · rw [Tx.bind_eq, Tx.execFrom_ensure_bind]
    by_cases hstatus : failed.status = .failed ∧ failed.credentialId = none
    · rw [if_pos (by simp [hstatus]), if_neg (by simp [hstatus])]
      simp only [Tx.bind_eq]
      rw [updateRow, Tx.execFrom_writeIf_bind, id_eq, if_pos hany, insertRow, Tx.bind_assoc,
        Tx.execFrom_lockAll_bind, Tx.execFrom_writeIf_bind, if_pos (by simpa using hfree)]
      rfl
    · rw [if_neg (by simpa using hstatus), if_pos ((not_and_or.1 hstatus).imp_right
        Option.isSome_iff_ne_none.2)]
      rfl
  · rfl

/-- What is computed of a todo that is open, in a workspace that takes writes, and has no retry with
this key. -/
theorem retryFailedMail_eq (hfind : db.todos.find? (fun t => t.id == todoId &&
      t.recipientAccountId == recipientId) = some todo) (hopen : todo.status = .opened)
    (hnone : findRetry todo.id operationKey db = none)
    (hwritable : Workspaces.ensureWorkspaceWritable db todo.workspaceId = .ok ()) :
    Notifications.retryFailedMail db now newId recipientId todoId operationKey =
      if todo.retryUsed then
        .error (.notificationTodoConflict "notification_mail_retry_used")
      else if businessTodoEligible db todo then
        match latestMail db todo.id with
        | none => .error (.notificationTodoConflict "notification_mail_retry_unavailable")
        | some failed => resent db now newId todo operationKey failed
      else .error (.notificationTodoConflict "notification_mail_retry_unavailable") := by
  rw [findRetry] at hnone
  unfold Notifications.retryFailedMail
  rw [hfind]
  simp only [bind, Except.bind, pure, Except.pure, throw, throwThe, MonadExceptOf.throw, hnone,
    hopen, hwritable, Option.isSome_none, Bool.false_eq_true, ne_eq, not_true_eq_false, if_false]
  cases businessTodoEligible db todo <;> cases latestMail db todo.id <;> rfl

/-- The policies hide no other todo of the recipient with this key. -/
theorem find?_of_findTodo (hkeys : UniqueKeys db) (h : findTodo recipientId todoId db = some todo) :
    db.todos.find? (fun t => t.id == todoId && t.recipientAccountId == recipientId) =
      some todo := by
  obtain ⟨hmem, hid, hrecipient, -⟩ := mem_of_findTodo h
  refine Table.find?_eq_some_of_unique hmem (by simp [hid, hrecipient]) fun t ht hp => ?_
  rw [Bool.and_eq_true, beq_iff_eq] at hp
  exact hkeys.todo t ht todo hmem (hp.1.trans hid.symm)

theorem writable_of_visible (hkeys : UniqueKeys db) {workspaceId : Uuid} {workspace : Workspace}
    (h : visibleWorkspace now recipientId workspaceId db = some workspace)
    (hexit : workspace.exitRequestedAt.isNone = true) :
    Workspaces.ensureWorkspaceWritable db workspaceId = .ok () := by
  have hmem := List.mem_of_find?_eq_some h
  have hseen := List.find?_some h
  rw [Bool.and_eq_true] at hseen
  rw [Workspaces.ensureWorkspaceWritable, Table.find?_eq_some_of_unique hmem hseen.1 fun w hw hp =>
    hkeys.workspace w hw workspace hmem ((beq_iff_eq.1 hp).trans (beq_iff_eq.1 hseen.1).symm)]
  simp [hexit]

/-- **The program does what is computed for it**, where the recipient can see the workspace. -/
theorem retryFailedMail_exec (hkeys : UniqueKeys db)
    (h : findTodo recipientId todoId db = some todo) (hopen : todo.status = .opened)
    (hfresh : ∀ r ∈ db.outbox, r.id ≠ newId) :
    (retryFailedMail now newId recipientId todoId operationKey).exec db =
      if (findRetry todoId operationKey db).isSome then (db, .ok todo)
      else
        match visibleWorkspace now recipientId todo.workspaceId db with
        | none => (db, .error .workspaceUnavailable)
        | some workspace =>
          if workspace.exitRequestedAt.isNone then
            outcome db todo
              (Notifications.retryFailedMail db now newId recipientId todoId operationKey)
          else (db, .error .workspaceExitInProgress) := by
  obtain ⟨hmem, hid, hrecipient, hwrite⟩ := mem_of_findTodo h
  rw [retryFailedMail, Tx.exec]
  simp only [Tx.bind_eq]
  rw [Tx.execFrom_selectForUpdate_bind, id_eq, h, Tx.execFrom_require_bind]
  dsimp only
  rw [Tx.execFrom_selectForUpdate_bind, id_eq, hid]
  by_cases hretry : (findRetry todoId operationKey db).isSome = true
  · rw [if_pos hretry, if_pos hretry]
    rfl
  rw [if_neg hretry, if_neg hretry, Tx.execFrom_ensure_bind,
    if_pos (by rw [hopen]; rfl), execFrom_ensureVisibleWritable, id_eq]
  cases hvisible : visibleWorkspace now recipientId todo.workspaceId db with
  | none => rfl
  | some workspace =>
    dsimp only
    by_cases hexit : workspace.exitRequestedAt.isNone = true
    · rw [if_pos hexit, if_pos hexit]
      have hfind := find?_of_findTodo hkeys h
      have hwritable := writable_of_visible hkeys hvisible hexit
      have hnone := Option.not_isSome_iff_eq_none.1 hretry
      rw [retryFailedMail_eq hfind hopen (hid ▸ hnone) hwritable, Tx.execFrom_ensure_bind]
      by_cases hused : todo.retryUsed = true
      · rw [if_neg (by rw [hused]; decide), if_pos hused]
        rfl
      rw [if_pos (by simpa using hused), if_neg hused, Tx.execFrom_read_bind, id_eq,
        Tx.execFrom_ensure_bind]
      by_cases heligible : businessTodoEligible db todo = true
      · rw [if_pos heligible, if_pos heligible, Tx.execFrom_selectForUpdate_bind, id_eq, hid,
          Tx.execFrom_require_bind]
        cases latestMail db todoId with
        | none => rfl
        | some failed => exact sendAgain_exec hmem hwrite hfresh (hid ▸ hnone)
      · rw [if_neg heligible, if_neg heligible]
        rfl
    · rw [if_neg hexit, if_neg hexit]

/-! ## Who sees the workspace -/

variable {accountId : Uuid} {workspace : Workspace}

/-- The account is the owner or a member of the workspace. -/
def Belongs (db : Database) (accountId : Uuid) (workspace : Workspace) : Prop :=
  workspace.ownerAccountId = accountId ∨
    ∃ m ∈ db.members, m.workspaceId = workspace.id ∧ m.accountId = accountId

theorem workspaceRead_iff (now : Timestamp) (hexit : workspace.exitReadUntil = none) :
    Workspaces.workspaceRead now accountId db workspace = true ↔
      Belongs db accountId workspace := by
  simp [Workspaces.workspaceRead, Belongs, hexit]

/-- A workspace is the one that is found, and it is found if it is seen. -/
theorem visibleWorkspace_eq (hkeys : UniqueKeys db) (now : Timestamp)
    (hworkspace : workspace ∈ db.workspaces) (hexit : workspace.exitReadUntil = none) :
    (Belongs db accountId workspace →
      visibleWorkspace now accountId workspace.id db = some workspace) ∧
    (¬ Belongs db accountId workspace →
      visibleWorkspace now accountId workspace.id db = none) := by
  have hunique : ∀ w ∈ db.workspaces, (w.id == workspace.id &&
      Workspaces.workspaceRead now accountId db w) = true → w = workspace := by
    intro w hw hp
    rw [Bool.and_eq_true, beq_iff_eq] at hp
    exact hkeys.workspace w hw workspace hworkspace hp.1
  constructor
  · intro hbelongs
    refine Table.find?_eq_some_of_unique hworkspace ?_ hunique
    rw [beq_self_eq_true, Bool.true_and]
    exact (workspaceRead_iff now hexit).2 hbelongs
  · intro hnot
    refine List.find?_eq_none.2 fun w hw hp => hnot ?_
    obtain rfl := hunique w hw hp
    rw [Bool.and_eq_true] at hp
    exact (workspaceRead_iff now hexit).1 hp.2

end Recipient

end Notifications

end Rulefolio
