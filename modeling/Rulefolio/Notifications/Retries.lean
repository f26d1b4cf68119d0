import Rulefolio.Notifications.MailSystem
import Rulefolio.Notifications.Recipients

/-!
# Sending a failed mail again

`retry_failed_mail` locks the todo, looks for a retry with its key, reads the flag of the todo and
then the latest mail, which it locks. Meanwhile dispatchers write to the outbox under the locks of
its rows, todos are created, and todos end under their own locks.

Here all of them are calls, statement by statement, on tables of todos and mails that are empty at
first. The workspaces and their members stay as they are; any other table may change at any moment.
A transaction that ends todos holds their locks, so nobody else adds a mail to one of them. A mail
changes only under its own lock or that of its todo.

## Main definitions

* `Dispatch`, `MailCall`, `retrySystem` — the system.
* `Books` — the invariant: the mails of one todo.
* `MailStep` — what a commit can be.

## Main results

* `failed_mail_retried_once`.
-/

namespace Rulefolio

namespace Notifications

open ReadCommitted

/-! ## The calls -/

/-- A statement by which a dispatcher writes to the outbox. -/
inductive Dispatch
  | claimNext (now : Timestamp) (locked : List Uuid) (claimId : Uuid)
  | recoverStaleDispatches (stage : RecoveryStage) (now : Timestamp) (locked : List Uuid)
  | startSmtp (now : Timestamp) (claim : DispatchClaim)
  | markIneligible (claim : DispatchClaim)
  | markBusinessIneligible (claim : DispatchClaim)
  | markAccepted (now : Timestamp) (claim : DispatchClaim)
  | markFailed (now : Timestamp) (claim : DispatchClaim)
  | markUnknown (claim : DispatchClaim)

namespace Dispatch

/-- What the statement leaves of the outbox. -/
def outbox (settings : Settings) (db : Database) : Dispatch → List MailOutbox
  | claimNext now locked claimId =>
    match Notifications.claimNext now locked claimId db.outbox with
    | none => db.outbox
    | some (_, rows) => rows
  | recoverStaleDispatches stage now locked =>
    Notifications.recoverStaleDispatches settings stage now locked db.outbox
  | startSmtp now claim => (Notifications.startSmtp db now claim).1
  | markIneligible claim => (Notifications.markIneligible claim db.outbox).1
  | markBusinessIneligible claim => (Notifications.markBusinessIneligible claim db.outbox).1
  | markAccepted now claim => (Notifications.markAccepted now claim db.outbox).1
  | markFailed now claim => (Notifications.markFailed settings now claim db.outbox).1
  | markUnknown claim => (Notifications.markUnknown claim db.outbox).1

/-- The rows it hits. -/
def hits (settings : Settings) (db : Database) : Dispatch → MailOutbox → Bool
  | claimNext now locked _, r =>
    ((db.outbox.filter (isDue now locked)).argmin (·.createdAt)).any (r.id == ·.id)
  | recoverStaleDispatches stage now locked, r =>
    dispatcherAllowed settings stage && isStale settings now locked r
  | startSmtp now claim, r => canStart db now claim r
  | markIneligible claim, r | markBusinessIneligible claim, r | markAccepted _ claim, r
  | markFailed _ claim, r | markUnknown claim, r => holds claim r

/-- What it makes of them. -/
def values (settings : Settings) : Dispatch → MailOutbox → MailOutbox
  | claimNext now _ claimId, r => claimRow claimId now r
  | recoverStaleDispatches _ _ _, r => recoverStale r
  | startSmtp now _, r => { r with smtpStartedAt := some now }
  | markIneligible _, r =>
    { r.clearEnvelope with
      status := .cancelled, lastErrorCode := some "credential_unavailable", claimId := none }
  | markBusinessIneligible _, r =>
    { r with status := .cancelled, lastErrorCode := some "business_unavailable", claimId := none }
  | markAccepted now _, r =>
    { r.clearEnvelope with
      status := .accepted, acceptedAt := some now, lastErrorCode := none, claimId := none }
  | markFailed now claim, r =>
    if claim.attemptCount < settings.mailMaxAttempts then
      { r with
        status := .pending, nextAttemptAt := now + minutes claim.attemptCount,
        dispatchStartedAt := none, smtpStartedAt := none,
        lastErrorCode := some "smtp_explicit_failure", claimId := none }
    else
      { r.clearEnvelope with
        status := .failed, lastErrorCode := some "smtp_explicit_failure", claimId := none }
  | markUnknown _, r =>
    { r.clearEnvelope with
      status := .unknown, lastErrorCode := some "smtp_result_unknown", claimId := none }

theorem outbox_eq (settings : Settings) (db : Database) (d : Dispatch) :
    d.outbox settings db = Table.update (d.hits settings db) (d.values settings) db.outbox := by
  have hnone : ∀ (p : MailOutbox → Bool) (f : MailOutbox → MailOutbox), (∀ r, p r = false) →
      Table.update p f db.outbox = db.outbox := fun p f hp => Table.update_eq_self fun r _ => hp r
  cases d with
  | claimNext now locked claimId =>
    rw [outbox, Notifications.claimNext]
    cases hmin : (db.outbox.filter (isDue now locked)).argmin (·.createdAt) with
    | none => exact (hnone _ _ fun r => by rw [hits, hmin]; rfl).symm
    | some first =>
      show Table.update (fun r : MailOutbox => r.id == first.id) (claimRow claimId now)
        db.outbox = _
      congr 1
      funext r
      rw [hits, hmin]
      rfl
  | recoverStaleDispatches stage now locked =>
    rw [outbox, Notifications.recoverStaleDispatches]
    split
    · rename_i hallowed
      congr 1
      funext r
      rw [hits, hallowed, Bool.true_and]
    · rename_i hallowed
      refine (hnone _ _ fun r => ?_).symm
      rw [hits, Bool.of_not_eq_true hallowed, Bool.false_and]
  | markFailed now claim =>
    rw [outbox, Notifications.markFailed, updateClaim]
    dsimp only
    congr 1
    funext r
    rw [values]
    split <;> rfl
  | _ => rfl

/-- The statement: the rows are locked, and changed as they are then. -/
def program (settings : Settings) (d : Dispatch) : Program Unit := do
  let rows ← Tx.selectAllForUpdate (fun r : MailOutbox => .outbox r.id) fun db : Database =>
    db.outbox.filter (d.hits settings db)
  Tx.write fun _ db => { db with
    outbox := Table.update (fun r => rows.any (·.id == r.id)) (d.values settings) db.outbox }
  Tx.commitNow

end Dispatch

/-- What leaves the todos, the mails, the workspaces and their members alone. -/
def keepMail (before after : Database) : Database :=
  { after with
    workspaces := before.workspaces
    members := before.members
    todos := before.todos
    outbox := before.outbox }

/-- A call that has to do with todos and their mail. -/
inductive MailCall
  /-- `create_todo` and the mail enqueued with it. -/
  | createTodo (uuids : Uuids) (now : Timestamp) (recipientAccountId workspaceId : Uuid)
      (workId : Option Uuid) (kind : TodoKind) (targetKind : TodoTargetKind) (targetId : Uuid)
      (sourceKey : SourceKey) (summary contextLabel : String) (mail : NewMail)
  /-- The functions that end the todos of others. -/
  | endTodos (now : Timestamp) (ending : { ending : Ending // ending.verdict ≠ .deleted })
  | completeTodo (now : Timestamp) (recipientId todoId : Uuid)
  | retryFailedMail (now : Timestamp) (newId recipientId todoId : Uuid) (operationKey : String)
  | dispatch (d : Dispatch)
  /-- A transaction that has to do with other tables. -/
  | elsewhere (change : Database → Database)

/-- The code of a call. A retry returns the todo. -/
def MailCall.program (settings : Settings) : MailCall → Program (Option NotificationTodo)
  | createTodo uuids now recipientAccountId workspaceId workId kind targetKind targetId sourceKey
      summary contextLabel mail => do
    let _ ← notify uuids
      (fun id => todoRow id recipientAccountId workspaceId workId kind targetKind targetId sourceKey
        summary contextLabel)
      fun id todoId => mail.row settings id (some todoId) now
    Tx.commitNow
    return none
  | endTodos now ending => do
    endAll none now ending.1
    Tx.commitNow
    return none
  | completeTodo now recipientId todoId => do
    Recipient.completeTodo now recipientId todoId
    return none
  | retryFailedMail now newId recipientId todoId operationKey =>
    (Recipient.retryFailedMail now newId recipientId todoId operationKey).bind (.pure ∘ some)
  | dispatch d => do
    d.program settings
    return none
  | elsewhere change => do
    Rulefolio.elsewhere keepMail change
    return none

/-- What the schema says of the workspaces: their primary key is unique, and one whose exit was not
requested has no time limit. -/
structure WorkspacesSound (db : Database) : Prop where
  unique : ∀ w ∈ db.workspaces, ∀ w' ∈ db.workspaces, w.id = w'.id → w = w'
  unlimited : ∀ w ∈ db.workspaces, w.exitRequestedAt = none → w.exitReadUntil = none

/-- Any number of these calls, interleaved, on tables of todos and mails that are empty at first. -/
def retrySystem (settings : Settings) :
    TransitionSystem (Config Database RowKey ServiceError (Option NotificationTodo) MailCall)
      (ReadCommitted.Event MailCall) :=
  ReadCommitted.system (fun db => db.todos = [] ∧ db.outbox = [] ∧ WorkspacesSound db)
    (MailCall.program settings)

/-! ## What a commit can be -/

/-- What every writer of a mail leaves of it. -/
structure SameMail (r r' : MailOutbox) : Prop where
  id : r'.id = r.id
  todoId : r'.todoId = r.todoId
  key : r'.retryOperationKey = r.retryOperationKey
  createdAt : r'.createdAt = r.createdAt

/-- What ends a todo leaves of it. A todo is not opened again. -/
structure SameTodo (t t' : NotificationTodo) : Prop where
  id : t'.id = t.id
  recipient : t'.recipientAccountId = t.recipientAccountId
  workspaceId : t'.workspaceId = t.workspaceId
  retryUsed : t'.retryUsed = t.retryUsed
  opened : t'.status = .opened → t.status = .opened

theorem SameMail.refl (r : MailOutbox) : SameMail r r := ⟨rfl, rfl, rfl, rfl⟩

theorem SameMail.trans {r r' r'' : MailOutbox} (h : SameMail r r') (h' : SameMail r' r'') :
    SameMail r r'' :=
  ⟨h'.id.trans h.id, h'.todoId.trans h.todoId, h'.key.trans h.key,
    h'.createdAt.trans h.createdAt⟩

theorem SameTodo.refl (t : NotificationTodo) : SameTodo t t := ⟨rfl, rfl, rfl, rfl, fun h => h⟩

theorem SameTodo.trans {t t' t'' : NotificationTodo} (h : SameTodo t t') (h' : SameTodo t' t'') :
    SameTodo t t'' :=
  ⟨h'.id.trans h.id, h'.recipient.trans h.recipient, h'.workspaceId.trans h.workspaceId,
    h'.retryUsed.trans h.retryUsed, h.opened ∘ h'.opened⟩

theorem Dispatch.values_same (settings : Settings) (d : Dispatch) (r : MailOutbox) :
    SameMail r (d.values settings r) := by
  cases d with
  | markFailed now claim =>
    rw [values]
    split <;> exact ⟨rfl, rfl, rfl, rfl⟩
  | recoverStaleDispatches stage now locked =>
    rw [values, recoverStale]
    split <;> exact ⟨rfl, rfl, rfl, rfl⟩
  | _ => exact ⟨rfl, rfl, rfl, rfl⟩

/-- A todo under these locks: it stays as it is, or it is locked. -/
def TodoEdit (H : Set (RowKey × RowLock)) (t t' : NotificationTodo) : Prop :=
  SameTodo t t' ∧ (t' = t ∨ (RowKey.todo t.id, RowLock.update) ∈ H)

/-- A mail under these locks: it stays as it is, or it is locked, or its todo is. -/
def MailEdit (H : Set (RowKey × RowLock)) (r r' : MailOutbox) : Prop :=
  SameMail r r' ∧ (r' = r ∨ (RowKey.outbox r.id, RowLock.update) ∈ H ∨
    ∃ todoId, r.todoId = some todoId ∧ (RowKey.todo todoId, RowLock.update) ∈ H)

theorem TodoEdit.refl (H : Set (RowKey × RowLock)) (t : NotificationTodo) : TodoEdit H t t :=
  ⟨.refl t, .inl rfl⟩

theorem TodoEdit.trans (H : Set (RowKey × RowLock)) (t t' t'' : NotificationTodo)
    (h : TodoEdit H t t') (h' : TodoEdit H t' t'') : TodoEdit H t t'' := by
  refine ⟨h.1.trans h'.1, ?_⟩
  rcases h.2 with rfl | hlock
  · exact h'.2
  · exact .inr hlock

theorem MailEdit.refl (H : Set (RowKey × RowLock)) (r : MailOutbox) : MailEdit H r r :=
  ⟨.refl r, .inl rfl⟩

theorem MailEdit.trans (H : Set (RowKey × RowLock)) (r r' r'' : MailOutbox)
    (h : MailEdit H r r') (h' : MailEdit H r' r'') : MailEdit H r r'' := by
  refine ⟨h.1.trans h'.1, ?_⟩
  rcases h.2 with rfl | hlock
  · exact h'.2
  · exact .inr hlock

/-- No row is added or removed, and rows are changed under locks. -/
structure Edits (H : Set (RowKey × RowLock)) (s s' : Database) : Prop where
  todos : List.Forall₂ (TodoEdit H) s.todos s'.todos
  mails : List.Forall₂ (MailEdit H) s.outbox s'.outbox
  workspaces : s'.workspaces = s.workspaces
  members : s'.members = s.members

theorem Edits.refl (H : Set (RowKey × RowLock)) (s : Database) : Edits H s s :=
  ⟨List.forall₂_same.2 fun t _ => .refl H t, List.forall₂_same.2 fun r _ => .refl H r, rfl, rfl⟩

theorem Edits.trans {H : Set (RowKey × RowLock)} {s s' s'' : Database} (h : Edits H s s')
    (h' : Edits H s' s'') : Edits H s s'' :=
  ⟨Table.forall₂_trans (TodoEdit.trans H) h.todos h'.todos,
    Table.forall₂_trans (MailEdit.trans H) h.mails h'.mails,
    h'.workspaces.trans h.workspaces, h'.members.trans h.members⟩

theorem Edits.mono {H H' : Set (RowKey × RowLock)} {s s' : Database} (h : Edits H s s')
    (hH : H ⊆ H') : Edits H' s s' := by
  refine ⟨h.todos.imp fun t t' ht => ⟨ht.1, ht.2.imp_right (hH ·)⟩,
    h.mails.imp fun r r' hr => ⟨hr.1, hr.2.imp_right fun hlock => ?_⟩, h.workspaces, h.members⟩
  rcases hlock with hlock | ⟨todoId, hid, hlock⟩
  · exact .inl (hH hlock)
  · exact .inr ⟨todoId, hid, hH hlock⟩

/-- A todo that was not there, and its mail. -/
structure Created (H : Set (RowKey × RowLock)) (s s' : Database) (todo : NotificationTodo)
    (mail : MailOutbox) : Prop where
  locked : (RowKey.todo todo.id, RowLock.update) ∈ H
  fresh : ∀ t ∈ s.todos, t.id ≠ todo.id
  unused : todo.retryUsed = false
  about : mail.todoId = some todo.id
  original : mail.retryOperationKey = none
  eq : s' = { s with todos := todo :: s.todos, outbox := mail :: s.outbox }

/-- The mails of a todo. -/
def mailsOf (todoId : Uuid) (db : Database) : List MailOutbox :=
  db.outbox.filter (·.todoId == some todoId)

/-- The mail that came with a todo. -/
def originals (todoId : Uuid) (db : Database) : List MailOutbox :=
  (mailsOf todoId db).filter (·.retryOperationKey.isNone)

/-- The mails a retry has added. -/
def retries (todoId : Uuid) (db : Database) : List MailOutbox :=
  (mailsOf todoId db).filter (·.retryOperationKey.isSome)

/-- The todo is open and the latest mail about it has failed. -/
def LastFailed (todoId : Uuid) (db : Database) : Prop :=
  ∃ todo ∈ db.todos, todo.id = todoId ∧ todo.status = .opened ∧
    ∃ failed, latestMail db todoId = some failed ∧ failed.status = .failed

/-- A retry adds a mail. -/
structure Retried (todoId : Uuid) (operationKey : String) (H : Set (RowKey × RowLock))
    (s s' : Database) (todo : NotificationTodo) (mail : MailOutbox) : Prop where
  locked : (RowKey.todo todoId, RowLock.update) ∈ H
  mem : todo ∈ s.todos
  id : todo.id = todoId
  unused : todo.retryUsed = false
  last : LastFailed todoId s
  belongs : ∃ workspace ∈ s.workspaces, workspace.id = todo.workspaceId ∧
    workspace.exitRequestedAt = none ∧ Recipient.Belongs s todo.recipientAccountId workspace
  about : mail.todoId = some todoId
  key : mail.retryOperationKey = some operationKey
  eq : s' = { s with
    todos := Table.update (·.id == todoId) (fun t => { t with retryUsed := true }) s.todos
    outbox := mail :: s.outbox }

/-- What a commit of a call can be. -/
def mailCommit : MailCall → Tx.Guarantee Database RowKey
  | .createTodo .., _, H, s, s' => s' = s ∨ ∃ todo mail, Created H s s' todo mail
  | .retryFailedMail _ _ _ todoId operationKey, _, H, s, s' =>
    s' = s ∨ ∃ todo mail, Retried todoId operationKey H s s' todo mail
  | _, _, H, s, s' => Edits H s s'

/-- The ways the todos and the mails change. -/
inductive MailStep (H : Set (RowKey × RowLock)) (s s' : Database) : Prop
  | edits (h : Edits H s s')
  | created (todo : NotificationTodo) (mail : MailOutbox) (h : Created H s s' todo mail)
  | retried (todoId : Uuid) (operationKey : String) (todo : NotificationTodo) (mail : MailOutbox)
      (h : Retried todoId operationKey H s s' todo mail)

theorem mailStep_of_commit {call : MailCall} {n : ℕ} {H : Set (RowKey × RowLock)}
    {s s' : Database} (h : mailCommit call n H s s') : MailStep H s s' := by
  cases call with
  | createTodo =>
    rcases h with rfl | ⟨todo, mail, h⟩
    · exact .edits (.refl H s')
    · exact .created todo mail h
  | retryFailedMail now newId recipientId todoId operationKey =>
    rcases h with rfl | ⟨todo, mail, h⟩
    · exact .edits (.refl H s')
    · exact .retried todoId operationKey todo mail h
  | endTodos | completeTodo | dispatch | elsewhere => exact .edits h

/-! ## The books -/

/-- The todo with an identifier. -/
def todosOf (todoId : Uuid) (db : Database) : List NotificationTodo :=
  db.todos.filter (·.id == todoId)

/-- The owner or a member of a workspace that takes writes. -/
def Writes (db : Database) (accountId workspaceId : Uuid) : Prop :=
  ∃ workspace ∈ db.workspaces, workspace.id = workspaceId ∧ workspace.exitRequestedAt = none ∧
    Recipient.Belongs db accountId workspace

/-- What is true of the mails of every todo. -/
structure Books (db : Database) : Prop where
  todo : ∀ todoId, (todosOf todoId db).length ≤ 1
  original : ∀ todoId, (originals todoId db).length ≤ 1
  retry : ∀ todoId, (retries todoId db).length ≤ 1
  about : ∀ r ∈ db.outbox, ∀ todoId, r.todoId = some todoId → ∃ t ∈ db.todos, t.id = todoId
  /-- A todo with a retry has its flag set, and its recipient had access. -/
  used : ∀ r ∈ db.outbox, r.retryOperationKey.isSome = true → ∀ t ∈ db.todos,
    r.todoId = some t.id → t.retryUsed = true ∧ Writes db t.recipientAccountId t.workspaceId
  sound : WorkspacesSound db

theorem Books.unique {db : Database} (h : Books db) {t t' : NotificationTodo} (ht : t ∈ db.todos)
    (ht' : t' ∈ db.todos) (hid : t.id = t'.id) : t = t' :=
  Table.eq_of_filter_le_one (h.todo t'.id) ht ht' (beq_iff_eq.2 hid) (beq_self_eq_true _)

/-- A todo whose flag is not set has no retry. -/
theorem Books.retries_eq_nil {db : Database} (h : Books db) {todo : NotificationTodo}
    (hmem : todo ∈ db.todos) (hunused : todo.retryUsed = false) : retries todo.id db = [] := by
  refine List.filter_eq_nil_iff.2 fun r hr hkey => ?_
  obtain ⟨hr, habout⟩ := List.mem_filter.1 hr
  have hused := (h.used r hr hkey todo hmem (beq_iff_eq.1 habout)).1
  rw [hunused] at hused
  cases hused

section Rows

variable {todoId : Uuid} {db : Database} {mail : MailOutbox}

theorem mailsOf_cons {todos : List NotificationTodo} :
    mailsOf todoId { db with todos := todos, outbox := mail :: db.outbox } =
      if mail.todoId = some todoId then mail :: mailsOf todoId db else mailsOf todoId db := by
  rw [mailsOf, List.filter_cons]
  by_cases h : mail.todoId = some todoId
  · rw [if_pos (beq_iff_eq.2 h), if_pos h]
    rfl
  · rw [if_neg (by simpa using h), if_neg h]
    rfl

theorem originals_cons {todos : List NotificationTodo} :
    originals todoId { db with todos := todos, outbox := mail :: db.outbox } =
      if mail.todoId = some todoId ∧ mail.retryOperationKey = none then
        mail :: originals todoId db else originals todoId db := by
  rw [originals, mailsOf_cons]
  by_cases h : mail.todoId = some todoId
  · cases hkey : mail.retryOperationKey <;> simp [h, hkey, originals]
  · simp [h, originals]

theorem retries_cons {todos : List NotificationTodo} :
    retries todoId { db with todos := todos, outbox := mail :: db.outbox } =
      if mail.todoId = some todoId ∧ mail.retryOperationKey.isSome = true then
        mail :: retries todoId db else retries todoId db := by
  rw [retries, mailsOf_cons]
  by_cases h : mail.todoId = some todoId
  · cases hkey : mail.retryOperationKey <;> simp [h, hkey, retries]
  · simp [h, retries]

end Rows

theorem forall₂_mailsOf {R : MailOutbox → MailOutbox → Prop} (hR : ∀ r r', R r r' → SameMail r r')
    {s s' : Database} (h : List.Forall₂ R s.outbox s'.outbox) (todoId : Uuid) :
    List.Forall₂ R (mailsOf todoId s) (mailsOf todoId s') :=
  Table.forall₂_filter (fun r r' hr => by rw [(hR r r' hr).todoId]) h

theorem length_originals {R : MailOutbox → MailOutbox → Prop}
    (hR : ∀ r r', R r r' → SameMail r r') {s s' : Database}
    (h : List.Forall₂ R s.outbox s'.outbox) (todoId : Uuid) :
    (originals todoId s').length = (originals todoId s).length :=
  (Table.forall₂_filter (fun r r' hr => by rw [(hR r r' hr).key])
    (forall₂_mailsOf hR h todoId)).length_eq.symm

theorem length_retries {R : MailOutbox → MailOutbox → Prop}
    (hR : ∀ r r', R r r' → SameMail r r') {s s' : Database}
    (h : List.Forall₂ R s.outbox s'.outbox) (todoId : Uuid) :
    (retries todoId s').length = (retries todoId s).length :=
  (Table.forall₂_filter (fun r r' hr => by rw [(hR r r' hr).key])
    (forall₂_mailsOf hR h todoId)).length_eq.symm

theorem Writes.of_same {s s' : Database} (hworkspaces : s'.workspaces = s.workspaces)
    (hmembers : s'.members = s.members) {accountId workspaceId : Uuid}
    (h : Writes s accountId workspaceId) : Writes s' accountId workspaceId := by
  obtain ⟨workspace, hmem, hid, hexit, hbelongs⟩ := h
  refine ⟨workspace, hworkspaces ▸ hmem, hid, hexit, ?_⟩
  rwa [Recipient.Belongs, hmembers]

theorem WorkspacesSound.of_same {s s' : Database} (hworkspaces : s'.workspaces = s.workspaces)
    (h : WorkspacesSound s) : WorkspacesSound s' :=
  ⟨hworkspaces ▸ h.unique, hworkspaces ▸ h.unlimited⟩

/-- The books of a todo whose rows are edited. -/
theorem Books.edits {H : Set (RowKey × RowLock)} {s s' : Database} (h : Books s)
    (he : Edits H s s') : Books s' where
  todo todoId := by
    have hrows := Table.forall₂_filter (p := fun t => t.id == todoId)
      (fun t t' ht => by rw [ht.1.id]) he.todos
    exact hrows.length_eq ▸ h.todo todoId
  original todoId := length_originals (fun _ _ hr => hr.1) he.mails todoId ▸ h.original todoId
  retry todoId := length_retries (fun _ _ hr => hr.1) he.mails todoId ▸ h.retry todoId
  about r' hr' todoId habout := by
    obtain ⟨r, hr, hedit⟩ := (Table.forall₂_mem he.mails).2 r' hr'
    obtain ⟨t, ht, hid⟩ := h.about r hr todoId (hedit.1.todoId ▸ habout)
    obtain ⟨t', ht', hsame⟩ := (Table.forall₂_mem he.todos).1 t ht
    exact ⟨t', ht', hsame.1.id.trans hid⟩
  used r' hr' hkey t' ht' habout := by
    obtain ⟨r, hr, hedit⟩ := (Table.forall₂_mem he.mails).2 r' hr'
    obtain ⟨t, ht, hsame⟩ := (Table.forall₂_mem he.todos).2 t' ht'
    obtain ⟨hused, hwrites⟩ := h.used r hr (hedit.1.key ▸ hkey) t ht
      (hedit.1.todoId ▸ hsame.1.id ▸ habout)
    refine ⟨hsame.1.retryUsed.trans hused, ?_⟩
    rw [hsame.1.recipient, hsame.1.workspaceId]
    exact hwrites.of_same he.workspaces he.members
  sound := h.sound.of_same he.workspaces

/-- No mail is about a todo that does not exist. -/
theorem Books.mailsOf_eq_nil {s : Database} (h : Books s) {todoId : Uuid}
    (hfresh : ∀ t ∈ s.todos, t.id ≠ todoId) : mailsOf todoId s = [] := by
  refine List.filter_eq_nil_iff.2 fun r hr habout => ?_
  obtain ⟨t, ht, hid⟩ := h.about r hr todoId (beq_iff_eq.1 habout)
  exact hfresh t ht hid

theorem Books.created {H : Set (RowKey × RowLock)} {s s' : Database} {todo : NotificationTodo}
    {mail : MailOutbox} (h : Books s) (hc : Created H s s' todo mail) : Books s' := by
  have hnone := h.mailsOf_eq_nil hc.fresh
  obtain ⟨-, hfresh, hunused, habout, horiginal, rfl⟩ := hc
  refine ⟨fun todoId => ?_, fun todoId => ?_, fun todoId => ?_, ?_, ?_, ?_⟩
  · rw [todosOf, List.filter_cons]
    split
    · rename_i hid
      obtain rfl := beq_iff_eq.1 hid
      rw [List.filter_eq_nil_iff.2 fun t ht => by simpa using hfresh t ht]
      exact le_rfl
    · exact h.todo todoId
  · rw [originals_cons]
    split
    · rename_i hid
      obtain rfl := Option.some.inj (habout.symm.trans hid.1)
      rw [originals, hnone]
      exact le_rfl
    · exact h.original todoId
  · rw [retries_cons, if_neg (by simp [horiginal])]
    exact h.retry todoId
  · intro r hr todoId hid
    rcases List.mem_cons.1 hr with rfl | hr
    · exact ⟨todo, List.mem_cons_self, Option.some.inj (habout.symm.trans hid)⟩
    · obtain ⟨t, ht, hid⟩ := h.about r hr todoId hid
      exact ⟨t, List.mem_cons_of_mem _ ht, hid⟩
  · intro r hr hkey t ht hid
    rcases List.mem_cons.1 hr with rfl | hold
    · rw [horiginal] at hkey
      cases hkey
    rcases List.mem_cons.1 ht with rfl | ht
    · obtain ⟨t', ht', hid'⟩ := h.about r hold _ hid
      exact absurd hid' (hfresh t' ht')
    · exact h.used r hold hkey t ht hid
  · exact ⟨h.sound.unique, h.sound.unlimited⟩

theorem Books.retried {H : Set (RowKey × RowLock)} {s s' : Database} {todoId : Uuid}
    {operationKey : String} {todo : NotificationTodo} {mail : MailOutbox} (h : Books s)
    (hr : Retried todoId operationKey H s s' todo mail) : Books s' := by
  obtain ⟨-, hmem, rfl, hunused, -, hbelongs, habout, hkey, rfl⟩ := hr
  have hnone := h.retries_eq_nil hmem hunused
  have hflag : ∀ t : NotificationTodo, ({ t with retryUsed := true } : NotificationTodo).id = t.id :=
    fun _ => rfl
  refine ⟨fun id => ?_, fun id => ?_, fun id => ?_, ?_, ?_, ?_⟩
  · rw [todosOf, Table.filter_update_comm _ fun t _ => by rw [hflag], Table.update, List.length_map]
    exact h.todo id
  · rw [originals_cons, if_neg (by simp [hkey])]
    exact h.original id
  · rw [retries_cons]
    split
    · rename_i hid
      obtain rfl := Option.some.inj (habout.symm.trans hid.1)
      rw [hnone]
      exact le_rfl
    · exact h.retry id
  · intro r hr id hid
    have hthere : ∃ t ∈ s.todos, t.id = id := by
      rcases List.mem_cons.1 hr with rfl | hr
      · exact ⟨todo, hmem, Option.some.inj (habout.symm.trans hid)⟩
      · exact h.about r hr id hid
    obtain ⟨t, ht, hid⟩ := hthere
    refine ⟨_, List.mem_map_of_mem ht, ?_⟩
    split
    · exact hid
    · exact hid
  · intro r hr hkey t ht hid
    rcases Table.mem_update.1 ht with ⟨t₀, ht₀, hp, rfl⟩ | ⟨ht, hp⟩
    · obtain rfl := h.unique ht₀ hmem (beq_iff_eq.1 hp)
      exact ⟨rfl, hbelongs⟩
    · rcases List.mem_cons.1 hr with rfl | hr
      · rw [Option.some.inj (habout.symm.trans hid), beq_self_eq_true] at hp
        cases hp
      · exact h.used r hr hkey t ht hid
  · exact ⟨h.sound.unique, h.sound.unlimited⟩

theorem Books.step {H : Set (RowKey × RowLock)} {s s' : Database} (h : Books s)
    (hstep : MailStep H s s') : Books s' := by
  cases hstep with
  | edits he => exact h.edits he
  | created todo mail hc => exact h.created hc
  | retried todoId operationKey todo mail hr => exact h.retried hr

/-! ## What the others leave alone -/

/-- The other calls. -/
def amongMails : Environment Database RowKey :=
  environment Books mailCommit

theorem closed_amongMails : Closed amongMails mailCommit :=
  closed_environment fun _ _ _ _ _ h hcommit => h.step (mailStep_of_commit hcommit)

/-- A mail of a locked todo: it changes under its own lock only. -/
def Watched (H : Set (RowKey × RowLock)) (r r' : MailOutbox) : Prop :=
  SameMail r r' ∧ ((RowKey.outbox r.id, RowLock.update) ∈ H → r' = r)

/-- What the holder of these locks can count on. -/
structure Kept (H : Set (RowKey × RowLock)) (s s' : Database) : Prop where
  todo : ∀ todoId, (RowKey.todo todoId, RowLock.update) ∈ H → todosOf todoId s' = todosOf todoId s
  mails : ∀ todoId, (RowKey.todo todoId, RowLock.update) ∈ H →
    List.Forall₂ (Watched H) (mailsOf todoId s) (mailsOf todoId s')
  workspaces : s'.workspaces = s.workspaces
  members : s'.members = s.members

theorem Kept.refl (H : Set (RowKey × RowLock)) (s : Database) : Kept H s s :=
  ⟨fun _ _ => rfl, fun _ _ => List.forall₂_same.2 fun r _ => ⟨.refl r, fun _ => rfl⟩, rfl, rfl⟩

theorem Kept.trans {H : Set (RowKey × RowLock)} {s s' s'' : Database} (h : Kept H s s')
    (h' : Kept H s' s'') : Kept H s s'' where
  todo todoId hlock := (h'.todo todoId hlock).trans (h.todo todoId hlock)
  mails todoId hlock := by
    refine Table.forall₂_trans (fun r r' r'' hr hr' => ?_) (h.mails todoId hlock)
      (h'.mails todoId hlock)
    refine ⟨hr.1.trans hr'.1, fun hown => ?_⟩
    obtain rfl := hr.2 hown
    exact hr'.2 hown
  workspaces := h'.workspaces.trans h.workspaces
  members := h'.members.trans h.members

/-- One commit of another call. -/
theorem MailStep.kept {H H' : Set (RowKey × RowLock)} {s s' : Database}
    (h : MailStep H' s s') (hc : Compatible H' H) : Kept H s s' := by
  have hfree : ∀ {l : RowKey}, (l, RowLock.update) ∈ H' → (l, RowLock.update) ∉ H := fun hl =>
    hc.notMem hl .update
  cases h with
  | edits he =>
    refine ⟨fun todoId hlock => ?_, fun todoId hlock => ?_, he.workspaces, he.members⟩
    · have hrows : List.Forall₂ (TodoEdit H') (todosOf todoId s) (todosOf todoId s') :=
        Table.forall₂_filter (fun t t' ht => by rw [ht.1.id]) he.todos
      refine Table.eq_of_forall₂ hrows fun t ht t' hedit => hedit.2.resolve_right fun hl => ?_
      rw [beq_iff_eq.1 (List.mem_filter.1 ht).2] at hl
      exact hfree hl hlock
    · refine Table.forall₂_imp (forall₂_mailsOf (fun _ _ hr => hr.1) he.mails todoId)
        fun r hr r' hedit => ⟨hedit.1, fun hown => ?_⟩
      rcases hedit.2 with heq | hl | ⟨k, hk, hl⟩
      · exact heq
      · exact absurd hown (hfree hl)
      · obtain rfl := Option.some.inj (hk.symm.trans (beq_iff_eq.1 (List.mem_filter.1 hr).2))
        exact absurd hlock (hfree hl)
  | created todo mail hcreated =>
    obtain ⟨hlocked, -, -, habout, -, rfl⟩ := hcreated
    refine ⟨fun todoId hlock => ?_, fun todoId hlock => ?_, rfl, rfl⟩
    · have hne : todo.id ≠ todoId := fun heq => hfree hlocked (heq ▸ hlock)
      exact List.filter_cons_of_neg (by simpa using hne)
    · have hne : mail.todoId ≠ some todoId := fun heq =>
        hfree hlocked (Option.some.inj (habout.symm.trans heq) ▸ hlock)
      rw [mailsOf_cons, if_neg hne]
      exact (Kept.refl H s).mails todoId hlock
  | retried k operationKey todo mail hr =>
    obtain ⟨hlocked, -, -, -, -, -, habout, -, rfl⟩ := hr
    refine ⟨fun todoId hlock => ?_, fun todoId hlock => ?_, rfl, rfl⟩
    · have hne : k ≠ todoId := fun heq => hfree hlocked (heq ▸ hlock)
      refine Table.filter_update _ fun t ht => ?_
      obtain rfl := beq_iff_eq.1 ht
      exact ⟨by simpa using hne, by simpa using hne⟩
    · have hne : mail.todoId ≠ some todoId := fun heq =>
        hfree hlocked (Option.some.inj (habout.symm.trans heq) ▸ hlock)
      rw [mailsOf_cons, if_neg hne]
      exact (Kept.refl H s).mails todoId hlock

theorem kept_of_rely {H : Set (RowKey × RowLock)} {s s' : Database}
    (h : amongMails.Rely H s s') : Kept H s s' :=
  relates_of_rely (Kept.refl H) (fun _ _ _ => Kept.trans)
    (fun _ _ _ _ _ _ hcommit hc => (mailStep_of_commit hcommit).kept hc) h

/-- Under its lock nobody adds a todo with the identifier. -/
theorem Kept.fresh {H : Set (RowKey × RowLock)} {s s' : Database} (h : Kept H s s')
    {todoId : Uuid} (hlock : (RowKey.todo todoId, RowLock.update) ∈ H)
    (hfresh : ∀ t ∈ s.todos, t.id ≠ todoId) : ∀ t ∈ s'.todos, t.id ≠ todoId := by
  intro t ht hid
  have hmem : t ∈ todosOf todoId s' := List.mem_filter.2 ⟨ht, beq_iff_eq.2 hid⟩
  rw [h.todo todoId hlock] at hmem
  exact hfresh t (List.mem_filter.1 hmem).1 hid

/-! ## The calls, one by one -/

section Walks

variable {E : Environment Database RowKey} {G : Tx.Guarantee Database RowKey}
  {x : Point Database RowKey}

/-- The changes so far are edits under the locks. -/
def Editing (y : Point Database RowKey) : Prop :=
  ∀ s, Edits y.locks s (y.pending s)

theorem Editing.of_id (hx : x.pending = id) : Editing x := by
  intro s
  rw [hx]
  exact .refl x.locks s

/-- Locks are taken and time passes. -/
theorem Editing.later (h : Editing x) {H : Set (RowKey × RowLock)} (hH : x.locks ⊆ H)
    (s : Database) : Editing { x with locks := H, db := s } :=
  fun t => (h t).mono hH

/-- A statement that edits rows that are locked. -/
theorem Editing.write (h : Editing x) {δ : Database → Database}
    (hδ : ∀ s, Edits x.locks s (δ s)) (s : Database) :
    Editing { x with pending := δ ∘ x.pending, db := s } :=
  fun t => (h t).trans (hδ _)

theorem edits_endTodo {H : Set (RowKey × RowLock)} {todoId : Uuid}
    (hlock : (RowKey.todo todoId, RowLock.update) ∈ H) {status : TodoStatus}
    (hstatus : status ≠ .opened) (now : Timestamp) (s : Database) :
    Edits H s { s with todos := endTodo status now todoId s.todos } where
  todos := by
    refine Table.forall₂_update (TodoEdit.refl H) (fun t ht => ?_) s.todos
    refine ⟨⟨rfl, rfl, rfl, rfl, fun h => absurd h hstatus⟩, .inr ?_⟩
    rwa [beq_iff_eq.1 ht]
  mails := List.forall₂_same.2 fun r _ => .refl H r
  workspaces := rfl
  members := rfl

theorem edits_stopTodoMail {H : Set (RowKey × RowLock)} {todoId : Uuid}
    (hlock : (RowKey.todo todoId, RowLock.update) ∈ H) (s : Database) :
    Edits H s { s with outbox := stopTodoMail todoId s.outbox } where
  todos := List.forall₂_same.2 fun t _ => .refl H t
  mails := by
    refine Table.forall₂_update (MailEdit.refl H) (fun r hr => ?_) s.outbox
    rw [stopsTodoMail, Bool.and_eq_true, beq_iff_eq] at hr
    exact ⟨⟨rfl, rfl, rfl, rfl⟩, .inr (.inr ⟨todoId, hr.1, hlock⟩)⟩
  workspaces := rfl
  members := rfl

theorem edits_apply {H : Set (RowKey × RowLock)} {todoId : Uuid}
    (hlock : (RowKey.todo todoId, RowLock.update) ∈ H) {verdict : Verdict}
    (hverdict : verdict ≠ .deleted) (now : Timestamp) (s : Database) :
    Edits H s (verdict.apply now todoId s) := by
  cases verdict with
  | completed => exact edits_endTodo hlock (by decide) now s
  | cancelled => exact edits_endTodo hlock (by decide) now s
  | deleted => exact absurd rfl hverdict

/-- A turn of the loop that ends todos. -/
theorem endSelected_safe {maintenance : Option Uuid} {now : Timestamp} {verdict : Verdict}
    (hverdict : verdict ≠ .deleted) {todo : NotificationTodo} (h : Editing x)
    (hlock : (RowKey.todo todo.id, RowLock.update) ∈ x.locks) :
    (endSelected maintenance now verdict todo).Safe E G
      (fun _ y => Editing y ∧ x.locks ⊆ y.locks) (fun _ _ => True) x := by
  have hfinal : ∀ v : Verdict, v ≠ Verdict.deleted → Tx.Safe E G
      (fun _ y => Editing y ∧ x.locks ⊆ y.locks) (fun _ _ => True)
      ((updateRow (fun db => db.todos.any (·.id == todo.id) &&
        exitAllowsWrite maintenance todo.workspaceId db) fun db => v.apply now todo.id db).bind
          fun _ => (Tx.write fun _ db => { db with outbox := stopTodoMail todo.id db.outbox } :
            Program Unit).bind .pure) x := by
    intro v hv
    refine Tx.Safe.writeIf_bind (fun _ _ _ => trivial) fun s _ _ _ => ?_
    refine Tx.Safe.write_bind fun t _ _ => Tx.Safe.pure ⟨?_, subset_rfl⟩
    exact (h.write (edits_apply hlock hv now) s).write (edits_stopTodoMail hlock) t
  cases verdict with
  | completed => exact hfinal .completed hverdict
  | cancelled => exact hfinal .cancelled hverdict
  | deleted => exact absurd rfl hverdict

theorem endAll_safe {maintenance : Option Uuid} {now : Timestamp} {ending : Ending}
    (hverdict : ending.verdict ≠ .deleted) (h : Editing x) :
    (endAll maintenance now ending).Safe E G (fun _ y => Editing y) (fun _ _ => True) x := by
  refine Tx.Safe.selectAllForUpdate_bind fun H s found hH _ _ _ hlocks => ?_
  have hloop : (Tx.forEach found (endSelected maintenance now ending.verdict)).Safe E G
      (fun _ y => Editing y ∧ H ⊆ y.locks) (fun _ _ => True) { x with locks := H, db := s } :=
    Tx.Safe.forEach_mem (I := fun y => Editing y ∧ H ⊆ y.locks) ⟨h.later hH s, subset_rfl⟩
      fun todo htodo y hy => (endSelected_safe hverdict hy.1 (hy.2 (hlocks todo htodo))).mono
        (fun _ z hz => ⟨hz.1, hy.2.trans hz.2⟩) fun _ _ hz => hz
  exact hloop.mono (fun _ _ hy => hy.1) fun _ _ hy => hy

/-- A commit of edits. -/
theorem commit_editing {α : Type} {a : α} (h : Editing x)
    (hG : ∀ n H s s', Edits H s s' → G n H s s') :
    (Tx.commitNow.bind fun _ => .pure a : Program α).Safe E G (fun _ _ => True)
      (fun _ _ => True) x :=
  Tx.Safe.commitNow_bind fun s _ _ => ⟨hG _ _ _ _ (h s), Tx.Safe.pure trivial⟩

theorem completeTodo_safe {now : Timestamp} {recipientId todoId : Uuid} (hx : x.pending = id)
    (hG : ∀ n H s s', Edits H s s' → G n H s s') :
    (Recipient.completeTodo now recipientId todoId).Safe E G (fun _ _ => True)
      (fun _ _ => True) x := by
  have hediting := Editing.of_id hx
  rw [Recipient.completeTodo]
  simp only [Tx.bind_eq]
  refine Tx.Safe.selectForUpdate_bind (l := .todo todoId) (fun v row hrow => ?_)
    (fun s _ _ => Tx.Safe.require_bind (fun _ => trivial) fun _ h => by cases h) fun s _ _ => ?_
  · rw [(Recipient.mem_of_findTodo hrow).2.1]
  refine Tx.Safe.require_bind (fun _ => trivial) fun todo htodo => ?_
  have hlock : (RowKey.todo todo.id, RowLock.update) ∈ insert (RowKey.todo todoId, RowLock.update)
      x.locks := by
    rw [(Recipient.mem_of_findTodo htodo).2.1]
    exact Set.mem_insert _ _
  refine Tx.Safe.ensure_bind (fun _ => trivial) fun _ => ?_
  rw [Workspaces.ensureVisibleWritable]
  simp only [Tx.bind_eq, Tx.bind_assoc]
  refine Tx.Safe.read_bind fun t _ _ => ?_
  refine Tx.Safe.require_bind (fun _ => trivial) fun workspace _ => ?_
  refine Tx.Safe.ensure_bind (fun _ => trivial) fun _ => ?_
  have hworking : Editing (⟨x.commits, insert (RowKey.todo todoId, RowLock.update) x.locks,
      x.pending, t⟩ : Point Database RowKey) := hediting.later (Set.subset_insert _ _) t
  split
  · exact (endSelected_safe (by decide) hworking hlock).bind fun _ y hy => commit_editing hy.1 hG
  · exact commit_editing hworking hG

theorem dispatch_safe (settings : Settings) (d : Dispatch) (hx : x.pending = id)
    (hG : ∀ n H s s', Edits H s s' → G n H s s') :
    (d.program settings).Safe E G (fun _ _ => True) (fun _ _ => True) x := by
  rw [Dispatch.program]
  simp only [Tx.bind_eq]
  refine Tx.Safe.selectAllForUpdate_bind fun H s found hH _ _ _ hlocks => ?_
  refine Tx.Safe.write_bind fun t _ _ => commit_editing ?_ hG
  refine ((Editing.of_id hx).later hH s).write (fun u => ?_) t
  refine ⟨List.forall₂_same.2 fun todo _ => .refl _ todo, ?_, rfl, rfl⟩
  refine Table.forall₂_update (MailEdit.refl _) (fun r hr => ?_) u.outbox
  obtain ⟨r', hr', hid⟩ := List.any_eq_true.1 hr
  have hlock := hlocks r' hr'
  rw [beq_iff_eq.1 hid] at hlock
  exact ⟨d.values_same settings r, .inr (.inl hlock)⟩

/-- What `create_todo` leaves: nothing has changed, or the new todo is locked and nobody has one with
its identifier. -/
def Inserted (todo : NotificationTodo) (created : Uuid × Bool) (y : Point Database RowKey) : Prop :=
  (created.2 = false ∧ y.pending = id) ∨
    created = (todo.id, true) ∧ y.pending = (fun db => { db with todos := todo :: db.todos }) ∧
      (RowKey.todo todo.id, RowLock.update) ∈ y.locks ∧ ∀ t ∈ y.db.todos, t.id ≠ todo.id

theorem createTodo_insert_safe (todo : NotificationTodo) (hx : x.pending = id) :
    Tx.Safe E G (Inserted todo) (fun _ _ => True) ((insertRow
      [.todoSource todo.recipientAccountId todo.kind todo.sourceKey, .todo todo.id]
      (fun db => !db.todos.any fun t => t.id == todo.id || sameSource todo t)
      (exitAllowsWrite none todo.workspaceId) fun db =>
        { db with todos := todo :: db.todos }).bind fun _ => .pure (todo.id, true)) x := by
  rw [insertRow, Tx.bind_assoc]
  refine Tx.Safe.lockAll_bind fun H s hH hlocks _ => ?_
  refine Tx.Safe.writeIf_bind (fun _ _ _ => trivial) fun t _ _ hadmits => Tx.Safe.pure (.inr ?_)
  refine ⟨rfl, ?_, hlocks _ (List.mem_cons_of_mem _ List.mem_cons_self), fun r hr hid => ?_⟩
  · rw [hx]
    rfl
  · rw [hx, Bool.and_eq_true, Bool.not_eq_true', List.any_eq_false] at hadmits
    exact hadmits.1 r hr (by rw [beq_iff_eq.2 hid, Bool.true_or])

theorem createTodo_safe (todo : NotificationTodo) (hx : x.pending = id) :
    (createTodo todo).Safe E G (Inserted todo) (fun _ _ => True) x := by
  rw [createTodo]
  simp only [Tx.bind_eq]
  refine Tx.Safe.selectForUpdate_found_bind (fun s _ _ _ => ?_) fun row s t _ _ _ _ _ => ?_
  rotate_left
  · split
    · exact Tx.Safe.pure (.inl ⟨rfl, hx⟩)
    · exact createTodo_insert_safe todo hx
  · exact createTodo_insert_safe todo hx

theorem notify_safe (uuids : Uuids) (todo : Uuid → NotificationTodo)
    (mail : (id todoId : Uuid) → MailOutbox) (hid : ∀ id, (todo id).id = id) (hx : x.pending = id) :
    (notify uuids todo mail).Safe amongMails G
      (fun _ y => y.pending = id ∨ ∃ mailId,
        y.pending = (fun db => { db with
          todos := todo (uuids.sub 0).here :: db.todos
          outbox := mail mailId (uuids.sub 0).here :: db.outbox }) ∧
        (RowKey.todo (uuids.sub 0).here, RowLock.update) ∈ y.locks ∧
        ∀ t ∈ y.db.todos, t.id ≠ (uuids.sub 0).here) (fun _ _ => True) x := by
  rw [notify]
  refine (createTodo_safe _ hx).bind fun created y hy => ?_
  obtain ⟨todoId, isNew⟩ := created
  rcases hy with ⟨hold, hpending⟩ | ⟨hnew, hpending, hlock, hfresh⟩
  · obtain rfl : isNew = false := hold
    exact Tx.Safe.pure (.inl hpending)
  · obtain ⟨rfl, rfl⟩ := Prod.mk.inj hnew
    rw [hid] at hlock hfresh ⊢
    dsimp only
    rw [if_pos rfl, enqueueMail, insertRow, Tx.bind_eq, Tx.bind_assoc]
    refine Tx.Safe.lockAll_bind fun H s hH _ hr => ?_
    refine Tx.Safe.writeIf_bind (fun _ _ _ => trivial) fun t _ ht _ => Tx.Safe.pure (.inr ?_)
    refine ⟨(uuids.sub 1).here, ?_, hH hlock, ?_⟩
    · rw [hpending]
      rfl
    · exact (kept_of_rely ht).fresh (hH hlock) ((kept_of_rely hr).fresh hlock hfresh)

theorem createTodo_call_safe (settings : Settings) (uuids : Uuids) (now : Timestamp)
    (recipientAccountId workspaceId : Uuid) (workId : Option Uuid) (kind : TodoKind)
    (targetKind : TodoTargetKind) (targetId : Uuid) (sourceKey : SourceKey)
    (summary contextLabel : String) (mail : NewMail) (hx : x.pending = id)
    (hG : ∀ n H s s', (s' = s ∨ ∃ todo mail, Created H s s' todo mail) → G n H s s') :
    ((MailCall.createTodo uuids now recipientAccountId workspaceId workId kind targetKind targetId
      sourceKey summary contextLabel mail).program settings).Safe amongMails G (fun _ _ => True)
        (fun _ _ => True) x := by
  rw [MailCall.program]
  simp only [Tx.bind_eq]
  refine (notify_safe uuids _ _ (by intro id; rfl) hx).bind fun _ y hy => ?_
  refine Tx.Safe.commitNow_bind fun s _ hr => ⟨hG _ _ _ _ ?_, Tx.Safe.pure trivial⟩
  rcases hy with hpending | ⟨mailId, hpending, hlock, hfresh⟩
  · exact .inl (by rw [hpending]; rfl)
  · refine .inr ⟨_, _, hlock, (kept_of_rely hr).fresh hlock hfresh, rfl, ?_, ?_, by rw [hpending]⟩
    · cases mail <;> rfl
    · cases mail <;> rfl

/-- The todo is locked, and as it was read. -/
structure Holding (todo : NotificationTodo) (H : Set (RowKey × RowLock)) (db : Database) :
    Prop where
  lock : (RowKey.todo todo.id, RowLock.update) ∈ H
  mem : todo ∈ db.todos

theorem Holding.later {todo : NotificationTodo} {H H' : Set (RowKey × RowLock)} {s s' : Database}
    (h : Holding todo H s) (hkept : Kept H s s') (hH : H ⊆ H') : Holding todo H' s' := by
  refine ⟨hH h.lock, ?_⟩
  have hmem : todo ∈ todosOf todo.id s := List.mem_filter.2 ⟨h.mem, beq_self_eq_true _⟩
  rw [← hkept.todo todo.id h.lock] at hmem
  exact (List.mem_filter.1 hmem).1

/-- The latest mail is locked as well, and as it was read. -/
structure Sending (todo : NotificationTodo) (failed : MailOutbox) (H : Set (RowKey × RowLock))
    (db : Database) : Prop where
  holding : Holding todo H db
  lock : (RowKey.outbox failed.id, RowLock.update) ∈ H
  latest : latestMail db todo.id = some failed

/-- What the latest mail becomes while its todo is locked. -/
theorem Kept.latestMail {H : Set (RowKey × RowLock)} {s s' : Database} (h : Kept H s s')
    {todoId : Uuid} (hlock : (RowKey.todo todoId, RowLock.update) ∈ H) :
    Option.Rel (Watched H) (latestMail s todoId) (latestMail s' todoId) :=
  Table.argmax_forall₂ (fun r r' hr => by rw [hr.1.id, hr.1.createdAt]) (h.mails todoId hlock)

theorem Kept.watched_latestMail {H : Set (RowKey × RowLock)} {s s' : Database} (h : Kept H s s')
    {todoId : Uuid} (hlock : (RowKey.todo todoId, RowLock.update) ∈ H) {r r' : MailOutbox}
    (hr : Notifications.latestMail s todoId = some r)
    (hr' : Notifications.latestMail s' todoId = some r') : Watched H r r' := by
  have hrel := h.latestMail hlock
  rw [hr, hr'] at hrel
  cases hrel with
  | some hwatched => exact hwatched

theorem Sending.later {todo : NotificationTodo} {failed : MailOutbox}
    {H H' : Set (RowKey × RowLock)} {s s' : Database} (h : Sending todo failed H s)
    (hkept : Kept H s s') (hH : H ⊆ H') : Sending todo failed H' s' := by
  refine ⟨h.holding.later hkept hH, hH h.lock, ?_⟩
  have hrel := hkept.latestMail h.holding.lock
  rw [h.latest] at hrel
  cases hlatest : Notifications.latestMail s' todo.id with
  | none =>
    rw [hlatest] at hrel
    cases hrel
  | some r =>
    rw [hlatest] at hrel
    cases hrel with
    | some hr => rw [hr.2 h.lock]

theorem sendAgain_safe {now : Timestamp} {newId : Uuid} {todo : NotificationTodo}
    {operationKey : String} {failed : MailOutbox} (hx : x.pending = id)
    (h : Sending todo failed x.locks x.db) (hopen : todo.status = .opened)
    (hunused : todo.retryUsed = false)
    (hwrites : Writes x.db todo.recipientAccountId todo.workspaceId)
    (hG : ∀ n H s s', (∃ mail, Retried todo.id operationKey H s s' todo mail) → G n H s s') :
    (Recipient.sendAgain now newId todo operationKey failed).Safe amongMails G (fun _ _ => True)
      (fun _ _ => True) x := by
  rw [Recipient.sendAgain.eq_def]
  split
  · rename_i subject body businessScope _ _ _
    simp only [Tx.bind_eq]
    refine Tx.Safe.ensure_bind (fun _ => trivial) fun hfailed => ?_
    rw [Bool.and_eq_true, beq_iff_eq] at hfailed
    refine Tx.Safe.writeIf_bind (fun _ _ _ => trivial) fun s _ hrs _ => ?_
    rw [insertRow, Tx.bind_assoc]
    refine Tx.Safe.lockAll_bind fun H t hH _ hrt => ?_
    refine Tx.Safe.writeIf_bind (fun _ _ _ => trivial) fun u _ hru _ => ?_
    refine Tx.Safe.commitNow_bind fun v _ hrv => ⟨hG _ _ _ _ ?_, Tx.Safe.pure trivial⟩
    have hkept := (kept_of_rely hrs).trans (kept_of_rely hrt)
    have hlast : Kept H t v := (kept_of_rely hru).trans (kept_of_rely hrv)
    have hsending := (h.later hkept hH).later hlast subset_rfl
    refine ⟨enqueueBusinessMail newId todo.recipientAccountId failed.purpose subject body
      businessScope (some todo.id) (some operationKey) now, hsending.holding.lock, hsending.holding.mem, rfl, hunused, ?_, ?_,
      rfl, rfl, ?_⟩
    · exact ⟨todo, hsending.holding.mem, rfl, hopen, failed, hsending.latest, hfailed.1⟩
    · exact (hwrites.of_same hkept.workspaces hkept.members).of_same hlast.workspaces hlast.members
    · show _ = _
      rw [hx]
      rfl
  · exact Tx.Safe.raise trivial

/-- Whoever sees a workspace that takes writes is its owner or a member of it. -/
theorem writes_of_visible {db : Database} (h : Books db) {now : Timestamp}
    {accountId workspaceId : Uuid} {workspace : Workspace}
    (hvisible : Recipient.visibleWorkspace now accountId workspaceId db = some workspace)
    (hexit : workspace.exitRequestedAt = none) : Writes db accountId workspaceId := by
  have hmem := List.mem_of_find?_eq_some hvisible
  have hseen := List.find?_some hvisible
  rw [Bool.and_eq_true, beq_iff_eq] at hseen
  exact ⟨workspace, hmem, hseen.1, hexit,
    (Recipient.workspaceRead_iff now (h.sound.unlimited workspace hmem hexit)).1 hseen.2⟩

theorem retryFailedMail_safe {now : Timestamp} {newId recipientId todoId : Uuid}
    {operationKey : String} (hx : x.pending = id)
    (hG : ∀ n H s s', (s' = s ∨ ∃ todo mail, Retried todoId operationKey H s s' todo mail) →
      G n H s s') :
    (Recipient.retryFailedMail now newId recipientId todoId operationKey).Safe amongMails G
      (fun _ _ => True) (fun _ _ => True) x := by
  rw [Recipient.retryFailedMail]
  simp only [Tx.bind_eq]
  refine Tx.Safe.selectForUpdate_bind (l := .todo todoId) (fun v row hrow => ?_)
    (fun s _ _ => Tx.Safe.require_bind (fun _ => trivial) fun _ h => by cases h) fun s _ _ => ?_
  · rw [(Recipient.mem_of_findTodo hrow).2.1]
  refine Tx.Safe.require_bind (fun _ => trivial) fun todo htodo => ?_
  rw [hx, id_eq] at htodo
  obtain ⟨hmem, rfl, rfl, -⟩ := Recipient.mem_of_findTodo htodo
  have hholding : Holding todo (insert (RowKey.todo todo.id, RowLock.update) x.locks) s :=
    ⟨Set.mem_insert _ _, hmem⟩
  -- The rest of the call, wherever the look for an earlier retry has led.
  have hrest : ∀ (y : Point Database RowKey) (existing : Option MailOutbox), y.pending = id →
      Holding todo y.locks y.db → Tx.Safe amongMails G (fun _ _ => True) (fun _ _ => True)
      (if existing.isSome = true then (Tx.commitNow : Program Unit).bind fun _ => .pure todo
      else
        (Tx.ensure (todo.status == .opened)
          (ServiceError.notificationTodoConflict "notification_todo_not_open")).bind fun _ =>
        (Workspaces.ensureVisibleWritable now todo.recipientAccountId todo.workspaceId).bind fun _ =>
        (Tx.ensure (!todo.retryUsed)
          (ServiceError.notificationTodoConflict "notification_mail_retry_used")).bind fun _ =>
        (Tx.read (businessTodoEligible · todo)).bind fun eligible =>
        (Tx.ensure eligible
          (ServiceError.notificationTodoConflict "notification_mail_retry_unavailable")).bind fun _ =>
        (Tx.selectForUpdate (fun r : MailOutbox => RowKey.outbox r.id)
          (Notifications.latestMail · todo.id)).bind fun failed =>
        (Tx.require failed
          (ServiceError.notificationTodoConflict "notification_mail_retry_unavailable")).bind
            fun failed => Recipient.sendAgain now newId todo operationKey failed) y := by
    intro y existing hy hold
    split
    · refine Tx.Safe.commitNow_bind fun t _ _ => ⟨hG _ _ _ _ (.inl ?_), Tx.Safe.pure trivial⟩
      rw [hy]
      rfl
    refine Tx.Safe.ensure_bind (fun _ => trivial) fun hopen => ?_
    rw [Workspaces.ensureVisibleWritable]
    simp only [Tx.bind_eq, Tx.bind_assoc]
    refine Tx.Safe.read_bind fun t ht hrt => ?_
    refine Tx.Safe.require_bind (fun _ => trivial) fun workspace hvisible => ?_
    refine Tx.Safe.ensure_bind (fun _ => trivial) fun hexit => ?_
    rw [hy, id_eq] at hvisible
    have hwrites := writes_of_visible ht hvisible (Option.isNone_iff_eq_none.1 hexit)
    have hholdt : Holding todo y.locks t := hold.later (kept_of_rely hrt) subset_rfl
    refine Tx.Safe.ensure_bind (fun _ => trivial) fun hunused => ?_
    refine Tx.Safe.read_bind fun u _ hru => ?_
    refine Tx.Safe.ensure_bind (fun _ => trivial) fun _ => ?_
    refine Tx.Safe.selectForUpdate_found_bind (fun v _ _ _ => ?_) fun row v w _ hrv hrow _ hrw => ?_
    · exact Tx.Safe.require_bind (fun _ => trivial) fun _ hnone => absurd hnone (by simp)
    refine Tx.Safe.require_bind (fun _ => trivial) fun failed hfailed => ?_
    have hkept : Kept y.locks t v := (kept_of_rely hru).trans (kept_of_rely hrv)
    have hlast : Kept y.locks v w := kept_of_rely hrw
    have hholdv : Holding todo y.locks v := hholdt.later hkept subset_rfl
    rw [hy, id_eq] at hrow hfailed
    have hsame := (hlast.watched_latestMail hold.lock hrow hfailed).1
    refine sendAgain_safe hy ⟨hholdv.later hlast (Set.subset_insert _ _), ?_, hfailed⟩
      (beq_iff_eq.1 hopen) (by simpa using hunused) ?_ fun n H s s' hretried =>
        hG n H s s' (.inr ⟨todo, hretried⟩)
    · rw [hsame.id]
      exact Set.mem_insert _ _
    · exact (hwrites.of_same hkept.workspaces hkept.members).of_same hlast.workspaces hlast.members
  refine Tx.Safe.selectForUpdate_found_bind (fun t _ hrt _ => ?_) fun row t u _ hrt _ _ hru => ?_
  · exact hrest _ none hx (hholding.later (kept_of_rely hrt) subset_rfl)
  · exact hrest _ _ hx ((hholding.later (kept_of_rely hrt) subset_rfl).later (kept_of_rely hru)
      (Set.subset_insert _ _))

end Walks

/-! ## After a retry -/

/-- The recipient's todo has a mail that a retry with this key has added. -/
structure Settled (recipientId todoId : Uuid) (operationKey : String) (db : Database) : Prop where
  todo : ∃ t ∈ db.todos, t.id = todoId ∧ t.recipientAccountId = recipientId
  retry : ∃ r ∈ db.outbox, r.todoId = some todoId ∧ r.retryOperationKey = some operationKey

section Settled

variable {recipientId todoId : Uuid} {operationKey : String} {s s' : Database}

theorem Settled.step {H : Set (RowKey × RowLock)} (h : Settled recipientId todoId operationKey s)
    (hstep : MailStep H s s') : Settled recipientId todoId operationKey s' := by
  obtain ⟨⟨t, ht, hid, hrecipient⟩, r, hr, habout, hkey⟩ := h
  cases hstep with
  | edits he =>
    obtain ⟨t', ht', hsame, -⟩ := (Table.forall₂_mem he.todos).1 t ht
    obtain ⟨r', hr', hmail, -⟩ := (Table.forall₂_mem he.mails).1 r hr
    exact ⟨⟨t', ht', hsame.id.trans hid, hsame.recipient.trans hrecipient⟩,
      r', hr', hmail.todoId.trans habout, hmail.key.trans hkey⟩
  | created todo mail hc =>
    rw [hc.eq]
    exact ⟨⟨t, List.mem_cons_of_mem _ ht, hid, hrecipient⟩, r, List.mem_cons_of_mem _ hr, habout,
      hkey⟩
  | retried k key todo mail hretried =>
    rw [hretried.eq]
    refine ⟨⟨_, List.mem_map_of_mem ht, ?_⟩, r, List.mem_cons_of_mem _ hr, habout, hkey⟩
    split <;> exact ⟨hid, hrecipient⟩

/-- The todo is found by its recipient. -/
theorem Settled.findTodo (h : Settled recipientId todoId operationKey s) (hbooks : Books s) :
    ∃ todo, Recipient.findTodo recipientId todoId s = some todo := by
  obtain ⟨⟨t, ht, hid, hrecipient⟩, r, hr, habout, hkey⟩ := h
  obtain ⟨workspace, hmem, hworkspace, hexit, -⟩ :=
    (hbooks.used r hr (by rw [hkey]; rfl) t ht (habout.trans (congrArg some hid.symm))).2
  have hwrite : exitAllowsWrite none t.workspaceId s = true :=
    List.any_eq_true.2 ⟨workspace, hmem, by simp [hworkspace, hexit]⟩
  exact Option.isSome_iff_exists.1
    (List.find?_isSome.2 ⟨t, ht, by simp [hid, hrecipient, hwrite]⟩)

/-- What a retry looks for is found with that key only. -/
theorem Settled.findRetry (h : Settled recipientId todoId operationKey s) (hbooks : Books s)
    (key : String) :
    (Recipient.findRetry todoId key s).isSome = true ↔ key = operationKey := by
  obtain ⟨-, r, hr, habout, hkey⟩ := h
  have hretry : ∀ r' ∈ s.outbox, r'.todoId = some todoId → r'.retryOperationKey = some key →
      r' ∈ retries todoId s := fun r' hr' habout' hkey' => List.mem_filter.2
    ⟨List.mem_filter.2 ⟨hr', beq_iff_eq.2 habout'⟩, by rw [hkey']; rfl⟩
  constructor
  · intro hfound
    obtain ⟨r', hr', hp⟩ := List.find?_isSome.1 hfound
    rw [Bool.and_eq_true, beq_iff_eq, beq_iff_eq] at hp
    have hmem : r ∈ retries todoId s := List.mem_filter.2
      ⟨List.mem_filter.2 ⟨hr, beq_iff_eq.2 habout⟩, by rw [hkey]; rfl⟩
    have hmem' := hretry r' hr' hp.1 hp.2
    rw [Table.eq_singleton_of_mem (hbooks.retry todoId) hmem, List.mem_singleton] at hmem'
    rw [← Option.some_inj, ← hp.2, hmem', hkey]
  · rintro rfl
    exact List.find?_isSome.2 ⟨r, hr, by simp [habout, hkey]⟩

theorem Settled.writes (h : Settled recipientId todoId operationKey s) (hbooks : Books s)
    {todo : NotificationTodo} (hmem : todo ∈ s.todos) (hid : todo.id = todoId) :
    todo.retryUsed = true ∧ Writes s todo.recipientAccountId todo.workspaceId := by
  obtain ⟨-, r, hr, habout, hkey⟩ := h
  exact hbooks.used r hr (by rw [hkey]; rfl) todo hmem (habout.trans (congrArg some hid.symm))

/-- Who may write sees the workspace. -/
theorem visible_of_writes (hbooks : Books s) (now : Timestamp) {accountId workspaceId : Uuid}
    (h : Writes s accountId workspaceId) : ∃ workspace,
      Recipient.visibleWorkspace now accountId workspaceId s = some workspace ∧
        workspace.exitRequestedAt = none := by
  obtain ⟨workspace, hmem, rfl, hexit, hbelongs⟩ := h
  refine ⟨workspace, Table.find?_eq_some_of_unique hmem ?_ fun w hw hp => ?_, hexit⟩
  · rw [beq_self_eq_true, Bool.true_and]
    exact (Recipient.workspaceRead_iff now (hbooks.sound.unlimited workspace hmem hexit)).2 hbelongs
  · rw [Bool.and_eq_true, beq_iff_eq] at hp
    exact hbooks.sound.unique w hw workspace hmem hp.1

/-- **What a repeat does**, alone or among the other calls. -/
theorem repeat_safe {E : Environment Database RowKey} (hbooks : ∀ s, E.Inv s → Books s)
    (hkept : ∀ H s s', E.Rely H s s' → Kept H s s')
    (hsettled : ∀ H s s', E.Rely H s s' → Settled recipientId todoId operationKey s →
      Settled recipientId todoId operationKey s')
    {x : Point Database RowKey} (hx : x.pending = id)
    (h : Settled recipientId todoId operationKey x.db) (now : Timestamp) (newId : Uuid)
    (key : String) :
    (Recipient.retryFailedMail now newId recipientId todoId key).Safe E
      (fun _ _ s s' => s' = s)
      (fun todo y => key = operationKey ∧ todo.id = todoId ∧ todo ∈ y.db.todos)
      (fun e _ => key ≠ operationKey ∧ ∃ code, e = .notificationTodoConflict code) x := by
  rw [Recipient.retryFailedMail]
  simp only [Tx.bind_eq]
  refine Tx.Safe.selectForUpdate_found_bind (fun s hs hrs hnone => ?_)
    fun row s t _ hrs hrow ht hrt => ?_
  · obtain ⟨todo, htodo⟩ := (hsettled _ _ _ hrs h).findTodo (hbooks s hs)
    rw [hx, id_eq, htodo] at hnone
    cases hnone
  have hst := hsettled _ _ _ hrt (hsettled _ _ _ hrs h)
  rw [hx, id_eq] at hrow ⊢
  refine Tx.Safe.require_bind (fun hnone => ?_) fun todo htodo => ?_
  · obtain ⟨todo, htodo⟩ := hst.findTodo (hbooks t ht)
    rw [htodo] at hnone
    cases hnone
  obtain ⟨hmem, hid, hrecipient, -⟩ := Recipient.mem_of_findTodo htodo
  have hlock : (RowKey.todo todo.id, RowLock.update) ∈
      insert (RowKey.todo row.id, RowLock.update) x.locks := by
    rw [hid, (Recipient.mem_of_findTodo hrow).2.1]
    exact Set.mem_insert _ _
  have hholding : Holding todo (insert (RowKey.todo row.id, RowLock.update) x.locks) t :=
    ⟨hlock, hmem⟩
  rw [hid]
  by_cases hk : key = operationKey
  · refine Tx.Safe.selectForUpdate_found_bind (fun u hu hru hnone => ?_)
      fun row' u v _ hru _ hv hrv => ?_
    · have hfound := ((hsettled _ _ _ hru hst).findRetry (hbooks u hu) key).2 hk
      dsimp only [id_eq] at hnone
      rw [hnone] at hfound
      cases hfound
    · have hfound := ((hsettled _ _ _ hrv (hsettled _ _ _ hru hst)).findRetry (hbooks v hv) key).2 hk
      dsimp only [id_eq]
      rw [if_pos hfound]
      refine Tx.Safe.commitNow_bind fun w _ hrw => ⟨rfl, Tx.Safe.pure ⟨hk, hid, ?_⟩⟩
      exact (((hholding.later (hkept _ _ _ hru) subset_rfl).later (hkept _ _ _ hrv)
        (Set.subset_insert _ _)).later (hkept _ _ _ hrw) subset_rfl).mem
  · have hrest : ∀ (y : Point Database RowKey) (existing : Option MailOutbox)
        (f : Program NotificationTodo), existing.isSome ≠ true → y.pending = id →
        Holding todo y.locks y.db → Settled recipientId todoId operationKey y.db →
        Tx.Safe E (fun _ _ s s' => s' = s)
          (fun todo y => key = operationKey ∧ todo.id = todoId ∧ todo ∈ y.db.todos)
          (fun e _ => key ≠ operationKey ∧ ∃ code, e = .notificationTodoConflict code)
        (if existing.isSome = true then (Tx.commitNow : Program Unit).bind fun _ => .pure todo
        else
          (Tx.ensure (todo.status == .opened)
            (ServiceError.notificationTodoConflict "notification_todo_not_open")).bind fun _ =>
          (Workspaces.ensureVisibleWritable now recipientId todo.workspaceId).bind fun _ =>
          (Tx.ensure (!todo.retryUsed)
            (ServiceError.notificationTodoConflict "notification_mail_retry_used")).bind
              fun _ => f) y := by
      intro y existing f hnone hy hold hset
      rw [if_neg hnone]
      refine Tx.Safe.ensure_bind (fun _ => ⟨hk, _, rfl⟩) fun _ => ?_
      rw [Workspaces.ensureVisibleWritable]
      simp only [Tx.bind_eq, Tx.bind_assoc]
      refine Tx.Safe.read_bind fun u hu hru => ?_
      have hmemu := (hold.later (hkept _ _ _ hru) subset_rfl).mem
      obtain ⟨hused, hwrites⟩ := (hsettled _ _ _ hru hset).writes (hbooks u hu) hmemu hid
      obtain ⟨workspace, hvisible, hexit⟩ := visible_of_writes (hbooks u hu) now hwrites
      rw [hrecipient, Recipient.visibleWorkspace] at hvisible
      rw [hy, id_eq, hvisible]
      refine Tx.Safe.require_bind (fun hnone => absurd hnone (by simp)) fun w hw => ?_
      obtain rfl := Option.some.inj hw
      refine Tx.Safe.ensure_bind (fun hsome => ?_) fun _ => ?_
      · rw [hexit] at hsome
        cases hsome
      refine Tx.Safe.ensure_bind (fun _ => ⟨hk, _, rfl⟩) fun hunused => ?_
      rw [hused] at hunused
      cases hunused
    refine Tx.Safe.selectForUpdate_found_bind (fun u hu hru _ => ?_)
      fun row' u v _ hru _ hv hrv => ?_
    · exact hrest _ none _ (by simp) rfl (hholding.later (hkept _ _ _ hru) subset_rfl)
        (hsettled _ _ _ hru hst)
    · have hsetv := hsettled _ _ _ hrv (hsettled _ _ _ hru hst)
      dsimp only [id_eq]
      refine hrest _ _ _ (mt (hsetv.findRetry (hbooks v hv) key).1 hk) rfl ?_ hsetv
      exact (hholding.later (hkept _ _ _ hru) subset_rfl).later (hkept _ _ _ hrv)
        (Set.subset_insert _ _)

end Settled

/-! ## The whole system -/

theorem program_safe (settings : Settings) (call : MailCall) (s : Database) :
    (call.program settings).Safe amongMails (mailCommit call) (fun _ _ => True) (fun _ _ => True)
      (Point.start s) := by
  cases call with
  | createTodo => exact createTodo_call_safe settings _ _ _ _ _ _ _ _ _ _ _ _ rfl fun _ _ _ _ h => h
  | endTodos now ending =>
    refine (endAll_safe ending.2 (Editing.of_id rfl)).bind fun _ y hy => ?_
    exact commit_editing hy fun _ _ _ _ h => h
  | completeTodo now recipientId todoId =>
    exact (completeTodo_safe rfl fun _ _ _ _ h => h).bind fun _ _ _ => Tx.Safe.pure trivial
  | retryFailedMail now newId recipientId todoId operationKey =>
    exact (retryFailedMail_safe rfl fun _ _ _ _ h => h).bind fun _ _ _ => Tx.Safe.pure trivial
  | dispatch d =>
    exact (dispatch_safe settings d rfl fun _ _ _ _ h => h).bind fun _ _ _ => Tx.Safe.pure trivial
  | elsewhere change =>
    rw [MailCall.program, Rulefolio.elsewhere]
    simp only [Tx.bind_eq, Tx.bind_assoc]
    refine Tx.Safe.write_bind fun t _ _ => commit_editing ?_ fun _ _ _ _ h => h
    refine (Editing.of_id (x := Point.start s) rfl).write (fun u => ?_) t
    exact ⟨List.forall₂_same.2 fun _ _ => .refl _ _, List.forall₂_same.2 fun _ _ => .refl _ _, rfl,
      rfl⟩

/-- The books are in order at the start. -/
theorem books_of_init (s : Database) (h : s.todos = [] ∧ s.outbox = [] ∧ WorkspacesSound s) :
    Books s := by
  obtain ⟨htodos, houtbox, hsound⟩ := h
  refine ⟨fun _ => ?_, fun _ => ?_, fun _ => ?_, ?_, ?_, hsound⟩
  · simp [todosOf, htodos]
  · simp [originals, mailsOf, houtbox]
  · simp [retries, mailsOf, houtbox]
  · simp [houtbox]
  · simp [houtbox]

theorem settled_of_rely {recipientId todoId : Uuid} {operationKey : String}
    {H : Set (RowKey × RowLock)} {s s' : Database} (hrely : amongMails.Rely H s s')
    (h : Settled recipientId todoId operationKey s) :
    Settled recipientId todoId operationKey s' :=
  relates_of_rely (R := fun s s' => Settled recipientId todoId operationKey s →
      Settled recipientId todoId operationKey s') (fun _ h => h) (fun _ _ _ hst htu h => htu (hst h))
    (fun _ _ _ _ _ _ hcommit _ hset => hset.step (mailStep_of_commit hcommit)) hrely h

/-- Every reachable configuration is safe. -/
theorem safeConfig_of_reachable (settings : Settings)
    {c : Config Database RowKey ServiceError (Option NotificationTodo) MailCall}
    (h : (retrySystem settings).Reachable c) :
    SafeConfig amongMails mailCommit (fun _ _ _ => True) (fun _ _ _ => True) c :=
  sound closed_amongMails books_of_init (fun op s _ => program_safe settings op s) h

/-- A commit that adds a retry. -/
theorem MailStep.lastFailed {H : Set (RowKey × RowLock)} {s s' : Database} (h : MailStep H s s')
    {todoId : Uuid} (hmore : (retries todoId s).length < (retries todoId s').length) :
    LastFailed todoId s := by
  cases h with
  | edits he =>
    rw [length_retries (fun _ _ hr => hr.1) he.mails] at hmore
    exact absurd hmore (lt_irrefl _)
  | created todo mail hc =>
    rw [hc.eq, retries_cons, if_neg (by simp [hc.original])] at hmore
    exact absurd hmore (lt_irrefl _)
  | retried k operationKey todo mail hr =>
    rw [hr.eq, retries_cons] at hmore
    split at hmore
    · rename_i hid
      obtain rfl := Option.some.inj (hr.about.symm.trans hid.1)
      exact hr.last
    · exact absurd hmore (lt_irrefl _)

/-- No commit removes a mail. -/
theorem MailStep.keeps {H : Set (RowKey × RowLock)} {s s' : Database} (h : MailStep H s s')
    {r : MailOutbox} (hr : r ∈ s.outbox) : ∃ r' ∈ s'.outbox, SameMail r r' := by
  cases h with
  | edits he =>
    obtain ⟨r', hr', hsame, -⟩ := (Table.forall₂_mem he.mails).1 r hr
    exact ⟨r', hr', hsame⟩
  | created todo mail hc =>
    rw [hc.eq]
    exact ⟨r, List.mem_cons_of_mem _ hr, .refl r⟩
  | retried k operationKey todo mail hretried =>
    rw [hretried.eq]
    exact ⟨r, List.mem_cons_of_mem _ hr, .refl r⟩

/-- A repeat with the key of the retry returns the todo; any other key is refused. Neither changes
anything. -/
def RepeatsAlone (db : Database) (todo : NotificationTodo) (operationKey : String) : Prop :=
  ∀ now newId key,
    let outcome := (Recipient.retryFailedMail now newId todo.recipientAccountId todo.id key).exec db
    (key = operationKey → outcome = (db, .ok todo)) ∧
      (key ≠ operationKey → ∃ code, outcome = (db, .error (.notificationTodoConflict code)))

/-- The same of a repeat that begins now, among all the other calls: whatever it commits changes
nothing, and if it ends it ends so. -/
def RepeatsAmong (settings : Settings)
    (c : Config Database RowKey ServiceError (Option NotificationTodo) MailCall)
    (todo : NotificationTodo) (operationKey : String) : Prop :=
  ∀ now newId key i c₁ es c₂, (retrySystem settings).step c
      (.call i (.retryFailedMail now newId todo.recipientAccountId todo.id key)) = some c₁ →
    (retrySystem settings).run c₁ es = some c₂ →
      (∀ e ∈ c₂.history, e.serial = c.calls → e.after = e.before) ∧
        ∀ j p, c₂.sessions j = some p → p.serial = c.calls →
          (∀ o, p.code = .pure o → key = operationKey ∧ ∃ t, o = some t ∧ t.id = todo.id) ∧
            ∀ e, p.code = .raise e →
              key ≠ operationKey ∧ ∃ code, e = .notificationTodoConflict code

theorem repeatsAlone {db : Database} (hbooks : Books db) {todo : NotificationTodo}
    (hmem : todo ∈ db.todos) {operationKey : String}
    (h : Settled todo.recipientAccountId todo.id operationKey db) :
    RepeatsAlone db todo operationKey := by
  intro now newId key outcome
  have hkeep : ∀ (n : ℕ) (H : Set (RowKey × RowLock)) (s s' : Database), Books s → s' = s →
      Books s' := fun _ _ _ _ hs heq => heq ▸ hs
  have hsafe := repeat_safe (E := .alone Books) (fun _ hs => hs)
    (fun H s s' hrely => by obtain rfl : s = s' := hrely; exact .refl H s)
    (fun H s s' hrely hset => by obtain rfl : s = s' := hrely; exact hset)
    (x := Point.start db) rfl h now newId key
  have hsame : outcome.1 = db := by
    have hchain := Tx.exec_sound hkeep hbooks hsafe
    suffices H : ∀ s', Relation.ReflTransGen (fun s s' : Database => Books s ∧
        ∃ (_ : ℕ) (_ : Set (RowKey × RowLock)), s' = s) db s' → s' = db from H _ hchain
    intro s' hsteps
    induction hsteps with
    | refl => rfl
    | tail _ hlast ih =>
      obtain ⟨-, -, -, rfl⟩ := hlast
      exact ih
  obtain ⟨y, hy, hok, herror⟩ := Tx.exec_result hkeep hbooks hsafe
  constructor
  · intro hk
    cases hout : outcome.2 with
    | ok t =>
      obtain ⟨-, hid, ht⟩ := hok t hout
      rw [hy, hsame] at ht
      exact Prod.ext hsame (by rw [hout, hbooks.unique ht hmem hid])
    | error e => exact absurd hk (herror e hout).1
  · intro hk
    cases hout : outcome.2 with
    | ok t => exact absurd (hok t hout).1 hk
    | error e =>
      obtain ⟨-, code, rfl⟩ := herror e hout
      exact ⟨code, Prod.ext hsame hout⟩

theorem repeatsAmong (settings : Settings)
    {c : Config Database RowKey ServiceError (Option NotificationTodo) MailCall}
    (hc : (retrySystem settings).Reachable c) {todo : NotificationTodo} {operationKey : String}
    (h : Settled todo.recipientAccountId todo.id operationKey c.db) :
    RepeatsAmong settings c todo operationKey := by
  intro now newId key i c₁ es c₂ hcall hrun
  have hstart : ((MailCall.retryFailedMail now newId todo.recipientAccountId todo.id key).program
      settings).Safe amongMails (fun _ _ s s' => s' = s)
        (fun o _ => key = operationKey ∧ ∃ t, o = some t ∧ t.id = todo.id)
        (fun e _ => key ≠ operationKey ∧ ∃ code, e = .notificationTodoConflict code)
        (Point.start c.db) := by
    refine (repeat_safe (E := amongMails) (fun _ hs => hs) (fun _ _ _ => kept_of_rely)
      (fun _ _ _ hrely => settled_of_rely hrely) (x := Point.start c.db) rfl h now newId key).bind
        fun t _ ht => Tx.Safe.pure ⟨ht.1, t, rfl, ht.2.1⟩
  have heach := safeEach_of_call closed_amongMails books_of_init
    (fun op s _ => program_safe settings op s) hc hcall (fun _ _ _ _ heq => .inl heq) hstart hrun
  constructor
  · intro e he hserial
    obtain ⟨-, n, H, hcommit⟩ := heach.history e he
    rwa [if_pos hserial] at hcommit
  · intro j p hp hserial
    obtain ⟨s, -, hsafe⟩ := heach.calls j p hp
    rw [if_pos hserial, if_pos hserial, if_pos hserial] at hsafe
    constructor
    · intro o ho
      rw [ho] at hsafe
      exact Tx.Safe.of_pure hsafe
    · intro e he
      rw [he] at hsafe
      exact Tx.Safe.of_raise hsafe

/-- **A failed mail is retried at most once.** However these calls interleave, a todo has at most
one mail that came with it and at most one that a retry has added, and none of them goes away. A
retry adds one only when the latest mail has failed and the todo is open. From then on a repeat with
its key returns the todo, every other key is refused, and neither changes anything. -/
theorem failed_mail_retried_once (settings : Settings)
    {c : Config Database RowKey ServiceError (Option NotificationTodo) MailCall}
    (h : (retrySystem settings).Reachable c) :
    (∀ todoId, (originals todoId c.db).length ≤ 1 ∧ (retries todoId c.db).length ≤ 1) ∧
    (∀ e ∈ c.history, (∀ r ∈ e.after.outbox, ∃ r' ∈ c.db.outbox, SameMail r r') ∧
      ∀ todoId, (retries todoId e.before).length < (retries todoId e.after).length →
        LastFailed todoId e.before) ∧
    ∀ todo ∈ c.db.todos, ∀ r ∈ c.db.outbox, r.todoId = some todo.id →
      ∀ operationKey, r.retryOperationKey = some operationKey →
        RepeatsAlone c.db todo operationKey ∧ RepeatsAmong settings c todo operationKey := by
  have hsafe := safeConfig_of_reachable settings h
  have hbooks : Books c.db := hsafe.inv
  refine ⟨fun todoId => ⟨hbooks.original todoId, hbooks.retry todoId⟩, fun e he => ⟨?_, ?_⟩, ?_⟩
  · obtain ⟨s₀, -, hlinked⟩ := (wellFormed_of_reachable h).linked
    refine hlinked.later (R := fun s s' => ∀ r ∈ s.outbox, ∃ r' ∈ s'.outbox, SameMail r r')
      (fun s r hr => ⟨r, hr, .refl r⟩) (fun s t u hst htu r hr => ?_) (fun e he r hr => ?_) he
    · obtain ⟨r', hr', hsame⟩ := hst r hr
      obtain ⟨r'', hr'', hsame'⟩ := htu r' hr'
      exact ⟨r'', hr'', hsame.trans hsame'⟩
    · obtain ⟨-, n, H, hcommit⟩ := hsafe.history e he
      exact (mailStep_of_commit hcommit).keeps hr
  · intro todoId hmore
    obtain ⟨-, n, H, hcommit⟩ := hsafe.history e he
    exact (mailStep_of_commit hcommit).lastFailed hmore
  · intro todo hmem r hr habout operationKey hkey
    have hsettled : Settled todo.recipientAccountId todo.id operationKey c.db :=
      ⟨⟨todo, hmem, rfl, rfl⟩, r, hr, habout, hkey⟩
    exact ⟨repeatsAlone hbooks hmem hsettled, repeatsAmong settings h hsettled⟩

/-! ## A retry

A maintainer (account 7) who owns the workspace is told of an issue. A dispatcher fails three times to
send the mail, and the maintainer has it sent again. -/

/-- The issue is open, and its work is in the workspace of account 7. -/
def ownedWork : Database :=
  { Database.empty with
    accounts := [⟨7, "maker@example.org", .active⟩]
    workspaces := [⟨2, "workspace", none, 7, 1, none, none, none, none, none⟩]
    accesses := [⟨5, 2, 7, .maintainer⟩]
    issues := [⟨3, 2, 5, "too long", .modify, "reason", none, 0, .opened, 1, "key"⟩] }

/-- The calls of this run, made one after the other, with the number of steps each takes. -/
def retriedOnce : List (ReadCommitted.Event MailCall) :=
  let claim (k : ℕ) : MailCall × ℕ := (.dispatch (.claimNext (1000 * k) [] k), 5)
  let fail (k : ℕ) : MailCall × ℕ := (.dispatch (.markFailed (1000 * k + 1) ⟨40, k, k⟩), 5)
  let calls : List (MailCall × ℕ) :=
    [(.createTodo (fun path => if path = [0] then 30 else 40) 10 7 2 (some 5) .issueOpened .issue 3
        (.issueOpen 3 1) "summary" "label" issueMail, 7),
      claim 1, fail 1, claim 2, fail 2, claim 3, fail 3,
      (.retryFailedMail 9000 41 7 30 "again", 13)]
  calls.flatMap fun (call, n) => .call 0 call :: advances 0 n ++ [.close 0]

theorem workspacesSound_ownedWork : WorkspacesSound ownedWork := by
  constructor
  · rintro w hw w' hw' -
    rw [List.mem_singleton.1 hw, List.mem_singleton.1 hw']
  · rintro w hw -
    rw [List.mem_singleton.1 hw]

theorem failed_mail_retried_once_retriedOnce :
    ∃ c, (retrySystem .withoutCipher).run (.start ownedWork) retriedOnce = some c ∧
      (c.db.outbox.map fun r => (r.id, r.retryOperationKey)) = [(41, some "again"), (40, none)] ∧
        (retries 30 c.db).length ≤ 1 ∧
          ∀ todo ∈ c.db.todos, todo.id = 30 → RepeatsAlone c.db todo "again" := by
  obtain ⟨c, hc, hfacts⟩ := (Option.any_eq_true _ _).1
    (show ((retrySystem .withoutCipher).run (.start ownedWork) retriedOnce).any (fun c =>
      decide ((c.db.outbox.map fun r => (r.id, r.retryOperationKey)) =
          [(41, some "again"), (40, none)] ∧
        ∃ r ∈ c.db.outbox, r.todoId = some 30 ∧ r.retryOperationKey = some "again")) = true by
      decide +kernel)
  obtain ⟨houtbox, r, hr, habout, hkey⟩ := of_decide_eq_true hfacts
  have hinit : (retrySystem .withoutCipher).init (.start ownedWork) :=
    init_start _ ⟨rfl, rfl, workspacesSound_ownedWork⟩
  have hreach := TransitionSystem.Reachable.run (.initial hinit) hc
  obtain ⟨hcounts, -, hrepeats⟩ := failed_mail_retried_once .withoutCipher hreach
  refine ⟨c, hc, houtbox, (hcounts 30).2, fun todo htodo hid => ?_⟩
  exact (hrepeats todo htodo r hr (habout.trans (congrArg some hid.symm)) "again" hkey).1

end Notifications

end Rulefolio
