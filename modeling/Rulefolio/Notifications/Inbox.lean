import Rulefolio.Notifications.Deliveries
import Rulefolio.Notifications.Recipients
import Rulefolio.Notifications.Shapes

/-!
# What a recipient is shown of a mail

The inbox shows a todo with the status of its latest mail, and offers to send a failed mail again.
`todo_data` decides that from the row of the todo and the row of the mail alone. `retry_failed_mail`
checks more: that the workspace can be seen and takes writes, that the matter of the todo still
stands, and that the failed mail has a text to be sent again.

Of these the last needs no check, in any state the mail system can reach: a mail without a
credential has its text, because the rows of the outbox are in order. So an offer is good exactly
when the first two hold, and a request that is not good changes nothing. One that is good uses up
the retry of the todo, and no step of the system gives it back.

## Main definitions

* `mailStatus`, `NotificationTodoData`, `todoData`.
* `UsedUp` — the retry of a todo has been used.

## Main results

* `retry_offered_iff` — when a failed mail can be sent again.
-/

namespace Rulefolio

namespace Notifications

/-- `_mail_status`. -/
def mailStatus : Option MailOutbox → Option MailStatus
  | none => none
  | some outbox =>
    match outbox.status with
    | .pending | .sending => some .pending
    | .cancelled | .suppressed => some .cancelled
    | status => some status

/-- `NotificationTodoData`. The columns it copies are those of the todo. -/
structure NotificationTodoData where
  todo : NotificationTodo
  mailStatus : Option MailStatus
  lastAttemptAt : Option Timestamp
  canRetryMail : Bool
  deriving DecidableEq, Repr

/-- `todo_data`. -/
def todoData (db : Database) (todo : NotificationTodo) : NotificationTodoData :=
  let outbox := latestMail db todo.id
  { todo
    mailStatus := mailStatus outbox
    lastAttemptAt := outbox.bind fun r => r.smtpStartedAt <|> r.dispatchStartedAt
    canRetryMail := todo.status == .opened && !todo.retryUsed &&
      outbox.any fun r => r.status == .failed && r.credentialId.isNone }

theorem canRetryMail_iff {db : Database} {todo : NotificationTodo} :
    (todoData db todo).canRetryMail = true ↔ todo.status = .opened ∧ todo.retryUsed = false ∧
      ∃ failed, latestMail db todo.id = some failed ∧ failed.status = .failed ∧
        failed.credentialId = none := by
  simp [todoData, Option.any_eq_true, and_assoc]

theorem latestMail_mem {db : Database} {todoId : Uuid} {r : MailOutbox}
    (h : latestMail db todoId = some r) : r ∈ db.outbox ∧ r.todoId = some todoId := by
  have hmem := List.mem_filter.1 (List.argmax_mem h)
  exact ⟨hmem.1, by simpa using hmem.2⟩

namespace Recipient

variable {db : Database} {now : Timestamp} {newId recipientId todoId : Uuid}
  {operationKey : String} {todo : NotificationTodo}

/-- The workspace of the todo can be seen, and takes writes. -/
def Reaches (db : Database) (now : Timestamp) (recipientId workspaceId : Uuid) : Prop :=
  ∃ workspace, visibleWorkspace now recipientId workspaceId db = some workspace ∧
    workspace.exitRequestedAt = none

/-- The text of a mail without a credential is sent again, whatever the status of the mail was. -/
theorem resent_eq (db : Database) (now : Timestamp) (newId : Uuid) (todo : NotificationTodo)
    (operationKey : String) {failed : MailOutbox} (hok : InOrder failed)
    (hfailed : failed.status = .failed) (hcredential : failed.credentialId = none) :
    ∃ subject body scope, failed.frozenSubject = some subject ∧ failed.frozenBody = some body ∧
      resent db now newId todo operationKey failed = .ok { db with
        todos := Table.update (·.id == todo.id) (fun t => { t with retryUsed := true }) db.todos
        outbox := enqueueBusinessMail newId todo.recipientAccountId failed.purpose subject body
          scope (some todo.id) (some operationKey) now :: db.outbox } := by
  rcases hok.delivery with ⟨hsome, -⟩ | ⟨-, hscope, hsubject, hbody⟩
  · rw [hcredential] at hsome
    cases hsome
  · obtain ⟨scope, hscope⟩ := Option.isSome_iff_exists.1 hscope
    obtain ⟨subject, hsubject, -⟩ := (Option.any_eq_true ..).1 hsubject
    obtain ⟨body, hbody, -⟩ := (Option.any_eq_true ..).1 hbody
    refine ⟨subject, body, scope, hsubject, hbody, ?_⟩
    rw [resent, hsubject, hbody, hscope]
    simp [hfailed, hcredential]

theorem resent_error (db : Database) (now : Timestamp) (newId : Uuid) (todo : NotificationTodo)
    (operationKey : String) {failed : MailOutbox}
    (h : ¬ (failed.status = .failed ∧ failed.credentialId = none)) :
    ∃ e, resent db now newId todo operationKey failed = .error e := by
  have hrefused : failed.status ≠ .failed ∨ failed.credentialId.isSome = true := by
    rw [not_and_or] at h
    exact h.imp_right Option.isSome_iff_ne_none.2
  rw [resent]
  split
  · exact ⟨_, if_pos hrefused⟩
  · exact ⟨_, rfl⟩

/-- A todo that has ended is refused before anything else is looked at. -/
theorem retryFailedMail_ended (hfind : findTodo recipientId todoId db = some todo)
    (hended : todo.status ≠ .opened) (hnone : findRetry todoId operationKey db = none) :
    (retryFailedMail now newId recipientId todoId operationKey).exec db =
      (db, .error (.notificationTodoConflict "notification_todo_not_open")) := by
  obtain ⟨-, hid, -, -⟩ := mem_of_findTodo hfind
  rw [retryFailedMail, Tx.exec]
  simp only [Tx.bind_eq]
  rw [Tx.execFrom_selectForUpdate_bind, id_eq, hfind, Tx.execFrom_require_bind]
  dsimp only
  rw [Tx.execFrom_selectForUpdate_bind, id_eq, hid, hnone]
  simp only [Option.isSome_none, Bool.false_eq_true, if_false]
  rw [Tx.execFrom_ensure_bind, if_neg (by simpa using hended)]

/-- A retry that is good adds a mail with the text of the failed one, as the event of the mail system
does. -/
theorem retryFailedMail_good (hkeys : UniqueKeys db) (hrows : ∀ r ∈ db.outbox, InOrder r)
    (hfind : findTodo recipientId todoId db = some todo)
    (hnone : findRetry todoId operationKey db = none) (hfresh : ∀ r ∈ db.outbox, r.id ≠ newId)
    (hoffered : (todoData db todo).canRetryMail = true)
    (heligible : businessTodoEligible db todo = true)
    (hreaches : Reaches db now recipientId todo.workspaceId) :
    ∃ failed subject body scope db', latestMail db todoId = some failed ∧
      failed.frozenSubject = some subject ∧ failed.frozenBody = some body ∧
      db' = { db with
        todos := Table.update (·.id == todoId) (fun t => { t with retryUsed := true }) db.todos
        outbox := enqueueBusinessMail newId recipientId failed.purpose subject body scope
          (some todoId) (some operationKey) now :: db.outbox } ∧
      Notifications.retryFailedMail db now newId recipientId todoId operationKey = .ok db' ∧
      (retryFailedMail now newId recipientId todoId operationKey).exec db =
        (db', .ok { todo with retryUsed := true }) := by
  obtain ⟨hopen, hunused, failed, hlatest, hfailed, hcredential⟩ := canRetryMail_iff.1 hoffered
  obtain ⟨workspace, hvisible, hexit⟩ := hreaches
  obtain ⟨-, rfl, rfl, -⟩ := mem_of_findTodo hfind
  have hexit' : workspace.exitRequestedAt.isNone = true := Option.isNone_iff_eq_none.2 hexit
  have hwritable := writable_of_visible hkeys hvisible hexit'
  obtain ⟨subject, body, scope, hsubject, hbody, hresent⟩ := resent_eq db now newId todo
    operationKey (hrows failed (latestMail_mem hlatest).1) hfailed hcredential
  have hevent : Notifications.retryFailedMail db now newId todo.recipientAccountId todo.id
      operationKey = resent db now newId todo operationKey failed := by
    rw [retryFailedMail_eq (find?_of_findTodo hkeys hfind) hopen hnone hwritable, hlatest, hunused,
      heligible]
    simp only [Bool.false_eq_true, if_false, if_true]
  rw [hresent] at hevent
  refine ⟨failed, subject, body, scope, _, hlatest, hsubject, hbody, rfl, hevent, ?_⟩
  rw [retryFailedMail_exec hkeys hfind hopen hfresh, hnone, hvisible]
  simp only [Option.isSome_none, Bool.false_eq_true, if_false, hexit', if_true]
  rw [hevent, outcome]

/-- Any other retry is refused. -/
theorem retryFailedMail_refused (hkeys : UniqueKeys db)
    (hfind : findTodo recipientId todoId db = some todo)
    (hnone : findRetry todoId operationKey db = none) (hfresh : ∀ r ∈ db.outbox, r.id ≠ newId)
    (hbad : ¬ ((todoData db todo).canRetryMail = true ∧ businessTodoEligible db todo = true ∧
      Reaches db now recipientId todo.workspaceId)) :
    ∃ e, (retryFailedMail now newId recipientId todoId operationKey).exec db = (db, .error e) := by
  by_cases hopen : todo.status = .opened
  · obtain ⟨-, rfl, rfl, -⟩ := mem_of_findTodo hfind
    rw [retryFailedMail_exec hkeys hfind hopen hfresh, hnone]
    simp only [Option.isSome_none, Bool.false_eq_true, if_false]
    cases hvisible : visibleWorkspace now todo.recipientAccountId todo.workspaceId db with
    | none => exact ⟨_, rfl⟩
    | some workspace =>
      dsimp only
      by_cases hexit : workspace.exitRequestedAt.isNone = true
      · have hwritable := writable_of_visible hkeys hvisible hexit
        rw [if_pos hexit, retryFailedMail_eq (find?_of_findTodo hkeys hfind) hopen hnone hwritable]
        by_cases hused : todo.retryUsed = true
        · exact ⟨_, by rw [if_pos hused, outcome]⟩
        rw [if_neg hused]
        by_cases heligible : businessTodoEligible db todo = true
        · rw [if_pos heligible]
          cases hlatest : latestMail db todo.id with
          | none => exact ⟨_, rfl⟩
          | some failed =>
            obtain ⟨e, he⟩ := resent_error db now newId todo operationKey fun hfailed =>
                hbad ⟨canRetryMail_iff.2 ⟨hopen, by simpa using hused, failed, hlatest, hfailed⟩,
                  heligible, workspace, hvisible, Option.isNone_iff_eq_none.1 hexit⟩
            refine ⟨e, ?_⟩
            dsimp only
            rw [he, outcome]
        · exact ⟨_, by rw [if_neg heligible, outcome]⟩
      · exact ⟨_, by rw [if_neg hexit]⟩
  · exact ⟨_, retryFailedMail_ended hfind hopen hnone⟩

end Recipient

/-! ## The last retry -/

/-- The retry of a todo is used up: the todo has had a mail, so its identifier is not given to
another one, and while it is there its row says that the retry was used. -/
structure UsedUp (todoId : Uuid) (s : MailSystem) : Prop where
  mailed : ∃ o, (o, todoId) ∈ s.enqueuedFor
  used : ∀ todo ∈ s.db.todos, todo.id = todoId → todo.retryUsed = true

namespace UsedUp

variable {settings : Settings} {s s' : MailSystem} {todoId : Uuid}

/-- A step that takes no todo into the table, and gives none its retry back. -/
theorem keeps (h : UsedUp todoId s) (hfor : s.enqueuedFor ⊆ s'.enqueuedFor)
    (htodos : ∀ todo' ∈ s'.db.todos, ∃ todo ∈ s.db.todos, todo'.id = todo.id ∧
      (todo.retryUsed = true → todo'.retryUsed = true)) : UsedUp todoId s' where
  mailed := h.mailed.imp fun _ ho => hfor ho
  used todo' hmem hid := by
    obtain ⟨todo, htodo, hsame, hused⟩ := htodos todo' hmem
    exact hused (h.used todo htodo (hsame.symm.trans hid))

/-- A step that leaves the todos and what was enqueued for them alone. -/
theorem same (h : UsedUp todoId s) (hfor : s'.enqueuedFor = s.enqueuedFor)
    (htodos : s'.db.todos = s.db.todos) : UsedUp todoId s' := by
  refine h.keeps (by rw [hfor]; exact List.Subset.refl _) fun todo hmem => ?_
  exact ⟨todo, htodos ▸ hmem, rfl, id⟩

theorem step {e : Event} (h : UsedUp todoId s) (hs : SystemStep settings s e s') :
    UsedUp todoId s' := by
  cases hs with
  | dispatcher _ hact => exact h.same hact.enqueuedFor hact.todos
  | @commit k t _ _ =>
    refine h.keeps (List.Subset.refl _) fun todo' hmem => ?_
    obtain ⟨todo, htodo, hid, hused⟩ := t.todosStep_publish hmem
    exact ⟨todo, htodo, hid, fun hold => hused.trans hold⟩
  | @createTodo todo r hfresh _ _ _ =>
    -- The identifier of a new todo was never used.
    obtain ⟨o, ho⟩ := h.mailed
    refine ⟨⟨o, List.mem_cons_of_mem _ ho⟩, fun todo' hmem hid => ?_⟩
    rcases List.mem_cons.1 hmem with rfl | hmem
    · simp only [freshTodo, Bool.and_eq_true, List.all_eq_true, bne_iff_ne] at hfresh
      exact absurd hid.symm (hfresh.1.2 (o, todoId) ho)
    · exact h.used todo' hmem hid
  | retry _ _ _ _ =>
    refine h.keeps (List.subset_cons_self ..) fun todo' hmem => ?_
    rcases Table.mem_update.1 hmem with ⟨todo, htodo, -, rfl⟩ | ⟨hmem, -⟩
    · exact ⟨todo, htodo, rfl, fun _ => rfl⟩
    · exact ⟨todo', hmem, rfl, id⟩
  | _ => exact h.same rfl rfl

/-- No run gives the retry back. -/
theorem run (h : UsedUp todoId s) {events : List Event}
    (hrun : (mailSystem settings).run s events = some s') : UsedUp todoId s' := by
  induction events generalizing s with
  | nil =>
    cases hrun
    exact h
  | cons e events ih =>
    obtain ⟨t, ht, hrun⟩ := Option.bind_eq_some_iff.1 hrun
    exact ih (h.step (step_spec ht)) hrun

end UsedUp

/-- The event of a retry that is good. -/
theorem step_retryFailedMail {settings : Settings} {s s' : MailSystem} {now : Timestamp}
    {newId recipientId todoId : Uuid} {operationKey : String} {db' : Database} {r : MailOutbox}
    (hevent : retryFailedMail s.db now newId recipientId todoId operationKey = .ok db')
    (hr : r ∈ db'.outbox) (hid : r.id = newId)
    (hs : (mailSystem settings).step s
      (.retryFailedMail now newId recipientId todoId operationKey) = some s') :
    s'.db = db' ∧ (newId, todoId) ∈ s'.enqueuedFor := by
  have hany : (db'.outbox.any fun q => q.id == newId) = true :=
    List.any_eq_true.2 ⟨r, hr, beq_iff_eq.2 hid⟩
  simp only [mailSystem, step, retry, hevent, hany, if_true] at hs
  split at hs
  · cases hs
    exact ⟨rfl, List.mem_cons_self⟩
  · cases hs

/-! ## The offer -/

/-- **An offer to send a mail again is good** exactly when the matter of the todo still stands and
its recipient reaches the workspace. Then a mail with the same text is queued, and the todo is never
offered again, whatever becomes of that mail and whatever else happens; otherwise nothing changes. -/
theorem retry_offered_iff (settings : Settings) {s : MailSystem}
    (h : (mailSystem settings).Reachable s) (hkeys : Recipient.UniqueKeys s.db)
    {recipientId todoId : Uuid} {todo : NotificationTodo}
    (hfind : Recipient.findTodo recipientId todoId s.db = some todo) {operationKey : String}
    (hnone : Recipient.findRetry todoId operationKey s.db = none) (now : Timestamp) {newId : Uuid}
    (hfresh : ∀ r ∈ s.db.outbox, r.id ≠ newId) {db' : Database}
    {result : Except ServiceError NotificationTodo}
    (hrun : (Recipient.retryFailedMail now newId recipientId todoId operationKey).exec s.db =
      (db', result)) :
    ((∃ t, result = .ok t) ↔ (todoData s.db todo).canRetryMail = true ∧
      businessTodoEligible s.db todo = true ∧
      Recipient.Reaches s.db now recipientId todo.workspaceId) ∧
    (∀ t, result = .ok t → (t ∈ db'.todos ∧ t = { todo with retryUsed := true }) ∧
      (∃ failed r, latestMail s.db todoId = some failed ∧ db'.outbox = r :: s.db.outbox ∧
        r.status = .pending ∧ r.recipientAccountId = recipientId ∧ r.purpose = failed.purpose ∧
        r.frozenSubject = failed.frozenSubject ∧ r.frozenBody = failed.frozenBody) ∧
      ∀ s', (mailSystem settings).step s
          (.retryFailedMail now newId recipientId todoId operationKey) = some s' →
        s'.db = db' ∧ ∀ events s'', (mailSystem settings).run s' events = some s'' →
          ∀ later ∈ s''.db.todos, later.id = todoId →
            later.retryUsed = true ∧ (todoData s''.db later).canRetryMail = false) ∧
    ∀ e, result = .error e → db' = s.db := by
  have hrows := ((orderly_inductive settings).of_reachable h).rows
  by_cases hgood : (todoData s.db todo).canRetryMail = true ∧
      businessTodoEligible s.db todo = true ∧
      Recipient.Reaches s.db now recipientId todo.workspaceId
  · obtain ⟨hoffered, heligible, hreaches⟩ := hgood
    obtain ⟨failed, subject, body, scope, db', hlatest, hsubject, hbody, hdb', hevent, hexec⟩ :=
      Recipient.retryFailedMail_good hkeys hrows hfind hnone hfresh hoffered heligible hreaches
    rw [hexec] at hrun
    cases hrun
    refine ⟨⟨fun _ => ⟨hoffered, heligible, hreaches⟩, fun _ => ⟨_, rfl⟩⟩, ?_, ?_⟩
    · intro t ht
      cases ht
      obtain ⟨hmem, hid, -, -⟩ := Recipient.mem_of_findTodo hfind
      have hstored : { todo with retryUsed := true } ∈ db'.todos := by
        rw [hdb']
        exact Table.mem_update.2 (.inl ⟨todo, hmem, beq_iff_eq.2 hid, rfl⟩)
      refine ⟨⟨hstored, rfl⟩, ⟨failed, enqueueBusinessMail newId recipientId failed.purpose subject
        body scope (some todoId) (some operationKey) now, hlatest, by rw [hdb'], rfl, rfl, rfl,
        hsubject.symm, hbody.symm⟩, fun s' hs => ?_⟩
      have hnew : enqueueBusinessMail newId recipientId failed.purpose subject body scope
          (some todoId) (some operationKey) now ∈ db'.outbox := by
        rw [hdb']
        exact List.mem_cons_self
      obtain ⟨hsame, hfor⟩ := step_retryFailedMail hevent hnew rfl hs
      have hused : UsedUp todoId s' := by
        refine ⟨⟨newId, hfor⟩, fun later hlater hlaterId => ?_⟩
        rw [hsame, hdb'] at hlater
        rcases Table.mem_update.1 hlater with ⟨_, -, -, rfl⟩ | ⟨-, hother⟩
        · rfl
        · simp [hlaterId] at hother
      refine ⟨hsame, fun events s'' hrun later hlater hlaterId => ?_⟩
      have hflag := (hused.run hrun).used later hlater hlaterId
      exact ⟨hflag, by simp [todoData, hflag]⟩
    · intro e he
      cases he
  · obtain ⟨e, hexec⟩ := Recipient.retryFailedMail_refused hkeys hfind hnone hfresh hgood
    rw [hexec] at hrun
    cases hrun
    refine ⟨⟨fun hok => ?_, fun hgood' => absurd hgood' hgood⟩, fun t ht => ?_, fun _ _ => rfl⟩
    · obtain ⟨t, ht⟩ := hok
      cases ht
    · cases ht

/-- The first mail of the run has failed for good. -/
def givenUp : MailSystem :=
  ((mailSystem .withoutCipher).run (.initial maintainedWorkspace) (acceptedRetry.take 30)).getD
    (.initial maintainedWorkspace)

/-- The retry fails for good as well. -/
def retryFails : List Event :=
  List.replicate 8 (dispatch 1100 103) ++ [.dispatcher 0 (.smtp .smtpException), dispatch 1100 103] ++
    List.replicate 8 (dispatch 1400 104) ++
    [.dispatcher 0 (.smtp .smtpException), dispatch 1400 104] ++
    List.replicate 8 (dispatch 2000 105) ++ [.dispatcher 0 (.smtp .smtpException), dispatch 2000 105]

/-- The run from the request to that. -/
def givenUpTwice : MailSystem :=
  ((mailSystem .withoutCipher).run givenUp
    (.retryFailedMail 1000 2 7 30 "again" :: retryFails)).getD givenUp

/-- The maintainer owns the workspace, and the issue is open. The retry is permitted, its mail fails
too, and that is the end of it. -/
theorem retry_offered_iff_givenUp :
    (todoData givenUp.db issueOpenedTodo).mailStatus = some .failed ∧
      (∃ db' t, (Recipient.retryFailedMail 1000 2 7 30 "again").exec givenUp.db = (db', .ok t) ∧
        t ∈ db'.todos ∧ t.retryUsed = true) ∧
      givenUpTwice.db.outbox.map (·.status) = [.failed, .failed] ∧
      ∀ later ∈ givenUpTwice.db.todos, later.id = 30 →
        (todoData givenUpTwice.db later).canRetryMail = false := by
  have hfind : Recipient.findTodo 7 30 givenUp.db = some issueOpenedTodo := by decide +kernel
  have hnone : Recipient.findRetry 30 "again" givenUp.db = none := by decide +kernel
  have hfresh : ∀ r ∈ givenUp.db.outbox, r.id ≠ 2 := by decide +kernel
  have hoffer := retry_offered_iff .withoutCipher
    ⟨.initial maintainedWorkspace, acceptedRetry.take 30, MailSystem.initial_init .withoutCipher _,
      rfl⟩ ⟨by decide +kernel, by decide +kernel⟩ hfind hnone 1000 hfresh rfl
  obtain ⟨t, ht⟩ := hoffer.1.2 ⟨by decide +kernel, by decide +kernel,
    ⟨2, "games", none, 7, 1, none, none, none, none, none⟩, by decide +kernel, rfl⟩
  obtain ⟨⟨hstored, hflag⟩, -, hnever⟩ := hoffer.2.1 t ht
  refine ⟨by decide +kernel, ⟨_, t, Prod.ext rfl ht, hstored, by rw [hflag]⟩, by decide +kernel,
    fun later hlater hid => ?_⟩
  exact ((hnever _ rfl).2 retryFails givenUpTwice rfl later hlater hid).2

end Notifications

end Rulefolio
