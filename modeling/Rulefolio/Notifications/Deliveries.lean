import Rulefolio.Notifications.Outcomes

/-!
# A notification is delivered once

The recipient of a todo may have its failed mail sent once more, which adds a second row to the
outbox. The double-send guarantee is about one row; here it is carried over to the todo. A retry is
only permitted after a mail that has failed, a failed mail stays failed, and a status is true
(`Notifications.Outcomes`), so of all the attempts for a todo at most one did not fail explicitly.
An explicit failure is one for the dispatcher. A server that takes a mail and then refuses the
`QUIT` makes it send the mail again, so what is delivered once is delivered once by servers that do
not do that.

## Main definitions

* `RetryInv` — what the outbox and the todos say of retries.
* `notFailed`, `delivered` — the attempts for a todo that did not fail explicitly, and those whose
  mail the server took.

## Main results

* `delivered_at_most_once` — there is at most one, and at most one mail was taken by a server that
  then accepted the `QUIT`.
-/

namespace Rulefolio

namespace Notifications

variable {settings : Settings} {s s' : MailSystem}

/-! ## The invariant of retries -/

/-- What the outbox and the todos say of retries. -/
structure RetryInv (s : MailSystem) : Prop where
  recorded : ∀ r ∈ s.db.outbox, ∀ t, r.todoId = some t → (r.id, t) ∈ s.enqueuedFor
  /-- Before the retry a todo has one mail. -/
  once : ∀ todo ∈ s.db.todos, todo.retryUsed = false → ∀ o o', (o, todo.id) ∈ s.enqueuedFor →
    (o', todo.id) ∈ s.enqueuedFor → o = o'
  /-- Of two mails of a todo one has failed for good. -/
  replaced : ∀ t o o', (o, t) ∈ s.enqueuedFor → (o', t) ∈ s.enqueuedFor → o ≠ o' →
    (∀ r ∈ s.db.outbox, r.id = o → r.status = .failed) ∨
      ∀ r ∈ s.db.outbox, r.id = o' → r.status = .failed

/-- A failed mail stays failed. -/
theorem Becomes.failed_of_failed {r r' : MailOutbox} (hb : Becomes s r r')
    (h : r.status = .failed) : r'.status = .failed := by
  have hnot : ∀ claim, holds claim r = true → False := by
    intro claim hold
    have hsending := (holds_iff.1 hold).2.1
    rw [h] at hsending
    cases hsending
  cases hb with
  | kept hsame => exact hsame.trans h
  | claimed hpending => simp [h] at hpending
  | dropped hqueued => simp [MailOutbox.unstarted, h] at hqueued
  | doubted hdoubt => simp [h] at hdoubt
  | refused _ hold | accepted _ hold | failed _ hold => exact (hnot _ hold).elim

/-- What a step makes of the todos, unless it permits a retry: those that are left keep their
identifier and their retry. -/
def TodosStep (s s' : MailSystem) : Prop :=
  ∀ todo' ∈ s'.db.todos, ∃ todo ∈ s.db.todos, todo'.id = todo.id ∧
    todo'.retryUsed = todo.retryUsed

theorem TodosStep.refl (h : s'.db.todos = s.db.todos) : TodosStep s s' :=
  fun todo hmem => ⟨todo, h ▸ hmem, rfl, rfl⟩

theorem exists_of_apply_todos {v : Verdict} {now : Timestamp} {todoId : Uuid} {db : Database}
    {todo' : NotificationTodo} (h : todo' ∈ (v.apply now todoId db).todos) :
    ∃ todo ∈ db.todos, todo'.id = todo.id ∧ todo'.retryUsed = todo.retryUsed := by
  cases v with
  | completed | cancelled =>
    rcases Table.mem_update.1 h with ⟨todo, hmem, -, rfl⟩ | ⟨hmem, -⟩
    · exact ⟨todo, hmem, rfl, rfl⟩
    · exact ⟨todo', hmem, rfl, rfl⟩
  | deleted => exact ⟨todo', (Table.mem_delete.1 h).1, rfl, rfl⟩

theorem EndingTransaction.todosStep_publish (t : EndingTransaction) {db : Database}
    {todo' : NotificationTodo} (h : todo' ∈ (t.publish db).todos) :
    ∃ todo ∈ db.todos, todo'.id = todo.id ∧ todo'.retryUsed = todo.retryUsed := by
  have hview : ∀ {db : Database}, todo' ∈ (t.view db).todos →
      ∃ todo ∈ db.todos, todo'.id = todo.id ∧ todo'.retryUsed = todo.retryUsed := by
    unfold EndingTransaction.view
    generalize t.ended = ended
    intro db h
    induction ended generalizing db with
    | nil => exact ⟨todo', h, rfl, rfl⟩
    | cons e es ih =>
      obtain ⟨todo₁, h₁, hid₁, hused₁⟩ := ih h
      obtain ⟨todo, hmem, hid, hused⟩ := exists_of_apply_todos h₁
      exact ⟨todo, hmem, hid₁.trans hid, hused₁.trans hused⟩
  have hall := hview h
  exact hall

/-- A step that enqueues nothing for a todo. -/
theorem RetryInv.keeps (h : RetryInv s) (hfor : s'.enqueuedFor = s.enqueuedFor)
    (htodos : TodosStep s s')
    (hrows : ∀ r' ∈ s'.db.outbox,
      (r'.todoId = none ∧ ∀ t, (r'.id, t) ∉ s.enqueuedFor) ∨
        ∃ r ∈ s.db.outbox, r'.id = r.id ∧ (r'.todoId = r.todoId ∨ r'.todoId = none) ∧
          (r.status = .failed → r'.status = .failed)) : RetryInv s' := by
  have hfailed : ∀ o t, (o, t) ∈ s.enqueuedFor →
      (∀ r ∈ s.db.outbox, r.id = o → r.status = .failed) →
      ∀ r ∈ s'.db.outbox, r.id = o → r.status = .failed := by
    intro o t hot hall r' hr' hid
    rcases hrows r' hr' with ⟨-, hfresh⟩ | ⟨r, hr, hsame, -, hkeeps⟩
    · exact absurd (hid ▸ hot) (hfresh t)
    · exact hkeeps (hall r hr (hsame.symm.trans hid))
  refine ⟨fun r' hr' t ht => ?_, fun todo' htodo' hused o o' ho ho' => ?_,
    fun t o o' ho ho' hne => ?_⟩
  · rw [hfor]
    rcases hrows r' hr' with ⟨hnone, -⟩ | ⟨r, hr, hid, hsame | hnone, -⟩
    · rw [hnone] at ht
      cases ht
    · rw [hid]
      exact h.recorded r hr t (hsame.symm.trans ht)
    · rw [hnone] at ht
      cases ht
  · rw [hfor] at ho ho'
    obtain ⟨todo, htodo, hid, hsame⟩ := htodos todo' htodo'
    rw [hid] at ho ho'
    exact h.once todo htodo (hsame.symm.trans hused) o o' ho ho'
  · rw [hfor] at ho ho'
    rcases h.replaced t o o' ho ho' hne with hall | hall
    · exact .inl (hfailed o t ho hall)
    · exact .inr (hfailed o' t ho' hall)

/-- The same, of a step that adds no row. -/
theorem RetryInv.rows (h : RetryInv s) (hrows : RowsStep s s'.db.outbox)
    (hids : s'.db.outbox.map (·.id) = s.db.outbox.map (·.id))
    (hfor : s'.enqueuedFor = s.enqueuedFor) (htodos : TodosStep s s') : RetryInv s' := by
  refine h.keeps hfor htodos fun r' hr' => .inr ?_
  rcases hrows.rows r' hr' with ⟨hfresh, -⟩ | ⟨r, hr, hid, htodo, rfl | ⟨-, hb⟩⟩
  · exact absurd (hids ▸ List.mem_map_of_mem hr') hfresh
  · exact ⟨r', hr, rfl, .inl rfl, id⟩
  · exact ⟨r, hr, hid, .inl htodo, hb.failed_of_failed⟩

/-- The first mail of a new todo. -/
theorem RetryInv.first (h : RetryInv s) {todo : NotificationTodo} {r : MailOutbox}
    (hfreshTodo : ∀ o, (o, todo.id) ∉ s.enqueuedFor) (hfresh : ∀ t, (r.id, t) ∉ s.enqueuedFor)
    (hr : r.todoId = some todo.id) (htodos : s'.db.todos = todo :: s.db.todos)
    (houtbox : s'.db.outbox = r :: s.db.outbox)
    (hfor : s'.enqueuedFor = (r.id, todo.id) :: s.enqueuedFor) : RetryInv s' := by
  have hold : ∀ o t, (o, t) ∈ s.enqueuedFor → o ≠ r.id ∧ t ≠ todo.id := fun o t hot =>
    ⟨fun he => hfresh t (he ▸ hot), fun he => hfreshTodo o (he ▸ hot)⟩
  have hpair : ∀ o t, (o, t) ∈ s'.enqueuedFor → (o = r.id ∧ t = todo.id) ∨
      (o, t) ∈ s.enqueuedFor := by
    intro o t hot
    rw [hfor] at hot
    rcases List.mem_cons.1 hot with he | hot
    · exact .inl (Prod.mk.inj he)
    · exact .inr hot
  refine ⟨fun q hq t ht => ?_, fun q hq hused o o' ho ho' => ?_, fun t o o' ho ho' hne => ?_⟩
  · rw [hfor]
    rw [houtbox] at hq
    rcases List.mem_cons.1 hq with rfl | hq
    · rw [Option.some.inj (ht.symm.trans hr)]
      exact List.mem_cons_self
    · exact List.mem_cons_of_mem _ (h.recorded q hq t ht)
  · rcases hpair o q.id ho with ⟨ho, hq'⟩ | hot
    · rcases hpair o' q.id ho' with ⟨ho', -⟩ | hot'
      · exact ho.trans ho'.symm
      · exact absurd hq' (hold _ _ hot').2
    · rcases hpair o' q.id ho' with ⟨-, hq'⟩ | hot'
      · exact absurd hq' (hold _ _ hot).2
      · rw [htodos] at hq
        rcases List.mem_cons.1 hq with rfl | hq
        · exact absurd rfl (hold _ _ hot).2
        · exact h.once q hq hused o o' hot hot'
  · rcases hpair o t ho with ⟨ho, ht⟩ | hot
    · rcases hpair o' t ho' with ⟨ho', -⟩ | hot'
      · exact absurd (ho.trans ho'.symm) hne
      · exact absurd ht (hold _ _ hot').2
    · rcases hpair o' t ho' with ⟨-, ht⟩ | hot'
      · exact absurd ht (hold _ _ hot).2
      · rw [houtbox]
        refine (h.replaced t o o' hot hot' hne).imp ?_ ?_
        · rintro hall q hq rfl
          rcases List.mem_cons.1 hq with rfl | hq
          · exact absurd rfl (hold _ _ hot).1
          · exact hall q hq rfl
        · rintro hall q hq rfl
          rcases List.mem_cons.1 hq with rfl | hq
          · exact absurd rfl (hold _ _ hot').1
          · exact hall q hq rfl

/-- What the code checks before it permits a retry: the latest mail of the todo has failed, and none
has been retried. -/
theorem retryFailedMail_permits {db db' : Database} {now : Timestamp}
    {newId recipientId todoId : Uuid} {key : String}
    (h : retryFailedMail db now newId recipientId todoId key = .ok db') :
    db' = db ∨ ∃ todo ∈ db.todos, ∃ r : MailOutbox, todo.id = todoId ∧ r.id = newId ∧
      r.todoId = some todo.id ∧ todo.retryUsed = false ∧
      (∃ q ∈ db.outbox, q.todoId = some todo.id ∧ q.status = .failed) ∧ db' = { db with
        todos := Table.update (·.id == todo.id) (fun t => { t with retryUsed := true }) db.todos
        outbox := r :: db.outbox } := by
  unfold retryFailedMail at h
  split at h
  · rename_i todo htodo
    have hid : todo.id = todoId := by
      have := List.find?_some htodo
      simp only [Bool.and_eq_true, beq_iff_eq] at this
      exact this.1
    simp only [bind, Except.bind, pure, Except.pure, throw, throwThe, MonadExceptOf.throw] at h
    split at h
    · cases h
      exact .inl rfl
    split at h
    · cases h
    split at h
    · cases h
    split at h
    · cases h
    rename_i hused
    split at h
    · cases h
    split at h
    · rename_i q hq
      split at h
      · split at h
        · cases h
        · rename_i hfailed
          cases h
          have hmem := List.argmax_mem hq
          rw [List.mem_filter] at hmem
          have hunused : todo.retryUsed = false := by simpa using hused
          have hown : q.todoId = some todo.id := by simpa using hmem.2
          refine .inr ⟨todo, List.mem_of_find?_eq_some htodo, _, hid, rfl, rfl, hunused,
            ⟨q, hmem.1, hown, ?_⟩, rfl⟩
          rw [not_or] at hfailed
          exact not_not.1 hfailed.1
      · cases h
    · cases h
  · cases h

/-- A dispatcher adds no row. -/
theorem ActStep.map_id {t : MailSystem} {action : Action} {phase phase' : Phase}
    (h : ActStep settings s action phase t phase') :
    t.db.outbox.map (·.id) = s.db.outbox.map (·.id) := by
  cases h with
  | read | sent | crash => rfl
  | stop hkeeps => exact hkeeps.quiet.map_id
  | claim _ hc =>
    obtain ⟨r, -, -, rfl, rfl⟩ := claimNext_spec hc
    exact Table.map_update _ fun _ _ => rfl
  | start _ => exact (startSmtp_quiet ..).map_id
  | requeue _ _ => exact Table.map_update _ fun _ _ => by dsimp only; split <;> rfl

/-- A dispatcher touches no todo. -/
theorem ActStep.todos {t : MailSystem} {action : Action} {phase phase' : Phase}
    (h : ActStep settings s action phase t phase') : t.db.todos = s.db.todos := by
  cases h <;> rfl

theorem ActStep.enqueuedFor {t : MailSystem} {action : Action} {phase phase' : Phase}
    (h : ActStep settings s action phase t phase') : t.enqueuedFor = s.enqueuedFor := by
  cases h <;> rfl

/-- A permitted retry. -/
theorem RetryInv.retried (h : RetryInv s) (hI : Inv settings s) {todo : NotificationTodo}
    {r q : MailOutbox} (hfresh : freshOutbox s r.id = true) (hr : r.todoId = some todo.id)
    (hmem : todo ∈ s.db.todos) (hused : todo.retryUsed = false) (hq : q ∈ s.db.outbox)
    (hqtodo : q.todoId = some todo.id) (hfailed : q.status = .failed)
    (htodos : s'.db.todos =
      Table.update (·.id == todo.id) (fun t => { t with retryUsed := true }) s.db.todos)
    (houtbox : s'.db.outbox = r :: s.db.outbox)
    (hfor : s'.enqueuedFor = (r.id, todo.id) :: s.enqueuedFor) : RetryInv s' := by
  have hold : ∀ o t, (o, t) ∈ s.enqueuedFor → o ≠ r.id := fun o t hot he =>
    not_enqueued_of_freshOutbox hfresh t (he ▸ hot)
  have hpair : ∀ o t, (o, t) ∈ s'.enqueuedFor → (o = r.id ∧ t = todo.id) ∨
      (o, t) ∈ s.enqueuedFor := by
    intro o t hot
    rw [hfor] at hot
    rcases List.mem_cons.1 hot with he | hot
    · exact .inl (Prod.mk.inj he)
    · exact .inr hot
  -- Every mail the todo has had is the one that failed.
  have hqfailed : ∀ o, (o, todo.id) ∈ s.enqueuedFor →
      ∀ p ∈ s'.db.outbox, p.id = o → p.status = .failed := by
    rintro o hot p hp rfl
    have hqp : p.id = q.id :=
      h.once todo hmem hused p.id q.id hot (h.recorded q hq todo.id hqtodo)
    rw [houtbox] at hp
    rcases List.mem_cons.1 hp with rfl | hp
    · exact absurd rfl (hold _ _ hot)
    · rw [hI.row_unique hq hp hqp]
      exact hfailed
  have hstill : ∀ o t, (o, t) ∈ s.enqueuedFor →
      (∀ p ∈ s.db.outbox, p.id = o → p.status = .failed) →
      ∀ p ∈ s'.db.outbox, p.id = o → p.status = .failed := by
    rintro o t hot hall p hp rfl
    rw [houtbox] at hp
    rcases List.mem_cons.1 hp with rfl | hp
    · exact absurd rfl (hold _ _ hot)
    · exact hall p hp rfl
  refine ⟨fun p hp t ht => ?_, fun p hp hunused o o' ho ho' => ?_, fun t o o' ho ho' hne => ?_⟩
  · rw [hfor]
    rw [houtbox] at hp
    rcases List.mem_cons.1 hp with rfl | hp
    · rw [Option.some.inj (ht.symm.trans hr)]
      exact List.mem_cons_self
    · exact List.mem_cons_of_mem _ (h.recorded p hp t ht)
  · rw [htodos] at hp
    rcases Table.mem_update.1 hp with ⟨p, -, -, rfl⟩ | ⟨hp, hother⟩
    · cases hunused
    · have hpt : p.id ≠ todo.id := by simpa using hother
      rcases hpair o p.id ho with ⟨-, he⟩ | hot
      · exact absurd he hpt
      · rcases hpair o' p.id ho' with ⟨-, he⟩ | hot'
        · exact absurd he hpt
        · exact h.once p hp hunused o o' hot hot'
  · rcases hpair o t ho with ⟨hr, rfl⟩ | hot
    · rcases hpair o' todo.id ho' with ⟨hr', -⟩ | hot'
      · exact absurd (hr.trans hr'.symm) hne
      · exact .inr (hqfailed o' hot')
    · rcases hpair o' t ho' with ⟨-, rfl⟩ | hot'
      · exact .inl (hqfailed o hot)
      · exact (h.replaced t o o' hot hot' hne).imp (hstill o t hot) (hstill o' t hot')

theorem RetryInv.commit (h : RetryInv s) (hlocks : LocksInv s) {k : ℕ}
    {t : EndingTransaction} (ht : s.transactions[k]? = some t) :
    RetryInv ({ s with db := t.publish s.db }.setTransaction k .idle) := by
  refine h.keeps rfl (fun todo' hmem => t.todosStep_publish hmem) fun r' hr' => .inr ?_
  obtain ⟨r, hr, hid, htodo, ⟨hstopped, -⟩ | ⟨-, hsame, -⟩⟩ := t.exists_of_publish hr'
  · refine ⟨r, hr, hid, htodo, fun hfailed => ?_⟩
    have hqueued := hlocks.queued t (List.mem_of_getElem? ht) r hr hstopped
    simp [MailOutbox.unstarted, hfailed] at hqueued
  · exact ⟨r, hr, hid, htodo, fun hfailed => hsame.trans hfailed⟩

theorem RetryInv.step {e : Event} (h : RetryInv s) (hI : Inv settings s) (hlocks : LocksInv s)
    (hs : step settings s e = some s') : RetryInv s' := by
  have hspec := step_spec hs
  by_cases hcommit : ∃ k, e = .commitEnding k
  · obtain ⟨k, rfl⟩ := hcommit
    obtain ⟨t, hk, ht⟩ := Option.bind_eq_some_iff.1 hs
    rw [commitEnding.eq_def] at ht
    split at ht <;> cases ht
    exact h.commit hlocks hk
  have hrows := rows_of_step hI hs fun k he => hcommit ⟨k, he⟩
  cases e with
  | commitEnding k => exact absurd ⟨k, rfl⟩ hcommit
  | createTodo now todo mailId mail =>
    simp only [Notifications.step, MailSystem.createTodo] at hs
    split at hs <;> cases hs
    rename_i hg
    simp only [Bool.and_eq_true, freshTodo, List.all_eq_true, bne_iff_ne] at hg
    have hfresh := not_enqueued_of_freshOutbox hg.1.2
    have htodo : (mail.row settings mailId (some todo.id) now).todoId = some (newTodo todo).id :=
      NewMail.row_todoId ..
    have hnew : ∀ o, (o, (newTodo todo).id) ∉ s.enqueuedFor := fun o hot =>
      hg.1.1.1.2 (o, todo.id) hot rfl
    refine h.first hnew (fun t => ?_) htodo rfl rfl ?_
    · rw [NewMail.row_id]
      exact hfresh t
    · rw [NewMail.row_id]
      rfl
  | enqueue now mailId mail =>
    simp only [Notifications.step, enqueue] at hs
    split at hs <;> cases hs
    rename_i hg
    refine h.keeps rfl (.refl rfl) fun r hr => ?_
    rcases List.mem_cons.1 hr with rfl | hr
    · refine .inl ⟨NewMail.row_todoId .., fun t => ?_⟩
      rw [NewMail.row_id]
      exact not_enqueued_of_freshOutbox hg t
    · exact .inr ⟨r, hr, rfl, .inl rfl, id⟩
  | retryFailedMail now newId recipientId todoId key =>
    simp only [Notifications.step, retry] at hs
    split at hs
    · rename_i hg
      simp only [Bool.and_eq_true] at hg
      split at hs
      · cases hs
        exact h
      · rename_i db hdb
        rcases retryFailedMail_permits hdb with rfl | ⟨todo, hmem, r, rfl, rfl, hr, hused,
          ⟨q, hq, hqtodo, hfailed⟩, rfl⟩
        · split at hs
          · rename_i hany
            obtain ⟨q, hq, hid⟩ := List.any_eq_true.1 hany
            have hold := List.mem_map_of_mem (f := (·.id)) hq
            rw [beq_iff_eq.1 hid] at hold
            exact absurd hold (not_mem_of_freshOutbox hg.1)
          · cases hs
            exact h
        · split at hs <;> cases hs
          · exact h.retried hI hg.1 hr hmem hused hq hqtodo hfailed rfl rfl rfl
          · rename_i hany
            simp at hany
    · cases hs
  | dispatcher i action =>
    obtain ⟨⟨t, pc⟩, ht, rfl⟩ := Option.map_eq_some_iff.1 hs
    have hact := act_spec ht
    have hrows' : RowsStep s t.db.outbox := hrows
    suffices hall : RetryInv t from ⟨hall.recorded, hall.once, hall.replaced⟩
    exact h.rows hrows' hact.map_id hact.enqueuedFor (.refl hact.todos)
  | recoverStale stage now locked =>
    cases hs
    exact h.rows hrows (recoverStaleDispatches_quiet ..).map_id rfl (.refl rfl)
  | connect | rollbackEnding k | other db =>
    cases hs
    exact h.rows hrows rfl rfl (.refl rfl)
  | endTodos k ending now =>
    obtain ⟨t, -, ht⟩ := Option.bind_eq_some_iff.1 hs
    simp only [MailSystem.endTodos] at ht
    split at ht <;> cases ht
    exact h.rows hrows rfl rfl (.refl rfl)
  | stopMail k =>
    obtain ⟨t, -, ht⟩ := Option.bind_eq_some_iff.1 hs
    rw [Notifications.stopMail.eq_def] at ht
    split at ht
    · cases ht
    · split at ht <;> cases ht
      exact h.rows hrows rfl rfl (.refl rfl)
  | suppressForRestrictedRecovery =>
    have hs' := statement_eq_some hs
    subst hs'
    exact h.rows hrows (suppressForRestrictedRecovery_quiet _).map_id rfl (.refl rfl)
  | suppressBusinessMails scope =>
    have hs' := statement_eq_some hs
    subst hs'
    exact h.rows hrows (suppressBusinessMails_quiet scope _).map_id rfl (.refl rfl)
  | clearOutboxEnvelopes ids =>
    have hs' := statement_eq_some hs
    subst hs'
    exact h.rows hrows (clearOutboxEnvelopes_quiet ids _).map_id rfl (.refl rfl)

theorem retry_inductive (settings : Settings) :
    (mailSystem settings).Inductive fun s => Faithful settings s ∧ RetryInv s where
  init s hs := by
    refine ⟨(faithful_inductive settings).init s hs, ?_⟩
    obtain ⟨ht, ho, -, -, -, -, hfor⟩ := hs
    exact ⟨by simp [ho], by simp [ht], by simp [hfor]⟩
  step s e s' h hs :=
    ⟨(faithful_inductive settings).step s e s' h.1 hs, h.2.step h.1.inv h.1.locks hs⟩

/-- The attempts to send the mails that were enqueued for a todo, its first one and the retry, that
did not fail explicitly. -/
def notFailed (s : MailSystem) (todoId : Uuid) : List Attempt :=
  s.attempts.filter fun a =>
    a.outcome != .failed && s.enqueuedFor.contains (a.outboxId, todoId)

/-- Those whose mail the server took. -/
def delivered (server : Uuid → SmtpDialogue) (s : MailSystem) (todoId : Uuid) : List Attempt :=
  s.attempts.filter fun a =>
    (server a.claimId).taken && s.enqueuedFor.contains (a.outboxId, todoId)

/-- Two attempts for one todo that did not fail are the same. -/
theorem eq_of_notFailed (h : Faithful settings s) (hretry : RetryInv s) {t : Uuid}
    {a b : Attempt} (ha : a ∈ notFailed s t) (hb : b ∈ notFailed s t) : a = b := by
  simp only [notFailed, List.mem_filter, Bool.and_eq_true, bne_iff_ne,
    List.contains_iff_mem] at ha hb
  obtain ⟨ha, hfa, hta⟩ := ha
  obtain ⟨hb, hfb, htb⟩ := hb
  by_cases hrow : a.outboxId = b.outboxId
  · exact h.inv.eq_of_not_failed ha hb hrow hfa hfb
  · rcases hretry.replaced t _ _ hta htb hrow with hall | hall
    · obtain ⟨r, hr, hid⟩ := List.mem_map.1 (h.inv.attemptRow a ha)
      exact absurd (h.truth.undelivered r hr (.inl (hall r hr hid)) a ha hid.symm) hfa
    · obtain ⟨r, hr, hid⟩ := List.mem_map.1 (h.inv.attemptRow b hb)
      exact absurd (h.truth.undelivered r hr (.inl (hall r hr hid)) b hb hid.symm) hfb

theorem notFailed_length_le (h : Faithful settings s) (hretry : RetryInv s) (todoId : Uuid) :
    (notFailed s todoId).length ≤ 1 := by
  have hnodup : (notFailed s todoId).Nodup :=
    (List.Nodup.of_map _ h.inv.attemptClaims).filter _
  cases hall : notFailed s todoId with
  | nil => exact Nat.zero_le 1
  | cons a rest =>
    cases rest with
    | nil => exact le_rfl
    | cons b rest =>
      have hab : a = b := eq_of_notFailed h hretry
        (hall ▸ List.mem_cons_self) (hall ▸ List.mem_cons_of_mem _ List.mem_cons_self)
      rw [hall, hab] at hnodup
      exact absurd List.mem_cons_self (List.nodup_cons.1 hnodup).1

/-- What a server took and let go did not fail. -/
theorem Recorded.delivered_le {server : Uuid → SmtpDialogue} (h : Recorded server s)
    (todoId : Uuid) :
    (delivered server s todoId).countP (fun a => !(server a.claimId).quitRefused) ≤
      (notFailed s todoId).length := by
  rw [delivered, notFailed, List.countP_filter, ← List.countP_eq_length_filter]
  refine List.countP_mono_left fun a ha hgone => ?_
  simp only [Bool.and_eq_true, Bool.not_eq_true', bne_iff_ne] at hgone ⊢
  obtain ⟨hquit, htaken, hfor⟩ := hgone
  refine ⟨fun hfailed => ?_, hfor⟩
  rw [h.quitRefused ha hfailed htaken] at hquit
  cases hquit

/-- **A notification is delivered at most once**, its retry included: of all attempts ever made to
send the mails of a todo, whichever dispatchers made them, at most one did not fail explicitly, and
the server took at most one of these mails, not counting those after which it refused the `QUIT`. -/
theorem delivered_at_most_once (settings : Settings) (server : Uuid → SmtpDialogue)
    {s : MailSystem} (h : (mailSystem settings).Reachable s) (hserver : Recorded server s)
    (todoId : Uuid) :
    (notFailed s todoId).length ≤ 1 ∧
      (delivered server s todoId).countP (fun a => !(server a.claimId).quitRefused) ≤ 1 := by
  obtain ⟨hfaithful, hretry⟩ := (retry_inductive settings).of_reachable h
  have hone := notFailed_length_le hfaithful hretry todoId
  exact ⟨hone, (hserver.delivered_le todoId).trans hone⟩

/-- The first mail fails three times and for good; its retry is accepted. -/
def acceptedRetry : List Event :=
  upToFirstSend ++ [dispatch 20 100, .dispatcher 0 (.smtp .smtpException), dispatch 20 100] ++
    List.replicate 8 (dispatch 300 101) ++
    [.dispatcher 0 (.smtp .smtpException), dispatch 300 101] ++
    List.replicate 8 (dispatch 900 102) ++
    [.dispatcher 0 (.smtp .smtpException), dispatch 900 102,
      .retryFailedMail 1000 2 7 30 "again"] ++
    List.replicate 8 (dispatch 1100 103) ++ [.dispatcher 0 (.smtp .returned)]

/-- The maintained work in a workspace that takes changes. -/
def maintainedWorkspace : Database :=
  { maintainedWork with workspaces := [⟨2, "games", none, 7, 1, none, none, none, none, none⟩] }

/-- The state after the retry. -/
def retriedState : MailSystem :=
  ((mailSystem .withoutCipher).run (.initial maintainedWorkspace) acceptedRetry).getD
    (.initial maintainedWorkspace)

/-- The server takes the first mail and the retry, and refuses the first `QUIT`. -/
def serverOfRun (claimId : Uuid) : SmtpDialogue where
  body := if claimId = 100 ∨ claimId = 103 then .returned else .smtpException
  taken := claimId = 100 ∨ claimId = 103
  quitRefused := claimId = 100
  taken_of_returned h := by
    split at h
    · exact decide_eq_true ‹_›
    · cases h
  not_taken_of_smtpException h := by
    split at h
    · cases h
    · exact decide_eq_false ‹_›

/-- Two mails and four attempts. One attempt did not fail, and the server took two mails: after the
first it refused the `QUIT`. -/
theorem delivered_at_most_once_acceptedRetry :
    retriedState.attempts.map (·.outcome) = [.accepted, .failed, .failed, .failed] ∧
      (delivered serverOfRun retriedState 30).length = 2 ∧
      (notFailed retriedState 30).length ≤ 1 ∧
      (delivered serverOfRun retriedState 30).countP
        (fun a => !(serverOfRun a.claimId).quitRefused) ≤ 1 := by
  have hrecorded : Recorded serverOfRun retriedState := by
    unfold Recorded
    decide +kernel
  exact ⟨by decide +kernel, by decide +kernel, delivered_at_most_once .withoutCipher serverOfRun
    ⟨.initial maintainedWorkspace, acceptedRetry, MailSystem.initial_init .withoutCipher _, rfl⟩
    hrecorded 30⟩

end Notifications

end Rulefolio
