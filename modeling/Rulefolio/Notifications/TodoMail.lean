import Rulefolio.Notifications.NoDoubleSend

/-!
# Todo mail and the reason it was written for

A mail that was enqueued for a todo should not be sent once the todo is completed, cancelled or
deleted. Two mechanisms work towards that. Every transaction that ends a todo calls
`_stop_todo_mail`, which takes the todo's mails out of the queue unless an SMTP attempt is in
progress; and `_start_smtp` requires that the todo of the row, if it has one, is open.

For completion and cancellation the second mechanism is enough. For deletion it is not, because
the deletion sets `mail_outbox.todo_id` to `NULL` and a row without a todo may always be sent. So
there everything depends on the row being out of the queue when the todo is deleted, and staying
out. Exactly one step breaks that: an attempt that was in progress when `_stop_todo_mail` ran fails
explicitly, and `_mark_failed` puts the row back into the queue (`requeuesDeleted`). The run
`sentAfterDeletion` shows what follows.

## Main definitions

* `requeuesDeleted` — the step that goes wrong.
* `TodoInv` — the invariant of the runs without it.

## Main results

* `sentAfterDeletion_starts` — a mail is sent for a todo that no longer exists.
* `todo_mail_only_while_open` — without that step, a mail enqueued for a todo is only ever sent
  while the todo is open.
-/

namespace Rulefolio

namespace Notifications

/-! ## The step that goes wrong -/

/-- A todo of this identifier is open. -/
def TodoOpen (s : MailSystem) (todoId : Uuid) : Prop :=
  ∃ todo ∈ s.db.todos, todo.id = todoId ∧ todo.status = .opened

/-- Some open transaction is going to delete the todo and has already stopped its mail. -/
def deletionStopped (s : MailSystem) (todoId : Uuid) : Bool :=
  s.transactions.any fun t =>
    t.ended.any (fun e => e.todoId == todoId && e.verdict == .deleted) &&
      !t.pendingStops.contains todoId

/-- The todo has been deleted, or its deletion has got past `_stop_todo_mail`. -/
def beyondDeletion (s : MailSystem) (todoId : Uuid) : Bool :=
  s.db.todos.all (·.id != todoId) || deletionStopped s todoId

/-- `_mark_failed` puts a row back into the queue although the todo it was enqueued for has been
deleted, or is being deleted with its mail already stopped. -/
def requeuesDeleted (settings : Settings) (s : MailSystem) : Event → Bool
  | .dispatcher i (.advance _ _ _) =>
    match s.dispatchers i with
    | .sent claim .smtpException =>
      claim.attemptCount < settings.mailMaxAttempts && s.db.outbox.any fun r =>
        holds claim r && s.enqueuedFor.any fun p => p.1 == r.id && beyondDeletion s p.2
    | _ => false
  | _ => false

/-! ## The invariant of the runs without it -/

/-- Every row keeps its identifier and its todo, and none is put back into the queue. -/
def StaysOut (t t' : List MailOutbox) : Prop :=
  ∀ r' ∈ t', ∃ r ∈ t, r'.id = r.id ∧ r'.todoId = r.todoId ∧
    (r'.unstarted = true → r.unstarted = true)

theorem StaysOut.refl (t : List MailOutbox) : StaysOut t t := fun r hr => ⟨r, hr, rfl, rfl, id⟩

theorem KeepsTodo.staysOut {t t' : List MailOutbox} (h : KeepsTodo t t') : StaysOut t t' := by
  obtain ⟨⟨f, rfl, hf⟩, hid⟩ := h
  rw [List.map_map] at hid
  intro r' hr'
  obtain ⟨r, hr, rfl⟩ := List.mem_map.1 hr'
  exact ⟨r, hr, (hf r).id, List.map_inj_left.1 hid r hr, (hf r).unstarted⟩

theorem claimNext_staysOut {settings : Settings} {s : MailSystem} (h : Inv settings s)
    {now : Timestamp} {locked : List Uuid} {claimId : Uuid} {claim : DispatchClaim}
    {outbox : List MailOutbox}
    (hc : claimNext now locked claimId s.db.outbox = some (claim, outbox)) :
    StaysOut s.db.outbox outbox := by
  obtain ⟨r, hr, hdue, rfl, rfl⟩ := claimNext_spec hc
  intro q hq
  rcases Table.mem_update.1 hq with ⟨q₀, hq₀, hid, rfl⟩ | ⟨hq, -⟩
  · refine ⟨q₀, hq₀, rfl, rfl, fun _ => ?_⟩
    rw [h.row_unique hr hq₀ (by simpa using hid)]
    simp only [isDue, Bool.and_eq_true, beq_iff_eq] at hdue
    simp [MailOutbox.unstarted, hdue.1.1]
  · exact ⟨q, hq, rfl, rfl, id⟩

/-- Once the mail of a todo it deletes is stopped, every row of the todo is out of the queue, or
is a row that the transaction has locked and is going to cancel. -/
def EndingTransaction.Stopped (t : EndingTransaction) (outbox : List MailOutbox) : Prop :=
  ∀ e ∈ t.ended, e.verdict = .deleted → e.todoId ∉ t.pendingStops →
    ∀ r ∈ outbox, r.todoId = some e.todoId → r.id ∈ t.stopped ∨ r.unstarted = false

/-- What holds of a row that was enqueued for a todo: it still refers to the todo, or the todo is
gone and the row is out of the queue. -/
def Remembers (todos : List NotificationTodo) (r : MailOutbox) (todoId : Uuid) : Prop :=
  r.todoId = some todoId ∨
    (r.todoId = none ∧ r.unstarted = false ∧ ∀ todo ∈ todos, todo.id ≠ todoId)

/-- The invariant. -/
structure TodoInv (s : MailSystem) : Prop where
  remembers : ∀ r ∈ s.db.outbox, ∀ t, (r.id, t) ∈ s.enqueuedFor → Remembers s.db.todos r t
  recorded : ∀ r ∈ s.db.outbox, ∀ t, r.todoId = some t → (r.id, t) ∈ s.enqueuedFor
  stopped : ∀ t ∈ s.transactions, t.Stopped s.db.outbox

theorem Remembers.staysOut {todos : List NotificationTodo} {r r' : MailOutbox} {todoId : Uuid}
    (h : Remembers todos r todoId) (ht : r'.todoId = r.todoId)
    (hu : r'.unstarted = true → r.unstarted = true) : Remembers todos r' todoId := by
  rcases h with h | ⟨hn, hout, hgone⟩
  · exact Or.inl (ht.trans h)
  · refine Or.inr ⟨ht.trans hn, ?_, hgone⟩
    by_contra hin
    rw [hu (by simpa using hin)] at hout
    cases hout

theorem EndingTransaction.Stopped.staysOut {t : EndingTransaction} {o o' : List MailOutbox}
    (h : t.Stopped o) (ho : StaysOut o o') : t.Stopped o' := by
  intro e he hd hp r' hr' ht
  obtain ⟨r, hr, hid, hrt, hu⟩ := ho r' hr'
  rcases h e he hd hp r hr (hrt.symm.trans ht) with hs | hout
  · exact Or.inl (hid ▸ hs)
  · refine Or.inr ?_
    by_contra hin
    rw [hu (by simpa using hin)] at hout
    cases hout

/-- A step that puts no row back into the queue and leaves the todos alone. -/
theorem TodoInv.staysOut {s s' : MailSystem} (h : TodoInv s)
    (ho : StaysOut s.db.outbox s'.db.outbox) (htodos : s'.db.todos = s.db.todos)
    (hfor : s'.enqueuedFor = s.enqueuedFor) (htrans : s'.transactions = s.transactions) :
    TodoInv s' where
  remembers r' hr' t ht := by
    obtain ⟨r, hr, hid, hrt, hu⟩ := ho r' hr'
    rw [hfor, hid] at ht
    rw [htodos]
    exact (h.remembers r hr t ht).staysOut hrt hu
  recorded r' hr' t ht := by
    obtain ⟨r, hr, hid, hrt, -⟩ := ho r' hr'
    rw [hfor, hid]
    exact h.recorded r hr t (hrt.symm.trans ht)
  stopped t ht := (h.stopped t (htrans ▸ ht)).staysOut ho

/-! ### Putting a row back into the queue -/

/-- Without the step that goes wrong, `_mark_failed` puts back only rows whose todo exists and is
not past stopping. -/
theorem TodoInv.markFailed {settings : Settings} {s s' : MailSystem} (h : TodoInv s)
    {now : Timestamp} {claim : DispatchClaim}
    (hn : claim.attemptCount < settings.mailMaxAttempts)
    (hok : ∀ r ∈ s.db.outbox, holds claim r = true → ∀ t, (r.id, t) ∈ s.enqueuedFor →
      beyondDeletion s t = false)
    (ho : s'.db.outbox = (markFailed settings now claim s.db.outbox).1)
    (htodos : s'.db.todos = s.db.todos) (hfor : s'.enqueuedFor = s.enqueuedFor)
    (htrans : s'.transactions = s.transactions) : TodoInv s' := by
  have hrow : ∀ q ∈ s'.db.outbox, ∃ r ∈ s.db.outbox, q.id = r.id ∧ q.todoId = r.todoId ∧
      (q = r ∨ holds claim r = true) := by
    intro q hq
    rcases mem_updateClaim (ho ▸ hq) with ⟨r, hr, hold, rfl⟩ | ⟨hq, -⟩
    · exact ⟨r, hr, by simp [hn], by simp [hn], Or.inr hold⟩
    · exact ⟨q, hq, rfl, rfl, Or.inl rfl⟩
  refine ⟨fun q hq t ht => ?_, fun q hq t ht => ?_, fun t ht e he hd hp q hq hqt => ?_⟩
  · obtain ⟨r, hr, hid, hrt, hcase⟩ := hrow q hq
    rw [hfor, hid] at ht
    rw [htodos]
    rcases hcase with rfl | hold
    · exact h.remembers q hr t ht
    · rcases h.remembers r hr t ht with hsome | ⟨-, -, hgone⟩
      · exact Or.inl (hrt.trans hsome)
      · have := hok r hr hold t ht
        simp only [beyondDeletion, Bool.or_eq_false_iff] at this
        exact absurd this.1 (by simpa using hgone)
  · obtain ⟨r, hr, hid, hrt, -⟩ := hrow q hq
    rw [hfor, hid]
    exact h.recorded r hr t (hrt.symm.trans ht)
  · obtain ⟨r, hr, hid, hrt, hcase⟩ := hrow q hq
    rw [htrans] at ht
    have hrt' := hrt.symm.trans hqt
    rcases hcase with rfl | hold
    · exact h.stopped t ht e he hd hp q hr hqt
    · have := hok r hr hold e.todoId (h.recorded r hr _ hrt')
      simp only [beyondDeletion, Bool.or_eq_false_iff] at this
      refine absurd this.2 ?_
      have hdel : deletionStopped s e.todoId = true :=
        List.any_eq_true.2 ⟨t, ht, by
          simp only [Bool.and_eq_true, List.any_eq_true, Bool.not_eq_true']
          exact ⟨⟨e, he, by simp [hd]⟩, by simpa using hp⟩⟩
      simp [hdel]

/-! ### Ending todos -/

theorem TodoInv.setTransaction {s : MailSystem} (h : TodoInv s) (k : ℕ) {t : EndingTransaction}
    (ht : t.Stopped s.db.outbox) : TodoInv (s.setTransaction k t) where
  remembers := h.remembers
  recorded := h.recorded
  stopped t' ht' := by
    rcases List.mem_or_eq_of_mem_set ht' with hmem | rfl
    · exact h.stopped t' hmem
    · exact ht

theorem EndingTransaction.idle_stopped (outbox : List MailOutbox) : idle.Stopped outbox :=
  fun _ he => absurd he List.not_mem_nil

/-- The todos a call has just locked all wait for their `_stop_todo_mail`. -/
theorem EndingTransaction.Stopped.endTodos {t : EndingTransaction} {outbox : List MailOutbox}
    (h : t.Stopped outbox) (hp : t.pendingStops = []) (ids : List Uuid) (verdict : Verdict)
    (now : Timestamp) :
    Stopped { t with ended := t.ended ++ ids.map (⟨·, verdict, now⟩), pendingStops := ids }
      outbox := by
  intro e he hd hpend r hr ht
  rcases List.mem_append.1 he with he | he
  · exact h e he hd (by simp [hp]) r hr ht
  · obtain ⟨id, hid, rfl⟩ := List.mem_map.1 he
    exact absurd hid hpend

/-- `_stop_todo_mail` hits every row of the todo that is still in the queue. -/
theorem EndingTransaction.Stopped.stopMail {t : EndingTransaction} {outbox : List MailOutbox}
    (h : t.Stopped outbox) {todoId : Uuid} {rest : List Uuid}
    (hp : t.pendingStops = todoId :: rest) :
    Stopped { t with
      pendingStops := rest
      stopped := t.stopped ++ (outbox.filter (t.stops todoId)).map (·.id) } outbox := by
  intro e he hd hpend r hr ht
  by_cases hid : e.todoId = todoId
  · by_cases hs : r.id ∈ t.stopped
    · exact Or.inl (List.mem_append_left _ hs)
    · cases hu : r.unstarted with
      | false => exact Or.inr rfl
      | true =>
        refine Or.inl (List.mem_append_right _
          (List.mem_map.2 ⟨r, List.mem_filter.2 ⟨hr, ?_⟩, rfl⟩))
        simp [stops, stopsTodoMail, ht, hid, hu, hs]
  · have hmem : e.todoId ∉ t.pendingStops := by
      rw [hp]
      exact fun hm => (List.mem_cons.1 hm).elim hid hpend
    rcases h e he hd hmem r hr ht with hs | hu
    · exact Or.inl (List.mem_append_left _ hs)
    · exact Or.inr hu

/-- The parts of the invariant that a commit has to keep, for the rows it publishes and for a
transaction that is still open. -/
structure Consistent (enqueuedFor : List (Uuid × Uuid)) (db : Database) : Prop where
  remembers : ∀ r ∈ db.outbox, ∀ t, (r.id, t) ∈ enqueuedFor → Remembers db.todos r t
  recorded : ∀ r ∈ db.outbox, ∀ t, r.todoId = some t → (r.id, t) ∈ enqueuedFor

/-- After a verdict every row is as it was, or has lost its reference to the todo deleted. -/
theorem mem_apply_outbox {v : Verdict} {now : Timestamp} {todoId : Uuid} {db : Database}
    {r' : MailOutbox} (h : r' ∈ (v.apply now todoId db).outbox) :
    r' ∈ db.outbox ∨ (v = .deleted ∧ ∃ r ∈ db.outbox, r.todoId = some todoId ∧
      r' = { r with todoId := none }) := by
  cases v with
  | completed | cancelled => exact Or.inl h
  | deleted =>
    rcases Table.mem_update.1 h with ⟨r, hr, hid, rfl⟩ | ⟨hr, -⟩
    · exact Or.inr ⟨rfl, r, hr, by simpa using hid, rfl⟩
    · exact Or.inl hr

theorem mem_apply_todos {v : Verdict} {now : Timestamp} {todoId : Uuid} {db : Database}
    {todo : NotificationTodo} (h : todo ∈ (v.apply now todoId db).todos) :
    (todo ∈ db.todos ∧ (v = .deleted → todo.id ≠ todoId)) ∨
      (todo.status ≠ .opened ∧ v ≠ .deleted ∧ ∃ todo₀ ∈ db.todos, todo.id = todo₀.id) := by
  cases v with
  | completed | cancelled =>
    rcases Table.mem_update.1 h with ⟨todo₀, h₀, hid, rfl⟩ | ⟨h, hid⟩
    · exact Or.inr ⟨by simp, by simp, todo₀, h₀, rfl⟩
    · exact Or.inl ⟨h, fun hv => by cases hv⟩
  | deleted =>
    obtain ⟨h, hid⟩ := Table.mem_delete.1 h
    exact Or.inl ⟨h, fun _ => by simpa using hid⟩

theorem Consistent.apply {enqueuedFor : List (Uuid × Uuid)} {db : Database}
    (h : Consistent enqueuedFor db) (v : Verdict) (now : Timestamp) (todoId : Uuid)
    (hout : v = .deleted → ∀ r ∈ db.outbox, r.todoId = some todoId → r.unstarted = false) :
    Consistent enqueuedFor (v.apply now todoId db) := by
  have hids : ∀ todo ∈ (v.apply now todoId db).todos, ∃ todo₀ ∈ db.todos, todo.id = todo₀.id := by
    intro todo ht
    rcases mem_apply_todos ht with ⟨ht, -⟩ | ⟨-, -, ht⟩
    · exact ⟨todo, ht, rfl⟩
    · exact ht
  refine ⟨fun r' hr' t ht => ?_, fun r' hr' t ht => ?_⟩
  · rcases mem_apply_outbox hr' with hr | ⟨rfl, r, hr, hrt, rfl⟩
    · rcases h.remembers r' hr t ht with hsome | ⟨hn, hu, hgone⟩
      · exact Or.inl hsome
      · refine Or.inr ⟨hn, hu, fun todo htodo => ?_⟩
        obtain ⟨todo₀, h₀, hid⟩ := hids todo htodo
        exact hid ▸ hgone todo₀ h₀
    · rcases h.remembers r hr t ht with hsome | ⟨hn, -, -⟩
      · obtain rfl : t = todoId := Option.some.inj (hsome.symm.trans hrt)
        refine Or.inr ⟨rfl, hout rfl r hr hrt, fun todo htodo => ?_⟩
        rcases mem_apply_todos htodo with ⟨-, hne⟩ | ⟨-, hv, -⟩
        · exact hne rfl
        · exact absurd rfl hv
      · rw [hn] at hrt
        cases hrt
  · rcases mem_apply_outbox hr' with hr | ⟨rfl, r, hr, hrt, rfl⟩
    · exact h.recorded r' hr t ht
    · cases ht

theorem Consistent.view {enqueuedFor : List (Uuid × Uuid)} {db : Database}
    (h : Consistent enqueuedFor db) (t : EndingTransaction)
    (hout : ∀ e ∈ t.ended, e.verdict = .deleted → ∀ r ∈ db.outbox, r.todoId = some e.todoId →
      r.unstarted = false) : Consistent enqueuedFor (t.view db) := by
  unfold EndingTransaction.view
  generalize t.ended = ended at hout
  induction ended generalizing db with
  | nil => exact h
  | cons e es ih =>
    refine ih (h.apply e.verdict e.resolvedAt e.todoId (hout e List.mem_cons_self)) ?_
    intro e' he' hd r' hr' hrt
    rcases mem_apply_outbox hr' with hr | ⟨-, r, -, -, rfl⟩
    · exact hout e' (List.mem_cons_of_mem _ he') hd r' hr hrt
    · cases hrt

/-- What a commit does to the outbox, as another open transaction sees it. -/
theorem EndingTransaction.mem_view_outbox {t : EndingTransaction} {db : Database}
    {r' : MailOutbox} (h : r' ∈ (t.view db).outbox) :
    r' ∈ db.outbox ∨ r'.todoId = none := by
  unfold EndingTransaction.view at h
  generalize t.ended = ended at h
  induction ended generalizing db with
  | nil => exact Or.inl h
  | cons e es ih =>
    rcases ih h with hr | hn
    · rcases mem_apply_outbox hr with hr | ⟨-, r, -, -, rfl⟩
      · exact Or.inl hr
      · exact Or.inr rfl
    · exact Or.inr hn

theorem TodoInv.commit {s : MailSystem} (h : TodoInv s) (k : ℕ) {t : EndingTransaction}
    (ht : t ∈ s.transactions) (hp : t.pendingStops = []) :
    TodoInv ({ s with db := t.publish s.db }.setTransaction k .idle) := by
  have hcancel : StaysOut s.db.outbox
      (Table.update (t.stopped.contains ·.id) cancelMail s.db.outbox) :=
    (KeepsTodo.staysOut ⟨QuietUpdate.update _ fun r _ => cancelMail_quiet r,
      Table.map_update _ fun _ _ => rfl⟩)
  have hmid : TodoInv { s with
      db.outbox := Table.update (t.stopped.contains ·.id) cancelMail s.db.outbox } :=
    h.staysOut hcancel rfl rfl rfl
  have hout : ∀ e ∈ t.ended, e.verdict = .deleted →
      ∀ r ∈ Table.update (t.stopped.contains ·.id) cancelMail s.db.outbox,
        r.todoId = some e.todoId → r.unstarted = false := by
    intro e he hd r hr hrt
    rcases Table.mem_update.1 hr with ⟨r₀, -, -, rfl⟩ | ⟨hr₀, hnot⟩
    · simp [MailOutbox.unstarted, cancelMail]
    · rcases h.stopped t ht e he hd (by simp [hp]) r hr₀ hrt with hs | hu
      · rw [List.contains_iff_mem.2 hs] at hnot
        cases hnot
      · exact hu
  have hcons : Consistent s.enqueuedFor (t.publish s.db) :=
    Consistent.view ⟨hmid.remembers, hmid.recorded⟩ t hout
  have hdb : TodoInv { s with db := t.publish s.db } := by
    refine ⟨hcons.remembers, hcons.recorded, fun u hu e he hd hpend r hr hrt => ?_⟩
    rcases EndingTransaction.mem_view_outbox hr with hr | hn
    · exact hmid.stopped u hu e he hd hpend r hr hrt
    · rw [hn] at hrt
      cases hrt
  exact hdb.setTransaction k (EndingTransaction.idle_stopped _)

/-! ### New rows -/

theorem not_enqueued_of_freshOutbox {s : MailSystem} {id : Uuid} (h : freshOutbox s id = true)
    (t : Uuid) : (id, t) ∉ s.enqueuedFor := by
  simp only [freshOutbox, Bool.and_eq_true] at h
  have h2 : ∀ p ∈ s.enqueuedFor, p.1 ≠ id := by simpa using h.2
  exact fun hm => h2 _ hm rfl

/-- A row for a todo that no transaction is ending. -/
theorem TodoInv.insertFor {s s' : MailSystem} (h : TodoInv s) {r : MailOutbox} {todoId : Uuid}
    (fresh : freshOutbox s r.id = true) (ht : r.todoId = some todoId)
    (unlocked : todoId ∉ s.lockedTodos)
    (htodos : ∀ todo ∈ s'.db.todos,
      (∃ todo₀ ∈ s.db.todos, todo.id = todo₀.id) ∨ ∀ p ∈ s.enqueuedFor, p.2 ≠ todo.id)
    (ho : s'.db.outbox = r :: s.db.outbox)
    (hfor : s'.enqueuedFor = (r.id, todoId) :: s.enqueuedFor)
    (htrans : s'.transactions = s.transactions) : TodoInv s' := by
  have hnew : ∀ q ∈ s.db.outbox, q.id ≠ r.id := fun q hq he =>
    not_mem_of_freshOutbox fresh (List.mem_map.2 ⟨q, hq, he⟩)
  refine ⟨fun q hq t hqt => ?_, fun q hq t hqt => ?_, fun u hu e he hd hp q hq hqt => ?_⟩
  · rcases List.mem_cons.1 (ho ▸ hq) with rfl | hq
    · rcases List.mem_cons.1 (hfor ▸ hqt) with heq | hqt
      · cases heq
        exact Or.inl ht
      · exact absurd hqt (not_enqueued_of_freshOutbox fresh t)
    · rcases List.mem_cons.1 (hfor ▸ hqt) with heq | hqt
      · exact absurd (congrArg Prod.fst heq) (hnew q hq)
      · rcases h.remembers q hq t hqt with hsome | ⟨hn, hout, hgone⟩
        · exact Or.inl hsome
        · refine Or.inr ⟨hn, hout, fun todo htodo he => ?_⟩
          rcases htodos todo htodo with ⟨todo₀, h₀, hid⟩ | hfresh
          · exact hgone todo₀ h₀ (hid.symm.trans he)
          · exact hfresh _ hqt he.symm
  · rw [hfor]
    rcases List.mem_cons.1 (ho ▸ hq) with rfl | hq
    · obtain rfl : todoId = t := Option.some.inj (ht.symm.trans hqt)
      exact List.mem_cons_self
    · exact List.mem_cons_of_mem _ (h.recorded q hq t hqt)
  · rw [htrans] at hu
    rcases List.mem_cons.1 (ho ▸ hq) with rfl | hq
    · have : e.todoId = todoId := Option.some.inj (hqt.symm.trans ht)
      refine absurd (List.mem_flatMap.2 ⟨u, hu, ?_⟩) unlocked
      exact List.mem_map.2 ⟨e, he, this⟩
    · exact h.stopped u hu e he hd hp q hq hqt

/-- A row for no todo. -/
theorem TodoInv.insert {s s' : MailSystem} (h : TodoInv s) {r : MailOutbox}
    (fresh : freshOutbox s r.id = true) (ht : r.todoId = none)
    (htodos : s'.db.todos = s.db.todos) (ho : s'.db.outbox = r :: s.db.outbox)
    (hfor : s'.enqueuedFor = s.enqueuedFor) (htrans : s'.transactions = s.transactions) :
    TodoInv s' := by
  refine ⟨fun q hq t hqt => ?_, fun q hq t hqt => ?_, fun u hu e he hd hp q hq hqt => ?_⟩
  · rcases List.mem_cons.1 (ho ▸ hq) with rfl | hq
    · exact absurd (hfor ▸ hqt) (not_enqueued_of_freshOutbox fresh t)
    · rw [htodos]
      exact h.remembers q hq t (hfor ▸ hqt)
  · rcases List.mem_cons.1 (ho ▸ hq) with rfl | hq
    · rw [ht] at hqt
      cases hqt
    · exact hfor ▸ h.recorded q hq t hqt
  · rcases List.mem_cons.1 (ho ▸ hq) with rfl | hq
    · rw [ht] at hqt
      cases hqt
    · exact h.stopped u (htrans ▸ hu) e he hd hp q hq hqt

/-! ### Every permitted step keeps the invariant -/

theorem not_beyondDeletion_of_ok {settings : Settings} {s : MailSystem} {i : ℕ}
    {now : Timestamp} {locked : List Uuid} {claimId : Uuid} {claim : DispatchClaim}
    (hok : requeuesDeleted settings s (.dispatcher i (.advance now locked claimId)) = false)
    (hphase : (s.dispatchers i).phase = .sent claim .smtpException)
    (hn : claim.attemptCount < settings.mailMaxAttempts) :
    ∀ r ∈ s.db.outbox, holds claim r = true → ∀ t, (r.id, t) ∈ s.enqueuedFor →
      beyondDeletion s t = false := by
  have hpc : s.dispatchers i = .sent claim .smtpException := by
    cases hpc : s.dispatchers i <;> simp [hpc, Pc.phase] at hphase
    obtain ⟨rfl, rfl⟩ := hphase
    rfl
  intro r hr hold t ht
  by_contra hb
  simp only [Bool.not_eq_false] at hb
  have : requeuesDeleted settings s (.dispatcher i (.advance now locked claimId)) = true := by
    simp only [requeuesDeleted, hpc, hn, decide_true, Bool.true_and, List.any_eq_true,
      Bool.and_eq_true]
    exact ⟨r, hr, hold, (r.id, t), ht, by simp, hb⟩
  rw [this] at hok
  cases hok

theorem TodoInv.step {settings : Settings} {s s' : MailSystem} {e : Event} (h : TodoInv s)
    (hI : Inv settings s) (hok : requeuesDeleted settings s e = false)
    (hs : SystemStep settings s e s') : TodoInv s' := by
  cases hs with
  | @dispatcher i action t pc he hact =>
    suffices ht : TodoInv t from ⟨ht.remembers, ht.recorded, ht.stopped⟩
    generalize hphase : (s.dispatchers i).phase = phase at hact
    generalize pc.phase = phase' at hact
    cases hact with
    | read => exact h
    | stop hk => exact h.staysOut hk.staysOut rfl rfl rfl
    | claim _ hc => exact h.staysOut (claimNext_staysOut hI hc) rfl rfl rfl
    | start _ =>
      exact h.staysOut (KeepsTodo.staysOut ⟨startSmtp_quiet .., Table.map_update _ fun _ _ => rfl⟩)
        rfl rfl rfl
    | sent | crash => exact h.staysOut (StaysOut.refl _) rfl rfl rfl
    | requeue hadv hn =>
      subst he hadv
      exact h.markFailed hn (not_beyondDeletion_of_ok hok hphase hn) rfl rfl rfl rfl
  | statement hk => exact h.staysOut hk.staysOut rfl rfl rfl
  | connect =>
    refine ⟨h.remembers, h.recorded, fun t ht => ?_⟩
    rcases List.mem_append.1 ht with ht | ht
    · exact h.stopped t ht
    · rw [List.mem_singleton.1 ht]
      exact EndingTransaction.idle_stopped _
  | rollback k => exact h.setTransaction k (EndingTransaction.idle_stopped _)
  | endTodos ht hp =>
    exact h.setTransaction _ ((h.stopped _ (List.mem_of_getElem? ht)).endTodos hp _ _ _)
  | stopMail ht hp =>
    exact h.setTransaction _ ((h.stopped _ (List.mem_of_getElem? ht)).stopMail hp)
  | commit ht hp => exact h.commit _ (List.mem_of_getElem? ht) hp
  | createTodo freshTodo fresh _ htodo =>
    simp only [Notifications.freshTodo, Bool.and_eq_true, Bool.not_eq_true',
      ← Bool.not_eq_true, List.contains_iff_mem] at freshTodo
    refine h.insertFor fresh htodo freshTodo.2 (fun todo ht => ?_) rfl rfl rfl
    rcases List.mem_cons.1 ht with rfl | ht
    · exact Or.inr (by simpa using freshTodo.1.2)
    · exact Or.inl ⟨todo, ht, rfl⟩
  | enqueue fresh _ htodo => exact h.insert fresh htodo rfl rfl rfl rfl
  | retry fresh _ htodo unlocked =>
    refine h.insertFor fresh htodo unlocked (fun todo ht => Or.inl ?_) rfl rfl rfl
    rcases Table.mem_update.1 ht with ⟨todo₀, h₀, -, rfl⟩ | ⟨ht, -⟩
    · exact ⟨todo₀, h₀, rfl⟩
    · exact ⟨todo, ht, rfl⟩
  | refused => exact h
  | other db => exact h.staysOut (StaysOut.refl _) rfl rfl rfl

/-! ## Ended todos stay ended -/

theorem EndingTransaction.mem_todos_of_view {t : EndingTransaction} {db : Database}
    {todo : NotificationTodo} (h : todo ∈ (t.view db).todos) (hopen : todo.status = .opened) :
    todo ∈ db.todos := by
  unfold EndingTransaction.view at h
  generalize t.ended = ended at h
  induction ended generalizing db with
  | nil => exact h
  | cons e es ih =>
    rcases mem_apply_todos (ih h) with ⟨h, -⟩ | ⟨hne, -, -⟩
    · exact h
    · exact absurd hopen hne

theorem EndingTransaction.mem_todos_of_publish {t : EndingTransaction} {db : Database}
    {todo : NotificationTodo} (h : todo ∈ (t.publish db).todos) (hopen : todo.status = .opened) :
    todo ∈ db.todos := by
  have hview := mem_todos_of_view h hopen
  exact hview

/-- No step reopens a todo, or creates one under the identifier of a todo there once was. -/
theorem todoOpen_of_step {settings : Settings} {s s' : MailSystem} {e : Event}
    (hs : SystemStep settings s e s') {o t : Uuid} (ht : (o, t) ∈ s.enqueuedFor)
    (h : TodoOpen s' t) : TodoOpen s t := by
  obtain ⟨todo, hmem, hid, hopen⟩ := h
  cases hs with
  | @dispatcher i action t pc he hact =>
    refine ⟨todo, ?_, hid, hopen⟩
    generalize (s.dispatchers i).phase = phase at hact
    generalize pc.phase = phase' at hact
    cases hact <;> exact hmem
  | commit _ _ => exact ⟨todo, EndingTransaction.mem_todos_of_publish hmem hopen, hid, hopen⟩
  | createTodo fresh _ _ _ =>
    rcases List.mem_cons.1 hmem with rfl | hmem
    · simp only [freshTodo, Bool.and_eq_true] at fresh
      have : ∀ p ∈ s.enqueuedFor, p.2 ≠ todo.id := by simpa using fresh.1.2
      exact absurd hid.symm (this _ ht)
    · exact ⟨todo, hmem, hid, hopen⟩
  | retry _ _ _ _ =>
    rcases Table.mem_update.1 hmem with ⟨todo₀, h₀, -, rfl⟩ | ⟨hmem, -⟩
    · exact ⟨todo₀, h₀, hid, hopen⟩
    · exact ⟨todo, hmem, hid, hopen⟩
  | _ => exact ⟨todo, hmem, hid, hopen⟩

theorem enqueuedFor_of_step {settings : Settings} {s s' : MailSystem} {e : Event}
    (hs : SystemStep settings s e s') {p : Uuid × Uuid} (hp : p ∈ s.enqueuedFor) :
    p ∈ s'.enqueuedFor := by
  cases hs with
  | @dispatcher i action t pc he hact =>
    generalize (s.dispatchers i).phase = phase at hact
    generalize pc.phase = phase' at hact
    cases hact <;> exact hp
  | createTodo _ _ _ _ | retry _ _ _ _ => exact List.mem_cons_of_mem _ hp
  | _ => exact hp

/-! ## The guarantee -/

/-- A successful `_start_smtp` for a row that was enqueued for a todo finds the todo open. -/
theorem TodoInv.todoOpen_of_hit {s : MailSystem} (h : TodoInv s) {now : Timestamp}
    {claim : DispatchClaim} (hhit : (startSmtp s.db now claim).2 = true) {t : Uuid}
    (ht : (claim.outboxId, t) ∈ s.enqueuedFor) : TodoOpen s t := by
  obtain ⟨r, hr, hcan⟩ := List.any_eq_true.1 hhit
  obtain ⟨hold, hsmtp, hmay⟩ := canStart_iff.1 hcan
  obtain ⟨hid, hs, -⟩ := holds_iff.1 hold
  rcases h.remembers r hr t (hid ▸ ht) with hsome | ⟨-, hout, -⟩
  · simp only [smtpMayStart, hsome, Bool.and_eq_true, Bool.or_eq_true, List.any_eq_true,
      Option.isNone_some, Bool.false_eq_true, false_or] at hmay
    obtain ⟨todo, htodo, hto⟩ := hmay.1.1.2
    have hid : t = todo.id := by simpa using hto.1
    exact ⟨todo, htodo, hid.symm, by simpa using hto.2⟩
  · simp [MailOutbox.unstarted, hs, hsmtp] at hout

/-- Two states of a run: a row of a todo that is over in the first is never handed to SMTP. -/
def Over (s s' : MailSystem) : Prop :=
  ∀ o t, (o, t) ∈ s.enqueuedFor → ¬ TodoOpen s t →
    (o, t) ∈ s'.enqueuedFor ∧ ¬ TodoOpen s' t ∧ starts s'.attempts o = starts s.attempts o

theorem Over.refl (s : MailSystem) : Over s s := fun _ _ h hn => ⟨h, hn, rfl⟩

theorem Over.trans {s t u : MailSystem} (h : Over s t) (h' : Over t u) : Over s u := by
  intro o i hoi hn
  obtain ⟨ht, hnt, hst⟩ := h o i hoi hn
  obtain ⟨hu, hnu, htu⟩ := h' o i ht hnt
  exact ⟨hu, hnu, htu.trans hst⟩

theorem TodoInv.over {settings : Settings} {s s' : MailSystem} {e : Event} (h : TodoInv s)
    (hs : SystemStep settings s e s') : Over s s' := by
  intro o t hot hn
  refine ⟨enqueuedFor_of_step hs hot, fun hopen => hn (todoOpen_of_step hs hot hopen), ?_⟩
  rcases step_attempts hs with he | ⟨i, claim, message, outcome, -, he⟩ |
    ⟨i, claim, message, now, -, hhit, he⟩
  · rw [he]
  · rw [he, starts_closeAttempt]
  · have hne : claim.outboxId ≠ o := fun ho => hn (h.todoOpen_of_hit hhit (ho ▸ hot))
    rw [he, starts_cons]
    simp [Attempt.started, hne]

/-- The runs in which no row is put back into the queue beyond the deletion of its todo. -/
def mailSystemWithoutRequeue (settings : Settings) : TransitionSystem MailSystem Event :=
  (mailSystem settings).restrict fun s e => !requeuesDeleted settings s e

theorem mailSystemWithoutRequeue_step {settings : Settings} {s s' : MailSystem} {e : Event}
    (h : (mailSystemWithoutRequeue settings).step s e = some s') :
    requeuesDeleted settings s e = false ∧ SystemStep settings s e s' := by
  obtain ⟨hok, hs⟩ := TransitionSystem.restrict_step_eq_some.1 h
  exact ⟨by simpa using hok, step_spec hs⟩

theorem mailSystemWithoutRequeue_inv (settings : Settings) :
    (mailSystemWithoutRequeue settings).Inductive fun s => Inv settings s ∧ TodoInv s where
  init s hs := by
    refine ⟨(mailSystem_inv settings).init s hs, ?_⟩
    obtain ⟨-, ho, -, ht, -, -, -⟩ := hs
    exact ⟨by simp [ho], by simp [ho], by simp [ht]⟩
  step s e s' h hs := by
    obtain ⟨hok, hs⟩ := mailSystemWithoutRequeue_step hs
    exact ⟨h.1.step hs, h.2.step h.1 hok hs⟩

/-- **Todo mail is only sent while its reason stands**, in every run in which `_mark_failed` never
puts a row back into the queue beyond the deletion of its todo: whenever an attempt starts for a
row that was enqueued for a todo, the todo exists and is open; and once it is completed, cancelled
or deleted, no attempt of the row is ever started. -/
theorem todo_mail_only_while_open (settings : Settings) {s : MailSystem}
    (h : (mailSystemWithoutRequeue settings).Reachable s) :
    (∀ e s', (mailSystem settings).step s e = some s' → ∀ a, s'.attempts = a :: s.attempts →
      ∀ t, (a.outboxId, t) ∈ s.enqueuedFor → TodoOpen s t) ∧
    ∀ o t, (o, t) ∈ s.enqueuedFor → ¬ TodoOpen s t → ∀ es s',
      (mailSystemWithoutRequeue settings).run s es = some s' →
        starts s'.attempts o = starts s.attempts o := by
  have hI := mailSystemWithoutRequeue_inv settings
  obtain ⟨hinv, htodo⟩ := hI.of_reachable h
  refine ⟨fun e s' hs a ha t ht => ?_, fun o t hot hn es s' hr => ?_⟩
  · rcases step_attempts (step_spec hs) with he | ⟨i, claim, message, outcome, -, he⟩ |
      ⟨i, claim, message, now, -, hhit, he⟩
    · exact absurd (congrArg List.length (ha.symm.trans he)) (by simp)
    · exact absurd (congrArg List.length (ha.symm.trans he)) (by simp [closeAttempt, Table.update])
    · cases ha.symm.trans he
      exact htodo.todoOpen_of_hit hhit ht
  · have hover : Over s s' :=
      hI.relates Over.refl (fun _ _ _ => Over.trans)
        (fun _ _ _ h hs => h.2.over (mailSystemWithoutRequeue_step hs).2) ⟨hinv, htodo⟩ hr
    exact (hover o t hot hn).2.2

/-! ## A mail for a todo that no longer exists

A maintainer (account 7) is told of an issue. While the first attempt to send the mail is in
progress, his maintenance access to the work is revoked, which deletes the todo; the attempt then
fails explicitly, and the second one goes out. -/

/-- The issue is open and the recipient maintains its work. -/
def maintainedWork : Database :=
  { Database.empty with
    accounts := [⟨7, "maker@example.org", .active⟩]
    accesses := [⟨5, 2, 7, .maintainer⟩]
    issues := [⟨3, 2, 5, "too long", .modify, "reason", none, 0, .opened, 1, "key"⟩] }

/-- The todo that tells of it. -/
def issueOpenedTodo : NotificationTodo :=
  ⟨30, 7, 2, some 5, .issueOpened, .issue, 3, .issueOpen 3 1, "summary", "label", .opened, false,
    none⟩

/-- One step of the only dispatcher. -/
def dispatch (now claimId : ℕ) : Event :=
  .dispatcher 0 (.advance now [] claimId)

/-- The todo and its mail are created, and a dispatcher is about to call `_start_smtp`. -/
def upToFirstSend : List Event :=
  .createTodo 10 issueOpenedTodo 1 issueMail ::
    List.replicate 6 (dispatch 20 100)

/-- The access is revoked while the attempt is in progress. The attempt fails, and the dispatcher
comes back to the row. -/
def sentAfterDeletion : List Event :=
  upToFirstSend ++
    [dispatch 20 100, .connect, .endTodos 0 (.deleteWorkAccessTodos 7 5) 21, .stopMail 0,
      .commitEnding 0, .other { maintainedWork with accesses := [] },
      .dispatcher 0 (.smtp .smtpException), dispatch 200 100] ++
    List.replicate 7 (dispatch 300 101)

/-- The state after some events. -/
def after (events : List Event) : MailSystem :=
  ((mailSystem .withoutCipher).run (.initial maintainedWork) events).getD
    (.initial maintainedWork)

/-- A mail of this run as it is handed to SMTP. -/
def attemptOfRun (claimId : Uuid) : Attempt :=
  ⟨1, claimId, ⟨"maker@example.org", "subject", "body"⟩, .inFlight⟩

/-- The first attempt is one the guarantee is about. -/
theorem todo_mail_only_while_open_upToFirstSend : TodoOpen (after upToFirstSend) 30 :=
  (todo_mail_only_while_open .withoutCipher
    ⟨.initial maintainedWork, upToFirstSend, MailSystem.initial_init .withoutCipher _, rfl⟩).1
    (dispatch 20 100) (after (upToFirstSend ++ [dispatch 20 100])) rfl (attemptOfRun 100) rfl 30
    (by decide)

/-- The second attempt starts although the todo its mail was enqueued for has been deleted. -/
theorem sentAfterDeletion_starts :
    (mailSystem .withoutCipher).Reachable (after sentAfterDeletion) ∧
      ∃ s' a, (mailSystem .withoutCipher).step (after sentAfterDeletion)
          (dispatch 300 101) = some s' ∧
        s'.attempts = a :: (after sentAfterDeletion).attempts ∧
        (a.outboxId, 30) ∈ (after sentAfterDeletion).enqueuedFor ∧
        ¬ TodoOpen (after sentAfterDeletion) 30 := by
  refine ⟨⟨.initial maintainedWork, sentAfterDeletion, MailSystem.initial_init .withoutCipher _,
      rfl⟩, after
        (sentAfterDeletion ++ [dispatch 300 101]), attemptOfRun 101, rfl, rfl, by decide, ?_⟩
  rintro ⟨todo, htodo, -⟩
  have hnone : (after sentAfterDeletion).db.todos = [] := rfl
  rw [hnone] at htodo
  cases htodo

end Notifications

end Rulefolio
