import Rulefolio.Notifications.TodoMail

/-!
# What the outbox says of a mail

The organiser of a playtest and the recipient of a todo see the status of a mail, and a failed mail
may be sent once more. So the status should be true of what happened at the SMTP server: a mail that
is shown as accepted was accepted, and one that is queued, failed or cancelled was not. The first is
so. The second has an exception: `_send` calls the server in a `with` block, which says `QUIT` when
it is left, and `smtplib` raises an `SMTPResponseException` when the answer to that is not 221. By
then the server may have taken the mail, and the dispatcher records a failure all the same.

A row changes under five kinds of hands: the dispatcher that holds its claim, the recovery of stale
claims, the transactions that stop the mail of a todo, the suppressions, and the cleaning of
envelopes. `Becomes` says once what each of them makes of a status. Those that cancel a mail do so
only before SMTP is called or while their rows are locked, and the dispatcher that records a failure
is the one whose attempt failed; that is all the proof needs.

## Main definitions

* `Becomes`, `RowsStep` — what a step makes of the outbox.
* `LocksInv`, `Attempted`, `Truth` — the invariants.
* `SmtpDialogue`, `Recorded` — what the server did, and what the dispatchers made of it.

## Main results

* `outbox_truthful` — statuses are true of what the server did.
-/

namespace Rulefolio

namespace Notifications

variable {settings : Settings} {s s' : MailSystem}

/-! ## What becomes of a row -/

/-- What a step makes of the status of a row. -/
inductive Becomes (s : MailSystem) (r r' : MailOutbox) : Prop
  | kept (h : r'.status = r.status)
  | claimed (h : r.status = .pending) (h' : r'.status = .sending)
  /-- A row for which SMTP was not called goes back into the queue, or is dropped. -/
  | dropped (h : r.unstarted = true)
      (h' : r'.status = .pending ∨ r'.status = .cancelled ∨ r'.status = .suppressed)
  /-- Nobody knows what became of the attempt. -/
  | doubted (h : r.status = .sending ∨ r.status = .unknown)
      (h' : r'.status = .unknown ∨ r'.status = .suppressed)
  /-- Its dispatcher found that it must not be sent. -/
  | refused {i : ℕ} {claim : DispatchClaim} (hi : (s.dispatchers i).phase = .before claim)
      (hold : holds claim r = true) (h' : r'.status = .cancelled)
  | accepted {i : ℕ} {claim : DispatchClaim}
      (hi : (s.dispatchers i).phase = .sent claim .returned) (hold : holds claim r = true)
      (h' : r'.status = .accepted)
  | failed {i : ℕ} {claim : DispatchClaim}
      (hi : (s.dispatchers i).phase = .sent claim .smtpException) (hold : holds claim r = true)
      (h' : r'.status = .pending ∨ r'.status = .failed)

/-- What a step makes of the outbox: rows are added to the queue, and those that no open transaction
has locked may change. -/
structure RowsStep (s : MailSystem) (outbox : List MailOutbox) : Prop where
  ids : ∀ id ∈ s.db.outbox.map (·.id), id ∈ outbox.map (·.id)
  rows : ∀ r' ∈ outbox, (r'.id ∉ s.db.outbox.map (·.id) ∧ r'.status = .pending) ∨
    ∃ r ∈ s.db.outbox, r'.id = r.id ∧ r'.todoId = r.todoId ∧
      (r' = r ∨ (r.id ∉ s.lockedOutbox ∧ Becomes s r r'))

theorem RowsStep.refl (s : MailSystem) : RowsStep s s.db.outbox :=
  ⟨fun _ h => h, fun r hr => .inr ⟨r, hr, rfl, rfl, .inl rfl⟩⟩

/-- A statement that hits no locked row. -/
theorem RowsStep.update {p : MailOutbox → Bool} {f : MailOutbox → MailOutbox}
    (hid : ∀ r, (f r).id = r.id ∧ (f r).todoId = r.todoId)
    (hunlocked : ∀ r ∈ s.db.outbox, p r = true → r.id ∉ s.lockedOutbox)
    (h : ∀ r ∈ s.db.outbox, p r = true → Becomes s r (f r)) :
    RowsStep s (Table.update p f s.db.outbox) where
  ids id hmem := by
    rw [Table.map_update _ fun r _ => (hid r).1]
    exact hmem
  rows r' hr' := by
    rcases Table.mem_update.1 hr' with ⟨r, hr, hp, rfl⟩ | ⟨hr, -⟩
    · exact .inr ⟨r, hr, (hid r).1, (hid r).2, .inr ⟨hunlocked r hr hp, h r hr hp⟩⟩
    · exact .inr ⟨r', hr, rfl, rfl, .inl rfl⟩

theorem RowsStep.insert {r : MailOutbox} (hfresh : r.id ∉ s.db.outbox.map (·.id))
    (hr : Enqueued r) : RowsStep s (r :: s.db.outbox) where
  ids id hmem := by
    rw [List.map_cons]
    exact List.mem_cons_of_mem _ hmem
  rows r' hr' := by
    rcases List.mem_cons.1 hr' with rfl | hr'
    · exact .inl ⟨hfresh, hr.status⟩
    · exact (RowsStep.refl s).rows r' hr'

/-- A statement that has run has hit no locked row. -/
theorem unlocked_of_statement {hits : MailOutbox → Bool} {f : List MailOutbox → List MailOutbox}
    (h : s.statement hits f = some s') :
    ∀ r ∈ s.db.outbox, hits r = true → r.id ∉ s.lockedOutbox := by
  intro r hr hhits hlocked
  rw [MailSystem.statement] at h
  split at h
  · cases h
  · rename_i hblocked
    refine hblocked (List.any_eq_true.2 ⟨r, hr, ?_⟩)
    rw [hhits, Bool.true_and, List.contains_iff_mem]
    exact hlocked

theorem RowsStep.statement {hits : MailOutbox → Bool} {g : MailOutbox → MailOutbox}
    {f : List MailOutbox → List MailOutbox} (hs : s.statement hits f = some s')
    (hf : f s.db.outbox = Table.update hits g s.db.outbox)
    (hid : ∀ r, (g r).id = r.id ∧ (g r).todoId = r.todoId)
    (h : ∀ r ∈ s.db.outbox, hits r = true → Becomes s r (g r)) : RowsStep s s'.db.outbox := by
  have hunlocked := unlocked_of_statement hs
  rw [statement_eq_some hs]
  show RowsStep s (f s.db.outbox)
  rw [hf]
  exact RowsStep.update hid hunlocked h

/-! ### The steps of a dispatcher -/

/-- What the recording of an outcome makes of the row of the claim. -/
theorem becomes_of_outcome {i : ℕ} {claim : DispatchClaim} {outcome : SmtpOutcome}
    {now : Timestamp} (hi : (s.dispatchers i).phase = .sent claim outcome) {t : List MailOutbox}
    (ht : t = (markOutcome settings now claim outcome s.db.outbox).1)
    (hunlocked : ∀ r ∈ s.db.outbox, holds claim r = true → r.id ∉ s.lockedOutbox) :
    RowsStep s t := by
  subst ht
  cases outcome with
  | returned =>
    refine RowsStep.update (fun r => ⟨rfl, rfl⟩) hunlocked fun r _ hold => ?_
    exact .accepted hi hold rfl
  | disconnected | osError =>
    refine RowsStep.update (fun r => ⟨rfl, rfl⟩) hunlocked fun r _ hold => ?_
    exact .doubted (.inl (holds_iff.1 hold).2.1) (.inl rfl)
  | smtpException =>
    refine RowsStep.update (fun r => ?_) hunlocked fun r _ hold => .failed hi hold ?_
    · dsimp only
      split <;> exact ⟨rfl, rfl⟩
    · dsimp only
      split
      · exact .inl rfl
      · exact .inr rfl

theorem rows_of_advance {i : ℕ} {now : Timestamp} {locked : List Uuid} {claimId : Uuid} {pc : Pc}
    (hI : Inv settings s)
    (hs : advance settings now locked claimId s (s.dispatchers i) = some (s', pc)) :
    RowsStep s s'.db.outbox := by
  generalize hpc : s.dispatchers i = old at hs
  cases old with
  | start =>
    rw [advance] at hs
    split at hs <;> cases hs <;> exact RowsStep.refl s
  | admitted =>
    rw [advance] at hs
    split at hs
    · cases hs
    · split at hs
      · cases hs
        exact RowsStep.refl s
      · rename_i claim outbox hc
        cases hs
        obtain ⟨r, hr, hdue, rfl, rfl⟩ := claimNext_spec hc
        simp only [isDue, Bool.and_eq_true, beq_iff_eq, Bool.not_eq_true',
          List.contains_eq_mem, decide_eq_false_iff_not, List.mem_append, not_or] at hdue
        have hone : ∀ q ∈ s.db.outbox, (q.id == r.id) = true → q = r := fun q hq hid =>
          hI.row_unique hr hq (by simpa using hid)
        refine RowsStep.update (fun q => ⟨rfl, rfl⟩) (fun q hq hid => ?_) fun q hq hid => ?_
        · rw [hone q hq hid]
          exact hdue.2.2
        · rw [hone q hq hid]
          exact .claimed hdue.1.1 rfl
  | claimed claim =>
    rw [advance] at hs
    split at hs <;> cases hs <;> exact RowsStep.refl s
  | loaded claim outbox | todoOpen claim outbox | eligible claim outbox =>
    rw [advance] at hs
    split at hs <;> cases hs <;> exact RowsStep.refl s
  | rejected claim business =>
    obtain ⟨t, ht, he⟩ := Option.map_eq_some_iff.1 hs
    cases he
    have hphase : (s.dispatchers i).phase = .before claim := by rw [hpc]; rfl
    cases business with
    | true =>
      refine RowsStep.statement ht rfl (fun r => ⟨rfl, rfl⟩) fun r _ hold => ?_
      exact .refused hphase hold rfl
    | false =>
      refine RowsStep.statement ht rfl (fun r => ⟨rfl, rfl⟩) fun r _ hold => ?_
      exact .refused hphase hold rfl
  | ready claim message =>
    obtain ⟨t, ht, he⟩ := Option.map_eq_some_iff.1 hs
    have hrows : RowsStep s t.db.outbox :=
      RowsStep.statement ht rfl (fun r => ⟨rfl, rfl⟩) fun r _ _ => .kept rfl
    split at he <;> cases he <;> exact hrows
  | sending claim message => cases hs
  | sent claim outcome =>
    obtain ⟨t, ht, he⟩ := Option.map_eq_some_iff.1 hs
    cases he
    have hphase : (s.dispatchers i).phase = .sent claim outcome := by rw [hpc]; rfl
    have hunlocked := unlocked_of_statement ht
    have hrows := congrArg (·.db.outbox) (statement_eq_some ht)
    exact becomes_of_outcome hphase hrows hunlocked
  | returned _ | crashed =>
    cases hs
    exact RowsStep.refl s

/-! ### The other steps -/

/-- A stale row goes back into the queue, or nobody knows what became of it. -/
theorem becomes_of_stale {r : MailOutbox} (h : r.status = .sending) :
    Becomes s r (recoverStale r) := by
  cases hsmtp : r.smtpStartedAt with
  | none =>
    refine .dropped ?_ (.inl ?_)
    · simp [MailOutbox.unstarted, h, hsmtp]
    · simp [recoverStale, hsmtp]
  | some _ =>
    refine .doubted (.inl h) (.inl ?_)
    simp [recoverStale, hsmtp]

theorem rows_of_recoverStale {stage : RecoveryStage} {now : Timestamp} {locked : List Uuid} :
    RowsStep s (recoverStaleDispatches settings stage now (locked ++ s.lockedOutbox)
      s.db.outbox) := by
  rw [recoverStaleDispatches]
  split
  · refine RowsStep.update (fun r => ?_) (fun r _ hstale => ?_) fun r _ hstale => ?_
    · rw [recoverStale]
      split <;> exact ⟨rfl, rfl⟩
    · simp only [isStale, Bool.and_eq_true, Bool.not_eq_true', List.contains_eq_mem,
        decide_eq_false_iff_not, List.mem_append, not_or] at hstale
      exact hstale.2.2
    · simp only [isStale, Bool.and_eq_true, beq_iff_eq] at hstale
      exact becomes_of_stale hstale.1.1
  · exact RowsStep.refl s

theorem suppressed_of_hit {r r' : MailOutbox} (h : suppressesInRecovery r = true)
    (h' : r'.status = .suppressed) : Becomes s r r' := by
  rw [suppressesInRecovery, Bool.or_eq_true, beq_iff_eq] at h
  rcases h with hunknown | hunstarted
  · exact .doubted (.inr hunknown) (.inr h')
  · exact .dropped hunstarted (.inr (.inr h'))

theorem cancelled_of_hit {ids : List Uuid} {r r' : MailOutbox}
    (h : clearsEnvelope ids r = true) (h' : r'.status = .cancelled) : Becomes s r r' := by
  simp only [clearsEnvelope, Bool.and_eq_true, Bool.or_eq_true, beq_iff_eq] at h
  obtain ⟨⟨-, (hpending | hsending) | hcancelled⟩, hsmtp⟩ := h
  · exact .dropped (by simp [MailOutbox.unstarted, hpending]) (.inr (.inl h'))
  · exact .dropped (by simp [MailOutbox.unstarted, hsending, hsmtp]) (.inr (.inl h'))
  · exact .kept (h'.trans hcancelled.symm)

/-- Every event but a commit of a transaction that ends todos. -/
theorem rows_of_step {e : Event} (hI : Inv settings s) (hs : step settings s e = some s')
    (he : ∀ k, e ≠ .commitEnding k) : RowsStep s s'.db.outbox := by
  cases e with
  | dispatcher i action =>
    obtain ⟨⟨t, pc⟩, ht, rfl⟩ := Option.map_eq_some_iff.1 hs
    cases action with
    | advance now locked claimId =>
      have hrows : RowsStep s t.db.outbox := rows_of_advance hI ht
      exact hrows
    | smtp outcome =>
      generalize s.dispatchers i = old at ht
      cases old <;> cases ht
      exact RowsStep.refl s
    | crash =>
      generalize s.dispatchers i = old at ht
      cases old <;> cases ht <;> exact RowsStep.refl s
  | recoverStale stage now locked =>
    cases hs
    exact rows_of_recoverStale
  | connect =>
    cases hs
    exact RowsStep.refl s
  | endTodos k ending now =>
    obtain ⟨t, -, ht⟩ := Option.bind_eq_some_iff.1 hs
    simp only [MailSystem.endTodos] at ht
    split at ht <;> cases ht
    exact RowsStep.refl s
  | stopMail k =>
    obtain ⟨t, -, ht⟩ := Option.bind_eq_some_iff.1 hs
    rw [stopMail.eq_def] at ht
    split at ht
    · cases ht
    · split at ht <;> cases ht
      exact RowsStep.refl s
  | commitEnding k => exact absurd rfl (he k)
  | rollbackEnding k =>
    cases hs
    exact RowsStep.refl s
  | createTodo now todo mailId mail =>
    simp only [step, MailSystem.createTodo] at hs
    split at hs <;> cases hs
    rename_i hg
    simp only [Bool.and_eq_true] at hg
    exact RowsStep.insert (by simpa using not_mem_of_freshOutbox hg.1.2)
      (NewMail.row_enqueued ..)
  | enqueue now mailId mail =>
    simp only [step, enqueue] at hs
    split at hs <;> cases hs
    rename_i hg
    exact RowsStep.insert (by simpa using not_mem_of_freshOutbox hg) (NewMail.row_enqueued ..)
  | retryFailedMail now newId recipientId todoId key =>
    simp only [step, retry] at hs
    split at hs
    · rename_i hg
      simp only [Bool.and_eq_true] at hg
      split at hs
      · cases hs
        exact RowsStep.refl s
      · rename_i db hdb
        rcases retryFailedMail_spec hdb with rfl | ⟨todo, r, rfl, rfl, -, hr, rfl⟩
        · split at hs <;> cases hs <;> exact RowsStep.refl s
        · split at hs <;> cases hs
          · exact RowsStep.insert (not_mem_of_freshOutbox hg.1) hr
          · exact RowsStep.refl s
    · cases hs
  | suppressForRestrictedRecovery =>
    refine RowsStep.statement hs rfl (fun r => ⟨rfl, rfl⟩) fun r _ hhit => ?_
    exact suppressed_of_hit hhit rfl
  | suppressBusinessMails scope =>
    refine RowsStep.statement hs rfl (fun r => ⟨rfl, rfl⟩) fun r _ hhit => ?_
    simp only [suppressesBusiness, Bool.and_eq_true] at hhit
    exact .dropped hhit.2 (.inr (.inr rfl))
  | clearOutboxEnvelopes ids =>
    refine RowsStep.statement hs rfl (fun r => ⟨rfl, rfl⟩) fun r _ hhit => ?_
    exact cancelled_of_hit hhit rfl
  | other db =>
    cases hs
    exact RowsStep.refl s

/-! ### The commit of a transaction that ends todos -/

/-- The verdicts on its todos make rows forget their todo, and nothing else. -/
theorem EndingTransaction.exists_of_view {t : EndingTransaction} {db : Database} {r' : MailOutbox}
    (h : r' ∈ (t.view db).outbox) :
    ∃ r ∈ db.outbox, r' = r ∨ r' = { r with todoId := none } := by
  unfold EndingTransaction.view at h
  generalize t.ended = ended at h
  induction ended generalizing db with
  | nil => exact ⟨r', h, .inl rfl⟩
  | cons e es ih =>
    obtain ⟨r, hr, hsame⟩ := ih h
    rcases mem_apply_outbox hr with hr | ⟨-, r₀, hr₀, -, rfl⟩
    · exact ⟨r, hr, hsame⟩
    · refine ⟨r₀, hr₀, .inr ?_⟩
      rcases hsame with rfl | rfl <;> rfl

theorem EndingTransaction.exists_of_publish {t : EndingTransaction} {db : Database}
    {r' : MailOutbox} (h : r' ∈ (t.publish db).outbox) :
    ∃ r ∈ db.outbox, r'.id = r.id ∧ (r'.todoId = r.todoId ∨ r'.todoId = none) ∧
      ((r.id ∈ t.stopped ∧ r'.status = .cancelled) ∨
        (r.id ∉ t.stopped ∧ r'.status = r.status ∧ r'.unstarted = r.unstarted)) := by
  obtain ⟨r₁, hr₁, hsame⟩ := t.exists_of_view h
  have hstep : ∃ r ∈ db.outbox, r₁.id = r.id ∧ r₁.todoId = r.todoId ∧
      ((r.id ∈ t.stopped ∧ r₁.status = .cancelled) ∨ (r.id ∉ t.stopped ∧ r₁ = r)) := by
    rcases Table.mem_update.1 hr₁ with ⟨r, hr, hstopped, rfl⟩ | ⟨hr, hnot⟩
    · exact ⟨r, hr, rfl, rfl, .inl ⟨by simpa using hstopped, rfl⟩⟩
    · exact ⟨r₁, hr, rfl, rfl, .inr ⟨by simpa using hnot, rfl⟩⟩
  obtain ⟨r, hr, hid, htodo, hcase⟩ := hstep
  rcases hsame with rfl | rfl
  · refine ⟨r, hr, hid, .inl htodo, ?_⟩
    rcases hcase with hstopped | ⟨hnot, rfl⟩
    · exact .inl hstopped
    · exact .inr ⟨hnot, rfl, rfl⟩
  · refine ⟨r, hr, hid, .inr rfl, ?_⟩
    rcases hcase with hstopped | ⟨hnot, rfl⟩
    · exact .inl hstopped
    · exact .inr ⟨hnot, rfl, rfl⟩

/-! ## The rows that transactions have locked -/

/-- The rows that open transactions are going to cancel are still in the queue, and no two of them
have locked the same. -/
structure LocksInv (s : MailSystem) : Prop where
  known : ∀ t ∈ s.transactions, ∀ id ∈ t.stopped, id ∈ s.db.outbox.map (·.id)
  queued : ∀ t ∈ s.transactions, ∀ r ∈ s.db.outbox, r.id ∈ t.stopped → r.unstarted = true
  apart : ∀ k k' : ℕ, ∀ t t' : EndingTransaction, s.transactions[k]? = some t →
    s.transactions[k']? = some t' → ∀ id ∈ t.stopped, id ∈ t'.stopped → k = k'

/-- A step that leaves the transactions alone leaves their rows alone. -/
theorem LocksInv.rows (h : LocksInv s) (hrows : RowsStep s s'.db.outbox)
    (ht : s'.transactions = s.transactions) : LocksInv s' where
  known t hmem id hid := hrows.ids id (h.known t (ht ▸ hmem) id hid)
  queued t hmem r' hr' hid := by
    rw [ht] at hmem
    rcases hrows.rows r' hr' with ⟨hfresh, -⟩ | ⟨r, hr, hsame, -, rfl | ⟨hunlocked, -⟩⟩
    · exact absurd (h.known t hmem _ hid) hfresh
    · exact h.queued t hmem r' hr hid
    · exact absurd (List.mem_flatMap.2 ⟨t, hmem, hsame ▸ hid⟩) hunlocked
  apart := by
    rw [ht]
    exact h.apart

/-- Where a transaction is replaced. -/
theorem getElem?_setTransaction {k k' : ℕ} {t t' : EndingTransaction}
    (h : (s.setTransaction k t).transactions[k']? = some t') :
    (k' = k ∧ t' = t) ∨ (k' ≠ k ∧ s.transactions[k']? = some t') := by
  rw [MailSystem.setTransaction, List.getElem?_set] at h
  split at h
  · rename_i hk
    split at h <;> cases h
    exact .inl ⟨hk.symm, rfl⟩
  · rename_i hk
    exact .inr ⟨fun he => hk he.symm, h⟩

/-- A transaction locks more rows that are in the queue and that no other one has locked, or gives
its locks up. -/
theorem LocksInv.setTransaction (h : LocksInv s) {k : ℕ} {t : EndingTransaction}
    (hknown : ∀ id ∈ t.stopped, id ∈ s.db.outbox.map (·.id))
    (hqueued : ∀ r ∈ s.db.outbox, r.id ∈ t.stopped → r.unstarted = true)
    (hapart : ∀ k' : ℕ, ∀ t' : EndingTransaction, k' ≠ k → s.transactions[k']? = some t' →
      ∀ id ∈ t.stopped, id ∉ t'.stopped) : LocksInv (s.setTransaction k t) where
  known t' hmem := by
    rcases List.mem_or_eq_of_mem_set hmem with hmem | rfl
    · exact h.known t' hmem
    · exact hknown
  queued t' hmem := by
    rcases List.mem_or_eq_of_mem_set hmem with hmem | rfl
    · exact h.queued t' hmem
    · exact hqueued
  apart k₁ k₂ t₁ t₂ h₁ h₂ id hid₁ hid₂ := by
    rcases getElem?_setTransaction h₁ with ⟨rfl, rfl⟩ | ⟨hne₁, hold₁⟩
    · rcases getElem?_setTransaction h₂ with ⟨rfl, -⟩ | ⟨hne₂, hold₂⟩
      · rfl
      · exact absurd hid₂ (hapart k₂ t₂ hne₂ hold₂ id hid₁)
    · rcases getElem?_setTransaction h₂ with ⟨rfl, rfl⟩ | ⟨-, hold₂⟩
      · exact absurd hid₁ (hapart k₁ t₁ hne₁ hold₁ id hid₂)
      · exact h.apart k₁ k₂ t₁ t₂ hold₁ hold₂ id hid₁ hid₂

theorem LocksInv.idle (h : LocksInv s) (k : ℕ) : LocksInv (s.setTransaction k .idle) :=
  h.setTransaction (fun _ hid => absurd hid List.not_mem_nil)
    (fun _ _ hid => absurd hid List.not_mem_nil)
    fun _ _ _ _ _ hid => absurd hid List.not_mem_nil

/-- The rows of the other transactions, by their index. -/
theorem mem_lockedOutbox_without {k k' : ℕ} {t' : EndingTransaction} {id : Uuid} (hne : k' ≠ k)
    (ht' : s.transactions[k']? = some t') (hid : id ∈ t'.stopped) :
    id ∈ (s.without k).lockedOutbox := by
  refine List.mem_flatMap.2 ⟨t', ?_, hid⟩
  rw [MailSystem.without, List.mem_eraseIdx_iff_getElem?]
  exact ⟨k', hne, ht'⟩

/-- `_stop_todo_mail` waits for the rows of the other transactions. -/
theorem LocksInv.stopMail (h : LocksInv s) (hI : Inv settings s) {k : ℕ} {t : EndingTransaction}
    (ht : s.transactions[k]? = some t) (hs : stopMail s k t = some s') : LocksInv s' := by
  rw [Notifications.stopMail.eq_def] at hs
  split at hs
  · cases hs
  · rename_i todoId rest hpending
    split at hs
    · cases hs
    · rename_i hblocked
      cases hs
      have hhit : ∀ id ∈ (s.db.outbox.filter (t.stops todoId)).map (·.id),
          ∃ r ∈ s.db.outbox, r.id = id ∧ t.stops todoId r = true := by
        intro id hid
        obtain ⟨r, hr, rfl⟩ := List.mem_map.1 hid
        exact ⟨r, (List.mem_filter.1 hr).1, rfl, (List.mem_filter.1 hr).2⟩
      refine h.setTransaction (fun id hid => ?_) (fun r hr hid => ?_)
        fun k' t' hne ht' id hid hid' => ?_
      · rcases List.mem_append.1 hid with hid | hid
        · exact h.known t (List.mem_of_getElem? ht) id hid
        · obtain ⟨r, hr, rfl, -⟩ := hhit id hid
          exact List.mem_map_of_mem hr
      · rcases List.mem_append.1 hid with hid | hid
        · exact h.queued t (List.mem_of_getElem? ht) r hr hid
        · obtain ⟨q, hq, hsame, hstops⟩ := hhit r.id hid
          rw [hI.row_unique hr hq hsame] at hstops
          simp only [EndingTransaction.stops, stopsTodoMail, Bool.and_eq_true] at hstops
          exact hstops.1.2
      · rcases List.mem_append.1 hid with hid | hid
        · exact hne (h.apart k' k t' t ht' ht id hid' hid)
        · obtain ⟨r, hr, rfl, hstops⟩ := hhit id hid
          refine hblocked (List.any_eq_true.2 ⟨r, hr, ?_⟩)
          rw [hstops, Bool.true_and, List.contains_iff_mem]
          exact mem_lockedOutbox_without hne ht' hid'

theorem LocksInv.commit (h : LocksInv s) {k : ℕ} {t : EndingTransaction}
    (ht : s.transactions[k]? = some t) :
    LocksInv ({ s with db := t.publish s.db }.setTransaction k .idle) where
  known t' hmem id hid := by
    show id ∈ (t.publish s.db).outbox.map (·.id)
    rw [(t.publish_quiet s.db).map_id]
    rcases List.mem_or_eq_of_mem_set hmem with hmem | rfl
    · exact h.known t' hmem id hid
    · exact absurd hid List.not_mem_nil
  queued t' hmem r' hr' hid := by
    obtain ⟨k', ht'⟩ := List.mem_iff_getElem?.1 hmem
    rcases getElem?_setTransaction ht' with ⟨-, rfl⟩ | ⟨hne, ht'⟩
    · exact absurd hid List.not_mem_nil
    · obtain ⟨r, hr, hsame, -, ⟨hstopped, -⟩ | ⟨-, -, hunstarted⟩⟩ :=
        t.exists_of_publish hr'
      · rw [hsame] at hid
        exact absurd (h.apart k' k t' t ht' ht _ hid hstopped) hne
      · rw [hunstarted]
        exact h.queued t' (List.mem_of_getElem? ht') r hr (hsame ▸ hid)
  apart := by
    intro k₁ k₂ t₁ t₂ h₁ h₂ id hid₁ hid₂
    rcases getElem?_setTransaction h₁ with ⟨-, rfl⟩ | ⟨-, hold₁⟩
    · exact absurd hid₁ List.not_mem_nil
    · rcases getElem?_setTransaction h₂ with ⟨-, rfl⟩ | ⟨-, hold₂⟩
      · exact absurd hid₂ List.not_mem_nil
      · exact h.apart k₁ k₂ t₁ t₂ hold₁ hold₂ id hid₁ hid₂

theorem LocksInv.connect (h : LocksInv s) :
    LocksInv { s with transactions := s.transactions ++ [.idle] } := by
  have hold : ∀ k : ℕ, ∀ t : EndingTransaction, (s.transactions ++ [.idle])[k]? = some t →
      ∀ id ∈ t.stopped, s.transactions[k]? = some t := by
    intro k t ht id hid
    rcases Nat.lt_or_ge k s.transactions.length with hlt | hge
    · rwa [List.getElem?_append_left hlt] at ht
    · rw [List.getElem?_append_right hge] at ht
      have hidle := List.mem_of_getElem? ht
      rw [List.mem_singleton.1 hidle] at hid
      exact absurd hid List.not_mem_nil
  refine ⟨fun t hmem id hid => ?_, fun t hmem r hr hid => ?_,
    fun k k' t t' ht ht' id hid hid' => ?_⟩
  · obtain ⟨k, ht⟩ := List.mem_iff_getElem?.1 hmem
    exact h.known t (List.mem_of_getElem? (hold k t ht id hid)) id hid
  · obtain ⟨k, ht⟩ := List.mem_iff_getElem?.1 hmem
    exact h.queued t (List.mem_of_getElem? (hold k t ht r.id hid)) r hr hid
  · exact h.apart k k' t t' (hold k t ht id hid) (hold k' t' ht' id hid') id hid hid'

/-- Most events leave the transactions alone. -/
theorem transactions_of_dispatcher {i : ℕ} {action : Action}
    (hs : step settings s (.dispatcher i action) = some s') :
    s'.transactions = s.transactions := by
  obtain ⟨⟨t, pc⟩, ht, rfl⟩ := Option.map_eq_some_iff.1 hs
  have hact := act_spec ht
  generalize (s.dispatchers i).phase = phase at hact
  generalize pc.phase = phase' at hact
  cases hact <;> rfl

theorem transactions_of_retry {now : Timestamp} {newId recipientId todoId : Uuid} {key : String}
    (hs : step settings s (.retryFailedMail now newId recipientId todoId key) = some s') :
    s'.transactions = s.transactions := by
  simp only [step, retry] at hs
  split at hs
  · split at hs
    · cases hs
      rfl
    · split at hs <;> cases hs <;> rfl
  · cases hs

theorem LocksInv.step {e : Event} (h : LocksInv s) (hI : Inv settings s)
    (hs : step settings s e = some s') : LocksInv s' := by
  have hrows : (∀ k, e ≠ .commitEnding k) → s'.transactions = s.transactions → LocksInv s' :=
    fun he ht => h.rows (rows_of_step hI hs he) ht
  cases e with
  | dispatcher i action => exact hrows (by simp) (transactions_of_dispatcher hs)
  | recoverStale stage now locked =>
    refine hrows (by simp) ?_
    cases hs
    rfl
  | connect =>
    cases hs
    exact h.connect
  | endTodos k ending now =>
    obtain ⟨t, hk, ht⟩ := Option.bind_eq_some_iff.1 hs
    simp only [MailSystem.endTodos] at ht
    split at ht <;> cases ht
    have hmem := List.mem_of_getElem? hk
    exact h.setTransaction (h.known t hmem) (h.queued t hmem) fun k' t' hne ht' id hid hid' =>
      hne (h.apart k' k t' t ht' hk id hid' hid)
  | stopMail k =>
    obtain ⟨t, hk, ht⟩ := Option.bind_eq_some_iff.1 hs
    exact h.stopMail hI hk ht
  | commitEnding k =>
    obtain ⟨t, hk, ht⟩ := Option.bind_eq_some_iff.1 hs
    rw [commitEnding.eq_def] at ht
    split at ht <;> cases ht
    exact h.commit hk
  | rollbackEnding k =>
    cases hs
    exact h.idle k
  | createTodo now todo mailId mail =>
    refine hrows (by simp) ?_
    simp only [Notifications.step, MailSystem.createTodo] at hs
    split at hs <;> cases hs
    rfl
  | enqueue now mailId mail =>
    refine hrows (by simp) ?_
    simp only [Notifications.step, enqueue] at hs
    split at hs <;> cases hs
    rfl
  | retryFailedMail now newId recipientId todoId key =>
    exact hrows (by simp) (transactions_of_retry hs)
  | suppressForRestrictedRecovery | suppressBusinessMails scope | clearOutboxEnvelopes ids =>
    refine hrows (by simp) ?_
    rw [statement_eq_some hs]
  | other db =>
    refine hrows (by simp) ?_
    cases hs
    rfl

/-! ## Statuses are true -/

/-- What the outbox says of a mail, against the attempts to send it. -/
structure Truth (s : MailSystem) : Prop where
  accepted : ∀ r ∈ s.db.outbox, r.status = .accepted →
    ∃ a ∈ s.attempts, a.outboxId = r.id ∧ a.outcome = .accepted
  undelivered : ∀ r ∈ s.db.outbox, r.status = .failed ∨ r.status = .cancelled →
    ∀ a ∈ s.attempts, a.outboxId = r.id → a.outcome = .failed

/-- A dispatcher that is about to record an outcome has made the attempt. -/
def Attempted (s : MailSystem) : Prop :=
  ∀ i claim outcome, (s.dispatchers i).phase = .sent claim outcome → ∃ a ∈ s.attempts,
    a.claimId = claim.claimId ∧ a.outboxId = claim.outboxId ∧ a.outcome = outcome.attemptOutcome

/-- Ending the attempt of another claim. -/
theorem exists_closeAttempt {claim : DispatchClaim} {claimId : Uuid} {outcome : AttemptOutcome}
    {result : SmtpOutcome} (hne : claim.claimId ≠ claimId)
    (h : ∃ a ∈ s.attempts, a.claimId = claim.claimId ∧ a.outboxId = claim.outboxId ∧
      a.outcome = result.attemptOutcome) :
    ∃ a ∈ closeAttempt claimId outcome s.attempts, a.claimId = claim.claimId ∧
      a.outboxId = claim.outboxId ∧ a.outcome = result.attemptOutcome := by
  obtain ⟨a, ha, hclaim, hrow, hresult⟩ := h
  refine ⟨a, (mem_closeAttempt ..).2 (.inr ⟨ha, ?_⟩), hclaim, hrow, hresult⟩
  rw [hclaim]
  exact hne

theorem Attempted.act {t : MailSystem} {pc : Pc} {action : Action} {i : ℕ} (h : Attempted s)
    (hI : Inv settings s) (hact : ActStep settings s action (s.dispatchers i).phase t pc.phase) :
    Attempted (t.setPc i pc) := by
  intro j claim outcome hj
  have hdispatchers := hact.dispatchers
  generalize hold : (s.dispatchers i).phase = old at hact
  generalize hnew : pc.phase = new at hact
  by_cases hji : j = i
  · subst hji
    rw [MailSystem.setPc_self, hnew] at hj
    subst hj
    cases hact with
    | read => exact h j claim outcome hold
    | @sent _ message _ =>
      refine ⟨_, (mem_closeAttempt ..).2 (.inl ⟨_, hI.started_mem hold, rfl, rfl⟩), rfl, rfl, rfl⟩
  · rw [MailSystem.setPc_ne _ _ hji, hdispatchers] at hj
    have hdone := h j claim outcome hj
    have hother : ∀ c, (s.dispatchers i).phase.claim? = some c → claim.claimId ≠ c.claimId := by
      intro c hc hsame
      exact hji (hI.distinct j i claim c (by rw [hj]; rfl) hc hsame)
    cases hact with
    | read | stop _ | claim _ _ | requeue _ _ => exact hdone
    | start _ =>
      obtain ⟨a, ha, hrest⟩ := hdone
      exact ⟨a, List.mem_cons_of_mem _ ha, hrest⟩
    | sent | crash => exact exists_closeAttempt (hother _ (by rw [hold]; rfl)) hdone

theorem Attempted.step {e : Event} (h : Attempted s) (hI : Inv settings s)
    (hs : SystemStep settings s e s') : Attempted s' := by
  cases hs with
  | dispatcher _ hact => exact h.act hI hact
  | _ => exact h

/-- An attempt that may have succeeded keeps its row out of the queue. -/
theorem Inv.failed_of_unstarted (h : Inv settings s) {r : MailOutbox} (hr : r ∈ s.db.outbox)
    (hqueued : r.unstarted = true) : ∀ a ∈ s.attempts, a.outboxId = r.id → a.outcome = .failed := by
  intro a ha hrow
  by_contra hfailed
  have hout := ((h.rows r hr).burnt a ha hrow hfailed).1
  rw [hqueued] at hout
  cases hout

/-- Under a claim, an attempt that may have succeeded is the one of this claim. -/
theorem Inv.claimId_of_holds (h : Inv settings s) {r : MailOutbox} {claim : DispatchClaim}
    (hr : r ∈ s.db.outbox) (hold : holds claim r = true) {a : Attempt} (ha : a ∈ s.attempts)
    (hrow : a.outboxId = r.id) (hfailed : a.outcome ≠ .failed) : a.claimId = claim.claimId := by
  obtain ⟨-, hsending, hclaim⟩ := holds_iff.1 hold
  have hown := ((h.rows r hr).burnt a ha hrow hfailed).2 hsending
  exact Option.some.inj (hown.symm.trans hclaim)

theorem Truth.becomes (h : Truth s) (hI : Inv settings s) (hattempted : Attempted s)
    {r r' : MailOutbox} (hr : r ∈ s.db.outbox) (hid : r'.id = r.id) (hb : Becomes s r r') :
    (r'.status = .accepted → ∃ a ∈ s.attempts, a.outboxId = r'.id ∧ a.outcome = .accepted) ∧
      (r'.status = .failed ∨ r'.status = .cancelled →
        ∀ a ∈ s.attempts, a.outboxId = r'.id → a.outcome = .failed) := by
  rw [hid]
  cases hb with
  | kept hsame =>
    rw [hsame]
    exact ⟨h.accepted r hr, h.undelivered r hr⟩
  | claimed _ h' => simp [h']
  | dropped hqueued h' =>
    refine ⟨fun hstatus => ?_, fun _ => hI.failed_of_unstarted hr hqueued⟩
    rw [hstatus] at h'
    simp at h'
  | doubted _ h' => rcases h' with h' | h' <;> simp [h']
  | @refused i claim hi hold h' =>
    refine ⟨fun hstatus => ?_, fun _ a ha hrow => ?_⟩
    · rw [h'] at hstatus
      cases hstatus
    · by_contra hfailed
      have hagrees := (hI.phases i).agrees
      rw [hi] at hagrees
      exact hagrees a ha (hI.claimId_of_holds hr hold ha hrow hfailed)
  | @accepted i claim hi hold h' =>
    refine ⟨fun _ => ?_, fun hstatus => ?_⟩
    · obtain ⟨a, ha, -, hrow, hresult⟩ := hattempted i claim .returned hi
      exact ⟨a, ha, hrow.trans (holds_iff.1 hold).1.symm, hresult⟩
    · rw [h'] at hstatus
      simp at hstatus
  | @failed i claim hi hold h' =>
    refine ⟨fun hstatus => ?_, fun _ a ha hrow => ?_⟩
    · rw [hstatus] at h'
      simp at h'
    · by_contra hfailed
      have hagrees := (hI.phases i).agrees
      rw [hi] at hagrees
      exact hfailed (hagrees a ha (hI.claimId_of_holds hr hold ha hrow hfailed))

/-- A step that starts and ends no attempt. -/
theorem Truth.rows (h : Truth s) (hI : Inv settings s) (hattempted : Attempted s)
    (hrows : RowsStep s s'.db.outbox) (ha : s'.attempts = s.attempts) : Truth s' := by
  have hrow : ∀ r' ∈ s'.db.outbox,
      (r'.status = .accepted → ∃ a ∈ s.attempts, a.outboxId = r'.id ∧ a.outcome = .accepted) ∧
      (r'.status = .failed ∨ r'.status = .cancelled →
        ∀ a ∈ s.attempts, a.outboxId = r'.id → a.outcome = .failed) := by
    intro r' hr'
    rcases hrows.rows r' hr' with ⟨-, hpending⟩ | ⟨r, hr, hid, -, rfl | ⟨-, hb⟩⟩
    · simp [hpending]
    · exact ⟨h.accepted r' hr, h.undelivered r' hr⟩
    · exact h.becomes hI hattempted hr hid hb
  constructor
  · rw [ha]
    exact fun r' hr' => (hrow r' hr').1
  · rw [ha]
    exact fun r' hr' => (hrow r' hr').2

/-- The attempt of a dispatcher inside `_send` is in flight. -/
theorem Inv.inFlight (h : Inv settings s) {i : ℕ} {claim : DispatchClaim} {message : Message}
    (hi : (s.dispatchers i).phase = .sending claim message) {a : Attempt} (ha : a ∈ s.attempts)
    (hclaim : a.claimId = claim.claimId) : a.outcome = .inFlight := by
  rw [List.inj_on_of_nodup_map h.attemptClaims ha (h.started_mem hi) hclaim]
  rfl

theorem Truth.start (h : Truth s) (hI : Inv settings s) {now : Timestamp} {claim : DispatchClaim}
    {message : Message} (hhit : (startSmtp s.db now claim).2 = true) :
    Truth { s with
      db.outbox := (startSmtp s.db now claim).1
      attempts := Attempt.started claim message :: s.attempts } := by
  obtain ⟨q, hq, hcan⟩ := List.any_eq_true.1 hhit
  obtain ⟨hid, hsending, -⟩ := holds_iff.1 (canStart_iff.1 hcan).1
  have hrow : ∀ r' ∈ (startSmtp s.db now claim).1, ∃ r ∈ s.db.outbox, r'.id = r.id ∧
      r'.status = r.status := by
    intro r' hr'
    rcases Table.mem_update.1 hr' with ⟨r, hr, -, rfl⟩ | ⟨hr, -⟩
    · exact ⟨r, hr, rfl, rfl⟩
    · exact ⟨r', hr, rfl, rfl⟩
  constructor
  · intro r' hr' hstatus
    obtain ⟨r, hr, hsame, hstatus'⟩ := hrow r' hr'
    obtain ⟨a, ha, hown, hresult⟩ := h.accepted r hr (hstatus'.symm.trans hstatus)
    exact ⟨a, List.mem_cons_of_mem _ ha, hown.trans hsame.symm, hresult⟩
  · intro r' hr' hstatus a ha hown
    obtain ⟨r, hr, hsame, hstatus'⟩ := hrow r' hr'
    rw [hstatus'] at hstatus
    rcases List.mem_cons.1 ha with rfl | ha
    · -- The row of the new attempt is being sent.
      have hqr : q.id = r.id := (hid.trans hown).trans hsame
      rw [hI.row_unique hr hq hqr] at hsending
      rw [hsending] at hstatus
      simp at hstatus
    · exact h.undelivered r hr hstatus a ha (hown.trans hsame)

theorem Truth.close (h : Truth s) (hI : Inv settings s) {i : ℕ} {claim : DispatchClaim}
    {message : Message} (hi : (s.dispatchers i).phase = .sending claim message)
    (outcome : AttemptOutcome) :
    Truth { s with attempts := closeAttempt claim.claimId outcome s.attempts } := by
  constructor
  · intro r hr hstatus
    obtain ⟨a, ha, hown, hresult⟩ := h.accepted r hr hstatus
    refine ⟨a, (mem_closeAttempt ..).2 (.inr ⟨ha, fun hclaim => ?_⟩), hown, hresult⟩
    rw [hI.inFlight hi ha hclaim] at hresult
    cases hresult
  · intro r hr hstatus a ha hown
    rcases (mem_closeAttempt ..).1 ha with ⟨b, hb, hclaim, rfl⟩ | ⟨ha, -⟩
    · have hfailed := h.undelivered r hr hstatus b hb hown
      rw [hI.inFlight hi hb hclaim] at hfailed
      cases hfailed
    · exact h.undelivered r hr hstatus a ha hown

theorem Truth.commit (h : Truth s) (hI : Inv settings s) (hlocks : LocksInv s) {k : ℕ}
    {t : EndingTransaction} (ht : s.transactions[k]? = some t) :
    Truth ({ s with db := t.publish s.db }.setTransaction k .idle) := by
  constructor
  · intro r' hr' hstatus
    obtain ⟨r, hr, hid, -, ⟨-, hcancelled⟩ | ⟨-, hsame, -⟩⟩ := t.exists_of_publish hr'
    · rw [hcancelled] at hstatus
      cases hstatus
    · rw [hid]
      exact h.accepted r hr (hsame.symm.trans hstatus)
  · intro r' hr' hstatus
    obtain ⟨r, hr, hid, -, ⟨hstopped, -⟩ | ⟨-, hsame, -⟩⟩ := t.exists_of_publish hr'
    · rw [hid]
      exact hI.failed_of_unstarted hr (hlocks.queued t (List.mem_of_getElem? ht) r hr hstopped)
    · rw [hid]
      rw [hsame] at hstatus
      exact h.undelivered r hr hstatus

theorem attempts_of_step {e : Event} (hs : SystemStep settings s e s')
    (he : ∀ i action, e ≠ .dispatcher i action) : s'.attempts = s.attempts := by
  cases hs with
  | dispatcher h _ => exact absurd h (he _ _)
  | _ => rfl

theorem Truth.step {e : Event} (h : Truth s) (hI : Inv settings s) (hattempted : Attempted s)
    (hlocks : LocksInv s) (hs : step settings s e = some s') : Truth s' := by
  by_cases hcommit : ∃ k, e = .commitEnding k
  · obtain ⟨k, rfl⟩ := hcommit
    obtain ⟨t, hk, ht⟩ := Option.bind_eq_some_iff.1 hs
    rw [commitEnding.eq_def] at ht
    split at ht <;> cases ht
    exact h.commit hI hlocks hk
  have hrows := rows_of_step hI hs fun k he => hcommit ⟨k, he⟩
  by_cases hdispatcher : ∃ i action, e = .dispatcher i action
  · obtain ⟨i, action, rfl⟩ := hdispatcher
    obtain ⟨⟨t, pc⟩, ht, rfl⟩ := Option.map_eq_some_iff.1 hs
    have hact := act_spec ht
    suffices hall : Truth t from ⟨hall.accepted, hall.undelivered⟩
    have hrows' : RowsStep s t.db.outbox := hrows
    generalize hphase : (s.dispatchers i).phase = phase at hact
    generalize pc.phase = phase' at hact
    cases hact with
    | read | stop _ | claim _ _ | requeue _ _ => exact h.rows hI hattempted hrows' rfl
    | start hhit => exact h.start hI hhit
    | sent | crash => exact h.close hI hphase _
  · exact h.rows hI hattempted hrows
      (attempts_of_step (step_spec hs) fun i action he => hdispatcher ⟨i, action, he⟩)

/-- The invariants together. -/
structure Faithful (settings : Settings) (s : MailSystem) : Prop where
  inv : Inv settings s
  locks : LocksInv s
  attempted : Attempted s
  truth : Truth s

theorem faithful_inductive (settings : Settings) :
    (mailSystem settings).Inductive (Faithful settings) where
  init s hs := by
    have hinv := (mailSystem_inv settings).init s hs
    obtain ⟨-, ho, hd, ht, ha, -, -⟩ := hs
    refine ⟨hinv, ⟨?_, ?_, ?_⟩, ?_, ⟨?_, ?_⟩⟩
    · simp [ht]
    · simp [ht]
    · simp [ht]
    · intro i claim outcome hi
      rw [hd] at hi
      cases hi
    · simp [ho]
    · simp [ho]
  step s e s' h hs :=
    ⟨h.inv.step (step_spec hs), h.locks.step h.inv hs, h.attempted.step h.inv (step_spec hs),
      h.truth.step h.inv h.attempted h.locks hs⟩

/-! ## What the server did -/

/-- A call of `_send` as the server saw it. `sendmail` returns when the message has been answered
with 250, and raises an `SMTPException` of its own (other than for a disconnection) only where it
has not read such an answer: there was none yet, it was another code, or a line of it was longer
than the 8192 bytes that `smtplib` reads. The `with` block around it says `QUIT` when it is left, and
where the answer is not 221 that raises an `SMTPResponseException` in place of whatever the block
ended with. -/
structure SmtpDialogue where
  /-- How the body of the block ended. -/
  body : SmtpOutcome
  /-- The message was answered with 250, in lines that `smtplib` reads. -/
  taken : Bool
  /-- `QUIT` was not answered with 221. -/
  quitRefused : Bool
  taken_of_returned : body = .returned → taken = true
  not_taken_of_smtpException : body = .smtpException → taken = false

namespace SmtpDialogue

/-- How `_send` ends. A disconnection during `QUIT` is passed over. -/
def outcome (d : SmtpDialogue) : SmtpOutcome :=
  if d.quitRefused then .smtpException else d.body

theorem taken_of_accepted {d : SmtpDialogue} (h : d.outcome.attemptOutcome = .accepted) :
    d.taken = true := by
  apply d.taken_of_returned
  rw [outcome] at h
  split at h
  · cases h
  · generalize d.body = body at h
    cases body <;> first | rfl | cases h

theorem quitRefused_of_failed {d : SmtpDialogue} (h : d.outcome.attemptOutcome = .failed)
    (htaken : d.taken = true) : d.quitRefused = true := by
  by_contra hquit
  rw [outcome, if_neg hquit] at h
  have hbody : d.body = .smtpException := by
    generalize d.body = body at h
    cases body <;> first | rfl | cases h
  rw [d.not_taken_of_smtpException hbody] at htaken
  cases htaken

end SmtpDialogue

/-- What became of an attempt is what its dispatcher made of the dialogue, once `_send` has ended;
`server` gives the dialogue for each claim. -/
def Recorded (server : Uuid → SmtpDialogue) (s : MailSystem) : Prop :=
  ∀ a ∈ s.attempts, a.outcome ≠ .inFlight → a.outcome ≠ .crashed →
    a.outcome = (server a.claimId).outcome.attemptOutcome

namespace Recorded

variable {server : Uuid → SmtpDialogue} {a : Attempt}

theorem taken (h : Recorded server s) (ha : a ∈ s.attempts) (haccepted : a.outcome = .accepted) :
    (server a.claimId).taken = true :=
  SmtpDialogue.taken_of_accepted
    ((h a ha (by simp [haccepted]) (by simp [haccepted])).symm.trans haccepted)

theorem quitRefused (h : Recorded server s) (ha : a ∈ s.attempts) (hfailed : a.outcome = .failed)
    (htaken : (server a.claimId).taken = true) : (server a.claimId).quitRefused = true :=
  SmtpDialogue.quitRefused_of_failed
    ((h a ha (by simp [hfailed]) (by simp [hfailed])).symm.trans hfailed) htaken

end Recorded

/-- **The outbox tells the truth** about every mail, whatever dispatchers crash and whatever else
writes the outbox meanwhile: a mail that is shown as accepted was taken by the SMTP server, and for
one that is shown as queued, failed or cancelled every attempt failed explicitly. So it was not
taken, save by a server that took it and then did not accept the dispatcher's `QUIT`. -/
theorem outbox_truthful (settings : Settings) (server : Uuid → SmtpDialogue) {s : MailSystem}
    (h : (mailSystem settings).Reachable s) (hserver : Recorded server s) {r : MailOutbox}
    (hr : r ∈ s.db.outbox) :
    (r.status = .accepted → ∃ a ∈ s.attempts, a.outboxId = r.id ∧ a.outcome = .accepted ∧
      (server a.claimId).taken = true) ∧
    (r.status = .pending ∨ r.status = .failed ∨ r.status = .cancelled →
      ∀ a ∈ s.attempts, a.outboxId = r.id → a.outcome = .failed ∧
        ((server a.claimId).taken = true → (server a.claimId).quitRefused = true)) := by
  have hall := (faithful_inductive settings).of_reachable h
  refine ⟨fun haccepted => ?_, fun hover a ha hrow => ?_⟩
  · obtain ⟨a, ha, hrow, houtcome⟩ := hall.truth.accepted r hr haccepted
    exact ⟨a, ha, hrow, houtcome, hserver.taken ha houtcome⟩
  · have hfailed : a.outcome = .failed := by
      rcases hover with hpending | hover
      · have hunstarted : r.unstarted = true := by simp [MailOutbox.unstarted, hpending]
        exact hall.inv.failed_of_unstarted hr hunstarted a ha hrow
      · exact hall.truth.undelivered r hr hover a ha hrow
    exact ⟨hfailed, hserver.quitRefused ha hfailed⟩

/-- The first attempt of the run is being made. -/
def firstSend : List Event :=
  upToFirstSend ++ [dispatch 20 100]

/-- The server takes every mail and refuses every `QUIT`. -/
def refusesQuit : SmtpDialogue where
  body := .returned
  taken := true
  quitRefused := true
  taken_of_returned _ := rfl
  not_taken_of_smtpException h := by cases h

/-- The attempt of the run ends with such a server, and is recorded. -/
def refusedQuit : List Event :=
  firstSend ++ [.dispatcher 0 (.smtp refusesQuit.outcome), dispatch 20 100]

/-- The mail is queued again although the server has it: the attempt has failed explicitly, and
`QUIT` was refused. -/
theorem outbox_truthful_refusedQuit :
    (after refusedQuit).db.outbox.map (·.status) = [.pending] ∧
      ∀ r ∈ (after refusedQuit).db.outbox,
        (r.status = .accepted → ∃ a ∈ (after refusedQuit).attempts, a.outboxId = r.id ∧
          a.outcome = .accepted ∧ refusesQuit.taken = true) ∧
        (r.status = .pending ∨ r.status = .failed ∨ r.status = .cancelled →
          ∀ a ∈ (after refusedQuit).attempts, a.outboxId = r.id → a.outcome = .failed ∧
            (refusesQuit.taken = true → refusesQuit.quitRefused = true)) := by
  have hrecorded : Recorded (fun _ => refusesQuit) (after refusedQuit) := by
    unfold Recorded
    decide
  exact ⟨by decide, fun _ hr => outbox_truthful .withoutCipher (fun _ => refusesQuit)
    ⟨.initial maintainedWork, refusedQuit, MailSystem.initial_init .withoutCipher _, rfl⟩
    hrecorded hr⟩

end Notifications

end Rulefolio
