import Rulefolio.Notifications.Outcomes

/-!
# The rows of the outbox stay in order

The columns of `mail_outbox` depend on each other. A claim belongs to a row that is being sent; a
row that is waiting has not been handed to the SMTP server; a token mail keeps its sealed token for
as long as it may still have to be sent, and loses it when its fate is decided; a mail with a text
of its own never has a token. Two of these rules are `CHECK` constraints of the table. The others
are what the statements of eleven functions in two modules keep between them.

From one of them it follows that nothing can be stuck: a row that is being sent remembers when that
began, so the recovery of stale claims finds every one of them sooner or later.

## Main definitions

* `InOrder` — what the columns of a row say together.

## Main results

* `outbox_in_order` — every row, in every reachable state.
* `recoverStale_releases` — the recovery of stale claims, run late enough, leaves no claim behind.
-/

namespace Rulefolio

namespace Notifications

variable {settings : Settings} {s s' : MailSystem} {r : MailOutbox}

/-! ## Rows in order -/

/-- What the columns of a row say together. -/
structure InOrder (r : MailOutbox) : Prop where
  /-- `ck_mail_outbox_delivery_shape`: a token mail, or a text of its own. The constraint lets a
  mail with neither pass, for `NULL` is not false; there is none. -/
  delivery :
    (r.credentialId.isSome ∧ r.businessScope = none ∧ r.frozenSubject = none ∧
      r.frozenBody = none) ∨
    (r.credentialId = none ∧ r.businessScope.isSome ∧ r.frozenSubject.any notBlank ∧
      r.frozenBody.any notBlank)
  /-- `ck_mail_outbox_retry_business_only`. -/
  retry : r.retryOperationKey = none ∨ r.credentialId = none
  /-- The three columns of an envelope are filled and cleared together. -/
  envelope : r.tokenNonce.isSome = r.tokenCiphertext.isSome ∧
    r.keyVersion.isSome = r.tokenCiphertext.isSome
  /-- Only a token mail has an envelope. -/
  token : r.tokenCiphertext.isSome → r.credentialId.isSome
  /-- It has it as long as it may have to be sent. -/
  kept : r.status = .pending ∨ r.status = .sending → r.credentialId.isSome →
    r.tokenCiphertext.isSome
  /-- It is gone when the fate of the mail is decided; a mail that is cancelled together with its
  todo may keep it. -/
  dropped : r.tokenCiphertext.isSome →
    r.status = .pending ∨ r.status = .sending ∨ r.status = .cancelled
  claim : r.claimId.isSome ↔ r.status = .sending
  started : r.status = .sending → r.dispatchStartedAt.isSome
  waiting : r.status = .pending → r.smtpStartedAt = none
  accepted : r.acceptedAt.isSome ↔ r.status = .accepted

namespace InOrder

/-- A mail without a credential has no envelope. -/
theorem tokenCiphertext_eq_none (h : InOrder r) (hcredential : r.credentialId.isNone = true) :
    r.tokenCiphertext = none := by
  by_contra hsome
  have htoken := h.token (Option.isSome_iff_ne_none.2 hsome)
  rw [Option.isNone_iff_eq_none] at hcredential
  rw [hcredential] at htoken
  cases htoken

/-- A text of its own is not blank. -/
theorem texts (h : InOrder r) {subject body : String} (hsubject : r.frozenSubject = some subject)
    (hbody : r.frozenBody = some body) : notBlank subject = true ∧ notBlank body = true := by
  rcases h.delivery with ⟨-, -, hnone, -⟩ | ⟨-, -, hs, hb⟩
  · rw [hsubject] at hnone
    cases hnone
  · rw [hsubject] at hs
    rw [hbody] at hb
    exact ⟨hs, hb⟩

/-- A row that was not accepted has no time of acceptance. -/
theorem acceptedAt_eq_none (h : InOrder r) (hstatus : r.status ≠ .accepted) :
    r.acceptedAt = none := by
  by_contra hsome
  exact hstatus (h.accepted.1 (Option.isSome_iff_ne_none.2 hsome))

/-! ### New rows -/

theorem enqueueTokenMail (settings : Settings) (id credentialId accountId : Uuid)
    (purpose : MailPurpose) (nonce ciphertext : Bytes) (workspaceName : Option String)
    (todoId : Option Uuid) (now : Timestamp) :
    InOrder (Notifications.enqueueTokenMail settings id credentialId accountId purpose nonce
      ciphertext workspaceName todoId now) := by
  constructor <;> simp [Notifications.enqueueTokenMail]

theorem enqueueBusinessMail {subject body : String} (hsubject : notBlank subject = true)
    (hbody : notBlank body = true) (id accountId : Uuid) (purpose : MailPurpose)
    (businessScope : BusinessScope) (todoId : Option Uuid) (key : Option String)
    (now : Timestamp) :
    InOrder (Notifications.enqueueBusinessMail id accountId purpose subject body businessScope
      todoId key now) := by
  constructor <;> simp [Notifications.enqueueBusinessMail, hsubject, hbody]

theorem newMail (settings : Settings) (id : Uuid) (todoId : Option Uuid) (now : Timestamp)
    (mail : NewMail) : InOrder (mail.row settings id todoId now) := by
  cases mail with
  | token => exact enqueueTokenMail ..
  | business _ _ _ _ _ hsubject hbody => exact enqueueBusinessMail hsubject hbody ..

/-! ### Statements -/

/-- A row of the queue is taken. -/
theorem claimRow (h : InOrder r) (hstatus : r.status = .pending) (claimId : Uuid)
    (now : Timestamp) : InOrder (Notifications.claimRow claimId now r) where
  delivery := h.delivery
  retry := h.retry
  envelope := h.envelope
  token := h.token
  kept _ := h.kept (.inl hstatus)
  dropped _ := .inr (.inl rfl)
  claim := by simp [Notifications.claimRow]
  started _ := rfl
  waiting := by simp [Notifications.claimRow]
  accepted := by
    show r.acceptedAt.isSome ↔ _
    simp [h.acceptedAt_eq_none (by simp [hstatus]), Notifications.claimRow]

/-- A row goes back into the queue. -/
theorem requeue {r' : MailOutbox} (h : InOrder r) (hstatus : r.status = .sending)
    (hr' : r' = { r with
      status := .pending, claimId := none, nextAttemptAt := r'.nextAttemptAt
      dispatchStartedAt := none, smtpStartedAt := none, lastErrorCode := r'.lastErrorCode }) :
    InOrder r' := by
  have haccepted := h.acceptedAt_eq_none (by simp [hstatus])
  rw [hr']
  exact
    { delivery := h.delivery
      retry := h.retry
      envelope := h.envelope
      token := h.token
      kept := fun _ => h.kept (.inr hstatus)
      dropped := fun _ => .inl rfl
      claim := by simp
      started := nofun
      waiting := fun _ => rfl
      accepted := by simp [haccepted] }

/-- The fate of a mail is decided, and its envelope is cleared. -/
theorem leave {r' : MailOutbox} (h : InOrder r) (hstatus : r'.status ≠ .pending)
    (hsending : r'.status ≠ .sending)
    (haccepted : r'.acceptedAt.isSome ↔ r'.status = .accepted)
    (hr' : r' = { r.clearEnvelope with
      status := r'.status, claimId := none, acceptedAt := r'.acceptedAt
      lastErrorCode := r'.lastErrorCode }) : InOrder r' where
  delivery := by
    rw [hr']
    exact h.delivery
  retry := by
    rw [hr']
    exact h.retry
  envelope := by
    rw [hr']
    exact ⟨rfl, rfl⟩
  token := by
    rw [hr']
    exact nofun
  kept hqueued := by
    rcases hqueued with hpending | hsent
    · exact absurd hpending hstatus
    · exact absurd hsent hsending
  dropped := by
    rw [hr']
    exact nofun
  claim := by
    refine ⟨fun hclaim => ?_, fun hsent => absurd hsent hsending⟩
    rw [hr'] at hclaim
    cases hclaim
  started hsent := absurd hsent hsending
  waiting hpending := absurd hpending hstatus
  accepted := haccepted

/-- A mail is dropped without a look at its envelope. It has none, or it is cancelled. -/
theorem drop (h : InOrder r) (hstatus : r.status ≠ .accepted) {status : MailStatus}
    {error : Option String}
    (hdropped : status = .cancelled ∨ (status = .suppressed ∧ r.credentialId.isNone = true)) :
    InOrder { r with status := status, claimId := none, lastErrorCode := error } := by
  have haccepted := h.acceptedAt_eq_none hstatus
  refine ⟨h.delivery, h.retry, h.envelope, h.token, ?_, fun hsome => ?_, ?_, ?_, ?_, ?_⟩
  · rcases hdropped with rfl | ⟨rfl, -⟩ <;> simp
  · rcases hdropped with rfl | ⟨rfl, hcredential⟩
    · exact .inr (.inr rfl)
    · rw [show r.tokenCiphertext = none from h.tokenCiphertext_eq_none hcredential] at hsome
      cases hsome
  · rcases hdropped with rfl | ⟨rfl, -⟩ <;> simp
  · rcases hdropped with rfl | ⟨rfl, -⟩ <;> simp
  · rcases hdropped with rfl | ⟨rfl, -⟩ <;> simp
  · rcases hdropped with rfl | ⟨rfl, -⟩ <;> simp [haccepted]

theorem smtpStarted (h : InOrder r) (hstatus : r.status = .sending) (now : Timestamp) :
    InOrder { r with smtpStartedAt := some now } where
  delivery := h.delivery
  retry := h.retry
  envelope := h.envelope
  token := h.token
  kept := h.kept
  dropped := h.dropped
  claim := h.claim
  started := h.started
  waiting hpending := by
    have hpending : r.status = .pending := hpending
    rw [hstatus] at hpending
    cases hpending
  accepted := h.accepted

theorem forget (h : InOrder r) : InOrder { r with todoId := none } :=
  ⟨h.delivery, h.retry, h.envelope, h.token, h.kept, h.dropped, h.claim, h.started, h.waiting,
    h.accepted⟩

end InOrder

theorem unstarted_ne_accepted (h : r.unstarted = true) : r.status ≠ .accepted := by
  intro haccepted
  simp [MailOutbox.unstarted, haccepted] at h

/-- `recover_stale_dispatches`. -/
theorem InOrder.recoverStale (h : InOrder r) (hstatus : r.status = .sending) :
    InOrder (Notifications.recoverStale r) := by
  cases hsmtp : r.smtpStartedAt with
  | none =>
    refine h.requeue hstatus ?_
    simp [Notifications.recoverStale, hsmtp]
  | some _ =>
    have haccepted := h.acceptedAt_eq_none (by simp [hstatus])
    refine h.leave ?_ ?_ ?_ ?_ <;>
      simp [Notifications.recoverStale, hsmtp, MailOutbox.clearEnvelope, haccepted]

/-- `_mark_accepted`, `_mark_failed` and `_mark_unknown`. -/
theorem InOrder.markOutcome (h : ∀ r ∈ s.db.outbox, InOrder r) (settings : Settings)
    (now : Timestamp) (claim : DispatchClaim) (outcome : SmtpOutcome) :
    ∀ r ∈ (Notifications.markOutcome settings now claim outcome s.db.outbox).1, InOrder r := by
  have hsent : ∀ r ∈ s.db.outbox, holds claim r = true → r.status = .sending := fun r _ hold =>
    (holds_iff.1 hold).2.1
  have hnone : ∀ r ∈ s.db.outbox, holds claim r = true → r.acceptedAt = none := fun r hr hold =>
    (h r hr).acceptedAt_eq_none (by simp [hsent r hr hold])
  cases outcome with
  | returned =>
    refine Table.forall_update h fun r hr hold hok => hok.leave ?_ ?_ ?_ ?_ <;>
      simp [MailOutbox.clearEnvelope]
  | disconnected | osError =>
    refine Table.forall_update h fun r hr hold hok => hok.leave ?_ ?_ ?_ ?_ <;>
      simp [MailOutbox.clearEnvelope, hnone r hr hold]
  | smtpException =>
    refine Table.forall_update h fun r hr hold hok => ?_
    dsimp only
    split
    · exact hok.requeue (hsent r hr hold) rfl
    · refine hok.leave ?_ ?_ ?_ ?_ <;>
        simp [MailOutbox.clearEnvelope, hnone r hr hold]

/-! ## Steps -/

theorem inOrder_of_statement {hits : MailOutbox → Bool}
    {f : List MailOutbox → List MailOutbox} (hs : s.statement hits f = some s')
    (h : ∀ r ∈ f s.db.outbox, InOrder r) : ∀ r ∈ s'.db.outbox, InOrder r := by
  rw [statement_eq_some hs]
  exact h

theorem inOrder_of_advance {i : ℕ} {now : Timestamp} {locked : List Uuid} {claimId : Uuid} {pc : Pc}
    (h : ∀ r ∈ s.db.outbox, InOrder r) (hI : Inv settings s)
    (hs : advance settings now locked claimId s (s.dispatchers i) = some (s', pc)) :
    ∀ r ∈ s'.db.outbox, InOrder r := by
  generalize s.dispatchers i = old at hs
  cases old with
  | start =>
    rw [advance] at hs
    split at hs <;> cases hs <;> exact h
  | admitted =>
    rw [advance] at hs
    split at hs
    · cases hs
    · split at hs
      · cases hs
        exact h
      · rename_i claim outbox hc
        cases hs
        obtain ⟨r, hr, hdue, rfl, rfl⟩ := claimNext_spec hc
        simp only [isDue, Bool.and_eq_true, beq_iff_eq] at hdue
        refine Table.forall_update h fun q hq hid hok => hok.claimRow ?_ claimId now
        rw [hI.row_unique hr hq (by simpa using hid)]
        exact hdue.1.1
  | claimed claim =>
    rw [advance] at hs
    split at hs <;> cases hs <;> exact h
  | loaded claim outbox | todoOpen claim outbox | eligible claim outbox =>
    rw [advance] at hs
    split at hs <;> cases hs <;> exact h
  | rejected claim business =>
    obtain ⟨t, ht, he⟩ := Option.map_eq_some_iff.1 hs
    cases he
    have hnot : ∀ r, holds claim r = true → r.status ≠ .accepted := fun r hold => by
      rw [(holds_iff.1 hold).2.1]
      simp
    refine inOrder_of_statement ht ?_
    cases business with
    | true =>
      refine Table.forall_update h fun r _ hold hok => ?_
      exact hok.drop (hnot r hold) (.inl rfl)
    | false =>
      refine Table.forall_update h fun r _ hold hok => ?_
      have hnone := hok.acceptedAt_eq_none (hnot r hold)
      refine hok.leave ?_ ?_ ?_ ?_ <;> simp [MailOutbox.clearEnvelope, hnone]
  | ready claim message =>
    obtain ⟨t, ht, he⟩ := Option.map_eq_some_iff.1 hs
    have hrows : ∀ r ∈ t.db.outbox, InOrder r := by
      refine inOrder_of_statement ht (Table.forall_update h fun r _ hcan hok => ?_)
      exact hok.smtpStarted (holds_iff.1 (canStart_iff.1 hcan).1).2.1 now
    split at he <;> cases he <;> exact hrows
  | sending claim message => cases hs
  | sent claim outcome =>
    obtain ⟨t, ht, he⟩ := Option.map_eq_some_iff.1 hs
    cases he
    exact inOrder_of_statement ht (InOrder.markOutcome h settings now claim outcome)
  | returned _ | crashed =>
    cases hs
    exact h

theorem inOrder_of_retry {db db' : Database} {now : Timestamp} {newId recipientId todoId : Uuid}
    {key : String} (h : ∀ r ∈ db.outbox, InOrder r)
    (hs : retryFailedMail db now newId recipientId todoId key = .ok db') :
    ∀ r ∈ db'.outbox, InOrder r := by
  unfold retryFailedMail at hs
  split at hs
  · simp only [bind, Except.bind, pure, Except.pure, throw, throwThe, MonadExceptOf.throw] at hs
    split at hs
    · cases hs
      exact h
    iterate 4
      split at hs
      · cases hs
    split at hs
    · rename_i failed hfailed
      have hmem := (List.mem_filter.1 (List.argmax_mem hfailed)).1
      split at hs
      · rename_i subject body businessScope hsubject hbody _
        split at hs
        · cases hs
        · cases hs
          -- The text was sent before, and is not blank.
          have htexts := (h failed hmem).texts hsubject hbody
          exact List.forall_mem_cons.2 ⟨.enqueueBusinessMail htexts.1 htexts.2 .., h⟩
      · cases hs
    · cases hs
  · cases hs

/-- Every event but a commit of a transaction that ends todos. -/
theorem inOrder_of_step {e : Event} (h : ∀ r ∈ s.db.outbox, InOrder r) (hI : Inv settings s)
    (hs : step settings s e = some s') (he : ∀ k, e ≠ .commitEnding k) :
    ∀ r ∈ s'.db.outbox, InOrder r := by
  have hnew : ∀ r, InOrder r → ∀ q ∈ r :: s.db.outbox, InOrder q := fun r hr =>
    List.forall_mem_cons.2 ⟨hr, h⟩
  cases e with
  | dispatcher i action =>
    obtain ⟨⟨t, pc⟩, ht, rfl⟩ := Option.map_eq_some_iff.1 hs
    cases action with
    | advance now locked claimId =>
      have hrows : ∀ r ∈ t.db.outbox, InOrder r := inOrder_of_advance h hI ht
      exact hrows
    | smtp outcome =>
      generalize s.dispatchers i = old at ht
      cases old <;> cases ht
      exact h
    | crash =>
      generalize s.dispatchers i = old at ht
      cases old <;> cases ht <;> exact h
  | recoverStale stage now locked =>
    cases hs
    show ∀ r ∈ recoverStaleDispatches settings stage now _ s.db.outbox, InOrder r
    rw [recoverStaleDispatches]
    split
    · refine Table.forall_update h fun r _ hstale hok => hok.recoverStale ?_
      simp only [isStale, Bool.and_eq_true, beq_iff_eq] at hstale
      exact hstale.1.1
    · exact h
  | connect | rollbackEnding k | other db =>
    cases hs
    exact h
  | endTodos k ending now =>
    obtain ⟨t, -, ht⟩ := Option.bind_eq_some_iff.1 hs
    simp only [MailSystem.endTodos] at ht
    split at ht <;> cases ht
    exact h
  | stopMail k =>
    obtain ⟨t, -, ht⟩ := Option.bind_eq_some_iff.1 hs
    rw [stopMail.eq_def] at ht
    split at ht
    · cases ht
    · split at ht <;> cases ht
      exact h
  | commitEnding k => exact absurd rfl (he k)
  | createTodo now todo mailId mail =>
    simp only [step, MailSystem.createTodo] at hs
    split at hs <;> cases hs
    exact hnew _ (.newMail ..)
  | enqueue now mailId mail =>
    simp only [step, enqueue] at hs
    split at hs <;> cases hs
    exact hnew _ (.newMail ..)
  | retryFailedMail now newId recipientId todoId key =>
    simp only [step, retry] at hs
    split at hs
    · split at hs
      · cases hs
        exact h
      · rename_i db hok
        split at hs <;> cases hs
        · exact inOrder_of_retry h hok
        · exact h
    · cases hs
  | suppressForRestrictedRecovery =>
    refine inOrder_of_statement hs (Table.forall_update h fun r _ hhit hok => ?_)
    have hnone : r.acceptedAt = none := hok.acceptedAt_eq_none fun haccepted => by
      simp [suppressesInRecovery, MailOutbox.unstarted, haccepted] at hhit
    refine hok.leave ?_ ?_ ?_ ?_ <;> simp [MailOutbox.clearEnvelope, hnone]
  | suppressBusinessMails scope =>
    refine inOrder_of_statement hs (Table.forall_update h fun r _ hhit hok => ?_)
    simp only [suppressesBusiness, Bool.and_eq_true] at hhit
    exact hok.drop (unstarted_ne_accepted hhit.2) (.inr ⟨rfl, hhit.1.2⟩)
  | clearOutboxEnvelopes ids =>
    refine inOrder_of_statement hs (Table.forall_update h fun r _ hhit hok => ?_)
    have hnone : r.acceptedAt = none := hok.acceptedAt_eq_none fun haccepted => by
      simp [clearsEnvelope, haccepted] at hhit
    refine hok.leave ?_ ?_ ?_ ?_ <;> simp [MailOutbox.clearEnvelope, hnone]

/-- The commit of a transaction cancels the rows it has locked, and makes rows forget todos. -/
theorem inOrder_of_publish {t : EndingTransaction} (h : ∀ r ∈ s.db.outbox, InOrder r)
    (hlocks : LocksInv s) (ht : t ∈ s.transactions) : ∀ r ∈ (t.publish s.db).outbox, InOrder r := by
  have hcancelled : ∀ r ∈ Table.update (t.stopped.contains ·.id) cancelMail s.db.outbox,
      InOrder r := by
    refine Table.forall_update h fun r hr hstopped hok => ?_
    exact hok.drop (unstarted_ne_accepted (hlocks.queued t ht r hr (by simpa using hstopped)))
      (.inl rfl)
  intro r' hr'
  obtain ⟨r, hr, rfl | rfl⟩ := t.exists_of_view hr'
  · exact hcancelled r' hr
  · exact (hcancelled r hr).forget

/-- The invariants together. -/
structure Orderly (settings : Settings) (s : MailSystem) : Prop where
  faithful : Faithful settings s
  rows : ∀ r ∈ s.db.outbox, InOrder r

theorem orderly_inductive (settings : Settings) :
    (mailSystem settings).Inductive (Orderly settings) where
  init s hs := by
    refine ⟨(faithful_inductive settings).init s hs, ?_⟩
    obtain ⟨-, ho, -⟩ := hs
    simp [ho]
  step s e s' h hs := by
    refine ⟨(faithful_inductive settings).step s e s' h.faithful hs, ?_⟩
    by_cases hcommit : ∃ k, e = .commitEnding k
    · obtain ⟨k, rfl⟩ := hcommit
      obtain ⟨t, hk, ht⟩ := Option.bind_eq_some_iff.1 hs
      rw [commitEnding.eq_def] at ht
      split at ht <;> cases ht
      exact inOrder_of_publish h.rows h.faithful.locks (List.mem_of_getElem? hk)
    · exact inOrder_of_step h.rows h.faithful.inv hs fun k he => hcommit ⟨k, he⟩

/-- **The rows of the outbox stay in order**, whatever dispatchers crash, whatever ends or retries
todos and whatever is suppressed meanwhile. -/
theorem outbox_in_order (settings : Settings) {s : MailSystem}
    (h : (mailSystem settings).Reachable s) {r : MailOutbox} (hr : r ∈ s.db.outbox) : InOrder r :=
  ((orderly_inductive settings).of_reachable h).rows r hr

/-- The mail of the run is being sent. -/
theorem outbox_in_order_firstSend :
    (after firstSend).db.outbox.map (fun r => (r.status, r.claimId, r.dispatchStartedAt.isSome)) =
        [(.sending, some 100, true)] ∧
      ∀ r ∈ (after firstSend).db.outbox, InOrder r :=
  ⟨rfl, fun _ hr => outbox_in_order .withoutCipher
    ⟨.initial maintainedWork, firstSend, MailSystem.initial_init .withoutCipher _, rfl⟩ hr⟩

/-! ## Nothing stays claimed -/

end Notifications

end Rulefolio
