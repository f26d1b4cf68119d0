import Rulefolio.Notifications.Quiet

/-!
# What a step of the mail system can do

`step` has fifteen kinds of events and a dispatcher a dozen program counters, but little of that
matters to an invariant. `ActStep` and `SystemStep` say once what a step can do to the outbox, to
the todos and to the history, with the guards that were passed; `act_spec` and `step_spec` are the
inversion lemmas. Later proofs are case analyses over their constructors and never unfold `step`.

For the safety of dispatching, a program counter matters only through its `Phase`: which claim
the dispatcher holds, and whether it is before, in or after `_send`.

## Main definitions

* `Phase`, `Pc.phase`.
* `ActStep`, `SystemStep` — the possible effects.

## Main results

* `act_spec`, `step_spec`.
-/

namespace Rulefolio

namespace Notifications

/-! ## Phases -/

/-- How far a dispatcher is with its claim. -/
inductive Phase
  | idle
  /-- Claimed, and `_start_smtp` has not been called. -/
  | before (claim : DispatchClaim)
  | sending (claim : DispatchClaim) (message : Message)
  | sent (claim : DispatchClaim) (outcome : SmtpOutcome)

/-- The claim of a dispatcher that is not idle. -/
def Phase.claim? : Phase → Option DispatchClaim
  | .idle => none
  | .before claim | .sending claim _ | .sent claim _ => some claim

/-- The phase of a program counter. -/
def Pc.phase : Pc → Phase
  | .claimed claim | .loaded claim _ | .todoOpen claim _ | .eligible claim _
  | .rejected claim _ | .ready claim _ => .before claim
  | .sending claim message => .sending claim message
  | .sent claim outcome => .sent claim outcome
  | .start | .admitted | .returned _ | .crashed => .idle

/-! ## A step of a dispatcher -/

/-- The attempt that a successful `_start_smtp` starts. -/
def Attempt.started (claim : DispatchClaim) (message : Message) : Attempt :=
  ⟨claim.outboxId, claim.claimId, message, .inFlight⟩

/-- A statement that is quiet and does not touch `todo_id`. -/
structure KeepsTodo (t t' : List MailOutbox) : Prop where
  quiet : QuietUpdate t t'
  todoId : t'.map (·.todoId) = t.map (·.todoId)

/-- The possible effects of a dispatcher's step: on the state, and from one phase to another. -/
inductive ActStep (settings : Settings) (s : MailSystem) (action : Action) :
    Phase → MailSystem → Phase → Prop
  /-- It reads, and goes on under the same claim. -/
  | read {phase : Phase} : ActStep settings s action phase s phase
  /-- It runs a quiet statement, or none, and has no claim any more. -/
  | stop {phase : Phase} {outbox : List MailOutbox} (h : KeepsTodo s.db.outbox outbox) :
      ActStep settings s action phase { s with db.outbox := outbox } .idle
  | claim {now : Timestamp} {locked : List Uuid} {claimId : Uuid} {claim : DispatchClaim}
      {outbox : List MailOutbox} (fresh : claimId ∉ s.issued)
      (h : claimNext now locked claimId s.db.outbox = some (claim, outbox)) :
      ActStep settings s action .idle
        { s with db.outbox := outbox, issued := claimId :: s.issued } (.before claim)
  | start {now : Timestamp} {claim : DispatchClaim} {message : Message}
      (hit : (startSmtp s.db now claim).2 = true) :
      ActStep settings s action (.before claim)
        { s with
          db.outbox := (startSmtp s.db now claim).1,
          attempts := Attempt.started claim message :: s.attempts }
        (.sending claim message)
  /-- `_send` returns. -/
  | sent {claim : DispatchClaim} {message : Message} {outcome : SmtpOutcome} :
      ActStep settings s action (.sending claim message)
        { s with attempts := closeAttempt claim.claimId outcome.attemptOutcome s.attempts }
        (.sent claim outcome)
  /-- The dispatcher dies during `_send`. -/
  | crash {claim : DispatchClaim} {message : Message} :
      ActStep settings s action (.sending claim message)
        { s with attempts := closeAttempt claim.claimId .crashed s.attempts } .idle
  /-- An explicit failure with attempts to spare: the row goes back into the queue. -/
  | requeue {now : Timestamp} {locked : List Uuid} {claimId : Uuid} {claim : DispatchClaim}
      (advances : action = .advance now locked claimId)
      (spare : claim.attemptCount < settings.mailMaxAttempts) :
      ActStep settings s action (.sent claim .smtpException)
        { s with db.outbox := (markFailed settings now claim s.db.outbox).1 } .idle

theorem KeepsTodo.refl (t : List MailOutbox) : KeepsTodo t t := ⟨QuietUpdate.refl t, rfl⟩

/-- It gives up without a statement. -/
theorem ActStep.giveUp {settings : Settings} {s : MailSystem} {action : Action} {phase : Phase} :
    ActStep settings s action phase s .idle :=
  ActStep.stop (KeepsTodo.refl s.db.outbox)

theorem markOutcome_todoId (settings : Settings) (now : Timestamp) (claim : DispatchClaim)
    (outcome : SmtpOutcome) (t : List MailOutbox) :
    (markOutcome settings now claim outcome t).1.map (·.todoId) = t.map (·.todoId) := by
  cases outcome with
  | returned | disconnected | osError => exact Table.map_update t fun _ _ => rfl
  | smtpException => exact Table.map_update t fun _ _ => by dsimp only; split <;> rfl

theorem statement_eq_some {s s' : MailSystem} {hits : MailOutbox → Bool}
    {f : List MailOutbox → List MailOutbox} (h : s.statement hits f = some s') :
    s' = { s with db.outbox := f s.db.outbox } := by
  unfold MailSystem.statement at h
  split at h
  · cases h
  · exact (Option.some.inj h).symm

theorem advance_spec {settings : Settings} {s s' : MailSystem} {pc pc' : Pc} {now : Timestamp}
    {locked : List Uuid} {claimId : Uuid}
    (hs : advance settings now locked claimId s pc = some (s', pc')) :
    ActStep settings s (.advance now locked claimId) pc.phase s' pc'.phase := by
  cases pc with
  | start =>
    simp only [advance] at hs
    split at hs <;> cases hs <;> exact .read
  | admitted =>
    simp only [advance] at hs
    split at hs
    · cases hs
    · rename_i hfresh
      split at hs <;> cases hs
      · exact .read
      · exact .claim (by simpa using hfresh) ‹_›
  | claimed claim =>
    simp only [advance] at hs
    split at hs <;> cases hs
    · exact .giveUp
    · exact .read
  | loaded claim outbox | todoOpen claim outbox | eligible claim outbox =>
    simp only [advance] at hs
    split at hs <;> cases hs <;> exact .read
  | rejected claim business =>
    obtain ⟨t, ht, he⟩ := Option.map_eq_some_iff.1 hs
    cases he
    rw [statement_eq_some ht]
    cases business with
    | true =>
      exact .stop ⟨markBusinessIneligible_quiet claim _, Table.map_update s.db.outbox
        fun _ _ => rfl⟩
    | false =>
      exact .stop ⟨markIneligible_quiet claim _, Table.map_update s.db.outbox fun _ _ => rfl⟩
  | ready claim message =>
    obtain ⟨t, ht, he⟩ := Option.map_eq_some_iff.1 hs
    have hts := statement_eq_some ht
    split at he <;> cases he <;> rw [hts]
    · exact .start ‹_›
    · exact .stop ⟨startSmtp_quiet s.db now claim, Table.map_update _ fun _ _ => rfl⟩
  | sending claim message => cases hs
  | sent claim outcome =>
    obtain ⟨t, ht, he⟩ := Option.map_eq_some_iff.1 hs
    cases he
    rw [statement_eq_some ht]
    by_cases hq : outcome ≠ .smtpException ∨ settings.mailMaxAttempts ≤ claim.attemptCount
    · exact .stop ⟨markOutcome_quiet settings now claim outcome _ hq, markOutcome_todoId ..⟩
    · push Not at hq
      obtain ⟨rfl, hn⟩ := hq
      exact .requeue rfl hn
  | returned _ | crashed =>
    cases hs
    exact .read

theorem act_spec {settings : Settings} {s s' : MailSystem} {pc pc' : Pc} {action : Action}
    (hs : act settings s pc action = some (s', pc')) :
    ActStep settings s action pc.phase s' pc'.phase := by
  cases action with
  | advance now locked claimId => exact advance_spec hs
  | smtp outcome =>
    cases pc <;> cases hs
    exact .sent
  | crash =>
    cases pc with
    | sending claim message =>
      cases hs
      exact .crash
    | _ =>
      cases hs
      exact .giveUp

/-! ## A step of the system -/

/-- Replace the program counter of one dispatcher. -/
def MailSystem.setPc (s : MailSystem) (i : ℕ) (pc : Pc) : MailSystem :=
  { s with dispatchers := Function.update s.dispatchers i pc }

@[simp] theorem MailSystem.setPc_self (s : MailSystem) (i : ℕ) (pc : Pc) :
    (s.setPc i pc).dispatchers i = pc := by simp [MailSystem.setPc]

theorem MailSystem.setPc_ne (s : MailSystem) {i j : ℕ} (pc : Pc) (h : j ≠ i) :
    (s.setPc i pc).dispatchers j = s.dispatchers j := by simp [MailSystem.setPc, h]

/-- A row as the enqueueing functions add it. -/
structure Enqueued (r : MailOutbox) : Prop where
  status : r.status = .pending
  claimId : r.claimId = none

@[simp] theorem NewMail.row_id (settings : Settings) (id : Uuid) (todoId : Option Uuid)
    (now : Timestamp) (mail : NewMail) : (mail.row settings id todoId now).id = id := by
  cases mail <;> rfl

@[simp] theorem NewMail.row_todoId (settings : Settings) (id : Uuid) (todoId : Option Uuid)
    (now : Timestamp) (mail : NewMail) : (mail.row settings id todoId now).todoId = todoId := by
  cases mail <;> rfl

theorem NewMail.row_enqueued (settings : Settings) (id : Uuid) (todoId : Option Uuid)
    (now : Timestamp) (mail : NewMail) : Enqueued (mail.row settings id todoId now) := by
  cases mail <;> exact ⟨rfl, rfl⟩

/-- The possible effects of an event. -/
inductive SystemStep (settings : Settings) (s : MailSystem) (e : Event) : MailSystem → Prop
  | dispatcher {i : ℕ} {action : Action} {s' : MailSystem} {pc : Pc}
      (he : e = .dispatcher i action)
      (h : ActStep settings s action (s.dispatchers i).phase s' pc.phase) :
      SystemStep settings s e (s'.setPc i pc)
  | statement {outbox : List MailOutbox} (h : KeepsTodo s.db.outbox outbox) :
      SystemStep settings s e { s with db.outbox := outbox }
  | connect : SystemStep settings s e { s with transactions := s.transactions ++ [.idle] }
  | rollback (k : ℕ) : SystemStep settings s e (s.setTransaction k .idle)
  | endTodos {k : ℕ} {t : EndingTransaction} {ids : List Uuid} {verdict : Verdict}
      {now : Timestamp} (ht : s.transactions[k]? = some t) (hp : t.pendingStops = []) :
      SystemStep settings s e (s.setTransaction k
        { t with ended := t.ended ++ ids.map (⟨·, verdict, now⟩), pendingStops := ids })
  | stopMail {k : ℕ} {t : EndingTransaction} {todoId : Uuid} {rest : List Uuid}
      (ht : s.transactions[k]? = some t) (hp : t.pendingStops = todoId :: rest) :
      SystemStep settings s e (s.setTransaction k
        { t with
          pendingStops := rest
          stopped := t.stopped ++ (s.db.outbox.filter (t.stops todoId)).map (·.id) })
  | commit {k : ℕ} {t : EndingTransaction} (ht : s.transactions[k]? = some t)
      (hp : t.pendingStops = []) :
      SystemStep settings s e ({ s with db := t.publish s.db }.setTransaction k .idle)
  | createTodo {todo : NotificationTodo} {r : MailOutbox} (freshTodo : freshTodo s todo.id = true)
      (fresh : freshOutbox s r.id = true) (hr : Enqueued r) (htodo : r.todoId = some todo.id) :
      SystemStep settings s e
        { s with
          db.todos := todo :: s.db.todos
          db.outbox := r :: s.db.outbox
          enqueuedFor := (r.id, todo.id) :: s.enqueuedFor }
  | enqueue {r : MailOutbox} (fresh : freshOutbox s r.id = true) (hr : Enqueued r)
      (htodo : r.todoId = none) :
      SystemStep settings s e { s with db.outbox := r :: s.db.outbox }
  /-- A retry adds a row to an open todo that no transaction has locked. -/
  | retry {todo : NotificationTodo} {r : MailOutbox} (fresh : freshOutbox s r.id = true)
      (hr : Enqueued r) (htodo : r.todoId = some todo.id) (unlocked : todo.id ∉ s.lockedTodos) :
      SystemStep settings s e
        { s with
          db.todos :=
            Table.update (·.id == todo.id) (fun t => { t with retryUsed := true }) s.db.todos
          db.outbox := r :: s.db.outbox
          enqueuedFor := (r.id, todo.id) :: s.enqueuedFor }
  | refused : SystemStep settings s e s
  | other (db : Database) :
      SystemStep settings s e { s with db := { db with todos := s.db.todos, outbox :=
        s.db.outbox } }

theorem ActStep.dispatchers {settings : Settings} {s s' : MailSystem} {action : Action}
    {phase phase' : Phase}
    (h : ActStep settings s action phase s' phase') : s'.dispatchers = s.dispatchers := by
  cases h <;> rfl

/-- What a permitted retry adds; a repeated one finds its row and adds nothing. -/
theorem retryFailedMail_spec {db db' : Database} {now : Timestamp}
    {newId recipientId todoId : Uuid} {key : String}
    (h : retryFailedMail db now newId recipientId todoId key = .ok db') :
    db' = db ∨ ∃ (todo : NotificationTodo) (r : MailOutbox), todo.id = todoId ∧ r.id = newId ∧
      r.todoId = some todo.id ∧ Enqueued r ∧ db' = { db with
        todos := Table.update (·.id == todo.id) (fun t => { t with retryUsed := true }) db.todos
        outbox := r :: db.outbox } := by
  unfold retryFailedMail at h
  split at h
  · rename_i todo htodo
    have hid : todo.id = todoId := by
      have := List.find?_some htodo
      simp only [Bool.and_eq_true, beq_iff_eq] at this
      exact this.1
    simp only [bind, Except.bind, pure, Except.pure, throw, throwThe, MonadExceptOf.throw] at h
    repeat' split at h
    all_goals cases h
    · exact Or.inl rfl
    · exact Or.inr ⟨todo, _, hid, rfl, rfl, ⟨rfl, rfl⟩, rfl⟩
  · cases h

theorem not_mem_of_freshOutbox {s : MailSystem} {id : Uuid} (h : freshOutbox s id = true) :
    id ∉ s.db.outbox.map (·.id) := by
  simp only [freshOutbox, Bool.and_eq_true] at h
  simpa using h.1

theorem step_spec {settings : Settings} {s s' : MailSystem} {e : Event}
    (hs : step settings s e = some s') : SystemStep settings s e s' := by
  cases e with
  | dispatcher i action =>
    obtain ⟨⟨t, pc⟩, ht, rfl⟩ := Option.map_eq_some_iff.1 hs
    have h := act_spec ht
    simpa [MailSystem.setPc, h.dispatchers] using SystemStep.dispatcher rfl h
  | recoverStale stage now locked =>
    cases hs
    refine .statement ⟨recoverStaleDispatches_quiet .., ?_⟩
    unfold recoverStaleDispatches
    split
    · exact Table.map_update _ fun r _ => by unfold recoverStale; split <;> rfl
    · rfl
  | connect =>
    cases hs
    exact .connect
  | endTodos k ending now =>
    obtain ⟨t, hk, ht⟩ := Option.bind_eq_some_iff.1 hs
    simp only [MailSystem.endTodos] at ht
    split at ht <;> cases ht
    rename_i hg
    exact .endTodos hk (by_contra fun hp => hg (Or.inl hp))
  | stopMail k =>
    obtain ⟨t, hk, ht⟩ := Option.bind_eq_some_iff.1 hs
    unfold stopMail at ht
    split at ht
    · cases ht
    · split at ht <;> cases ht
      exact .stopMail hk ‹_›
  | commitEnding k =>
    obtain ⟨t, hk, ht⟩ := Option.bind_eq_some_iff.1 hs
    unfold commitEnding at ht
    split at ht <;> cases ht
    exact .commit hk (by simpa using ‹¬ t.pendingStops ≠ []›)
  | rollbackEnding k =>
    cases hs
    exact .rollback k
  | createTodo now todo mailId mail =>
    simp only [step, MailSystem.createTodo] at hs
    split at hs <;> cases hs
    rename_i hg
    simp only [Bool.and_eq_true] at hg
    have h := @SystemStep.createTodo settings s (.createTodo now todo mailId mail) (newTodo todo)
      (mail.row settings mailId (some todo.id) now) hg.1.1 (by simpa using hg.1.2)
      (NewMail.row_enqueued ..) (by simp [newTodo])
    simpa [newTodo] using h
  | enqueue now mailId mail =>
    simp only [step, enqueue] at hs
    split at hs <;> cases hs
    exact .enqueue (by simpa) (NewMail.row_enqueued ..) (by simp)
  | retryFailedMail now newId recipientId todoId key =>
    simp only [step, retry] at hs
    split at hs
    · rename_i hg
      simp only [Bool.and_eq_true] at hg
      split at hs
      · cases hs
        exact .refused
      · rename_i db hdb
        split at hs <;> cases hs
        · rename_i hnew
          rcases retryFailedMail_spec hdb with rfl | ⟨todo, r, rfl, rfl, htodo, hr, rfl⟩
          · obtain ⟨r, hr, hid⟩ := List.any_eq_true.1 hnew
            have hfresh := not_mem_of_freshOutbox hg.1
            exact absurd (List.mem_map.2 ⟨r, hr, by simpa using hid⟩) hfresh
          · exact .retry hg.1 hr htodo (by simpa using hg.2)
        · exact .refused
    · cases hs
  | suppressForRestrictedRecovery =>
    rw [statement_eq_some hs]
    exact .statement ⟨suppressForRestrictedRecovery_quiet _, Table.map_update _ fun _ _ => rfl⟩
  | suppressBusinessMails scope =>
    rw [statement_eq_some hs]
    exact .statement ⟨suppressBusinessMails_quiet scope _, Table.map_update _ fun _ _ => rfl⟩
  | clearOutboxEnvelopes ids =>
    rw [statement_eq_some hs]
    exact .statement ⟨clearOutboxEnvelopes_quiet ids _, Table.map_update _ fun _ _ => rfl⟩
  | other db =>
    cases hs
    exact .other db

end Notifications

end Rulefolio
