import Rulefolio.Notifications.MailSystem

/-!
# Statements that leave the queue alone

Most writers of the outbox only take rows out of the queue or relabel rows that are out of it.
`Quiet` says so for one row: it is not put back into the queue and gets no claim it did not have.
`QuietUpdate` says so for the table after a statement. Everything that has to be known about
these statements for the safety of dispatching is that they are quiet; this file proves it once
for each of them.

Three statements are not quiet: `claimNext`, `markFailed` while attempts are left, and the
insertion of a row.

## Main definitions

* `Quiet`, `QuietUpdate`.

## Main results

* `recoverStaleDispatches_quiet`, `markOutcome_quiet`, `EndingTransaction.publish_quiet` and
  their siblings, one for each statement.
-/

namespace Rulefolio

namespace Notifications

/-- The row is not put back into the queue and is not claimed. -/
structure Quiet (r r' : MailOutbox) : Prop where
  id : r'.id = r.id
  attemptCount : r'.attemptCount = r.attemptCount
  unstarted : r'.unstarted = true → r.unstarted = true
  claimId : ∀ c, r'.claimId = some c → r.claimId = some c
  sending : r'.status = .sending → r.status = .sending ∧ r'.claimId = r.claimId

namespace Quiet

theorem refl (r : MailOutbox) : Quiet r r :=
  ⟨rfl, rfl, fun h => h, fun _ h => h, fun h => ⟨h, rfl⟩⟩

theorem trans {r r' r'' : MailOutbox} (h : Quiet r r') (h' : Quiet r' r'') : Quiet r r'' where
  id := h'.id.trans h.id
  attemptCount := h'.attemptCount.trans h.attemptCount
  unstarted hu := h.unstarted (h'.unstarted hu)
  claimId c hc := h.claimId c (h'.claimId c hc)
  sending hs := by
    obtain ⟨hs', hc'⟩ := h'.sending hs
    obtain ⟨hs, hc⟩ := h.sending hs'
    exact ⟨hs, hc'.trans hc⟩

/-- Leaving the queue and giving up the claim is quiet, whatever else changes. -/
theorem of_retired {r r' : MailOutbox} (hid : r'.id = r.id)
    (hn : r'.attemptCount = r.attemptCount) (hc : r'.claimId = none)
    (hp : r'.status ≠ .pending) (hs : r'.status ≠ .sending) : Quiet r r' where
  id := hid
  attemptCount := hn
  unstarted hu := by simp [MailOutbox.unstarted, hp, hs] at hu
  claimId c h := by simp [hc] at h
  sending h := absurd h hs

end Quiet

/-- The table after a statement that is quiet on every row. -/
def QuietUpdate (t t' : List MailOutbox) : Prop :=
  ∃ f : MailOutbox → MailOutbox, t' = t.map f ∧ ∀ r, Quiet r (f r)

namespace QuietUpdate

theorem refl (t : List MailOutbox) : QuietUpdate t t :=
  ⟨id, by simp, Quiet.refl⟩

theorem trans {t t' t'' : List MailOutbox} (h : QuietUpdate t t') (h' : QuietUpdate t' t'') :
    QuietUpdate t t'' := by
  obtain ⟨f, rfl, hf⟩ := h
  obtain ⟨g, rfl, hg⟩ := h'
  exact ⟨g ∘ f, by simp, fun r => (hf r).trans (hg (f r))⟩

theorem update {p : MailOutbox → Bool} {f : MailOutbox → MailOutbox} (t : List MailOutbox)
    (h : ∀ r, p r = true → Quiet r (f r)) : QuietUpdate t (Table.update p f t) := by
  refine ⟨fun r => if p r then f r else r, rfl, fun r => ?_⟩
  by_cases hp : p r = true
  · simpa [hp] using h r hp
  · simpa [hp] using Quiet.refl r

theorem exists_of_mem {t t' : List MailOutbox} (h : QuietUpdate t t') {r' : MailOutbox}
    (hr : r' ∈ t') : ∃ r ∈ t, Quiet r r' := by
  obtain ⟨f, rfl, hf⟩ := h
  obtain ⟨r, hr', rfl⟩ := List.mem_map.1 hr
  exact ⟨r, hr', hf r⟩

theorem map_id {t t' : List MailOutbox} (h : QuietUpdate t t') :
    t'.map (·.id) = t.map (·.id) := by
  obtain ⟨f, rfl, hf⟩ := h
  rw [List.map_map]
  exact List.map_congr_left fun r _ => (hf r).id

end QuietUpdate

/-! ### The quiet statements -/

theorem cancelMail_quiet (r : MailOutbox) : Quiet r (cancelMail r) :=
  Quiet.of_retired rfl rfl rfl (by simp [cancelMail]) (by simp [cancelMail])

theorem suppressForRestrictedRecovery_quiet (t : List MailOutbox) :
    QuietUpdate t (suppressForRestrictedRecovery t) :=
  QuietUpdate.update t fun _ _ => Quiet.of_retired rfl rfl rfl (by simp) (by simp)

theorem suppressBusinessMails_quiet (scope : BusinessScope) (t : List MailOutbox) :
    QuietUpdate t (suppressBusinessMails scope t) :=
  QuietUpdate.update t fun _ _ => Quiet.of_retired rfl rfl rfl (by simp) (by simp)

theorem clearOutboxEnvelopes_quiet (ids : List Uuid) (t : List MailOutbox) :
    QuietUpdate t (clearOutboxEnvelopes ids t) :=
  QuietUpdate.update t fun _ _ => Quiet.of_retired rfl rfl rfl (by simp) (by simp)

/-- A stale row that is put back was in the queue already: SMTP had not been called for it. -/
theorem recoverStale_quiet (r : MailOutbox) (h : r.status = .sending) :
    Quiet r (recoverStale r) := by
  cases hs : r.smtpStartedAt with
  | none =>
    simp only [recoverStale, hs]
    exact ⟨rfl, rfl, fun _ => by simp [MailOutbox.unstarted, h, hs], by simp, by simp⟩
  | some _ =>
    simp only [recoverStale, hs]
    exact Quiet.of_retired rfl rfl rfl (by simp) (by simp)

theorem recoverStaleDispatches_quiet (settings : Settings) (stage : RecoveryStage)
    (now : Timestamp) (locked : List Uuid) (t : List MailOutbox) :
    QuietUpdate t (recoverStaleDispatches settings stage now locked t) := by
  unfold recoverStaleDispatches
  split
  · refine QuietUpdate.update t fun r hr => recoverStale_quiet r ?_
    simp only [isStale, Bool.and_eq_true, beq_iff_eq] at hr
    exact hr.1.1
  · exact QuietUpdate.refl t

theorem forgetTodo_quiet (todoId : Uuid) (t : List MailOutbox) :
    QuietUpdate t (forgetTodo todoId t) :=
  QuietUpdate.update t fun _ _ => ⟨rfl, rfl, fun h => h, fun _ h => h, fun h => ⟨h, rfl⟩⟩

theorem Verdict.apply_quiet (now : Timestamp) (todoId : Uuid) (db : Database) (v : Verdict) :
    QuietUpdate db.outbox (v.apply now todoId db).outbox := by
  cases v with
  | completed => exact QuietUpdate.refl _
  | cancelled => exact QuietUpdate.refl _
  | deleted => exact forgetTodo_quiet todoId _

theorem EndingTransaction.view_quiet (t : EndingTransaction) (db : Database) :
    QuietUpdate db.outbox (t.view db).outbox := by
  unfold EndingTransaction.view
  induction t.ended generalizing db with
  | nil => exact QuietUpdate.refl _
  | cons e es ih => exact (Verdict.apply_quiet _ _ _ _).trans (ih _)

theorem EndingTransaction.publish_quiet (t : EndingTransaction) (db : Database) :
    QuietUpdate db.outbox (t.publish db).outbox :=
  (QuietUpdate.update _ fun r _ => cancelMail_quiet r).trans (t.view_quiet _)

theorem markIneligible_quiet (claim : DispatchClaim) (t : List MailOutbox) :
    QuietUpdate t (markIneligible claim t).1 :=
  QuietUpdate.update t fun _ _ => Quiet.of_retired rfl rfl rfl (by simp) (by simp)

theorem markBusinessIneligible_quiet (claim : DispatchClaim) (t : List MailOutbox) :
    QuietUpdate t (markBusinessIneligible claim t).1 :=
  QuietUpdate.update t fun _ _ => Quiet.of_retired rfl rfl rfl (by simp) (by simp)

theorem startSmtp_quiet (db : Database) (now : Timestamp) (claim : DispatchClaim) :
    QuietUpdate db.outbox (startSmtp db now claim).1 := by
  refine QuietUpdate.update _ fun r _ => ⟨rfl, rfl, fun hu => ?_, fun _ h => h, fun h => ⟨h, rfl⟩⟩
  have hp : r.status = .pending := by simpa [MailOutbox.unstarted] using hu
  simp [MailOutbox.unstarted, hp]

/-- Recording an outcome is quiet, unless an explicit failure leaves attempts to spare. -/
theorem markOutcome_quiet (settings : Settings) (now : Timestamp) (claim : DispatchClaim)
    (outcome : SmtpOutcome) (t : List MailOutbox)
    (h : outcome ≠ .smtpException ∨ settings.mailMaxAttempts ≤ claim.attemptCount) :
    QuietUpdate t (markOutcome settings now claim outcome t).1 := by
  cases outcome with
  | smtpException =>
    have hn : ¬ claim.attemptCount < settings.mailMaxAttempts := by simpa using h
    refine QuietUpdate.update t fun r _ => ?_
    simp only [hn, if_false]
    exact Quiet.of_retired rfl rfl rfl (by simp) (by simp)
  | returned =>
    exact QuietUpdate.update t fun _ _ => Quiet.of_retired rfl rfl rfl (by simp) (by simp)
  | disconnected | osError =>
    exact QuietUpdate.update t fun _ _ => Quiet.of_retired rfl rfl rfl (by simp) (by simp)

end Notifications

end Rulefolio
