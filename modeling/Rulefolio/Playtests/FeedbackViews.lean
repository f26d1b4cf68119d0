import Rulefolio.Evidence.Feedback
import Rulefolio.Library.KeyViews
import Rulefolio.Playtests.Footprint

/-!
# Feedback under concurrency

The feedback of a session is a view of the database, guarded by the lock of the session: every
operation that writes one of these rows has locked the session first. So each operation is followed
on the view of its session, and its commit is a `Feedback.Change` there.

That an item and a submission are written by their keys alone, without their session, is the one
thing the view does not show. The keys of all items differ, and those of all submissions, because a
new one is inserted under a lock of its key.

## Main definitions

* `feedbackViews`, `itemKeys`, `submissionKeys` — the views.
* `FeedbackInOrder` — the invariant of the database.
* `FeedbackEffect` — what the commit of a call with an expected revision does.

## Main results

* `closed_amongFeedback`, `respected_feedbackViews` — the calls respect each other.
* `Change.sameFeedback` — most calls leave feedback alone.
-/

namespace Rulefolio

namespace Playtests

open ReadCommitted
open Evidence (Feedback FeedbackItemDraft FeedbackAnswerDraft)

/-! ## The views -/

/-- The feedback of a session, guarded by the lock of the session. -/
def feedbackViews : LockedViews Database RowKey Uuid Feedback where
  view n db :=
    { items := Table.rowsWith (·.sessionId) n db.feedbackItems
      options := Table.rowsWith (·.sessionId) n db.feedbackOptions
      submissions := Table.rowsWith (·.sessionId) n db.feedbackSubmissions
      answers := Table.rowsWith (·.sessionId) n db.feedbackAnswers }
  lock := .session

/-- The keys of all items. -/
def itemKeys : LockedViews Database RowKey Uuid ℕ :=
  .ofKeys (fun db => db.feedbackItems.map (·.id)) .feedbackItem

/-- The keys of all submissions. -/
def submissionKeys : LockedViews Database RowKey Uuid ℕ :=
  .ofKeys (fun db => db.feedbackSubmissions.map (·.id)) .feedbackSubmission

/-- The feedback of every session is in order, and the keys of items and of submissions differ. -/
structure FeedbackInOrder (db : Database) : Prop where
  session : ∀ n, (feedbackViews.view n db).Ok
  items : (db.feedbackItems.map (·.id)).Nodup
  submissions : (db.feedbackSubmissions.map (·.id)).Nodup

/-- The commit of an update of an item: it has found the item at the expected revision, and it
leaves it at the next one, with the question and the options of the draft. -/
def ItemUpdated (uuids : Uuids) (n itemId : Uuid) (expectedRevision : ℤ)
    (draft : FeedbackItemDraft) (v w : Feedback) : Prop :=
  ∃ item ∈ v.items, item.id = itemId ∧ (item.revision : ℤ) = expectedRevision ∧
    item.isLocked = false ∧ w = ((v.setItem itemId draft (item.revision + 1)).dropOptions
      itemId).addOptions (Evidence.optionRows uuids n itemId draft.options)

/-- The commit of an update of a submission: it has found the submission at the expected revision,
and it leaves it at the next one, with the answers of the draft as they were validated. -/
def SubmissionUpdated (n : Uuid) (which : PlaytestFeedbackSubmission → Prop)
    (expectedRevision : ℤ) (drafts : List FeedbackAnswerDraft) (v w : Feedback) : Prop :=
  ∃ old ∈ v.submissions, ∃ s answers, which old ∧ (old.revision : ℤ) = expectedRevision ∧
    s = { old with
      source := s.source
      temporaryAlias := s.temporaryAlias
      status := s.status
      revision := old.revision + 1 } ∧
    drafts.mapM (Evidence.validatedAnswer n
      (v.items.filter fun i => (drafts.map (·.itemId)).contains i.id)
      (v.options.filter fun o => (drafts.filterMap (·.optionId)).contains o.id)) = some answers ∧
    w = ((v.setSubmission s).dropAnswers s.id).addAnswers s answers

/-- The commit of a creation of an item: the item under the key is there, new or from before. -/
def ItemAccepted (operationKey : String) (w : Feedback) : Prop :=
  ∃ item ∈ w.items, item.creationOperationKey = operationKey

/-- What the commit of a call does that creates an item or carries an expected revision. -/
def FeedbackEffect : Call → Database → Database → Prop
  | .createFeedbackItem _ _ _ _ n operationKey draft, _, db' =>
    (Evidence.itemDraft draft).isSome ∧ Evidence.validOperationKey operationKey = true ∧
      ItemAccepted operationKey (feedbackViews.view n db')
  | .updateFeedbackItem uuids _ _ _ n itemId expectedRevision draft, db, db' =>
    ∃ draft', Evidence.itemDraft draft = some draft' ∧ ItemUpdated uuids n itemId expectedRevision
      draft' (feedbackViews.view n db) (feedbackViews.view n db')
  | .updateFeedbackSubmission _ _ _ n submissionId expectedRevision draft, db, db' =>
    SubmissionUpdated n (·.id = submissionId) expectedRevision draft.answers
      (feedbackViews.view n db) (feedbackViews.view n db')
  | .saveParticipantFeedback _ _ actorId n _ (some expectedRevision) draft, db, db' =>
    SubmissionUpdated n (·.directAuthorAccountId = some actorId) expectedRevision draft.answers
      (feedbackViews.view n db) (feedbackViews.view n db')
  | _, _, _ => True

/-- What a commit of a call does to feedback. -/
def feedbackGuarantee (call : Call) : Tx.Guarantee Database RowKey := fun _ H db db' =>
  (feedbackViews.Commits Feedback.Change H db db' ∧ FeedbackEffect call db db') ∧
    itemKeys.Commits LockedViews.KeepsUnique H db db' ∧
      submissionKeys.Commits LockedViews.KeepsUnique H db db'

theorem feedbackGuarantee_inOrder {call : Call} {n : ℕ} {H : Set (RowKey × RowLock)}
    {db db' : Database} (h : feedbackGuarantee call n H db db') (hdb : FeedbackInOrder db) :
    FeedbackInOrder db' where
  session n := (h.1.1.step n).ok (hdb.session n)
  items := h.2.1.nodup_keys hdb.items
  submissions := h.2.2.nodup_keys hdb.submissions

/-- The environment the calls make for each other. -/
abbrev amongFeedback : Environment Database RowKey :=
  environment FeedbackInOrder feedbackGuarantee

theorem closed_amongFeedback : Closed amongFeedback feedbackGuarantee :=
  closed_environment fun _ _ _ _ _ hs hG => feedbackGuarantee_inOrder hG hs

theorem respected_feedbackViews : feedbackViews.Respected amongFeedback :=
  LockedViews.respected_environment fun _ _ _ _ _ hG => hG.1.1.locked

theorem respected_itemKeys : itemKeys.Respected amongFeedback :=
  LockedViews.respected_environment fun _ _ _ _ _ hG => hG.2.1.locked

theorem respected_submissionKeys : submissionKeys.Respected amongFeedback :=
  LockedViews.respected_environment fun _ _ _ _ _ hG => hG.2.2.locked

/-! ## What leaves feedback alone -/

/-- The four tables of feedback are left alone. -/
theorem sameFeedback_of_tables {db db' : Database} (hitems : db'.feedbackItems = db.feedbackItems)
    (hoptions : db'.feedbackOptions = db.feedbackOptions)
    (hsubmissions : db'.feedbackSubmissions = db.feedbackSubmissions)
    (hanswers : db'.feedbackAnswers = db.feedbackAnswers) : feedbackViews.Same db db' := by
  intro n
  simp only [feedbackViews, hitems, hoptions, hsubmissions, hanswers]

theorem frame_feedbackViews : Frame feedbackViews.Same fun _ => True := by
  intro db db' h
  cases h with
  | ended now todoId verdict =>
    cases verdict <;> exact sameFeedback_of_tables rfl rfl rfl rfl
  | _ => exact sameFeedback_of_tables rfl rfl rfl rfl

/-- What a call does that writes no feedback. -/
theorem Change.sameFeedback {call : Call} (hcall : call.writesFeedback = false)
    {db db' : Database} (h : Change call db db') : feedbackViews.Same db db' := by
  have hno : ∀ p : Call → Bool, (∀ c, p c = true → c.writesFeedback = true) → ¬p call = true :=
    fun p hp hc => by simp [hp call hc] at hcall
  cases h with
  | aside h =>
    refine frame_feedbackViews db db' ?_
    cases h with
    | same => exact .same
    | mails change => exact .mails change
    | ended now todoId verdict => exact .ended now todoId verdict
    | created todo => exact .created todo trivial
    | notified participantId outboxId => exact .notified participantId outboxId
  | feedbackWritten h => exact absurd h (hno _ fun _ => id)
  | itemCreated h => exact absurd h (hno _ fun c => by cases c <;>
      simp [Call.writesItems, Call.writesFeedback])
  | itemDeleted h => exact absurd h (hno _ fun c => by cases c <;>
      simp [Call.writesItems, Call.writesFeedback])
  | submissionCreated h => exact absurd h (hno _ fun c => by cases c <;>
      simp [Call.writesSubmissions, Call.writesFeedback])
  | submissionRewritten h => exact absurd h (hno _ fun c => by cases c <;>
      simp [Call.writesSubmissions, Call.writesFeedback])
  | _ => exact sameFeedback_of_tables rfl rfl rfl rfl

/-- What a call does that neither creates nor deletes an item. -/
theorem Change.sameItemKeys {call : Call} (hcall : call.writesItems = false) {db db' : Database}
    (h : Change call db db') : itemKeys.Same db db' := by
  cases h with
  | aside h =>
    cases h with
    | ended now todoId verdict => cases verdict <;> exact LockedViews.same_of_keys rfl
    | _ => exact LockedViews.same_of_keys rfl
  | itemCreated h => rw [hcall] at h; cases h
  | itemDeleted h => rw [hcall] at h; cases h
  | feedbackWritten _ items options answers hitems => exact LockedViews.same_of_keys hitems
  | _ => exact LockedViews.same_of_keys rfl

/-- What a call does that writes no submission. -/
theorem Change.sameSubmissionKeys {call : Call} (hcall : call.writesSubmissions = false)
    {db db' : Database} (h : Change call db db') : submissionKeys.Same db db' := by
  cases h with
  | aside h =>
    cases h with
    | ended now todoId verdict => cases verdict <;> exact LockedViews.same_of_keys rfl
    | _ => exact LockedViews.same_of_keys rfl
  | submissionCreated h => rw [hcall] at h; cases h
  | submissionRewritten h => rw [hcall] at h; cases h
  | _ => exact LockedViews.same_of_keys rfl

end Playtests

end Rulefolio
