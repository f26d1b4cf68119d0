import Rulefolio.Playtests.FeedbackCalls
import Rulefolio.Playtests.LinkedFeedback
import Rulefolio.Playtests.Revisions

/-!
# Answers conform, and no edit of feedback is lost

Two consequences of `safeFeedback_of_reachable`, for every interleaving of the calls. Feedback is in
order in every reachable state, and what an answer depends on stays as it is from then on. And the
calls that carry an expected revision of an item or of a submission are ordered by it: a commit has
found the revision it expects, raises it by one and stores exactly what its call was given.

The key of an item may be used again after the item was deleted, which no submission is; so two
commits expect the same revision of an item only when it was deleted in between.

## Main definitions

* `ItemEdited`, `SubmissionEdited` — what an edit leaves behind.
* `FeedbackLinear` — the order of the edits.

## Main results

* `feedback_conforms`, `feedback_edits_kept`.
-/

namespace Rulefolio

namespace Playtests

open ReadCommitted
open Evidence (Feedback FeedbackItemDraft FeedbackAnswerDraft)

variable {settings : Settings} {normalizeEmail : String → Option String}
  {c : Config Database RowKey ServiceError Unit Call}

/-- Every commit of every call does its part. -/
theorem feedbackCommitted (h : (system settings normalizeEmail).Reachable c)
    {e : ReadCommitted.Commit Database Call} (he : e ∈ c.history) :
    FeedbackInOrder e.before ∧ (∀ n, Feedback.Change (feedbackViews.view n e.before)
      (feedbackViews.view n e.after)) ∧ FeedbackEffect e.op e.before e.after := by
  obtain ⟨hbefore, n, H, hcommit⟩ := (safeFeedback_of_reachable h).history e he
  exact ⟨hbefore, hcommit.1.1.step, hcommit.1.2⟩

/-! ## Answers -/

/-- An item of a session and its options are now as they were then. -/
def ItemKept (item : PlaytestFeedbackItem) (then_ now : Database) : Prop :=
  item ∈ now.feedbackItems ∧ (feedbackViews.view item.sessionId now).optionsOf item.id =
    (feedbackViews.view item.sessionId then_).optionsOf item.id

/-- **Answers conform to their questions**, whatever the calls and their interleaving: in every
reachable configuration the feedback of every session is in order, and an item that an answer was
ever stored for is locked since, and has stayed as it was then, with its options. -/
theorem feedback_conforms (h : (system settings normalizeEmail).Reachable c) :
    (∀ n, (feedbackViews.view n c.db).Ok) ∧
      ∀ e ∈ c.history, ∀ a ∈ e.after.feedbackAnswers, ∃ item ∈ e.after.feedbackItems,
        item.id = a.itemId ∧ item.sessionId = a.sessionId ∧ item.isLocked = true ∧
          ItemKept item e.after c.db := by
  refine ⟨(feedback_of_reachable h).session, fun e he a ha => ?_⟩
  obtain ⟨_, rfl, hlinked⟩ := (ReadCommitted.wellFormed_of_reachable h).linked
  have hok : ∀ e ∈ c.history, ∀ n, (feedbackViews.view n e.after).Ok := fun e he n =>
    ((feedbackCommitted h he).2.1 n).ok ((feedbackCommitted h he).1.session n)
  obtain ⟨item, hitem, hid, hlocked, -⟩ := (hok e he a.sessionId).conforms a
    (Table.mem_rowsWith.2 ⟨ha, rfl⟩)
  obtain ⟨hmem, hn⟩ := Table.mem_rowsWith.1 hitem
  refine ⟨item, hmem, hid, hn, hlocked, ?_⟩
  have hkept := hlinked.later
    (R := fun db db' => Feedback.KeepsLocked (feedbackViews.view a.sessionId db)
      (feedbackViews.view a.sessionId db')) (fun _ => Feedback.KeepsLocked.refl _)
    (fun _ _ _ => Feedback.KeepsLocked.trans) (fun e he =>
      ((feedbackCommitted h he).2.1 a.sessionId).keepsLocked
        ((feedbackCommitted h he).1.session a.sessionId)) he
  obtain ⟨hnow, hoptions⟩ := hkept item hitem hlocked
  rw [ItemKept, hn]
  exact ⟨(Table.mem_rowsWith.1 hnow).1, hoptions⟩

/-! ## Edits -/

/-- An item was edited: it was there at the expected revision, and it is there at the next one, with
the question of the draft and exactly its options. -/
def ItemEdited (uuids : Uuids) (n itemId : Uuid) (expectedRevision : ℤ) (draft : FeedbackItemDraft)
    (v w : Feedback) : Prop :=
  ∃ old ∈ v.items, ∃ new ∈ w.items, old.id = itemId ∧ new.id = itemId ∧
    (old.revision : ℤ) = expectedRevision ∧ new.revision = old.revision + 1 ∧
    new.kind = draft.kind ∧ new.question = draft.question ∧
    w.optionsOf itemId = Evidence.optionRows uuids n itemId draft.options

/-- A submission was edited: it was there at the expected revision, and it is there at the next one,
with exactly the answers of the draft. -/
def SubmissionEdited (n : Uuid) (which : PlaytestFeedbackSubmission → Prop) (expectedRevision : ℤ)
    (drafts : List FeedbackAnswerDraft) (v w : Feedback) : Prop :=
  ∃ old ∈ v.submissions, ∃ new ∈ w.submissions, ∃ answers, which old ∧ new.id = old.id ∧
    (old.revision : ℤ) = expectedRevision ∧ new.revision = old.revision + 1 ∧
    drafts.mapM (Evidence.validatedAnswer n
      (v.items.filter fun i => (drafts.map (·.itemId)).contains i.id)
      (v.options.filter fun o => (drafts.filterMap (·.optionId)).contains o.id)) = some answers ∧
    w.answersOf new.id = (answers.map (Evidence.answerRow new)).reverse

theorem ItemUpdated.edited {uuids : Uuids} {n itemId : Uuid} {expectedRevision : ℤ}
    {draft : FeedbackItemDraft} {v w : Feedback}
    (h : ItemUpdated uuids n itemId expectedRevision draft v w) :
    ItemEdited uuids n itemId expectedRevision draft v w := by
  obtain ⟨item, hitem, rfl, hrevision, -, rfl⟩ := h
  refine ⟨item, hitem, _, Table.mem_update.2 (.inl ⟨item, hitem, beq_self_eq_true _, rfl⟩), rfl,
    rfl, hrevision, rfl, rfl, rfl, ?_⟩
  exact Feedback.optionsOf_addOptions_dropOptions fun o ho => (optionRows_sessionId ho).2

theorem SubmissionUpdated.edited {n : Uuid} {which : PlaytestFeedbackSubmission → Prop}
    {expectedRevision : ℤ} {drafts : List FeedbackAnswerDraft} {v w : Feedback}
    (h : SubmissionUpdated n which expectedRevision drafts v w) :
    SubmissionEdited n which expectedRevision drafts v w := by
  obtain ⟨old, hold, s, answers, hwhich, hrevision, hs, hvalid, rfl⟩ := h
  have hid : s.id = old.id := by rw [hs]
  have hnext : s.revision = old.revision + 1 := by rw [hs]
  refine ⟨old, hold, s, ?_, answers, hwhich, hid, hrevision, hnext, hvalid, ?_⟩
  · rw [Feedback.addAnswers_submissions]
    refine Table.mem_update.2 (.inl ⟨old, hold, beq_iff_eq.2 hid.symm, ?_⟩)
    rw [← hnext] at hs
    exact hs
  · exact Feedback.answersOf_addAnswers

/-- What the commit of a call with an expected revision has done. -/
def FeedbackEdited : Call → Database → Database → Prop
  | .updateFeedbackItem uuids _ _ _ n itemId expectedRevision draft, db, db' =>
    ∃ draft', Evidence.itemDraft draft = some draft' ∧ ItemEdited uuids n itemId expectedRevision
      draft' (feedbackViews.view n db) (feedbackViews.view n db')
  | .updateFeedbackSubmission _ _ _ n submissionId expectedRevision draft, db, db' =>
    SubmissionEdited n (·.id = submissionId) expectedRevision draft.answers
      (feedbackViews.view n db) (feedbackViews.view n db')
  | .saveParticipantFeedback _ _ actorId n _ (some expectedRevision) draft, db, db' =>
    SubmissionEdited n (·.directAuthorAccountId = some actorId) expectedRevision draft.answers
      (feedbackViews.view n db) (feedbackViews.view n db')
  | _, _, _ => True

theorem FeedbackEffect.edited {call : Call} {db db' : Database} (h : FeedbackEffect call db db') :
    FeedbackEdited call db db' := by
  cases call with
  | updateFeedbackItem =>
    obtain ⟨draft', hdraft, h⟩ := h
    exact ⟨draft', hdraft, h.edited⟩
  | updateFeedbackSubmission => exact SubmissionUpdated.edited h
  | saveParticipantFeedback _ _ _ _ _ expectedRevision =>
    cases expectedRevision with
    | none => trivial
    | some expectedRevision => exact SubmissionUpdated.edited h
  | _ => trivial

namespace Call

/-- The session, the item and the revision an update of an item expects. -/
def itemRevision : Call → Option (Uuid × Uuid × ℤ)
  | updateFeedbackItem _ _ _ _ sessionId itemId expectedRevision _ =>
    some (sessionId, itemId, expectedRevision)
  | _ => none

/-- The revision an update of this submission expects. -/
def submissionRevision (s : PlaytestFeedbackSubmission) : Call → Option ℤ
  | updateFeedbackSubmission _ _ _ sessionId submissionId expectedRevision _ =>
    if s.sessionId = sessionId ∧ s.id = submissionId then some expectedRevision else none
  | saveParticipantFeedback _ _ actorId sessionId _ expectedRevision _ =>
    if s.sessionId = sessionId ∧ s.directAuthorAccountId = some actorId then expectedRevision
    else none
  | _ => none

end Call

/-- The submission is there, at this revision or a later one. -/
def SubmissionReached (n id : Uuid) (k : ℕ) (db : Database) : Prop :=
  ∃ s ∈ (feedbackViews.view n db).submissions, s.id = id ∧ k ≤ s.revision

/-- The item is there, at this revision or a later one. -/
def ItemReached (n id : Uuid) (k : ℕ) (db : Database) : Prop :=
  ∃ i ∈ (feedbackViews.view n db).items, i.id = id ∧ k ≤ i.revision

/-- A commit of an update of a submission has found it at the expected revision and has raised
it. -/
theorem submission_raised {call : Call} {db db' : Database} (hdb : FeedbackInOrder db)
    (h : FeedbackEdited call db db') {s : PlaytestFeedbackSubmission}
    (hs : s ∈ db.feedbackSubmissions) {expectedRevision : ℤ}
    (hcall : call.submissionRevision s = some expectedRevision) :
    (s.revision : ℤ) = expectedRevision ∧
      SubmissionReached s.sessionId s.id (s.revision + 1) db' := by
  have hmem : s ∈ (feedbackViews.view s.sessionId db).submissions :=
    Table.mem_rowsWith.2 ⟨hs, rfl⟩
  have hraised : ∀ {which : PlaytestFeedbackSubmission → Prop} {drafts},
      (∀ old ∈ (feedbackViews.view s.sessionId db).submissions, which old → old.id = s.id) →
      SubmissionEdited s.sessionId which expectedRevision drafts
        (feedbackViews.view s.sessionId db) (feedbackViews.view s.sessionId db') →
      (s.revision : ℤ) = expectedRevision ∧
        SubmissionReached s.sessionId s.id (s.revision + 1) db' := by
    rintro which drafts hwhich ⟨old, hold, new, hnew, answers, hold', hid, hrevision, hnext, -⟩
    obtain rfl := Feedback.eq_of_nodup (hdb.session _).submissions hold hmem (hwhich old hold hold')
    exact ⟨hrevision, new, hnew, hid, hnext.ge⟩
  cases call with
  | updateFeedbackSubmission actorId workspaceId workId n submissionId expected draft =>
    rw [Call.submissionRevision] at hcall
    split at hcall
    · rename_i hof
      obtain ⟨rfl, rfl⟩ := hof
      cases hcall
      exact hraised (fun _ _ hold => hold) h
    · cases hcall
  | saveParticipantFeedback uuids now actorId n operationKey expected draft =>
    rw [Call.submissionRevision] at hcall
    split at hcall
    · rename_i hof
      obtain ⟨rfl, hauthor⟩ := hof
      cases hcall
      exact hraised (fun old hold hold' =>
        (hdb.session _).direct old hold s hmem actorId hold' hauthor) h
    · cases hcall
  | _ => cases hcall

/-- The order that expected revisions give to the edits of a history. -/
structure FeedbackLinear (history : List (ReadCommitted.Commit Database Call)) : Prop where
  /-- Every commit has found what it expects, raises it by one and stores what it was given. -/
  edited : ∀ e ∈ history, FeedbackEdited e.op e.before e.after
  /-- No two commits expect the same revision of the same submission. -/
  submission : history.Pairwise fun e e' => ∀ s ∈ e.before.feedbackSubmissions,
    ∀ s' ∈ e'.before.feedbackSubmissions, s'.id = s.id →
      ∀ r, e.op.submissionRevision s = some r → e'.op.submissionRevision s' ≠ some r
  /-- No two commits expect the same revision of the same item, unless it was deleted in between. -/
  item : ∀ later e between e' earlier, history = later ++ e :: between ++ e' :: earlier →
    ∀ n i r, e.op.itemRevision = some (n, i, r) → e'.op.itemRevision = some (n, i, r) →
      ∃ d ∈ between, ∀ item ∈ (feedbackViews.view n d.after).items, item.id ≠ i

/-- A submission that was raised stays there, at this revision or a later one. -/
theorem SubmissionReached.later {e : ReadCommitted.Commit Database Call}
    (hbefore : FeedbackInOrder e.before)
    (hchange : ∀ n, Feedback.Change (feedbackViews.view n e.before) (feedbackViews.view n e.after))
    {n id : Uuid} {k : ℕ} (h : SubmissionReached n id k e.before) :
    SubmissionReached n id k e.after := by
  obtain ⟨s, hs, hid, hk⟩ := h
  obtain ⟨s', hs', hid', hk'⟩ := (hchange n).submission_kept (hbefore.session n) hs
  exact ⟨s', hs', hid'.trans hid, hk.trans hk'⟩

/-- An item stays there, at this revision or a later one, as long as no commit deletes it. -/
theorem ItemReached.later {history : List (ReadCommitted.Commit Database Call)} {db db' : Database}
    (hlinked : ReadCommitted.Linked db history db')
    (hcommits : ∀ e ∈ history, FeedbackInOrder e.before ∧ ∀ n, Feedback.Change
      (feedbackViews.view n e.before) (feedbackViews.view n e.after)) {n id : Uuid} {k : ℕ}
    (hthere : ∀ e ∈ history, ∃ item ∈ (feedbackViews.view n e.after).items, item.id = id)
    (h : ItemReached n id k db) : ItemReached n id k db' := by
  induction history generalizing db' with
  | nil =>
    obtain rfl : db' = db := hlinked
    exact h
  | cons e es ih =>
    obtain ⟨rfl, hlinked⟩ := hlinked
    obtain ⟨i, hi, hid, hk⟩ := ih hlinked (fun e he => hcommits e (List.mem_cons_of_mem _ he))
      fun e he => hthere e (List.mem_cons_of_mem _ he)
    obtain ⟨hbefore, hchange⟩ := hcommits e List.mem_cons_self
    rcases (hchange n).item_kept (hbefore.session n) hi with ⟨i', hi', hid', hk'⟩ | hgone
    · exact ⟨i', hi', hid'.trans hid, hk.trans hk'⟩
    · obtain ⟨item, hitem, heq⟩ := hthere e List.mem_cons_self
      exact absurd (heq.trans hid.symm) (hgone item hitem)

/-- What the commit of an update of an item has found and has left. -/
theorem item_raised {call : Call} {db db' : Database} (h : FeedbackEdited call db db')
    {n itemId : Uuid} {expectedRevision : ℤ}
    (hcall : call.itemRevision = some (n, itemId, expectedRevision)) :
    ∃ old ∈ (feedbackViews.view n db).items, old.id = itemId ∧
      (old.revision : ℤ) = expectedRevision ∧ ItemReached n itemId (old.revision + 1) db' := by
  cases call with
  | updateFeedbackItem uuids actorId workspaceId workId sessionId id expected draft =>
    cases hcall
    obtain ⟨draft', -, old, hold, new, hnew, hid, hid', hrevision, hnext, -⟩ := h
    exact ⟨old, hold, hid, hrevision, new, hnew, hid', hnext.ge⟩
  | _ => cases hcall

/-- **The edits of feedback are in order.** -/
theorem feedbackLinear_of_reachable (h : (system settings normalizeEmail).Reachable c) :
    FeedbackLinear c.history := by
  obtain ⟨_, rfl, hlinked⟩ := (ReadCommitted.wellFormed_of_reachable h).linked
  have hedited : ∀ e ∈ c.history, FeedbackEdited e.op e.before e.after := fun e he =>
    (feedbackCommitted h he).2.2.edited
  refine ⟨hedited, ?_, ?_⟩
  · have hpairs := hlinked.pairwise (R := fun db db' => ∀ n id k, SubmissionReached n id k db →
      SubmissionReached n id k db') (fun _ _ _ _ h => h)
      (fun _ _ _ h h' n id k hk => h' n id k (h n id k hk))
      fun e he n id k hk => hk.later (feedbackCommitted h he).1 (feedbackCommitted h he).2.1
    refine hpairs.imp_of_mem fun {e e'} he he' hreached s hs s' hs' hid r hr hr' => ?_
    obtain ⟨hlater, -⟩ := submission_raised (feedbackCommitted h he).1 (hedited e he) hs hr
    obtain ⟨hearlier, hraised⟩ :=
      submission_raised (feedbackCommitted h he').1 (hedited e' he') hs' hr'
    -- The earlier commit has left a higher revision than the later one finds.
    obtain ⟨t, ht, htid, hk⟩ := hreached _ _ _ hraised
    obtain rfl := Feedback.eq_of_nodup (feedbackCommitted h he).1.submissions
      (Table.mem_rowsWith.1 ht).1 hs (htid.trans hid)
    omega
  · intro later e between e' earlier hsplit n i r hr hr'
    have hmem : ∀ d ∈ e :: between ++ e' :: earlier, d ∈ c.history := by
      intro d hd
      rw [hsplit, List.append_assoc]
      exact List.mem_append_right _ hd
    have he := hmem e (by simp)
    have he' := hmem e' (by simp)
    by_contra hnot
    push Not at hnot
    obtain ⟨old, hold, hid, hlater, -⟩ := item_raised (hedited e he) hr
    obtain ⟨old', hold', -, hearlier, hraised⟩ := item_raised (hedited e' he') hr'
    rw [hsplit] at hlinked
    obtain ⟨t, ht, htid, hk⟩ := hraised.later hlinked.between (fun d hd =>
      ⟨(feedbackCommitted h (hmem d (by simp [hd]))).1,
        (feedbackCommitted h (hmem d (by simp [hd]))).2.1⟩) hnot
    obtain rfl := Feedback.eq_of_nodup ((feedbackCommitted h he).1.session n).items ht hold
      (htid.trans hid.symm)
    omega

/-- **Edits of feedback are never lost**, whatever the calls and their interleaving: in every
reachable configuration the commits of edits are in order, and a call on feedback that has raised
has no part in the history. -/
theorem feedback_edits_kept (h : (system settings normalizeEmail).Reachable c) :
    ReadCommitted.Linked .empty c.history c.db ∧ FeedbackLinear c.history ∧
      ∀ i p error, c.sessions i = some p → p.op.writesFeedback = true → p.code = .raise error →
        ∀ e ∈ c.history, e.serial ≠ p.serial := by
  obtain ⟨_, rfl, hlinked⟩ := (ReadCommitted.wellFormed_of_reachable h).linked
  refine ⟨hlinked, feedbackLinear_of_reachable h, fun i p error hi hwrites hp => ?_⟩
  refine not_mem_history h hi ?_
  rcases rejected_of_reachable h hi hp with hcommits | ⟨hback, -⟩
  · exact hcommits
  · -- A call that reads back writes no feedback.
    revert hwrites hback
    cases p.op <;> simp [Call.writesFeedback, Call.readsBack]

/-! ### Two edits at once -/

/-- A participant edits the same feedback twice at once, as a draft and submitted. Both calls expect
revision one. -/
def savedTwice : List (Event Call) :=
  feedbackSubmitted ++
    [.call 0 (.saveParticipantFeedback (keysFrom 4000) 9 2 sessionOfOneSeat none (some 1)
      (answered .submitted)),
    .call 1 (.saveParticipantFeedback (keysFrom 5000) 9 2 sessionOfOneSeat none (some 1)
      (answered .draft))] ++ advances 1 2 ++ advances 0 16 ++ [.close 0] ++ advances 1 9

theorem savedTwice_runs :
    ((system .withoutCipher some).run (.start .empty) savedTwice).any fun c =>
      c.db.feedbackSubmissions.map (fun s => (s.status, s.revision)) = [(.submitted, 2)] ∧
        c.db.feedbackAnswers.map (·.itemId) = [210001] ∧
        c.raised 1 = some .feedbackSubmissionRevisionConflict := by
  decide +kernel

/-- The answers of this run conform. -/
theorem feedback_conforms_savedTwice :
    ∃ c, (system .withoutCipher some).Reachable c ∧
      c.db.feedbackAnswers.map (·.itemId) = [210001] ∧
      ∀ n, (feedbackViews.view n c.db).Ok := by
  obtain ⟨c, hc, hfacts⟩ := (Option.any_eq_true _ _).1 savedTwice_runs
  have hreach : (system .withoutCipher some).Reachable c :=
    ⟨.start .empty, savedTwice, init_start _ rfl, hc⟩
  simp only [decide_eq_true_eq] at hfacts
  exact ⟨c, hreach, hfacts.2.1, (feedback_conforms hreach).1⟩

/-- The edits of this run are in order. -/
theorem feedback_edits_kept_savedTwice :
    ∃ c, (system .withoutCipher some).Reachable c ∧
      c.db.feedbackSubmissions.map (fun s => (s.status, s.revision)) = [(.submitted, 2)] ∧
      c.raised 1 = some .feedbackSubmissionRevisionConflict ∧ FeedbackLinear c.history := by
  obtain ⟨c, hc, hfacts⟩ := (Option.any_eq_true _ _).1 savedTwice_runs
  have hreach : (system .withoutCipher some).Reachable c :=
    ⟨.start .empty, savedTwice, init_start _ rfl, hc⟩
  simp only [decide_eq_true_eq] at hfacts
  exact ⟨c, hreach, hfacts.1, hfacts.2.2, (feedback_edits_kept hreach).2.1⟩

end Playtests

end Rulefolio
