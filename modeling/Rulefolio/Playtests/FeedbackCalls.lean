import Rulefolio.Playtests.FeedbackViews
import Rulefolio.Playtests.RetestCalls

/-!
# The operations on feedback

Each operation on feedback locks the session, and from then on it is followed on the feedback of
that session: its reads are readings of the view, each of its statements is one of the statements
of `Feedback`, and its commit is one `Feedback.Change`. An operation with an expected revision
commits what `FeedbackEffect` says.

## Main results

* `lockManagedSession_feedback_bind`, `participantSession_feedback_bind` — who has locked a session
  knows its feedback.
* `setItem_bind` and its like — the statements.
* `Call.feedback` — every commit of every call.
-/

namespace Rulefolio

namespace Playtests

open ReadCommitted
open Evidence (Feedback FeedbackItemDraft FeedbackAnswerDraft)

section Rules

variable {α : Type} {G : Tx.Guarantee Database RowKey} {Q : α → Point Database RowKey → Prop}
  {X : ServiceError → Point Database RowKey → Prop} {x : Point Database RowKey} {n : Uuid}
  {v w : Feedback}

/-! ## Locks -/

/-- `_load_managed_session` in a transaction that has changed no feedback. -/
theorem lockManagedSession_feedback_bind (h : feedbackViews.Clean amongFeedback x)
    (hX : ∀ e y, X e y) {workspaceId workId : Uuid} {f : PlaytestSession → Program α}
    (hf : ∀ item v y, item.id = n → feedbackViews.Holds amongFeedback n v v y →
      (f item).Safe amongFeedback G Q X y) :
    ((lockManagedSession workspaceId workId n).bind f).Safe amongFeedback G Q X x := by
  have hid : ∀ {db : Database} {item : PlaytestSession},
      ((findSession workspaceId workId n db).filter fun _ => exitAllowsWrite none workspaceId db) =
        some item → item.id = n := by
    intro db item hfind
    have hrow := List.find?_some (Option.filter_eq_some_iff.1 hfind).1
    simp only [Bool.and_eq_true, beq_iff_eq] at hrow
    exact hrow.1.1
  rw [lockManagedSession]
  simp only [Tx.bind_eq, Tx.bind_assoc]
  refine h.selectForUpdate_bind (k := n) respected_feedbackViews (fun db item hfind => ?_)
    (fun s _ _ _ => Tx.Safe.raise (hX _ _)) fun s hs hr hy _ => ?_
  · exact congrArg RowKey.session (hid hfind)
  exact Tx.Safe.require_bind (fun _ => hX _ _) fun item hfind => hf item _ _ (hid hfind) hy

/-- `_feedback_managed_session`. -/
theorem feedbackManagedSession_feedback_bind (h : feedbackViews.Clean amongFeedback x)
    (hX : ∀ e y, X e y) {actorId workspaceId workId : Uuid} {f : PlaytestSession → Program α}
    (hf : ∀ item v y, item.id = n → feedbackViews.Holds amongFeedback n v v y →
      (f item).Safe amongFeedback G Q X y) :
    ((feedbackManagedSession actorId workspaceId workId n).bind f).Safe amongFeedback G Q X x := by
  rw [feedbackManagedSession]
  simp only [Tx.bind_eq, Tx.bind_assoc]
  refine h.within_bind hX (keeps_requireManagement frame_feedbackViews _ _ _ _) fun _ y _ h _ => ?_
  refine lockManagedSession_feedback_bind h hX fun item v y hid hy => ?_
  exact hy.within_bind respected_feedbackViews hX (keeps_ensure _ _) fun _ y _ hy _ =>
    hf item v y hid hy

/-- `_participant_session`. -/
theorem participantSession_feedback_bind (h : feedbackViews.Clean amongFeedback x)
    (hX : ∀ e y, X e y) {actorId : Uuid}
    {f : PlaytestSessionParticipant × PlaytestSession → Program α}
    (hf : ∀ participant item v y, item.id = n → feedbackViews.Holds amongFeedback n v v y →
      (f (participant, item)).Safe amongFeedback G Q X y) :
    ((participantSession actorId n).bind f).Safe amongFeedback G Q X x := by
  have hid : ∀ {db : Database} {item : PlaytestSession},
      (db.sessions.find? fun s => s.id == n && exitAllowsWrite none s.workspaceId db) =
        some item → item.id = n := by
    intro db item hfind
    have hrow := List.find?_some hfind
    simp only [Bool.and_eq_true, beq_iff_eq] at hrow
    exact hrow.1
  rw [participantSession]
  simp only [Tx.bind_eq, Tx.bind_assoc]
  refine h.within_bind hX (keeps_read frame_feedbackViews _) fun _ y _ h _ => ?_
  refine h.within_bind hX (keeps_require _ _) fun participant y _ h _ => ?_
  refine h.selectForUpdate_bind (k := n) respected_feedbackViews (fun db item hfind => ?_)
    (fun s _ _ _ => Tx.Safe.raise (hX _ _)) fun s hs hr hy _ => ?_
  · exact congrArg RowKey.session (hid hfind)
  exact Tx.Safe.require_bind (fun _ => hX _ _) fun item hfind =>
    hf participant item _ _ (hid hfind) hy

/-! ## Items -/

/-- No other session has an item under this key. -/
theorem item_id_ne {s t : Database} (hs : FeedbackInOrder s) (hview : feedbackViews.view n s = v)
    (hsame : ∀ j, j ≠ n → feedbackViews.view j t = feedbackViews.view j s)
    {item : PlaytestFeedbackItem} (hitem : item ∈ v.items) {j : Uuid} (hj : j ≠ n) :
    ∀ i ∈ Table.rowsWith (·.sessionId) j t.feedbackItems, (i.id == item.id) = false := by
  intro i hi
  rw [← hview] at hitem
  have hi' : i ∈ (feedbackViews.view j s).items := by
    rw [← hsame j hj]
    exact hi
  exact beq_false_of_ne (Table.ident_ne_of_key_ne hs.items hj hitem hi')

theorem submission_id_ne {s t : Database} (hs : FeedbackInOrder s)
    (hview : feedbackViews.view n s = v)
    (hsame : ∀ j, j ≠ n → feedbackViews.view j t = feedbackViews.view j s)
    {submission : PlaytestFeedbackSubmission} (hsubmission : submission ∈ v.submissions) {j : Uuid}
    (hj : j ≠ n) : ∀ r ∈ Table.rowsWith (·.sessionId) j t.feedbackSubmissions,
      (r.id == submission.id) = false := by
  intro r hr
  rw [← hview] at hsubmission
  have hr' : r ∈ (feedbackViews.view j s).submissions := by
    rw [← hsame j hj]
    exact hr
  exact beq_false_of_ne (Table.ident_ne_of_key_ne hs.submissions hj hsubmission hr')

/-- `_load_item` of the session that is held. -/
theorem loadItem_feedback_bind (h : feedbackViews.Holds amongFeedback n v w x)
    (hX : ∀ e y, X e y) {itemId : Uuid} {f : PlaytestFeedbackItem → Program α}
    (hf : ∀ item y, item ∈ w.items → item.id = itemId →
      feedbackViews.Holds amongFeedback n v w y → (f item).Safe amongFeedback G Q X y) :
    ((Evidence.loadItem n itemId).bind f).Safe amongFeedback G Q X x := by
  have hrow : ∀ {db : Database} {item : PlaytestFeedbackItem},
      (db.feedbackItems.find? fun i => i.id == itemId && i.sessionId == n &&
        exitAllowsSessionWrite n db) = some item →
      item.id = itemId ∧ item ∈ (feedbackViews.view n db).items := by
    intro db item hfind
    have hrow := List.find?_some hfind
    simp only [Bool.and_eq_true, beq_iff_eq] at hrow
    exact ⟨hrow.1.1, Table.mem_rowsWith.2 ⟨List.mem_of_find?_eq_some hfind, hrow.1.2⟩⟩
  rw [Evidence.loadItem]
  simp only [Tx.bind_eq, Tx.bind_assoc]
  refine Tx.Safe.selectForUpdate_bind (fun _ _ hfind => congrArg RowKey.feedbackItem (hrow hfind).1)
    (fun s _ _ => Tx.Safe.raise (hX _ _)) fun s hs hr => ?_
  refine Tx.Safe.require_bind (fun _ => hX _ _) fun item hfind => ?_
  obtain ⟨hid, hmem⟩ := hrow hfind
  rw [h.sees s hs hr] at hmem
  exact hf item _ hmem hid
    (h.later respected_feedbackViews (Set.subset_insert _ _) hr)

/-- The `INSERT` of an item. -/
theorem addItem_bind (h : feedbackViews.Holds amongFeedback n v w x) (hX : ∀ e y, X e y)
    {item : PlaytestFeedbackItem} (hn : item.sessionId = n) {keys : List RowKey}
    {absent admits : Database → Bool}
    (habsent : ∀ db, absent db = true → ∀ i ∈ db.feedbackItems, i.id ≠ item.id)
    {f : Unit → Program α}
    (hf : ∀ y, item.id ∉ w.items.map (·.id) →
      feedbackViews.Holds amongFeedback n v (w.addItem item) y →
        (f ()).Safe amongFeedback G Q X y) :
    ((insertRow keys absent admits fun db => { db with
      feedbackItems := item :: db.feedbackItems }).bind f).Safe amongFeedback G Q X x := by
  rw [insertRow, Tx.bind_assoc]
  refine h.lockAll_bind respected_feedbackViews fun y h => ?_
  refine h.writeIf_bind respected_feedbackViews (g := Feedback.addItem item)
    (P := item.id ∉ w.items.map (·.id)) (fun t => ?_) (fun t j hj => ?_) hX
    (fun t ha hview => ?_) hf
  · exact Feedback.ext (Table.rowsWith_cons hn _) rfl rfl rfl
  · exact Feedback.ext (Table.rowsWith_cons_of_ne (fun h => hj (h.symm.trans hn)) _) rfl rfl rfl
  · rintro hmem
    obtain ⟨i, hi, hid⟩ := List.mem_map.1 hmem
    rw [← hview] at hi
    exact habsent t (Bool.and_eq_true_iff.1 ha).1 i (Table.mem_rowsWith.1 hi).1 hid

/-- The `UPDATE` of an item. -/
theorem setItem_bind (h : feedbackViews.Holds amongFeedback n v w x) (hX : ∀ e y, X e y)
    {item : PlaytestFeedbackItem} (hitem : item ∈ v.items) {draft : FeedbackItemDraft}
    {revision : ℕ} {admits : Database → Bool} {f : Unit → Program α}
    (hf : ∀ y, feedbackViews.Holds amongFeedback n v (w.setItem item.id draft revision) y →
      (f ()).Safe amongFeedback G Q X y) :
    ((updateRow admits fun db => { db with
      feedbackItems := Table.update (·.id == item.id)
        (fun i => { i with kind := draft.kind, question := draft.question, revision := revision })
        db.feedbackItems }).bind f).Safe amongFeedback G Q X x := by
  refine h.writeIf_among_bind respected_feedbackViews (g := Feedback.setItem item.id draft revision)
    (fun t => ?_) (fun s t hs hview hsame j hj => ?_) hX hf
  · exact Feedback.ext (Table.rowsWith_update (by intro r _; rfl) _ _) rfl rfl rfl
  · refine Feedback.ext ?_ rfl rfl rfl
    refine (Table.rowsWith_update (by intro r _; rfl) _ _).trans ?_
    exact Table.update_eq_self (item_id_ne hs hview hsame hitem hj)

/-- The `DELETE` of an item. -/
theorem dropItem_bind (h : feedbackViews.Holds amongFeedback n v w x) (hX : ∀ e y, X e y)
    {item : PlaytestFeedbackItem} (hitem : item ∈ v.items) {admits : Database → Bool}
    {f : Unit → Program α}
    (hf : ∀ y, feedbackViews.Holds amongFeedback n v (w.dropItem item.id) y →
      (f ()).Safe amongFeedback G Q X y) :
    ((updateRow admits fun db => { db with
      feedbackItems := Table.delete (·.id == item.id) db.feedbackItems }).bind f).Safe
        amongFeedback G Q X x := by
  refine h.writeIf_among_bind respected_feedbackViews (g := Feedback.dropItem item.id)
    (fun t => ?_) (fun s t hs hview hsame j hj => ?_) hX hf
  · exact Feedback.ext (Table.rowsWith_delete _ _ _) rfl rfl rfl
  · refine Feedback.ext ?_ rfl rfl rfl
    refine (Table.rowsWith_delete _ _ _).trans ?_
    exact Table.delete_eq_self (item_id_ne hs hview hsame hitem hj)

/-- `DELETE FROM playtest_feedback_options`. -/
theorem dropOptions_bind (h : feedbackViews.Holds amongFeedback n v w x) (hX : ∀ e y, X e y)
    {itemId : Uuid} {f : Unit → Program α}
    (hf : ∀ y, feedbackViews.Holds amongFeedback n v (w.dropOptions itemId) y →
      (f ()).Safe amongFeedback G Q X y) :
    ((Evidence.deleteOptions n itemId).bind f).Safe amongFeedback G Q X x := by
  refine h.writeIf_bind respected_feedbackViews (g := Feedback.dropOptions itemId) (P := True)
    (fun t => ?_) (fun t j hj => ?_) hX (fun _ _ _ => trivial) fun y _ => hf y
  · exact Feedback.ext rfl (Table.rowsWith_delete_own (by intro o; rfl) _) rfl rfl
  · exact Feedback.ext rfl (Table.rowsWith_delete_other (by intro o; rfl) hj _) rfl rfl

/-- The `INSERT`s of the options of an item. -/
theorem addOptions_bind (h : feedbackViews.Holds amongFeedback n v w x) (hX : ∀ e y, X e y)
    {rows : List PlaytestFeedbackOption} (hrows : ∀ o ∈ rows, o.sessionId = n)
    {admits : Database → Bool} {f : Unit → Program α}
    (hf : ∀ y, feedbackViews.Holds amongFeedback n v (w.addOptions rows) y →
      (f ()).Safe amongFeedback G Q X y) :
    ((insertRows rows admits fun rows db => { db with
      feedbackOptions := rows ++ db.feedbackOptions }).bind f).Safe amongFeedback G Q X x := by
  rw [insertRows]
  split
  · rename_i hempty
    rw [List.isEmpty_iff.1 hempty] at hf
    exact hf x h
  · rw [insertRow, Tx.bind_assoc]
    refine h.lockAll_bind respected_feedbackViews fun y h => ?_
    refine h.writeIf_bind respected_feedbackViews (g := Feedback.addOptions rows) (P := True)
      (fun t => ?_) (fun t j hj => ?_) hX (fun _ _ _ => trivial) fun y _ => hf y
    · exact Feedback.ext rfl (Table.rowsWith_append hrows _) rfl rfl
    · exact Feedback.ext rfl (Table.rowsWith_append_other hrows hj _) rfl rfl

/-! ## Answers -/

/-- `_validated_answers` of the session that is held. -/
theorem validatedAnswers_bind (h : feedbackViews.Holds amongFeedback n v w x)
    (hX : ∀ e y, X e y) {drafts : List FeedbackAnswerDraft}
    {f : List FeedbackAnswerDraft → Program α}
    (hf : ∀ answers y, w.Fit answers → drafts.mapM (Evidence.validatedAnswer n
        (w.items.filter fun i => (drafts.map (·.itemId)).contains i.id)
        (w.options.filter fun o => (drafts.filterMap (·.optionId)).contains o.id)) = some answers →
      feedbackViews.Holds amongFeedback n v w y → (f answers).Safe amongFeedback G Q X y) :
    ((Evidence.validatedAnswers n drafts).bind f).Safe amongFeedback G Q X x := by
  rw [Evidence.validatedAnswers]
  simp only [Tx.bind_eq, Tx.bind_assoc]
  refine Tx.Safe.ensure_bind (fun _ => hX _ _) fun hdifferent => ?_
  simp only [Bool.and_eq_true, decide_eq_true_eq] at hdifferent
  refine h.read_bind respected_feedbackViews fun s _ hview h _ => ?_
  have hitems : ∀ q : PlaytestFeedbackItem → Bool,
      ((x.pending s).feedbackItems.filter fun i => i.sessionId == n && q i) = w.items.filter q :=
    fun q => hview ▸ Table.filter_rowsWith (by intro i; rfl) _
  rw [hitems]
  refine h.within_bind respected_feedbackViews hX (keeps_ensure _ _) fun _ y _ h _ => ?_
  refine h.read_bind respected_feedbackViews fun t _ hview h _ => ?_
  have hoptions : ∀ q : PlaytestFeedbackOption → Bool,
      ((y.pending t).feedbackOptions.filter fun o => o.sessionId == n && q o) =
        w.options.filter q :=
    fun q => hview ▸ Table.filter_rowsWith (by intro o; rfl) _
  rw [hoptions]
  refine Tx.Safe.require_bind (fun _ => hX _ _) fun answers hanswers => hf answers _ ?_ hanswers h
  refine Feedback.fit_of_validated (fun i hi => ?_) (fun o ho => ?_) hdifferent.2 hanswers
  · exact (List.mem_filter.1 hi).1
  · exact (List.mem_filter.1 ho).1

/-- `_replace_answers` of a submission of the session that is held. -/
theorem replaceAnswers_bind (h : feedbackViews.Holds amongFeedback n v w x) (hX : ∀ e y, X e y)
    {s : PlaytestFeedbackSubmission} (hn : s.sessionId = n) {answers : List FeedbackAnswerDraft}
    {f : Unit → Program α}
    (hf : ∀ y, feedbackViews.Holds amongFeedback n v ((w.dropAnswers s.id).addAnswers s answers) y →
      (f ()).Safe amongFeedback G Q X y) :
    ((Evidence.replaceAnswers s answers).bind f).Safe amongFeedback G Q X x := by
  rw [Evidence.replaceAnswers]
  simp only [Tx.bind_eq, Tx.bind_assoc]
  refine h.writeIf_bind respected_feedbackViews (g := Feedback.dropAnswers s.id) (P := True)
    (fun t => ?_) (fun t j hj => ?_) hX (fun _ _ _ => trivial) fun y _ h => ?_
  · refine Feedback.ext rfl rfl rfl (Table.rowsWith_delete_own (fun a => ?_) _)
    rw [hn]
    exact Bool.and_comm _ _
  · refine Feedback.ext rfl rfl rfl (Table.rowsWith_delete_other (a := n) (q := (·.submissionId ==
      s.id)) (fun a => ?_) hj _)
    rw [hn]
    exact Bool.and_comm _ _
  -- The answers are inserted one by one, each with its trigger.
  generalize w.dropAnswers s.id = u at h hf
  induction answers generalizing u y with
  | nil => exact hf y h
  | cons a rest ih =>
    rw [Tx.forEach, Tx.bind_assoc, Evidence.insertAnswer, insertRow, Tx.bind_assoc]
    refine h.lockAll_bind respected_feedbackViews fun y h => ?_
    refine h.writeIf_bind respected_feedbackViews (g := Feedback.addAnswer s a) (P := True)
      (fun t => ?_) (fun t j hj => ?_) hX (fun _ _ _ => trivial) fun y _ h => ih _ _ h hf
    · refine Feedback.ext (Table.rowsWith_update_own (by intro i; rfl) (fun i => ?_) _) rfl rfl
        (Table.rowsWith_cons (r := Evidence.answerRow s a) hn _)
      rw [hn]
      exact Bool.and_comm _ _
    · refine Feedback.ext (Table.rowsWith_update_other (a := n) (q := (·.id == a.itemId))
        (by intro i; rfl) (fun i => ?_) hj _) rfl rfl (Table.rowsWith_cons_of_ne ?_ _)
      · rw [hn]
        exact Bool.and_comm _ _
      · exact fun h => hj (h.symm.trans hn)

/-! ## Submissions -/

/-- The submissions that are held belong to the session. -/
theorem sessionId_of_holds (h : feedbackViews.Holds amongFeedback n v w x)
    {submission : PlaytestFeedbackSubmission} (hsubmission : submission ∈ v.submissions) :
    submission.sessionId = n := by
  rw [← h.committed] at hsubmission
  exact (Table.mem_rowsWith.1 hsubmission).2

/-- The `INSERT` of a submission and of its answers. -/
theorem insertSubmission_bind (h : feedbackViews.Holds amongFeedback n v w x) (hX : ∀ e y, X e y)
    {s : PlaytestFeedbackSubmission} (hn : s.sessionId = n) {answers : List FeedbackAnswerDraft}
    {f : Unit → Program α}
    (hf : ∀ y, s.id ∉ w.submissions.map (·.id) → feedbackViews.Holds amongFeedback n v
        (((w.addSubmission s).dropAnswers s.id).addAnswers s answers) y →
      (f ()).Safe amongFeedback G Q X y) :
    ((Evidence.insertSubmission s answers).bind f).Safe amongFeedback G Q X x := by
  rw [Evidence.insertSubmission]
  simp only [Tx.bind_eq, Tx.bind_assoc]
  rw [insertRow, Tx.bind_assoc]
  refine h.lockAll_bind respected_feedbackViews fun y h => ?_
  refine h.writeIf_bind respected_feedbackViews (g := Feedback.addSubmission s)
    (P := s.id ∉ w.submissions.map (·.id)) (fun t => ?_) (fun t j hj => ?_) hX
    (fun t ha hview => ?_) fun y hnew h => replaceAnswers_bind h hX hn fun y => hf y hnew
  · exact Feedback.ext rfl rfl (Table.rowsWith_cons hn _) rfl
  · exact Feedback.ext rfl rfl (Table.rowsWith_cons_of_ne (fun h => hj (h.symm.trans hn)) _) rfl
  · rintro hmem
    obtain ⟨r, hr, hid⟩ := List.mem_map.1 hmem
    rw [← hview] at hr
    have hfree := (Bool.and_eq_true_iff.1 ha).1
    simp only [Bool.not_eq_true', List.any_eq_false] at hfree
    exact hfree r (Table.mem_rowsWith.1 hr).1 (by simp [hid])

/-- The `UPDATE` of a submission and the replacement of its answers. -/
theorem rewriteSubmission_bind (h : feedbackViews.Holds amongFeedback n v w x)
    (hX : ∀ e y, X e y) {old s : PlaytestFeedbackSubmission} (hold : old ∈ v.submissions)
    (hid : s.id = old.id) (hn : s.sessionId = n) {answers : List FeedbackAnswerDraft}
    {f : Unit → Program α}
    (hf : ∀ y, feedbackViews.Holds amongFeedback n v
        (((w.setSubmission s).dropAnswers s.id).addAnswers s answers) y →
      (f ()).Safe amongFeedback G Q X y) :
    ((Evidence.rewriteSubmission s answers).bind f).Safe amongFeedback G Q X x := by
  rw [Evidence.rewriteSubmission]
  simp only [Tx.bind_eq, Tx.bind_assoc]
  refine h.writeIf_among_bind respected_feedbackViews (g := Feedback.setSubmission s)
    (fun t => ?_) (fun r t hr hview hsame j hj => ?_) hX fun y h => replaceAnswers_bind h hX hn hf
  · exact Feedback.ext rfl rfl (Table.rowsWith_update (by intro r _; rfl) _ _) rfl
  · refine Feedback.ext rfl rfl ?_ rfl
    refine (Table.rowsWith_update (by intro r _; rfl) _ _).trans ?_
    refine Table.update_eq_self fun r' hr' => ?_
    rw [hid]
    exact submission_id_ne hr hview hsame hold hj r' hr'

end Rules

/-! ## Operations -/

/-- What the commits of a call do to the feedback of sessions. -/
def feedbackCommit (call : Call) : Tx.Guarantee Database RowKey := fun _ H db db' =>
  feedbackViews.Commits Feedback.Change H db db' ∧ FeedbackEffect call db db'

section Operations

variable {x : Point Database RowKey} {n : Uuid} {v w : Feedback}

/-- The end of every operation on feedback. -/
theorem commitFeedback_safe {call : Call} (h : feedbackViews.Holds amongFeedback n v w x)
    (hstep : Feedback.Change v w)
    (heffect : ∀ db db', feedbackViews.view n db = v → feedbackViews.view n db' = w →
      FeedbackEffect call db db') :
    (Tx.commitNow : Program Unit).Safe amongFeedback (feedbackCommit call) (fun _ _ => True)
      (fun _ _ => True) x := by
  rw [← Tx.bind_pure (Tx.commitNow : Program Unit)]
  refine h.commit_bind respected_feedbackViews (fun _ => .stays) hstep
    (fun _ H db db' hc hv hw => ?_)
    fun _ _ => Tx.Safe.pure trivial
  exact ⟨hc, heffect db db' hv hw⟩

theorem optionRows_sessionId {uuids : Uuids} {itemId : Uuid} {options : List String}
    {o : PlaytestFeedbackOption} (ho : o ∈ Evidence.optionRows uuids n itemId options) :
    o.sessionId = n ∧ o.itemId = itemId := by
  obtain ⟨⟨label, k⟩, -, rfl⟩ := List.mem_map.1 ho
  exact ⟨rfl, rfl⟩

theorem feedback_createFeedbackItem (h : feedbackViews.Clean amongFeedback x) (uuids : Uuids)
    (actorId workspaceId workId sessionId : Uuid) (operationKey : String)
    (draft : FeedbackItemDraft) :
    (createFeedbackItem uuids actorId workspaceId workId sessionId operationKey draft).Safe
      amongFeedback (feedbackCommit (.createFeedbackItem uuids actorId workspaceId workId sessionId
        operationKey draft)) (fun _ _ => True) (fun _ _ => True) x := by
  have hX : ∀ (e : ServiceError) (y : Point Database RowKey), True := fun _ _ => trivial
  rw [createFeedbackItem]
  simp only [Tx.bind_eq]
  refine Tx.Safe.mapError ?_
  refine feedbackManagedSession_feedback_bind h hX fun item v y hid h => ?_
  subst hid
  rw [Evidence.createFeedbackItem]
  simp only [Tx.bind_eq, Tx.bind_assoc]
  refine Tx.Safe.require_bind (fun _ => trivial) fun draft' hdraft => ?_
  refine Tx.Safe.ensure_bind (fun _ => trivial) fun hkey => ?_
  have hsome : (Evidence.itemDraft draft).isSome := by rw [hdraft]; rfl
  refine h.selectForUpdate_bind respected_feedbackViews
    (g := fun v => v.items.find? (·.creationOperationKey == operationKey))
    (fun db => Table.find?_rowsWith (by intro i; rfl) _) fun y h => ?_
  cases hfind : v.items.find? (·.creationOperationKey == operationKey) with
  | some existing =>
    dsimp only
    simp only [Tx.bind_assoc]
    refine h.within_bind respected_feedbackViews hX (keeps_read frame_feedbackViews _)
      fun _ y _ h _ => ?_
    refine h.within_bind respected_feedbackViews hX (keeps_ensure _ _) fun _ y _ h _ => ?_
    have hof := List.find?_some hfind
    rw [beq_iff_eq] at hof
    have hexisting : ItemAccepted operationKey v :=
      ⟨existing, List.mem_of_find?_eq_some hfind, hof⟩
    exact commitFeedback_safe h .stays fun _ _ _ hw => ⟨hsome, hkey, hw ▸ hexisting⟩
  | none =>
    dsimp only
    simp only [Tx.bind_assoc]
    refine addItem_bind h hX rfl (fun db ha i hi hid => ?_) fun y hnew h => ?_
    · simp only [Bool.not_eq_true', List.any_eq_false] at ha
      exact ha i hi (by simp [hid])
    refine addOptions_bind h hX (fun o ho => (optionRows_sessionId ho).1) fun y h => ?_
    have hfree : operationKey ∉ v.items.map (·.creationOperationKey) := by
      rintro hmem
      obtain ⟨i, hi, hof⟩ := List.mem_map.1 hmem
      exact List.find?_eq_none.1 hfind i hi (beq_iff_eq.2 hof)
    refine commitFeedback_safe h
      (.itemCreated _ _ hnew hfree fun o ho => (optionRows_sessionId ho).2) fun _ _ _ hw => ?_
    refine ⟨hsome, hkey, hw ▸ ?_⟩
    exact ⟨_, List.mem_cons_self, rfl⟩

theorem feedback_updateFeedbackItem (h : feedbackViews.Clean amongFeedback x) (uuids : Uuids)
    (actorId workspaceId workId sessionId itemId : Uuid) (expectedRevision : ℤ)
    (draft : FeedbackItemDraft) :
    (updateFeedbackItem uuids actorId workspaceId workId sessionId itemId expectedRevision
      draft).Safe amongFeedback (feedbackCommit (.updateFeedbackItem uuids actorId workspaceId
        workId sessionId itemId expectedRevision draft)) (fun _ _ => True) (fun _ _ => True) x := by
  have hX : ∀ (e : ServiceError) (y : Point Database RowKey), True := fun _ _ => trivial
  rw [updateFeedbackItem]
  simp only [Tx.bind_eq]
  refine Tx.Safe.mapError ?_
  refine feedbackManagedSession_feedback_bind h hX fun item v y hid h => ?_
  subst hid
  rw [Evidence.updateFeedbackItem]
  simp only [Tx.bind_eq, Tx.bind_assoc]
  refine Tx.Safe.require_bind (fun _ => trivial) fun draft' hdraft => ?_
  refine Tx.Safe.ensure_bind (fun _ => trivial) fun _ => ?_
  refine loadItem_feedback_bind h hX fun row y hrow hid h => ?_
  subst hid
  refine Tx.Safe.ensure_bind (fun _ => trivial) fun hunlocked => ?_
  refine Tx.Safe.ensure_bind (fun _ => trivial) fun hrevision => ?_
  rw [beq_iff_eq] at hrevision
  have hunlocked : row.isLocked = false := by simpa using hunlocked
  refine setItem_bind h hX hrow fun y h => ?_
  refine dropOptions_bind h hX fun y h => ?_
  refine addOptions_bind h hX (fun o ho => (optionRows_sessionId ho).1) fun y h => ?_
  refine commitFeedback_safe h (.itemRewritten row hrow hunlocked draft' _ fun o ho =>
    (optionRows_sessionId ho).2) fun db db' hv hw => ?_
  rw [FeedbackEffect, hv, hw]
  exact ⟨draft', hdraft, row, hrow, rfl, hrevision, hunlocked, rfl⟩

theorem feedback_deleteFeedbackItem (h : feedbackViews.Clean amongFeedback x)
    (actorId workspaceId workId sessionId itemId : Uuid) :
    (deleteFeedbackItem actorId workspaceId workId sessionId itemId).Safe amongFeedback
      (feedbackCommit (.deleteFeedbackItem actorId workspaceId workId sessionId itemId))
        (fun _ _ => True) (fun _ _ => True) x := by
  have hX : ∀ (e : ServiceError) (y : Point Database RowKey), True := fun _ _ => trivial
  rw [deleteFeedbackItem]
  simp only [Tx.bind_eq]
  refine Tx.Safe.mapError ?_
  refine feedbackManagedSession_feedback_bind h hX fun item v y hid h => ?_
  subst hid
  rw [Evidence.deleteFeedbackItem]
  simp only [Tx.bind_eq, Tx.bind_assoc]
  refine loadItem_feedback_bind h hX fun row y hrow hid h => ?_
  subst hid
  refine Tx.Safe.ensure_bind (fun _ => trivial) fun hunlocked => ?_
  have hunlocked : row.isLocked = false := by simpa using hunlocked
  refine dropOptions_bind h hX fun y h => ?_
  refine dropItem_bind h hX hrow fun y h => ?_
  exact commitFeedback_safe h (.itemDeleted row hrow hunlocked) fun _ _ _ _ => trivial

theorem feedback_createFeedbackSubmission (h : feedbackViews.Clean amongFeedback x)
    (uuids : Uuids) (now : Timestamp) (actorId workspaceId workId sessionId : Uuid)
    (operationKey : String) (draft : Evidence.FeedbackSubmissionDraft) :
    (createFeedbackSubmission uuids now actorId workspaceId workId sessionId operationKey
      draft).Safe amongFeedback (feedbackCommit (.createFeedbackSubmission uuids now actorId
        workspaceId workId sessionId operationKey draft)) (fun _ _ => True) (fun _ _ => True)
          x := by
  have hX : ∀ (e : ServiceError) (y : Point Database RowKey), True := fun _ _ => trivial
  rw [createFeedbackSubmission]
  simp only [Tx.bind_eq]
  refine Tx.Safe.mapError ?_
  refine feedbackManagedSession_feedback_bind h hX fun item v y hid h => ?_
  subst hid
  refine h.within_bind respected_feedbackViews hX (keeps_read frame_feedbackViews _)
    fun existed y _ h _ => ?_
  -- Whether the maintainers are told or not, the call goes on alike.
  have hrest : ∀ {w : Feedback} {y : Point Database RowKey} (submissionId : Uuid),
      feedbackViews.Holds amongFeedback item.id v w y → Feedback.Change v w →
      (if !existed then
          (notifyFeedbackMaintainers (uuids.sub 1) now item submissionId).bind fun _ =>
            Tx.commitNow
        else (Tx.commitNow : Program Unit)).Safe amongFeedback
        (feedbackCommit (.createFeedbackSubmission uuids now actorId workspaceId workId item.id
          operationKey draft)) (fun _ _ => True) (fun _ _ => True) y := by
    intro w y submissionId h hstep
    split
    · refine h.within_bind respected_feedbackViews hX
        (keeps_notifyFeedbackMaintainers frame_feedbackViews trivial _ _ _ _) fun _ y _ h _ => ?_
      exact commitFeedback_safe h hstep fun _ _ _ _ => trivial
    · exact commitFeedback_safe h hstep fun _ _ _ _ => trivial
  rw [Evidence.createOrganizerSubmission]
  simp only [Tx.bind_eq, Tx.bind_assoc]
  refine Tx.Safe.require_bind (fun _ => trivial) fun draft' hdraft => ?_
  refine validatedAnswers_bind h hX fun answers y hfit _ h => ?_
  refine Tx.Safe.ensure_bind (fun _ => trivial) fun _ => ?_
  refine h.selectForUpdate_bind respected_feedbackViews
    (g := fun v => v.submissions.find? (·.creationOperationKey == operationKey))
    (fun db => Table.find?_rowsWith (by intro s; rfl) _) fun y h => ?_
  cases v.submissions.find? (·.creationOperationKey == operationKey) with
  | some existing =>
    dsimp only
    simp only [Tx.bind_assoc]
    refine h.within_bind respected_feedbackViews hX (keeps_ensure _ _) fun _ y _ h _ => ?_
    exact hrest _ h .stays
  | none =>
    dsimp only
    simp only [Tx.bind_assoc]
    refine insertSubmission_bind h hX rfl fun y hnew h => ?_
    refine h.within_bind respected_feedbackViews hX (keeps_accountEmail frame_feedbackViews _)
      fun _ y _ h _ => ?_
    exact hrest _ h (.submissionCreated _ hnew (fun _ _ _ ha => by cases ha) answers hfit)

theorem feedback_updateFeedbackSubmission (h : feedbackViews.Clean amongFeedback x)
    (actorId workspaceId workId sessionId submissionId : Uuid) (expectedRevision : ℤ)
    (draft : Evidence.FeedbackSubmissionDraft) :
    (updateFeedbackSubmission actorId workspaceId workId sessionId submissionId expectedRevision
      draft).Safe amongFeedback (feedbackCommit (.updateFeedbackSubmission actorId workspaceId
        workId sessionId submissionId expectedRevision draft)) (fun _ _ => True)
          (fun _ _ => True) x := by
  have hX : ∀ (e : ServiceError) (y : Point Database RowKey), True := fun _ _ => trivial
  rw [updateFeedbackSubmission]
  simp only [Tx.bind_eq]
  refine Tx.Safe.mapError ?_
  refine feedbackManagedSession_feedback_bind h hX fun item v y hid h => ?_
  subst hid
  rw [Evidence.updateOrganizerSubmission]
  simp only [Tx.bind_eq, Tx.bind_assoc]
  have hfind : ∀ db, Evidence.findSubmission item.id submissionId db =
      (feedbackViews.view item.id db).submissions.find? (·.id == submissionId) := fun db =>
    Table.find?_rowsWith (fun s => Bool.and_comm _ _) _
  refine Tx.Safe.require_bind (fun _ => trivial) fun draft' hdraft => ?_
  have hanswers : draft'.answers = draft.answers := by
    rw [Evidence.organizerDraft, Option.bind_eq_bind, Option.bind_eq_some_iff] at hdraft
    obtain ⟨temporaryAlias, -, hdraft⟩ := hdraft
    split at hdraft
    · cases hdraft
    · split at hdraft
      · cases hdraft
      · cases hdraft
        rfl
  refine validatedAnswers_bind h hX fun answers y hfit hvalid h => ?_
  refine Tx.Safe.ensure_bind (fun _ => trivial) fun _ => ?_
  refine h.read_bind respected_feedbackViews fun s _ hview h _ => ?_
  rw [hfind, hview]
  refine Tx.Safe.require_bind (fun _ => trivial) fun submission hsubmission => ?_
  have hmem := List.mem_of_find?_eq_some hsubmission
  have hid := List.find?_some hsubmission
  rw [beq_iff_eq] at hid
  refine Tx.Safe.ensure_bind (fun _ => trivial) fun _ => ?_
  refine h.selectForUpdate_bind respected_feedbackViews
    (g := fun v => v.submissions.find? (·.id == submissionId)) hfind fun y h => ?_
  refine Tx.Safe.ensure_bind (fun _ => trivial) fun _ => ?_
  refine Tx.Safe.ensure_bind (fun _ => trivial) fun hrevision => ?_
  rw [beq_iff_eq] at hrevision
  have hn := sessionId_of_holds h hmem
  refine rewriteSubmission_bind h hX hmem ?_ ?_ fun y h => ?_
  · rfl
  · exact hn
  refine h.within_bind respected_feedbackViews hX (keeps_accountEmail frame_feedbackViews _)
    fun _ y _ h _ => ?_
  refine commitFeedback_safe h (.submissionRewritten submission _ hmem (by rfl) (by rfl)
    (by rfl) (by rfl) answers hfit) fun db db' hv hw => ?_
  rw [FeedbackEffect, hv, hw, ← hanswers]
  refine ⟨submission, hmem, _, answers, hid, hrevision, ?_, hvalid, rfl⟩
  rfl

theorem feedback_saveParticipantFeedback (h : feedbackViews.Clean amongFeedback x)
    (uuids : Uuids) (now : Timestamp) (actorId sessionId : Uuid) (operationKey : Option String)
    (expectedRevision : Option ℤ) (draft : Evidence.FeedbackSubmissionDraft) :
    (saveParticipantFeedback uuids now actorId sessionId operationKey expectedRevision
      draft).Safe amongFeedback (feedbackCommit (.saveParticipantFeedback uuids now actorId
        sessionId operationKey expectedRevision draft)) (fun _ _ => True) (fun _ _ => True)
          x := by
  have hX : ∀ (e : ServiceError) (y : Point Database RowKey), True := fun _ _ => trivial
  rw [saveParticipantFeedback]
  simp only [Tx.bind_eq]
  refine Tx.Safe.mapError ?_
  refine participantSession_feedback_bind h hX fun participant item v y hid h => ?_
  subst hid
  dsimp only
  refine h.within_bind respected_feedbackViews hX
    (Workspaces.ensureAuthorizedWritable_within (fun s => LockedViews.Same.refl s) _)
    fun _ y _ h _ => ?_
  refine h.within_bind respected_feedbackViews hX (keeps_ensure _ _) fun _ y _ h _ => ?_
  refine h.within_bind respected_feedbackViews hX (keeps_read frame_feedbackViews _)
    fun wasSubmitted y _ h _ => ?_
  -- Whether the maintainers are told or not, the call goes on alike.
  have hrest : ∀ {w : Feedback} {y : Point Database RowKey} (saved : Uuid × SubmissionStatus),
      feedbackViews.Holds amongFeedback item.id v w y → Feedback.Change v w →
      (∀ db db', feedbackViews.view item.id db = v → feedbackViews.view item.id db' = w →
        FeedbackEffect (.saveParticipantFeedback uuids now actorId item.id operationKey
          expectedRevision draft) db db') →
      (if saved.2 = .submitted ∧ !wasSubmitted then
          (notifyFeedbackMaintainers (uuids.sub 1) now item saved.1).bind fun _ => Tx.commitNow
        else (Tx.commitNow : Program Unit)).Safe amongFeedback
        (feedbackCommit (.saveParticipantFeedback uuids now actorId item.id operationKey
          expectedRevision draft)) (fun _ _ => True) (fun _ _ => True) y := by
    intro w y saved h hstep heffect
    split
    · refine h.within_bind respected_feedbackViews hX
        (keeps_notifyFeedbackMaintainers frame_feedbackViews trivial _ _ _ _) fun _ y _ h _ => ?_
      exact commitFeedback_safe h hstep heffect
    · exact commitFeedback_safe h hstep heffect
  rw [Evidence.saveDirectSubmission]
  simp only [Tx.bind_eq, Tx.bind_assoc]
  refine Tx.Safe.ensure_bind (fun _ => trivial) fun _ => ?_
  refine validatedAnswers_bind h hX fun answers y hfit hvalid h => ?_
  refine h.selectForUpdate_bind respected_feedbackViews
    (g := fun v => v.submissions.find? (·.directAuthorAccountId == some actorId))
    (fun db => Table.find?_rowsWith (by intro s; rfl) _) fun y h => ?_
  cases hsubmission : v.submissions.find? (·.directAuthorAccountId == some actorId) with
  | none =>
    dsimp only
    simp only [Tx.bind_assoc]
    refine Tx.Safe.require_bind (fun _ => trivial) fun operationKey hkey => ?_
    refine Tx.Safe.ensure_bind (fun _ => trivial) fun hnone => ?_
    obtain rfl : expectedRevision = none := by
      simp only [Bool.and_eq_true, Option.isNone_iff_eq_none] at hnone
      exact hnone.1
    refine insertSubmission_bind h hX rfl fun y hnew h => ?_
    refine h.within_bind respected_feedbackViews hX (keeps_accountEmail frame_feedbackViews _)
      fun _ y _ h _ => ?_
    refine hrest _ h (.submissionCreated _ hnew (fun r hr a ha hr' => ?_) answers hfit)
      fun _ _ _ _ => trivial
    exact List.find?_eq_none.1 hsubmission r hr (beq_iff_eq.2 (hr'.trans ha.symm))
  | some submission =>
    have hmem := List.mem_of_find?_eq_some hsubmission
    have hauthor := List.find?_some hsubmission
    rw [beq_iff_eq] at hauthor
    cases expectedRevision with
    | none =>
      dsimp only
      simp only [Tx.bind_assoc]
      refine h.within_bind respected_feedbackViews hX (keeps_ensure _ _) fun _ y _ h _ => ?_
      exact hrest _ h .stays fun _ _ _ _ => trivial
    | some expectedRevision =>
      dsimp only
      simp only [Tx.bind_assoc]
      refine Tx.Safe.ensure_bind (fun _ => trivial) fun hrevision => ?_
      simp only [Bool.and_eq_true, beq_iff_eq] at hrevision
      refine h.within_bind respected_feedbackViews hX
        (keeps_preventLinkedDraft frame_feedbackViews _ _) fun _ y _ h _ => ?_
      have hn := sessionId_of_holds h hmem
      refine rewriteSubmission_bind h hX hmem ?_ ?_ fun y h => ?_
      · rfl
      · exact hn
      refine h.within_bind respected_feedbackViews hX (keeps_accountEmail frame_feedbackViews _)
        fun _ y _ h _ => ?_
      refine hrest _ h (.submissionRewritten submission _ hmem (by rfl) (by rfl) (by rfl)
        (by rfl) answers hfit)
        fun db db' hv hw => ?_
      rw [FeedbackEffect, hv, hw]
      refine ⟨submission, hmem, _, answers, hauthor, hrevision.2, ?_, hvalid, rfl⟩
      rfl

end Operations

/-! ## Keys -/

section Keys

variable {α : Type} {x : Point Database RowKey}

theorem frame_itemKeys : Frame itemKeys.Same fun _ => True := by
  intro db db' h
  cases h with
  | ended now todoId verdict => cases verdict <;> exact LockedViews.same_of_keys rfl
  | _ => exact LockedViews.same_of_keys rfl

theorem frame_submissionKeys : Frame submissionKeys.Same fun _ => True := by
  intro db db' h
  cases h with
  | ended now todoId verdict => cases verdict <;> exact LockedViews.same_of_keys rfl
  | _ => exact LockedViews.same_of_keys rfl

theorem feedbackFrame_itemKeys : FeedbackFrame itemKeys.Same := fun _ _ _ _ h =>
  LockedViews.same_of_keys h

theorem feedbackFrame_submissionKeys : FeedbackFrame submissionKeys.Same := fun _ _ _ _ _ =>
  LockedViews.same_of_keys rfl

theorem keys_createFeedbackItem (h : itemKeys.Clean amongFeedback x) (uuids : Uuids)
    (actorId workspaceId workId sessionId : Uuid) (operationKey : String)
    (draft : FeedbackItemDraft) :
    (createFeedbackItem uuids actorId workspaceId workId sessionId operationKey draft).Safe
      amongFeedback (fun _ => itemKeys.Commits LockedViews.KeepsUnique) (fun _ _ => True)
        (fun _ _ => True) x := by
  have hX : ∀ (e : ServiceError) (y : Point Database RowKey), True := fun _ _ => trivial
  rw [createFeedbackItem]
  simp only [Tx.bind_eq]
  refine Tx.Safe.mapError ?_
  refine h.within_bind hX (keeps_feedbackManagedSession frame_itemKeys _ _ _ _)
    fun item y _ h _ => ?_
  rw [Evidence.createFeedbackItem]
  simp only [Tx.bind_eq, Tx.bind_assoc]
  refine h.within_bind hX (keeps_require _ _) fun draft' y _ h _ => ?_
  refine h.within_bind hX (keeps_ensure _ _) fun _ y _ h _ => ?_
  refine h.within_bind hX (keeps_selectForUpdate frame_itemKeys _ _) fun existing y _ h _ => ?_
  cases existing with
  | some existing =>
    dsimp only
    simp only [Tx.bind_assoc]
    refine h.within_bind hX (keeps_read frame_itemKeys _) fun _ y _ h _ => ?_
    refine h.within_bind hX (keeps_ensure _ _) fun _ y _ h _ => ?_
    exact LockedViews.Ready.commitNow respected_itemKeys (.inl h) LockedViews.KeepsUnique.refl
  | none =>
    dsimp only
    simp only [Tx.bind_assoc]
    refine h.insertKey_bind respected_itemKeys List.mem_cons_self (fun db ha hmem => ?_) ?_ hX
      fun y h => ?_
    · obtain ⟨i, hi, hid⟩ := List.mem_map.1 hmem
      have hfree := (Bool.and_eq_true_iff.1 ha).1
      simp only [Bool.not_eq_true', List.any_eq_false] at hfree
      exact hfree i hi (by simp [hid])
    · intro db
      rfl
    refine h.within_bind respected_itemKeys hX (keeps_insertRows frame_itemKeys (fun _ _ => ?_)
      _ _) fun _ y _ h _ => ?_
    · exact LockedViews.same_of_keys rfl
    exact LockedViews.Ready.commitNow respected_itemKeys (.inr ⟨_, _, _, h, fun _ => le_rfl⟩)
      LockedViews.KeepsUnique.refl

theorem keys_deleteFeedbackItem (h : itemKeys.Clean amongFeedback x)
    (actorId workspaceId workId sessionId itemId : Uuid) :
    (deleteFeedbackItem actorId workspaceId workId sessionId itemId).Safe amongFeedback
      (fun _ => itemKeys.Commits LockedViews.KeepsUnique) (fun _ _ => True) (fun _ _ => True)
        x := by
  have hX : ∀ (e : ServiceError) (y : Point Database RowKey), True := fun _ _ => trivial
  have hid : ∀ {db : Database} {n : Uuid} {item : PlaytestFeedbackItem},
      (db.feedbackItems.find? fun i => i.id == itemId && i.sessionId == n &&
        exitAllowsSessionWrite n db) = some item → item.id = itemId := by
    intro db n item hfind
    have hrow := List.find?_some hfind
    simp only [Bool.and_eq_true, beq_iff_eq] at hrow
    exact hrow.1.1
  rw [deleteFeedbackItem]
  simp only [Tx.bind_eq]
  refine Tx.Safe.mapError ?_
  refine h.within_bind hX (keeps_feedbackManagedSession frame_itemKeys _ _ _ _)
    fun item y _ h _ => ?_
  rw [Evidence.deleteFeedbackItem, Evidence.loadItem]
  simp only [Tx.bind_eq, Tx.bind_assoc]
  refine h.selectForUpdate_bind (k := itemId) respected_itemKeys
    (fun db row hfind => congrArg RowKey.feedbackItem (hid hfind))
    (fun s _ _ _ => Tx.Safe.raise trivial) fun s hs hr h _ => ?_
  refine Tx.Safe.require_bind (fun _ => trivial) fun row hfind => ?_
  have hrow := hid hfind
  refine h.within_bind respected_itemKeys hX (keeps_ensure _ _) fun _ y _ h _ => ?_
  refine h.within_bind respected_itemKeys hX (keeps_deleteOptions frame_itemKeys
    feedbackFrame_itemKeys _ _) fun _ y _ h _ => ?_
  -- Rows under the key go, and no others.
  have hcount : ∀ (db : Database) (j : Uuid),
      ((Table.delete (·.id == row.id) db.feedbackItems).map (·.id)).count j =
        if j = itemId then 0 else (db.feedbackItems.map (·.id)).count j := by
    intro db j
    split
    · rename_i hj
      refine List.count_eq_zero.2 fun hmem => ?_
      obtain ⟨i, hi, hid⟩ := List.mem_map.1 hmem
      exact ne_of_beq_false (Table.mem_delete.1 hi).2 (hid.trans (hj.trans hrow.symm))
    · rename_i hj
      rw [List.count_eq_countP, List.count_eq_countP, List.countP_map, List.countP_map,
        List.countP_eq_length_filter, List.countP_eq_length_filter]
      refine congrArg List.length (Table.filter_delete _ fun i hi => ?_)
      rw [beq_eq_false_iff_ne, hrow]
      rintro heq
      exact hj ((beq_iff_eq.1 hi).symm.trans heq)
  refine h.writeIf_bind respected_itemKeys (g := fun _ => 0) (P := True) (fun t => ?_)
    (fun t j hj => ?_) hX (fun _ _ _ => trivial) fun y _ h => ?_
  · exact (hcount t itemId).trans (if_pos rfl)
  · exact (hcount t j).trans (if_neg hj)
  · exact LockedViews.Ready.commitNow respected_itemKeys
      (.inr ⟨_, _, _, h, fun _ => Nat.zero_le _⟩) LockedViews.KeepsUnique.refl

/-- The keys of submissions as a call that may have taken one is ready to commit them. -/
abbrev SubmissionKeysReady : Point Database RowKey → Prop :=
  submissionKeys.Ready amongFeedback LockedViews.KeepsUnique

theorem keys_insertSubmission {G : Tx.Guarantee Database RowKey}
    {Q : α → Point Database RowKey → Prop} (h : submissionKeys.Clean amongFeedback x)
    {submission : PlaytestFeedbackSubmission} {answers : List FeedbackAnswerDraft}
    {f : Unit → Program α}
    (hf : ∀ y, SubmissionKeysReady y → (f ()).Safe amongFeedback G Q (fun _ _ => True) y) :
    ((Evidence.insertSubmission submission answers).bind f).Safe amongFeedback G Q
      (fun _ _ => True) x := by
  have hX : ∀ (e : ServiceError) (y : Point Database RowKey), True := fun _ _ => trivial
  rw [Evidence.insertSubmission]
  simp only [Tx.bind_eq, Tx.bind_assoc]
  refine h.insertKey_bind respected_submissionKeys List.mem_cons_self (fun db ha hmem => ?_) ?_ hX
    fun y h => ?_
  · obtain ⟨r, hr, hid⟩ := List.mem_map.1 hmem
    have hfree := (Bool.and_eq_true_iff.1 ha).1
    simp only [Bool.not_eq_true', List.any_eq_false] at hfree
    exact hfree r hr (by simp [hid])
  · intro db
    rfl
  exact h.within_bind respected_submissionKeys hX (keeps_replaceAnswers frame_submissionKeys
    feedbackFrame_submissionKeys _ _) fun _ y _ h _ => hf y (.inr ⟨_, _, _, h, fun _ => le_rfl⟩)

theorem keys_createFeedbackSubmission (h : submissionKeys.Clean amongFeedback x)
    (uuids : Uuids) (now : Timestamp) (actorId workspaceId workId sessionId : Uuid)
    (operationKey : String) (draft : Evidence.FeedbackSubmissionDraft) :
    (createFeedbackSubmission uuids now actorId workspaceId workId sessionId operationKey
      draft).Safe amongFeedback (fun _ => submissionKeys.Commits LockedViews.KeepsUnique)
        (fun _ _ => True) (fun _ _ => True) x := by
  have hX : ∀ (e : ServiceError) (y : Point Database RowKey), True := fun _ _ => trivial
  rw [createFeedbackSubmission]
  simp only [Tx.bind_eq]
  refine Tx.Safe.mapError ?_
  refine h.within_bind hX (keeps_feedbackManagedSession frame_submissionKeys _ _ _ _)
    fun item y _ h _ => ?_
  refine h.within_bind hX (keeps_read frame_submissionKeys _) fun existed y _ h _ => ?_
  refine Tx.Safe.bind (R := fun _ => SubmissionKeysReady) ?_ fun submissionId y h => ?_
  · rw [Evidence.createOrganizerSubmission]
    simp only [Tx.bind_eq]
    refine h.within_bind hX (keeps_require _ _) fun draft' y _ h _ => ?_
    refine h.within_bind hX (keeps_validatedAnswers frame_submissionKeys _ _)
      fun answers y _ h _ => ?_
    refine h.within_bind hX (keeps_ensure _ _) fun _ y _ h _ => ?_
    refine h.within_bind hX (keeps_selectForUpdate frame_submissionKeys _ _)
      fun existing y _ h _ => ?_
    cases existing with
    | some existing =>
      refine h.within_bind hX (keeps_ensure _ _) fun _ y _ h _ => ?_
      exact Tx.Safe.pure (.inl h)
    | none =>
      refine keys_insertSubmission h fun y h => ?_
      exact h.within_bind respected_submissionKeys hX (keeps_accountEmail frame_submissionKeys _)
        fun _ y _ h => Tx.Safe.pure h
  · split
    · refine h.within_bind respected_submissionKeys hX
        (keeps_notifyFeedbackMaintainers frame_submissionKeys trivial _ _ _ _) fun _ y _ h => ?_
      exact h.commitNow respected_submissionKeys LockedViews.KeepsUnique.refl
    · exact h.commitNow respected_submissionKeys LockedViews.KeepsUnique.refl

theorem keepsPlace_submissionKeys (db : Database) (id : Uuid)
    (change : PlaytestFeedbackSubmission → PlaytestFeedbackSubmission) (h : KeepsPlace change) :
    submissionKeys.Same db { db with
      feedbackSubmissions := Table.update (·.id == id) change db.feedbackSubmissions } :=
  LockedViews.same_of_keys (Table.map_update _ fun s _ => (h s).1)

theorem keys_saveParticipantFeedback (h : submissionKeys.Clean amongFeedback x)
    (uuids : Uuids) (now : Timestamp) (actorId sessionId : Uuid) (operationKey : Option String)
    (expectedRevision : Option ℤ) (draft : Evidence.FeedbackSubmissionDraft) :
    (saveParticipantFeedback uuids now actorId sessionId operationKey expectedRevision
      draft).Safe amongFeedback (fun _ => submissionKeys.Commits LockedViews.KeepsUnique)
        (fun _ _ => True) (fun _ _ => True) x := by
  have hX : ∀ (e : ServiceError) (y : Point Database RowKey), True := fun _ _ => trivial
  rw [saveParticipantFeedback]
  simp only [Tx.bind_eq]
  refine Tx.Safe.mapError ?_
  refine h.within_bind hX (keeps_participantSession frame_submissionKeys _ _)
    fun found y _ h _ => ?_
  refine h.within_bind hX (Workspaces.ensureAuthorizedWritable_within
    (fun s => LockedViews.Same.refl s) _) fun _ y _ h _ => ?_
  refine h.within_bind hX (keeps_ensure _ _) fun _ y _ h _ => ?_
  refine h.within_bind hX (keeps_read frame_submissionKeys _) fun wasSubmitted y _ h _ => ?_
  refine Tx.Safe.bind (R := fun _ => SubmissionKeysReady) ?_ fun saved y h => ?_
  · rw [Evidence.saveDirectSubmission]
    simp only [Tx.bind_eq]
    refine h.within_bind hX (keeps_ensure _ _) fun _ y _ h _ => ?_
    refine h.within_bind hX (keeps_validatedAnswers frame_submissionKeys _ _)
      fun answers y _ h _ => ?_
    refine h.within_bind hX (keeps_selectForUpdate frame_submissionKeys _ _)
      fun submission y _ h _ => ?_
    cases submission with
    | none =>
      refine h.within_bind hX (keeps_require _ _) fun _ y _ h _ => ?_
      refine h.within_bind hX (keeps_ensure _ _) fun _ y _ h _ => ?_
      refine keys_insertSubmission h fun y h => ?_
      exact h.within_bind respected_submissionKeys hX (keeps_accountEmail frame_submissionKeys _)
        fun _ y _ h => Tx.Safe.pure h
    | some submission =>
      cases expectedRevision with
      | none =>
        refine h.within_bind hX (keeps_ensure _ _) fun _ y _ h _ => ?_
        exact Tx.Safe.pure (.inl h)
      | some expectedRevision =>
        refine h.within_bind hX (keeps_ensure _ _) fun _ y _ h _ => ?_
        refine h.within_bind hX (keeps_preventLinkedDraft frame_submissionKeys _ _)
          fun _ y _ h _ => ?_
        refine h.within_bind hX (keeps_rewriteSubmission frame_submissionKeys
          feedbackFrame_submissionKeys _ _ keepsPlace_submissionKeys) fun _ y _ h _ => ?_
        refine h.within_bind hX (keeps_accountEmail frame_submissionKeys _) fun _ y _ h _ => ?_
        exact Tx.Safe.pure (.inl h)
  · split
    · refine h.within_bind respected_submissionKeys hX
        (keeps_notifyFeedbackMaintainers frame_submissionKeys trivial _ _ _ _) fun _ y _ h => ?_
      exact h.commitNow respected_submissionKeys LockedViews.KeepsUnique.refl
    · exact h.commitNow respected_submissionKeys LockedViews.KeepsUnique.refl

theorem keys_updateFeedbackSubmission (h : submissionKeys.Clean amongFeedback x)
    (actorId workspaceId workId sessionId submissionId : Uuid) (expectedRevision : ℤ)
    (draft : Evidence.FeedbackSubmissionDraft) :
    (updateFeedbackSubmission actorId workspaceId workId sessionId submissionId expectedRevision
      draft).Safe amongFeedback (fun _ => submissionKeys.Commits LockedViews.KeepsUnique)
        (fun _ _ => True) (fun _ _ => True) x := by
  have hX : ∀ (e : ServiceError) (y : Point Database RowKey), True := fun _ _ => trivial
  rw [updateFeedbackSubmission]
  simp only [Tx.bind_eq]
  refine Tx.Safe.mapError ?_
  refine h.within_bind hX (keeps_feedbackManagedSession frame_submissionKeys _ _ _ _)
    fun item y _ h _ => ?_
  refine h.within_bind hX (keeps_updateOrganizerSubmission frame_submissionKeys
    feedbackFrame_submissionKeys _ _ _ _ _ keepsPlace_submissionKeys) fun _ y _ h _ => ?_
  exact LockedViews.Ready.commitNow respected_submissionKeys (.inl h)
    LockedViews.KeepsUnique.refl

end Keys

/-! ## Every call -/

variable {settings : Settings} {normalizeEmail : String → Option String}

theorem Call.feedback (call : Call) (s : Database) :
    (call.program settings normalizeEmail).Safe amongFeedback (feedbackCommit call)
      (fun _ _ => True) (fun _ _ => True) (Point.start s) := by
  have hclean : feedbackViews.Clean amongFeedback (Point.start s) := LockedViews.clean_start s
  have hother : ∀ call : Call, call.writesFeedback = false →
      (∀ db db', FeedbackEffect call db db') →
      (call.program settings normalizeEmail).Safe amongFeedback (feedbackCommit call)
        (fun _ _ => True) (fun _ _ => True) (Point.start s) := fun call hcall heffect =>
    (safe_of_steps (fun _ => .stays) ((Call.changes settings normalizeEmail call).mono
      fun _ _ h => h.sameFeedback hcall)).weaken fun _ _ db db' hc => ⟨hc, heffect db db'⟩
  cases call with
  | createFeedbackItem => exact feedback_createFeedbackItem hclean _ _ _ _ _ _ _
  | updateFeedbackItem => exact feedback_updateFeedbackItem hclean _ _ _ _ _ _ _ _
  | deleteFeedbackItem => exact feedback_deleteFeedbackItem hclean _ _ _ _ _
  | createFeedbackSubmission => exact feedback_createFeedbackSubmission hclean _ _ _ _ _ _ _ _
  | updateFeedbackSubmission => exact feedback_updateFeedbackSubmission hclean _ _ _ _ _ _ _
  | saveParticipantFeedback => exact feedback_saveParticipantFeedback hclean _ _ _ _ _ _ _
  | _ => exact hother _ rfl fun _ _ => trivial

theorem Call.itemKeys (call : Call) (s : Database) :
    (call.program settings normalizeEmail).Safe amongFeedback
      (fun _ => Playtests.itemKeys.Commits LockedViews.KeepsUnique) (fun _ _ => True)
        (fun _ _ => True) (Point.start s) := by
  have hother : ∀ call : Call, call.writesItems = false →
      (call.program settings normalizeEmail).Safe amongFeedback
        (fun _ => Playtests.itemKeys.Commits LockedViews.KeepsUnique) (fun _ _ => True)
          (fun _ _ => True) (Point.start s) := fun call hcall =>
    safe_of_steps LockedViews.KeepsUnique.refl ((Call.changes settings normalizeEmail call).mono
      fun _ _ h => h.sameItemKeys hcall)
  cases call with
  | createFeedbackItem =>
    exact keys_createFeedbackItem (LockedViews.clean_start s) _ _ _ _ _ _ _
  | deleteFeedbackItem => exact keys_deleteFeedbackItem (LockedViews.clean_start s) _ _ _ _ _
  | _ => exact hother _ rfl

theorem Call.submissionKeys (call : Call) (s : Database) :
    (call.program settings normalizeEmail).Safe amongFeedback
      (fun _ => Playtests.submissionKeys.Commits LockedViews.KeepsUnique) (fun _ _ => True)
        (fun _ _ => True) (Point.start s) := by
  have hother : ∀ call : Call, call.writesSubmissions = false →
      (call.program settings normalizeEmail).Safe amongFeedback
        (fun _ => Playtests.submissionKeys.Commits LockedViews.KeepsUnique) (fun _ _ => True)
          (fun _ _ => True) (Point.start s) := fun call hcall =>
    safe_of_steps LockedViews.KeepsUnique.refl ((Call.changes settings normalizeEmail call).mono
      fun _ _ h => h.sameSubmissionKeys hcall)
  cases call with
  | createFeedbackSubmission =>
    exact keys_createFeedbackSubmission (LockedViews.clean_start s) _ _ _ _ _ _ _ _
  | updateFeedbackSubmission =>
    exact keys_updateFeedbackSubmission (LockedViews.clean_start s) _ _ _ _ _ _ _
  | saveParticipantFeedback =>
    exact keys_saveParticipantFeedback (LockedViews.clean_start s) _ _ _ _ _ _ _
  | _ => exact hother _ rfl

theorem feedbackInOrder_empty : FeedbackInOrder Database.empty :=
  ⟨fun _ => Feedback.ok_empty, .nil, .nil⟩

variable {c : Config Database RowKey ServiceError Unit Call}

theorem safeFeedback_of_reachable (h : (system settings normalizeEmail).Reachable c) :
    SafeConfig amongFeedback feedbackGuarantee (fun _ _ _ => True) (fun _ _ _ => True) c := by
  refine sound closed_amongFeedback ?_ (fun call s _ => ?_) h
  · rintro _ rfl
    exact feedbackInOrder_empty
  · refine ((call.feedback s).and ((call.itemKeys s).and (call.submissionKeys s))).mono
      (fun _ _ _ => trivial) fun _ _ _ => trivial

theorem feedback_of_reachable (h : (system settings normalizeEmail).Reachable c) :
    FeedbackInOrder c.db :=
  (safeFeedback_of_reachable h).inv

end Playtests

end Rulefolio
