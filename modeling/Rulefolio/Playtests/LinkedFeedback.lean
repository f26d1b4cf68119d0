import Rulefolio.Library.LockedViews
import Rulefolio.Playtests.Capacity
import Rulefolio.Playtests.Footprint

/-!
# Feedback that issues refer to

A reference of an issue to a submission and the status of this submission are written by different
people, in different tables. Whoever adds a reference holds the row of the submission
`FOR KEY SHARE` until its commit, and whoever writes the row holds it `FOR UPDATE`. So the status
stays what the trigger has read, and no reference appears while a submission is being taken back.

All submissions of a session are written under the lock of the session. This is why a second look
finds the submission that was locked, and why an organizer writes back the status there is.

## Main definitions

* `Linked`, `LinksSubmitted` — the invariant of the database.
* `LinkStep`, `amongLinks` — what a commit can be, and what a call relies on.
* `Quiet`, `Adds`, `Settled` — where a transaction stands.

## Main results

* `linked_feedback_submitted` — in every interleaving linked feedback is submitted.
-/

namespace Rulefolio

namespace Playtests

open ReadCommitted

/-! ## The invariant -/

/-- An issue refers to the submission. -/
def Linked (sid : Uuid) (db : Database) : Prop :=
  ∃ link ∈ db.evidenceLinks, link.feedbackSubmissionId = some sid

/-- Submissions have different keys, and those that issues refer to are submitted. -/
structure LinksSubmitted (db : Database) : Prop where
  ids : (db.feedbackSubmissions.map (·.id)).Nodup
  submitted : ∀ sid, Linked sid db →
    ∃ s ∈ db.feedbackSubmissions, s.id = sid ∧ s.status = .submitted

theorem LinksSubmitted.status {db : Database} (h : LinksSubmitted db)
    {s : PlaytestFeedbackSubmission} (hs : s ∈ db.feedbackSubmissions) (hl : Linked s.id db) :
    s.status = .submitted := by
  obtain ⟨t, ht, hid, hstatus⟩ := h.submitted s.id hl
  rwa [← List.inj_on_of_nodup_map h.ids ht hs hid]

theorem linksSubmitted_empty : LinksSubmitted Database.empty := by
  refine ⟨List.nodup_nil, ?_⟩
  rintro sid ⟨link, hlink, -⟩
  cases hlink

/-! ## What a commit can be -/

/-- The submissions of a session, guarded by the lock of the session. -/
def sessionSubmissions : LockedViews Database RowKey Uuid (List PlaytestFeedbackSubmission) where
  view n db := db.feedbackSubmissions.filter (·.sessionId == n)
  lock n := .session n

/-- The row of a submission, guarded by its own lock. -/
def submissionRows : LockedViews Database RowKey Uuid (List PlaytestFeedbackSubmission) where
  view sid db := db.feedbackSubmissions.filter (·.id == sid)
  lock sid := .feedbackSubmission sid

/-- What a commit of a call does to submissions and to the references to them. -/
structure LinkStep (H : Set (RowKey × RowLock)) (db db' : Database) : Prop where
  session : ∀ n, sessionSubmissions.view n db' ≠ sessionSubmissions.view n db →
    (.session n, .update) ∈ H
  row : ∀ sid, submissionRows.view sid db' ≠ submissionRows.view sid db →
    (.feedbackSubmission sid, .update) ∈ H
  /-- A reference is added while the row is locked, in whatever mode. -/
  link : ∀ sid, Linked sid db' → Linked sid db ∨ ∃ m, (.feedbackSubmission sid, m) ∈ H
  keeps : LinksSubmitted db → LinksSubmitted db'

/-- The guarantee of every call. -/
def linkGuarantee : Tx.Guarantee Database RowKey := fun _ => LinkStep

/-- The environment the calls make for each other. -/
abbrev amongLinks : Environment Database RowKey :=
  environment LinksSubmitted fun _ : Call => linkGuarantee

theorem find_inSession (n : Uuid) (q : PlaytestFeedbackSubmission → Bool) (db : Database) :
    db.feedbackSubmissions.find? (fun s => s.sessionId == n && q s) =
      (sessionSubmissions.view n db).find? q := by
  show _ = (db.feedbackSubmissions.filter (·.sessionId == n)).find? q
  rw [List.find?_filter]
  exact congrArg (List.find? · _) (funext fun s => Bool.eq_iff_iff.2 (by simp))

theorem closed_amongLinks : Closed amongLinks fun _ : Call => linkGuarantee :=
  closed_environment fun _ _ _ _ _ hs hG => hG.keeps hs

theorem respected_sessionSubmissions : sessionSubmissions.Respected amongLinks :=
  LockedViews.respected_environment fun _ _ _ _ _ hG => hG.session

section Rely

variable {H : Set (RowKey × RowLock)} {db db' : Database} {sid : Uuid}

/-- Under any lock of its row a submission stays as it is. -/
theorem row_of_rely (h : amongLinks.Rely H db db') {m : RowLock}
    (hl : (.feedbackSubmission sid, m) ∈ H) :
    submissionRows.view sid db' = submissionRows.view sid db := by
  refine relates_of_rely (R := fun db db' => submissionRows.view sid db' =
    submissionRows.view sid db) (fun _ => rfl) (fun _ _ _ h h' => h'.trans h) ?_ h
  intro _ _ H' _ _ _ hG hc
  by_contra hne
  exact hc.notMem (hG.row sid hne) m hl

theorem mem_of_rely (h : amongLinks.Rely H db db') {m : RowLock}
    {s : PlaytestFeedbackSubmission} (hl : (.feedbackSubmission s.id, m) ∈ H)
    (hs : s ∈ db.feedbackSubmissions) : s ∈ db'.feedbackSubmissions := by
  have hview : s ∈ submissionRows.view s.id db := List.mem_filter.2 ⟨hs, beq_self_eq_true _⟩
  rw [← row_of_rely h hl] at hview
  exact (List.mem_filter.1 hview).1

/-- Nobody refers to a submission whose row is locked for an update. -/
theorem unlinked_of_rely (h : amongLinks.Rely H db db')
    (hl : (.feedbackSubmission sid, .update) ∈ H) (hsid : ¬Linked sid db) : ¬Linked sid db' := by
  refine relates_of_rely (R := fun db db' => ¬Linked sid db → ¬Linked sid db') (fun _ => id)
    (fun _ _ _ h h' hs => h' (h hs)) ?_ h hsid
  intro _ _ H' _ _ _ hG hc hnot hlinked
  rcases hG.link sid hlinked with hlinked | ⟨m, hm⟩
  · exact hnot hlinked
  · exact hc.symm.notMem hl m hm

end Rely

/-! ## Where a transaction stands -/

/-- Submissions are left alone, and no reference is added. -/
structure Unlinks (db db' : Database) : Prop where
  submissions : db'.feedbackSubmissions = db.feedbackSubmissions
  links : ∀ sid, Linked sid db' → Linked sid db

namespace Unlinks

theorem refl (db : Database) : Unlinks db db := ⟨rfl, fun _ => id⟩

theorem trans (db db' db'' : Database) (h : Unlinks db db') (h' : Unlinks db' db'') :
    Unlinks db db'' :=
  ⟨h'.submissions.trans h.submissions, fun sid hl => h.links sid (h'.links sid hl)⟩

theorem of_tables {db db' : Database} (hsubmissions : db'.feedbackSubmissions =
    db.feedbackSubmissions) (hlinks : db'.evidenceLinks = db.evidenceLinks) : Unlinks db db' := by
  refine ⟨hsubmissions, fun sid hl => ?_⟩
  rwa [Linked, ← hlinks]

theorem keeps {db db' : Database} (h : Unlinks db db') (hdb : LinksSubmitted db) :
    LinksSubmitted db' := by
  refine ⟨?_, fun sid hl => ?_⟩
  · rw [h.submissions]
    exact hdb.ids
  · rw [h.submissions]
    exact hdb.submitted sid (h.links sid hl)

theorem linkStep {db db' : Database} (h : Unlinks db db') (H : Set (RowKey × RowLock)) :
    LinkStep H db db' := by
  refine ⟨fun n hne => absurd ?_ hne, fun sid hne => absurd ?_ hne, fun sid hl => .inl ?_, h.keeps⟩
  · exact congrArg (List.filter _) h.submissions
  · exact congrArg (List.filter _) h.submissions
  · exact h.links sid hl

end Unlinks

/-- A commit that is prepared by changes that show nowhere. -/
theorem LinkStep.then {H H' : Set (RowKey × RowLock)} {db db' db'' : Database}
    (h : LinkStep H db db') (hH : H ⊆ H') (h' : Unlinks db' db'') : LinkStep H' db db'' := by
  have hn : ∀ n, sessionSubmissions.view n db'' = sessionSubmissions.view n db' := fun n =>
    congrArg (List.filter _) h'.submissions
  have hsid : ∀ sid, submissionRows.view sid db'' = submissionRows.view sid db' := fun sid =>
    congrArg (List.filter _) h'.submissions
  refine ⟨fun n hne => hH (h.session n (hn n ▸ hne)), fun sid hne => hH (h.row sid
    (hsid sid ▸ hne)),
    fun sid hl => ?_, fun hdb => h'.keeps (h.keeps hdb)⟩
  exact (h.link sid (h'.links sid hl)).imp_right fun ⟨m, hm⟩ => ⟨m, hH hm⟩

/-- Submissions and references are left alone. -/
structure Apart (db db' : Database) : Prop where
  submissions : db'.feedbackSubmissions = db.feedbackSubmissions
  links : db'.evidenceLinks = db.evidenceLinks

namespace Apart

theorem refl (db : Database) : Apart db db := ⟨rfl, rfl⟩

theorem trans (db db' db'' : Database) (h : Apart db db') (h' : Apart db' db'') : Apart db db'' :=
  ⟨h'.submissions.trans h.submissions, h'.links.trans h.links⟩

theorem unlinks {db db' : Database} (h : Apart db db') : Unlinks db db' :=
  .of_tables h.submissions h.links

end Apart

theorem apart_of_aside {K : TodoKind → Prop} {db db' : Database} (h : Aside K db db') :
    Apart db db' := by
  cases h with
  | ended now todoId verdict => cases verdict <;> exact ⟨rfl, rfl⟩
  | _ => exact ⟨rfl, rfl⟩

theorem frame_apart : Frame Apart fun _ => True := fun _ _ => apart_of_aside

theorem feedback_apart : FeedbackFrame Apart := fun _ _ _ _ _ => ⟨rfl, rfl⟩

variable {x : Point Database RowKey} {n : Uuid}

/-- The transaction has changed no submission and no reference. -/
def Quiet (x : Point Database RowKey) : Prop :=
  ∀ s, Apart s (x.pending s)

/-- It holds the lock of a session besides. -/
structure Managing (n : Uuid) (x : Point Database RowKey) : Prop where
  quiet : Quiet x
  lock : (.session n, .update) ∈ x.locks

/-- What it has changed may be committed. -/
def Settled (x : Point Database RowKey) : Prop :=
  ∀ s, LinksSubmitted s → amongLinks.Rely x.locks x.db s → LinkStep x.locks s (x.pending s)

theorem quiet_start (s : Database) : Quiet (Point.start s) := fun _ => .refl _

theorem Quiet.view (h : Quiet x) (n : Uuid) (s : Database) :
    sessionSubmissions.view n (x.pending s) = sessionSubmissions.view n s :=
  congrArg (List.filter _) (h s).submissions

theorem Quiet.extends_ (h : Quiet x) {y : Point Database RowKey}
    (hy : Tx.Extends amongLinks Apart x y) : Quiet y := fun s =>
  (h s).trans _ _ _ (hy.pending s)

theorem Quiet.settled (h : Quiet x) : Settled x := fun s _ _ => (h s).unlinks.linkStep _

theorem Managing.extends_ (h : Managing n x) {y : Point Database RowKey}
    (hy : Tx.Extends amongLinks Apart x y) : Managing n y :=
  ⟨h.quiet.extends_ hy, hy.locks h.lock⟩

theorem Settled.extends_ (h : Settled x) {y : Point Database RowKey}
    (hy : Tx.Extends amongLinks Apart x y) : Settled y := fun s hs hr =>
  (h s hs (amongLinks.trans hy.rely (amongLinks.anti hy.locks hr))).then hy.locks
    (hy.pending s).unlinks

/-! ## Rules -/

section Rules

variable {α β : Type} {G : Tx.Guarantee Database RowKey}
  {Q : α → Point Database RowKey → Prop}

/-- The frame rule, for a position that survives. -/
theorem apart_bind {I : Point Database RowKey → Prop}
    (hI : ∀ y, Tx.Extends amongLinks Apart x y → I y) {t : Program β} (ht : Keeps Apart t)
    {f : β → Program α}
    (hf : ∀ b y, I y → (f b).Safe amongLinks G Q (fun _ _ => True) y) :
    (t.bind f).Safe amongLinks G Q (fun _ _ => True) x :=
  ht.safe_bind Apart.refl Apart.trans (fun _ _ _ => trivial) fun b y _ hy => hf b y (hI y hy)

theorem Quiet.bind (h : Quiet x) {t : Program β} (ht : Keeps Apart t) {f : β → Program α}
    (hf : ∀ b y, Quiet y → (f b).Safe amongLinks G Q (fun _ _ => True) y) :
    (t.bind f).Safe amongLinks G Q (fun _ _ => True) x :=
  apart_bind (fun _ hy => h.extends_ hy) ht hf

theorem Managing.bind (h : Managing n x) {t : Program β} (ht : Keeps Apart t) {f : β → Program α}
    (hf : ∀ b y, Managing n y → (f b).Safe amongLinks G Q (fun _ _ => True) y) :
    (t.bind f).Safe amongLinks G Q (fun _ _ => True) x :=
  apart_bind (fun _ hy => h.extends_ hy) ht hf

theorem Settled.bind (h : Settled x) {t : Program β} (ht : Keeps Apart t) {f : β → Program α}
    (hf : ∀ b y, Settled y → (f b).Safe amongLinks G Q (fun _ _ => True) y) :
    (t.bind f).Safe amongLinks G Q (fun _ _ => True) x :=
  apart_bind (fun _ hy => h.extends_ hy) ht hf

/-- The end of every call: a commit, and nothing that writes. -/
theorem Settled.commit_bind (h : Settled x) {f : Unit → Program α} (hf : Keeps Apart (f ())) :
    (Tx.commitNow.bind f).Safe amongLinks linkGuarantee (fun _ _ => True) (fun _ _ => True) x :=
  Tx.Safe.commitNow_bind fun s hs hr => ⟨h s hs hr,
    (hf.safe Apart.refl Apart.trans).mono (fun _ _ _ => trivial) fun _ _ _ => trivial⟩

theorem Settled.commit (h : Settled x) :
    (Tx.commitNow : Program Unit).Safe amongLinks linkGuarantee (fun _ _ => True)
      (fun _ _ => True) x := by
  rw [← Tx.bind_pure Tx.commitNow]
  exact h.commit_bind (keeps_pure _)

/-- Locking a session. -/
theorem Quiet.lockSession_bind (h : Quiet x) {find : Database → Option PlaytestSession}
    (hfind : ∀ db item, find db = some item → item.id = n) {f : Option PlaytestSession → Program α}
    (hf : ∀ o y, (∀ item, o = some item → Managing item.id y) → 
      (f o).Safe amongLinks G Q (fun _ _ => True) y) :
    ((Tx.selectForUpdate (fun s : PlaytestSession => .session s.id) find).bind f).Safe amongLinks G
      Q (fun _ _ => True) x := by
  refine Tx.Safe.selectForUpdate_bind (l := .session n) (fun db item hitem => ?_)
    (fun s _ _ => hf none _ fun _ h => by cases h) fun s _ _ => hf _ _ fun item hitem => ?_
  · rw [hfind db item hitem]
  · rw [hfind _ item hitem]
    exact ⟨h, Set.mem_insert _ _⟩

/-- A submission in the session, locked. -/
structure Chosen (n : Uuid) (row : PlaytestFeedbackSubmission) (y : Point Database RowKey) :
    Prop where
  mem : row ∈ y.db.feedbackSubmissions
  session : row.sessionId = n
  lock : (.feedbackSubmission row.id, .update) ∈ y.locks

/-- Locking a submission of a session that is locked: a second look finds the same. -/
theorem Managing.lockSubmission_bind (h : Managing n x)
    {find : Database → Option PlaytestFeedbackSubmission} {q : PlaytestFeedbackSubmission → Bool}
    (hfind : ∀ db, find db = (sessionSubmissions.view n db).find? q)
    {f : Option PlaytestFeedbackSubmission → Program α}
    (hf : ∀ o y, Managing n y → amongLinks.Rely x.locks x.db y.db →
      (∀ row, o = some row → q row = true ∧ Chosen n row y) →
      (f o).Safe amongLinks G Q (fun _ _ => True) y) :
    ((Tx.selectForUpdate (fun s : PlaytestFeedbackSubmission => .feedbackSubmission s.id)
      find).bind f).Safe amongLinks G Q (fun _ _ => True) x := by
  have hview : ∀ s, find (x.pending s) = (sessionSubmissions.view n s).find? q := fun s => by
    rw [hfind, h.quiet.view]
  rw [Tx.selectForUpdate, Tx.bind_assoc]
  refine Tx.Safe.read_bind fun s hs hr => ?_
  rw [hview]
  cases hrow : (sessionSubmissions.view n s).find? q with
  | none => exact hf none _ ⟨h.quiet, h.lock⟩ hr fun _ h => by cases h
  | some row =>
    show Tx.Safe amongLinks G Q _ (.lock (.feedbackSubmission row.id) .update
      ((Tx.read find).bind f)) _
    rw [Tx.Safe]
    intro t ht hrt
    refine Tx.Safe.read_bind fun u hu hru => ?_
    have hsu : amongLinks.Rely x.locks s u :=
      amongLinks.trans hrt (amongLinks.anti (Set.subset_insert _ _) hru)
    have hsame : sessionSubmissions.view n u = sessionSubmissions.view n s :=
      respected_sessionSubmissions hsu h.lock
    have hu : find (x.pending u) = some row := by rw [hview, hsame, hrow]
    rw [show find _ = some row from hu]
    refine hf _ _ ⟨h.quiet, Set.mem_insert_of_mem _ h.lock⟩ (amongLinks.trans hr hsu)
      fun row' hrow' => ?_
    obtain rfl := Option.some.inj hrow'
    have hmem := List.mem_of_find?_eq_some hrow
    rw [← hsame, sessionSubmissions, List.mem_filter, beq_iff_eq] at hmem
    exact ⟨List.find?_some hrow, hmem.1, hmem.2, Set.mem_insert _ _⟩

/-! ## The statements that count -/

/-- The `INSERT` of a submission. Its key was free, so nothing refers to it. -/
theorem insertSubmission_safe {submission : PlaytestFeedbackSubmission}
    (h : Managing submission.sessionId x) (answers : List Evidence.FeedbackAnswerDraft) :
    (Evidence.insertSubmission submission answers).Safe amongLinks G (fun _ => Settled)
      (fun _ _ => True) x := by
  rw [Evidence.insertSubmission]
  simp only [Tx.bind_eq]
  rw [insertRow, Tx.bind_assoc]
  refine Tx.Safe.lockAll_bind fun H s hH hkeys hr => ?_
  refine Tx.Safe.writeIf_bind (fun _ _ _ => trivial) fun t ht hrt ha => ?_
  have hlock : (.feedbackSubmission submission.id, .update) ∈ H := hkeys _ List.mem_cons_self
  have hfree : submissionRows.view submission.id t = [] := by
    have habsent := (Bool.and_eq_true_iff.1 ha).1
    simp only [Bool.not_eq_true', List.any_eq_false] at habsent
    refine List.filter_eq_nil_iff.2 fun row hrow hid => habsent row ?_ (by simp [beq_iff_eq.1 hid])
    rwa [show (x.pending t).feedbackSubmissions = _ from (h.quiet t).submissions]
  rw [← Tx.bind_pure (Evidence.replaceAnswers _ _)]
  refine Settled.bind (fun u hu hru => ?_) (keeps_replaceAnswers frame_apart feedback_apart _ _)
    fun _ y hy => Tx.Safe.pure hy
  have hnone : submissionRows.view submission.id u = [] := by
    rw [row_of_rely (show amongLinks.Rely H t u from hru) hlock, hfree]
  have hsubmissions := (h.quiet u).submissions
  have hlinks := (h.quiet u).links
  show LinkStep H u { x.pending u with
    feedbackSubmissions := submission :: (x.pending u).feedbackSubmissions }
  have hfresh : ∀ row ∈ u.feedbackSubmissions, row.id ≠ submission.id := fun row hrow hid =>
    List.filter_eq_nil_iff.1 hnone row hrow (beq_iff_eq.2 hid)
  refine ⟨fun m hm => ?_, fun sid hsid => ?_, fun sid hl => .inl ?_, fun hdb => ⟨?_, ?_⟩⟩
  · by_cases hmn : submission.sessionId = m
    · exact hmn ▸ hH h.lock
    · refine absurd ?_ hm
      show (submission :: (x.pending u).feedbackSubmissions).filter (·.sessionId == m) =
        u.feedbackSubmissions.filter (·.sessionId == m)
      rw [List.filter_cons_of_neg (by simpa using hmn), hsubmissions]
  · by_cases hid : submission.id = sid
    · exact hid ▸ hlock
    · refine absurd ?_ hsid
      show (submission :: (x.pending u).feedbackSubmissions).filter (·.id == sid) =
        u.feedbackSubmissions.filter (·.id == sid)
      rw [List.filter_cons_of_neg (by simpa using hid), hsubmissions]
  · exact (h.quiet u).unlinks.links sid hl
  · show (submission.id :: ((x.pending u).feedbackSubmissions).map _).Nodup
    rw [hsubmissions, List.nodup_cons, List.mem_map]
    refine ⟨?_, hdb.ids⟩
    rintro ⟨row, hrow, hid⟩
    exact hfresh row hrow hid
  · intro sid hl
    obtain ⟨row, hrow, hid, hstatus⟩ := hdb.submitted sid ((h.quiet u).unlinks.links sid hl)
    refine ⟨row, List.mem_cons_of_mem _ ?_, hid, hstatus⟩
    rwa [hsubmissions]

/-- The `UPDATE` of a submission that was chosen. It is submitted afterwards, or as it was, or
nothing refers to it. -/
theorem rewriteSubmission_safe (h : Managing n x) {row submission : PlaytestFeedbackSubmission}
    (hrow : Chosen n row x) (hid : submission.id = row.id)
    (hstatus : submission.status = .submitted ∨ submission.status = row.status ∨
      ¬Linked row.id x.db)
    (answers : List Evidence.FeedbackAnswerDraft) :
    (Evidence.rewriteSubmission submission answers).Safe amongLinks G (fun _ => Settled)
      (fun _ _ => True) x := by
  rw [Evidence.rewriteSubmission]
  simp only [Tx.bind_eq]
  refine Tx.Safe.writeIf_bind (fun _ _ _ => trivial) fun t ht hrt _ => ?_
  rw [← Tx.bind_pure (Evidence.replaceAnswers _ _)]
  refine Settled.bind (fun u hu hru => ?_) (keeps_replaceAnswers frame_apart feedback_apart _ _)
    fun _ y hy => Tx.Safe.pure hy
  have hru : amongLinks.Rely x.locks x.db u := amongLinks.trans hrt hru
  have hsubmissions := (h.quiet u).submissions
  have hmem := mem_of_rely hru hrow.lock hrow.mem
  let change : PlaytestFeedbackSubmission → PlaytestFeedbackSubmission := fun s =>
    { s with
      source := submission.source
      temporaryAlias := submission.temporaryAlias
      status := submission.status
      revision := submission.revision }
  show LinkStep x.locks u { x.pending u with
    feedbackSubmissions :=
      Table.update (·.id == submission.id) change (x.pending u).feedbackSubmissions }
  rw [hsubmissions, hid]
  have honly : ∀ s ∈ u.feedbackSubmissions, s.id = row.id → s = row := fun s hs hid =>
    List.inj_on_of_nodup_map hu.ids hs hmem hid
  refine ⟨fun m hm => ?_, fun sid hsid => ?_, fun sid hl => .inl ?_, fun hdb => ⟨?_, ?_⟩⟩
  · by_cases hmn : m = n
    · exact hmn ▸ h.lock
    · refine absurd (Table.filter_update_of_mem _ fun s hs hs' => ?_) hm
      rw [beq_iff_eq] at hs'
      rw [honly s hs hs']
      have hother : (row.sessionId == m) = false := by
        rw [hrow.session]
        exact beq_false_of_ne (Ne.symm hmn)
      exact ⟨hother, hother⟩
  · by_cases hsame : sid = row.id
    · exact hsame ▸ hrow.lock
    · refine absurd (Table.filter_update _ fun s hs => ?_) hsid
      rw [beq_iff_eq] at hs
      have hother : (s.id == sid) = false := by
        rw [hs]
        exact beq_false_of_ne (Ne.symm hsame)
      exact ⟨hother, hother⟩
  · exact (h.quiet u).unlinks.links sid hl
  · have hids : (Table.update (·.id == row.id) change u.feedbackSubmissions).map (·.id) =
        u.feedbackSubmissions.map (·.id) := Table.map_update _ fun _ _ => rfl
    show ((Table.update (·.id == row.id) change u.feedbackSubmissions).map (·.id)).Nodup
    rw [hids]
    exact hdb.ids
  · intro sid hl
    have hl := (h.quiet u).unlinks.links sid hl
    obtain ⟨s, hs, rfl, hsubmitted⟩ := hdb.submitted sid hl
    by_cases hsame : s.id = row.id
    · refine ⟨change s, Table.mem_update.2 (.inl ⟨s, hs, beq_iff_eq.2 hsame, rfl⟩), rfl, ?_⟩
      rw [honly s hs hsame] at hl hsubmitted
      show submission.status = .submitted
      rcases hstatus with hstatus | hstatus | hnot
      · exact hstatus
      · rw [hstatus, hsubmitted]
      · exact absurd hl (unlinked_of_rely hru hrow.lock hnot)
    · exact ⟨s, Table.mem_update.2 (.inr ⟨hs, beq_false_of_ne hsame⟩), rfl, hsubmitted⟩

/-- `create_organizer_submission`. -/
theorem createOrganizerSubmission_safe (h : Managing n x) (id actorId : Uuid)
    (operationKey : String) (draft : Evidence.FeedbackSubmissionDraft) :
    (Evidence.createOrganizerSubmission id n actorId operationKey draft).Safe amongLinks G
      (fun _ => Settled) (fun _ _ => True) x := by
  rw [Evidence.createOrganizerSubmission]
  simp only [Tx.bind_eq, Tx.pure_eq]
  refine h.bind (keeps_require _ _) fun draft y h => ?_
  refine h.bind (keeps_validatedAnswers frame_apart _ _) fun answers y h => ?_
  refine h.bind (keeps_ensure _ _) fun _ y h => ?_
  refine h.lockSubmission_bind (find_inSession n (·.creationOperationKey == operationKey))
    fun existing y h _ _ => ?_
  cases existing with
  | some existing =>
    exact h.bind (keeps_ensure _ _) fun _ y h => Tx.Safe.pure h.quiet.settled
  | none =>
    refine Tx.Safe.bind (insertSubmission_safe h _) fun _ y hy => ?_
    exact hy.bind (keeps_accountEmail frame_apart _) fun _ y hy => Tx.Safe.pure hy

/-- `update_organizer_submission`. -/
theorem updateOrganizerSubmission_safe (h : Managing n x) (submissionId actorId : Uuid)
    (expectedRevision : ℤ) (draft : Evidence.FeedbackSubmissionDraft) :
    (Evidence.updateOrganizerSubmission n submissionId actorId expectedRevision draft).Safe
      amongLinks G (fun _ => Settled) (fun _ _ => True) x := by
  rw [Evidence.updateOrganizerSubmission]
  simp only [Tx.bind_eq, Tx.pure_eq]
  have hfind : ∀ db, Evidence.findSubmission n submissionId db =
      (sessionSubmissions.view n db).find? (·.id == submissionId) := fun db => by
    rw [← find_inSession, Evidence.findSubmission]
    exact congrArg (List.find? · _) (funext fun s => Bool.and_comm _ _)
  refine h.bind (keeps_require _ _) fun draft y h => ?_
  refine h.bind (keeps_validatedAnswers frame_apart _ _) fun answers y h => ?_
  refine h.bind (keeps_ensure _ _) fun _ y h => ?_
  refine Tx.Safe.read_bind fun s hs hr => ?_
  refine Tx.Safe.require_bind (fun _ => trivial) fun submission hsubmission => ?_
  rw [hfind, h.quiet.view] at hsubmission
  have hid := List.find?_some hsubmission
  have hmem := List.mem_of_find?_eq_some hsubmission
  have hy : Managing n { y with db := s } := ⟨h.quiet, h.lock⟩
  refine Tx.Safe.ensure_bind (fun _ => trivial) fun _ => ?_
  refine hy.lockSubmission_bind (q := (·.id == submissionId)) hfind fun again z hz hrz hagain => ?_
  refine Tx.Safe.ensure_bind (fun _ => trivial) fun hsome => ?_
  obtain ⟨row, rfl⟩ := Option.isSome_iff_exists.1 hsome
  obtain ⟨hrow, hchosen⟩ := hagain row rfl
  refine Tx.Safe.ensure_bind (fun _ => trivial) fun _ => ?_
  -- The session is locked, so the submission is still what the first query has found.
  have hmem : submission ∈ sessionSubmissions.view n z.db := by
    rw [respected_sessionSubmissions hrz h.lock]
    exact hmem
  rw [sessionSubmissions, List.mem_filter, beq_iff_eq] at hmem
  have hchosen : Chosen n submission z := by
    refine ⟨hmem.1, hmem.2, ?_⟩
    rw [beq_iff_eq.1 hid, ← beq_iff_eq.1 hrow]
    exact hchosen.lock
  refine Tx.Safe.bind (rewriteSubmission_safe hz hchosen ?_ (.inr (.inl ?_)) _) fun _ y hy => ?_
  · rfl
  · rfl
  exact hy.bind (keeps_accountEmail frame_apart _) fun _ y hy => Tx.Safe.pure hy

/-- The trigger on the status: a submission becomes a draft only if nothing refers to it. -/
theorem preventLinkedDraft_bind (h : Managing n x) {row : PlaytestFeedbackSubmission}
    (hrow : Chosen n row x) {status : SubmissionStatus} {f : Unit → Program α}
    (hf : ∀ y, Managing n y → Chosen n row y →
      status = .submitted ∨ status = row.status ∨ ¬Linked row.id y.db →
      (f ()).Safe amongLinks G Q (fun _ _ => True) y) :
    ((Evidence.preventLinkedFeedbackSubmissionDraft row status).bind f).Safe amongLinks G Q
      (fun _ _ => True) x := by
  rw [Evidence.preventLinkedFeedbackSubmissionDraft]
  split
  · rw [Tx.bind_eq, Tx.bind_assoc]
    refine Tx.Safe.lockAll_bind fun H s hH _ hr => ?_
    rw [Tx.bind_eq, Tx.bind_assoc]
    refine Tx.Safe.read_bind fun t ht hrt => ?_
    refine Tx.Safe.ensure_bind (fun _ => trivial) fun hnot => ?_
    have hrow' := mem_of_rely (amongLinks.trans hr (amongLinks.anti hH hrt)) hrow.lock hrow.mem
    refine hf _ ⟨h.quiet, hH h.lock⟩ ⟨hrow', hrow.session, hH hrow.lock⟩ (.inr (.inr ?_))
    rintro ⟨link, hlink, hid⟩
    simp only [Bool.not_eq_true', List.any_eq_false] at hnot
    exact hnot link ((h.quiet t).links ▸ hlink) (beq_iff_eq.2 hid)
  · rename_i hnot
    refine hf x h hrow ?_
    cases status with
    | submitted => exact .inl rfl
    | draft => exact .inr (.inl (by_contra fun hne => hnot ⟨fun h => hne h.symm, rfl⟩))

/-- `save_direct_submission`. -/
theorem saveDirectSubmission_safe (h : Managing n x) (id actorId : Uuid)
    (operationKey : Option String) (expectedRevision : Option ℤ)
    (draft : Evidence.FeedbackSubmissionDraft) :
    (Evidence.saveDirectSubmission id n actorId operationKey expectedRevision draft).Safe
      amongLinks G (fun _ => Settled) (fun _ _ => True) x := by
  rw [Evidence.saveDirectSubmission]
  simp only [Tx.bind_eq, Tx.pure_eq]
  refine h.bind (keeps_ensure _ _) fun _ y h => ?_
  refine h.bind (keeps_validatedAnswers frame_apart _ _) fun answers y h => ?_
  refine h.lockSubmission_bind (find_inSession n (·.directAuthorAccountId == some actorId))
    fun existing y h _ hexisting => ?_
  cases existing with
  | none =>
    refine h.bind (keeps_require _ _) fun key y h => ?_
    refine h.bind (keeps_ensure _ _) fun _ y h => ?_
    refine Tx.Safe.bind (insertSubmission_safe h _) fun _ y hy => ?_
    exact hy.bind (keeps_accountEmail frame_apart _) fun _ y hy => Tx.Safe.pure hy
  | some submission =>
    obtain ⟨-, hrow⟩ := hexisting submission rfl
    cases expectedRevision with
    | none => exact h.bind (keeps_ensure _ _) fun _ y h => Tx.Safe.pure h.quiet.settled
    | some expectedRevision =>
      refine Tx.Safe.ensure_bind (fun _ => trivial) fun _ => ?_
      refine preventLinkedDraft_bind h hrow fun y h hrow hstatus => ?_
      refine Tx.Safe.bind (rewriteSubmission_safe h hrow ?_ ?_ _) fun _ y hy => ?_
      · rfl
      · exact hstatus
      exact hy.bind (keeps_accountEmail frame_apart _) fun _ y hy => Tx.Safe.pure hy

/-! ## Calls that write submissions -/

/-- `_feedback_managed_session`. -/
theorem feedbackManagedSession_bind (h : Quiet x) {actorId workspaceId workId sessionId : Uuid}
    {f : PlaytestSession → Program α}
    (hf : ∀ item y, Managing item.id y → (f item).Safe amongLinks G Q (fun _ _ => True) y) :
    ((feedbackManagedSession actorId workspaceId workId sessionId).bind f).Safe amongLinks G Q
      (fun _ _ => True) x := by
  rw [feedbackManagedSession, lockManagedSession]
  simp only [Tx.bind_eq, Tx.pure_eq, Tx.bind_assoc]
  refine h.bind (keeps_requireManagement frame_apart _ _ _ _) fun _ y h => ?_
  refine h.lockSession_bind (n := sessionId) (fun db item hitem => ?_) fun found y hy => ?_
  · have hfound := List.find?_some (Option.filter_eq_some_iff.1 hitem).1
    simp only [Bool.and_eq_true, beq_iff_eq] at hfound
    exact hfound.1.1
  refine Tx.Safe.require_bind (fun _ => trivial) fun item hitem => ?_
  exact (hy item hitem).bind (keeps_ensure _ _) fun _ y hy => hf item y hy

/-- `_participant_session`. -/
theorem participantSession_bind (h : Quiet x) {actorId sessionId : Uuid}
    {f : PlaytestSessionParticipant × PlaytestSession → Program α}
    (hf : ∀ participant item y, Managing item.id y →
      (f (participant, item)).Safe amongLinks G Q (fun _ _ => True) y) :
    ((participantSession actorId sessionId).bind f).Safe amongLinks G Q (fun _ _ => True) x := by
  rw [participantSession]
  simp only [Tx.bind_eq, Tx.pure_eq, Tx.bind_assoc]
  refine h.bind (keeps_read frame_apart _) fun found y h => ?_
  refine h.bind (keeps_require _ _) fun participant y h => ?_
  refine h.lockSession_bind (n := sessionId) (fun db item hitem => ?_) fun found y hy => ?_
  · have hfound := List.find?_some hitem
    simp only [Bool.and_eq_true, beq_iff_eq] at hfound
    exact hfound.1
  refine Tx.Safe.require_bind (fun _ => trivial) fun item hitem => ?_
  exact hf participant item y (hy item hitem)

theorem links_createFeedbackSubmission (h : Quiet x) (uuids : Uuids) (now : Timestamp)
    (actorId workspaceId workId sessionId : Uuid) (operationKey : String)
    (draft : Evidence.FeedbackSubmissionDraft) :
    (createFeedbackSubmission uuids now actorId workspaceId workId sessionId operationKey
      draft).Safe amongLinks linkGuarantee (fun _ _ => True) (fun _ _ => True) x := by
  rw [createFeedbackSubmission]
  simp only [Tx.bind_eq]
  refine Tx.Safe.mapError ?_
  refine feedbackManagedSession_bind h fun item y h => ?_
  refine h.bind (keeps_read frame_apart _) fun existing y h => ?_
  refine Tx.Safe.bind (createOrganizerSubmission_safe h _ _ _ _) fun submissionId y hy => ?_
  split
  · exact hy.bind (keeps_notifyFeedbackMaintainers frame_apart trivial _ _ _ _)
      fun _ y hy => hy.commit
  · exact hy.commit

theorem links_updateFeedbackSubmission (h : Quiet x)
    (actorId workspaceId workId sessionId submissionId : Uuid) (expectedRevision : ℤ)
    (draft : Evidence.FeedbackSubmissionDraft) :
    (updateFeedbackSubmission actorId workspaceId workId sessionId submissionId expectedRevision
      draft).Safe amongLinks linkGuarantee (fun _ _ => True) (fun _ _ => True) x := by
  rw [updateFeedbackSubmission]
  simp only [Tx.bind_eq]
  refine Tx.Safe.mapError ?_
  refine feedbackManagedSession_bind h fun item y h => ?_
  exact Tx.Safe.bind (updateOrganizerSubmission_safe h _ _ _ _) fun _ y hy => hy.commit

theorem links_saveParticipantFeedback (h : Quiet x) (uuids : Uuids) (now : Timestamp)
    (actorId sessionId : Uuid) (operationKey : Option String) (expectedRevision : Option ℤ)
    (draft : Evidence.FeedbackSubmissionDraft) :
    (saveParticipantFeedback uuids now actorId sessionId operationKey expectedRevision draft).Safe
      amongLinks linkGuarantee (fun _ _ => True) (fun _ _ => True) x := by
  rw [saveParticipantFeedback]
  simp only [Tx.bind_eq]
  refine Tx.Safe.mapError ?_
  refine participantSession_bind h fun participant item y h => ?_
  refine h.bind (Workspaces.ensureAuthorizedWritable_within Apart.refl _) fun _ y h => ?_
  refine h.bind (keeps_ensure _ _) fun _ y h => ?_
  refine h.bind (keeps_read frame_apart _) fun wasSubmitted y h => ?_
  refine Tx.Safe.bind (saveDirectSubmission_safe h _ _ _ _ _) fun saved y hy => ?_
  split
  · exact hy.bind (keeps_notifyFeedbackMaintainers frame_apart trivial _ _ _ _)
      fun _ y hy => hy.commit
  · exact hy.commit

/-! ## Calls that add references -/

/-- What the transaction has added refers to submissions whose rows it holds. -/
structure Adds (x : Point Database RowKey) : Prop where
  submissions : ∀ s, (x.pending s).feedbackSubmissions = s.feedbackSubmissions
  links : ∀ s sid, Linked sid (x.pending s) → Linked sid s ∨
    ∃ row ∈ x.db.feedbackSubmissions, row.id = sid ∧ row.status = .submitted ∧
      (.feedbackSubmission row.id, .keyShare) ∈ x.locks

theorem Quiet.adds (h : Quiet x) : Adds x :=
  ⟨fun s => (h s).submissions, fun s sid hl => .inl ((h s).unlinks.links sid hl)⟩

theorem Adds.extends_ (h : Adds x) {y : Point Database RowKey}
    (hy : Tx.Extends amongLinks Apart x y) : Adds y := by
  refine ⟨fun s => (hy.pending s).submissions.trans (h.submissions s), fun s sid hl => ?_⟩
  refine (h.links s sid ((hy.pending s).unlinks.links sid hl)).imp_right ?_
  rintro ⟨row, hrow, hid, hstatus, hlock⟩
  exact ⟨row, mem_of_rely hy.rely hlock hrow, hid, hstatus, hy.locks hlock⟩

theorem Adds.later (h : Adds x) {H : Set (RowKey × RowLock)} {s : Database} (hH : x.locks ⊆ H)
    (hr : amongLinks.Rely x.locks x.db s) : Adds { x with locks := H, db := s } :=
  h.extends_ ⟨rfl, hH, fun _ => .refl _, hr⟩

theorem Adds.bind (h : Adds x) {t : Program β} (ht : Keeps Apart t) {f : β → Program α}
    (hf : ∀ b y, Adds y → (f b).Safe amongLinks G Q (fun _ _ => True) y) :
    (t.bind f).Safe amongLinks G Q (fun _ _ => True) x :=
  apart_bind (fun _ hy => h.extends_ hy) ht hf

theorem Adds.settled (h : Adds x) : Settled x := by
  intro s hs hr
  have hsubmissions := h.submissions s
  have hlinks : ∀ sid, Linked sid (x.pending s) → Linked sid s ∨
      ∃ row ∈ s.feedbackSubmissions, row.id = sid ∧ row.status = .submitted ∧
        (.feedbackSubmission row.id, .keyShare) ∈ x.locks := fun sid hl =>
    (h.links s sid hl).imp_right fun ⟨row, hrow, hid, hstatus, hlock⟩ =>
      ⟨row, mem_of_rely hr hlock hrow, hid, hstatus, hlock⟩
  refine ⟨fun n hne => absurd (congrArg (List.filter _) hsubmissions) hne,
    fun sid hne => absurd (congrArg (List.filter _) hsubmissions) hne, fun sid hl => ?_,
    fun hdb => ⟨hsubmissions ▸ hdb.ids, fun sid hl => ?_⟩⟩
  · refine (hlinks sid hl).imp_right ?_
    rintro ⟨row, -, rfl, -, hlock⟩
    exact ⟨_, hlock⟩
  · rw [hsubmissions]
    rcases hlinks sid hl with hl | ⟨row, hrow, hid, hstatus, -⟩
    · exact hdb.submitted sid hl
    · exact ⟨row, hrow, hid, hstatus⟩

/-- The trigger before the `INSERT` of a reference: the submission is submitted, and held. -/
theorem preventIssueLink_bind (h : Adds x) {reference : Evidence.IssueEvidenceReference}
    {f : Unit → Program α}
    (hf : ∀ y, Adds y →
      (∀ sid, reference = .feedbackSubmission sid → ∃ row ∈ y.db.feedbackSubmissions,
        row.id = sid ∧ row.status = .submitted ∧
          (.feedbackSubmission row.id, .keyShare) ∈ y.locks) →
      (f ()).Safe amongLinks G Q (fun _ _ => True) y) :
    ((Issues.preventIssueLinkToDraftFeedback reference).bind f).Safe amongLinks G Q
      (fun _ _ => True) x := by
  cases reference with
  | observation sourceId => exact hf x h fun _ h => by cases h
  | feedbackSubmission sourceId =>
    rw [Issues.preventIssueLinkToDraftFeedback]
    simp only [Tx.bind_eq, Tx.bind_assoc]
    refine Tx.Safe.read_bind fun s hs hr => ?_
    refine Tx.Safe.lockAll_bind fun H t hH hkeys hrt => ?_
    refine Tx.Safe.read_bind fun u hu hru => ?_
    refine Tx.Safe.lockAll_bind fun H' v hH' _ hrv => ?_
    refine Tx.Safe.ensure_bind (fun _ => trivial) fun hstatus => ?_
    rw [beq_iff_eq, Option.map_eq_some_iff] at hstatus
    obtain ⟨row, hrow, hstatus⟩ := hstatus
    have hfound := List.find?_some hrow
    simp only [Bool.and_eq_true, beq_iff_eq, List.contains_iff_mem] at hfound
    have hlock := hkeys _ (List.mem_map_of_mem hfound.2)
    have hmem : row ∈ u.feedbackSubmissions := by
      rw [← h.submissions u]
      exact List.mem_of_find?_eq_some hrow
    have hr' : amongLinks.Rely x.locks x.db v :=
      amongLinks.trans hr (amongLinks.trans hrt (amongLinks.anti hH
        (amongLinks.trans hru hrv)))
    refine hf _ (h.later (hH.trans hH') hr') fun sid hsid => ?_
    cases hsid
    exact ⟨row, mem_of_rely hrv hlock hmem, hfound.1, hstatus, hH' hlock⟩

/-- `_add_links`. -/
theorem addLinks_safe (h : Adds x) (uuids : Uuids) (issueId : Uuid)
    (references : List Evidence.IssueEvidenceReference) :
    (Issues.addLinks uuids issueId references).Safe amongLinks G (fun _ => Adds)
      (fun _ _ => True) x := by
  refine Tx.Safe.forEach (I := Adds) h fun row y h => ?_
  obtain ⟨reference, k⟩ := row
  simp only [Tx.bind_eq]
  refine preventIssueLink_bind h fun y h hheld => ?_
  rw [insertRow]
  refine Tx.Safe.lockAll_bind fun H s hH _ hr => ?_
  rw [← Tx.bind_pure (Tx.writeIf _ _ _)]
  refine Tx.Safe.writeIf_bind (fun _ _ _ => trivial) fun t ht hrt _ => Tx.Safe.pure ?_
  have hlater := h.later hH (amongLinks.trans hr (amongLinks.anti hH hrt))
  refine ⟨hlater.submissions, fun u sid hl => ?_⟩
  obtain ⟨link, hlink, hid⟩ := hl
  rcases List.mem_cons.1 hlink with rfl | hlink
  · refine .inr ?_
    have hreference : reference = .feedbackSubmission sid := by
      cases reference <;> simp_all [Issues.linkRow]
    obtain ⟨row, hrow, hid, hstatus, hlock⟩ := hheld sid hreference
    exact ⟨row, mem_of_rely (amongLinks.trans hr (amongLinks.anti hH hrt)) hlock hrow, hid, hstatus,
      hH hlock⟩
  · exact hlater.links u sid ⟨link, hlink, hid⟩

theorem links_createIssue (h : Quiet x) (uuids : Uuids) (now : Timestamp)
    (actorId workspaceId workId : Uuid) (operationKey description : String)
    (decision : IssueDecision) (reason : String) (status : IssueStatus)
    (references : List Evidence.IssueEvidenceReference) :
    (Issues.createIssue uuids now actorId workspaceId workId operationKey description decision
      reason status references).Safe amongLinks linkGuarantee (fun _ _ => True) (fun _ _ => True)
        x := by
  rw [Issues.createIssue]
  simp -zeta only [Tx.bind_eq, Tx.pure_eq]
  refine Tx.Safe.mapError ?_
  refine h.bind (keeps_require _ _) fun texts y h => ?_
  refine h.bind (keeps_ensure _ _) fun _ y h => ?_
  refine h.bind (keeps_requireIssueManagement frame_apart _ _ _) fun _ y h => ?_
  refine h.bind (Keeps.bind (keeps_selectForUpdate frame_apart _ _) fun _ =>
    (keeps_require _ _).bind fun _ => keeps_pure _) fun _ y h => ?_
  refine h.bind (keeps_read frame_apart _) fun existing y h => ?_
  have hfinal : ∀ issue, Keeps Apart (Issues.currentConclusion issue >>= fun _ => Tx.pure ()) :=
    fun issue => (keeps_currentConclusion frame_apart issue).bind fun _ => keeps_pure _
  cases existing with
  | some existing =>
    refine h.bind (keeps_referencesForIssue frame_apart _) fun _ y h => ?_
    refine h.bind (keeps_ensure _ _) fun _ y h => ?_
    exact ((hfinal existing).safe Apart.refl Apart.trans).mono (fun _ _ _ => trivial)
      fun _ _ _ => trivial
  | none =>
    refine h.bind (keeps_validateIssueEvidenceSources frame_apart _ _ _) fun _ y h => ?_
    extract_lets issue rest
    refine h.bind (keeps_insertRow frame_apart (fun _ => ?_) _ _ _) fun _ y h => ?_
    · exact ⟨rfl, rfl⟩
    refine Tx.Safe.bind (addLinks_safe h.adds _ _ _) fun _ y hy => ?_
    split
    · exact hy.bind (keeps_notifyMaintainers frame_apart _ _ _ trivial _) fun _ y hy =>
        hy.settled.commit_bind (hfinal _)
    · exact hy.settled.commit_bind (hfinal _)

theorem links_addIssueEvidence (h : Quiet x) (uuids : Uuids)
    (actorId workspaceId workId issueId : Uuid) (expectedRevision : ℤ)
    (reference : Evidence.IssueEvidenceReference) :
    (Issues.addIssueEvidence uuids actorId workspaceId workId issueId expectedRevision
      reference).Safe amongLinks linkGuarantee (fun _ _ => True) (fun _ _ => True) x := by
  rw [Issues.addIssueEvidence]
  simp -zeta only [Tx.bind_eq, Tx.pure_eq]
  refine Tx.Safe.mapError ?_
  refine h.bind (keeps_ensure _ _) fun _ y h => ?_
  refine h.bind (keeps_requireIssueManagement frame_apart _ _ _) fun _ y h => ?_
  refine h.bind (keeps_lockIssue frame_apart _) fun issue y h => ?_
  refine h.bind (keeps_ensure _ _) fun _ y h => ?_
  refine h.bind (keeps_validateIssueEvidenceSources frame_apart _ _ _) fun _ y h => ?_
  refine h.bind (keeps_referencesForIssue frame_apart _) fun existing y h => ?_
  refine h.bind (keeps_ensure _ _) fun _ y h => ?_
  refine Tx.Safe.bind (addLinks_safe h.adds _ _ _) fun _ y hy => ?_
  extract_lets change
  refine hy.bind (keeps_updateRow frame_apart (fun _ => ?_) _) fun _ y hy => ?_
  · exact ⟨rfl, rfl⟩
  exact hy.settled.commit_bind ((keeps_currentConclusion frame_apart _).bind fun _ => keeps_pure _)

end Rules

/-! ## Every call -/

/-- What a call does that writes no submission and adds no reference. -/
theorem Change.unlinks {call : Call} (hwrites : call.writesSubmissions = false)
    (hlinks : call.linksEvidence = false) {db db' : Database} (h : Change call db db') :
    Unlinks db db' := by
  cases h with
  | aside h => exact (apart_of_aside h).unlinks
  | feedbackWritten | itemCreated | itemDeleted => exact .of_tables rfl rfl
  | submissionCreated h => rw [hwrites] at h; cases h
  | submissionRewritten h => rw [hwrites] at h; cases h
  | linked h => rw [hlinks] at h; cases h
  | unlinked =>
    refine ⟨rfl, ?_⟩
    rintro sid ⟨link, hlink, hid⟩
    exact ⟨link, (Table.mem_delete.1 hlink).1, hid⟩
  | _ => exact .of_tables rfl rfl

variable {settings : Settings} {normalizeEmail : String → Option String}

/-- **Every call respects the locks of what issues refer to.** -/
theorem Call.links (call : Call) (s : Database) :
    (call.program settings normalizeEmail).Safe amongLinks linkGuarantee (fun _ _ => True)
      (fun _ _ => True) (Point.start s) := by
  have hquiet := quiet_start s
  have hother : ∀ call : Call, call.writesSubmissions = false → call.linksEvidence = false →
      (call.program settings normalizeEmail).Safe amongLinks linkGuarantee (fun _ _ => True)
        (fun _ _ => True) (Point.start s) := fun call hwrites hlinks =>
    (((Call.changes settings normalizeEmail call).mono fun _ _ h => h.unlinks hwrites hlinks).safe
      Unlinks.refl Unlinks.trans Unlinks.refl).weaken fun _ H _ _ h => h.linkStep H
  cases call with
  | createFeedbackSubmission => exact links_createFeedbackSubmission hquiet _ _ _ _ _ _ _ _
  | updateFeedbackSubmission => exact links_updateFeedbackSubmission hquiet _ _ _ _ _ _ _
  | saveParticipantFeedback => exact links_saveParticipantFeedback hquiet _ _ _ _ _ _ _
  | createIssue => exact links_createIssue hquiet _ _ _ _ _ _ _ _ _ _ _
  | addIssueEvidence => exact links_addIssueEvidence hquiet _ _ _ _ _ _ _
  | _ => exact hother _ rfl rfl

variable {c : Config Database RowKey ServiceError Unit Call}

theorem safeLinks_of_reachable (h : (system settings normalizeEmail).Reachable c) :
    SafeConfig amongLinks (fun _ => linkGuarantee) (fun _ _ _ => True) (fun _ _ _ => True) c := by
  refine sound closed_amongLinks ?_ (fun call s _ => call.links s) h
  rintro _ rfl
  exact linksSubmitted_empty

theorem linksSubmitted_of_reachable (h : (system settings normalizeEmail).Reachable c) :
    LinksSubmitted c.db :=
  (safeLinks_of_reachable h).inv

/-- No issue refers to a draft. -/
def NoDraftLinked (db : Database) : Prop :=
  ∀ link ∈ db.evidenceLinks, ∀ s ∈ db.feedbackSubmissions,
    link.feedbackSubmissionId = some s.id → s.status ≠ .draft

theorem LinksSubmitted.noDraftLinked {db : Database} (h : LinksSubmitted db) :
    NoDraftLinked db := by
  intro link hlink s hs hid hdraft
  have hstatus := h.status hs ⟨link, hlink, hid⟩
  rw [hdraft] at hstatus
  cases hstatus

/-- **Linked feedback is never a draft**, whatever the calls and their interleaving: not in a
reachable database, and not in anything a call is about to commit. A call that adds a reference or
writes a submission and is rejected has changed nothing. -/
theorem linked_feedback_submitted (h : (system settings normalizeEmail).Reachable c) :
    NoDraftLinked c.db ∧
      (∀ i p k, c.sessions i = some p → p.code = .commit k → NoDraftLinked (p.pending c.db)) ∧
      ∀ i p error, c.sessions i = some p → p.code = .raise error →
        p.op.linksEvidence ∨ p.op.writesSubmissions → ∀ e ∈ c.history, e.serial ≠ p.serial := by
  refine ⟨(linksSubmitted_of_reachable h).noDraftLinked, fun i p k hi hp => ?_,
    fun i p error hi hp hop => not_mem_history h hi ?_⟩
  · obtain ⟨c', hc', hdb⟩ := exists_committed h hi hp
    exact hdb ▸ (linksSubmitted_of_reachable hc').noDraftLinked
  · rcases rejected_of_reachable h hi hp with hcommits | ⟨hback, -⟩
    · exact hcommits
    · -- A call that reads back writes neither.
      revert hop hback
      cases p.op <;> simp [Call.linksEvidence, Call.writesSubmissions, Call.readsBack]

/-! ### A reference is added while the feedback is taken back -/

/-- The answer of a participant, as a draft or submitted. -/
def answered (status : SubmissionStatus) : Evidence.FeedbackSubmissionDraft :=
  ⟨.direct, none, status, [⟨210001, some "fun", none, none⟩]⟩

/-- A participant has submitted feedback on a session. -/
def feedbackSubmitted : List (Event Call) :=
  arranged ++ [.call 0 (.startSession 8 1 10 20 sessionOfOneSeat 1)] ++ advances 0 15 ++
    [.close 0, .call 0 (.createFeedbackItem (keysFrom 2100) 1 10 20 sessionOfOneSeat "item"
      ⟨.shortText, "how?", []⟩)] ++ advances 0 10 ++
    [.close 0, .call 0 (.saveParticipantFeedback (keysFrom 2000) 9 2 sessionOfOneSeat (some "key")
      none (answered .submitted))] ++ advances 0 22 ++ [.close 0]

/-- An issue is created that refers to it. The participant, who wants it back, waits for the row
and is refused. -/
def linkedWhileTakenBack : List (Event Call) :=
  feedbackSubmitted ++
    [.call 0 (.createIssue (keysFrom 3000) 9 1 10 20 "key" "slow" .modify "long" .opened
      [.feedbackSubmission 200001])] ++ advances 0 16 ++
    [.call 1 (.saveParticipantFeedback (keysFrom 4000) 9 2 sessionOfOneSeat none (some 1)
      (answered .draft))] ++ advances 1 9 ++ advances 0 10 ++ advances 1 4

theorem linkedWhileTakenBack_runs :
    ((system .withoutCipher some).run (.start .empty) linkedWhileTakenBack).any fun c =>
      c.db.evidenceLinks.map (·.feedbackSubmissionId) = [some 200001] ∧
        c.db.feedbackSubmissions.map (fun s => (s.id, s.status)) = [(200001, .submitted)] ∧
        c.raised 1 = some .feedbackSubmissionLinked := by
  decide +kernel

/-- The theorem on this run. -/
theorem linked_feedback_submitted_takenBack :
    ∃ c, (system .withoutCipher some).Reachable c ∧
      c.db.evidenceLinks.map (·.feedbackSubmissionId) = [some 200001] ∧
      c.raised 1 = some .feedbackSubmissionLinked ∧ NoDraftLinked c.db := by
  obtain ⟨c, hc, hfacts⟩ := (Option.any_eq_true _ _).1 linkedWhileTakenBack_runs
  have hreach : (system .withoutCipher some).Reachable c :=
    ⟨.start .empty, linkedWhileTakenBack, init_start _ rfl, hc⟩
  simp only [decide_eq_true_eq] at hfacts
  exact ⟨c, hreach, hfacts.1, hfacts.2.2, (linked_feedback_submitted hreach).1⟩

end Playtests

end Rulefolio
