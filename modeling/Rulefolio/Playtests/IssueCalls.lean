import Rulefolio.Playtests.SessionCalls

/-!
# Calls on one issue

An operation on an issue locks its row, compares the revision and raises it. After its commit it
looks for the current conclusion, which cannot raise: every conclusion has a reason.

## Main results

* `bindRetestSession_bind` — the operation that runs inside `create_plan`.
* `updateIssue_safe` and its like — each call commits at most once, a revision of its issue.
-/

namespace Rulefolio

namespace Playtests

open ReadCommitted

variable {α β : Type} {E : Environment Database RowKey} {G : Tx.Guarantee Database RowKey}
  {Q : α → Point Database RowKey → Prop} {X : ServiceError → Point Database RowKey → Prop}
  {x : Point Database RowKey} {e : Effect} {k : Uuid} {rows : List Issue}

/-! ## While an issue is locked -/

/-- The call holds the lock of an issue, whose rows are `rows` but for its own changes. -/
structure HeldIssue (E : Environment Database RowKey) (k : Uuid) (rows : List Issue) (e : Effect)
    (x : Point Database RowKey) : Prop extends Tracks E e x where
  lock : (.issue k, .update) ∈ x.locks
  rows : x.db.issueRows k = rows

namespace HeldIssue

theorem within_bind (hE : Respects E) (h : HeldIssue E k rows e x)
    (hX : ∀ error y, y.commits = 0 → X error y) {t : Program β} {P : β → Prop}
    (ht : t.Within Effect.none.Relates P) {f : β → Program α}
    (hf : ∀ b y, P b → HeldIssue E k rows e y → x.locks ⊆ y.locks → E.Rely x.locks x.db y.db →
      (f b).Safe E G Q X y) : (t.bind f).Safe E G Q X x :=
  h.toTracks.within_bind hX ht fun b y hb hy hlocks hr =>
    hf b y hb ⟨hy, hlocks h.lock, (hE.issue hr h.lock).trans h.rows⟩ hlocks hr

theorem ensure_bind (h : HeldIssue E k rows e x) (hX : ∀ error y, y.commits = 0 → X error y)
    {b : Bool} {error : ServiceError} {f : Unit → Program α}
    (hf : b = true → (f ()).Safe E G Q X x) : ((Tx.ensure b error).bind f).Safe E G Q X x :=
  Tx.Safe.ensure_bind (fun _ => hX _ _ h.commits) hf

/-- The `UPDATE` of the issue itself. -/
theorem writeIssue_bind (hE : Respects E) (h : HeldIssue E k rows e x)
    (hX : ∀ error y, y.commits = 0 → X error y) {change : Issue → Issue} {f : Unit → Program α}
    (hid : ∀ i, (change i).id = i.id)
    (hf : ∀ y, HeldIssue E k rows (e.andThen (.onIssue k (List.map change))) y →
      x.locks ⊆ y.locks → E.Rely x.locks x.db y.db → (f ()).Safe E G Q X y) :
    ((Issues.writeIssue k change).bind f).Safe E G Q X x :=
  h.toTracks.updateRow_bind hX (fun _ _ _ => relates_writeIssue _ k hid) fun _ hr hy =>
    hf _ ⟨hy, h.lock, (hE.issue hr h.lock).trans h.rows⟩ subset_rfl hr

/-- **The commit of a call that has changed one issue.** -/
theorem commit_bind {call : Call} {g : List Issue → List Issue} (hE : Respects E)
    (h : HeldIssue E k rows (.onIssue k g) x)
    (ht : IssueTransition (expected call.issueRevision k) rows (g rows))
    (hother : ∀ m, m ≠ k → expected call.issueRevision m = none)
    (hsession : call.sessionRevision = none) {f : Unit → Program α}
    (hf : ∀ s, (f ()).Safe E (guarantee call) Q X ⟨1, ∅, id, s⟩) :
    (Tx.commitNow.bind f).Safe E (guarantee call) Q X x := by
  refine Tx.Safe.commitNow_bind fun s hs hr =>
    ⟨⟨h.commits, ?_⟩, by simpa [h.commits] using hf (x.pending s)⟩
  have he := h.relates s hs hr
  have hrows : s.issueRows k = rows := (hE.issue hr h.lock).trans h.rows
  have hissue : ∀ m, m ≠ k → (x.pending s).issueRows m = s.issueRows m := fun m hm => by
    rw [he.issue]
    simp [Effect.onIssue, editAt_of_ne hm]
  refine ⟨fun n => ?_, fun n hn => absurd (he.session n) hn, fun m => ?_, fun m hm => ?_,
    ⟨[], he.places, by simp⟩, he.explained⟩
  · rw [he.session, hsession]
    exact .stays _
  · by_cases hm : m = k
    · subst hm
      rw [he.issue, hrows]
      simpa [Effect.onIssue] using ht
    · rw [hissue m hm, hother m hm]
      exact .stays _
  · by_cases hmk : m = k
    · exact hmk ▸ h.lock
    · exact absurd (hissue m hmk) hm

end HeldIssue

theorem mem_issueRows {db : Database} {issue : Issue} (hi : issue ∈ db.issues) :
    issue ∈ db.issueRows issue.id :=
  List.mem_filter.2 ⟨hi, by simp⟩

/-- A locking read of an issue, in a transaction that has not changed any. -/
theorem loadIssue_bind (hE : Respects E) (h : Tracks E e x) (he : e.issue = fun _ => id)
    (hX : ∀ error y, y.commits = 0 → X error y) {issueId : Uuid} {f : Issue → Program α}
    (hf : ∀ issue y, issue.id = issueId → HeldIssue E issueId [issue] e y → x.locks ⊆ y.locks →
      E.Rely x.locks x.db y.db → (f issue).Safe E G Q X y) :
    ((Issues.loadIssue issueId).bind f).Safe E G Q X x := by
  simp only [Issues.loadIssue, Tx.bind_eq, Tx.bind_assoc]
  refine Tx.Safe.selectForUpdate_bind (l := .issue issueId) ?_ ?_ ?_
  · intro v issue hfind
    have hid := List.find?_some hfind
    simp only [Bool.and_eq_true, beq_iff_eq] at hid
    rw [hid.1]
  · exact fun s _ _ => Tx.Safe.raise (hX _ _ h.commits)
  · intro s hs hr
    refine Tx.Safe.require_bind (fun _ => hX _ _ h.commits) fun issue hfind => ?_
    have hid := List.find?_some hfind
    simp only [Bool.and_eq_true, beq_iff_eq] at hid
    obtain ⟨rfl, -⟩ := hid
    have hmem := mem_issueRows (List.mem_of_find?_eq_some hfind)
    rw [(h.relates s hs hr).issue, he] at hmem
    have hrows : s.issueRows issue.id = [issue] := by
      obtain ⟨i, hi⟩ := List.length_eq_one_iff.1
        (le_antisymm ((hE.wellFormed hs).issue issue.id) (List.length_pos_of_mem hmem))
      have hmem' : issue ∈ s.issueRows issue.id := hmem
      rw [hi, List.mem_singleton] at hmem'
      rw [hi, hmem']
    exact hf issue _ rfl ⟨h.later (Set.subset_insert _ _) hr, Set.mem_insert _ _, hrows⟩
      (Set.subset_insert _ _) hr

/-- **Looking for the current conclusion after a commit does not raise.** -/
theorem currentConclusion_safe (hE : Respects E) (issue : Issue) {n : ℕ} {s : Database} :
    (Issues.currentConclusion issue).Safe E G (fun _ _ => True) X ⟨n, ∅, id, s⟩ := by
  refine Tx.Safe.read_bind fun t ht _ => ?_
  cases hfind : List.find? (fun l : IssueRetestLink => l.issueId == issue.id &&
      l.adjustmentGeneration == issue.adjustmentGeneration && l.conclusion.isSome)
      (id t : Database).retestLinks with
  | none => exact Tx.Safe.pure trivial
  | some link =>
    have hconclusion := List.find?_some hfind
    simp only [Bool.and_eq_true] at hconclusion
    have hreason := (hE.wellFormed ht).explained link (List.mem_of_find?_eq_some hfind)
      hconclusion.2
    obtain ⟨reason, hreason⟩ := Option.isSome_iff_exists.1 hreason
    refine Tx.Safe.require_bind (fun hnone => ?_) fun _ _ => Tx.Safe.pure trivial
    rw [hreason] at hnone
    cases hnone

/-- The end of every operation on an issue. -/
theorem commitConclusion_safe {call : Call} {g : List Issue → List Issue} (hE : Respects E)
    (h : HeldIssue E k rows (.onIssue k g) x)
    (ht : IssueTransition (expected call.issueRevision k) rows (g rows))
    (hother : ∀ m, m ≠ k → expected call.issueRevision m = none)
    (hsession : call.sessionRevision = none) (issue : Issue) :
    (Tx.commitNow.bind fun _ => (Issues.currentConclusion issue).bind fun _ => Tx.pure ()).Safe E
      (guarantee call) (fun _ _ => True) X x :=
  h.commit_bind hE ht hother hsession fun _ =>
    (currentConclusion_safe hE issue).bind fun _ _ _ => Tx.Safe.pure trivial

/-- Links keep a reason for every conclusion. -/
theorem unseen_writeLinks (issueId : Uuid) (linkIds : List Uuid)
    {change : IssueRetestLink → IssueRetestLink}
    (h : ∀ l, (change l).conclusion.isSome → (change l).conclusionReason.isSome) :
    Unseen (Issues.writeLinks issueId linkIds change) := by
  rw [Issues.writeLinks]
  split
  · exact keeps_pure _
  · exact keeps_updateRow unseen (fun db => relates_writeLinks db h) _

theorem unseen_clearLinks (issueId : Uuid) (linkIds : List Uuid) :
    Unseen (Issues.writeLinks issueId linkIds Issues.clearConclusion) :=
  unseen_writeLinks _ _ fun _ h => by simp [Issues.clearConclusion] at h

/-! ## Operations -/

theorem updateIssue_safe (hE : Respects E) (h : Tracks E .none x) {call : Call}
    {actorId workspaceId workId issueId : Uuid} {expectedRevision : ℤ}
    (hsession : call.sessionRevision = none)
    (hissue : call.issueRevision = some (issueId, expectedRevision)) (uuids : Uuids)
    (now : Timestamp) (description : String) (decision : IssueDecision) (reason : String)
    (note : Option String) (status : IssueStatus) :
    (Issues.updateIssue uuids now actorId workspaceId workId issueId description decision reason
      note status expectedRevision).Safe E (guarantee call) (fun _ _ => True) (Rejected call)
        x := by
  rw [Issues.updateIssue]
  simp only [Tx.bind_eq, Tx.pure_eq]
  refine Tx.Safe.mapError ?_
  refine h.within_bind rejected_of_commits (keeps_require _ _) fun texts y _ h _ _ => ?_
  refine h.within_bind rejected_of_commits (keeps_require _ _) fun note y _ h _ _ => ?_
  refine h.within_bind rejected_of_commits (keeps_ensure _ _) fun _ y _ h _ _ => ?_
  refine h.within_bind rejected_of_commits (keeps_requireIssueManagement unseen _ _ _)
    fun _ y _ h _ _ => ?_
  refine loadIssue_bind hE h rfl rejected_of_commits fun issue y hid hy _ _ => ?_
  refine hy.ensure_bind rejected_of_commits fun hrevision => ?_
  have hrevision' : (issue.revision : ℤ) = expectedRevision := by simpa using hrevision
  subst hid hrevision'
  refine hy.writeIssue_bind hE rejected_of_commits ?_ fun y hy _ _ => ?_
  · exact fun i => rfl
  have hdone : ∀ {y : Point Database RowKey} {change : Issue → Issue},
      (change issue).id = issue.id → (change issue).revision = issue.revision + 1 →
      HeldIssue E issue.id [issue] (Effect.none.andThen (.onIssue issue.id (List.map change))) y →
      ∀ i wasOpen changed, (Tx.bind (Issues.updateTodos uuids now i wasOpen changed) fun _ =>
        Tx.commitNow.bind fun _ => (Issues.currentConclusion i).bind fun _ => Tx.pure ()).Safe E
        (guarantee call) (fun _ _ => True) (fun error => Rejected call (Issues.retryable error))
          y :=
          by
    intro y change hid hrev hy i wasOpen changed
    refine hy.within_bind hE rejected_of_commits
      (keeps_updateTodos unseen trivial trivial _ _ _ _ _) fun _ y _ hy _ _ => ?_
    rw [Effect.none_andThen] at hy
    refine commitConclusion_safe hE hy ?_ (hissue ▸ expected_other) hsession _
    rw [hissue, expected_self]
    exact .revised issue _ hid hrev
  split
  · refine hy.within_bind hE rejected_of_commits (keeps_selectAllForUpdate unseen _ _)
      fun links y _ hy _ _ => ?_
    refine hy.within_bind hE rejected_of_commits (unseen_clearLinks _ _) fun _ y _ hy _ _ => ?_
    exact hdone (by rfl) (by rfl) hy _ _ _
  · exact hdone (by rfl) (by rfl) hy _ _ _

theorem saveRetestConclusion_safe (hE : Respects E) (h : Tracks E .none x) {call : Call}
    {actorId workspaceId workId issueId : Uuid} {expectedRevision : ℤ}
    (hsession : call.sessionRevision = none)
    (hissue : call.issueRevision = some (issueId, expectedRevision)) (retestId : Uuid)
    (conclusion : RetestConclusion) (reason : String) (status : IssueStatus) :
    (Issues.saveRetestConclusion actorId workspaceId workId issueId retestId conclusion reason
      status expectedRevision).Safe E (guarantee call) (fun _ _ => True) (Rejected call) x := by
  rw [Issues.saveRetestConclusion]
  simp -zeta only [Tx.bind_eq, Tx.pure_eq]
  refine Tx.Safe.mapError ?_
  refine h.within_bind rejected_of_commits (keeps_require _ _) fun reason y _ h _ _ => ?_
  refine h.within_bind rejected_of_commits (keeps_ensure _ _) fun _ y _ h _ _ => ?_
  refine h.within_bind rejected_of_commits (keeps_requireIssueManagement unseen _ _ _)
    fun _ y _ h _ _ => ?_
  refine loadIssue_bind hE h rfl rejected_of_commits fun issue y hid hy _ _ => ?_
  refine hy.ensure_bind rejected_of_commits fun hrevision => ?_
  have hrevision' : (issue.revision : ℤ) = expectedRevision := by simpa using hrevision
  subst hid hrevision'
  refine hy.within_bind hE rejected_of_commits (keeps_selectForUpdate unseen _ _)
    fun _ y _ hy _ _ => ?_
  refine hy.within_bind hE rejected_of_commits (keeps_require _ _) fun retest y _ hy _ _ => ?_
  refine hy.ensure_bind rejected_of_commits fun _ => ?_
  refine hy.within_bind hE rejected_of_commits (keeps_read unseen _) fun _ y _ hy _ _ => ?_
  refine hy.within_bind hE rejected_of_commits (keeps_require _ _) fun item y _ hy _ _ => ?_
  refine hy.ensure_bind rejected_of_commits fun _ => ?_
  extract_lets change rest
  -- Whether evidence is asked for or not, the call goes on alike.
  have hrest : ∀ y, HeldIssue E issue.id [issue] .none y → (rest ()).Safe E (guarantee call)
      (fun _ _ => True) (fun error => Rejected call (Issues.retryable error)) y := by
    intro y hy
    refine hy.within_bind hE rejected_of_commits (keeps_selectAllForUpdate unseen _ _)
      fun previous y _ hy _ _ => ?_
    refine hy.within_bind hE rejected_of_commits (unseen_clearLinks _ _) fun _ y _ hy _ _ => ?_
    refine hy.writeIssue_bind hE rejected_of_commits (fun i => rfl) fun y hy _ _ => ?_
    refine hy.within_bind hE rejected_of_commits (unseen_writeLinks _ _ fun _ _ => rfl)
      fun _ y _ hy _ _ => ?_
    rw [Effect.none_andThen] at hy
    refine commitConclusion_safe hE hy ?_ (hissue ▸ expected_other) hsession _
    rw [hissue, expected_self]
    exact .revised issue (change issue) rfl rfl
  split
  · refine hy.within_bind hE rejected_of_commits (keeps_referencesForIssue unseen _)
      fun references y _ hy _ _ => ?_
    refine hy.within_bind hE rejected_of_commits (keeps_hasIssueEvidenceFromSession unseen _ _)
      fun found y _ hy _ _ => ?_
    exact hy.ensure_bind rejected_of_commits fun _ => hrest _ hy
  · exact hrest _ hy

theorem addIssueEvidence_safe (hE : Respects E) (h : Tracks E .none x) {call : Call}
    {actorId workspaceId workId issueId : Uuid} {expectedRevision : ℤ}
    (hsession : call.sessionRevision = none)
    (hissue : call.issueRevision = some (issueId, expectedRevision)) (uuids : Uuids)
    (reference : Evidence.IssueEvidenceReference) :
    (Issues.addIssueEvidence uuids actorId workspaceId workId issueId expectedRevision
      reference).Safe E (guarantee call) (fun _ _ => True) (Rejected call) x := by
  rw [Issues.addIssueEvidence]
  simp only [Tx.bind_eq, Tx.pure_eq]
  refine Tx.Safe.mapError ?_
  refine h.within_bind rejected_of_commits (keeps_ensure _ _) fun _ y _ h _ _ => ?_
  refine h.within_bind rejected_of_commits (keeps_requireIssueManagement unseen _ _ _)
    fun _ y _ h _ _ => ?_
  refine loadIssue_bind hE h rfl rejected_of_commits fun issue y hid hy _ _ => ?_
  refine hy.ensure_bind rejected_of_commits fun hrevision => ?_
  have hrevision' : (issue.revision : ℤ) = expectedRevision := by simpa using hrevision
  subst hid hrevision'
  refine hy.within_bind hE rejected_of_commits (keeps_validateIssueEvidenceSources unseen _ _ _)
    fun _ y _ hy _ _ => ?_
  refine hy.within_bind hE rejected_of_commits (keeps_referencesForIssue unseen _)
    fun existing y _ hy _ _ => ?_
  refine hy.ensure_bind rejected_of_commits fun _ => ?_
  refine hy.within_bind hE rejected_of_commits (keeps_addLinks unseen _ _ _
    fun _ _ _ => relates_none rfl rfl rfl rfl rfl rfl rfl rfl) fun _ y _ hy _ _ => ?_
  refine hy.writeIssue_bind hE rejected_of_commits ?_ fun y hy _ _ => ?_
  · exact fun i => rfl
  rw [Effect.none_andThen] at hy
  refine commitConclusion_safe hE hy ?_ (hissue ▸ expected_other) hsession _
  rw [hissue, expected_self]
  exact .revised issue _ rfl rfl

theorem removeIssueEvidence_safe (hE : Respects E) (h : Tracks E .none x) {call : Call}
    {actorId workspaceId workId issueId : Uuid} {expectedRevision : ℤ}
    (hsession : call.sessionRevision = none)
    (hissue : call.issueRevision = some (issueId, expectedRevision)) (linkId : Uuid) :
    (Issues.removeIssueEvidence actorId workspaceId workId issueId linkId expectedRevision).Safe E
      (guarantee call) (fun _ _ => True) (Rejected call) x := by
  rw [Issues.removeIssueEvidence]
  simp only [Tx.bind_eq, Tx.pure_eq]
  refine Tx.Safe.mapError ?_
  refine h.within_bind rejected_of_commits (keeps_ensure _ _) fun _ y _ h _ _ => ?_
  refine h.within_bind rejected_of_commits (keeps_requireIssueManagement unseen _ _ _)
    fun _ y _ h _ _ => ?_
  refine loadIssue_bind hE h rfl rejected_of_commits fun issue y hid hy _ _ => ?_
  refine hy.ensure_bind rejected_of_commits fun hrevision => ?_
  have hrevision' : (issue.revision : ℤ) = expectedRevision := by simpa using hrevision
  subst hid hrevision'
  refine hy.within_bind hE rejected_of_commits (keeps_read unseen _) fun links y _ hy _ _ => ?_
  refine hy.within_bind hE rejected_of_commits (keeps_require _ _) fun target y _ hy _ _ => ?_
  refine hy.ensure_bind rejected_of_commits fun _ => ?_
  refine hy.writeIssue_bind hE rejected_of_commits ?_ fun y hy _ _ => ?_
  · exact fun i => rfl
  refine hy.within_bind hE rejected_of_commits (keeps_updateRow unseen ?_ _) fun _ y _ hy _ _ => ?_
  · exact fun db => relates_none rfl rfl rfl rfl rfl rfl rfl rfl
  rw [Effect.none_andThen] at hy
  refine commitConclusion_safe hE hy ?_ (hissue ▸ expected_other) hsession _
  rw [hissue, expected_self]
  exact .revised issue _ rfl rfl

theorem createIssue_safe (hE : Respects E) (h : Tracks E .none x) {call : Call}
    (hsession : call.sessionRevision = none) (hissue : call.issueRevision = none) (uuids : Uuids)
    (now : Timestamp) (actorId workspaceId workId : Uuid) (operationKey : String)
    (description : String) (decision : IssueDecision) (reason : String) (status : IssueStatus)
    (references : List Evidence.IssueEvidenceReference) :
    (Issues.createIssue uuids now actorId workspaceId workId operationKey description decision
      reason status references).Safe E (guarantee call) (fun _ _ => True) (Rejected call) x := by
  rw [Issues.createIssue]
  simp only [Tx.bind_eq, Tx.pure_eq]
  refine Tx.Safe.mapError ?_
  refine h.within_bind rejected_of_commits (keeps_require _ _) fun texts y _ h _ _ => ?_
  refine h.within_bind rejected_of_commits (keeps_ensure _ _) fun _ y _ h _ _ => ?_
  refine h.within_bind rejected_of_commits (keeps_requireIssueManagement unseen _ _ _)
    fun _ y _ h _ _ => ?_
  refine h.within_bind rejected_of_commits
    (Keeps.bind (keeps_selectForUpdate unseen _ _) fun _ => (keeps_require _ _).bind fun _ =>
      keeps_pure _) fun _ y _ h _ _ => ?_
  refine h.within_bind rejected_of_commits (keeps_read unseen _) fun existing y _ h _ _ => ?_
  cases existing with
  | some existing =>
    refine h.within_bind rejected_of_commits (keeps_referencesForIssue unseen _)
      fun _ y _ h _ _ => ?_
    refine h.within_bind rejected_of_commits (keeps_ensure _ _) fun _ y _ h _ _ => ?_
    exact h.within_bind rejected_of_commits (keeps_currentConclusion unseen _) fun _ y _ _ _ _ =>
      Tx.Safe.pure trivial
  | none =>
    refine h.within_bind rejected_of_commits (keeps_validateIssueEvidenceSources unseen _ _ _)
      fun _ y _ h _ _ => ?_
    refine h.insertRow_bind rejected_of_commits (fun db => relates_insertIssue db _)
      fun H s hH hkeys hs hr habsent hy => ?_
    rw [Effect.none_andThen] at hy
    -- The key is free, and stays free until the commit.
    have hfree : s.issueRows (uuids.sub 0).here = [] := by
      have hpending := (h.relates s hs hr).issue (uuids.sub 0).here
      refine (Eq.symm hpending).trans (List.filter_eq_nil_iff.2 fun i hi => ?_)
      simp only [Bool.not_eq_true', List.any_eq_false] at habsent
      exact fun hid => habsent i hi (by simp [hid])
    have hy : HeldIssue E (uuids.sub 0).here [] _ _ := ⟨hy, hkeys _ (by simp), hfree⟩
    refine hy.within_bind hE rejected_of_commits (keeps_addLinks unseen _ _ _
    fun _ _ _ => relates_none rfl rfl rfl rfl rfl rfl rfl rfl) fun _ y _ hy _ _ => ?_
    have hdone : ∀ {y : Point Database RowKey} {issue : Issue}, issue.revision = 1 →
        HeldIssue E (uuids.sub 0).here [] (.onIssue (uuids.sub 0).here (List.cons issue)) y →
        (Tx.commitNow.bind fun _ => (Issues.currentConclusion issue).bind fun _ =>
          Tx.pure ()).Safe E (guarantee call) (fun _ _ => True)
          (fun error => Rejected call (Issues.retryable error)) y := by
      intro y issue hrev hy
      refine commitConclusion_safe hE hy ?_ (fun m _ => by rw [hissue]; rfl) hsession _
      rw [hissue]
      exact .created issue hrev
    split
    · exact hy.within_bind hE rejected_of_commits (keeps_notifyMaintainers unseen _ _ _ trivial _)
        fun _ y _ hy _ _ => hdone rfl hy
    · exact hdone rfl hy

/-! ## Binding a retest -/

/-- What `bind_retest_session` leaves its caller with: the issue is locked, its revision was the
expected one, and is raised. -/
structure Bound (E : Environment Database RowKey) (issueId : Uuid) (expectedRevision : ℤ)
    (e : Effect) (x y : Point Database RowKey) : Prop where
  held : ∃ issue change, HeldIssue E issueId [issue]
    (e.andThen (.onIssue issueId (List.map change))) y ∧ (issue.revision : ℤ) = expectedRevision ∧
      (change issue).id = issue.id ∧ (change issue).revision = issue.revision + 1
  later : Later E x y

theorem bindRetestSession_safe (hE : Respects E) (h : Tracks E e x) (he : e.issue = fun _ => id)
    {X : ServiceError → Point Database RowKey → Prop}
    (hX : ∀ error y, y.commits = 0 → X error y) (uuids : Uuids) (now : Timestamp)
    (actorId workspaceId workId issueId sessionId : Uuid) (expectedRevision : ℤ) :
    (Issues.bindRetestSession uuids now actorId workspaceId workId issueId sessionId
      expectedRevision).Safe E G (fun _ y => Bound E issueId expectedRevision e x y) X x := by
  rw [Issues.bindRetestSession]
  simp only [Tx.bind_eq]
  have hX' : ∀ error (y : Point Database RowKey), y.commits = 0 → X (Issues.retryable error) y :=
    fun _ _ hy => hX _ _ hy
  refine Tx.Safe.mapError ?_
  refine h.within_bind hX' (keeps_ensure _ _) fun _ y₁ _ h hl₁ hr₁ => ?_
  refine h.within_bind hX' (keeps_requireIssueManagement unseen _ _ _) fun _ y₂ _ h hl₂ hr₂ => ?_
  refine loadIssue_bind hE h he hX' fun issue y₃ hid hy hl₃ hr₃ => ?_
  refine hy.ensure_bind hX' fun hrevision => hy.ensure_bind hX' fun _ => ?_
  have hrevision' : (issue.revision : ℤ) = expectedRevision := by simpa using hrevision
  subst hid hrevision'
  refine hy.within_bind hE hX' (keeps_selectForUpdate unseen _ _) fun _ y₄ _ hy hl₄ hr₄ => ?_
  refine hy.within_bind hE hX' (keeps_require _ _) fun item y₅ _ hy hl₅ hr₅ => ?_
  refine hy.writeIssue_bind hE hX' ?_ fun y₆ hy hl₆ hr₆ => ?_
  · exact fun i => rfl
  refine hy.within_bind hE hX' (keeps_insertRow unseen ?_ _ _ _) fun _ y₇ _ hy hl₇ hr₇ => ?_
  · exact fun db => relates_insertLink db rfl
  refine hy.within_bind hE hX' (keeps_endAll unseen _ _ _) fun _ y₈ _ hy hl₈ hr₈ => ?_
  rw [← Tx.bind_pure (Issues.notifyRetestArranged _ _ _ _ _)]
  refine hy.within_bind hE hX' (keeps_notifyMaintainers unseen _ _ _ trivial _)
    fun _ y₉ _ hy hl₉ hr₉ => ?_
  refine Tx.Safe.pure ⟨⟨issue, _, hy, rfl, rfl, rfl⟩, ?_⟩
  have h₃ : Later E x y₃ := .trans ⟨hl₁, hr₁⟩ (.trans ⟨hl₂, hr₂⟩ ⟨hl₃, hr₃⟩)
  have h₆ : Later E y₃ y₆ := .trans ⟨hl₄, hr₄⟩ (.trans ⟨hl₅, hr₅⟩ ⟨hl₆, hr₆⟩)
  have h₉ : Later E y₆ y₉ := .trans ⟨hl₇, hr₇⟩ (.trans ⟨hl₈, hr₈⟩ ⟨hl₉, hr₉⟩)
  exact h₃.trans (h₆.trans h₉)

end Playtests

end Rulefolio
