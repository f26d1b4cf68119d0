import Rulefolio.Issues.Overview

/-!
# Creating an issue under a key

`create_issue` is given a key of the caller's. When the work has an issue under this key, nothing is
created: the request is compared with that issue as it is now, and it is either answered with the
issue or refused.

The model of `create_issue` in `Issues.Service` forgets what the function returns. Here it is with
the value.

## Main definitions

* `IssueDraft`, `createIssueData` — the request, and the function with what it returns.
* `IsRecord` — an issue is what a request asks for.
* `KeyIdempotent` — what a key promises to whoever sends a request again.

## Main results

* `createIssueData_known` — the answer to a request with a known key.
* `keyIdempotent_iff` — the promise is kept as long as the issue is what was asked for.
-/

namespace Rulefolio

namespace Issues

open Evidence (IssueEvidenceReference)

/-! ## The request -/

/-- What `create_issue` is given for the issue. -/
structure IssueDraft where
  description : String
  decision : IssueDecision
  reason : String
  status : IssueStatus
  references : List IssueEvidenceReference
  deriving DecidableEq, Repr

/-- The draft with stripped texts. -/
def IssueDraft.normalised (draft : IssueDraft) : Option IssueDraft :=
  (values draft.description draft.reason).map fun texts =>
    { draft with
      description := texts.1
      reason := texts.2 }

/-- The drafts ask for the same: they may name the evidence in another order. -/
structure IssueDraft.Same (draft draft' : IssueDraft) : Prop where
  description : draft.description = draft'.description
  decision : draft.decision = draft'.decision
  reason : draft.reason = draft'.reason
  status : draft.status = draft'.status
  references : ∀ r, r ∈ draft.references ↔ r ∈ draft'.references

theorem IssueDraft.Same.refl (draft : IssueDraft) : draft.Same draft :=
  ⟨rfl, rfl, rfl, rfl, fun _ => Iff.rfl⟩

theorem IssueDraft.Same.symm {draft draft' : IssueDraft} (h : draft.Same draft') :
    draft'.Same draft :=
  ⟨h.description.symm, h.decision.symm, h.reason.symm, h.status.symm, fun r =>
    (h.references r).symm⟩

/-- `create_issue` with the data it returns. -/
def createIssueData (uuids : Uuids) (now : Timestamp) (actorId workspaceId workId : Uuid)
    (operationKey : String) (draft : IssueDraft) : Program IssueData :=
  Tx.mapError retryable do
    let (description, reason) ← Tx.require (values draft.description draft.reason) .issueInvalid
    Tx.ensure (Evidence.validOperationKey operationKey) .issueInvalid
    requireManagement actorId workspaceId workId
    lockWorkForCreation workspaceId workId
    let existing ← Tx.read fun db : Database => db.issues.find? fun i =>
      i.workId == workId && i.creationOperationKey == operationKey
    match existing with
    | some existing => do
      let existingReferences ← referencesForIssue existing.id
      Tx.ensure (existing.description == description && existing.decision == draft.decision &&
        existing.reason == reason && existing.status == draft.status &&
        existingReferences.all (draft.references.contains ·) &&
        draft.references.all (existingReferences.contains ·)) .issueOperationConflict
      issueData existing existingReferences.length
    | none => do
      Evidence.validateIssueEvidenceSources workspaceId workId draft.references
      let issue : Issue :=
        { id := (uuids.sub 0).here, workspaceId, workId, description, decision := draft.decision,
          reason, adjustmentNote := none, adjustmentGeneration := 0, status := draft.status,
          revision := 1, creationOperationKey := operationKey }
      insertRow [.issue issue.id] (fun db => !db.issues.any fun i => i.id == issue.id ||
          (i.workId == workId && i.creationOperationKey == operationKey))
        (exitAllowsWrite none workspaceId) fun db => { db with issues := issue :: db.issues }
      addLinks (uuids.sub 1) issue.id draft.references
      if issue.status = .opened then
        notifyIssueMaintainers (uuids.sub 2) now issue
      Tx.commitNow
      issueData issue draft.references.length

/-- A caller that ignores the data runs `createIssue`. -/
theorem createIssueData_forget (uuids : Uuids) (now : Timestamp)
    (actorId workspaceId workId : Uuid) (operationKey : String) (draft : IssueDraft) :
    ((createIssueData uuids now actorId workspaceId workId operationKey draft).bind fun _ =>
        .pure ()) =
      createIssue uuids now actorId workspaceId workId operationKey draft.description
        draft.decision draft.reason draft.status draft.references := by
  have hdata : ∀ issue count, ((issueData issue count).bind fun _ => .pure ()) =
      (currentConclusion issue).bind fun _ => (.pure () : Program Unit) := by
    intro issue count
    simp only [issueData, Tx.bind_eq, Tx.pure_eq, Tx.bind_assoc, Tx.pure_bind]
  rw [createIssueData, createIssue, Tx.mapError_bind_pure]
  simp only [Tx.bind_eq, Tx.bind_assoc, Tx.pure_eq]
  refine congrArg (Tx.mapError retryable) ?_
  refine Tx.bind_congr fun texts => Tx.bind_congr fun _ => Tx.bind_congr fun _ =>
    Tx.bind_congr fun _ => Tx.bind_congr fun existing => ?_
  cases existing with
  | some existing => simp only [Tx.bind_assoc, hdata]
  | none =>
    dsimp only
    split <;> simp only [Tx.bind_assoc, hdata]

/-! ## A known key -/

variable {db : Database} {actorId workspaceId workId : Uuid} {operationKey : String}
  {draft draft' : IssueDraft} {issue : Issue}

/-- The checks of `create_issue` let the actor create issues of the work. -/
def MayCreate (db : Database) (actorId workspaceId workId : Uuid) : Prop :=
  ((requireManagement actorId workspaceId workId).bind fun _ =>
    lockWorkForCreation workspaceId workId).Returns (fun _ _ _ => True) db db

/-- The issue is what the draft asks for, with its evidence. -/
structure IsRecord (db : Database) (issue : Issue) (draft : IssueDraft) : Prop where
  description : issue.description = draft.description
  decision : issue.decision = draft.decision
  reason : issue.reason = draft.reason
  status : issue.status = draft.status
  references : ∃ references, (db.evidenceLinks.filter (·.issueId == issue.id)).mapM reference =
    some references ∧ ∀ r, r ∈ references ↔ r ∈ draft.references

theorem IsRecord.congr (h : IsRecord db issue draft) (hsame : draft.Same draft') :
    IsRecord db issue draft' where
  description := h.description.trans hsame.description
  decision := h.decision.trans hsame.decision
  reason := h.reason.trans hsame.reason
  status := h.status.trans hsame.status
  references := by
    obtain ⟨references, hlinks, hmem⟩ := h.references
    exact ⟨references, hlinks, fun r => (hmem r).trans (hsame.references r)⟩

theorem IsRecord.same (h : IsRecord db issue draft) (h' : IsRecord db issue draft') :
    draft.Same draft' := by
  obtain ⟨references, hlinks, hmem⟩ := h.references
  obtain ⟨references', hlinks', hmem'⟩ := h'.references
  obtain rfl := Option.some.inj (hlinks.symm.trans hlinks')
  exact ⟨h.description.symm.trans h'.description, h.decision.symm.trans h'.decision,
    h.reason.symm.trans h'.reason, h.status.symm.trans h'.status, fun r =>
      (hmem r).symm.trans (hmem' r)⟩

/-- The comparison `create_issue` makes. -/
def agrees (issue : Issue) (references : List IssueEvidenceReference) (draft : IssueDraft) : Bool :=
  issue.description == draft.description && issue.decision == draft.decision &&
    issue.reason == draft.reason && issue.status == draft.status &&
    references.all (draft.references.contains ·) && draft.references.all (references.contains ·)

theorem agrees_iff {references : List IssueEvidenceReference}
    (hlinks : (db.evidenceLinks.filter (·.issueId == issue.id)).mapM reference = some references) :
    agrees issue references draft = true ↔ IsRecord db issue draft := by
  have hset : (references.all (draft.references.contains ·) = true ∧
      draft.references.all (references.contains ·) = true) ↔
      ∀ r, r ∈ references ↔ r ∈ draft.references := by
    simp only [List.all_eq_true, List.contains_iff_mem]
    exact ⟨fun h r => ⟨h.1 r, h.2 r⟩, fun h => ⟨fun r hr => (h r).1 hr, fun r hr => (h r).2 hr⟩⟩
  simp only [agrees, Bool.and_eq_true, beq_iff_eq, and_assoc]
  rw [hset]
  constructor
  · rintro ⟨hdescription, hdecision, hreason, hstatus, hmem⟩
    exact ⟨hdescription, hdecision, hreason, hstatus, references, hlinks, hmem⟩
  · intro h
    obtain ⟨references', hlinks', hmem⟩ := h.references
    obtain rfl := Option.some.inj (hlinks.symm.trans hlinks')
    exact ⟨h.description, h.decision, h.reason, h.status, hmem⟩

/-- What is left of `create_issue` when the key is known. -/
def answerKnown (issue : Issue) (draft : IssueDraft) : Program IssueData := do
  let references ← referencesForIssue issue.id
  Tx.ensure (agrees issue references draft) .issueOperationConflict
  issueData issue references.length

theorem requireManagement_within (actorId workspaceId workId : Uuid) :
    (requireManagement actorId workspaceId workId).Within Eq fun _ => True := by
  rw [requireManagement]
  exact (Workspaces.ensureWritable_within (fun _ => rfl) _).andThen fun _ =>
    (Tx.Within.mapError (Works.requireManager_within (fun _ => rfl) _ _ _)).andThen fun _ =>
      Tx.Within.pure trivial

theorem lockWorkForCreation_within (workspaceId workId : Uuid) :
    (lockWorkForCreation workspaceId workId).Within Eq fun _ => True :=
  (Tx.Within.selectForUpdate (P := fun _ => True) (fun _ => rfl) _ _ trivial
    fun _ => trivial).andThen fun _ =>
      (Tx.Within.require' _ _).andThen fun _ => Tx.Within.pure trivial

/-- **A known key is answered with its issue**, once the checks are passed. -/
theorem createIssueData_known (hmay : MayCreate db actorId workspaceId workId)
    (hfind : (db.issues.find? fun i => i.workId == workId &&
      i.creationOperationKey == operationKey) = some issue)
    (hkey : Evidence.validOperationKey operationKey = true)
    (hdraft : draft'.normalised = some draft) (uuids : Uuids) (now : Timestamp) :
    (createIssueData uuids now actorId workspaceId workId operationKey draft').exec db =
      ((answerKnown issue draft).mapError retryable).exec db := by
  obtain ⟨texts, htexts, rfl⟩ := Option.map_eq_some_iff.1 hdraft
  rw [createIssueData, Tx.exec_mapError, Tx.exec_mapError, htexts, hkey]
  simp only [Tx.bind_eq]
  have hchecks : ∀ rest : Unit → Program IssueData,
      (((requireManagement actorId workspaceId workId).bind fun _ =>
        lockWorkForCreation workspaceId workId).bind rest).exec db = (rest ()).exec db :=
    ((requireManagement_within actorId workspaceId workId).andThen fun _ =>
      lockWorkForCreation_within workspaceId workId).exec_bind (hmay.mono fun _ _ _ _ => rfl)
  have hbody : ∀ {body known : Program IssueData}, body.exec db = known.exec db →
      ((body.exec db).1, (body.exec db).2.mapError retryable) =
        ((known.exec db).1, (known.exec db).2.mapError retryable) := by
    intro body known h
    rw [h]
  refine hbody ?_
  show ((requireManagement actorId workspaceId workId).bind fun _ =>
    (lockWorkForCreation workspaceId workId).bind fun _ => _).exec db = _
  rw [← Tx.bind_assoc, hchecks]
  show Tx.exec (match db.issues.find? fun i => i.workId == workId &&
    i.creationOperationKey == operationKey with
    | some existing => _
    | none => _) db = _
  rw [hfind]
  rfl

/-- Whoever has got the data has passed the checks. -/
theorem mayCreate_of_ok {uuids : Uuids} {now : Timestamp} {data : IssueData} {db' : Database}
    (h : (createIssueData uuids now actorId workspaceId workId operationKey draft).exec db =
      (db', .ok data)) : MayCreate db actorId workspaceId workId := by
  rw [Tx.exec_eq_iff, createIssueData, Tx.returns_mapError] at h
  simp only [Tx.bind_eq] at h
  rw [Tx.returns_bind, Tx.returns_require] at h
  obtain ⟨texts, -, h⟩ := h
  rw [Tx.returns_bind, Tx.returns_ensure] at h
  rw [← Tx.bind_assoc, Tx.returns_bind] at h
  exact h.2.mono fun _ _ _ _ => trivial

/-- What a key promises once the issue `issueId` was created under it: a request for the same gets
this issue, any other gets a conflict, and neither changes anything. -/
structure KeyIdempotent (db : Database) (actorId workspaceId workId : Uuid) (operationKey : String)
    (draft : IssueDraft) (issueId : Uuid) : Prop where
  same : ∀ uuids now again e, again.normalised = some e → e.Same draft → ∃ data,
    (createIssueData uuids now actorId workspaceId workId operationKey again).exec db =
      (db, .ok data) ∧ data.id = issueId
  different : ∀ uuids now other e, other.normalised = some e → ¬e.Same draft →
    (createIssueData uuids now actorId workspaceId workId operationKey other).exec db =
      (db, .error .issueOperationConflict)

/-- An answer with the data of the issue, when it is what the draft asks for. -/
theorem answerKnown_of_record (h : IsRecord db issue draft)
    (hreason : ∀ link ∈ db.retestLinks, link.conclusion.isSome → link.conclusionReason.isSome) :
    ∃ data, ((answerKnown issue draft).mapError retryable).exec db = (db, .ok data) ∧
      data.id = issue.id := by
  obtain ⟨references, hlinks, -⟩ := h.references
  have hreturns : ((answerKnown issue draft).mapError retryable).Returns
      (fun data s _ => s = db ∧ data.id = issue.id) db db := by
    rw [Tx.returns_mapError, answerKnown, referencesForIssue]
    simp only [Tx.bind_eq, Tx.bind_assoc]
    rw [Tx.returns_bind, Tx.returns_read, hlinks, Tx.returns_bind, Tx.returns_require]
    refine ⟨references, rfl, ?_⟩
    rw [Tx.returns_bind, Tx.returns_ensure]
    exact ⟨(agrees_iff hlinks).2 h, (issueData_returns hreason _).mono fun data s _ hdata =>
      ⟨hdata.1, hdata.2.1⟩⟩
  obtain ⟨data, -, hdata, hdb, hid⟩ := Tx.exec_of_returns hreturns
  exact ⟨data, Prod.ext hdb hdata, hid⟩

/-- An answer is given only when the issue is what the draft asks for. -/
theorem record_of_answerKnown {data : IssueData} {db' : Database}
    (h : ((answerKnown issue draft).mapError retryable).exec db = (db', .ok data)) :
    IsRecord db issue draft := by
  rw [Tx.exec_eq_iff, Tx.returns_mapError, answerKnown, referencesForIssue] at h
  simp only [Tx.bind_eq, Tx.bind_assoc] at h
  rw [Tx.returns_bind, Tx.returns_read, Tx.returns_bind, Tx.returns_require] at h
  obtain ⟨references, hlinks, h⟩ := h
  rw [Tx.returns_bind, Tx.returns_ensure] at h
  exact (agrees_iff hlinks).1 h.1

/-- A draft that asks for something else is refused. -/
theorem answerKnown_conflict (h : IsRecord db issue draft) (hother : ¬draft'.Same draft) :
    ((answerKnown issue draft').mapError retryable).exec db =
      (db, .error .issueOperationConflict) := by
  obtain ⟨references, hlinks, -⟩ := h.references
  have hdisagrees : agrees issue references draft' = false := by
    rw [← Bool.not_eq_true, agrees_iff hlinks]
    intro h'
    exact hother (h'.same h)
  rw [Tx.exec_mapError, answerKnown, referencesForIssue]
  simp only [Tx.bind_eq, Tx.bind_assoc]
  show (Tx.exec ((Tx.require ((db.evidenceLinks.filter (·.issueId == issue.id)).mapM reference)
      _).bind _) db).map id (Except.mapError retryable) = _
  rw [hlinks]
  show (Tx.exec ((Tx.ensure (agrees issue references draft') _).bind _) db).map id
    (Except.mapError retryable) = _
  rw [hdisagrees]
  rfl

/-- **The promise of a key is kept as long as its issue is what was asked for**, and the actor may
still create issues. -/
theorem keyIdempotent_iff (hfind : (db.issues.find? fun i => i.workId == workId &&
      i.creationOperationKey == operationKey) = some issue)
    (hkey : Evidence.validOperationKey operationKey = true)
    (hdraft : draft'.normalised = some draft)
    (hreason : ∀ link ∈ db.retestLinks, link.conclusion.isSome → link.conclusionReason.isSome) :
    KeyIdempotent db actorId workspaceId workId operationKey draft issue.id ↔
      MayCreate db actorId workspaceId workId ∧ IsRecord db issue draft := by
  constructor
  · intro h
    obtain ⟨data, hok, -⟩ := h.same (fun _ => 0) 0 draft' draft hdraft (.refl draft)
    have hmay := mayCreate_of_ok hok
    rw [createIssueData_known hmay hfind hkey hdraft] at hok
    exact ⟨hmay, record_of_answerKnown hok⟩
  · rintro ⟨hmay, hrecord⟩
    refine ⟨fun uuids now again e hagain hsame => ?_, fun uuids now other e hother hdiffers => ?_⟩
    · rw [createIssueData_known hmay hfind hkey hagain]
      exact answerKnown_of_record (hrecord.congr hsame.symm) hreason
    · rw [createIssueData_known hmay hfind hkey hother]
      exact answerKnown_conflict hrecord hdiffers

end Issues

end Rulefolio
