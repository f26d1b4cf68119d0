import Rulefolio.Evidence.Service
import Rulefolio.Works.Service

/-!
# `app.issues.service`

Issues of a work, their evidence and their retests. An operation on an issue locks its row, compares
the revision the caller expects, and raises it by one. `bind_retest_session` does the same inside
the transaction of `create_plan`, which commits.

## Main definitions

* `createIssue`, `updateIssue`, `bindRetestSession`, `saveRetestConclusion`, `addIssueEvidence`,
  `removeIssueEvidence`.
* `cancelRetestArrangedForSession` — called when a session is cancelled.
-/

namespace Rulefolio

namespace Issues

open Evidence (IssueEvidenceReference)

/-! ## Checks -/

/-- What the exceptions of the work checks become. -/
def workErrors : ServiceError → ServiceError
  | .workManagementForbidden => .issueManagementForbidden
  | .workUnavailable => .issueUnavailable
  | .sqlalchemyError => .issueOperationRetryable
  | e => e

/-- `_require_management`, with `writable=True`. -/
def requireManagement (actorId workspaceId workId : Uuid) : Program Unit := do
  Workspaces.ensureWritable workspaceId
  let _ ← (Works.requireManager workspaceId workId actorId).mapError workErrors

/-- `_load_issue`, with `lock=True`. -/
def loadIssue (issueId : Uuid) : Program Issue := do
  let issue ← Tx.selectForUpdate (fun i : Issue => .issue i.id) fun db =>
    db.issues.find? fun i => i.id == issueId && exitAllowsWrite none i.workspaceId db
  Tx.require issue .issueUnavailable

/-- `_lock_work_for_creation`. -/
def lockWorkForCreation (workspaceId workId : Uuid) : Program Unit := do
  let work ← Tx.selectForUpdate (fun w : Work => .work w.id) fun db : Database =>
    db.works.find? fun w => w.id == workId && w.workspaceId == workspaceId &&
      exitAllowsWrite none workspaceId db
  let _ ← Tx.require work .issueUnavailable

/-- What a row of `issue_evidence_links` refers to. -/
def reference (link : IssueEvidenceLink) : Option IssueEvidenceReference :=
  match link.observationId, link.feedbackSubmissionId with
  | some sourceId, _ => some (.observation sourceId)
  | none, some sourceId => some (.feedbackSubmission sourceId)
  | none, none => none

/-- `_references_for_issue`. -/
def referencesForIssue (issueId : Uuid) : Program (List IssueEvidenceReference) := do
  let links ← Tx.read fun db : Database => db.evidenceLinks.filter (·.issueId == issueId)
  Tx.require (links.mapM reference) .issueUnavailable

/-- `_current_conclusion`, of which the caller needs whether it raises. -/
def currentConclusion (issue : Issue) : Program (Option IssueRetestLink) := do
  let link ← Tx.read fun db : Database => db.retestLinks.find? fun l =>
    l.issueId == issue.id && l.adjustmentGeneration == issue.adjustmentGeneration &&
      l.conclusion.isSome
  match link with
  | none => return none
  | some link => do
    let _ ← Tx.require link.conclusionReason .issueUnavailable
    return some link

/-- The row of `issue_evidence_links` for a reference. -/
def linkRow (id issueId : Uuid) : IssueEvidenceReference → IssueEvidenceLink
  | .observation sourceId => ⟨id, issueId, some sourceId, none⟩
  | .feedbackSubmission sourceId => ⟨id, issueId, none, some sourceId⟩

theorem linkRow_issueId (id issueId : Uuid) (reference : IssueEvidenceReference) :
    (linkRow id issueId reference).issueId = issueId := by
  cases reference <;> rfl

/-- `prevent_issue_link_to_draft_feedback`, the trigger before the `INSERT` of a link. The status is
read with the row locked `FOR KEY SHARE`, before the advisory lock is there. -/
def preventIssueLinkToDraftFeedback : IssueEvidenceReference → Program Unit
  | .observation _ => return ()
  | .feedbackSubmission sourceId => do
    let rows ← Tx.read fun db : Database =>
      (db.feedbackSubmissions.filter (·.id == sourceId)).map (·.id)
    Tx.lockAll .keyShare (rows.map .feedbackSubmission)
    -- A row that appears only after the statement has begun is not returned.
    let submissionStatus ← Tx.read fun db : Database => (db.feedbackSubmissions.find? fun s =>
      s.id == sourceId && rows.contains s.id).map (·.status)
    Tx.lockAll .update [.feedbackLink sourceId]
    Tx.ensure (submissionStatus == some .submitted) .sqlalchemyError

/-- `_add_links`. -/
def addLinks (uuids : Uuids) (issueId : Uuid) (references : List IssueEvidenceReference) :
    Program Unit :=
  Tx.forEach references.zipIdx fun (reference, k) => do
    preventIssueLinkToDraftFeedback reference
    let link := linkRow (uuids.sub k).here issueId reference
    insertRow [.evidenceLink link.id] (fun db => !db.evidenceLinks.any (·.id == link.id))
      (exitAllowsIssueWrite issueId) fun db => { db with
        evidenceLinks := link :: db.evidenceLinks }

/-! ## Notifications -/

/-- The label of a todo about an issue: the first 197 characters of its description. -/
def contextLabel (issue : Issue) : String :=
  "问题：" ++ String.ofList (issue.description.toList.take 197)

/-- The todo and the mail of a maintainer. -/
structure MaintainerNotice where
  kind : TodoKind
  sourceKey : SourceKey
  purpose : MailPurpose
  summary : String
  body : String
  businessScope : BusinessScope

/-- The loop over the maintainers that the three notifications share. -/
def notifyMaintainers (uuids : Uuids) (now : Timestamp) (issue : Issue)
    (notice : MaintainerNotice) (except : Option Uuid) : Program Unit := do
  let accountIds ← Tx.read (Workspaces.currentWorkMaintainerIds · issue.workId)
  Tx.forEach accountIds.zipIdx fun (accountId, k) => do
    if except ≠ some accountId then do
      let _ ← Notifications.notify (uuids.sub k)
        (fun id => Notifications.todoRow id accountId issue.workspaceId (some issue.workId)
          notice.kind .issue issue.id notice.sourceKey notice.summary (contextLabel issue))
        fun id todoId => Notifications.enqueueBusinessMail id accountId notice.purpose
          notice.summary notice.body notice.businessScope (some todoId) none now

/-- `_notify_issue_maintainers`. -/
def notifyIssueMaintainers (uuids : Uuids) (now : Timestamp) (issue : Issue) : Program Unit :=
  notifyMaintainers uuids now issue
    { kind := .issueOpened
      sourceKey := .issueOpen issue.id issue.revision
      purpose := .issueOpened
      summary := "有新的问题需要处理"
      body := "有新的作品问题需要处理，请登录 Rulefolio 查看。"
      businessScope := .issue issue.id } none

/-- `_notify_retest_needed`. -/
def notifyRetestNeeded (uuids : Uuids) (now : Timestamp) (issue : Issue) : Program Unit :=
  notifyMaintainers uuids now issue
    { kind := .retestArrangementNeeded
      sourceKey := .adjustment issue.id issue.adjustmentGeneration
      purpose := .retestArrangementNeeded
      summary := "需要安排针对性复测"
      body := "作品问题的当前调整需要安排针对性复测，请登录 Rulefolio 查看。"
      businessScope := .issueRetestNeeded issue.id issue.adjustmentGeneration } none

/-- `_notify_retest_arranged`. -/
def notifyRetestArranged (uuids : Uuids) (now : Timestamp) (issue : Issue) (linkId : Uuid)
    (creatorId : Uuid) : Program Unit :=
  notifyMaintainers uuids now issue
    { kind := .retestArranged
      sourceKey := .id linkId
      purpose := .retestArranged
      summary := "已安排针对性复测"
      body := "其他维护者已安排针对性复测，请登录 Rulefolio 查看。"
      businessScope := .issueRetest linkId } (some creatorId)

/-- `cancel_retest_arranged_for_session`. -/
def cancelRetestArrangedForSession (now : Timestamp) (workspaceId workId sessionId : Uuid) :
    Program Unit := do
  let links ← Tx.read fun db : Database => db.retestLinks.filter fun l =>
    l.sessionId == sessionId && db.issues.any fun i =>
      i.id == l.issueId && i.workspaceId == workspaceId && i.workId == workId
  let recipientIds ← Tx.read (Workspaces.currentWorkMaintainerIds · workId)
  Tx.forEach links fun link => Tx.forEach recipientIds fun recipientId =>
    Notifications.endAll none now (.cancelTodoBySource recipientId .retestArranged (.id link.id))

/-! ## Operations -/

/-- What database errors become. -/
def retryable : ServiceError → ServiceError
  | .sqlalchemyError => .issueOperationRetryable
  | .issueEvidenceInvalid => .issueInvalid
  | .issueEvidenceUnavailable => .issueUnavailable
  | e => e

/-- `_values`: the stripped texts. -/
def values (description reason : String) : Option (String × String) := do
  let description ← requiredText 4000 description
  let reason ← requiredText 4000 reason
  return (description, reason)

/-- The `UPDATE` of an issue that a session writes back. -/
def writeIssue (issueId : Uuid) (change : Issue → Issue) : Program Unit :=
  updateRow (exitAllowsIssueWrite issueId) fun db => { db with
    issues := Table.update (·.id == issueId) change db.issues }

/-- The `UPDATE` of links that a session writes back, having locked them. -/
def writeLinks (issueId : Uuid) (linkIds : List Uuid) (change : IssueRetestLink → IssueRetestLink) :
    Program Unit :=
  if linkIds.isEmpty then return () else
    updateRow (exitAllowsIssueWrite issueId) fun db => { db with
      retestLinks := Table.update (fun l => linkIds.contains l.id) change db.retestLinks }

/-- A link without its conclusion. -/
def clearConclusion (l : IssueRetestLink) : IssueRetestLink :=
  { l with conclusion := none, conclusionReason := none }

/-- `create_issue`. A call with a known operation key changes nothing and does not commit. -/
def createIssue (uuids : Uuids) (now : Timestamp) (actorId workspaceId workId : Uuid)
    (operationKey : String) (description : String) (decision : IssueDecision) (reason : String)
    (status : IssueStatus) (references : List IssueEvidenceReference) : Program Unit :=
  Tx.mapError retryable do
    let (description, reason) ← Tx.require (values description reason) .issueInvalid
    Tx.ensure (Evidence.validOperationKey operationKey) .issueInvalid
    requireManagement actorId workspaceId workId
    lockWorkForCreation workspaceId workId
    let existing ← Tx.read fun db : Database => db.issues.find? fun i =>
      i.workId == workId && i.creationOperationKey == operationKey
    match existing with
    | some existing => do
      let existingReferences ← referencesForIssue existing.id
      Tx.ensure (existing.description == description && existing.decision == decision &&
        existing.reason == reason && existing.status == status &&
        existingReferences.all (references.contains ·) &&
        references.all (existingReferences.contains ·)) .issueOperationConflict
      let _ ← currentConclusion existing
    | none => do
      Evidence.validateIssueEvidenceSources workspaceId workId references
      let issue : Issue :=
        { id := (uuids.sub 0).here, workspaceId, workId, description, decision, reason,
          adjustmentNote := none, adjustmentGeneration := 0, status, revision := 1,
          creationOperationKey := operationKey }
      insertRow [.issue issue.id] (fun db => !db.issues.any fun i => i.id == issue.id ||
          (i.workId == workId && i.creationOperationKey == operationKey))
        (exitAllowsWrite none workspaceId) fun db => { db with issues := issue :: db.issues }
      addLinks (uuids.sub 1) issue.id references
      if issue.status = .opened then
        notifyIssueMaintainers (uuids.sub 2) now issue
      Tx.commitNow
      let _ ← currentConclusion issue

/-- What becomes of the todos about an issue when `update_issue` has rewritten it. -/
def updateTodos (uuids : Uuids) (now : Timestamp) (issue : Issue)
    (wasOpen adjustmentChanged : Bool) : Program Unit := do
  if issue.status = .closed then do
    Notifications.endAll none now (.completeTodosForTarget .issue issue.id (some [.issueOpened]))
    Notifications.endAll none now
      (.cancelTodosForTarget .issue issue.id (some [.retestArrangementNeeded]))
  else do
    if !wasOpen then
      notifyIssueMaintainers (uuids.sub 0) now issue
    if adjustmentChanged then
      Notifications.endAll none now
        (.cancelTodosForTarget .issue issue.id (some [.retestArrangementNeeded]))
    if issue.adjustmentNote.isSome && (adjustmentChanged || !wasOpen) then
      notifyRetestNeeded (uuids.sub 1) now issue

/-- `update_issue`. -/
def updateIssue (uuids : Uuids) (now : Timestamp) (actorId workspaceId workId issueId : Uuid)
    (description : String) (decision : IssueDecision) (reason : String)
    (adjustmentNote : Option String) (status : IssueStatus) (expectedRevision : ℤ) :
    Program Unit :=
  Tx.mapError retryable do
    let (description, reason) ← Tx.require (values description reason) .issueInvalid
    let adjustmentNote ← Tx.require (optionalText 4000 adjustmentNote) .issueInvalid
    Tx.ensure (0 < expectedRevision) .issueInvalid
    requireManagement actorId workspaceId workId
    let issue ← loadIssue issueId
    Tx.ensure ((issue.revision : ℤ) == expectedRevision) .issueRevisionConflict
    let adjustmentChanged := adjustmentNote != issue.adjustmentNote
    let change : Issue → Issue := fun i => { i with
      description := description
      decision := decision
      reason := reason
      adjustmentNote := adjustmentNote
      status := status
      revision := issue.revision + 1
      adjustmentGeneration :=
        if adjustmentChanged then issue.adjustmentGeneration + 1 else i.adjustmentGeneration }
    writeIssue issue.id change
    if adjustmentChanged then do
      let links ← Tx.selectAllForUpdate (fun l : IssueRetestLink => .retestLink l.id)
        fun db : Database => db.retestLinks.filter (·.issueId == issue.id)
      writeLinks issue.id (links.map (·.id)) clearConclusion
    updateTodos uuids now (change issue) (issue.status == .opened) adjustmentChanged
    Tx.commitNow
    let _ ← currentConclusion (change issue)

/-- `bind_retest_session`, in the transaction of its caller. -/
def bindRetestSession (uuids : Uuids) (now : Timestamp)
    (actorId workspaceId workId issueId sessionId : Uuid) (expectedRevision : ℤ) :
    Program Unit :=
  Tx.mapError retryable do
    Tx.ensure (0 < expectedRevision) .issueInvalid
    requireManagement actorId workspaceId workId
    let issue ← loadIssue issueId
    Tx.ensure ((issue.revision : ℤ) == expectedRevision) .issueRevisionConflict
    Tx.ensure issue.adjustmentNote.isSome .issueInvalid
    let item ← Tx.selectForUpdate (fun s : PlaytestSession => .session s.id) fun db : Database =>
      db.sessions.find? fun s => s.id == sessionId && s.workspaceId == workspaceId &&
        s.workId == workId && exitAllowsWrite none workspaceId db
    let item ← Tx.require item .issueUnavailable
    writeIssue issue.id fun i => { i with revision := issue.revision + 1 }
    let linkId := (uuids.sub 0).here
    insertRow [.retestLink linkId] (fun db => !db.retestLinks.any fun l => l.id == linkId ||
        (l.issueId == issue.id && l.sessionId == item.id)) (exitAllowsIssueWrite issue.id)
      fun db => { db with
        retestLinks := ⟨linkId, issue.id, item.id, issue.adjustmentGeneration, none, none⟩ ::
          db.retestLinks }
    Notifications.endAll none now
      (.completeTodosForTarget .issue issue.id (some [.retestArrangementNeeded]))
    notifyRetestArranged (uuids.sub 1) now issue linkId actorId

/-- `save_retest_conclusion`. -/
def saveRetestConclusion (actorId workspaceId workId issueId retestId : Uuid)
    (conclusion : RetestConclusion) (reason : String) (status : IssueStatus)
    (expectedRevision : ℤ) : Program Unit :=
  Tx.mapError retryable do
    let reason ← Tx.require (requiredText 4000 reason) .issueInvalid
    Tx.ensure (0 < expectedRevision) .issueInvalid
    requireManagement actorId workspaceId workId
    let issue ← loadIssue issueId
    Tx.ensure ((issue.revision : ℤ) == expectedRevision) .issueRevisionConflict
    let retest ← Tx.selectForUpdate (fun l : IssueRetestLink => .retestLink l.id)
      fun db : Database => db.retestLinks.find? fun l => l.id == retestId && l.issueId == issue.id
    let retest ← Tx.require retest .issueUnavailable
    Tx.ensure (retest.adjustmentGeneration == issue.adjustmentGeneration) .issueInvalid
    let item ← Tx.read fun db : Database => db.sessions.find? fun s =>
      s.id == retest.sessionId && s.workspaceId == workspaceId && s.workId == workId
    let item ← Tx.require item .issueUnavailable
    Tx.ensure (item.status == .started && item.actualMaterialRecorded) .issueRetestResultRequired
    if conclusion ≠ .insufficientEvidence then do
      let references ← referencesForIssue issue.id
      let found ← Evidence.hasIssueEvidenceFromSession item.id references
      Tx.ensure found .issueRetestEvidenceRequired
    let previous ← Tx.selectAllForUpdate (fun l : IssueRetestLink => .retestLink l.id)
      fun db : Database => db.retestLinks.filter fun l =>
        l.issueId == issue.id && l.id != retest.id && l.conclusion.isSome
    writeLinks issue.id (previous.map (·.id)) clearConclusion
    let change : Issue → Issue := fun i => { i with
      status := status, revision := issue.revision + 1 }
    writeIssue issue.id change
    writeLinks issue.id [retest.id] fun l => { l with
      conclusion := some conclusion, conclusionReason := some reason }
    Tx.commitNow
    let _ ← currentConclusion (change issue)

/-- `add_issue_evidence`. -/
def addIssueEvidence (uuids : Uuids) (actorId workspaceId workId issueId : Uuid)
    (expectedRevision : ℤ) (reference : IssueEvidenceReference) : Program Unit :=
  Tx.mapError retryable do
    Tx.ensure (0 < expectedRevision) .issueInvalid
    requireManagement actorId workspaceId workId
    let issue ← loadIssue issueId
    Tx.ensure ((issue.revision : ℤ) == expectedRevision) .issueRevisionConflict
    Evidence.validateIssueEvidenceSources workspaceId workId [reference]
    let existing ← referencesForIssue issue.id
    Tx.ensure (!existing.contains reference) .issueEvidenceAlreadyLinked
    addLinks uuids issue.id [reference]
    let change : Issue → Issue := fun i => { i with revision := issue.revision + 1 }
    writeIssue issue.id change
    Tx.commitNow
    let _ ← currentConclusion (change issue)

/-- `remove_issue_evidence`. -/
def removeIssueEvidence (actorId workspaceId workId issueId linkId : Uuid)
    (expectedRevision : ℤ) : Program Unit :=
  Tx.mapError retryable do
    Tx.ensure (0 < expectedRevision) .issueInvalid
    requireManagement actorId workspaceId workId
    let issue ← loadIssue issueId
    Tx.ensure ((issue.revision : ℤ) == expectedRevision) .issueRevisionConflict
    let links ← Tx.read fun db : Database => db.evidenceLinks.filter (·.issueId == issue.id)
    let target ← Tx.require (links.find? (·.id == linkId)) .issueUnavailable
    Tx.ensure (links.length != 1) .issueLastEvidenceRequired
    let change : Issue → Issue := fun i => { i with revision := issue.revision + 1 }
    writeIssue issue.id change
    updateRow (fun db => db.evidenceLinks.any (·.id == target.id)
      && exitAllowsIssueWrite issue.id db)
      fun db => { db with evidenceLinks := Table.delete (·.id == target.id) db.evidenceLinks }
    Tx.commitNow
    let _ ← currentConclusion (change issue)

end Issues

end Rulefolio
