import Rulefolio.Issues.Overview
import Rulefolio.Playtests.PlannedVersion

/-!
# What an export reads

The functions of the services that only `build_work_export` and the routes call: the rules of a work
with their files, the list of the plans, the feedback of a session, and the issues with their
evidence and their retests.

A page is a slice of the rows in the order of the query. Columns that do nothing but order rows are
not columns of the model; a query takes them as functions of the key, together as `Times`. Lists that
are returned whole stand in the order of their table.

## Main definitions

* `Works.readWork`, `Works.readRuleMaterials`.
* `Playtests.listPlans`, `Playtests.readFeedback`.
* `Issues.listIssues`, `Issues.listIssueEvidence`, `Issues.listRetests`.
-/

namespace Rulefolio

/-- The columns that order rows. -/
structure Times where
  planCreatedAt : Uuid → Timestamp
  issueUpdatedAt : Uuid → Timestamp
  /-- `recorded_at` of an observation, `updated_at` of a feedback submission. -/
  sourceAt : Uuid → Timestamp

/-- A page of the rows a query orders. Its bounds are sent as values of type `integer`. -/
def pageOf {ρ : Type} (retryable : ServiceError) (rows : Database → List ρ) (page size : ℕ) :
    Program (List ρ) := do
  let rows ← Tx.read fun db => ((rows db).drop ((page - 1) * size)).take size
  Tx.ensure (fitsInteger ((page - 1) * size : ℕ) && fitsInteger size) retryable
  return rows

/-! ## Works -/

namespace Files

/-- `MaterialData` of `app.files.materials`, which has a time more than that of `app.playtests`. -/
structure MaterialData extends Playtests.MaterialData where
  createdAt : Timestamp
  deriving DecidableEq, Repr

/-- `material_data`. -/
def materialData (file : StoredFile) : MaterialData where
  id := file.id
  displayName := file.displayName
  detectedContentType := file.detectedContentType
  sizeBytes := file.sizeBytes
  sha256 := file.sha256
  createdAt := file.createdAt

/-- A material with this identifier that is ready. -/
def findReadyMaterial (fileId : Uuid) (db : Database) : Option StoredFile :=
  db.files.find? fun f => f.id == fileId && f.kind == .material && f.status == .ready

/-- The key `current_ready_materials` sorts by. -/
def earlier (m m' : MaterialData) : Prop :=
  m.createdAt < m'.createdAt ∨ m.createdAt = m'.createdAt ∧ m.id ≤ m'.id

instance : DecidableRel earlier := fun _ _ => inferInstanceAs (Decidable (_ ∨ _))

/-- `current_ready_materials`. A file that is not there is left out. -/
def currentReadyMaterials (workId : Uuid) (db : Database) : List MaterialData :=
  (((db.workMaterials.filter (·.workId == workId)).filterMap fun m =>
    findReadyMaterial m.fileId db).map materialData).insertionSort earlier

end Files

namespace Works

/-- `read_work`, with the role of the actor. -/
def readWork (actorId workspaceId workId : Uuid) : Program (Work × WorkRole) := do
  let work ← loadVisibleWork workspaceId workId
  let role ← Workspaces.workAccessRole work.id actorId
  let role ← Tx.require role .workUnavailable
  return (work, role)

/-- `RuleMaterialsData`. -/
structure RuleMaterialsData where
  ruleName : Option String
  ruleDescription : Option String
  ruleContent : Option String
  materials : List Files.MaterialData
  revision : ℕ

/-- `read_rule_materials`. -/
def readRuleMaterials (actorId workspaceId workId : Uuid) : Program RuleMaterialsData := do
  let work ← loadVisibleWork workspaceId workId
  let role ← Workspaces.workAccessRole work.id actorId
  Tx.ensure role.isSome .workUnavailable
  let materials ← Tx.read (Files.currentReadyMaterials work.id)
  return ⟨work.ruleName, work.ruleDescription, work.ruleContent, materials, work.revision⟩

end Works

/-! ## Feedback -/

namespace Evidence

/-- `FeedbackItemData`. -/
structure FeedbackItemData where
  item : PlaytestFeedbackItem
  options : List PlaytestFeedbackOption
  deriving DecidableEq, Repr

/-- `FeedbackSubmissionData`. -/
structure FeedbackSubmissionData where
  submission : PlaytestFeedbackSubmission
  recordedByEmail : String
  answers : List PlaytestFeedbackAnswer
  deriving DecidableEq, Repr

/-- `FeedbackData`. -/
structure FeedbackData where
  items : List FeedbackItemData
  submissions : List FeedbackSubmissionData
  deriving DecidableEq, Repr

/-- `_item_data`. -/
def itemData (db : Database) (item : PlaytestFeedbackItem) : FeedbackItemData :=
  ⟨item, db.feedbackOptions.filter fun o =>
    o.sessionId == item.sessionId && o.itemId == item.id⟩

/-- `_submission_data`, with the email of who recorded it. The policy shows a manager the answers of
submissions that were submitted. -/
def submissionData (db : Database) (submission : PlaytestFeedbackSubmission) :
    Option FeedbackSubmissionData := do
  let account ← db.accounts.find? (·.id == submission.recordedByAccountId)
  return ⟨submission, account.email, db.feedbackAnswers.filter fun a =>
    a.submissionId == submission.id && a.status == .submitted⟩

/-- The feedback of a session that was submitted, which is what the policy shows a manager. -/
def submittedFeedback (sessionId : Uuid) (db : Database) : List FeedbackSubmissionData :=
  (db.feedbackSubmissions.filter fun s =>
    s.sessionId == sessionId && s.status == .submitted).filterMap (submissionData db)

/-- The feedback items of a session. -/
def feedbackItems (sessionId : Uuid) (db : Database) : List FeedbackItemData :=
  (db.feedbackItems.filter (·.sessionId == sessionId)).map (itemData db)

/-- `list_feedback`. -/
def listFeedback (sessionId : Uuid) (db : Database) : FeedbackData :=
  ⟨feedbackItems sessionId db, submittedFeedback sessionId db⟩

end Evidence

/-! ## Playtests -/

namespace Playtests

/-- `ManagedFeedbackData`. -/
structure ManagedFeedbackData where
  session : SessionData
  actualMaterialRecorded : Bool
  feedback : Evidence.FeedbackData

/-- `read_feedback`. -/
def readFeedback (actorId workspaceId workId sessionId : Uuid) : Program ManagedFeedbackData :=
  Tx.mapError checkErrors do
    requireManagement actorId workspaceId workId false
    let item ← Tx.read (findSession workspaceId workId sessionId)
    let item ← Tx.require item .playtestUnavailable
    Tx.ensure (item.status != .cancelled) .playtestUnavailable
    let session ← sessionData item
    let feedback ← Tx.read (Evidence.listFeedback item.id)
    return ⟨session, item.actualMaterialRecorded, feedback⟩

/-- `_session_data`, with `include_participants=False`. -/
def sessionSummary (item : PlaytestSession) : Program SessionData := do
  let confirmed ← Tx.read (confirmedCount item.id)
  let materials ← materials item.id
  return ⟨item, confirmed, materials, []⟩

/-- `PlanSummaryData`. -/
structure PlanSummaryData where
  plan : PlaytestPlan
  sessionCount : ℕ
  nextSession : Option SessionData

/-- `func.max` of the times of the sessions of a plan. -/
def latestSessionAt (db : Database) (planId : Uuid) : Option Timestamp :=
  ((db.sessions.filter (·.planId == planId)).map (·.scheduledAt)).max?

/-- `ORDER BY latest_session_at DESC NULLS LAST, created_at DESC, id`. -/
def plannedBefore (db : Database) (times : Times) (p p' : PlaytestPlan) : Prop :=
  match latestSessionAt db p.id, latestSessionAt db p'.id with
  | some _, none => True
  | none, some _ => False
  | latest, latest' => latest'.getD 0 < latest.getD 0 ∨ latest = latest' ∧
      (times.planCreatedAt p'.id < times.planCreatedAt p.id ∨
        times.planCreatedAt p.id = times.planCreatedAt p'.id ∧ p.id ≤ p'.id)

instance (db : Database) (times : Times) : DecidableRel (plannedBefore db times) := fun p p' => by
  unfold plannedBefore
  split <;> infer_instance

/-- The plans of a work, in the order of `list_plans`. -/
def orderedPlans (times : Times) (workspaceId workId : Uuid) (db : Database) : List PlaytestPlan :=
  (db.plans.filter fun p => p.workspaceId == workspaceId && p.workId == workId).insertionSort
    (plannedBefore db times)

/-- `ORDER BY scheduled_at, id`. -/
def scheduledBefore (s s' : PlaytestSession) : Prop :=
  s.scheduledAt < s'.scheduledAt ∨ s.scheduledAt = s'.scheduledAt ∧ s.id ≤ s'.id

instance : DecidableRel scheduledBefore := fun _ _ => inferInstanceAs (Decidable (_ ∨ _))

/-- The scheduled session of a plan that comes next. -/
def nextSession (planId : Uuid) (db : Database) : Option PlaytestSession :=
  ((db.sessions.filter fun s => s.planId == planId && s.status == .scheduled).insertionSort
    scheduledBefore).head?

/-- One turn of the loop of `list_plans`. -/
def planSummary (plan : PlaytestPlan) : Program PlanSummaryData := do
  let count ← Tx.read fun db : Database => db.sessions.countP (·.planId == plan.id)
  let next ← Tx.read (nextSession plan.id)
  match next with
  | none => return ⟨plan, count, none⟩
  | some item => do
    let data ← sessionSummary item
    return ⟨plan, count, some data⟩

/-- The loop. -/
def planSummaries : List PlaytestPlan → Program (List PlanSummaryData)
  | [] => return []
  | plan :: rest => do
    let summary ← planSummary plan
    let summaries ← planSummaries rest
    return summary :: summaries

/-- `list_plans`. -/
def listPlans (times : Times) (actorId workspaceId workId : Uuid) (page size : ℕ) :
    Program (List PlanSummaryData × ℤ) :=
  Tx.mapError checkErrors do
    requireManagement actorId workspaceId workId false
    let total ← Tx.read fun db : Database => db.plans.countP fun p =>
      p.workspaceId == workspaceId && p.workId == workId
    let plans ← pageOf .playtestOperationRetryable (orderedPlans times workspaceId workId) page size
    let summaries ← planSummaries plans
    return (summaries, (total : ℤ))

end Playtests

/-! ## Issues -/

namespace Evidence

/-- `IssueEvidenceAnswerData`. -/
structure IssueEvidenceAnswerData where
  answer : PlaytestFeedbackAnswer
  question : String
  optionLabel : Option String
  deriving DecidableEq, Repr

/-- `IssueEvidenceSourceData`, with the rows its columns come from. -/
structure IssueEvidenceSourceData where
  reference : IssueEvidenceReference
  session : PlaytestSession
  observation : Option PlaytestObservation
  submission : Option PlaytestFeedbackSubmission
  recordedByEmail : String
  answers : List IssueEvidenceAnswerData
  deriving DecidableEq, Repr

/-- `source_id`. -/
def IssueEvidenceReference.sourceId : IssueEvidenceReference → Uuid
  | .observation sourceId => sourceId
  | .feedbackSubmission sourceId => sourceId

/-- `_issue_session_context`. -/
def issueSessionContext (sessionId : Uuid) : Program PlaytestSession := do
  let item ← Tx.read fun db : Database => db.sessions.find? (·.id == sessionId)
  Tx.require item .issueEvidenceUnavailable

/-- One answer of `_issue_feedback_answers`. -/
def issueFeedbackAnswer (db : Database) (answer : PlaytestFeedbackAnswer) :
    Option IssueEvidenceAnswerData := do
  let item ← db.feedbackItems.find? (·.id == answer.itemId)
  match answer.optionId with
  | none => return ⟨answer, item.question, none⟩
  | some optionId => do
    let option ← db.feedbackOptions.find? (·.id == optionId)
    return ⟨answer, item.question, some option.label⟩

/-- `_issue_feedback_answers`, of one submission. -/
def issueFeedbackAnswers (submissionId : Uuid) (db : Database) :
    Option (List IssueEvidenceAnswerData) :=
  (db.feedbackAnswers.filter fun a => a.submissionId == submissionId && a.status == .submitted).mapM
    (issueFeedbackAnswer db)

/-- What `read_linked_issue_evidence` makes of one reference. -/
def linkedSource : IssueEvidenceReference → Program IssueEvidenceSourceData
  | .observation sourceId => do
    let source ← Tx.read fun db : Database => db.observations.find? (·.id == sourceId)
    let source ← Tx.require source .issueEvidenceUnavailable
    let account ← Tx.read fun db : Database => db.accounts.find? (·.id == source.recordedByAccountId)
    let account ← Tx.require account .issueEvidenceUnavailable
    let session ← issueSessionContext source.sessionId
    return ⟨.observation sourceId, session, some source, none, account.email, []⟩
  | .feedbackSubmission sourceId => do
    let source ← Tx.read fun db : Database => db.feedbackSubmissions.find? fun s =>
      s.id == sourceId && s.status == .submitted
    let source ← Tx.require source .issueEvidenceUnavailable
    let account ← Tx.read fun db : Database => db.accounts.find? (·.id == source.recordedByAccountId)
    let account ← Tx.require account .issueEvidenceUnavailable
    let answers ← Tx.read (issueFeedbackAnswers sourceId)
    let answers ← Tx.require answers .issueEvidenceUnavailable
    let session ← issueSessionContext source.sessionId
    return ⟨.feedbackSubmission sourceId, session, none, some source, account.email, answers⟩

/-- The loops of `read_linked_issue_evidence`. Every reference has a source, or it raises. -/
def linkedSources : List IssueEvidenceReference → Program (List IssueEvidenceSourceData)
  | [] => return []
  | reference :: rest => do
    let source ← linkedSource reference
    let sources ← linkedSources rest
    return source :: sources

/-- The sort of `read_linked_issue_evidence`, the latest first. -/
def recordedBefore (times : Times) (s s' : IssueEvidenceSourceData) : Prop :=
  times.sourceAt s'.reference.sourceId < times.sourceAt s.reference.sourceId ∨
    times.sourceAt s.reference.sourceId = times.sourceAt s'.reference.sourceId ∧
      s'.reference.sourceId ≤ s.reference.sourceId

instance (times : Times) : DecidableRel (recordedBefore times) := fun _ _ =>
  inferInstanceAs (Decidable (_ ∨ _))

/-- `read_linked_issue_evidence`. The two sets of identifiers name every source once. -/
def readLinkedIssueEvidence (times : Times) (references : List IssueEvidenceReference) :
    Program (List IssueEvidenceSourceData) := do
  let sources ← linkedSources references.dedup
  return sources.insertionSort (recordedBefore times)

end Evidence

namespace Issues

/-- The check of the functions that read, `_require_management` without `writable`. -/
def requireReader (actorId workspaceId workId : Uuid) : Program Unit := do
  let _ ← (Works.requireManager workspaceId workId actorId).mapError workErrors

/-- `_load_issue`, with `lock=False`. The policy shows the issues of the work only. -/
def findIssue (workspaceId workId issueId : Uuid) : Program Issue := do
  let issue ← Tx.read fun db : Database => db.issues.find? fun i =>
    i.id == issueId && i.workspaceId == workspaceId && i.workId == workId
  Tx.require issue .issueUnavailable

/-- The issues of a work, in the order of `list_issues`. -/
def orderedIssues (times : Times) (workspaceId workId : Uuid) (db : Database) : List Issue :=
  (db.issues.filter fun i => i.workspaceId == workspaceId && i.workId == workId).insertionSort
    fun i i' => changedBefore times.issueUpdatedAt i.id i'.id

/-- `_data` of each issue. -/
def issueDatas : List Issue → Program (List IssueData)
  | [] => return []
  | issue :: rest => do
    let count ← Tx.read (sourceCount issue.id)
    let data ← issueData issue count
    let datas ← issueDatas rest
    return data :: datas

/-- `list_issues`. -/
def listIssues (times : Times) (actorId workspaceId workId : Uuid) (page size : ℕ) :
    Program (List IssueData × ℤ) :=
  Tx.mapError retryable do
    requireReader actorId workspaceId workId
    let total ← Tx.read fun db : Database => db.issues.countP fun i =>
      i.workspaceId == workspaceId && i.workId == workId
    let issues ← pageOf .issueOperationRetryable (orderedIssues times workspaceId workId) page size
    let datas ← issueDatas issues
    return (datas, (total : ℤ))

/-- `IssueEvidenceData`. -/
structure IssueEvidenceData where
  linkId : Uuid
  source : Evidence.IssueEvidenceSourceData
  deriving DecidableEq, Repr

/-- What `IssueEvidenceUnavailable` becomes. -/
def evidenceErrors : ServiceError → ServiceError
  | .issueEvidenceUnavailable => .issueUnavailable
  | e => e

/-- `link_ids`; of two links to one source it keeps the last. -/
def linkOf (links : List IssueEvidenceLink) (source : Evidence.IssueEvidenceSourceData) :
    Option IssueEvidenceData :=
  (links.reverse.find? fun l => reference l == some source.reference).map fun l => ⟨l.id, source⟩

/-- `list_issue_evidence`. It reads all of the evidence and cuts the page out of it. -/
def listIssueEvidence (times : Times) (actorId workspaceId workId issueId : Uuid) (page size : ℕ) :
    Program (List IssueEvidenceData × ℤ) :=
  Tx.mapError retryable do
    requireReader actorId workspaceId workId
    let issue ← findIssue workspaceId workId issueId
    let links ← Tx.read fun db : Database => db.evidenceLinks.filter (·.issueId == issue.id)
    let references ← referencesForIssue issue.id
    let sources ← (Evidence.readLinkedIssueEvidence times references).mapError evidenceErrors
    let items ← Tx.require (sources.mapM (linkOf links)) .issueUnavailable
    return ((items.drop ((page - 1) * size)).take size, (items.length : ℤ))

/-- `IssueRetestData`, with the rows its columns come from. -/
structure IssueRetestData where
  link : IssueRetestLink
  session : PlaytestSession
  isCurrent : Bool
  deriving DecidableEq, Repr

/-- `ORDER BY scheduled_at DESC, id DESC`. -/
def heldBefore (r r' : IssueRetestLink × PlaytestSession) : Prop :=
  r'.2.scheduledAt < r.2.scheduledAt ∨ r.2.scheduledAt = r'.2.scheduledAt ∧ r'.2.id ≤ r.2.id

instance : DecidableRel heldBefore := fun _ _ => inferInstanceAs (Decidable (_ ∨ _))

/-- The retests of an issue with their sessions, in the order of `list_retests`. -/
def orderedRetests (issueId : Uuid) (db : Database) : List (IssueRetestLink × PlaytestSession) :=
  ((db.retestLinks.filter (·.issueId == issueId)).flatMap fun l =>
    (db.sessions.filter (·.id == l.sessionId)).map fun s => (l, s)).insertionSort heldBefore

/-- `list_retests`. -/
def listRetests (actorId workspaceId workId issueId : Uuid) (page size : ℕ) :
    Program (List IssueRetestData × ℤ) :=
  Tx.mapError retryable do
    requireReader actorId workspaceId workId
    let issue ← findIssue workspaceId workId issueId
    let total ← Tx.read fun db : Database => db.retestLinks.countP (·.issueId == issue.id)
    let rows ← pageOf .issueOperationRetryable (orderedRetests issue.id) page size
    return (rows.map fun (link, item) =>
      ⟨link, item, link.adjustmentGeneration == issue.adjustmentGeneration⟩, (total : ℤ))

end Issues

end Rulefolio
