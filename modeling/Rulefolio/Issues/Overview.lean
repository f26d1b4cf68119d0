import Rulefolio.Issues.Service
import Rulefolio.Library.Aggregates
import Rulefolio.Library.Returns

/-!
# Reading issues

What `app.issues.service` shows of an issue. The verification status is not stored: `_data` works
it out from the conclusion of the current adjustment, and `list_overview_issues` from an outer join
with the retests, in a query of its own.

That query is the only one of the module that sets no scope. The policies that once let the overview
read issues are gone, so what is left to show it a row are the scopes that the transaction may have
been given before.

The time of the last change of an issue orders the list. No other function looks at it, so it is not
a column of the model; the queries take it as a function of the key of the issue.

## Main definitions

* `issueData`, `readIssue` — one issue.
* `Scope` — the settings of a transaction that the policies of issues look at.
* `overviewIssues`, `listOverviewIssues` — a page of the open ones.
-/

namespace Rulefolio

namespace Issues

/-! ## One issue -/

/-- The verification status: a conclusion, `'pending'` or `'not_recorded'`. -/
inductive VerificationStatus
  | concluded (conclusion : RetestConclusion)
  | pending
  | notRecorded
  deriving DecidableEq, Repr

/-- `IssueConclusionData`. -/
structure IssueConclusionData where
  retestId : Uuid
  conclusion : RetestConclusion
  reason : String
  deriving DecidableEq, Repr

/-- `IssueData`, without its times. -/
structure IssueData where
  id : Uuid
  description : String
  decision : IssueDecision
  reason : String
  adjustmentNote : Option String
  verificationStatus : VerificationStatus
  currentConclusion : Option IssueConclusionData
  status : IssueStatus
  revision : ℕ
  sourceCount : ℕ
  deriving DecidableEq, Repr

/-- The conclusion of a retest, as `_current_conclusion` returns it. -/
def conclusionData (link : IssueRetestLink) : Option IssueConclusionData := do
  let conclusion ← link.conclusion
  let reason ← link.conclusionReason
  return ⟨link.id, conclusion, reason⟩

/-- The status `_data` gives an issue with this conclusion. -/
def verificationStatus (issue : Issue) : Option IssueConclusionData → VerificationStatus
  | some current => .concluded current.conclusion
  | none => if issue.adjustmentNote.isSome then .pending else .notRecorded

/-- `_data`. -/
def issueData (issue : Issue) (sourceCount : ℕ) : Program IssueData := do
  let link ← currentConclusion issue
  let current := link.bind conclusionData
  return {
    id := issue.id
    description := issue.description
    decision := issue.decision
    reason := issue.reason
    adjustmentNote := issue.adjustmentNote
    verificationStatus := verificationStatus issue current
    currentConclusion := current
    status := issue.status
    revision := issue.revision
    sourceCount := sourceCount }

/-- `_source_count`. -/
def sourceCount (issueId : Uuid) (db : Database) : ℕ :=
  db.evidenceLinks.countP (·.issueId == issueId)

/-- `read_issue`. The check has set the scope of the work, so the policy shows its issues only. -/
def readIssue (actorId workspaceId workId issueId : Uuid) : Program IssueData :=
  Tx.mapError retryable do
    let _ ← (Works.requireManager workspaceId workId actorId).mapError workErrors
    let issue ← Tx.read fun db : Database => db.issues.find? fun i =>
      i.id == issueId && i.workspaceId == workspaceId && i.workId == workId
    let issue ← Tx.require issue .issueUnavailable
    let count ← Tx.read (sourceCount issue.id)
    issueData issue count

/-! ## What the policies show -/

/-- The settings of a transaction that the policies of `issues` and `issue_retest_links` look at.
`exitMaintenance` is the workspace whose exit the session processes, if it is the processor. -/
structure Scope where
  workManagementWorkspaceId : Option Uuid
  workManagementId : Option Uuid
  projectBaselineMaintenance : Bool
  recoveryMaintenance : Bool
  exitMaintenance : Option Uuid
  deriving DecidableEq, Repr

namespace Scope

/-- A transaction begins without any. -/
def start : Scope := ⟨none, none, false, false, none⟩

/-- `set_work_management_scope`. -/
def setWorkManagement (scope : Scope) (workId workspaceId : Uuid) : Scope :=
  { scope with workManagementWorkspaceId := some workspaceId, workManagementId := some workId }

/-- The scope of management is that of the work. -/
def manages (scope : Scope) (workspaceId workId : Uuid) : Bool :=
  scope.workManagementWorkspaceId == some workspaceId && scope.workManagementId == some workId

/-- Any of the permissive policies `issue_read`, `project_baseline_issue_read` and
`issues_recovery_read` for the issues of a work. -/
def shows (scope : Scope) (workspaceId workId : Uuid) : Bool :=
  scope.manages workspaceId workId || scope.projectBaselineMaintenance || scope.recoveryMaintenance

variable (scope : Scope) (now : Timestamp) (db : Database)

/-- `issues_workspace_exit_read`. -/
def allowsRead (workspaceId : Uuid) : Bool :=
  exitAllowsRead scope.exitMaintenance scope.recoveryMaintenance now workspaceId db

/-- The policies for reading `issues`. -/
def readsIssue (issue : Issue) : Bool :=
  scope.shows issue.workspaceId issue.workId && scope.allowsRead now db issue.workspaceId

/-- The policies for reading `issue_retest_links`. The sub-select of `issue_retest_link_read` is
subject to the policies of `issues`; `workspace_exit_allows_issue_read` reads them as the owner. -/
def readsLink (link : IssueRetestLink) : Bool :=
  (db.issues.any (fun issue => issue.id == link.issueId &&
      scope.manages issue.workspaceId issue.workId && scope.readsIssue now db issue) ||
    scope.projectBaselineMaintenance || scope.recoveryMaintenance) &&
  db.issues.any fun issue => issue.id == link.issueId && scope.allowsRead now db issue.workspaceId

/-- The database with the issues and retests the policies show. -/
def visible : Database :=
  { db with
    issues := db.issues.filter (scope.readsIssue now db)
    retestLinks := db.retestLinks.filter (scope.readsLink now db) }

end Scope

/-! ## The overview -/

/-- The two lists of the overview. -/
inductive OverviewKind
  | pendingRetest
  | needsAction
  deriving DecidableEq, Repr

/-- `OverviewIssueData`. -/
structure OverviewIssueData where
  id : Uuid
  description : String
  decision : IssueDecision
  status : IssueStatus
  verificationStatus : VerificationStatus
  currentConclusionType : Option RetestConclusion
  currentConclusionSessionId : Option Uuid
  deriving DecidableEq, Repr

/-- `current_link_condition`. -/
def currentLinkCondition (issue : Issue) (link : IssueRetestLink) : Bool :=
  link.issueId == issue.id && link.adjustmentGeneration == issue.adjustmentGeneration &&
    link.conclusion.isSome

/-- The condition of a list. The columns of a missing link are null. -/
def OverviewKind.selects (issue : Issue) (link : Option IssueRetestLink) : OverviewKind → Bool
  | pendingRetest => issue.adjustmentNote.isSome && (link.bind (·.conclusion)).isNone
  | needsAction => issue.adjustmentNote.isNone || (link.bind (·.conclusion)).isSome

/-- The rows of a list, which has no order yet. -/
def overviewSelection (db : Database) (workspaceId workId : Uuid) (kind : OverviewKind) :
    List (Issue × Option IssueRetestLink) :=
  (Aggregates.leftJoin currentLinkCondition db.issues db.retestLinks).filter fun row =>
    row.1.workspaceId == workspaceId && row.1.workId == workId && row.1.status == .opened &&
      kind.selects row.1 row.2

/-- `ORDER BY updated_at DESC, id DESC`. -/
def changedBefore (updatedAt : Uuid → Timestamp) (i i' : Uuid) : Prop :=
  updatedAt i' < updatedAt i ∨ updatedAt i = updatedAt i' ∧ i' ≤ i

instance (updatedAt : Uuid → Timestamp) : DecidableRel (changedBefore updatedAt) := fun _ _ =>
  inferInstanceAs (Decidable (_ ∨ _))

/-- The columns of a row, with its `case` expression. -/
def overviewRow (row : Issue × Option IssueRetestLink) : OverviewIssueData where
  id := row.1.id
  description := row.1.description
  decision := row.1.decision
  status := row.1.status
  verificationStatus :=
    match row.2.bind (·.conclusion) with
    | some conclusion => .concluded conclusion
    | none => if row.1.adjustmentNote.isSome then .pending else .notRecorded
  currentConclusionType := row.2.bind (·.conclusion)
  currentConclusionSessionId := row.2.map (·.sessionId)

/-- A list, in its order. -/
def orderedOverview (db : Database) (updatedAt : Uuid → Timestamp) (workspaceId workId : Uuid)
    (kind : OverviewKind) : List OverviewIssueData :=
  ((overviewSelection db workspaceId workId kind).insertionSort fun r r' =>
    changedBefore updatedAt r.1.id r'.1.id).map overviewRow

/-- The query of `list_overview_issues`, on the rows the policies show it. -/
def overviewIssues (scope : Scope) (now : Timestamp) (db : Database) (updatedAt : Uuid → Timestamp)
    (workspaceId workId : Uuid) (kind : OverviewKind) (number size : ℕ) :
    List OverviewIssueData :=
  Aggregates.page size number (orderedOverview (scope.visible now db) updatedAt workspaceId workId
    kind)

/-- `list_overview_issues`, in a transaction with this scope: a page, and the total of a count of
its own. The bounds of the page are sent as values of type `integer`. -/
def listOverviewIssues (scope : Scope) (now : Timestamp) (updatedAt : Uuid → Timestamp)
    (workspaceId workId : Uuid) (kind : OverviewKind) (number size : ℕ) :
    Program (List OverviewIssueData × ℕ) := do
  let total ← Tx.read fun db =>
    (overviewSelection (scope.visible now db) workspaceId workId kind).length
  Tx.ensure (fitsInteger ((number - 1) * size : ℕ) && fitsInteger size) .issueOperationRetryable
  let rows ← Tx.read fun db =>
    overviewIssues scope now db updatedAt workspaceId workId kind number size
  return (rows, total)

/-! ## What the query is shown -/

section Shown

variable {scope : Scope} {now : Timestamp} {db : Database} {workspaceId workId : Uuid}
variable {kind : OverviewKind}

theorem mem_overviewSelection {row : Issue × Option IssueRetestLink}
    (h : row ∈ overviewSelection db workspaceId workId kind) :
    row.1 ∈ db.issues ∧ row.1.workspaceId = workspaceId ∧ row.1.workId = workId ∧
      row.1.status = .opened := by
  obtain ⟨hjoin, hselected⟩ := List.mem_filter.1 h
  simp only [Bool.and_eq_true, beq_iff_eq] at hselected
  exact ⟨Aggregates.fst_mem_of_mem_leftJoin hjoin, hselected.1.1.1, hselected.1.1.2,
    hselected.1.2⟩

/-- What a session without the settings of any maintenance may read, every session may. -/
theorem Scope.allowsRead_of_readable (h : exitAllowsRead none false now workspaceId db = true) :
    scope.allowsRead now db workspaceId = true := by
  rw [exitAllowsRead, List.any_eq_true] at h
  obtain ⟨workspace, hworkspace, hrow⟩ := h
  refine List.any_eq_true.2 ⟨workspace, hworkspace, ?_⟩
  simp only [Bool.and_eq_true, Bool.or_eq_true, Bool.or_false] at hrow ⊢
  refine ⟨hrow.1, .inl (.inl ?_)⟩
  simpa using hrow.2

/-- **A scope that shows the issues of the work shows the query all it asks for.** -/
theorem overviewSelection_visible (hshows : scope.shows workspaceId workId = true)
    (hreadable : scope.allowsRead now db workspaceId = true) :
    overviewSelection (scope.visible now db) workspaceId workId kind =
      overviewSelection db workspaceId workId kind := by
  have hissue : ∀ issue : Issue, issue.workspaceId = workspaceId → issue.workId = workId →
      scope.readsIssue now db issue = true := by
    rintro issue rfl rfl
    rw [Scope.readsIssue, hshows, hreadable]
    rfl
  have hscope : ∀ issue : Issue, ∀ link, (issue.workspaceId == workspaceId &&
      issue.workId == workId && issue.status == .opened && kind.selects issue link) = true →
      issue.workspaceId = workspaceId ∧ issue.workId = workId := by
    intro issue link h
    simp only [Bool.and_eq_true, beq_iff_eq] at h
    exact h.1.1
  refine Aggregates.filter_leftJoin_filter (fun issue _ link h => ?_) ?_
  · exact hissue issue (hscope issue link h).1 (hscope issue link h).2
  · intro issue hmem _ other h link _ hon
    obtain ⟨hworkspace, hwork⟩ := hscope issue other h
    have hid : issue.id = link.issueId := by
      rw [currentLinkCondition, Bool.and_eq_true, Bool.and_eq_true, beq_iff_eq] at hon
      exact hon.1.1.symm
    -- The issue itself is what the sub-selects of the policies look for.
    have hexit : (db.issues.any fun issue => issue.id == link.issueId &&
        scope.allowsRead now db issue.workspaceId) = true :=
      List.any_eq_true.2 ⟨issue, hmem, by rw [hid, hworkspace, hreadable, beq_self_eq_true]; rfl⟩
    rw [Scope.readsLink, hexit, Bool.and_true, Bool.or_assoc, Bool.or_eq_true]
    rw [Scope.shows, Bool.or_assoc, Bool.or_eq_true] at hshows
    refine hshows.imp_left fun hmanages => List.any_eq_true.2 ⟨issue, hmem, ?_⟩
    rw [hissue issue hworkspace hwork, hid, hworkspace, hwork, hmanages, beq_self_eq_true]
    rfl

theorem orderedOverview_visible (hshows : scope.shows workspaceId workId = true)
    (hreadable : scope.allowsRead now db workspaceId = true) (updatedAt : Uuid → Timestamp) :
    orderedOverview (scope.visible now db) updatedAt workspaceId workId kind =
      orderedOverview db updatedAt workspaceId workId kind := by
  rw [orderedOverview, overviewSelection_visible hshows hreadable]
  rfl

/-- A scope that does not show them leaves it nothing. -/
theorem overviewSelection_hidden (hshows : ¬scope.shows workspaceId workId = true) :
    overviewSelection (scope.visible now db) workspaceId workId kind = [] := by
  refine List.eq_nil_iff_forall_not_mem.2 fun row hrow => hshows ?_
  obtain ⟨hmem, hworkspace, hwork, -⟩ := mem_overviewSelection hrow
  have hreads := (List.mem_filter.1 hmem).2
  rw [Scope.readsIssue, Bool.and_eq_true, hworkspace, hwork] at hreads
  exact hreads.1

/-- So does a work without open issues. -/
theorem overviewSelection_noneOpen (hnone : ∀ issue ∈ db.issues, issue.workspaceId = workspaceId →
    issue.workId = workId → issue.status ≠ .opened) :
    overviewSelection db workspaceId workId kind = [] := by
  refine List.eq_nil_iff_forall_not_mem.2 fun row hrow => ?_
  obtain ⟨hmem, hworkspace, hwork, hopen⟩ := mem_overviewSelection hrow
  exact hnone row.1 hmem hworkspace hwork hopen

end Shown

/-! ## An issue whose conclusions are in order -/

variable {db : Database} {issue : Issue}

/-- The link that holds the conclusion of the current adjustment. -/
def currentLink (db : Database) (issue : Issue) : Option IssueRetestLink :=
  db.retestLinks.find? (currentLinkCondition issue)

theorem currentLink_some {link : IssueRetestLink} (h : currentLink db issue = some link) :
    link ∈ db.retestLinks ∧ link.issueId = issue.id ∧ link.conclusion.isSome := by
  have hrow := List.find?_some h
  rw [currentLinkCondition, Bool.and_eq_true, Bool.and_eq_true, beq_iff_eq] at hrow
  exact ⟨List.mem_of_find?_eq_some h, hrow.1.1, hrow.2⟩

/-- `_data` finds the conclusion of the current link, when the link gives a reason for it. -/
theorem issueData_returns (hreason : ∀ link ∈ db.retestLinks, link.conclusion.isSome →
    link.conclusionReason.isSome) (count : ℕ) :
    (issueData issue count).Returns (fun data s _ => s = db ∧ data.id = issue.id ∧
      data.currentConclusion.map (·.conclusion) = (currentLink db issue).bind (·.conclusion) ∧
      data.currentConclusion.map (·.retestId) = (currentLink db issue).map (·.id) ∧
      data.verificationStatus = (overviewRow (issue, currentLink db issue)).verificationStatus)
      db db := by
  rw [issueData, currentConclusion]
  simp only [Tx.bind_eq]
  have hread : (db.retestLinks.find? fun l => l.issueId == issue.id &&
      l.adjustmentGeneration == issue.adjustmentGeneration && l.conclusion.isSome) =
        currentLink db issue := rfl
  rw [Tx.returns_bind, Tx.returns_bind, Tx.returns_read, hread]
  cases hlink : currentLink db issue with
  | none => exact ⟨rfl, rfl, rfl, rfl, rfl⟩
  | some link =>
    obtain ⟨hmem, -, hconclusion⟩ := currentLink_some hlink
    obtain ⟨conclusion, hconclusion⟩ := Option.isSome_iff_exists.1 hconclusion
    obtain ⟨reason, hreason⟩ := Option.isSome_iff_exists.1
      (hreason link hmem (by rw [hconclusion]; rfl))
    dsimp only
    rw [Tx.returns_bind, Tx.returns_require]
    refine ⟨reason, hreason, rfl, rfl, ?_, ?_, ?_⟩ <;>
      simp [conclusionData, hconclusion, hreason, verificationStatus, overviewRow]

end Issues

end Rulefolio
