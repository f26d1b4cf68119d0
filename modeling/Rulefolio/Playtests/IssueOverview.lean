import Rulefolio.Issues.Overview
import Rulefolio.Playtests.Overview
import Rulefolio.Playtests.RetestCalls
import Rulefolio.Playtests.Sequential

/-!
# The overview of a work's issues

The database has a function for the issues of the overview page, `playtest_overview_issues`, beside
the query `app.issues.service` has for the same lists and beside what `read_issue` shows of one
issue. All three work out the verification status for themselves. In every reachable state an issue
has at most one conclusion, and that about its current adjustment, so they say the same of the
issues they see. The function runs as the owner of a policy of its own and sees those of the work.
The query is left with the scope of its transaction, and shows no issue where that is missing.

A page carries the total of its list on each of its rows. On a page beyond the end there is no row,
and the service reports a total of zero, where the query of `app.issues.service` counts.

## Main definitions

* `playtestOverviewIssues`, `listOverviewIssues` — the function, and the service over it.
* `SameVerification` — the three answers about an issue.
* `VerificationAgrees` — they are the same for a work.

## Main results

* `verification_status_agrees_iff` — for which scopes they are.
* `overview_pages_are_slices` — when a page comes with the right total.
-/

namespace Rulefolio

namespace Playtests

open ReadCommitted
open Issues (OverviewIssueData OverviewKind VerificationStatus currentLink orderedOverview)

/-! ## The function of the database -/

/-- The columns `scoped_issues` keeps; `updated_at` is a function of the key. -/
structure ScopedIssue where
  id : Uuid
  description : String
  decision : IssueDecision
  status : IssueStatus
  adjustmentNote : Option String
  currentConclusionType : Option RetestConclusion
  currentConclusionSessionId : Option Uuid
  deriving DecidableEq, Repr

/-- `scoped_issues`, one row. -/
def scopedIssue (row : Issue × Option IssueRetestLink) : ScopedIssue where
  id := row.1.id
  description := row.1.description
  decision := row.1.decision
  status := row.1.status
  adjustmentNote := row.1.adjustmentNote
  currentConclusionType := row.2.bind (·.conclusion)
  currentConclusionSessionId := row.2.map (·.sessionId)

/-- `scoped_issues`. -/
def scopedIssues (db : Database) (actorId workspaceId workId : Uuid) : List ScopedIssue :=
  ((Aggregates.leftJoin (fun (issue : Issue) (link : IssueRetestLink) =>
      link.issueId == issue.id && link.adjustmentGeneration == issue.adjustmentGeneration &&
        link.conclusion.isSome) db.issues db.retestLinks).filter fun row =>
    authorized db actorId workspaceId workId && row.1.workspaceId == workspaceId &&
      row.1.workId == workId && row.1.status == .opened).map scopedIssue

/-- The `WHERE` clause of `filtered_issues`. -/
def ScopedIssue.isOf (row : ScopedIssue) : OverviewKind → Bool
  | .pendingRetest => row.adjustmentNote.isSome && row.currentConclusionType.isNone
  | .needsAction => row.adjustmentNote.isNone || row.currentConclusionType.isSome

/-- The `CASE` expression of `filtered_issues`. -/
def ScopedIssue.verificationStatus (row : ScopedIssue) : VerificationStatus :=
  match row.currentConclusionType with
  | some conclusion => .concluded conclusion
  | none => if row.adjustmentNote.isSome then .pending else .notRecorded

/-- `filtered_issues`. -/
def filteredIssues (db : Database) (actorId workspaceId workId : Uuid) (kind : OverviewKind) :
    List ScopedIssue :=
  (scopedIssues db actorId workspaceId workId).filter (·.isOf kind)

/-- The columns the function returns beside the total. -/
def ScopedIssue.data (row : ScopedIssue) : OverviewIssueData where
  id := row.id
  description := row.description
  decision := row.decision
  status := row.status
  verificationStatus := row.verificationStatus
  currentConclusionType := row.currentConclusionType
  currentConclusionSessionId := row.currentConclusionSessionId

/-- `filtered_issues` in the order of the function. -/
def orderedIssues (db : Database) (updatedAt : Uuid → Timestamp)
    (actorId workspaceId workId : Uuid) (kind : OverviewKind) : List OverviewIssueData :=
  ((filteredIssues db actorId workspaceId workId kind).insertionSort fun r r' =>
    Issues.changedBefore updatedAt r.id r'.id).map (·.data)

/-- A row of `playtest_overview_issues`: `total` is the count over the whole selection. -/
structure ListedIssue where
  total : ℕ
  issue : OverviewIssueData
  deriving DecidableEq, Repr

/-- `playtest_overview_issues`. Pages are counted from one. -/
def playtestOverviewIssues (db : Database) (updatedAt : Uuid → Timestamp)
    (actorId workspaceId workId : Uuid) (kind : OverviewKind) (number size : ℕ) :
    List ListedIssue :=
  (Aggregates.page size number (orderedIssues db updatedAt actorId workspaceId workId kind)).map
    fun issue =>
      { total := (filteredIssues db actorId workspaceId workId kind).length
        issue := issue }

/-- `list_overview_issues`: a page, and the total its first row carries. -/
def listOverviewIssues (updatedAt : Uuid → Timestamp) (actorId workspaceId workId : Uuid)
    (kind : OverviewKind) (number size : ℕ) : Program (List OverviewIssueData × ℕ) := do
  requireOverview actorId workspaceId workId
  Tx.ensure (pageFits number size) .playtestOperationRetryable
  let rows ← Tx.read fun db =>
    playtestOverviewIssues db updatedAt actorId workspaceId workId kind number size
  return (rows.map (·.issue), (rows.head?.map (·.total)).getD 0)

/-! ## The two lists are one -/

variable {scope : Issues.Scope} {now : Timestamp} {db : Database} {updatedAt : Uuid → Timestamp}
variable {actorId workspaceId workId : Uuid}

/-- The function selects the same rows as the query of `app.issues.service`. -/
theorem filteredIssues_eq (hauthorized : authorized db actorId workspaceId workId = true)
    (kind : OverviewKind) : filteredIssues db actorId workspaceId workId kind =
      (Issues.overviewSelection db workspaceId workId kind).map scopedIssue := by
  rw [filteredIssues, scopedIssues, List.filter_map, List.filter_filter]
  refine congrArg (List.map scopedIssue) (List.filter_congr fun row _ => ?_)
  rw [hauthorized, Bool.true_and, Bool.and_comm]
  cases kind <;> rfl

/-- It puts them into the same order. -/
theorem orderedIssues_eq (hauthorized : authorized db actorId workspaceId workId = true)
    (kind : OverviewKind) :
    orderedIssues db updatedAt actorId workspaceId workId kind =
      orderedOverview db updatedAt workspaceId workId kind := by
  have hsort : ((Issues.overviewSelection db workspaceId workId kind).insertionSort fun r r' =>
      Issues.changedBefore updatedAt r.1.id r'.1.id).map scopedIssue =
      ((Issues.overviewSelection db workspaceId workId kind).map scopedIssue).insertionSort
        fun r r' => Issues.changedBefore updatedAt r.id r'.id :=
    List.map_insertionSort _ _ _ _ fun _ _ _ _ => Iff.rfl
  rw [orderedIssues, orderedOverview, filteredIssues_eq hauthorized, ← hsort, List.map_map]
  rfl

theorem playtestOverviewIssues_eq (hauthorized : authorized db actorId workspaceId workId = true)
    (kind : OverviewKind) (number size : ℕ) :
    (playtestOverviewIssues db updatedAt actorId workspaceId workId kind number size).map
      (·.issue) =
        Aggregates.page size number (orderedOverview db updatedAt workspaceId workId kind) := by
  rw [playtestOverviewIssues, orderedIssues_eq hauthorized, List.map_map]
  exact List.map_id _

/-! ## Every open issue is listed once -/

/-- An issue of a consistent database has one conclusion at most. -/
theorem currentLinks_le_one (hdb : RetestsConsistent db) (issue : Issue) :
    (db.retestLinks.filter (Issues.currentLinkCondition issue)).length ≤ 1 := by
  have hnodup : (db.retestLinks.filter (Issues.currentLinkCondition issue)).Nodup :=
    (List.Nodup.of_map _ hdb.ids).filter _
  have hsingle : ∀ l ∈ db.retestLinks.filter (Issues.currentLinkCondition issue),
      ∀ l' ∈ db.retestLinks.filter (Issues.currentLinkCondition issue), l = l' := by
    intro l hl l' hl'
    obtain ⟨hl, hcurrent⟩ := List.mem_filter.1 hl
    obtain ⟨hl', hcurrent'⟩ := List.mem_filter.1 hl'
    rw [Issues.currentLinkCondition, Bool.and_eq_true, Bool.and_eq_true] at hcurrent hcurrent'
    exact (hdb.issue issue.id).single l (List.mem_filter.2 ⟨hl, hcurrent.1.1⟩) l'
      (List.mem_filter.2 ⟨hl', hcurrent'.1.1⟩) hcurrent.2 hcurrent'.2
  rcases hlinks : db.retestLinks.filter (Issues.currentLinkCondition issue) with
    _ | ⟨l, _ | ⟨l', rest⟩⟩
  · exact Nat.zero_le 1
  · exact le_rfl
  · rw [hlinks] at hnodup hsingle
    have heq := hsingle l (by simp) l' (by simp)
    rw [heq] at hnodup
    simp at hnodup

/-- The row of an open issue is in the list of its kind, once, and in no other. -/
theorem listed_once (hdb : RetestsConsistent db) {issue : Issue} (hissue : issue ∈ db.issues)
    (hopen : issue.status = .opened) (kind : OverviewKind) :
    (orderedOverview db updatedAt issue.workspaceId issue.workId kind).filter
        (·.id == issue.id) =
      if kind.selects issue (currentLink db issue) then
        [Issues.overviewRow (issue, currentLink db issue)] else [] := by
  have hjoin : Aggregates.leftJoin Issues.currentLinkCondition db.issues db.retestLinks =
      db.issues.map fun i => (i, currentLink db i) :=
    Aggregates.leftJoin_of_unique fun i _ => currentLinks_le_one hdb i
  have hrows : db.issues.filter (·.id == issue.id) = [issue] :=
    Table.eq_singleton_of_mem (hdb.issue issue.id).unique
      (List.mem_filter.2 ⟨hissue, beq_self_eq_true _⟩)
  -- Among the rows of the join it is the only one with its key.
  have hunsorted : ((Issues.overviewSelection db issue.workspaceId issue.workId kind).map
      Issues.overviewRow).filter (·.id == issue.id) =
      if kind.selects issue (currentLink db issue) then
        [Issues.overviewRow (issue, currentLink db issue)] else [] := by
    have hfound : ∀ p : Issue → Bool, db.issues.filter (fun i => i.id == issue.id && p i) =
        if p issue then [issue] else [] := by
      intro p
      have hsplit : db.issues.filter (fun i => i.id == issue.id && p i) =
          (db.issues.filter (·.id == issue.id)).filter p := by
        rw [List.filter_filter]
        exact List.filter_congr fun i _ => Bool.and_comm _ _
      rw [hsplit, hrows, List.filter_cons, List.filter_nil]
    rw [List.filter_map, Issues.overviewSelection, hjoin, List.filter_filter, List.filter_map]
    refine (congrArg (fun l => List.map _ (List.map _ l)) (hfound _)).trans ?_
    simp only [hopen, beq_self_eq_true, Bool.true_and]
    show List.map _ (List.map _ (if kind.selects issue (currentLink db issue) then _ else _)) = _
    split
    · rfl
    · rfl
  have hperm : ((orderedOverview db updatedAt issue.workspaceId issue.workId kind).filter
      (·.id == issue.id)).Perm (((Issues.overviewSelection db issue.workspaceId issue.workId
        kind).map Issues.overviewRow).filter (·.id == issue.id)) :=
    ((List.perm_insertionSort _ _).map _).filter _
  rw [hunsorted] at hperm
  split at hperm
  · rename_i hselects
    rw [if_pos hselects]
    exact List.perm_singleton.1 hperm
  · rename_i hselects
    rw [if_neg hselects]
    exact List.perm_nil.1 hperm

/-- The two lists are complements of each other. -/
theorem selects_needsAction (issue : Issue) (link : Option IssueRetestLink) :
    OverviewKind.needsAction.selects issue link =
      !OverviewKind.pendingRetest.selects issue link := by
  simp only [OverviewKind.selects]
  cases issue.adjustmentNote <;> cases link.bind (·.conclusion) <;> rfl

/-! ## The three answers -/

/-- What a list says of the verification of an issue is what `_data` says of it. -/
structure Agrees (db : Database) (row : OverviewIssueData) (data : Issues.IssueData) : Prop where
  status : row.verificationStatus = data.verificationStatus
  conclusion : row.currentConclusionType = data.currentConclusion.map (·.conclusion)
  /-- The session is the one of the retest that `_data` names. -/
  session : row.currentConclusionSessionId = data.currentConclusion.bind fun current =>
    (db.retestLinks.find? (·.id == current.retestId)).map (·.sessionId)

/-- How often an issue is listed, over the pages of both lists. -/
def listedTimes (list : OverviewKind → ℕ → List OverviewIssueData) (pages : OverviewKind → ℕ)
    (issueId : Uuid) : ℕ :=
  ([OverviewKind.pendingRetest, .needsAction].flatMap fun kind =>
    (List.range (pages kind)).flatMap fun i => list kind (i + 1)).countP (·.id == issueId)

/-- The answers about an open issue are the same everywhere, where the query of
`app.issues.service` runs with this scope. -/
structure SameVerification (scope : Issues.Scope) (now : Timestamp) (db : Database)
    (updatedAt : Uuid → Timestamp) (actorId : Uuid) (issue : Issue) : Prop where
  /-- `_data` returns, and the lists of both implementations agree with what it returns. -/
  data : ∀ count, ∃ data, ((Issues.issueData issue count).exec db).2 = .ok data ∧
    ∀ kind, (∀ row ∈ orderedOverview (scope.visible now db) updatedAt issue.workspaceId
        issue.workId kind, row.id = issue.id → Agrees db row data) ∧
      ∀ row ∈ orderedIssues db updatedAt actorId issue.workspaceId issue.workId kind,
        row.id = issue.id → Agrees db row data
  /-- `read_issue` returns nothing else. -/
  read : ∀ readerId data, ((Issues.readIssue readerId issue.workspaceId issue.workId
    issue.id).exec db).2 = .ok data →
      ((Issues.issueData issue (Issues.sourceCount issue.id db)).exec db).2 = .ok data
  /-- The issue is listed once, over the pages up to an empty one. -/
  once : ∀ size pages, 0 < size →
    (∀ kind, Issues.overviewIssues scope now db updatedAt issue.workspaceId issue.workId kind
      (pages kind + 1) size = []) →
    listedTimes (fun kind number => Issues.overviewIssues scope now db updatedAt
      issue.workspaceId issue.workId kind number size) pages issue.id = 1
  onceListed : ∀ size pages, 0 < size →
    (∀ kind, playtestOverviewIssues db updatedAt actorId issue.workspaceId issue.workId kind
      (pages kind + 1) size = []) →
    listedTimes (fun kind number => (playtestOverviewIssues db updatedAt actorId
      issue.workspaceId issue.workId kind number size).map (·.issue)) pages issue.id = 1

/-- The verification status of the open issues of a work is the same everywhere. -/
structure VerificationAgrees (scope : Issues.Scope) (now : Timestamp) (db : Database)
    (updatedAt : Uuid → Timestamp) (actorId workspaceId workId : Uuid) : Prop where
  /-- Both implementations have the same pages, in the same order. -/
  pages : ∀ kind number size,
    (playtestOverviewIssues db updatedAt actorId workspaceId workId kind number size).map
      (·.issue) =
        Issues.overviewIssues scope now db updatedAt workspaceId workId kind number size
  issues : ∀ issue ∈ db.issues, issue.workspaceId = workspaceId → issue.workId = workId →
    issue.status = .opened → SameVerification scope now db updatedAt actorId issue

variable {settings : Settings} {normalizeEmail : String → Option String}
variable {c : Config Database RowKey ServiceError Unit Call}

/-- `read_issue` shows what `_data` works out, for the issue with this key. -/
theorem readIssue_data (hdb : RetestsConsistent db) {issue : Issue} (hissue : issue ∈ db.issues)
    {readerId : Uuid} {data : Issues.IssueData}
    (h : ((Issues.readIssue readerId issue.workspaceId issue.workId issue.id).exec db).2 =
      .ok data) :
    ((Issues.issueData issue (Issues.sourceCount issue.id db)).exec db).2 = .ok data := by
  have hfound : (db.issues.find? fun i => i.id == issue.id && i.workspaceId == issue.workspaceId &&
      i.workId == issue.workId) = some issue := by
    have hrows : db.issues.filter (·.id == issue.id) = [issue] :=
      Table.eq_singleton_of_mem (hdb.issue issue.id).unique
        (List.mem_filter.2 ⟨hissue, beq_self_eq_true _⟩)
    have hsplit : (db.issues.filter fun i => i.id == issue.id &&
        (i.workspaceId == issue.workspaceId && i.workId == issue.workId)) = [issue] := by
      rw [← List.filter_filter, List.filter_filter, List.filter_congr fun i _ => Bool.and_comm _ _,
        ← List.filter_filter, hrows]
      simp
    rw [← List.head?_filter]
    simp only [Bool.and_assoc, hsplit, List.head?_cons]
  rw [Tx.exec_eq_ok_iff, Issues.readIssue, Tx.returns_mapError] at h
  simp only [Tx.bind_eq] at h
  rw [Tx.Within.returns_bind (Tx.Within.mapError
    (Works.requireManager_within (fun _ => rfl) _ _ _))] at h
  obtain ⟨_, -, -, h⟩ := h
  rw [Tx.returns_bind, Tx.returns_read, hfound, Tx.returns_bind, Tx.returns_require] at h
  obtain ⟨_, hissue', h⟩ := h
  obtain rfl := Option.some.inj hissue'
  rw [Tx.returns_bind, Tx.returns_read] at h
  exact Tx.exec_eq_ok_iff.2 h

/-- Over all its pages a list has a row as often as it has it in its order. -/
theorem listedTimes_eq {list : OverviewKind → List OverviewIssueData} {pages : OverviewKind → ℕ}
    {size : ℕ} (hsize : 0 < size)
    (hlast : ∀ kind, Aggregates.page size (pages kind + 1) (list kind) = []) (issueId : Uuid) :
    listedTimes (fun kind number => Aggregates.page size number (list kind)) pages issueId =
      ((list .pendingRetest).filter (·.id == issueId)).length +
        ((list .needsAction).filter (·.id == issueId)).length := by
  rw [listedTimes]
  simp only [List.flatMap_cons, List.flatMap_nil, List.append_nil,
    Aggregates.flatMap_page_of_nil hsize (hlast _), List.countP_eq_length_filter,
    List.filter_append, List.length_append]

theorem sameVerification (hdb : RetestsConsistent db) {issue : Issue} (hissue : issue ∈ db.issues)
    (hopen : issue.status = .opened)
    (hauthorized : authorized db actorId issue.workspaceId issue.workId = true)
    (hlists : ∀ kind, orderedOverview (scope.visible now db) updatedAt issue.workspaceId
      issue.workId kind = orderedOverview db updatedAt issue.workspaceId issue.workId kind) :
    SameVerification scope now db updatedAt actorId issue := by
  have honce : ∀ size pages, 0 < size →
      (∀ kind, Aggregates.page size (pages kind + 1) (orderedOverview db updatedAt
        issue.workspaceId issue.workId kind) = []) →
      listedTimes (fun kind number => Aggregates.page size number (orderedOverview db updatedAt
        issue.workspaceId issue.workId kind)) pages issue.id = 1 := by
    intro size pages hsize hlast
    refine (listedTimes_eq hsize hlast issue.id).trans ?_
    rw [listed_once hdb hissue hopen, listed_once hdb hissue hopen, selects_needsAction]
    cases OverviewKind.pendingRetest.selects issue (currentLink db issue) <;> rfl
  refine ⟨fun count => ?_, fun _ _ => readIssue_data hdb hissue, ?_, ?_⟩
  · have hreason : ∀ link ∈ db.retestLinks, link.conclusion.isSome →
        link.conclusionReason.isSome := fun link hlink =>
      (hdb.issue link.issueId).reason link (List.mem_filter.2 ⟨hlink, beq_self_eq_true _⟩)
    obtain ⟨data, _, hdata, -, -, hconclusion, hretest, hstatus⟩ :=
      Tx.exec_of_returns (@Issues.issueData_returns db issue hreason count)
    have hagrees : Agrees db (Issues.overviewRow (issue, currentLink db issue)) data := by
      refine ⟨hstatus.symm, hconclusion.symm, ?_⟩
      show (currentLink db issue).map (·.sessionId) = _
      have hsession : (data.currentConclusion.bind fun current =>
          (db.retestLinks.find? (·.id == current.retestId)).map (·.sessionId)) =
          (data.currentConclusion.map (·.retestId)).bind fun retestId =>
            (db.retestLinks.find? (·.id == retestId)).map (·.sessionId) := by
        cases data.currentConclusion <;> rfl
      rw [hsession, hretest]
      cases hlink : currentLink db issue with
      | none => rfl
      | some link =>
        show some link.sessionId = (db.retestLinks.find? (·.id == link.id)).map (·.sessionId)
        have hmem := (Issues.currentLink_some hlink).1
        have hfind : (db.retestLinks.find? (·.id == link.id)) = some link :=
          Table.find?_eq_some_of_unique hmem (beq_self_eq_true link.id) fun l hl hid =>
            List.inj_on_of_nodup_map hdb.ids hl hmem (eq_of_beq hid)
        rw [hfind]
        rfl
    have hrows : ∀ kind, ∀ row ∈ orderedOverview db updatedAt issue.workspaceId issue.workId kind,
        row.id = issue.id → Agrees db row data := by
      intro kind row hrow hid
      have hmem : row ∈ (orderedOverview db updatedAt issue.workspaceId issue.workId kind).filter
          (·.id == issue.id) := List.mem_filter.2 ⟨hrow, by rw [hid]; exact beq_self_eq_true _⟩
      rw [listed_once hdb hissue hopen] at hmem
      split at hmem
      · rw [List.mem_singleton.1 hmem]
        exact hagrees
      · cases hmem
    refine ⟨data, hdata, fun kind => ?_⟩
    rw [hlists, orderedIssues_eq hauthorized]
    exact ⟨hrows kind, hrows kind⟩
  · simp only [Issues.overviewIssues, hlists]
    exact honce
  · intro size pages hsize hlast
    simp only [playtestOverviewIssues_eq hauthorized]
    refine honce size pages hsize fun kind => ?_
    rw [← playtestOverviewIssues_eq hauthorized, hlast]
    rfl

/-- **The verification status is the same everywhere exactly where the query is shown the issues.**
The transaction has the scope of the management of the work or that of a maintenance, or there is no
open issue to be shown. Neither `list_overview_issues` nor a caller sets one. -/
theorem verification_status_agrees_iff (h : (system settings normalizeEmail).Reachable c)
    (updatedAt : Uuid → Timestamp) (scope : Issues.Scope) (now : Timestamp)
    (hauthorized : authorized c.db actorId workspaceId workId = true)
    (hreadable : exitAllowsRead none false now workspaceId c.db = true) :
    VerificationAgrees scope now c.db updatedAt actorId workspaceId workId ↔
      scope.shows workspaceId workId = true ∨
        ∀ issue ∈ c.db.issues, issue.workspaceId = workspaceId → issue.workId = workId →
          issue.status ≠ .opened := by
  constructor
  · intro hagrees
    refine or_iff_not_imp_left.2 fun hhidden issue hissue hworkspace hwork hopen => ?_
    subst hworkspace hwork
    have hnothing : ∀ kind number size, Issues.overviewIssues scope now c.db updatedAt
        issue.workspaceId issue.workId kind number size = [] := by
      intro kind number size
      rw [Issues.overviewIssues, orderedOverview, Issues.overviewSelection_hidden hhidden]
      simp [Aggregates.page]
    -- No page shows the issue, where it should be on one.
    have honce := (hagrees.issues issue hissue rfl rfl hopen).once 1 (fun _ => 0) Nat.one_pos
      fun kind => hnothing kind _ 1
    simp [listedTimes] at honce
  · rintro (hshows | hnone)
    · have hlists : ∀ kind, orderedOverview (scope.visible now c.db) updatedAt workspaceId workId
          kind = orderedOverview c.db updatedAt workspaceId workId kind := fun kind =>
        Issues.orderedOverview_visible hshows (Issues.Scope.allowsRead_of_readable hreadable)
          updatedAt
      constructor
      · intro kind number size
        rw [playtestOverviewIssues_eq hauthorized, Issues.overviewIssues, hlists]
      · rintro issue hissue rfl rfl hopen
        exact sameVerification (retests_of_reachable h) hissue hopen hauthorized hlists
    · have hvisible : ∀ issue ∈ (scope.visible now c.db).issues,
          issue.workspaceId = workspaceId → issue.workId = workId → issue.status ≠ .opened :=
        fun issue hissue => hnone issue (List.mem_filter.1 hissue).1
      constructor
      · intro kind number size
        rw [playtestOverviewIssues_eq hauthorized, Issues.overviewIssues, orderedOverview,
          orderedOverview, Issues.overviewSelection_noneOpen hnone,
          Issues.overviewSelection_noneOpen hvisible]
      · intro issue hissue hworkspace hwork hopen
        exact absurd hopen (hnone issue hissue hworkspace hwork)

/-- A run that ends with a conclusion, of an issue that is open. -/
theorem retestConcluded_opened :
    ((sequentially .withoutCipher some).run .empty retestConcluded).any fun db =>
      authorized db 1 10 20 ∧ exitAllowsRead none false 0 10 db = true ∧
        db.issues.map (fun i => (i.id, i.workspaceId, i.workId, i.status)) =
          [(slowIssue, 10, 20, .opened)] ∧
        (playtestOverviewIssues db (fun _ => 0) 1 10 20 .needsAction 1 5).map
          (·.issue.verificationStatus) = [.concluded .verified] ∧
        Issues.overviewIssues .start 0 db (fun _ => 0) 10 20 .needsAction 1 5 = [] := by
  decide +kernel

/-- In a transaction that begins with the query, the issue is in no list. -/
theorem retestConcluded_unlisted :
    ∃ c, (system .withoutCipher some).Reachable c ∧ authorized c.db 1 10 20 = true ∧
      exitAllowsRead none false 0 10 c.db = true ∧
      ¬VerificationAgrees .start 0 c.db (fun _ => 0) 1 10 20 := by
  obtain ⟨db, hdb, hfacts⟩ := reachable_of_runs retestConcluded_opened
  obtain ⟨c, hc, rfl⟩ := interleaved_of_sequentially hdb
  simp only [decide_eq_true_eq] at hfacts
  obtain ⟨hauthorized, hreadable, -, hlisted, hunlisted⟩ := hfacts
  refine ⟨c, hc, hauthorized, hreadable, fun hagrees => ?_⟩
  have hpage := hagrees.pages .needsAction 1 5
  rw [hunlisted, List.map_eq_nil_iff] at hpage
  rw [hpage] at hlisted
  cases hlisted

/-- The theorem on the same run, in a transaction that has the scope of the work. -/
theorem verification_status_agrees_iff_concluded :
    ∃ c, (system .withoutCipher some).Reachable c ∧
      (playtestOverviewIssues c.db (fun _ => 0) 1 10 20 .needsAction 1 5).map
        (·.issue.verificationStatus) = [.concluded .verified] ∧
      VerificationAgrees (Issues.Scope.start.setWorkManagement 20 10) 0 c.db (fun _ => 0) 1 10
        20 := by
  obtain ⟨db, hdb, hfacts⟩ := reachable_of_runs retestConcluded_opened
  obtain ⟨c, hc, rfl⟩ := interleaved_of_sequentially hdb
  simp only [decide_eq_true_eq] at hfacts
  obtain ⟨hauthorized, hreadable, -, hlisted, -⟩ := hfacts
  exact ⟨c, hc, hlisted, (verification_status_agrees_iff hc (fun _ => 0) _ 0 hauthorized
    hreadable).2 (.inl rfl)⟩

/-! ## Pages and totals -/

/-- The page is a slice of the selected sessions, and it comes with their number, which is what the
summary counts. -/
def ListsSessions (db : Database) (actorId workspaceId workId : Uuid)
    (filters valid : OverviewFilters) (number size : ℕ) : Prop :=
  let rows := scopedSessions db actorId workspaceId workId valid
  ((listOverviewSessions actorId workspaceId workId filters number size).exec db).2 =
      .ok (Aggregates.page size number (rows.insertionSort listedBefore), rows.length) ∧
    ∃ summary, ((readOverview actorId workspaceId workId filters).exec db).2 =
      .ok (valid, summary) ∧ summary.includedSessionCount = rows.length

/-- The page is a slice of the selected issues, and it comes with their number. -/
def ListsIssues (db : Database) (updatedAt : Uuid → Timestamp) (actorId workspaceId workId : Uuid)
    (kind : OverviewKind) (number size : ℕ) : Prop :=
  let rows := orderedIssues db updatedAt actorId workspaceId workId kind
  ((listOverviewIssues updatedAt actorId workspaceId workId kind number size).exec db).2 =
    .ok (Aggregates.page size number rows, rows.length)

/-- After a check that passes the rest runs. -/
theorem requireOverview_bind {α : Type} {Q : α → Database → Database → Prop}
    (haccess : ((requireOverview actorId workspaceId workId).exec db).2 = .ok ())
    (f : Unit → Program α) :
    ((requireOverview actorId workspaceId workId).bind f).Returns Q db db ↔
      (f ()).Returns Q db db := by
  rw [(requireOverview_within (fun _ => rfl) _ _ _).returns_bind]
  constructor
  · rintro ⟨⟨⟩, -, -, h⟩
    exact h
  · intro h
    exact ⟨(), trivial, Tx.exec_eq_ok_iff.1 haccess, h⟩

variable {filters valid : OverviewFilters} {number size : ℕ}

/-- The total of the first row, or zero. -/
theorem listOverviewSessions_ok_iff
    (haccess : ((requireOverview actorId workspaceId workId).exec db).2 = .ok ())
    (hvalid : validatedOverviewFilters filters = some valid) {data : List ScopedSession × ℕ} :
    ((listOverviewSessions actorId workspaceId workId filters number size).exec db).2 = .ok data ↔
      (valid.fits && pageFits number size) = true ∧
        (Aggregates.page size number ((scopedSessions db actorId workspaceId workId
          valid).insertionSort listedBefore), Aggregates.carriedTotal size number
            ((scopedSessions db actorId workspaceId workId valid).insertionSort listedBefore)) =
          data := by
  rw [Tx.exec_eq_ok_iff, listOverviewSessions, hvalid]
  simp only [Tx.bind_eq]
  rw [Tx.returns_bind, Tx.returns_require]
  simp only [Option.some.injEq, exists_eq_left']
  rw [requireOverview_bind haccess, Tx.returns_bind, Tx.returns_ensure, Tx.returns_bind,
    Tx.returns_read]
  refine and_congr_right fun _ => ?_
  rw [playtestOverviewSessions, Aggregates.carriedTotal, List.length_insertionSort]
  simp [Function.comp_def]

theorem listOverviewIssues_ok_iff
    (haccess : ((requireOverview actorId workspaceId workId).exec db).2 = .ok ())
    {kind : OverviewKind} {data : List OverviewIssueData × ℕ} :
    ((listOverviewIssues updatedAt actorId workspaceId workId kind number size).exec db).2 =
        .ok data ↔
      pageFits number size = true ∧
        (Aggregates.page size number (orderedIssues db updatedAt actorId workspaceId workId kind),
          Aggregates.carriedTotal size number
            (orderedIssues db updatedAt actorId workspaceId workId kind)) = data := by
  have hlength : (orderedIssues db updatedAt actorId workspaceId workId kind).length =
      (filteredIssues db actorId workspaceId workId kind).length := by
    rw [orderedIssues, List.length_map, List.length_insertionSort]
  rw [Tx.exec_eq_ok_iff, listOverviewIssues]
  simp only [Tx.bind_eq]
  rw [requireOverview_bind haccess, Tx.returns_bind, Tx.returns_ensure, Tx.returns_bind,
    Tx.returns_read]
  refine and_congr_right fun _ => ?_
  rw [playtestOverviewIssues, Aggregates.carriedTotal, hlength]
  simp [Function.comp_def]

theorem readOverview_ok
    (haccess : ((requireOverview actorId workspaceId workId).exec db).2 = .ok ())
    (hvalid : validatedOverviewFilters filters = some valid) (hfits : valid.fits = true) :
    ((readOverview actorId workspaceId workId filters).exec db).2 =
      .ok (valid, playtestOverviewSummary db actorId workspaceId workId valid) := by
  rw [Tx.exec_eq_ok_iff, readOverview, hvalid]
  simp only [Tx.bind_eq]
  rw [Tx.returns_bind, Tx.returns_require]
  refine ⟨valid, rfl, ?_⟩
  rw [requireOverview_bind haccess, Tx.returns_bind, Tx.returns_ensure]
  exact ⟨hfits, rfl⟩

/-- The page is not beyond the end of the rows, or there are none. -/
def BeginsWithin (number size total : ℕ) : Prop :=
  total = 0 ∨ (number - 1) * size < total

/-- **Overview pages are slices with the right total exactly up to the end.** The bounds are those
of the type `integer`, in which the database takes the page and computes its offset. -/
theorem overview_pages_are_slices (hsize : 1 ≤ size)
    (haccess : ((requireOverview actorId workspaceId workId).exec db).2 = .ok ())
    (hvalid : validatedOverviewFilters filters = some valid) (updatedAt : Uuid → Timestamp)
    (kind : OverviewKind) :
    (ListsSessions db actorId workspaceId workId filters valid number size ↔
      valid.fits = true ∧ pageFits number size = true ∧ BeginsWithin number size
        ((startedSessions db actorId workspaceId workId).countP valid.selects)) ∧
    (ListsIssues db updatedAt actorId workspaceId workId kind number size ↔
      pageFits number size = true ∧ BeginsWithin number size
        (filteredIssues db actorId workspaceId workId kind).length) := by
  have hsorted : ((scopedSessions db actorId workspaceId workId valid).insertionSort
      listedBefore).length = (scopedSessions db actorId workspaceId workId valid).length :=
    List.length_insertionSort _ _
  have hcount : (scopedSessions db actorId workspaceId workId valid).length =
      (startedSessions db actorId workspaceId workId).countP valid.selects := by
    rw [scopedSessions, List.length_map, List.countP_eq_length_filter]
  have hordered : (orderedIssues db updatedAt actorId workspaceId workId kind).length =
      (filteredIssues db actorId workspaceId workId kind).length := by
    rw [orderedIssues, List.length_map, List.length_insertionSort]
  constructor
  · rw [ListsSessions, listOverviewSessions_ok_iff haccess hvalid, Bool.and_eq_true,
      Prod.mk.injEq, ← hsorted, Aggregates.carriedTotal_eq_iff hsize, ← List.length_eq_zero_iff,
      hsorted, hcount]
    constructor
    · rintro ⟨⟨⟨hfits, hpage⟩, -, hwithin⟩, -⟩
      exact ⟨hfits, hpage, hwithin⟩
    · rintro ⟨hfits, hpage, hwithin⟩
      exact ⟨⟨⟨hfits, hpage⟩, rfl, hwithin⟩, _, readOverview_ok haccess hvalid hfits, hcount⟩
  · rw [ListsIssues, listOverviewIssues_ok_iff haccess, Prod.mk.injEq,
      Aggregates.carriedTotal_eq_iff hsize, ← List.length_eq_zero_iff, hordered, BeginsWithin]
    exact and_congr_right fun _ => and_iff_right rfl

/-- The three sessions, with their work and an issue of it. -/
def overviewedWork : Database :=
  { overviewed with
    workspaces := [⟨10, "studio", none, 1, 1, none, none, none, none, none⟩]
    works := [⟨20, 10, "game", "stones", "draft", "calm", 2, 4, 30, 1, none, none, none⟩]
    issues := [⟨60, 10, 20, "slow", .observe, "wait", none, 0, .opened, 1, "key"⟩] }

/-- The third page of two is beyond the end, and it comes with a total of zero. -/
theorem overview_page_beyond_end :
    ((requireOverview 1 10 20).exec overviewedWork).2 = .ok () ∧
      ((readOverview 1 10 20 ⟨none, none, none, none, none⟩).exec overviewedWork).2.map
        (·.2.includedSessionCount) = .ok 3 ∧
      ((listOverviewSessions 1 10 20 ⟨none, none, none, none, none⟩ 3 2).exec
        overviewedWork).2 = .ok ([], 0) ∧
      (orderedIssues overviewedWork (fun _ => 0) 1 10 20 .needsAction).length = 1 ∧
      ((listOverviewIssues (fun _ => 0) 1 10 20 .needsAction 2 1).exec overviewedWork).2 =
        .ok ([], 0) := by
  decide +kernel

/-- The theorem at the second page, which has the last row. -/
theorem overview_pages_are_slices_last :
    ListsSessions overviewedWork 1 10 20 ⟨none, none, none, none, none⟩
        ⟨none, none, none, none, none⟩ 2 2 ∧
      ¬ListsSessions overviewedWork 1 10 20 ⟨none, none, none, none, none⟩
        ⟨none, none, none, none, none⟩ 3 2 ∧
      ListsIssues overviewedWork (fun _ => 0) 1 10 20 .needsAction 1 2 ∧
      ¬ListsIssues overviewedWork (fun _ => 0) 1 10 20 .needsAction 3 2 := by
  have haccess : ((requireOverview 1 10 20).exec overviewedWork).2 = .ok () := by decide +kernel
  have hlists := fun number : ℕ => @overview_pages_are_slices overviewedWork 1 10 20
    ⟨none, none, none, none, none⟩ ⟨none, none, none, none, none⟩ number 2 (by decide) haccess
    (by decide +kernel) (fun _ => 0) .needsAction
  exact ⟨(hlists 2).1.2 ⟨rfl, rfl, .inr (by decide)⟩,
    fun h => absurd ((hlists 3).1.1 h).2.2 (by rintro (h | h) <;> revert h <;> decide),
    (hlists 1).2.2 ⟨rfl, .inr (by decide)⟩,
    fun h => absurd ((hlists 3).2.1 h).2 (by rintro (h | h) <;> revert h <;> decide)⟩

end Playtests

end Rulefolio
