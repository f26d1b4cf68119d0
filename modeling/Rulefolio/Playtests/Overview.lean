import Mathlib.Data.String.Basic
import Rulefolio.Library.Aggregates
import Rulefolio.Library.Sequential
import Rulefolio.Playtests.Service

/-!
# The overview of a work's playtests

Two functions of the database answer for the overview page: `playtest_overview_summary` counts the
started sessions a filter selects, and `playtest_overview_sessions` lists them page by page. Both
begin with the same two subqueries, `authorized` and `scoped_sessions`, written out twice with the
same text; here they are `authorized` and `scopedSessions`.

A filter on a nullable column leaves out the sessions where the column is null, so a bound on the
headcount makes the count of missing headcounts zero, and the coverage is then all there is.

## Main definitions

* `scopedSessions`, `playtestOverviewSummary`, `playtestOverviewSessions` — the queries.
* `readOverview`, `listOverviewSessions` — the service functions over them.

## Main results

* `overview_partitions` — the summary counts every listed session once.
* `readOverview_returns`, `listOverviewSessions_returns` — the services return what the queries do.
-/

namespace Rulefolio

namespace Playtests

/-! ## The queries -/

/-- `OverviewFilters`. -/
structure OverviewFilters where
  scheduledFrom : Option RequestedTime
  scheduledBefore : Option RequestedTime
  actualHeadcountMin : Option ℤ
  actualHeadcountMax : Option ℤ
  actualPlayMode : Option String
  deriving DecidableEq, Repr

/-- `BTRIM`, which removes blanks only, where `str.strip` removes every kind of white space. -/
def btrim (s : String) : String :=
  String.ofList (((s.toList.dropWhile (· == ' ')).reverse.dropWhile (· == ' ')).reverse)

/-- The columns `scoped_sessions` keeps. -/
structure ScopedSession where
  id : Uuid
  scheduledAt : Timestamp
  actualHeadcount : Option ℕ
  actualDurationMinutes : Option ℕ
  completionStatus : Option CompletionStatus
  actualPlayMode : Option String
  hasTemporaryVariant : Bool
  deriving DecidableEq, Repr

/-- `authorized`: the actor is a member of the workspace with a role in the work. -/
def authorized (db : Database) (actorId workspaceId workId : Uuid) : Bool :=
  db.members.any fun member =>
    member.workspaceId == workspaceId && member.accountId == actorId &&
      db.accesses.any fun access => access.workspaceId == member.workspaceId &&
        access.accountId == member.accountId && access.workId == workId

/-- The started sessions of the work, for an actor who may see them. -/
def startedSessions (db : Database) (actorId workspaceId workId : Uuid) : List PlaytestSession :=
  db.sessions.filter fun item =>
    authorized db actorId workspaceId workId && item.workspaceId == workspaceId &&
      item.workId == workId && item.status == .started

/-- The `WHERE` clauses of the filter. A comparison with null is not true. -/
def OverviewFilters.selects (filters : OverviewFilters) (item : PlaytestSession) : Bool :=
  filters.scheduledFrom.all (fun t => t.instant ≤ item.scheduledAt) &&
    filters.scheduledBefore.all (fun t => item.scheduledAt < t.instant) &&
    filters.actualHeadcountMin.all (fun n => item.actualHeadcount.any fun h => n ≤ (h : ℤ)) &&
    filters.actualHeadcountMax.all (fun n => item.actualHeadcount.any fun h => (h : ℤ) ≤ n) &&
    filters.actualPlayMode.all fun mode => item.actualPlayMode == some mode

/-- `has_temporary_variant`: a reason for a changed material, or an observation of a variant. -/
def hasTemporaryVariant (db : Database) (item : PlaytestSession) : Bool :=
  (item.actualMaterialChangeReason.any fun reason => !(btrim reason).isEmpty) ||
    db.observations.any fun observation =>
      observation.sessionId == item.id && observation.kind == .temporaryVariant

/-- `scoped_sessions`, one row. -/
def scopedSession (db : Database) (item : PlaytestSession) : ScopedSession where
  id := item.id
  scheduledAt := item.scheduledAt
  actualHeadcount := item.actualHeadcount
  actualDurationMinutes := item.actualDurationMinutes
  completionStatus := item.completionStatus
  actualPlayMode := item.actualPlayMode
  hasTemporaryVariant := hasTemporaryVariant db item

/-- `scoped_sessions`. -/
def scopedSessions (db : Database) (actorId workspaceId workId : Uuid)
    (filters : OverviewFilters) : List ScopedSession :=
  ((startedSessions db actorId workspaceId workId).filter filters.selects).map (scopedSession db)

/-- An entry of `headcount_coverage`. -/
structure HeadcountCoverage where
  actualHeadcount : ℕ
  completedCount : ℕ
  interruptedCount : ℕ
  unrecordedCompletionCount : ℕ
  temporaryVariantCount : ℕ
  deriving DecidableEq, Repr

/-- The row `coverage` has for one headcount. -/
def headcountCoverage (rows : List ScopedSession) (headcount : ℕ) : HeadcountCoverage :=
  let group := rows.filter fun r => r.actualHeadcount == some headcount
  { actualHeadcount := headcount
    completedCount := group.countP (·.completionStatus == some .completed)
    interruptedCount := group.countP (·.completionStatus == some .interrupted)
    unrecordedCompletionCount := group.countP (·.completionStatus.isNone)
    temporaryVariantCount := group.countP (·.hasTemporaryVariant) }

/-- What `playtest_overview_summary` returns. -/
structure OverviewSummary where
  includedSessionCount : ℕ
  missingActualHeadcountCount : ℕ
  missingActualDurationCount : ℕ
  missingCompletionStatusCount : ℕ
  missingActualPlayModeCount : ℕ
  temporaryVariantCount : ℕ
  headcountCoverage : List HeadcountCoverage
  playModes : List String
  deriving DecidableEq, Repr

/-- The aggregates over the selected rows. -/
def summarise (rows : List ScopedSession) (playModes : List String) : OverviewSummary where
  includedSessionCount := rows.length
  missingActualHeadcountCount := rows.countP (·.actualHeadcount.isNone)
  missingActualDurationCount := rows.countP (·.actualDurationMinutes.isNone)
  missingCompletionStatusCount := rows.countP (·.completionStatus.isNone)
  missingActualPlayModeCount := rows.countP (·.actualPlayMode.isNone)
  temporaryVariantCount := rows.countP (·.hasTemporaryVariant)
  headcountCoverage :=
    (Aggregates.groupKeys (·.actualHeadcount) rows).map (headcountCoverage rows)
  playModes := playModes

/-- `playtest_overview_summary`. The play modes are those of all started sessions, whatever the
filter. -/
def playtestOverviewSummary (db : Database) (actorId workspaceId workId : Uuid)
    (filters : OverviewFilters) : OverviewSummary :=
  summarise (scopedSessions db actorId workspaceId workId filters)
    (Aggregates.groupKeys (·.actualPlayMode) (startedSessions db actorId workspaceId workId))

/-- `ORDER BY scheduled_at DESC, id DESC`. -/
def listedBefore (r r' : ScopedSession) : Prop :=
  r'.scheduledAt < r.scheduledAt ∨ r.scheduledAt = r'.scheduledAt ∧ r'.id ≤ r.id

instance : DecidableRel listedBefore := fun _ _ =>
  inferInstanceAs (Decidable (_ ∨ _))

/-- A row of `playtest_overview_sessions`: `total` is the count over the whole selection. -/
structure ListedSession where
  total : ℕ
  session : ScopedSession
  deriving DecidableEq, Repr

/-- `playtest_overview_sessions`. Pages are counted from one. -/
def playtestOverviewSessions (db : Database) (actorId workspaceId workId : Uuid)
    (filters : OverviewFilters) (number size : ℕ) : List ListedSession :=
  let rows := scopedSessions db actorId workspaceId workId filters
  (Aggregates.page size number (rows.insertionSort listedBefore)).map fun r =>
    { total := rows.length
      session := r }

/-! ## The services -/

/-- `_validated_overview_filters`. -/
def validatedOverviewFilters (filters : OverviewFilters) : Option OverviewFilters :=
  if filters.scheduledFrom.any (!·.hasZone) || filters.scheduledBefore.any (!·.hasZone) ||
      filters.actualHeadcountMin.any (· < 0) || filters.actualHeadcountMax.any (· < 0) ||
      filters.actualHeadcountMin.any (fun least => filters.actualHeadcountMax.any (· < least)) then
    none
  else
    (optionalText 160 filters.actualPlayMode).map fun actualPlayMode =>
      { filters with actualPlayMode := actualPlayMode }

/-- What `_require_overview` makes of the exceptions of `app.works.service`. -/
def ofWorkAccess : ServiceError → ServiceError
  | .workUnavailable => .playtestOverviewUnavailable
  | .workOperationRetryable => .playtestOperationRetryable
  | e => e

/-- `_require_overview`. -/
def requireOverview (actorId workspaceId workId : Uuid) : Program Unit :=
  Tx.mapError ofWorkAccess (Works.ensureWorkAccess actorId workspaceId workId)

/-- The database takes the bounds of the headcount as values of type `integer`. -/
def OverviewFilters.fits (filters : OverviewFilters) : Bool :=
  filters.actualHeadcountMin.all fitsInteger && filters.actualHeadcountMax.all fitsInteger

/-- The database takes the number and the size of a page as values of type `integer`, and it
computes the offset in them. -/
def pageFits (number size : ℕ) : Bool :=
  fitsInteger number && fitsInteger size && fitsInteger ((number - 1) * size : ℕ)

/-- `read_overview`, with the filter it answers for. -/
def readOverview (actorId workspaceId workId : Uuid) (filters : OverviewFilters) :
    Program (OverviewFilters × OverviewSummary) := do
  let filters ← Tx.require (validatedOverviewFilters filters) .playtestOverviewInvalid
  requireOverview actorId workspaceId workId
  Tx.ensure filters.fits .playtestOperationRetryable
  let payload ← Tx.read fun db => playtestOverviewSummary db actorId workspaceId workId filters
  return (filters, payload)

/-- `list_overview_sessions`: a page, and the total its first row carries. -/
def listOverviewSessions (actorId workspaceId workId : Uuid) (filters : OverviewFilters)
    (number size : ℕ) : Program (List ScopedSession × ℕ) := do
  let filters ← Tx.require (validatedOverviewFilters filters) .playtestOverviewInvalid
  requireOverview actorId workspaceId workId
  Tx.ensure (filters.fits && pageFits number size) .playtestOperationRetryable
  let rows ← Tx.read fun db =>
    playtestOverviewSessions db actorId workspaceId workId filters number size
  return (rows.map (·.session), (rows.head?.map (·.total)).getD 0)

theorem requireOverview_within {F : Database → Database → Prop} (hF : ∀ s, F s s)
    (actorId workspaceId workId : Uuid) :
    (requireOverview actorId workspaceId workId).Within F fun _ => True :=
  Tx.Within.mapError (Works.ensureWorkAccess_within hF actorId workspaceId workId)

variable {db : Database} {actorId workspaceId workId : Uuid} {filters : OverviewFilters}

/-- `read_overview` returns the summary for the filter as it has been normalised. -/
theorem readOverview_returns {data : OverviewFilters × OverviewSummary}
    (h : ((readOverview actorId workspaceId workId filters).exec db).2 = .ok data) :
    validatedOverviewFilters filters = some data.1 ∧
      data.2 = playtestOverviewSummary db actorId workspaceId workId data.1 := by
  have hleads : (readOverview actorId workspaceId workId filters).Leads (fun _ => True)
      (fun data _ => validatedOverviewFilters filters = some data.1 ∧
        data.2 = playtestOverviewSummary db actorId workspaceId workId data.1) db := by
    refine Tx.Leads.require_bind fun valid hvalid => ?_
    refine Tx.Within.leads_bind (F := Eq) (fun _ => rfl) (fun _ _ _ => Eq.trans)
      (requireOverview_within (fun _ => rfl) _ _ _) fun _ v _ hv => ?_
    obtain rfl := hv
    exact Tx.Leads.ensure_bind fun _ => ⟨hvalid, rfl⟩
  obtain ⟨-, hdata⟩ := hleads.exec_returns h
  exact hdata

/-- `list_overview_sessions` returns a page for the same filter. -/
theorem listOverviewSessions_returns {number size : ℕ} {data : List ScopedSession × ℕ}
    (h : ((listOverviewSessions actorId workspaceId workId filters number size).exec db).2 =
      .ok data) :
    ∃ valid, validatedOverviewFilters filters = some valid ∧ data.1 =
      (playtestOverviewSessions db actorId workspaceId workId valid number size).map
        (·.session) := by
  have hleads : (listOverviewSessions actorId workspaceId workId filters number size).Leads
      (fun _ => True) (fun data _ => ∃ valid, validatedOverviewFilters filters = some valid ∧
        data.1 = (playtestOverviewSessions db actorId workspaceId workId valid number size).map
          (·.session)) db := by
    refine Tx.Leads.require_bind fun valid hvalid => ?_
    refine Tx.Within.leads_bind (F := Eq) (fun _ => rfl) (fun _ _ _ => Eq.trans)
      (requireOverview_within (fun _ => rfl) _ _ _) fun _ v _ hv => ?_
    obtain rfl := hv
    exact Tx.Leads.ensure_bind fun _ => ⟨valid, hvalid, rfl⟩
  obtain ⟨-, hdata⟩ := hleads.exec_returns h
  exact hdata

/-! ## The summary and the list -/

/-- The entry a session is counted in. -/
def HeadcountCoverage.covers (entry : HeadcountCoverage) (r : ScopedSession) : Bool :=
  r.actualHeadcount == some entry.actualHeadcount

/-- The summary is a partition of the rows: they are counted by what they miss, and those that miss
no headcount by their headcount and how they ended. -/
structure OverviewSummary.Partitions (summary : OverviewSummary) (rows : List ScopedSession) :
    Prop where
  included : summary.includedSessionCount = rows.length
  split : summary.includedSessionCount = summary.missingActualHeadcountCount +
    (summary.headcountCoverage.map fun entry =>
      entry.completedCount + entry.interruptedCount + entry.unrecordedCompletionCount).sum
  increasing : (summary.headcountCoverage.map (·.actualHeadcount)).Pairwise (· < ·)
  completed : ∀ entry ∈ summary.headcountCoverage, entry.completedCount =
    rows.countP fun r => entry.covers r && r.completionStatus == some .completed
  interrupted : ∀ entry ∈ summary.headcountCoverage, entry.interruptedCount =
    rows.countP fun r => entry.covers r && r.completionStatus == some .interrupted
  unrecorded : ∀ entry ∈ summary.headcountCoverage, entry.unrecordedCompletionCount =
    rows.countP fun r => entry.covers r && r.completionStatus.isNone
  variants : ∀ entry ∈ summary.headcountCoverage, entry.temporaryVariantCount =
    rows.countP fun r => entry.covers r && r.hasTemporaryVariant
  missingHeadcount :
    summary.missingActualHeadcountCount = rows.countP (·.actualHeadcount.isNone)
  missingDuration :
    summary.missingActualDurationCount = rows.countP (·.actualDurationMinutes.isNone)
  missingCompletion :
    summary.missingCompletionStatusCount = rows.countP (·.completionStatus.isNone)
  missingPlayMode : summary.missingActualPlayModeCount = rows.countP (·.actualPlayMode.isNone)
  allVariants : summary.temporaryVariantCount = rows.countP (·.hasTemporaryVariant)
  once : ∀ r ∈ rows, (summary.headcountCoverage.filter (·.covers r)).length ≤ 1

/-- A completion status is one of two or absent, so a group is the sum of its three counts. -/
theorem headcountCoverage_total (rows : List ScopedSession) (headcount : ℕ) :
    (headcountCoverage rows headcount).completedCount +
        (headcountCoverage rows headcount).interruptedCount +
        (headcountCoverage rows headcount).unrecordedCompletionCount =
      rows.countP fun r => r.actualHeadcount == some headcount && true := by
  simp only [headcountCoverage, Bool.and_true, List.countP_eq_length_filter (l := rows)]
  induction rows.filter fun r => r.actualHeadcount == some headcount with
  | nil => rfl
  | cons r group ih =>
    simp only [List.countP_cons, List.length_cons]
    rcases hstatus : r.completionStatus with _ | _ | _ <;> simp <;> omega

theorem summarise_partitions (rows : List ScopedSession) (playModes : List String) :
    (summarise rows playModes).Partitions rows := by
  have hentry : ∀ entry ∈ (summarise rows playModes).headcountCoverage,
      entry = headcountCoverage rows entry.actualHeadcount := by
    intro entry hentry
    obtain ⟨headcount, -, rfl⟩ := List.mem_map.1 hentry
    rfl
  refine
    { included := rfl
      split := ?_
      increasing := ?_
      completed := fun entry he => ?_
      interrupted := fun entry he => ?_
      unrecorded := fun entry he => ?_
      variants := fun entry he => ?_
      missingHeadcount := rfl
      missingDuration := rfl
      missingCompletion := rfl
      missingPlayMode := rfl
      allVariants := rfl
      once := fun r _ => ?_ }
  · have hsum := Aggregates.sum_groupKeys (·.actualHeadcount) (fun _ => true) rows
    simp only [summarise, List.map_map, Function.comp_def, headcountCoverage_total]
    rw [hsum, List.length_eq_countP_add_countP fun r : ScopedSession => r.actualHeadcount.isNone]
    refine congrArg _ (List.countP_congr fun r _ => ?_)
    cases r.actualHeadcount <;> simp
  · simpa [summarise, headcountCoverage, Function.comp_def] using
      Aggregates.groupKeys_strictMono (·.actualHeadcount) rows
  · rw [hentry entry he]
    simp [headcountCoverage, HeadcountCoverage.covers, List.countP_filter, Bool.and_comm]
  · rw [hentry entry he]
    simp [headcountCoverage, HeadcountCoverage.covers, List.countP_filter, Bool.and_comm]
  · rw [hentry entry he]
    simp [headcountCoverage, HeadcountCoverage.covers, List.countP_filter, Bool.and_comm]
  · rw [hentry entry he]
    simp [headcountCoverage, HeadcountCoverage.covers, List.countP_filter, Bool.and_comm]
  · have hone := Aggregates.length_filter_groupKeys_le_one (·.actualHeadcount) rows r
    rw [summarise, List.filter_map, List.length_map]
    exact hone

/-- The order of the rows does not matter. -/
theorem OverviewSummary.Partitions.perm {summary : OverviewSummary}
    {rows rows' : List ScopedSession} (h : summary.Partitions rows) (hperm : rows.Perm rows') :
    summary.Partitions rows' where
  included := h.included.trans hperm.length_eq
  split := h.split
  increasing := h.increasing
  completed entry he := (h.completed entry he).trans (hperm.countP_eq _)
  interrupted entry he := (h.interrupted entry he).trans (hperm.countP_eq _)
  unrecorded entry he := (h.unrecorded entry he).trans (hperm.countP_eq _)
  variants entry he := (h.variants entry he).trans (hperm.countP_eq _)
  missingHeadcount := h.missingHeadcount.trans (hperm.countP_eq _)
  missingDuration := h.missingDuration.trans (hperm.countP_eq _)
  missingCompletion := h.missingCompletion.trans (hperm.countP_eq _)
  missingPlayMode := h.missingPlayMode.trans (hperm.countP_eq _)
  allVariants := h.allVariants.trans (hperm.countP_eq _)
  once r hr := h.once r (hperm.mem_iff.2 hr)

/-- The sessions listed on the pages up to `pages`. -/
def listedSessions (db : Database) (actorId workspaceId workId : Uuid) (filters : OverviewFilters)
    (pages size : ℕ) : List ScopedSession :=
  (List.range pages).flatMap fun i =>
    (playtestOverviewSessions db actorId workspaceId workId filters (i + 1) size).map (·.session)

/-- The pages up to an empty one list the selection, in its order. -/
theorem listedSessions_eq {db : Database} {actorId workspaceId workId : Uuid}
    {filters : OverviewFilters} {pages size : ℕ} (hsize : 0 < size)
    (hlast : playtestOverviewSessions db actorId workspaceId workId filters (pages + 1) size = []) :
    listedSessions db actorId workspaceId workId filters pages size =
      (scopedSessions db actorId workspaceId workId filters).insertionSort listedBefore := by
  have hnil := List.map_eq_nil_iff.1 hlast
  rw [← Aggregates.flatMap_page_of_nil hsize hnil, listedSessions]
  refine List.flatMap_congr fun i _ => ?_
  simp [playtestOverviewSessions, Function.comp_def]

/-- **The summary partitions the sessions the list shows**, whatever the filter: the pages are
read up to an empty one. -/
theorem overview_partitions (db : Database) (actorId workspaceId workId : Uuid)
    (filters : OverviewFilters) {pages size : ℕ} (hsize : 0 < size)
    (hlast : playtestOverviewSessions db actorId workspaceId workId filters (pages + 1) size = []) :
    (playtestOverviewSummary db actorId workspaceId workId filters).Partitions
      (listedSessions db actorId workspaceId workId filters pages size) := by
  rw [listedSessions_eq hsize hlast]
  exact (summarise_partitions _ _).perm (List.perm_insertionSort _ _).symm

/-! ### An overview of three sessions -/

/-- A started session of the work `20`. -/
def overviewSession (id : Uuid) (scheduledAt : Timestamp) (headcount : Option ℕ)
    (completion : Option CompletionStatus) (changeReason : Option String) : PlaytestSession where
  id := id
  planId := 30
  workspaceId := 10
  workId := 20
  scheduledAt := scheduledAt
  location := "table"
  capacity := 4
  status := .started
  revision := 3
  startedAt := some scheduledAt
  observationGoals := "pace"
  recordingMethod := "notes"
  workName := "game"
  ruleName := "rules"
  ruleDescription := none
  ruleContent := "play"
  actualHeadcount := headcount
  actualDurationMinutes := none
  completionStatus := completion
  actualPlayMode := some "team"
  actualMaterialRecorded := changeReason.isSome
  actualRuleName := none
  actualRuleDescription := none
  actualRuleContent := none
  actualMaterialChangeReason := changeReason

/-- Two sessions of four players, one of them unrecorded, and one without a headcount. The reason
of one is made of blanks. -/
def overviewed : Database :=
  { Database.empty with
    members := [⟨10, 1⟩]
    accesses := [⟨20, 10, 1, .collaborator⟩]
    sessions := [overviewSession 40 5 (some 4) (some .interrupted) (some "  "),
      overviewSession 41 6 none (some .completed) (some "cards lost"),
      overviewSession 42 7 (some 4) none none]
    observations := [⟨50, 42, .temporaryVariant, "open hands", 1⟩] }

example : (playtestOverviewSummary overviewed 1 10 20
    ⟨none, none, none, none, none⟩).headcountCoverage = [⟨4, 0, 1, 1, 1⟩] := by decide

/-- The theorem on three sessions, in pages of two. -/
theorem overview_partitions_overviewed :
    (playtestOverviewSummary overviewed 1 10 20 ⟨none, none, none, none, none⟩).Partitions
      (listedSessions overviewed 1 10 20 ⟨none, none, none, none, none⟩ 2 2) ∧
    (listedSessions overviewed 1 10 20 ⟨none, none, none, none, none⟩ 2 2).map (·.id) =
      [42, 41, 40] :=
  ⟨overview_partitions overviewed 1 10 20 ⟨none, none, none, none, none⟩ (by decide) (by decide),
    by decide⟩

end Playtests

end Rulefolio
