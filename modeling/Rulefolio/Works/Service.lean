import Rulefolio.Notifications.Transactions
import Rulefolio.Text

/-!
# `app.works.service`

Works, the roles of their accounts, and the snapshot a playtest session takes of a work's rules.
Three operations write an access: `set_work_access`, `revoke_work_access` and `create_work`. The
first two go through `_prepare_manager_write`, which locks the rows of both members and then every
access of the work, and only then looks at the roles.

## Main definitions

* `prepareManagerWrite` — the checks and locks of a manager's write.
* `createWork`, `updateWork`, `updateRuleMaterials`, `setWorkAccess`, `revokeWorkAccess`.
* `snapshotCurrentRuleMaterialsForPlaytest`.
-/

namespace Rulefolio

namespace Works

/-! ## Checks -/

/-- `_load_visible_work`. -/
def loadVisibleWork (workspaceId workId : Uuid) : Program Work := do
  let work ← Tx.read fun db : Database =>
    db.works.find? fun w => w.id == workId && w.workspaceId == workspaceId
  Tx.require work .workUnavailable

/-- `_require_workspace_member`, with `writable=True`. -/
def requireWorkspaceMember (workspaceId accountId : Uuid) : Program Unit := do
  Workspaces.ensureWritable workspaceId
  let isMember ← Workspaces.hasWorkspaceMember workspaceId accountId
  Tx.ensure isMember .worksWorkspaceUnavailable

/-- `_require_manager`, and `ensure_work_management`. -/
def requireManager (workspaceId workId actorId : Uuid) : Program Work := do
  let work ← loadVisibleWork workspaceId workId
  let role ← Workspaces.workAccessRole work.id actorId
  Tx.ensure (role == some .maintainer) .workManagementForbidden
  return work

/-- `ensure_work_access`. -/
def ensureWorkAccess (actorId workspaceId workId : Uuid) : Program Unit := do
  let work ← loadVisibleWork workspaceId workId
  let role ← Workspaces.workAccessRole work.id actorId
  Tx.ensure role.isSome .workUnavailable

/-- `ensure_playtest_management`. -/
def ensurePlaytestManagement (actorId workspaceId workId : Uuid) : Program Work := do
  let work ← loadVisibleWork workspaceId workId
  let role ← Workspaces.workAccessRole work.id actorId
  Tx.ensure (role == some .maintainer || role == some .organizer) .workManagementForbidden
  return work

/-- Whether the account holds the role of a maintainer in one of these rows. -/
def isMaintainer (accountId : Uuid) (accesses : List WorkAccess) : Bool :=
  (accesses.find? (·.accountId == accountId)).any (·.role == .maintainer)

/-- `sum(access.role == MAINTAINER for access in accesses)`. -/
def maintainers (accesses : List WorkAccess) : ℕ :=
  accesses.countP (·.role == .maintainer)

/-- `_prepare_manager_write`. -/
def prepareManagerWrite (workspaceId workId actorId : Uuid) (targetAccountId : Option Uuid) :
    Program (Work × List WorkAccess) := do
  Workspaces.ensureWritable workspaceId
  let work ← requireManager workspaceId workId actorId
  let memberIds ← Workspaces.lockWorkMembers work.workspaceId
    (actorId :: targetAccountId.toList)
  Tx.ensure (memberIds.contains actorId) .workManagementForbidden
  Tx.ensure (targetAccountId.all (memberIds.contains ·)) .workAccessMemberUnavailable
  let accesses ← Workspaces.lockWorkAccesses work.id
  Tx.ensure (isMaintainer actorId accesses) .workManagementForbidden
  return (work, accesses)

/-! ## Operations -/

/-- What `create_work` and `update_work` are given. -/
structure WorkValues where
  name : String
  description : String
  creativeStage : String
  targetExperience : String
  minPlayers : ℤ
  maxPlayers : ℤ
  estimatedDurationMinutes : ℤ
  deriving DecidableEq, Repr

/-- `_validate_work_values`; the caller strips the texts. -/
def WorkValues.valid (v : WorkValues) : Bool :=
  !(strip v.name).isEmpty && !(strip v.description).isEmpty && !(strip v.creativeStage).isEmpty &&
    !(strip v.targetExperience).isEmpty && 0 < v.minPlayers && v.minPlayers ≤ v.maxPlayers &&
    0 < v.estimatedDurationMinutes

/-- The work row `create_work` adds. -/
def WorkValues.toWork (v : WorkValues) (id workspaceId : Uuid) : Work where
  id := id
  workspaceId := workspaceId
  name := strip v.name
  description := strip v.description
  creativeStage := strip v.creativeStage
  targetExperience := strip v.targetExperience
  minPlayers := v.minPlayers.toNat
  maxPlayers := v.maxPlayers.toNat
  estimatedDurationMinutes := v.estimatedDurationMinutes.toNat
  revision := 1
  ruleName := none
  ruleDescription := none
  ruleContent := none

/-- What database errors become. -/
def retryable (e : ServiceError) : ServiceError :=
  if e = .sqlalchemyError then .workOperationRetryable else e

/-- `create_work`. -/
def createWork (uuids : Uuids) (actorId workspaceId : Uuid) (values : WorkValues) :
    Program Unit :=
  Tx.mapError retryable do
    Tx.ensure values.valid .valueError
    requireWorkspaceMember workspaceId actorId
    let work := values.toWork uuids.here workspaceId
    insertRow [.work work.id] (fun db => !db.works.any (·.id == work.id))
      (exitAllowsWrite none workspaceId) fun db => { db with works := work :: db.works }
    let memberIds ← Workspaces.lockWorkMembers workspaceId [actorId]
    Tx.ensure (memberIds.contains actorId) .worksWorkspaceUnavailable
    Workspaces.addWorkAccess work.id workspaceId actorId .maintainer
    Tx.commitNow

/-- `UPDATE works … WHERE id = … AND revision = … RETURNING`, which locks the row it changes and
raises `WorkRevisionConflict` when there is none. -/
def updateRevision (workId : Uuid) (expectedRevision : ℤ) (change : Work → Work) :
    Program Unit := do
  let isCurrent := fun w : Work => w.id == workId && (w.revision : ℤ) == expectedRevision
  Tx.lockAll .noKeyUpdate [.work workId]
  Tx.writeIf
    (fun db => db.works.any fun w => isCurrent w && exitAllowsWrite none w.workspaceId db)
    .workRevisionConflict fun _ db => { db with
      works := Table.update isCurrent (fun w => { change w with revision := w.revision + 1 })
        db.works }

/-- `update_work`. -/
def updateWork (actorId workspaceId workId : Uuid) (values : WorkValues) (expectedRevision : ℤ) :
    Program Unit :=
  Tx.mapError retryable do
    Tx.ensure values.valid .valueError
    let (work, _) ← prepareManagerWrite workspaceId workId actorId none
    updateRevision work.id expectedRevision fun w => { w with
      name := strip values.name
      description := strip values.description
      creativeStage := strip values.creativeStage
      targetExperience := strip values.targetExperience
      minPlayers := values.minPlayers.toNat
      maxPlayers := values.maxPlayers.toNat
      estimatedDurationMinutes := values.estimatedDurationMinutes.toNat }
    Tx.commitNow

/-- The files a work can use as its material. -/
def isReadyMaterial (workspaceId workId : Uuid) (f : StoredFile) : Bool :=
  f.workspaceId == workspaceId && f.workId == workId && f.kind == .material && f.status == .ready

/-- `files.materials.selected_ready_materials`. -/
def selectedReadyMaterials (workspaceId workId : Uuid) (fileIds : List Uuid) :
    Program (List StoredFile) :=
  if fileIds.isEmpty then return [] else
    Tx.read fun db => db.files.filter fun f =>
      fileIds.contains f.id && isReadyMaterial workspaceId workId f

/-- `update_rule_materials`. -/
def updateRuleMaterials (actorId workspaceId workId : Uuid) (ruleName : String)
    (ruleDescription : Option String) (ruleContent : String) (materialFileIds : List Uuid)
    (expectedRevision : ℤ) : Program Unit :=
  Tx.mapError retryable do
    Tx.ensure (!(strip ruleName).isEmpty && !(strip ruleContent).isEmpty) .valueError
    let selectedIds := materialFileIds.dedup
    let (work, _) ← prepareManagerWrite workspaceId workId actorId none
    let selected ← selectedReadyMaterials workspaceId work.id selectedIds
    Tx.ensure (selected.length == selectedIds.length) .materialSelectionInvalid
    updateRevision work.id expectedRevision fun w => { w with
      ruleName := some (strip ruleName)
      ruleDescription := ruleDescription.bind fun d => if d.isEmpty then none else some (strip d)
      ruleContent := some (strip ruleContent) }
    Tx.write fun v db => { db with
      workMaterials := Table.delete (fun m => m.workId == work.id && exitAllowsWorkWrite work.id v)
        db.workMaterials }
    insertRows (selected.map fun f => ⟨work.id, f.id⟩) (exitAllowsWorkWrite work.id)
      fun rows db => { db with workMaterials := rows ++ db.workMaterials }
    Tx.commitNow

/-- `set_work_access`. -/
def setWorkAccess (now : Timestamp) (actorId workspaceId workId accountId : Uuid)
    (role : WorkRole) : Program Unit :=
  Tx.mapError retryable do
    let (work, accesses) ← prepareManagerWrite workspaceId workId actorId (some accountId)
    match accesses.find? (·.accountId == accountId) with
    | none => do
      Workspaces.addWorkAccess work.id work.workspaceId accountId role
      Tx.commitNow
    | some access => do
      Tx.ensure (!(access.role == .maintainer && role != .maintainer && maintainers accesses == 1))
        .workLastMaintainerRequired
      if access.role ≠ role then do
        if access.role = .maintainer ∧ role ≠ .maintainer then
          Notifications.endAll none now (.deleteWorkAccessTodos accountId work.id)
        Workspaces.updateWorkAccessRole work.id accountId role
      Tx.commitNow

/-- `revoke_work_access`. -/
def revokeWorkAccess (now : Timestamp) (actorId workspaceId workId accountId : Uuid) :
    Program Unit :=
  Tx.mapError retryable do
    let (work, accesses) ← prepareManagerWrite workspaceId workId actorId (some accountId)
    let access ← Tx.require (accesses.find? (·.accountId == accountId)) .workAccessUnavailable
    Tx.ensure (!(access.role == .maintainer && maintainers accesses == 1))
      .workLastMaintainerRequired
    Notifications.endAll none now (.deleteWorkAccessTodos accountId work.id)
    Workspaces.deleteWorkAccess work.id accountId
    Tx.commitNow

/-! ## The rules a session is played by -/

/-- `PlaytestRuleSnapshot`. -/
structure PlaytestRuleSnapshot where
  workName : String
  ruleName : String
  ruleDescription : Option String
  ruleContent : String
  materials : List StoredFile
  deriving DecidableEq, Repr

/-- The ready materials with these identifiers, one query each. -/
def readMaterials (workspaceId workId : Uuid) : List Uuid → Program (List StoredFile)
  | [] => return []
  | fileId :: rest => do
    let file ← Tx.read fun db : Database =>
      db.files.find? fun f => f.id == fileId && isReadyMaterial workspaceId workId f
    let file ← Tx.require file .materialSelectionInvalid
    let files ← readMaterials workspaceId workId rest
    return file :: files

/-- `snapshot_current_rule_materials_for_playtest`. The source sorts the materials by age for
display. -/
def snapshotCurrentRuleMaterialsForPlaytest (actorId workspaceId workId : Uuid)
    (materialFileIds : List Uuid) : Program PlaytestRuleSnapshot :=
  Tx.mapError retryable do
    Tx.ensure (!materialFileIds.isEmpty) .materialSelectionInvalid
    let _ ← ensurePlaytestManagement actorId workspaceId workId
    let work ← Tx.selectForUpdate (fun w : Work => .work w.id) fun db : Database =>
      db.works.find? fun w => w.id == workId && w.workspaceId == workspaceId &&
        exitAllowsWrite none workspaceId db
    let work ← Tx.require work .materialSelectionInvalid
    let ruleName ← Tx.require work.ruleName .materialSelectionInvalid
    let ruleContent ← Tx.require work.ruleContent .materialSelectionInvalid
    Tx.ensure (!(strip ruleName).isEmpty && !(strip ruleContent).isEmpty) .materialSelectionInvalid
    let currentIds ← Tx.read fun db : Database =>
      (db.workMaterials.filter (·.workId == work.id)).map (·.fileId)
    Tx.ensure (materialFileIds.all (currentIds.contains ·)) .materialSelectionInvalid
    let files ← readMaterials workspaceId workId materialFileIds
    return ⟨work.name, ruleName, work.ruleDescription, ruleContent, files⟩

/-! ## The reads change nothing -/

variable {F : Database → Database → Prop}

theorem loadVisibleWork_within (hF : ∀ s, F s s) (workspaceId workId : Uuid) :
    (loadVisibleWork workspaceId workId).Within F fun _ => True :=
  Tx.Within.read_bind hF fun _ => Tx.Within.require' _ _

theorem requireManager_within (hF : ∀ s, F s s) (workspaceId workId actorId : Uuid) :
    (requireManager workspaceId workId actorId).Within F fun _ => True :=
  (loadVisibleWork_within hF _ _).andThen fun _ =>
    (Workspaces.workAccessRole_within hF _ _).andThen fun _ =>
      (Tx.Within.ensure' _ _).andThen fun _ => Tx.Within.pure trivial

theorem ensureWorkAccess_within (hF : ∀ s, F s s) (actorId workspaceId workId : Uuid) :
    (ensureWorkAccess actorId workspaceId workId).Within F fun _ => True :=
  (loadVisibleWork_within hF _ _).andThen fun _ =>
    (Workspaces.workAccessRole_within hF _ _).andThen fun _ => Tx.Within.ensure' _ _

theorem ensurePlaytestManagement_within (hF : ∀ s, F s s) (actorId workspaceId workId : Uuid) :
    (ensurePlaytestManagement actorId workspaceId workId).Within F fun _ => True :=
  (loadVisibleWork_within hF _ _).andThen fun _ =>
    (Workspaces.workAccessRole_within hF _ _).andThen fun _ =>
      (Tx.Within.ensure' _ _).andThen fun _ => Tx.Within.pure trivial

theorem readMaterials_within (hF : ∀ s, F s s) (workspaceId workId : Uuid) (fileIds : List Uuid) :
    (readMaterials workspaceId workId fileIds).Within F fun _ => True := by
  induction fileIds with
  | nil => exact Tx.Within.pure trivial
  | cons fileId rest ih =>
    exact Tx.Within.read_bind hF fun _ => (Tx.Within.require' _ _).andThen fun _ =>
      ih.andThen fun _ => Tx.Within.pure trivial

theorem snapshotCurrentRuleMaterialsForPlaytest_within (hF : ∀ s, F s s)
    (actorId workspaceId workId : Uuid) (fileIds : List Uuid) :
    (snapshotCurrentRuleMaterialsForPlaytest actorId workspaceId workId fileIds).Within F
      fun _ => True := by
  refine Tx.Within.mapError ?_
  refine (Tx.Within.ensure' _ _).andThen fun _ => ?_
  refine (ensurePlaytestManagement_within hF _ _ _).andThen fun _ => ?_
  refine (Tx.Within.selectForUpdate (P := fun _ => True) hF _ _ trivial fun _ => trivial).andThen
    fun _ => ?_
  refine (Tx.Within.require' _ _).andThen fun _ => ?_
  refine (Tx.Within.require' _ _).andThen fun _ => ?_
  refine (Tx.Within.require' _ _).andThen fun _ => ?_
  refine (Tx.Within.ensure' _ _).andThen fun _ => ?_
  refine Tx.Within.read_bind hF fun _ => ?_
  refine (Tx.Within.ensure' _ _).andThen fun _ => ?_
  exact (readMaterials_within hF _ _ _).andThen fun _ => Tx.Within.pure trivial

end Works

end Rulefolio
