import Rulefolio.Exports.Names
import Rulefolio.Exports.Pages
import Rulefolio.Exports.Readers

/-!
# `app.exports.service`

The export of a work. What the services answer is read in one `REPEATABLE READ` transaction, so on
one state of the database. Opening a file ends that transaction; each file is opened in a state of
its own, of the database and of the object store.

The JSON of `manifest.json` and `data.json` is not modelled, nor is the compression: an entry of the
archive holds what is encoded in it.

## Main definitions

* `collect` — what is read in the snapshot.
* `archiveMaterials` — the files.
* `buildWorkExport` — `build_work_export`.
-/

namespace Rulefolio

namespace Exports

open Playtests (MaterialData)

/-- What `build_work_export` raises. -/
inductive ExportError
  | workExportUnavailable
  | workExportRetryable
  deriving DecidableEq, Repr

/-- The handlers of `build_work_export`, for the exceptions of the services. -/
def exportError : ServiceError → ExportError
  | .workUnavailable | .workManagementForbidden | .playtestManagementForbidden
  | .issueManagementForbidden => .workExportUnavailable
  | _ => .workExportRetryable

/-- The outcome of a part of the export. A loop over pages that needs more turns than it is given has
none. -/
abbrev Outcome := ExceptT ExportError Option

variable {α β : Type}

/-- A part that returns. -/
def Outcome.Returns (x : Outcome α) (a : α) : Prop :=
  x = ExceptT.mk (some (.ok a))

/-! ## Reading the snapshot -/

/-- What a service answers in the snapshot. -/
def snapshot (db : Database) (t : Program α) : Except ServiceError α :=
  (t.exec db).2

/-- A call of a service. -/
def ask (db : Database) (t : Program α) : Outcome α :=
  ExceptT.mk (some ((snapshot db t).mapError exportError))

/-- What the exception of `_all_pages` becomes. -/
def pagesError : Raised ServiceError → ExportError
  | .workExportRetryable => .workExportRetryable
  | .fetch e => exportError e

/-- A call of `_all_pages`. -/
def askPages (turns : ℕ) (db : Database) (t : (page size : ℕ) → Program (List α × ℤ)) :
    Outcome (List α) :=
  ExceptT.mk ((allPages (fun page size => snapshot db (t page size)) turns).map fun answer =>
    answer.mapError pagesError)

/-! ## What a manager sees -/

/-- `PlanData`; the columns of the plan are not looked at. -/
structure PlanData where
  id : Uuid
  sessions : List Playtests.SessionData

/-- The dictionary `_append_manager_data` returns, and the materials that go with it. -/
structure ManagerData where
  plans : List PlanData
  results : List Playtests.ResultData
  feedback : List (Uuid × Playtests.ManagedFeedbackData)
  materials : List MaterialData

/-- `dict.setdefault` of a material under its identifier. -/
def setDefault (materials : List MaterialData) (m : MaterialData) : List MaterialData :=
  if materials.any (·.id == m.id) then materials else materials ++ [m]

/-- The turn of the loop for one session of a plan. -/
def appendSessionData (db : Database) (actorId workspaceId workId : Uuid) (data : ManagerData)
    (item : Playtests.SessionData) : Outcome ManagerData := do
  let data := { data with materials := item.materials.foldl setDefault data.materials }
  if item.item.status != .started then
    return data
  let result ← ask db (Playtests.readResult actorId workspaceId workId item.item.id)
  let feedback ← ask db (Playtests.readFeedback actorId workspaceId workId item.item.id)
  return {
    plans := data.plans
    results := data.results ++ [result]
    feedback := data.feedback ++ [(item.item.id, feedback)]
    materials := (result.actualMaterial.getD []).foldl setDefault data.materials }

/-- The loop over the sessions of a plan. -/
def appendSessions (db : Database) (actorId workspaceId workId : Uuid) (data : ManagerData) :
    List Playtests.SessionData → Outcome ManagerData
  | [] => return data
  | item :: rest => do
    let data ← appendSessionData db actorId workspaceId workId data item
    appendSessions db actorId workspaceId workId data rest

/-- The loop over the plans. -/
def appendPlans (db : Database) (actorId workspaceId workId : Uuid) (data : ManagerData) :
    List Playtests.PlanSummaryData → Outcome ManagerData
  | [] => return data
  | summary :: rest => do
    let sessions ← ask db (Playtests.readPlan actorId workspaceId workId summary.plan.id)
    let data ← appendSessions db actorId workspaceId workId
      { data with plans := data.plans ++ [⟨summary.plan.id, sessions⟩] } sessions
    appendPlans db actorId workspaceId workId data rest

/-- `_append_manager_data`. -/
def appendManagerData (times : Times) (turns : ℕ) (db : Database)
    (actorId workspaceId workId : Uuid) : Outcome ManagerData := do
  let plans ← askPages turns db (Playtests.listPlans times actorId workspaceId workId)
  appendPlans db actorId workspaceId workId ⟨[], [], [], []⟩ plans

/-! ## What a maintainer sees -/

/-- An issue in `data.json`. -/
structure IssueExport where
  issue : Issues.IssueData
  evidence : List Issues.IssueEvidenceData
  retests : List Issues.IssueRetestData

/-- The loop over the issues. -/
def appendIssues (times : Times) (turns : ℕ) (db : Database) (actorId workspaceId workId : Uuid) :
    List Issues.IssueData → Outcome (List IssueExport)
  | [] => return []
  | item :: rest => do
    let detail ← ask db (Issues.readIssue actorId workspaceId workId item.id)
    let evidence ← askPages turns db
      (Issues.listIssueEvidence times actorId workspaceId workId item.id)
    let retests ← askPages turns db (Issues.listRetests actorId workspaceId workId item.id)
    let exported ← appendIssues times turns db actorId workspaceId workId rest
    return ⟨detail, evidence, retests⟩ :: exported

/-- `_append_maintainer_data`. -/
def appendMaintainerData (times : Times) (turns : ℕ) (db : Database)
    (actorId workspaceId workId : Uuid) : Outcome (List IssueExport) := do
  let issues ← askPages turns db (Issues.listIssues times actorId workspaceId workId)
  appendIssues times turns db actorId workspaceId workId issues

/-! ## The snapshot -/

/-- What `data.json` encodes; `manager` is its part for managers, `issues` that for maintainers. -/
structure ExportData where
  work : Work
  ownRole : WorkRole
  currentRule : Works.RuleMaterialsData
  manager : Option ManagerData
  issues : Option (List IssueExport)

/-- Whether `_append_manager_data` is called. -/
def managesPlaytests (role : WorkRole) : Bool :=
  role == .maintainer || role == .organizer

/-- The part for managers, if there is one. -/
def managerPart (times : Times) (turns : ℕ) (db : Database) (actorId workspaceId workId : Uuid)
    (role : WorkRole) : Outcome (Option ManagerData) :=
  if managesPlaytests role then
    some <$> appendManagerData times turns db actorId workspaceId workId
  else return none

/-- The part for maintainers, if there is one. -/
def maintainerPart (times : Times) (turns : ℕ) (db : Database) (actorId workspaceId workId : Uuid)
    (role : WorkRole) : Outcome (Option (List IssueExport)) :=
  if role == .maintainer then
    some <$> appendMaintainerData times turns db actorId workspaceId workId
  else return none

/-- What is read in the snapshot. -/
def collect (times : Times) (turns : ℕ) (db : Database) (actorId workspaceId workId : Uuid) :
    Outcome ExportData := do
  let (work, role) ← ask db (Works.readWork actorId workspaceId workId)
  let rule ← ask db (Works.readRuleMaterials actorId workspaceId workId)
  let manager ← managerPart times turns db actorId workspaceId workId role
  let issues ← maintainerPart times turns db actorId workspaceId workId role
  return ⟨work, role, rule, manager, issues⟩

/-! ## Opening a file -/

/-- The exceptions of `app.files` that opening a material can raise. -/
inductive FileError
  | materialUnavailable
  | fileOperationRetryable
  deriving DecidableEq, Repr

/-- A state in which a file is opened. `storage.open_object` finds no object under a key, or raises
`StorageUnavailable`, or gives a stream; a stream that breaks off counts as unavailable. -/
structure World where
  db : Database
  openObject : (objectKey : String) → Except Unit (Option Bytes)

/-- What follows the transaction of `_open_file` and of `open_playtest_material`. -/
def openStored (world : World) (file : StoredFile) : Except FileError Bytes :=
  match world.openObject file.objectKey with
  | .ok (some body) => .ok body
  | _ => .error .fileOperationRetryable

/-- The transaction of `_open_file` for a material. The policy shows it to maintainers, and to the
others while it belongs to the current rule. -/
def findMaterial (actorId workspaceId workId fileId : Uuid) : Program (Option StoredFile) := do
  Works.ensureWorkAccess actorId workspaceId workId
  let isCurrent ← Tx.read fun db : Database => db.workMaterials.any fun m =>
    m.workId == workId && m.fileId == fileId
  let role ← Workspaces.workAccessRole workId actorId
  Tx.read fun db : Database => db.files.find? fun f => f.id == fileId &&
    f.workspaceId == workspaceId && f.workId == workId && f.kind == .material &&
      f.status == .ready && (isCurrent || role == some .maintainer)

/-- `open_material`. -/
def openMaterial (world : World) (actorId workspaceId workId fileId : Uuid) :
    Except FileError Bytes :=
  match snapshot world.db (findMaterial actorId workspaceId workId fileId) with
  | .ok (some file) => openStored world file
  | .ok none => .error .materialUnavailable
  | .error .workUnavailable => .error .materialUnavailable
  | .error _ => .error .fileOperationRetryable

/-- `open_playtest_material`. -/
def openPlaytestMaterial (world : World) (fileId : Uuid) : Except FileError Bytes :=
  match Files.findReadyMaterial fileId world.db with
  | some file => openStored world file
  | none => .error .materialUnavailable

/-! ## The archive -/

/-- An entry of `files` in `manifest.json`. -/
structure ManifestFile where
  id : Uuid
  path : List Char
  contentType : String
  sizeBytes : ℕ
  sha256 : Bytes
  deriving DecidableEq, Repr

/-- What `manifest.json` encodes. -/
structure Manifest where
  format : String
  formatVersion : ℕ
  exportedAt : Timestamp
  workspaceId : Uuid
  workId : Uuid
  files : List ManifestFile
  deriving DecidableEq, Repr

/-- What an entry of the archive holds. -/
inductive Content
  | bytes (body : Bytes)
  | manifest (manifest : Manifest)
  | data (data : ExportData)

/-- An entry of the archive. -/
structure ArchiveEntry where
  name : List Char
  content : Content

/-- The archive as it is written, and `manifest_files`. -/
structure Archive where
  entries : List ArchiveEntry
  manifestFiles : List ManifestFile

/-- `zip_file.writestr`. -/
def Archive.writestr (archive : Archive) (name : List Char) (content : Content) : Archive :=
  { archive with entries := archive.entries ++ [⟨name, content⟩] }

/-- `manifest_files.append`. -/
def Archive.append (archive : Archive) (file : ManifestFile) : Archive :=
  { archive with manifestFiles := archive.manifestFiles ++ [file] }

/-- The turn of either loop for one file, once it has been opened. -/
def archiveMaterial (sha256 : Bytes → Bytes) (opened : Except FileError Bytes) (archive : Archive)
    (material : MaterialData) : Except ExportError Archive :=
  match opened with
  | .error _ => .error .workExportRetryable
  | .ok body =>
    let digest := sha256 body
    if body.length ≠ material.sizeBytes ∨ digest ≠ material.sha256 then .error .workExportRetryable
    else
      let path := materialPath material.id material.displayName.toList
      .ok ((archive.writestr path (.bytes body)).append
        ⟨material.id, path, material.detectedContentType, body.length, digest⟩)

/-- Either loop. A file is opened once, so the state it is opened in is a function of its
identifier. -/
def archiveMaterials (sha256 : Bytes → Bytes) (opens : Uuid → Except FileError Bytes)
    (archive : Archive) : List MaterialData → Except ExportError Archive
  | [] => .ok archive
  | material :: rest => do
    let archive ← archiveMaterial sha256 (opens material.id) archive material
    archiveMaterials sha256 opens archive rest

/-- The assignment of a material to its identifier in a dictionary. -/
def setItem (materials : List MaterialData) (m : MaterialData) : List MaterialData :=
  if materials.any (·.id == m.id) then materials.map fun m' => if m'.id == m.id then m else m'
  else materials ++ [m]

/-- `sorted` by the text of the identifier, which orders identifiers as their values do. -/
def sortedById (materials : List MaterialData) : List MaterialData :=
  materials.insertionSort fun m m' => m.id ≤ m'.id

/-- `current_materials`. -/
def currentMaterials (data : ExportData) : List MaterialData :=
  (data.currentRule.materials.map (·.toMaterialData)).foldl setItem []

/-- The materials of the second loop: those of the sessions which are not current as well. -/
def otherMaterials (data : ExportData) : List MaterialData :=
  (sortedById ((data.manager.map (·.materials)).getD [])).filter fun m =>
    !((currentMaterials data).any (·.id == m.id))

/-- `WorkExport`. -/
structure WorkExport where
  entries : List ArchiveEntry
  filename : List Char

/-- `_archive_name`. -/
def archiveName (workName : String) : List Char :=
  safeDisplayName workName.toList ++ "-作品资料.zip".toList

/-- Both loops, and the two documents. -/
def writeArchive (sha256 : Bytes → Bytes) (now : Timestamp) (opened : Uuid → World)
    (actorId workspaceId workId : Uuid) (data : ExportData) : Except ExportError WorkExport := do
  let archive ← archiveMaterials sha256
    (fun fileId => openMaterial (opened fileId) actorId workspaceId workId fileId) ⟨[], []⟩
    (sortedById (currentMaterials data))
  let archive ← archiveMaterials sha256
    (fun fileId => openPlaytestMaterial (opened fileId) fileId) archive (otherMaterials data)
  let archive := archive.writestr "manifest.json".toList
    (.manifest ⟨"rulefolio-work-export", 1, now, workspaceId, workId, archive.manifestFiles⟩)
  let archive := archive.writestr "data.json".toList (.data data)
  return ⟨archive.entries, archiveName data.work.name⟩

/-- `build_work_export`. The snapshot is of `db`; a file is opened in the state `opened` gives for
it. -/
def buildWorkExport (sha256 : Bytes → Bytes) (times : Times) (turns : ℕ) (now : Timestamp)
    (db : Database) (opened : Uuid → World) (actorId workspaceId workId : Uuid) :
    Outcome WorkExport := do
  let data ← collect times turns db actorId workspaceId workId
  ExceptT.mk (some (writeArchive sha256 now opened actorId workspaceId workId data))

end Exports

end Rulefolio
