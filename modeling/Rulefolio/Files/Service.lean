import Mathlib.Data.List.Sort
import Rulefolio.Exports.Names
import Rulefolio.Library.Processes
import Rulefolio.Library.Table
import Rulefolio.Models
import Rulefolio.Text

/-!
# `app.files.service`

An upload is several transactions and several requests to the object store. It settles the files an
earlier upload has left pending, reserves a row, stores the object, reads it back, compares, and only
then marks the row ready. Between any two of these another upload may take up the row, once its
pending time is over.

## Who may touch a file

The row-level security of `files` decides what a statement sees here, since revocations may fall
between two statements of one call: `mayTouch` is the membership and the access that the policies of
the table ask for. Requests for a workspace exit are not among the events: `_upload_file` calls
`ensure_workspace_writable` once, when it starts, and from there on the workspace of an upload is
taken not to be in exit, so the policies about exits are left out. An exit requested meanwhile would
make statements of the upload see or write no row, as a revocation does.

## What an action is

One SQL statement, one request to the object store. An `UPDATE` or `INSERT` that is committed right
after it is one action with its commit: nobody sees it before. A commit and a rollback give up the
advisory lock. A statement that fails, in whatever way, ends a call without a further effect, since
all that the handlers do about a database error is to roll back; that is the event `.cut`.

A put, a delete and a read of the store may each be answered with an error although they had their
effect. What the store keeps of a put is left open: the upload reads it back because it may be
anything.

## Main definitions

* `Readers` — the libraries that look into a file; `readImage`, `readMaterial`.
* `Action`, `Action.perform`.
* `markFailed`, `markReady`, `reconcilePending`, `recoverPending`, `reserveFile`, `uploadFile`.
* `setting` — uploads and reconcilers, with revocations.
-/

namespace Rulefolio

namespace Files

/-! ## Policy -/

/-- `ALLOWED_IMAGE_TYPES`. -/
def allowedImageTypes : List String :=
  ["image/jpeg", "image/png", "image/webp"]

/-- `MAX_IMAGE_BYTES` and `MAX_MATERIAL_BYTES`. -/
def maxBytes : FileKind → ℕ
  | .image => 5 * 1024 * 1024
  | .material => 8 * 1024 * 1024

/-- `MAX_IMAGE_PIXELS`. -/
def maxImagePixels : ℕ := 16000000

/-- `MAX_IMAGES_PER_WORK` and `MAX_MATERIALS_PER_WORK`. -/
def maxCount : FileKind → ℕ
  | .image => 12
  | .material => 8

/-- `MAX_IMAGE_BYTES_PER_WORK` and `MAX_MATERIAL_BYTES_PER_WORK`. -/
def maxTotalBytes : FileKind → ℕ
  | .image => 30 * 1024 * 1024
  | .material => 32 * 1024 * 1024

/-- `PENDING_IMAGE_TTL` and `PENDING_MATERIAL_TTL`, in seconds. -/
def pendingTtl : FileKind → ℕ
  | .image => 120
  | .material => 120

/-- The exceptions of an upload. -/
inductive FileError
  | imageTypeNotAllowed
  | imageLimitExceeded
  | materialTypeNotAllowed
  | materialLimitExceeded
  | fileOperationRetryable
  | workUnavailable
  | workManagementForbidden
  | workspaceUnavailable
  | workspaceExitInProgress
  /-- Whatever a statement raises that fails, and the end of a process. -/
  | interrupted
  deriving DecidableEq, Repr

/-! ## Looking into a file -/

/-- The libraries: Pillow, pypdf and hashlib, and the table of Unicode. -/
structure Readers where
  sha256 : Bytes → Bytes
  /-- The format, width and height of an image that Pillow opens, verifies and loads. -/
  pillow : Bytes → Option (String × ℕ × ℕ)
  /-- Whether the document is encrypted, and its number of pages, if pypdf reads it. -/
  pypdf : Bytes → Option (Bool × ℕ)
  isPrintable : Char → Bool

/-- `UploadedFile`. -/
structure UploadedFile where
  displayName : String
  declaredContentType : String
  detectedContentType : String
  sizeBytes : ℕ
  digest : Bytes
  data : Bytes
  deriving DecidableEq, Repr

/-- `_FORMAT_TYPES`. -/
def formatType : String → Option String
  | "JPEG" => some "image/jpeg"
  | "PNG" => some "image/png"
  | "WEBP" => some "image/webp"
  | _ => none

variable (readers : Readers)

/-- `_validate_image`: the type of an image that is let in. -/
def validateImage (data : Bytes) : Option String :=
  match readers.pillow data with
  | none => none
  | some (format, width, height) =>
    (formatType format).filter fun type =>
      allowedImageTypes.contains type && decide (width * height ≤ maxImagePixels)

/-- The last component of a path. -/
def lastComponent (name : List Char) : List Char :=
  (name.reverse.takeWhile (· != '/')).reverse

/-- `_safe_display_name`. -/
def safeDisplayName (filename fallback : String) : String :=
  let name := lastComponent (filename.toList.map fun c => if c == '\\' then '/' else c)
  let name := strip (String.ofList (name.filter readers.isPrintable))
  String.ofList ((if name.isEmpty then fallback else name).toList.take 160)

/-- `_uploaded_file`. -/
def uploadedFile (data : Bytes) (filename : String) (declaredContentType : Option String)
    (detectedContentType fallback : String) : UploadedFile where
  displayName := safeDisplayName readers filename fallback
  declaredContentType :=
    let declared := (declaredContentType.filter (!·.isEmpty)).getD "application/octet-stream"
    String.ofList (declared.toList.take 127)
  detectedContentType := detectedContentType
  sizeBytes := data.length
  digest := readers.sha256 data
  data := data

/-- `_read_image`, after `_spool_upload` has counted the bytes. -/
def readImage (data : Bytes) (filename : String) (declaredContentType : Option String) :
    Except FileError UploadedFile :=
  if maxBytes .image < data.length then .error .imageLimitExceeded
  else match validateImage readers data with
    | none => .error .imageTypeNotAllowed
    | some type => .ok (uploadedFile readers data filename declaredContentType type "image")

/-- `b"%PDF-"`. -/
def pdfMark : Bytes := [0x25, 0x50, 0x44, 0x46, 0x2D]

/-- The type of a material that is let in: a document that is not encrypted and has a page, or an
image. -/
def materialType (data : Bytes) : Option String :=
  if data.take 5 == pdfMark then
    match readers.pypdf data with
    | some (false, pages) => if pages = 0 then none else some "application/pdf"
    | _ => none
  else validateImage readers data

/-- `_read_material`. -/
def readMaterial (data : Bytes) (filename : String) (declaredContentType : Option String) :
    Except FileError UploadedFile :=
  if maxBytes .material < data.length then .error .materialLimitExceeded
  else match materialType readers data with
    | none => .error .materialTypeNotAllowed
    | some type => .ok (uploadedFile readers data filename declaredContentType type "material")

/-- The reader of a kind. -/
def read : FileKind → Bytes → String → Option String → Except FileError UploadedFile
  | .image => readImage readers
  | .material => readMaterial readers

/-- `_matches`. -/
def «matches» (file : StoredFile) (actual : UploadedFile) : Bool :=
  actual.detectedContentType == file.detectedContentType && actual.sizeBytes == file.sizeBytes &&
    actual.digest == file.sha256

/-- What the reader finds in the object is what the row records. -/
def isStored (file : StoredFile) (content : Bytes) : Bool :=
  match read readers file.kind content file.displayName (some file.declaredContentType) with
  | .ok actual => «matches» file actual
  | .error _ => false

/-! ## The shared state -/

/-- The key of the advisory lock: the first eight bytes of the identifier, as a signed number. -/
def advisoryKey (workId : Uuid) : ℤ :=
  let n : ℤ := (workId / 2 ^ 64 : ℕ)
  if n < 2 ^ 63 then n else n - 2 ^ 64

/-- The database, the object store, and who holds an advisory lock. -/
structure Shared where
  db : Database
  objects : String → Option Bytes
  locks : ℤ → Option ℕ

/-- What the policies of `files` ask for: the actor is a member and has access to the work, as its
maintainer for a material. -/
def mayTouch (actorId workspaceId workId : Uuid) (kind : FileKind) (db : Database) : Bool :=
  (db.members.any fun m => m.workspaceId == workspaceId && m.accountId == actorId) &&
    db.accesses.any fun a => a.workId == workId && a.accountId == actorId &&
      (kind == .image || a.role == .maintainer)

/-- `work_read`. -/
def visibleWork (actorId workspaceId workId : Uuid) (db : Database) : Option Work :=
  db.works.find? fun w => w.id == workId && w.workspaceId == workspaceId &&
    (db.members.any fun m => m.workspaceId == w.workspaceId && m.accountId == actorId) &&
    db.accesses.any fun a => a.workId == w.id && a.accountId == actorId

/-- The pending files of a work, as a statement with the recovery scope of the work sees them. -/
def pendingFiles (actorId workspaceId workId : Uuid) (kind : FileKind) (db : Database) :
    List StoredFile :=
  db.files.filter fun f => f.workspaceId == workspaceId && f.workId == workId && f.kind == kind &&
    f.status == .pending && mayTouch actorId workspaceId workId kind db

/-- The files of a work that count: those that are pending or ready. -/
def counted (workspaceId workId : Uuid) (kind : FileKind) (db : Database) : List StoredFile :=
  db.files.filter fun f => f.workspaceId == workspaceId && f.workId == workId && f.kind == kind &&
    (f.status == .pending || f.status == .ready)

/-- Their sizes. -/
def totalBytes (files : List StoredFile) : ℕ :=
  (files.map (·.sizeBytes)).sum

/-- No lock of the session is left. -/
def Shared.unlocked (s : Shared) (i : ℕ) : Shared :=
  { s with locks := fun key => if s.locks key = some i then none else s.locks key }

/-! ## Actions -/

/-- A statement or a request. -/
inductive Action
  | readWorkspace (workspaceId : Uuid)
  | readWork (actorId workspaceId workId : Uuid)
  | readRole (workId accountId : Uuid)
  | pendingRecords (actorId workspaceId workId : Uuid) (kind : FileKind)
  | lockWork (workId : Uuid)
  | rollback
  | selectPending (actorId workspaceId workId fileId : Uuid) (kind : FileKind)
  | countFiles (actorId workspaceId workId : Uuid) (kind : FileKind)
  | insertFile (actorId workspaceId workId : Uuid) (kind : FileKind) (upload : UploadedFile)
  | updateFailed (fileId : Uuid)
  | updateReady (actorId : Uuid) (file : StoredFile)
  | refresh (file : StoredFile)
  | putObject (file : StoredFile) (data : Bytes)
  | openObject (file : StoredFile)
  | deleteObject (file : StoredFile)
  deriving DecidableEq, Repr

/-- What is learnt from it. -/
@[reducible] def Action.Answer : Action → Type
  | .readWorkspace _ => Option Workspace
  | .readWork _ _ _ => Option Work
  | .readRole _ _ => Option WorkRole
  | .pendingRecords _ _ _ _ => List StoredFile
  | .lockWork _ => Unit
  | .rollback => Unit
  | .selectPending _ _ _ _ _ => Option StoredFile
  | .countFiles _ _ _ _ => ℕ × ℕ
  | .insertFile _ _ _ _ _ => StoredFile
  | .updateFailed _ => Bool
  | .updateReady _ _ => Bool
  | .refresh _ => Bool
  | .putObject _ _ => Bool
  | .openObject _ => Option (Option Bytes)
  | .deleteObject _ => Bool

/-- What an action leaves open. -/
inductive Choice
  | plain
  /-- The clock, for a cutoff or a timestamp. -/
  | clock (now : Timestamp)
  /-- Two values of `uuid4`, and the clock. -/
  | fresh (id objectId : Uuid) (now : Timestamp)
  /-- What the store keeps of a put. -/
  | stored (content : Bytes)
  /-- An error of the store, and what was done all the same. -/
  | unavailable (stored : Option Bytes)
  /-- The store answers with an error and has done nothing. -/
  | refused
  /-- Whether a row that the rollback has expired can be read again. -/
  | found (b : Bool)
  deriving DecidableEq, Repr

/-- Put an object where there is none (`IfNoneMatch="*"`). -/
def Shared.put (s : Shared) (key : String) (content : Bytes) : Shared :=
  { s with objects := fun k => if k = key then some content else s.objects k }

def Shared.deleted (s : Shared) (key : String) : Shared :=
  { s with objects := fun k => if k = key then none else s.objects k }

/-- The rows after `UPDATE files SET status, completed_at WHERE id AND status = 'pending'`. -/
def completeFiles (fileId : Uuid) (status : FileStatus) (now : Timestamp) (db : Database) :
    Database :=
  { db with
    files := Table.update (fun f => f.id == fileId && f.status == .pending)
      (fun f => { f with status := status, completedAt := some now }) db.files }

/-- Whether the row is there and pending. -/
def isPending (fileId : Uuid) (db : Database) : Bool :=
  db.files.any fun f => f.id == fileId && f.status == .pending

/-- The row `_reserve_file` adds. -/
def newFile (actorId workspaceId workId : Uuid) (kind : FileKind) (upload : UploadedFile)
    (id objectId : Uuid) (now : Timestamp) : StoredFile where
  id := id
  workspaceId := workspaceId
  workId := workId
  uploaderAccountId := actorId
  displayName := upload.displayName
  declaredContentType := upload.declaredContentType
  detectedContentType := upload.detectedContentType
  sizeBytes := upload.sizeBytes
  sha256 := upload.digest
  objectKey := String.ofList ("works/".toList ++ Exports.uuidText workspaceId ++ '/' ::
    Exports.uuidText workId ++ '/' :: Exports.uuidText objectId)
  status := .pending
  kind := kind
  createdAt := now
  completedAt := none

/-- The files a count sees: the policy shows them to whoever may touch them. -/
def countedBy (actorId workspaceId workId : Uuid) (kind : FileKind) (db : Database) :
    List StoredFile :=
  if mayTouch actorId workspaceId workId kind db then counted workspaceId workId kind db else []

/-- What an action of session `i` does. An `UPDATE` or `INSERT` the policies or the constraints
refuse has no outcome: the statement fails. -/
def Action.perform (i : ℕ) : (a : Action) → Shared → Choice → Option (Shared × a.Answer)
  | .readWorkspace workspaceId, s, .plain =>
    some (s, (s.db.workspaces.find? (·.id == workspaceId) : Option Workspace))
  | .readWork actorId workspaceId workId, s, .plain =>
    some (s, (visibleWork actorId workspaceId workId s.db : Option Work))
  | .readRole workId accountId, s, .plain =>
    some (s, ((s.db.accesses.find? fun a =>
      a.workId == workId && a.accountId == accountId).map (·.role) : Option WorkRole))
  | .pendingRecords actorId workspaceId workId kind, s, .clock now =>
    some (s, (((pendingFiles actorId workspaceId workId kind s.db).filter fun f =>
      decide (f.createdAt + pendingTtl kind ≤ now)).insertionSort
        (fun f f' => f.createdAt < f'.createdAt ∨ f.createdAt = f'.createdAt ∧ f.id ≤ f'.id) :
      List StoredFile))
  | .lockWork workId, s, .plain =>
    if s.locks (advisoryKey workId) = none ∨ s.locks (advisoryKey workId) = some i then
      some ({ s with locks := fun key =>
        if key = advisoryKey workId then some i else s.locks key }, ())
    else none
  | .rollback, s, .plain => some (s.unlocked i, ())
  | .selectPending actorId workspaceId workId fileId kind, s, .plain =>
    some (s, ((pendingFiles actorId workspaceId workId kind s.db).find? (·.id == fileId) :
      Option StoredFile))
  | .countFiles actorId workspaceId workId kind, s, .plain =>
    let files := countedBy actorId workspaceId workId kind s.db
    some (s, ((files.length, totalBytes files) : ℕ × ℕ))
  | .insertFile actorId workspaceId workId kind upload, s, .fresh id objectId now =>
    let file := newFile actorId workspaceId workId kind upload id objectId now
    if mayTouch actorId workspaceId workId kind s.db &&
        !s.db.files.any (fun f => f.id == file.id || f.objectKey == file.objectKey) &&
        s.db.works.any (fun w => w.id == workId && w.workspaceId == workspaceId) then
      some ({ s with db := { s.db with files := file :: s.db.files } }.unlocked i,
        (file : StoredFile))
    else none
  | .updateFailed fileId, s, .clock now =>
    some ({ s with db := completeFiles fileId .failed now s.db }.unlocked i,
      (isPending fileId s.db : Bool))
  | .updateReady actorId file, s, .clock now =>
    if isPending file.id s.db then
      if mayTouch actorId file.workspaceId file.workId file.kind s.db then
        some ({ s with db := completeFiles file.id .ready now s.db }.unlocked i, (true : Bool))
      else none
    else some (s, (false : Bool))
  | .refresh _, s, .found b => some (s, (b : Bool))
  | .putObject file _, s, .stored content =>
    if s.objects file.objectKey = none then some (s.put file.objectKey content, (true : Bool))
    else none
  | .putObject file _, s, .unavailable (some content) =>
    if s.objects file.objectKey = none then some (s.put file.objectKey content, (false : Bool))
    else none
  | .putObject _ _, s, .refused => some (s, (false : Bool))
  | .openObject file, s, .plain =>
    some (s, (some (s.objects file.objectKey) : Option (Option Bytes)))
  | .openObject _, s, .refused => some (s, (none : Option (Option Bytes)))
  | .deleteObject file, s, .plain => some (s.deleted file.objectKey, (true : Bool))
  | .deleteObject file, s, .unavailable none => some (s.deleted file.objectKey, (false : Bool))
  | .deleteObject _, s, .refused => some (s, (false : Bool))
  | _, _, _ => none

/-! ## The code -/

/-- The code of a call. -/
abbrev Code := Process Action Action.Answer FileError

/-- One action. -/
abbrev act (a : Action) : Code a.Answer := Process.perform a

/-- `ensure_work_access`. -/
def ensureWorkAccess (actorId workspaceId workId : Uuid) : Code Unit := do
  match ← act (.readWork actorId workspaceId workId) with
  | none =>
    act .rollback
    .raised .workUnavailable
  | some work =>
    match ← act (.readRole work.id actorId) with
    | none =>
      act .rollback
      .raised .workUnavailable
    | some _ => return ()

/-- `ensure_work_management`. -/
def ensureWorkManagement (actorId workspaceId workId : Uuid) : Code Unit := do
  match ← act (.readWork actorId workspaceId workId) with
  | none =>
    act .rollback
    .raised .workUnavailable
  | some work =>
    match ← act (.readRole work.id actorId) with
    | some .maintainer => return ()
    | _ =>
      act .rollback
      .raised .workManagementForbidden

/-- The check a kind asks for: `manager_required` for materials. -/
def ensureFor : FileKind → (actorId workspaceId workId : Uuid) → Code Unit
  | .image => ensureWorkAccess
  | .material => ensureWorkManagement

/-- `if manager_required`, and then `ensure_work_management`. -/
def ensureManagerRequired : FileKind → (actorId workspaceId workId : Uuid) → Code Unit
  | .image => fun _ _ _ => return ()
  | .material => ensureWorkManagement

/-- `lock_work_for_files`. -/
def lockWorkForFiles (actorId workspaceId workId : Uuid) : Code Unit := do
  act (.lockWork workId)
  ensureWorkAccess actorId workspaceId workId

/-- `_mark_failed`: whether the row was still pending. -/
def markFailed (fileId : Uuid) : Code Bool :=
  act (.updateFailed fileId)

/-- `_mark_ready`: whether the row was still pending. -/
def markReady (actorId workspaceId workId : Uuid) (file : StoredFile) (kind : FileKind) :
    Code Bool := do
  ensureFor kind actorId workspaceId workId
  match ← act (.updateReady actorId file) with
  | true => return true
  | false =>
    act .rollback
    return false

/-- `_stored_upload` and `_matches`: whether the store has the object the row is of. -/
def storedMatches (file : StoredFile) : Code Bool := do
  match ← act (.openObject file) with
  | none => .raised .fileOperationRetryable
  | some content => return content.any (isStored readers file)

/-- `_reconcile_pending`. -/
def reconcilePending (actorId workspaceId workId fileId : Uuid) (kind : FileKind) : Code Unit := do
  ensureManagerRequired kind actorId workspaceId workId
  lockWorkForFiles actorId workspaceId workId
  match ← act (.selectPending actorId workspaceId workId fileId kind) with
  | none => act .rollback
  | some file =>
    match ← (storedMatches readers file).attempt with
    | .error e =>
      act .rollback
      .raised e
    | .ok false =>
      match ← act (.deleteObject file) with
      | true => discard (markFailed file.id)
      | false =>
        act .rollback
        .raised .fileOperationRetryable
    | .ok true =>
      match ← (markReady actorId workspaceId workId file kind).attempt with
      | .ok _ => return ()
      | .error e =>
        -- The rollback has expired the row, and its key is read again.
        match ← act (.refresh file) with
        | false =>
          act .rollback
          .raised .fileOperationRetryable
        | true =>
          match ← markFailed file.id with
          | false => .raised e
          | true =>
            discard (act (.deleteObject file))
            .raised e

/-- `_recover_pending`. -/
def recoverPending (actorId workspaceId workId : Uuid) (kind : FileKind) : Code Unit := do
  ensureFor kind actorId workspaceId workId
  let files ← act (.pendingRecords actorId workspaceId workId kind)
  act .rollback
  Process.forEach (fun file => reconcilePending readers actorId workspaceId workId file.id kind)
    files

/-- The exception of a full work. -/
def limitExceeded : FileKind → FileError
  | .image => .imageLimitExceeded
  | .material => .materialLimitExceeded

/-- `_reserve_file`, with the limits of the kind. -/
def reserveFile (actorId workspaceId workId : Uuid) (kind : FileKind) (upload : UploadedFile) :
    Code StoredFile := do
  ensureManagerRequired kind actorId workspaceId workId
  lockWorkForFiles actorId workspaceId workId
  let (count, total) ← act (.countFiles actorId workspaceId workId kind)
  if maxCount kind ≤ count ∨ maxTotalBytes kind < total + upload.sizeBytes then
    act .rollback
    .raised (limitExceeded kind)
  else
    act (.insertFile actorId workspaceId workId kind upload)

/-- `ensure_workspace_writable`. -/
def ensureWorkspaceWritable (workspaceId : Uuid) : Code Unit := do
  match ← act (.readWorkspace workspaceId) with
  | none =>
    act .rollback
    .raised .workspaceUnavailable
  | some workspace =>
    if workspace.exitRequestedAt.isSome then
      act .rollback
      .raised .workspaceExitInProgress

/-- What `_upload_file` is given. -/
structure Upload where
  actorId : Uuid
  workspaceId : Uuid
  workId : Uuid
  source : Bytes
  filename : String
  declaredContentType : Option String
  kind : FileKind
  deriving DecidableEq, Repr

/-- The part of `_upload_file` after the row was reserved. -/
def storeFile (u : Upload) (upload : UploadedFile) (file : StoredFile) : Code StoredFile := do
  match ← act (.putObject file upload.data) with
  | false => .raised .fileOperationRetryable
  | true =>
    match ← storedMatches readers file with
    | false =>
      match ← act (.deleteObject file) with
      | false => .raised .fileOperationRetryable
      | true =>
        discard (markFailed file.id)
        .raised .fileOperationRetryable
    | true =>
      -- Whether the row was still pending is not asked.
      match ← (markReady u.actorId u.workspaceId u.workId file u.kind).attempt with
      | .ok _ => return file
      | .error e =>
        -- The rollback has expired the row, and its key is read again.
        match ← act (.refresh file) with
        | false => .raised .interrupted
        | true =>
          discard (act (.deleteObject file))
          discard (markFailed file.id)
          .raised e

/-- `_upload_file`. -/
def uploadFile (u : Upload) : Code StoredFile := do
  ensureWorkspaceWritable u.workspaceId
  match read readers u.kind u.source u.filename u.declaredContentType with
  | .error e => .raised e
  | .ok upload =>
    recoverPending readers u.actorId u.workspaceId u.workId u.kind
    let file ← reserveFile u.actorId u.workspaceId u.workId u.kind upload
    storeFile readers u upload file

/-! ## The system -/

/-- A call: an upload, or a reconciler that takes up some file, whenever that is. -/
inductive Call
  | upload (u : Upload)
  | reconcile (actorId workspaceId workId fileId : Uuid) (kind : FileKind)
  deriving DecidableEq, Repr

/-- The code of a call, and the file an upload returns. -/
def Call.code : Call → Code (Option StoredFile)
  | .upload u => do return some (← uploadFile readers u)
  | .reconcile actorId workspaceId workId fileId kind => do
    reconcilePending readers actorId workspaceId workId fileId kind
    return none

/-- A revocation. -/
inductive Revocation
  /-- `revoke_work_access`. -/
  | access (workId accountId : Uuid)
  /-- `set_work_access` with a role that is not the maintainer's, for an account that has access. -/
  | role (workId accountId : Uuid) (role : WorkRole)
  /-- `remove_member`. -/
  | member (workspaceId accountId : Uuid)
  deriving DecidableEq, Repr

def Revocation.apply (db : Database) : Revocation → Option Database
  | .access workId accountId => some { db with
      accesses := Table.delete (fun a => a.workId == workId && a.accountId == accountId)
        db.accesses }
  | .role workId accountId newRole =>
    if newRole = .maintainer then none
    else some { db with
      accesses := Table.update (fun a => a.workId == workId && a.accountId == accountId)
        (fun a => { a with role := newRole }) db.accesses }
  | .member workspaceId accountId => some { db with
      members := Table.delete
        (fun m => m.workspaceId == workspaceId && m.accountId == accountId) db.members
      accesses := Table.delete
        (fun a => a.workspaceId == workspaceId && a.accountId == accountId) db.accesses }

/-- Uploads, reconcilers and revocations. A run starts with any accounts, works and accesses, no
file and an empty store. -/
def setting : Setting Shared Choice Revocation Call Action Action.Answer FileError
    (Option StoredFile) where
  init s := s.db.files = [] ∧ (∀ key, s.objects key = none) ∧ ∀ key, s.locks key = none
  code := Call.code readers
  perform := Action.perform
  release i s := s.unlocked i
  move s r := (r.apply s.db).map fun db => { s with db := db }
  cutOff := .interrupted

/-- The uploads, the reconcilers and what they work on. -/
abbrev State := Concurrent Shared Action Action.Answer FileError (Option StoredFile)

/-- What happens next. -/
abbrev Event := Occurrence Choice Revocation Call

end Files

end Rulefolio
