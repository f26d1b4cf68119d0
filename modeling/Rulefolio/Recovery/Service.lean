import Rulefolio.Notifications.Service
import Rulefolio.Text

/-!
# `app.recovery.service`

The commands an operator runs after the database has been restored from a backup. `recover` closes
the gate and cuts off what the backup has brought back: one-time credentials and mail that has not
been sent. `confirm_restricted_access` records that access was confirmed, and in a second
transaction verifies the database and the stored objects against the manifest. `open_dispatcher`
opens the gate.

The row of `recovery_state` is `RecoveryState`. An exception is a `RecoveryFailed` with the phase
and the counts it carries. The login sessions that `revoke_for_restricted_recovery` also revokes
and the audit rows are left out.

## Main definitions

* `RecoveryManifest`, `RecoveryState`, `RecoveryFailed`.
* `databaseChecks`, `objectChecks` — what a verification looks at.
* `beginRecovery`, `restrict`, `confirmAccess`, `verifyAndOpen`, `recordFailure`, `openGate` — the
  transactions of the three commands.
-/

namespace Rulefolio

namespace Recovery

/-- `RecoveryFailed`. -/
structure RecoveryFailed where
  phase : String
  counts : List (String × ℕ)
  deriving DecidableEq, Repr

/-- `ManifestObject`. -/
structure ManifestObject where
  key : String
  sizeBytes : ℕ
  sha256 : Bytes
  deriving DecidableEq, Repr

/-- `RecoveryManifest`, without the digest of the archive. -/
structure RecoveryManifest where
  recoveryId : String
  targetAt : Timestamp
  rawSha256 : Bytes
  objects : List ManifestObject
  deriving DecidableEq, Repr

/-- `recovery_state.authorization_mode`, which has one value. -/
inductive AuthorizationMode
  | restricted
  deriving DecidableEq, Repr

/-- `recovery_state`. -/
structure RecoveryState where
  stage : RecoveryStage
  recoveryId : Option String
  manifestSha256 : Option Bytes
  recoveryTargetAt : Option Timestamp
  authorizationMode : Option AuthorizationMode
  restrictedAccessConfirmedAt : Option Timestamp
  verifiedAt : Option Timestamp
  operator : Option String
  deriving DecidableEq, Repr

/-- The row the migration inserts. -/
def RecoveryState.initial : RecoveryState where
  stage := .opened
  recoveryId := none
  manifestSha256 := none
  recoveryTargetAt := none
  authorizationMode := none
  restrictedAccessConfirmedAt := none
  verifiedAt := none
  operator := none

/-! ## Requests -/

/-- `raise RecoveryFailed(phase, …)` unless the condition holds. -/
def demand (condition : Bool) (phase : String) (counts : List (String × ℕ)) :
    Except RecoveryFailed Unit :=
  if condition then .ok () else .error ⟨phase, counts⟩

theorem demand_eq_ok {condition : Bool} {phase : String} {counts : List (String × ℕ)} {u : Unit}
    (h : demand condition phase counts = .ok u) : condition = true := by
  cases condition with
  | true => rfl
  | false => nomatch h

/-- A sequence of checks that succeeds has succeeded at each of them. -/
theorem of_bind_eq_ok {ε α β : Type} {x : Except ε α} {f : α → Except ε β} {b : β}
    (h : x >>= f = .ok b) : ∃ a, x = .ok a ∧ f a = .ok b := by
  cases x with
  | error e => nomatch h
  | ok a => exact ⟨a, rfl, h⟩

/-- A command as an operator gives it. -/
structure Request where
  operator : String
  reason : String
  deriving DecidableEq, Repr

/-- `_require_operator_and_reason`. -/
def Request.require (request : Request) : Except RecoveryFailed Request :=
  let operator := strip request.operator
  let reason := strip request.reason
  if operator.isEmpty || operator.length > 128 || reason.isEmpty || reason.length > 256 then
    .error ⟨"request", []⟩
  else .ok ⟨operator, reason⟩

/-- The characters of `RECOVERY_ID_PATTERN` after the first. -/
def isRecoveryIdChar (c : Char) : Bool :=
  c.isAlphanum || c == '.' || c == '_' || c == '-'

/-- `_require_recovery_id`. -/
def requireRecoveryId (recoveryId : String) : Except RecoveryFailed String :=
  match recoveryId.toList with
  | first :: rest =>
    if first.isAlphanum && rest.length ≤ 127 && rest.all isRecoveryIdChar then .ok recoveryId
    else .error ⟨"request", []⟩
  | [] => .error ⟨"request", []⟩

/-! ## What a verification looks at -/

/-- The rows of `a LEFT JOIN b` for one row of `a`: those that match, or one without. -/
def leftJoin {ρ : Type} (table : List ρ) (on : ρ → Bool) : List (Option ρ) :=
  let matching := table.filter on
  if matching.isEmpty then [none] else matching.map some

/-- A file that is not there, or not ready. -/
def notReady (file : Option StoredFile) : Bool :=
  file.all (·.status != .ready)

/-- A material row whose file is not ready or has another digest. -/
def differs (sha256 : Bytes) (file : Option StoredFile) : Bool :=
  notReady file || file.any (·.sha256 != sha256)

/-- How many rows of `playtest_session_actual_participants` a session has. -/
def actualParticipantCount (db : Database) (sessionId : Uuid) : ℕ :=
  db.actualParticipants.countP (·.sessionId == sessionId)

/-- The row that lets an account record feedback for a session. -/
def isRecorder (item : PlaytestSession) (accountId : Uuid) (a : WorkAccess) : Bool :=
  a.workspaceId == item.workspaceId && a.workId == item.workId && a.accountId == accountId &&
    (a.role == .maintainer || a.role == .organizer)

/-- An answer whose copied columns are not those of its submission. -/
def miscopied (answer : PlaytestFeedbackAnswer) (submission : PlaytestFeedbackSubmission) : Bool :=
  answer.source != submission.source || answer.status != submission.status ||
    answer.directAuthorAccountId != submission.directAuthorAccountId ||
    answer.recordedByAccountId != submission.recordedByAccountId

/-- A session of another work than the issue. -/
def elsewhereThan (issue : Issue) (item : PlaytestSession) : Bool :=
  issue.workspaceId != item.workspaceId || issue.workId != item.workId

/-- The sessions an evidence link points at, through its observation or its submission. -/
def evidenceSessions (db : Database) (link : IssueEvidenceLink) : List PlaytestSession :=
  (db.observations.filter fun o => link.observationId == some o.id).flatMap
      (fun o => db.sessions.filter (·.id == o.sessionId)) ++
    (db.feedbackSubmissions.filter fun f => link.feedbackSubmissionId == some f.id).flatMap
      fun f => db.sessions.filter (·.id == f.sessionId)

/-- `_database_checks`: how many rows violate each condition. The first two look at the schema and
the rights of the role, not at rows. -/
def databaseChecks (schemaCurrent runtimePermissions : Bool) (db : Database) :
    List (String × ℕ) :=
  [("schema", (!schemaCurrent).toNat),
   ("runtime_permissions", (!runtimePermissions).toNat),
   ("workspace_owners", db.workspaces.countP fun w => !db.members.any fun m =>
      m.workspaceId == w.id && m.accountId == w.ownerAccountId),
   ("work_accesses", db.accesses.countP fun a => !db.members.any fun m =>
      m.workspaceId == a.workspaceId && m.accountId == a.accountId),
   ("current_materials", (db.workMaterials.flatMap fun m =>
      leftJoin db.files (·.id == m.fileId)).countP notReady),
   ("session_materials", (db.sessionMaterials.flatMap fun m =>
      (leftJoin db.files (·.id == m.fileId)).filter (differs m.sha256)).length),
   ("actual_materials", (db.actualMaterials.flatMap fun m =>
      (leftJoin db.files (·.id == m.fileId)).filter (differs m.sha256)).length),
   ("actual_participants", db.sessions.countP fun s =>
      s.actualHeadcount.any (· < actualParticipantCount db s.id)),
   ("feedback_recorders", (db.feedbackSubmissions.flatMap fun f =>
      db.sessions.filter fun s => s.id == f.sessionId && f.source != .direct &&
        !db.accesses.any (isRecorder s f.recordedByAccountId)).length),
   ("feedback_answers", (db.feedbackAnswers.flatMap fun a =>
      db.feedbackSubmissions.filter fun f =>
        f.id == a.submissionId && f.sessionId == a.sessionId && miscopied a f).length),
   ("feedback_authors", db.feedbackSubmissions.countP fun f => f.source == .direct &&
      !db.participants.any fun p =>
        p.sessionId == f.sessionId && f.directAuthorAccountId == some p.accountId),
   ("issue_retests", (db.retestLinks.flatMap fun l =>
      (db.issues.filter (·.id == l.issueId)).flatMap fun i =>
        db.sessions.filter fun s => s.id == l.sessionId && elsewhereThan i s).length),
   ("issue_evidence", (db.evidenceLinks.flatMap fun l =>
      db.issues.filter fun i =>
        i.id == l.issueId && (evidenceSessions db l).any (elsewhereThan i)).length)]

/-- The object storage during one verification. -/
structure ObjectStore where
  /-- `list_object_keys`; `none` is `StorageUnavailable`. -/
  keys : Option (List String)
  /-- `open_object`: `none` is `StorageUnavailable`, `some none` an object that is not there. -/
  content : String → Option (Option Bytes)

/-- The loop of `_object_checks` over the expected objects. `sha256` stands for `hashlib`. -/
def objectsMatch (sha256 : Bytes → Bytes) (store : ObjectStore) (files : List StoredFile)
    (objects : List ManifestObject) : Bool :=
  objects.all fun expected =>
    (files.find? (·.objectKey == expected.key)).any (fun record =>
      record.sizeBytes == expected.sizeBytes && record.sha256 == expected.sha256) &&
    match store.content expected.key with
    | some (some content) =>
      content.length == expected.sizeBytes && sha256 content == expected.sha256
    | _ => false

/-- `_object_checks`. -/
def objectChecks (sha256 : Bytes → Bytes) (store : ObjectStore) (manifest : RecoveryManifest)
    (db : Database) : Except RecoveryFailed (List (String × ℕ)) :=
  let files := db.files.filter (·.status == .ready)
  let database := (files.map (·.objectKey)).dedup
  let expected := manifest.objects.map (·.key)
  match store.keys with
  | none => .error ⟨"objects", [("files", database.length), ("objects", 0)]⟩
  | some keys =>
    let counts := [("files", database.length), ("objects", keys.dedup.length)]
    if expected.all (database.contains ·) && database.all (expected.contains ·) &&
        expected.all (keys.contains ·) && keys.all (expected.contains ·) &&
        objectsMatch sha256 store files manifest.objects then .ok counts
    else .error ⟨"objects", counts⟩

/-! ## The transactions -/

/-- The row is that of this manifest. -/
def RecoveryState.isOf (state : RecoveryState) (manifest : RecoveryManifest) : Bool :=
  state.recoveryId == some manifest.recoveryId && state.manifestSha256 == some manifest.rawSha256

/-- `_begin_recovery`. -/
def beginRecovery (manifest : RecoveryManifest) (operator : String) (state : RecoveryState) :
    Except RecoveryFailed RecoveryState :=
  match state.stage with
  | .apiOpen => .error ⟨"state", []⟩
  | .recovering =>
    if state.isOf manifest && state.authorizationMode == some .restricted then .ok state
    else .error ⟨"state", []⟩
  | .opened =>
    if state.recoveryId == some manifest.recoveryId then .error ⟨"state", []⟩
    else .ok
      { stage := .recovering
        recoveryId := some manifest.recoveryId
        manifestSha256 := some manifest.rawSha256
        recoveryTargetAt := some manifest.targetAt
        authorizationMode := some .restricted
        restrictedAccessConfirmedAt := none
        verifiedAt := none
        operator := some operator }

/-- `_restrict`, in the transaction of `_begin_recovery`: what it does to the credentials. The
outbox is `suppressForRestrictedRecovery`. -/
def restrict (db : Database) : Database :=
  { db with
    credentials := Table.update (·.status == .active) (fun c => { c with status := .revoked })
      db.credentials }

/-- `recover`, up to its commit: the checks and what becomes of the row. -/
def recover (frozen : Bool) (manifest : RecoveryManifest) (request : Request)
    (state : RecoveryState) : Except RecoveryFailed RecoveryState := do
  demand frozen "deployment_freeze" []
  let _ ← requireRecoveryId manifest.recoveryId
  let request ← request.require
  beginRecovery manifest request.operator state

/-- The first transaction of `confirm_restricted_access`. A confirmation is kept. -/
def confirmAccess (frozen : Bool) (now : Timestamp) (manifest : RecoveryManifest)
    (request : Request) (state : RecoveryState) : Except RecoveryFailed RecoveryState := do
  demand frozen "deployment_freeze" []
  let _ ← requireRecoveryId manifest.recoveryId
  let _ ← request.require
  demand (state.stage == .recovering && state.isOf manifest &&
    state.authorizationMode == some .restricted) "state" []
  return { state with
    restrictedAccessConfirmedAt := some (state.restrictedAccessConfirmedAt.getD now) }

/-- What a verification depends on besides the tables. -/
structure Surroundings where
  schemaCurrent : Bool
  runtimePermissions : Bool
  store : ObjectStore

/-- `_verify_and_open`, up to its commit. -/
def verifyAndOpen (sha256 : Bytes → Bytes) (surroundings : Surroundings) (now : Timestamp)
    (manifest : RecoveryManifest) (db : Database) (state : RecoveryState) :
    Except RecoveryFailed RecoveryState := do
  demand (state.stage == .recovering && state.isOf manifest && state.authorizationMode.isSome &&
    !(state.authorizationMode == some .restricted && state.restrictedAccessConfirmedAt.isNone))
    "state" []
  let counts := databaseChecks surroundings.schemaCurrent surroundings.runtimePermissions db
  demand (!counts.any (·.2 != 0)) "verification" counts
  let _ ← objectChecks sha256 surroundings.store manifest db
  return { state with
    stage := .apiOpen
    verifiedAt := some now }

/-- `_record_failure`, up to its commit. -/
def recordFailure (recoveryId : String) (state : RecoveryState) : RecoveryState :=
  if state.recoveryId == some recoveryId then { state with stage := .recovering } else state

/-- `open_dispatcher`, up to its commit. -/
def openGate (frozen : Bool) (recoveryId : String) (request : Request) (state : RecoveryState) :
    Except RecoveryFailed RecoveryState := do
  demand (!frozen) "deployment_freeze" []
  let _ ← requireRecoveryId recoveryId
  let _ ← request.require
  demand (state.stage == .apiOpen && state.recoveryId == some recoveryId) "state" []
  return { state with stage := .opened }

end Recovery

end Rulefolio
