import Rulefolio.Issues.Service
import Rulefolio.Notifications.Dispatcher

/-!
# `app.playtests.service`

Plans, sessions, the participants' confirmations and the results. An operation on a session locks
its row, compares the revision the caller expects, looks at the status, and only then writes. A
confirmation carries no revision, but locks the session as well.

Five operations on a session, and `create_plan` and `append_session`, end by reading back what they
have committed, which checks the caller again.

A participant that was loaded before the session was locked is not refreshed by a later
`SELECT … FOR UPDATE`; `confirmParticipation` goes on with the row it loaded first.

## Main definitions

* `createPlan`, `appendSession` — new sessions.
* `updateArrangement`, `replaceMaterials`, `startSession`, `cancelSession`.
* `saveResult`, `createObservation`, `updateObservation`.
* `confirmParticipation`.
* `createFeedbackItem` and the other operations on feedback.
-/

namespace Rulefolio

namespace Playtests

/-! ## Checks -/

/-- What the exceptions of the checks become. -/
def checkErrors : ServiceError → ServiceError
  | .workspaceUnavailable => .playtestUnavailable
  | .workManagementForbidden => .playtestManagementForbidden
  | .workUnavailable => .playtestUnavailable
  | .workOperationRetryable => .playtestOperationRetryable
  | .sqlalchemyError => .playtestOperationRetryable
  | e => e

/-- `_require_management`. -/
def requireManagement (actorId workspaceId workId : Uuid) (writable : Bool) : Program Unit :=
  Tx.mapError checkErrors do
    if writable then
      Workspaces.ensureWritable workspaceId
    let _ ← Works.ensurePlaytestManagement actorId workspaceId workId

/-- The session of a work with this identifier. -/
def findSession (workspaceId workId sessionId : Uuid) (db : Database) : Option PlaytestSession :=
  db.sessions.find? fun s => s.id == sessionId && s.workspaceId == workspaceId &&
    s.workId == workId

/-- `_load_managed_session`, with `lock=True`. -/
def lockManagedSession (workspaceId workId sessionId : Uuid) : Program PlaytestSession := do
  let item ← Tx.selectForUpdate (fun s : PlaytestSession => .session s.id) fun db =>
    (findSession workspaceId workId sessionId db).filter
      fun _ => exitAllowsWrite none workspaceId db
  Tx.require item .playtestUnavailable

/-- `_confirmed_count`. -/
def confirmedCount (sessionId : Uuid) (db : Database) : ℕ :=
  db.participants.countP fun p => p.sessionId == sessionId && p.status == .confirmed

/-! ## Reading back -/

/-- `MaterialData`. -/
structure MaterialData where
  id : Uuid
  displayName : String
  detectedContentType : String
  sizeBytes : ℕ
  sha256 : Bytes
  deriving DecidableEq, Repr

/-- One turn of the loop of `_materials`. -/
def readMaterial (fileId : Uuid) (sha256 : Bytes) : Program MaterialData := do
  let file ← Tx.read fun db : Database => db.files.find? fun f =>
    f.id == fileId && f.kind == .material && f.status == .ready
  let file ← Tx.require file .playtestUnavailable
  Tx.ensure (file.sha256 == sha256) .playtestUnavailable
  return ⟨file.id, file.displayName, file.detectedContentType, file.sizeBytes, sha256⟩

/-- The loop. -/
def readMaterials : List (Uuid × Bytes) → Program (List MaterialData)
  | [] => return []
  | (fileId, sha256) :: rest => do
    let material ← readMaterial fileId sha256
    let materials ← readMaterials rest
    return material :: materials

/-- `_materials`. -/
def materials (sessionId : Uuid) : Program (List MaterialData) := do
  let relations ← Tx.read fun db : Database =>
    db.sessionMaterials.filter (·.sessionId == sessionId)
  readMaterials (relations.map fun m => (m.fileId, m.sha256))

/-- `_participants`, with the account and the latest mail of each. -/
def participants (sessionId : Uuid) (db : Database) :
    List (PlaytestSessionParticipant × Option Account × Option MailOutbox) :=
  (db.participants.filter (·.sessionId == sessionId)).map fun p =>
    (p, db.accounts.find? (·.id == p.accountId),
      p.latestOutboxId.bind fun outboxId => db.outbox.find? (·.id == outboxId))

/-- `SessionData`. -/
structure SessionData where
  item : PlaytestSession
  confirmedCount : ℕ
  materials : List MaterialData
  participants : List (PlaytestSessionParticipant × Option Account × Option MailOutbox)

/-- `_session_data`, with `include_participants=True`. -/
def sessionData (item : PlaytestSession) : Program SessionData := do
  let confirmed ← Tx.read (confirmedCount item.id)
  let materials ← materials item.id
  let participants ← Tx.read (participants item.id)
  return ⟨item, confirmed, materials, participants⟩

/-- `_session_data` of each session. -/
def sessionDatas : List PlaytestSession → Program (List SessionData)
  | [] => return []
  | item :: rest => do
    let data ← sessionData item
    let datas ← sessionDatas rest
    return data :: datas

/-- `read_managed_session`. -/
def readManagedSession (actorId workspaceId workId sessionId : Uuid) : Program SessionData :=
  Tx.mapError checkErrors do
    requireManagement actorId workspaceId workId false
    let item ← Tx.read (findSession workspaceId workId sessionId)
    let item ← Tx.require item .playtestUnavailable
    sessionData item

/-- `read_plan`. -/
def readPlan (actorId workspaceId workId planId : Uuid) : Program (List SessionData) :=
  Tx.mapError checkErrors do
    requireManagement actorId workspaceId workId false
    let plan ← Tx.read fun db : Database => db.plans.find? fun p =>
      p.id == planId && p.workspaceId == workspaceId && p.workId == workId
    let plan ← Tx.require plan .playtestUnavailable
    let sessions ← Tx.read fun db : Database => db.sessions.filter (·.planId == plan.id)
    sessionDatas sessions

/-! ## Notifications -/

/-- `_mail_content`: subject and body. -/
def mailContent (settings : Settings) (workName : String) (purpose : MailPurpose)
    (sessionId : Uuid) : Option (String × String) := do
  let (subject, action) ← match purpose with
    | .playtestInvitation => some ("你受邀参加试玩场次", "你受邀参加")
    | .playtestArrangementUpdated => some ("试玩场次安排已更新", "你参与的试玩场次安排已更新")
    | .playtestMaterialUpdated => some ("试玩场次材料已更新", "你参与的试玩场次材料已更新")
    | .playtestCancelled => some ("试玩场次已取消", "你参与的试玩场次已取消")
    | _ => none
  let link := s!"{Notifications.rstripSlash settings.appPublicUrl}/playtest-sessions/{sessionId}"
  return (subject, s!"{action}《{workName}》。请登录 Rulefolio 查看本场安排：\n{link}")

/-- `_todo_details`: kind, source and summary. -/
def todoDetails (item : PlaytestSession) (purpose : MailPurpose) (participantId : Uuid) :
    Option (TodoKind × SourceKey × String) :=
  match purpose with
  | .playtestInvitation => some (.playtestInvitation, .id participantId, "确认试玩邀请")
  | .playtestArrangementUpdated =>
    some (.playtestArrangementUpdated, .revision item.id item.revision, "查看场次安排变更")
  | .playtestMaterialUpdated =>
    some (.playtestMaterialUpdated, .revision item.id item.revision, "查看场次材料更新")
  | .playtestCancelled => some (.playtestCancelled, .id participantId, "查看场次取消说明")
  | _ => none

/-- `participant.latest_outbox_id = outbox.id`. -/
def setLatestOutbox (participant : PlaytestSessionParticipant) (outboxId : Uuid) : Program Unit :=
  updateRow (exitAllowsSessionWrite participant.sessionId) fun db => { db with
    participants := Table.update (·.id == participant.id)
      (fun p => { p with latestOutboxId := some outboxId }) db.participants }

/-- One turn of the loop of `_notify_participants`. -/
def notifyParticipant (uuids : Uuids) (now : Timestamp) (item : PlaytestSession)
    (purpose : MailPurpose) (subject body : String) (participant : PlaytestSessionParticipant) :
    Program Unit := do
  let (kind, sourceKey, summary) ← Tx.require (todoDetails item purpose participant.id) .valueError
  let outboxId ← Notifications.notify uuids
    (fun id => Notifications.todoRow id participant.accountId item.workspaceId (some item.workId)
      kind .playtestSession item.id sourceKey summary s!"作品：{item.workName}")
    fun id todoId => Notifications.enqueueBusinessMail id participant.accountId purpose subject body
      (.playtestSession item.id) (some todoId) none now
  match outboxId with
  | some outboxId => setLatestOutbox participant outboxId
  | none => return ()

/-- `_notify_participants`. -/
def notifyParticipants (settings : Settings) (uuids : Uuids) (now : Timestamp)
    (item : PlaytestSession) (purpose : MailPurpose) : Program Unit := do
  let participants ← Tx.read fun db : Database => db.participants.filter (·.sessionId == item.id)
  let (subject, body) ← Tx.require (mailContent settings item.workName purpose item.id) .valueError
  Tx.forEach participants.zipIdx fun (participant, k) =>
    notifyParticipant (uuids.sub k) now item purpose subject body participant

/-- `_notify_feedback_maintainers`. -/
def notifyFeedbackMaintainers (uuids : Uuids) (now : Timestamp) (item : PlaytestSession)
    (submissionId : Uuid) : Program Unit := do
  let accountIds ← Tx.read (Workspaces.currentWorkMaintainerIds · item.workId)
  Tx.forEach accountIds.zipIdx fun (accountId, k) => do
    let _ ← Notifications.notify (uuids.sub k)
      (fun id => Notifications.todoRow id accountId item.workspaceId (some item.workId)
        .feedbackSubmitted .playtestSession item.id (.id submissionId) "有新的试玩反馈需要处理"
        s!"作品：{item.workName}")
      fun id todoId => Notifications.enqueueBusinessMail id accountId .feedbackSubmitted
        "有新的试玩反馈需要处理"
        s!"《{item.workName}》有新的试玩反馈，请登录 Rulefolio 查看。"
        (.feedbackSubmission submissionId) (some todoId) none now

/-! ## New sessions -/

/-- A point in time of the request, which may lack a time zone. -/
structure RequestedTime where
  instant : Timestamp
  hasZone : Bool
  deriving DecidableEq, Repr

/-- `SessionDraft`. -/
structure SessionDraft where
  scheduledAt : RequestedTime
  location : String
  capacity : ℤ
  materialFileIds : List Uuid
  participantEmails : List String
  deriving DecidableEq, Repr

/-- The test of `_validate_draft`. -/
def SessionDraft.valid (d : SessionDraft) : Bool :=
  !(strip d.location).isEmpty && 0 < d.capacity && d.scheduledAt.hasZone &&
    !d.materialFileIds.isEmpty && d.materialFileIds.Nodup

/-- The active account with this address, its row locked. -/
def findActiveAccountByEmail (email : String) : Program (Option Account) :=
  Tx.selectForUpdate (fun a : Account => .account a.id) fun db : Database =>
    db.accounts.find? fun a => a.email == email && a.status == .active

/-- `_resolve_participants`. `normalizeEmail` is `none` where the source raises `ValueError`. -/
def resolveParticipants (normalizeEmail : String → Option String) (seen : List String) :
    List String → Program (List Account)
  | [] => return []
  | email :: rest => do
    let normalized ← Tx.require (normalizeEmail email) .playtestParticipantUnavailable
    Tx.ensure (!seen.contains normalized) .playtestParticipantUnavailable
    let account ← findActiveAccountByEmail normalized
    let account ← Tx.require account .playtestParticipantUnavailable
    let accounts ← resolveParticipants normalizeEmail (normalized :: seen) rest
    return account :: accounts

/-- The row of a new session. -/
def newSession (id : Uuid) (plan : PlaytestPlan) (workspaceId workId : Uuid)
    (draft : SessionDraft) (snapshot : Works.PlaytestRuleSnapshot) : PlaytestSession where
  id := id
  planId := plan.id
  workspaceId := workspaceId
  workId := workId
  scheduledAt := draft.scheduledAt.instant
  location := strip draft.location
  capacity := draft.capacity.toNat
  status := .scheduled
  revision := 1
  startedAt := none
  observationGoals := plan.observationGoals
  recordingMethod := plan.recordingMethod
  workName := snapshot.workName
  ruleName := snapshot.ruleName
  ruleDescription := snapshot.ruleDescription
  ruleContent := snapshot.ruleContent
  actualHeadcount := none
  actualDurationMinutes := none
  completionStatus := none
  actualPlayMode := none
  actualMaterialRecorded := false
  actualRuleName := none
  actualRuleDescription := none
  actualRuleContent := none
  actualMaterialChangeReason := none

/-- The `INSERT` of a session. -/
def insertSession (item : PlaytestSession) : Program Unit :=
  insertRow [.session item.id] (fun db => !db.sessions.any (·.id == item.id))
    (exitAllowsWrite none item.workspaceId) fun db => { db with sessions := item :: db.sessions }

/-- The `INSERT` of an invited participant. -/
def insertParticipant (id sessionId accountId : Uuid) : Program Unit :=
  insertRow [.participant id]
    (fun db => !db.participants.any fun p => p.id == id ||
      (p.sessionId == sessionId && p.accountId == accountId))
    (exitAllowsSessionWrite sessionId) fun db => { db with
      participants := ⟨id, sessionId, accountId, .invited, none⟩ :: db.participants }

/-- The `INSERT` of the planned materials. -/
def insertSessionMaterials (sessionId : Uuid) (files : List StoredFile) : Program Unit :=
  insertRows (files.map fun f => ⟨sessionId, f.id, f.sha256⟩) (exitAllowsSessionWrite sessionId)
    fun rows db => { db with sessionMaterials := rows ++ db.sessionMaterials }

/-- What a call to a service of another package raises for a playtest. -/
def snapshotErrors : ServiceError → ServiceError
  | .materialSelectionInvalid => .playtestMaterialSelectionInvalid
  | e => checkErrors e

/-- `_create_session`. -/
def createSession (settings : Settings) (normalizeEmail : String → Option String) (uuids : Uuids)
    (now : Timestamp) (actorId workspaceId workId : Uuid) (plan : PlaytestPlan)
    (draft : SessionDraft) : Program PlaytestSession := do
  Tx.ensure draft.valid .playtestMaterialSelectionInvalid
  let accounts ← resolveParticipants normalizeEmail [] draft.participantEmails
  let snapshot ← (Works.snapshotCurrentRuleMaterialsForPlaytest actorId workspaceId workId
    draft.materialFileIds).mapError snapshotErrors
  let item := newSession (uuids.sub 0).here plan workspaceId workId draft snapshot
  insertSession item
  Tx.forEach accounts.zipIdx fun (account, k) =>
    insertParticipant ((uuids.sub 1).sub k).here item.id account.id
  notifyParticipants settings (uuids.sub 2) now item .playtestInvitation
  insertSessionMaterials item.id snapshot.materials
  return item

/-- The sessions of a new plan, in order. -/
def createSessions (settings : Settings) (normalizeEmail : String → Option String)
    (uuids : Uuids) (now : Timestamp) (actorId workspaceId workId : Uuid) (plan : PlaytestPlan) :
    ℕ → List SessionDraft → Program (List PlaytestSession)
  | _, [] => return []
  | k, draft :: rest => do
    let item ← createSession settings normalizeEmail (uuids.sub k) now actorId workspaceId workId
      plan draft
    let items ← createSessions settings normalizeEmail uuids now actorId workspaceId workId plan
      (k + 1) rest
    return item :: items

/-- What the exceptions of `bind_retest_session` become. -/
def retestErrors : ServiceError → ServiceError
  | .issueRevisionConflict => .playtestRetestRevisionConflict
  | .issueManagementForbidden => .playtestRetestUnavailable
  | .issueUnavailable => .playtestRetestUnavailable
  | .issueInvalid => .playtestRetestInvalid
  | .issueOperationRetryable => .playtestOperationRetryable
  | .sqlalchemyError => .playtestOperationRetryable
  | e => e

/-- The call of `bind_retest_session`, for the first of the new sessions. -/
def bindRetest (uuids : Uuids) (now : Timestamp) (actorId workspaceId workId : Uuid)
    (retest : Option (Uuid × ℤ)) (sessions : List PlaytestSession) : Program Unit :=
  match retest, sessions with
  | some (issueId, expectedRevision), item :: _ =>
    Issues.bindRetestSession uuids now actorId workspaceId workId issueId item.id expectedRevision
  | _, _ => return ()

/-- `create_plan`. `retest` is the issue the session is a retest for and the revision its caller
expects; the source refuses one without the other. -/
def createPlan (settings : Settings) (normalizeEmail : String → Option String) (uuids : Uuids)
    (now : Timestamp) (actorId workspaceId workId : Uuid)
    (observationGoals recordingMethod : String) (drafts : List SessionDraft)
    (retest : Option (Uuid × ℤ)) : Program (List SessionData) := do
  Tx.ensure (!(strip observationGoals).isEmpty && !(strip recordingMethod).isEmpty &&
    !drafts.isEmpty && (retest.isNone || drafts.length == 1)) .playtestMaterialSelectionInvalid
  let plan : PlaytestPlan :=
    ⟨(uuids.sub 0).here, workspaceId, workId, strip observationGoals, strip recordingMethod,
      actorId⟩
  Tx.mapError retestErrors do
    requireManagement actorId workspaceId workId true
    insertRow [.plan plan.id] (fun db => !db.plans.any (·.id == plan.id))
      (exitAllowsWrite none workspaceId) fun db => { db with plans := plan :: db.plans }
    let sessions ← createSessions settings normalizeEmail (uuids.sub 1) now actorId workspaceId
      workId plan 0 drafts
    bindRetest (uuids.sub 2) now actorId workspaceId workId retest sessions
    Tx.commitNow
  readPlan actorId workspaceId workId plan.id

/-- `append_session`. -/
def appendSession (settings : Settings) (normalizeEmail : String → Option String) (uuids : Uuids)
    (now : Timestamp) (actorId workspaceId workId planId : Uuid) (draft : SessionDraft) :
    Program SessionData :=
  Tx.mapError checkErrors do
    requireManagement actorId workspaceId workId true
    let plan ← Tx.read fun db : Database => db.plans.find? fun p =>
      p.id == planId && p.workspaceId == workspaceId && p.workId == workId
    let plan ← Tx.require plan .playtestUnavailable
    let item ← createSession settings normalizeEmail uuids now actorId workspaceId workId plan draft
    Tx.commitNow
    readManagedSession actorId workspaceId workId item.id

/-! ## Editing a session -/

/-- The `UPDATE` of a session that its caller has locked. -/
def writeSession (item : PlaytestSession) (change : PlaytestSession → PlaytestSession) :
    Program Unit :=
  updateRow (exitAllowsSessionWrite item.id) fun db => { db with
    sessions := Table.update (·.id == item.id) change db.sessions }

/-- The beginning of every operation that carries a revision. -/
def lockRevision (actorId workspaceId workId sessionId : Uuid) (expectedRevision : ℤ) :
    Program PlaytestSession := do
  requireManagement actorId workspaceId workId true
  let item ← lockManagedSession workspaceId workId sessionId
  Tx.ensure ((item.revision : ℤ) == expectedRevision) .playtestSessionRevisionConflict
  return item

/-- `update_arrangement`. -/
def updateArrangement (settings : Settings) (uuids : Uuids) (now : Timestamp)
    (actorId workspaceId workId sessionId : Uuid) (scheduledAt : RequestedTime)
    (location : String) (capacity expectedRevision : ℤ) : Program SessionData :=
  Tx.mapError checkErrors do
    Tx.ensure (!(strip location).isEmpty && 0 < capacity && scheduledAt.hasZone)
      .playtestMaterialSelectionInvalid
    let item ← lockRevision actorId workspaceId workId sessionId expectedRevision
    Tx.ensure (item.status == .scheduled) .playtestSessionStateInvalid
    let confirmed ← Tx.read (confirmedCount item.id)
    Tx.ensure ((confirmed : ℤ) ≤ capacity) .playtestCapacityBelowConfirmed
    let change : PlaytestSession → PlaytestSession := fun s => { s with
      scheduledAt := scheduledAt.instant
      location := strip location
      capacity := capacity.toNat
      revision := item.revision + 1 }
    writeSession item change
    Notifications.endAll none now
      (.cancelTodosForTarget .playtestSession item.id (some [.playtestArrangementUpdated]))
    notifyParticipants settings uuids now (change item) .playtestArrangementUpdated
    Tx.commitNow
    readManagedSession actorId workspaceId workId sessionId

/-- `replace_materials`. -/
def replaceMaterials (settings : Settings) (uuids : Uuids) (now : Timestamp)
    (actorId workspaceId workId sessionId : Uuid) (materialFileIds : List Uuid)
    (expectedRevision : ℤ) : Program SessionData :=
  Tx.mapError checkErrors do
    Tx.ensure (!materialFileIds.isEmpty && materialFileIds.Nodup) .playtestMaterialSelectionInvalid
    let item ← lockRevision actorId workspaceId workId sessionId expectedRevision
    Tx.ensure (item.status == .scheduled) .playtestSessionStateInvalid
    let snapshot ← (Works.snapshotCurrentRuleMaterialsForPlaytest actorId workspaceId workId
      materialFileIds).mapError snapshotErrors
    let change : PlaytestSession → PlaytestSession := fun s => { s with
      workName := snapshot.workName
      ruleName := snapshot.ruleName
      ruleDescription := snapshot.ruleDescription
      ruleContent := snapshot.ruleContent
      revision := item.revision + 1 }
    writeSession item change
    updateRow (exitAllowsSessionWrite item.id) fun db => { db with
      sessionMaterials := Table.delete (·.sessionId == item.id) db.sessionMaterials }
    insertSessionMaterials item.id snapshot.materials
    Notifications.endAll none now
      (.cancelTodosForTarget .playtestSession item.id (some [.playtestMaterialUpdated]))
    notifyParticipants settings uuids now (change item) .playtestMaterialUpdated
    Tx.commitNow
    readManagedSession actorId workspaceId workId sessionId

/-- `start_session`. -/
def startSession (now : Timestamp) (actorId workspaceId workId sessionId : Uuid)
    (expectedRevision : ℤ) : Program SessionData :=
  Tx.mapError checkErrors do
    let item ← lockRevision actorId workspaceId workId sessionId expectedRevision
    Tx.ensure (item.status == .scheduled) .playtestSessionStateInvalid
    writeSession item fun s => { s with
      status := .started, startedAt := some now, revision := item.revision + 1 }
    Tx.commitNow
    readManagedSession actorId workspaceId workId sessionId

/-- `cancel_session`. -/
def cancelSession (settings : Settings) (uuids : Uuids) (now : Timestamp)
    (actorId workspaceId workId sessionId : Uuid) (expectedRevision : ℤ) : Program SessionData :=
  Tx.mapError checkErrors do
    let item ← lockRevision actorId workspaceId workId sessionId expectedRevision
    Tx.ensure (item.status == .scheduled) .playtestSessionStateInvalid
    let change : PlaytestSession → PlaytestSession := fun s => { s with
      status := .cancelled, revision := item.revision + 1 }
    writeSession item change
    Tx.write fun _ db => { db with
      outbox := Notifications.suppressBusinessMails (.playtestSession item.id) db.outbox }
    Notifications.endAll none now (.cancelTodosForTarget .playtestSession item.id
      (some [.playtestInvitation, .playtestArrangementUpdated, .playtestMaterialUpdated]))
    Issues.cancelRetestArrangedForSession now workspaceId workId item.id
    notifyParticipants settings uuids now (change item) .playtestCancelled
    Tx.commitNow
    readManagedSession actorId workspaceId workId sessionId

/-! ## Results -/

/-- `ActualMaterialDraft`. -/
structure ActualMaterialDraft where
  ruleName : String
  ruleDescription : Option String
  ruleContent : String
  materialFileIds : List Uuid
  changeReason : Option String
  deriving DecidableEq, Repr

/-- `ActualParticipantDraft`. -/
structure ActualParticipantDraft where
  plannedAccountId : Option Uuid
  temporaryCode : Option String
  seatOrFaction : Option String
  scoreOrOutcome : Option String
  deriving DecidableEq, Repr

/-- `ResultDraft`. -/
structure ResultDraft where
  actualHeadcount : Option ℤ
  actualDurationMinutes : Option ℤ
  completionStatus : Option CompletionStatus
  actualMaterial : Option ActualMaterialDraft
  actualParticipants : List ActualParticipantDraft
  actualPlayMode : Option String
  deriving DecidableEq, Repr

/-- The loop of `_validate_result_draft` over the participants: `accounts` and `codes` are those
seen before. -/
def validatedParticipants (planned : List Uuid) (accounts : List Uuid) (codes : List String) :
    List ActualParticipantDraft → Option (List ActualParticipantDraft)
  | [] => some []
  | participant :: rest => do
    let temporaryCode ← optionalText 160 participant.temporaryCode
    let seatOrFaction ← optionalText 160 participant.seatOrFaction
    let scoreOrOutcome ← optionalText 160 participant.scoreOrOutcome
    let row : ActualParticipantDraft :=
      ⟨participant.plannedAccountId, temporaryCode, seatOrFaction, scoreOrOutcome⟩
    match participant.plannedAccountId, temporaryCode with
    | some accountId, none =>
      if planned.contains accountId && !accounts.contains accountId then
        let rows ← validatedParticipants planned (accountId :: accounts) codes rest
        some (row :: rows)
      else none
    | none, some code =>
      if !codes.contains code then
        let rows ← validatedParticipants planned accounts (code :: codes) rest
        some (row :: rows)
      else none
    | _, _ => none

/-- `playtest_result_ready_materials` with a set of identifiers. -/
def resultReadyMaterials (workspaceId workId : Uuid) (fileIds : List Uuid) :
    Program (List StoredFile) :=
  if fileIds.isEmpty then return [] else
    Tx.read fun db : Database => db.files.filter fun f =>
      fileIds.contains f.id && Works.isReadyMaterial workspaceId workId f

/-- The part of `_validate_result_draft` about the material that was played with. -/
def validatedMaterial (item : PlaytestSession) (draft : ActualMaterialDraft) :
    Program ActualMaterialDraft := do
  let ruleName ← Tx.require (requiredText 160 draft.ruleName) .playtestResultInvalid
  let ruleDescription ← Tx.require (optionalText 4000 draft.ruleDescription)
    .playtestResultInvalid
  let ruleContent ← Tx.require (requiredText 20000 draft.ruleContent) .playtestResultInvalid
  Tx.ensure draft.materialFileIds.Nodup .playtestResultInvalid
  let files ← resultReadyMaterials item.workspaceId item.workId draft.materialFileIds
  Tx.ensure (files.length == draft.materialFileIds.length) .playtestResultInvalid
  let scheduled ← materials item.id
  let scheduled := scheduled.map fun m => (m.id, m.sha256)
  let actual := files.map fun f => (f.id, f.sha256)
  let changed := ruleName != item.ruleName || ruleDescription != item.ruleDescription ||
    ruleContent != item.ruleContent || !(actual.all (scheduled.contains ·)) ||
    !(scheduled.all (actual.contains ·))
  let changeReason ← Tx.require (optionalText 4000 draft.changeReason) .playtestResultInvalid
  Tx.ensure (!(changed && changeReason.isNone)) .playtestResultInvalid
  return ⟨ruleName, ruleDescription, ruleContent, files.map (·.id),
    if changed then changeReason else none⟩

/-- The same, for a draft that may leave it out. -/
def validatedMaterial? (item : PlaytestSession) :
    Option ActualMaterialDraft → Program (Option ActualMaterialDraft)
  | none => return none
  | some draft => do
    let material ← validatedMaterial item draft
    return some material

/-- Headcount and duration are not negative, and the headcount covers the participants. -/
def validNumbers (draft : ResultDraft) (participants : List ActualParticipantDraft) : Bool :=
  draft.actualHeadcount.all (fun n => 0 ≤ n && (participants.length : ℤ) ≤ n) &&
    draft.actualDurationMinutes.all (0 ≤ ·)

/-- `_validate_result_draft`. The source tests the numbers before it reads the participants. -/
def validateResultDraft (item : PlaytestSession) (draft : ResultDraft) : Program ResultDraft := do
  Tx.ensure (validNumbers draft []) .playtestResultInvalid
  let actualPlayMode ← Tx.require (optionalText 160 draft.actualPlayMode) .playtestResultInvalid
  let planned ← Tx.read fun db : Database =>
    (db.participants.filter (·.sessionId == item.id)).map (·.accountId)
  let participants ← Tx.require (validatedParticipants planned [] [] draft.actualParticipants)
    .playtestResultInvalid
  Tx.ensure (validNumbers draft participants) .playtestResultInvalid
  let actualMaterial ← validatedMaterial? item draft.actualMaterial
  return { draft with
    actualMaterial := actualMaterial
    actualParticipants := participants
    actualPlayMode := actualPlayMode }

/-- `_require_started`. -/
def requireStarted (item : PlaytestSession) : Program Unit :=
  Tx.ensure (item.status == .started) .playtestSessionStateInvalid

/-- `_actual_materials`. -/
def actualMaterials (item : PlaytestSession) : Program (Option (List MaterialData)) := do
  if !item.actualMaterialRecorded then return none
  let _ ← Tx.require item.actualRuleName .playtestUnavailable
  let _ ← Tx.require item.actualRuleContent .playtestUnavailable
  let relations ← Tx.read fun db : Database =>
    db.actualMaterials.filter (·.sessionId == item.id)
  let result ← readMaterials (relations.map fun m => (m.fileId, m.sha256))
  return some result

/-- `_actual_participants`: each row with the address of its account, by an outer join. -/
def joinedParticipants (sessionId : Uuid) (db : Database) :
    List (PlaytestSessionActualParticipant × Option String) :=
  (db.actualParticipants.filter (·.sessionId == sessionId)).flatMap fun p =>
    match db.accounts.filter fun a => p.plannedAccountId == some a.id with
    | [] => [(p, none)]
    | accounts => accounts.map fun a => (p, some a.email)

/-- `ResultData`; the columns of the session are in its row. -/
structure ResultData where
  session : SessionData
  materialCandidates : List StoredFile
  actualMaterial : Option (List MaterialData)
  actualParticipants : List (PlaytestSessionActualParticipant × Option String)
  observations : List PlaytestObservation

/-- `read_result`. -/
def readResult (actorId workspaceId workId sessionId : Uuid) : Program ResultData :=
  Tx.mapError checkErrors do
    requireManagement actorId workspaceId workId false
    let item ← Tx.read (findSession workspaceId workId sessionId)
    let item ← Tx.require item .playtestUnavailable
    requireStarted item
    let session ← sessionData item
    let candidates ← Tx.read fun db : Database =>
      db.files.filter (Works.isReadyMaterial item.workspaceId item.workId)
    let actualMaterial ← actualMaterials item
    let participants ← Tx.read (joinedParticipants item.id)
    let observations ← Tx.read fun db : Database =>
      db.observations.filter (·.sessionId == item.id)
    return ⟨session, candidates, actualMaterial, participants, observations⟩

/-- The columns `save_result` sets. -/
def recordResult (draft : ResultDraft) (revision : ℕ) (s : PlaytestSession) : PlaytestSession :=
  { s with
    actualHeadcount := draft.actualHeadcount.map Int.toNat
    actualDurationMinutes := draft.actualDurationMinutes.map Int.toNat
    completionStatus := draft.completionStatus
    actualPlayMode := draft.actualPlayMode
    actualMaterialRecorded := draft.actualMaterial.isSome
    actualRuleName := draft.actualMaterial.map (·.ruleName)
    actualRuleDescription := draft.actualMaterial.bind (·.ruleDescription)
    actualRuleContent := draft.actualMaterial.map (·.ruleContent)
    actualMaterialChangeReason := draft.actualMaterial.bind (·.changeReason)
    revision := revision }

/-- The row of a participant who was there. -/
def participantRow (sessionId : Uuid) (p : ActualParticipantDraft) :
    PlaytestSessionActualParticipant :=
  ⟨sessionId, p.plannedAccountId, p.temporaryCode, p.seatOrFaction, p.scoreOrOutcome⟩

/-- The two `DELETE` statements of `save_result`. -/
def deleteActuals (sessionId : Uuid) : Program Unit := do
  updateRow (exitAllowsSessionWrite sessionId) fun db => { db with
    actualMaterials := Table.delete (·.sessionId == sessionId) db.actualMaterials }
  updateRow (exitAllowsSessionWrite sessionId) fun db => { db with
    actualParticipants := Table.delete (·.sessionId == sessionId) db.actualParticipants }

/-- The `INSERT`s of what was played with and of who was there. -/
def insertActuals (sessionId : Uuid) (files : List StoredFile)
    (participants : List ActualParticipantDraft) : Program Unit := do
  insertRows (files.map fun f => ⟨sessionId, f.id, f.sha256⟩) (exitAllowsSessionWrite sessionId)
    fun rows db => { db with actualMaterials := rows ++ db.actualMaterials }
  insertRows (participants.map (participantRow sessionId)) (exitAllowsSessionWrite sessionId)
    fun rows db => { db with actualParticipants := rows ++ db.actualParticipants }

/-- `save_result`. The first statement after the assignments writes the session back, and the
last commit raises its revision. -/
def saveResult (actorId workspaceId workId sessionId : Uuid) (expectedRevision : ℤ)
    (draft : ResultDraft) : Program ResultData :=
  Tx.mapError checkErrors do
    Tx.ensure (0 < expectedRevision) .playtestResultInvalid
    let item ← lockRevision actorId workspaceId workId sessionId expectedRevision
    requireStarted item
    let draft ← validateResultDraft item draft
    writeSession item (recordResult draft item.revision)
    deleteActuals item.id
    let files ← resultReadyMaterials item.workspaceId item.workId
      (draft.actualMaterial.elim [] (·.materialFileIds))
    writeSession item fun s => { s with revision := item.revision + 1 }
    insertActuals item.id files draft.actualParticipants
    Tx.commitNow
    readResult actorId workspaceId workId sessionId

/-! ## Observations -/

/-- What the exceptions of `evidence` become. -/
def observationErrors : ServiceError → ServiceError
  | .observationInvalid => .playtestResultInvalid
  | .observationUnavailable => .playtestUnavailable
  | e => checkErrors e

/-- `create_observation`: the new revision. -/
def createObservation (uuids : Uuids) (actorId workspaceId workId sessionId : Uuid)
    (expectedRevision : ℤ) (kind : ObservationKind) (content : String) : Program ℕ :=
  Tx.mapError observationErrors do
    Tx.ensure (0 < expectedRevision) .playtestResultInvalid
    let item ← lockRevision actorId workspaceId workId sessionId expectedRevision
    requireStarted item
    Evidence.createObservation uuids.here item.id actorId kind content
    writeSession item fun s => { s with revision := item.revision + 1 }
    Tx.commitNow
    return item.revision + 1

/-- `update_observation`: the new revision. -/
def updateObservation (actorId workspaceId workId sessionId observationId : Uuid)
    (expectedRevision : ℤ) (kind : ObservationKind) (content : String) : Program ℕ :=
  Tx.mapError observationErrors do
    Tx.ensure (0 < expectedRevision) .playtestResultInvalid
    let item ← lockRevision actorId workspaceId workId sessionId expectedRevision
    requireStarted item
    Evidence.updateObservation item.id observationId actorId kind content
    writeSession item fun s => { s with revision := item.revision + 1 }
    Tx.commitNow
    return item.revision + 1

/-! ## Confirmation -/

/-- `_participant_session`, with `lock=True`. The participant is loaded before the lock. -/
def participantSession (actorId sessionId : Uuid) :
    Program (PlaytestSessionParticipant × PlaytestSession) := do
  let participant ← Tx.read fun db : Database => db.participants.find? fun p =>
    p.sessionId == sessionId && p.accountId == actorId
  let participant ← Tx.require participant .playtestUnavailable
  let item ← Tx.selectForUpdate (fun s : PlaytestSession => .session s.id) fun db : Database =>
    db.sessions.find? fun s => s.id == sessionId && exitAllowsWrite none s.workspaceId db
  let item ← Tx.require item .playtestUnavailable
  return (participant, item)

/-- `ConfirmationData`. -/
structure ConfirmationData where
  status : ParticipantStatus
  confirmedCount : ℕ
  capacity : ℕ
  deriving DecidableEq, Repr

/-- `confirm_participation`. -/
def confirmParticipation (now : Timestamp) (actorId sessionId : Uuid) :
    Program ConfirmationData :=
  Tx.mapError checkErrors do
    let (participant, item) ← participantSession actorId sessionId
    Workspaces.ensureAuthorizedWritable item.workspaceId
    -- The second load only locks: `participant` keeps what the first one found.
    let again ← Tx.selectForUpdate (fun p : PlaytestSessionParticipant => .participant p.id)
      fun db : Database => db.participants.find? fun p =>
        p.id == participant.id && p.accountId == actorId && exitAllowsSessionWrite sessionId db
    Tx.ensure again.isSome .playtestUnavailable
    Tx.ensure (item.status == .scheduled) .playtestSessionStateInvalid
    let confirmed ← Tx.read (confirmedCount item.id)
    if participant.status = .confirmed then do
      Tx.commitNow
      return ⟨.confirmed, confirmed, item.capacity⟩
    else do
      Tx.ensure (confirmed < item.capacity) .playtestCapacityExceeded
      updateRow (exitAllowsSessionWrite item.id) fun db => { db with
        participants := Table.update (·.id == participant.id)
          (fun p => { p with status := .confirmed }) db.participants }
      Notifications.endAll none now
        (.completeTodoBySource actorId .playtestInvitation (.id participant.id))
      Tx.commitNow
      return ⟨.confirmed, confirmed + 1, item.capacity⟩

/-! ## Feedback -/

/-- `_feedback_managed_session` with `lock=True` and `writable=True`, and
`_require_feedback_mutable`, which accepts every session that is not cancelled. -/
def feedbackManagedSession (actorId workspaceId workId sessionId : Uuid) :
    Program PlaytestSession := do
  requireManagement actorId workspaceId workId true
  let item ← lockManagedSession workspaceId workId sessionId
  Tx.ensure (item.status != .cancelled) .playtestUnavailable
  return item

/-- `create_feedback_item`. -/
def createFeedbackItem (uuids : Uuids) (actorId workspaceId workId sessionId : Uuid)
    (operationKey : String) (draft : Evidence.FeedbackItemDraft) : Program Unit :=
  Tx.mapError checkErrors do
    let item ← feedbackManagedSession actorId workspaceId workId sessionId
    Evidence.createFeedbackItem uuids item.id operationKey draft
    Tx.commitNow

/-- `update_feedback_item`. -/
def updateFeedbackItem (uuids : Uuids) (actorId workspaceId workId sessionId itemId : Uuid)
    (expectedRevision : ℤ) (draft : Evidence.FeedbackItemDraft) : Program Unit :=
  Tx.mapError checkErrors do
    let item ← feedbackManagedSession actorId workspaceId workId sessionId
    Evidence.updateFeedbackItem uuids item.id itemId expectedRevision draft
    Tx.commitNow

/-- `delete_feedback_item`. -/
def deleteFeedbackItem (actorId workspaceId workId sessionId itemId : Uuid) : Program Unit :=
  Tx.mapError checkErrors do
    let item ← feedbackManagedSession actorId workspaceId workId sessionId
    Evidence.deleteFeedbackItem item.id itemId
    Tx.commitNow

/-- `create_feedback_submission`. -/
def createFeedbackSubmission (uuids : Uuids) (now : Timestamp)
    (actorId workspaceId workId sessionId : Uuid) (operationKey : String)
    (draft : Evidence.FeedbackSubmissionDraft) : Program Unit :=
  Tx.mapError checkErrors do
    let item ← feedbackManagedSession actorId workspaceId workId sessionId
    let existing ← Tx.read fun db : Database => db.feedbackSubmissions.any fun s =>
      s.sessionId == item.id && s.creationOperationKey == operationKey
    let submissionId ← Evidence.createOrganizerSubmission (uuids.sub 0).here item.id actorId
      operationKey draft
    if !existing then
      notifyFeedbackMaintainers (uuids.sub 1) now item submissionId
    Tx.commitNow

/-- `update_feedback_submission`. -/
def updateFeedbackSubmission (actorId workspaceId workId sessionId submissionId : Uuid)
    (expectedRevision : ℤ) (draft : Evidence.FeedbackSubmissionDraft) : Program Unit :=
  Tx.mapError checkErrors do
    let item ← feedbackManagedSession actorId workspaceId workId sessionId
    Evidence.updateOrganizerSubmission item.id submissionId actorId expectedRevision draft
    Tx.commitNow

/-- `save_participant_feedback`. -/
def saveParticipantFeedback (uuids : Uuids) (now : Timestamp) (actorId sessionId : Uuid)
    (operationKey : Option String) (expectedRevision : Option ℤ)
    (draft : Evidence.FeedbackSubmissionDraft) : Program Unit :=
  Tx.mapError checkErrors do
    let (_, item) ← participantSession actorId sessionId
    Workspaces.ensureAuthorizedWritable item.workspaceId
    Tx.ensure (item.status == .started) .playtestSessionStateInvalid
    let wasSubmitted ← Tx.read fun db : Database => db.feedbackSubmissions.any fun s =>
      s.sessionId == item.id && s.directAuthorAccountId == some actorId && s.status == .submitted
    let (submissionId, status) ← Evidence.saveDirectSubmission (uuids.sub 0).here item.id actorId
      operationKey expectedRevision draft
    if status = .submitted ∧ !wasSubmitted then
      notifyFeedbackMaintainers (uuids.sub 1) now item submissionId
    Tx.commitNow

end Playtests

end Rulefolio
