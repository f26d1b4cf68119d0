import Mathlib.Data.List.Basic
import Mathlib.Data.Rat.Defs

/-!
# The tables

The rows of the database, one structure a table, in the order of the packages that own them. A
table is the list of its committed rows; `Database` is all of them together.

A column that some modelled function reads or writes is a field under the column's name. Columns
that nothing modelled uses (`created_at` of a table that is never ordered by it, password hashes,
login sessions) are left out. Identifiers are `Uuid`, a clock reading is a `Timestamp`, and a
`datetime` that may be absent is an `Option`. The enumerations are those of the `CHECK`
constraints. `open` is a keyword of Lean, so the value is spelt `opened` here.

## Main definitions

* `MailOutbox`, `NotificationTodo` — what the dispatchers work on.
* `Workspace`, `WorkspaceMember`, `WorkspaceInvitation`, `WorkAccess` — governance.
* `Database` — every table.
-/

namespace Rulefolio

/-- Primary keys. Freshness of a generated key is always an explicit guard. -/
abbrev Uuid := ℕ

/-- Clock readings. No order between two readings of different sessions is assumed. -/
abbrev Timestamp := ℕ

/-- `sha256` digests and ciphertexts. Only equality is ever used. -/
abbrev Bytes := List UInt8

/-! ## Identity -/

/-- `identity_accounts.status`. -/
inductive AccountStatus
  | pendingActivation
  | active
  | disabled
  deriving DecidableEq, Repr

/-- `identity_accounts`. -/
structure Account where
  id : Uuid
  email : String
  status : AccountStatus
  deriving DecidableEq, Repr

/-- What a one-time credential may be used for (the first three), and what a mail is about. -/
inductive MailPurpose
  | accountActivation
  | passwordRecovery
  | workspaceInvitation
  | playtestInvitation
  | playtestArrangementUpdated
  | playtestMaterialUpdated
  | playtestCancelled
  | feedbackSubmitted
  | issueOpened
  | retestArrangementNeeded
  | retestArranged
  deriving DecidableEq, Repr

/-- `identity_one_time_credentials.status`. -/
inductive CredentialStatus
  | active
  | consumed
  | revoked
  deriving DecidableEq, Repr

/-- `identity_one_time_credentials`. -/
structure OneTimeCredential where
  id : Uuid
  accountId : Uuid
  purpose : MailPurpose
  tokenHash : Bytes
  status : CredentialStatus
  expiresAt : Timestamp
  deriving DecidableEq, Repr

/-! ## Workspaces -/

/-- `workspaces`. -/
structure Workspace where
  id : Uuid
  name : String
  description : Option String
  ownerAccountId : Uuid
  revision : ℕ
  exitRequestedAt : Option Timestamp
  exitReadUntil : Option Timestamp
  exitRequestedByAccountId : Option Uuid
  exitOperationKey : Option String
  exitCompletedAt : Option Timestamp
  deriving DecidableEq, Repr

/-- `workspace_members`; `(workspaceId, accountId)` is unique. -/
structure WorkspaceMember where
  workspaceId : Uuid
  accountId : Uuid
  deriving DecidableEq, Repr

/-- `workspace_invitations.status` as stored. -/
inductive InvitationStatus
  | active
  | accepted
  | revoked
  | expired
  deriving DecidableEq, Repr

/-- `workspace_invitations`. -/
structure WorkspaceInvitation where
  id : Uuid
  workspaceId : Uuid
  accountId : Uuid
  credentialId : Uuid
  status : InvitationStatus
  acceptedAt : Option Timestamp
  revokedAt : Option Timestamp
  acceptedOperationKey : Option String
  acceptedOperation : Option String
  deriving DecidableEq, Repr

/-- `work_accesses.role`. -/
inductive WorkRole
  | maintainer
  | organizer
  | collaborator
  deriving DecidableEq, Repr

/-- `work_accesses`; `(workId, accountId)` is the primary key. -/
structure WorkAccess where
  workId : Uuid
  workspaceId : Uuid
  accountId : Uuid
  role : WorkRole
  deriving DecidableEq, Repr

/-! ## Notifications -/

/-- `mail_outbox.business_scope`, the business fact a mail is about. The source formats it as a
string with one prefix for each constructor. -/
inductive BusinessScope
  | playtestSession (sessionId : Uuid)
  | feedbackSubmission (submissionId : Uuid)
  | issue (issueId : Uuid)
  | issueRetestNeeded (issueId : Uuid) (adjustmentGeneration : ℕ)
  | issueRetest (linkId : Uuid)
  deriving DecidableEq, Repr

/-- `notification_todos.source_key`. The source formats it as `id`, `id:revision:n`, `id:open:n`
or `id:adjustment:n`. -/
inductive SourceKey
  | id (key : Uuid)
  | revision (sessionId : Uuid) (revision : ℕ)
  | issueOpen (issueId : Uuid) (revision : ℕ)
  | adjustment (issueId : Uuid) (generation : ℕ)
  deriving DecidableEq, Repr

/-- `mail_outbox.status`. -/
inductive MailStatus
  | pending
  | sending
  | accepted
  | failed
  | unknown
  | cancelled
  | suppressed
  deriving DecidableEq, Repr

/-- `mail_outbox`. -/
structure MailOutbox where
  id : Uuid
  credentialId : Option Uuid
  /-- References `notification_todos.id`, `ON DELETE SET NULL`. -/
  todoId : Option Uuid
  retryOperationKey : Option String
  recipientAccountId : Uuid
  purpose : MailPurpose
  workspaceName : Option String
  businessScope : Option BusinessScope
  frozenSubject : Option String
  frozenBody : Option String
  status : MailStatus
  claimId : Option Uuid
  tokenCiphertext : Option Bytes
  tokenNonce : Option Bytes
  keyVersion : Option ℕ
  attemptCount : ℕ
  nextAttemptAt : Timestamp
  dispatchStartedAt : Option Timestamp
  smtpStartedAt : Option Timestamp
  acceptedAt : Option Timestamp
  lastErrorCode : Option String
  createdAt : Timestamp
  deriving DecidableEq, Repr

/-- `notification_todos.kind`. -/
inductive TodoKind
  | workspaceInvitation
  | playtestInvitation
  | playtestArrangementUpdated
  | playtestMaterialUpdated
  | playtestCancelled
  | feedbackSubmitted
  | issueOpened
  | retestArrangementNeeded
  | retestArranged
  deriving DecidableEq, Repr

/-- `notification_todos.target_kind`. -/
inductive TodoTargetKind
  | workspaceInvitation
  | playtestSession
  | feedbackSubmission
  | issue
  | issueRetest
  deriving DecidableEq, Repr

/-- `notification_todos.status`. -/
inductive TodoStatus
  | opened
  | completed
  | cancelled
  deriving DecidableEq, Repr

/-- `notification_todos`; `(recipientAccountId, kind, sourceKey)` is unique. -/
structure NotificationTodo where
  id : Uuid
  recipientAccountId : Uuid
  workspaceId : Uuid
  workId : Option Uuid
  kind : TodoKind
  targetKind : TodoTargetKind
  targetId : Uuid
  sourceKey : SourceKey
  summary : String
  contextLabel : String
  status : TodoStatus
  retryUsed : Bool
  resolvedAt : Option Timestamp
  deriving DecidableEq, Repr

/-! ## Recovery -/

/-- `recovery_state.stage`. -/
inductive RecoveryStage
  | opened
  | recovering
  | apiOpen
  deriving DecidableEq, Repr

/-! ## Works -/

/-- `works`. The three `rule` columns are all absent or name and content are both present. -/
structure Work where
  id : Uuid
  workspaceId : Uuid
  name : String
  description : String
  creativeStage : String
  targetExperience : String
  minPlayers : ℕ
  maxPlayers : ℕ
  estimatedDurationMinutes : ℕ
  revision : ℕ
  ruleName : Option String
  ruleDescription : Option String
  ruleContent : Option String
  deriving DecidableEq, Repr

/-- `work_material_files`; the pair is the primary key. -/
structure WorkMaterialFile where
  workId : Uuid
  fileId : Uuid
  deriving DecidableEq, Repr

/-! ## Files -/

/-- `files.status`. -/
inductive FileStatus
  | pending
  | ready
  | failed
  deriving DecidableEq, Repr

/-- `files.kind`. -/
inductive FileKind
  | image
  | material
  deriving DecidableEq, Repr

/-- `files`. -/
structure StoredFile where
  id : Uuid
  workspaceId : Uuid
  workId : Uuid
  uploaderAccountId : Uuid
  displayName : String
  declaredContentType : String
  detectedContentType : String
  sizeBytes : ℕ
  sha256 : Bytes
  objectKey : String
  status : FileStatus
  kind : FileKind
  createdAt : Timestamp
  completedAt : Option Timestamp
  deriving DecidableEq, Repr

/-! ## Playtests -/

/-- `playtest_plans`. -/
structure PlaytestPlan where
  id : Uuid
  workspaceId : Uuid
  workId : Uuid
  observationGoals : String
  recordingMethod : String
  creatorAccountId : Uuid
  deriving DecidableEq, Repr

/-- `playtest_sessions.status`. -/
inductive SessionStatus
  | scheduled
  | started
  | cancelled
  deriving DecidableEq, Repr

/-- `playtest_sessions.completion_status`. -/
inductive CompletionStatus
  | completed
  | interrupted
  deriving DecidableEq, Repr

/-- `playtest_sessions`. -/
structure PlaytestSession where
  id : Uuid
  planId : Uuid
  workspaceId : Uuid
  workId : Uuid
  scheduledAt : Timestamp
  location : String
  capacity : ℕ
  status : SessionStatus
  revision : ℕ
  startedAt : Option Timestamp
  observationGoals : String
  recordingMethod : String
  workName : String
  ruleName : String
  ruleDescription : Option String
  ruleContent : String
  actualHeadcount : Option ℕ
  actualDurationMinutes : Option ℕ
  completionStatus : Option CompletionStatus
  actualPlayMode : Option String
  actualMaterialRecorded : Bool
  actualRuleName : Option String
  actualRuleDescription : Option String
  actualRuleContent : Option String
  actualMaterialChangeReason : Option String
  deriving DecidableEq, Repr

/-- `playtest_session_materials`: the planned materials with the digest they had. -/
structure PlaytestSessionMaterial where
  sessionId : Uuid
  fileId : Uuid
  sha256 : Bytes
  deriving DecidableEq, Repr

/-- `playtest_session_participants.status`. -/
inductive ParticipantStatus
  | invited
  | confirmed
  deriving DecidableEq, Repr

/-- `playtest_session_participants`; `(sessionId, accountId)` is unique. -/
structure PlaytestSessionParticipant where
  id : Uuid
  sessionId : Uuid
  accountId : Uuid
  status : ParticipantStatus
  latestOutboxId : Option Uuid
  deriving DecidableEq, Repr

/-- `playtest_session_actual_materials`. -/
structure PlaytestSessionActualMaterial where
  sessionId : Uuid
  fileId : Uuid
  sha256 : Bytes
  deriving DecidableEq, Repr

/-- `playtest_session_actual_participants`: either a planned account or a temporary code. -/
structure PlaytestSessionActualParticipant where
  sessionId : Uuid
  plannedAccountId : Option Uuid
  temporaryCode : Option String
  seatOrFaction : Option String
  scoreOrOutcome : Option String
  deriving DecidableEq, Repr

/-! ## Evidence -/

/-- `playtest_observations.kind`. -/
inductive ObservationKind
  | fact
  | organizerInterpretation
  | temporaryVariant
  deriving DecidableEq, Repr

/-- `playtest_observations`. -/
structure PlaytestObservation where
  id : Uuid
  sessionId : Uuid
  kind : ObservationKind
  content : String
  recordedByAccountId : Uuid
  deriving DecidableEq, Repr

/-- `playtest_feedback_items.kind`. -/
inductive FeedbackKind
  | shortText
  | singleChoice
  | number
  deriving DecidableEq, Repr

/-- `playtest_feedback_items`. -/
structure PlaytestFeedbackItem where
  id : Uuid
  sessionId : Uuid
  kind : FeedbackKind
  question : String
  revision : ℕ
  isLocked : Bool
  creationOperationKey : String
  deriving DecidableEq, Repr

/-- `playtest_feedback_options`. -/
structure PlaytestFeedbackOption where
  id : Uuid
  sessionId : Uuid
  itemId : Uuid
  label : String
  position : ℕ
  deriving DecidableEq, Repr

/-- Who a feedback submission comes from. -/
inductive FeedbackSource
  | direct
  | oralDiscussion
  | paperRecord
  | organizerObservation
  | temporaryAlias
  deriving DecidableEq, Repr

/-- `playtest_feedback_submissions.status`. -/
inductive SubmissionStatus
  | draft
  | submitted
  deriving DecidableEq, Repr

/-- `playtest_feedback_submissions`. -/
structure PlaytestFeedbackSubmission where
  id : Uuid
  sessionId : Uuid
  source : FeedbackSource
  directAuthorAccountId : Option Uuid
  temporaryAlias : Option String
  recordedByAccountId : Uuid
  status : SubmissionStatus
  revision : ℕ
  creationOperationKey : String
  deriving DecidableEq, Repr

/-- `playtest_feedback_answers`: the authorship columns repeat those of the submission. -/
structure PlaytestFeedbackAnswer where
  submissionId : Uuid
  sessionId : Uuid
  itemId : Uuid
  kind : FeedbackKind
  textValue : Option String
  optionId : Option Uuid
  /-- A finite double, of which only equality is used. -/
  numberValue : Option ℚ
  source : FeedbackSource
  directAuthorAccountId : Option Uuid
  recordedByAccountId : Uuid
  status : SubmissionStatus
  deriving DecidableEq, Repr

/-! ## Issues -/

/-- `issues.decision`. -/
inductive IssueDecision
  | modify
  | observe
  | reject
  deriving DecidableEq, Repr

/-- `issues.status`. -/
inductive IssueStatus
  | opened
  | closed
  deriving DecidableEq, Repr

/-- `issues`. -/
structure Issue where
  id : Uuid
  workspaceId : Uuid
  workId : Uuid
  description : String
  decision : IssueDecision
  reason : String
  adjustmentNote : Option String
  adjustmentGeneration : ℕ
  status : IssueStatus
  revision : ℕ
  creationOperationKey : String
  deriving DecidableEq, Repr

/-- `issue_retest_links.conclusion`. -/
inductive RetestConclusion
  | verified
  | continueObserving
  | adjustAgain
  | insufficientEvidence
  deriving DecidableEq, Repr

/-- `issue_retest_links`; `(issueId, sessionId)` is unique and an issue has at most one row with
a conclusion. -/
structure IssueRetestLink where
  id : Uuid
  issueId : Uuid
  sessionId : Uuid
  adjustmentGeneration : ℕ
  conclusion : Option RetestConclusion
  conclusionReason : Option String
  deriving DecidableEq, Repr

/-- `issue_evidence_links`: exactly one of the two references is present. -/
structure IssueEvidenceLink where
  id : Uuid
  issueId : Uuid
  observationId : Option Uuid
  feedbackSubmissionId : Option Uuid
  deriving DecidableEq, Repr

/-! ## All tables -/

/-- The committed content of the database. -/
structure Database where
  accounts : List Account
  credentials : List OneTimeCredential
  workspaces : List Workspace
  members : List WorkspaceMember
  invitations : List WorkspaceInvitation
  accesses : List WorkAccess
  works : List Work
  workMaterials : List WorkMaterialFile
  files : List StoredFile
  plans : List PlaytestPlan
  sessions : List PlaytestSession
  sessionMaterials : List PlaytestSessionMaterial
  participants : List PlaytestSessionParticipant
  actualMaterials : List PlaytestSessionActualMaterial
  actualParticipants : List PlaytestSessionActualParticipant
  observations : List PlaytestObservation
  feedbackItems : List PlaytestFeedbackItem
  feedbackOptions : List PlaytestFeedbackOption
  feedbackSubmissions : List PlaytestFeedbackSubmission
  feedbackAnswers : List PlaytestFeedbackAnswer
  issues : List Issue
  retestLinks : List IssueRetestLink
  evidenceLinks : List IssueEvidenceLink
  todos : List NotificationTodo
  outbox : List MailOutbox
  /-- The `stage` of the single row of `recovery_state`. -/
  recoveryStage : RecoveryStage
  deriving DecidableEq, Repr

/-- The database after the migrations, before anything was written. -/
def Database.empty : Database where
  accounts := []
  credentials := []
  workspaces := []
  members := []
  invitations := []
  accesses := []
  works := []
  workMaterials := []
  files := []
  plans := []
  sessions := []
  sessionMaterials := []
  participants := []
  actualMaterials := []
  actualParticipants := []
  observations := []
  feedbackItems := []
  feedbackOptions := []
  feedbackSubmissions := []
  feedbackAnswers := []
  issues := []
  retestLinks := []
  evidenceLinks := []
  todos := []
  outbox := []
  recoveryStage := .opened

end Rulefolio
