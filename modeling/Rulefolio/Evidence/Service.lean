import Rulefolio.Access
import Rulefolio.Text

/-!
# `app.evidence.service`

Observations and feedback of a session, and the sources an issue can refer to. Every function here
runs inside a transaction of `app.playtests` or `app.issues`, which has checked the caller and
locked the session or the issue. None of them commits.

The statements that write a row below a session raise when the workspace of the session is in exit.

## Main definitions

* `createObservation`, `updateObservation`.
* `createFeedbackItem`, `updateFeedbackItem`, `deleteFeedbackItem`.
* `validatedAnswers`, `replaceAnswers` — the answers of a submission.
* `createOrganizerSubmission`, `updateOrganizerSubmission`, `saveDirectSubmission`.
* `validateIssueEvidenceSources`, `hasIssueEvidenceFromSession`.
-/

namespace Rulefolio

namespace Evidence

/-- `_account_email`. -/
def accountEmail (accountId : Uuid) : Program String := do
  let account ← Tx.read fun db : Database => db.accounts.find? (·.id == accountId)
  let account ← Tx.require account .observationUnavailable
  return account.email

/-! ## Observations -/

/-- `create_observation`. -/
def createObservation (id sessionId actorId : Uuid) (kind : ObservationKind) (content : String) :
    Program Unit := do
  Tx.ensure (!(strip content).isEmpty) .observationInvalid
  insertRow [.observation id] (fun db => !db.observations.any (·.id == id))
    (exitAllowsSessionWrite sessionId) fun db => { db with
      observations := ⟨id, sessionId, kind, strip content, actorId⟩ :: db.observations }
  let _ ← accountEmail actorId

/-- `update_observation`. -/
def updateObservation (sessionId observationId actorId : Uuid) (kind : ObservationKind)
    (content : String) : Program Unit := do
  Tx.ensure (!(strip content).isEmpty) .observationInvalid
  let item ← Tx.selectForUpdate (fun o : PlaytestObservation => .observation o.id) fun db =>
    db.observations.find? fun o => o.id == observationId && o.sessionId == sessionId &&
      exitAllowsSessionWrite sessionId db
  let item ← Tx.require item .observationUnavailable
  updateRow (fun db => db.observations.any (·.id == item.id) && exitAllowsSessionWrite sessionId db)
    fun db => { db with
      observations := Table.update (·.id == item.id)
        (fun o => { o with
          kind := kind, content := strip content, recordedByAccountId := actorId })
        db.observations }
  let _ ← accountEmail actorId

/-! ## Feedback items -/

/-- `FeedbackItemDraft`. -/
structure FeedbackItemDraft where
  kind : FeedbackKind
  question : String
  options : List String
  deriving DecidableEq, Repr

/-- `_item_draft`. -/
def itemDraft (draft : FeedbackItemDraft) : Option FeedbackItemDraft := do
  let question ← requiredText 4000 draft.question
  let options ← draft.options.mapM (requiredText 1000)
  if draft.kind = .singleChoice then
    if options.length < 2 || !options.Nodup then none else some ⟨draft.kind, question, options⟩
  else
    if options.isEmpty then some ⟨draft.kind, question, options⟩ else none

/-- The options of an item, in their order. -/
def optionRows (uuids : Uuids) (sessionId itemId : Uuid) (options : List String) :
    List PlaytestFeedbackOption :=
  options.zipIdx.map fun (label, k) => ⟨(uuids.sub k).here, sessionId, itemId, label, k + 1⟩

/-- An operation key as the routers accept it. -/
def validOperationKey (operationKey : String) : Bool :=
  !operationKey.isEmpty && operationKey.length ≤ 128

/-- `create_feedback_item`. -/
def createFeedbackItem (uuids : Uuids) (sessionId : Uuid) (operationKey : String)
    (draft : FeedbackItemDraft) : Program Unit := do
  let draft ← Tx.require (itemDraft draft) .feedbackInvalid
  Tx.ensure (validOperationKey operationKey) .feedbackInvalid
  let existing ← Tx.selectForUpdate (fun i : PlaytestFeedbackItem => .feedbackItem i.id)
    fun db => db.feedbackItems.find? fun i =>
      i.sessionId == sessionId && i.creationOperationKey == operationKey
  match existing with
  | some existing => do
    let options ← Tx.read fun db : Database =>
      db.feedbackOptions.filter fun o => o.sessionId == sessionId && o.itemId == existing.id
    Tx.ensure (existing.kind == draft.kind && existing.question == draft.question &&
      options.map (·.label) == draft.options) .feedbackOperationConflict
  | none => do
    let itemId := (uuids.sub 0).here
    insertRow [.feedbackItem itemId] (fun db => !db.feedbackItems.any fun i => i.id == itemId ||
        (i.sessionId == sessionId && i.creationOperationKey == operationKey))
      (exitAllowsSessionWrite sessionId) fun db => { db with
        feedbackItems := ⟨itemId, sessionId, draft.kind, draft.question, 1, false, operationKey⟩ ::
          db.feedbackItems }
    insertRows (optionRows (uuids.sub 1) sessionId itemId draft.options)
      (exitAllowsSessionWrite sessionId) fun rows db => { db with
        feedbackOptions := rows ++ db.feedbackOptions }

/-- `_load_item`, with `lock=True`. -/
def loadItem (sessionId itemId : Uuid) : Program PlaytestFeedbackItem := do
  let item ← Tx.selectForUpdate (fun i : PlaytestFeedbackItem => .feedbackItem i.id) fun db =>
    db.feedbackItems.find? fun i => i.id == itemId && i.sessionId == sessionId &&
      exitAllowsSessionWrite sessionId db
  Tx.require item .feedbackItemUnavailable

/-- `DELETE FROM playtest_feedback_options` of an item. -/
def deleteOptions (sessionId itemId : Uuid) : Program Unit :=
  updateRow (exitAllowsSessionWrite sessionId) fun db => { db with
    feedbackOptions := Table.delete (fun o => o.sessionId == sessionId && o.itemId == itemId)
      db.feedbackOptions }

/-- `update_feedback_item`. -/
def updateFeedbackItem (uuids : Uuids) (sessionId itemId : Uuid) (expectedRevision : ℤ)
    (draft : FeedbackItemDraft) : Program Unit := do
  let draft ← Tx.require (itemDraft draft) .feedbackInvalid
  Tx.ensure (0 < expectedRevision) .feedbackInvalid
  let item ← loadItem sessionId itemId
  Tx.ensure (!item.isLocked) .feedbackItemLocked
  Tx.ensure ((item.revision : ℤ) == expectedRevision) .feedbackItemRevisionConflict
  updateRow (fun db => db.feedbackItems.any (fun i => i.id == item.id && !i.isLocked) &&
      exitAllowsSessionWrite sessionId db)
    fun db => { db with
      feedbackItems := Table.update (·.id == item.id)
        (fun i => { i with
          kind := draft.kind, question := draft.question, revision := item.revision + 1 })
        db.feedbackItems }
  deleteOptions sessionId item.id
  insertRows (optionRows uuids sessionId item.id draft.options)
    (exitAllowsSessionWrite sessionId) fun rows db => { db with
      feedbackOptions := rows ++ db.feedbackOptions }

/-- `delete_feedback_item`. -/
def deleteFeedbackItem (sessionId itemId : Uuid) : Program Unit := do
  let item ← loadItem sessionId itemId
  Tx.ensure (!item.isLocked) .feedbackItemLocked
  deleteOptions sessionId item.id
  updateRow (fun db => db.feedbackItems.any (fun i => i.id == item.id && !i.isLocked) &&
      exitAllowsSessionWrite sessionId db)
    fun db => { db with feedbackItems := Table.delete (·.id == item.id) db.feedbackItems }

/-! ## Answers -/

/-- A number of the request: a double, which need not be finite. -/
inductive Number
  | finite (value : ℚ)
  | notFinite
  deriving DecidableEq, Repr

/-- `FeedbackAnswerDraft`. -/
structure FeedbackAnswerDraft where
  itemId : Uuid
  textValue : Option String
  optionId : Option Uuid
  numberValue : Option Number
  deriving DecidableEq, Repr

/-- `FeedbackSubmissionDraft`. -/
structure FeedbackSubmissionDraft where
  source : FeedbackSource
  temporaryAlias : Option String
  status : SubmissionStatus
  answers : List FeedbackAnswerDraft
  deriving DecidableEq, Repr

/-- One answer against the item it is for. -/
def validatedAnswer (sessionId : Uuid) (items : List PlaytestFeedbackItem)
    (options : List PlaytestFeedbackOption) (answer : FeedbackAnswerDraft) :
    Option FeedbackAnswerDraft := do
  let item ← items.find? (·.id == answer.itemId)
  match item.kind with
  | .shortText =>
    if answer.optionId.isSome || answer.numberValue.isSome then none
    else
      let text ← answer.textValue
      let text ← requiredText 4000 text
      some ⟨item.id, some text, none, none⟩
  | .singleChoice =>
    let optionId ← answer.optionId
    let option ← options.find? (·.id == optionId)
    if answer.textValue.isSome || answer.numberValue.isSome || option.itemId != item.id ||
      option.sessionId != sessionId then none
    else some ⟨item.id, none, some option.id, none⟩
  | .number =>
    match answer.numberValue with
    | some (.finite value) =>
      if answer.textValue.isSome || answer.optionId.isSome then none
      else some ⟨item.id, none, none, some (.finite value)⟩
    | _ => none

/-- `_validated_answers`. -/
def validatedAnswers (sessionId : Uuid) (answers : List FeedbackAnswerDraft) :
    Program (List FeedbackAnswerDraft) := do
  let itemIds := answers.map (·.itemId)
  Tx.ensure (!answers.isEmpty && itemIds.Nodup) .feedbackInvalid
  let items ← Tx.read fun db : Database =>
    db.feedbackItems.filter fun i => i.sessionId == sessionId && itemIds.contains i.id
  Tx.ensure (items.length == itemIds.length) .feedbackInvalid
  let optionIds := answers.filterMap (·.optionId)
  let options ← Tx.read fun db : Database =>
    db.feedbackOptions.filter fun o => o.sessionId == sessionId && optionIds.contains o.id
  Tx.require (answers.mapM (validatedAnswer sessionId items options)) .feedbackInvalid

/-- The row of an answer, which repeats the authorship of its submission. -/
def answerRow (submission : PlaytestFeedbackSubmission) (answer : FeedbackAnswerDraft) :
    PlaytestFeedbackAnswer where
  submissionId := submission.id
  sessionId := submission.sessionId
  itemId := answer.itemId
  kind :=
    if answer.textValue.isSome then .shortText
    else if answer.optionId.isSome then .singleChoice else .number
  textValue := answer.textValue
  optionId := answer.optionId
  numberValue := answer.numberValue.bind fun
    | .finite value => some value
    | .notFinite => none
  source := submission.source
  directAuthorAccountId := submission.directAuthorAccountId
  recordedByAccountId := submission.recordedByAccountId
  status := submission.status

/-- One `INSERT` of an answer. Its trigger locks the item. -/
def insertAnswer (submission : PlaytestFeedbackSubmission) (answer : FeedbackAnswerDraft) :
    Program Unit :=
  insertRow [] (fun _ => true) (exitAllowsSessionWrite submission.sessionId) fun db => { db with
    feedbackAnswers := answerRow submission answer :: db.feedbackAnswers
    feedbackItems := Table.update
      (fun i => i.id == answer.itemId && i.sessionId == submission.sessionId)
      (fun i => { i with isLocked := true }) db.feedbackItems }

/-- `_replace_answers`. -/
def replaceAnswers (submission : PlaytestFeedbackSubmission)
    (answers : List FeedbackAnswerDraft) : Program Unit := do
  updateRow (exitAllowsSessionWrite submission.sessionId) fun db => { db with
    feedbackAnswers := Table.delete
      (fun a => a.submissionId == submission.id && a.sessionId == submission.sessionId)
      db.feedbackAnswers }
  Tx.forEach answers (insertAnswer submission)

/-! ## Submissions -/

/-- `_organizer_draft`. -/
def organizerDraft (draft : FeedbackSubmissionDraft) : Option FeedbackSubmissionDraft := do
  let temporaryAlias ← optionalText 160 draft.temporaryAlias
  if draft.source = .direct ∨ draft.status ≠ .submitted then none
  else if (draft.source == .temporaryAlias) != temporaryAlias.isSome then none
  else some { draft with temporaryAlias := temporaryAlias }

/-- The `INSERT` of a submission, and of its answers. -/
def insertSubmission (submission : PlaytestFeedbackSubmission)
    (answers : List FeedbackAnswerDraft) : Program Unit := do
  insertRow [.feedbackSubmission submission.id]
    (fun db => !db.feedbackSubmissions.any fun s => s.id == submission.id ||
      (s.sessionId == submission.sessionId &&
        (s.creationOperationKey == submission.creationOperationKey ||
          (s.directAuthorAccountId.isSome &&
            s.directAuthorAccountId == submission.directAuthorAccountId))))
    (exitAllowsSessionWrite submission.sessionId) fun db => { db with
      feedbackSubmissions := submission :: db.feedbackSubmissions }
  replaceAnswers submission answers

/-- The `UPDATE` of a submission, and the replacement of its answers. -/
def rewriteSubmission (submission : PlaytestFeedbackSubmission)
    (answers : List FeedbackAnswerDraft) : Program Unit := do
  updateRow (fun db => db.feedbackSubmissions.any (·.id == submission.id) &&
      exitAllowsSessionWrite submission.sessionId db)
    fun db => { db with
      feedbackSubmissions := Table.update (·.id == submission.id)
        (fun s => { s with
          source := submission.source
          temporaryAlias := submission.temporaryAlias
          status := submission.status
          revision := submission.revision })
        db.feedbackSubmissions }
  replaceAnswers submission answers

/-- `create_organizer_submission`: the identifier of the submission. -/
def createOrganizerSubmission (id sessionId actorId : Uuid) (operationKey : String)
    (draft : FeedbackSubmissionDraft) : Program Uuid := do
  let draft ← Tx.require (organizerDraft draft) .feedbackInvalid
  let answers ← validatedAnswers sessionId draft.answers
  Tx.ensure (validOperationKey operationKey) .feedbackInvalid
  let existing ← Tx.selectForUpdate
    (fun s : PlaytestFeedbackSubmission => .feedbackSubmission s.id) fun db =>
      db.feedbackSubmissions.find? fun s =>
        s.sessionId == sessionId && s.creationOperationKey == operationKey
  match existing with
  | some existing => do
    Tx.ensure (existing.recordedByAccountId == actorId) .feedbackOperationConflict
    return existing.id
  | none => do
    insertSubmission
      { id, sessionId, source := draft.source, directAuthorAccountId := none,
        temporaryAlias := draft.temporaryAlias, recordedByAccountId := actorId,
        status := .submitted, revision := 1, creationOperationKey := operationKey } answers
    let _ ← accountEmail actorId
    return id

/-- The submission of a session with this identifier. -/
def findSubmission (sessionId submissionId : Uuid) (db : Database) :
    Option PlaytestFeedbackSubmission :=
  db.feedbackSubmissions.find? fun s => s.id == submissionId && s.sessionId == sessionId

/-- `update_organizer_submission`. The object written back is the one the first query loaded; the
session is locked, so the second one finds the same. -/
def updateOrganizerSubmission (sessionId submissionId actorId : Uuid) (expectedRevision : ℤ)
    (draft : FeedbackSubmissionDraft) : Program Unit := do
  let draft ← Tx.require (organizerDraft draft) .feedbackInvalid
  let answers ← validatedAnswers sessionId draft.answers
  Tx.ensure (0 < expectedRevision) .feedbackInvalid
  let submission ← Tx.read (findSubmission sessionId submissionId)
  let submission ← Tx.require submission .feedbackSubmissionUnavailable
  Tx.ensure (submission.source != .direct && submission.recordedByAccountId == actorId)
    .feedbackSubmissionForbidden
  let again ← Tx.selectForUpdate
    (fun s : PlaytestFeedbackSubmission => .feedbackSubmission s.id)
    (findSubmission sessionId submissionId)
  Tx.ensure again.isSome .feedbackSubmissionForbidden
  Tx.ensure ((submission.revision : ℤ) == expectedRevision) .feedbackSubmissionRevisionConflict
  rewriteSubmission { submission with
    source := draft.source
    temporaryAlias := draft.temporaryAlias
    revision := submission.revision + 1 } answers
  let _ ← accountEmail submission.recordedByAccountId

/-- `prevent_linked_feedback_submission_draft`, the trigger on `status`: a submission that an issue
refers to is not taken back. It fires before an `UPDATE` that changes the status. -/
def preventLinkedFeedbackSubmissionDraft (submission : PlaytestFeedbackSubmission)
    (status : SubmissionStatus) : Program Unit :=
  if submission.status ≠ status ∧ status = .draft then do
    Tx.lockAll .update [.feedbackLink submission.id]
    let linked ← Tx.read fun db : Database =>
      db.evidenceLinks.any (·.feedbackSubmissionId == some submission.id)
    Tx.ensure (!linked) .feedbackSubmissionLinked
  else return ()

/-- `save_direct_submission`: the identifier of the submission and its status. -/
def saveDirectSubmission (id sessionId actorId : Uuid) (operationKey : Option String)
    (expectedRevision : Option ℤ) (draft : FeedbackSubmissionDraft) :
    Program (Uuid × SubmissionStatus) := do
  Tx.ensure (draft.source == .direct && draft.temporaryAlias.isNone) .feedbackInvalid
  let answers ← validatedAnswers sessionId draft.answers
  let submission ← Tx.selectForUpdate
    (fun s : PlaytestFeedbackSubmission => .feedbackSubmission s.id) fun db =>
      db.feedbackSubmissions.find? fun s =>
        s.sessionId == sessionId && s.directAuthorAccountId == some actorId
  match submission with
  | none => do
    let operationKey ← Tx.require operationKey .feedbackInvalid
    Tx.ensure (expectedRevision.isNone && validOperationKey operationKey) .feedbackInvalid
    insertSubmission
      { id, sessionId, source := .direct, directAuthorAccountId := some actorId,
        temporaryAlias := none, recordedByAccountId := actorId, status := draft.status,
        revision := 1, creationOperationKey := operationKey } answers
    let _ ← accountEmail actorId
    return (id, draft.status)
  | some submission =>
    match expectedRevision with
    | none => do
      Tx.ensure (operationKey == some submission.creationOperationKey) .feedbackOperationConflict
      return (submission.id, submission.status)
    | some expectedRevision => do
      Tx.ensure (0 < expectedRevision && (submission.revision : ℤ) == expectedRevision)
        .feedbackSubmissionRevisionConflict
      preventLinkedFeedbackSubmissionDraft submission draft.status
      rewriteSubmission { submission with
        status := draft.status
        revision := submission.revision + 1 } answers
      let _ ← accountEmail submission.recordedByAccountId
      return (submission.id, draft.status)

/-! ## Evidence of issues -/

/-- `IssueEvidenceReference`. -/
inductive IssueEvidenceReference
  | observation (sourceId : Uuid)
  | feedbackSubmission (sourceId : Uuid)
  deriving DecidableEq, Repr

/-- The session a source belongs to, if it can be referred to. -/
def sourceSession (reference : IssueEvidenceReference) (db : Database) : Option Uuid :=
  match reference with
  | .observation sourceId => (db.observations.find? (·.id == sourceId)).map (·.sessionId)
  | .feedbackSubmission sourceId => (db.feedbackSubmissions.find? fun s =>
      s.id == sourceId && s.status == .submitted).map (·.sessionId)

/-- One turn of the loop of `validate_issue_evidence_sources`. -/
def validateSource (workspaceId workId : Uuid) (reference : IssueEvidenceReference) :
    Program Unit := do
  let sessionId ← Tx.read (sourceSession reference)
  let sessionId ← Tx.require sessionId .issueEvidenceUnavailable
  let item ← Tx.read fun db : Database => db.sessions.find? (·.id == sessionId)
  let item ← Tx.require item .issueEvidenceUnavailable
  Tx.ensure (item.workspaceId == workspaceId && item.workId == workId) .issueEvidenceUnavailable

/-- `validate_issue_evidence_sources`. -/
def validateIssueEvidenceSources (workspaceId workId : Uuid)
    (references : List IssueEvidenceReference) : Program Unit := do
  Tx.ensure (!references.isEmpty && references.Nodup) .issueEvidenceInvalid
  Tx.forEach references (validateSource workspaceId workId)

/-- `has_issue_evidence_from_session`. -/
def hasIssueEvidenceFromSession (sessionId : Uuid) :
    List IssueEvidenceReference → Program Bool
  | [] => return false
  | reference :: rest => do
    let source ← Tx.read (sourceSession reference)
    if source == some sessionId then return true else hasIssueEvidenceFromSession sessionId rest

end Evidence

end Rulefolio
