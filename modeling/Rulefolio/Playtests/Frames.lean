import Rulefolio.Playtests.Service

/-!
# What the shared parts of the services change

Checks, queries, todos and mails: most of what a service does changes nothing that another service
relies on. `Aside` are the changes these parts make. Each part
is shown to make no others by its structure, for every relation that contains them (`Frame`). So
what is proved here once serves every view of the database that these changes do not show in.

The parts that write an item, an answer or a submission of feedback, a reference of an issue or an
observation take the closure of the relation under their own statements as a hypothesis.

## Main definitions

* `Aside`, `Frame`, `Keeps`.

## Main results

* `keeps_notifyParticipants`, `keeps_endAll` — notifications.
* `keeps_validateResultDraft`, `keeps_snapshot` — queries.
* `keeps_createFeedbackItem` and its like — feedback.
-/

namespace Rulefolio

namespace Playtests

open Notifications (Verdict)

variable {α β ρ : Type} {F : Database → Database → Prop} {K : TodoKind → Prop}

/-- The changes the shared parts of the services make. `K` are the kinds of todos they create. -/
inductive Aside (K : TodoKind → Prop) (db : Database) : Database → Prop
  | same : Aside K db db
  | mails (change : List MailOutbox → List MailOutbox) :
      Aside K db { db with outbox := change db.outbox }
  | ended (now : Timestamp) (todoId : Uuid) (verdict : Verdict) :
      Aside K db (verdict.apply now todoId db)
  | created (todo : NotificationTodo) (hkind : K todo.kind) :
      Aside K db { db with todos := todo :: db.todos }
  | notified (participantId outboxId : Uuid) :
      Aside K db { db with
        participants := Table.update (·.id == participantId)
          (fun p => { p with latestOutboxId := some outboxId }) db.participants }

/-- A relation that contains the changes of the shared parts. -/
abbrev Frame (F : Database → Database → Prop) (K : TodoKind → Prop) : Prop :=
  ∀ db db', Aside K db db' → F db db'

/-- A relation that contains every change of the items, the options and the answers of feedback by
which no item comes or goes. -/
abbrev FeedbackFrame (F : Database → Database → Prop) : Prop :=
  ∀ (db : Database) (items : List PlaytestFeedbackItem) (options : List PlaytestFeedbackOption)
    (answers : List PlaytestFeedbackAnswer),
    items.map (·.id) = db.feedbackItems.map (·.id) → F db { db with
      feedbackItems := items, feedbackOptions := options, feedbackAnswers := answers }

/-- A part of a service whose statements stay within a relation. -/
abbrev Keeps (F : Database → Database → Prop) (t : Program α) : Prop :=
  t.Within F fun _ => True

/-- An edit of a submission that leaves its key and its session alone. -/
def KeepsPlace (change : PlaytestFeedbackSubmission → PlaytestFeedbackSubmission) : Prop :=
  ∀ s, (change s).id = s.id ∧ (change s).sessionId = s.sessionId

theorem Frame.refl (hF : Frame F K) (db : Database) : F db db :=
  hF db db .same

/-! ## Rules -/

theorem Keeps.bind {t : Program β} {f : β → Program α} (ht : Keeps F t)
    (hf : ∀ b, Keeps F (f b)) : Keeps F (t >>= f) :=
  Tx.Within.andThen ht hf

theorem keeps_pure (a : α) : Keeps F (Tx.pure a) :=
  Tx.Within.pure trivial

theorem keeps_ensure (b : Bool) (e : ServiceError) : Keeps F (Tx.ensure b e) :=
  Tx.Within.ensure' b e

theorem keeps_require (a : Option α) (e : ServiceError) : Keeps F (Tx.require a e) :=
  Tx.Within.require' a e

theorem keeps_lockAll (m : RowLock) (keys : List RowKey) : Keeps F (Tx.lockAll m keys) :=
  Tx.Within.lockAll m keys

theorem keeps_mapError {f : ServiceError → ServiceError} {t : Program α} (ht : Keeps F t) :
    Keeps F (t.mapError f) :=
  Tx.Within.mapError ht

theorem keeps_forEach {f : ρ → Program Unit} (hf : ∀ row, Keeps F (f row)) (rows : List ρ) :
    Keeps F (Tx.forEach rows f) :=
  Tx.Within.forEach hf rows

/-- `if c: t` in the middle of a program. -/
theorem keeps_when {c : Prop} [Decidable c] {t : Program Unit} {rest : Unit → Program α}
    (ht : Keeps F t) (hrest : ∀ u, Keeps F (rest u)) :
    Keeps F (if c then t >>= rest else rest ()) := by
  split
  · exact ht.bind hrest
  · exact hrest ()

section Statements

variable (hF : Frame F K)

include hF

theorem keeps_read (f : Database → α) : Keeps F (Tx.read f) :=
  Tx.Within.read hF.refl f fun _ => trivial

theorem keeps_selectForUpdate (key : ρ → RowKey) (find : Database → Option ρ) :
    Keeps F (Tx.selectForUpdate key find) :=
  Tx.Within.selectForUpdate hF.refl key find trivial fun _ => trivial

theorem keeps_selectAllForUpdate (key : ρ → RowKey) (rows : Database → List ρ) :
    Keeps F (Tx.selectAllForUpdate key rows) :=
  Tx.Within.selectAllForUpdate hF.refl key rows

theorem keeps_insertRow {insert : Database → Database} (h : ∀ db, F db (insert db))
    (keys : List RowKey) (absent admits : Database → Bool) :
    Keeps F (insertRow keys absent admits insert) :=
  insertRow_within hF.refl h keys absent admits

theorem keeps_insertRows {insert : List ρ → Database → Database}
    (h : ∀ rows db, F db (insert rows db)) (rows : List ρ) (admits : Database → Bool) :
    Keeps F (insertRows rows admits insert) :=
  insertRows_within hF.refl h rows admits

theorem keeps_updateRow {change : Database → Database} (h : ∀ db, F db (change db))
    (admits : Database → Bool) : Keeps F (updateRow admits change) :=
  updateRow_within hF.refl h admits

/-! ## Notifications -/

theorem keeps_stopMail (change : List MailOutbox → List MailOutbox) :
    Keeps F (Tx.write fun _ db => { db with outbox := change db.outbox }) :=
  Tx.Within.write fun _ _ => hF _ _ (.mails change)

theorem keeps_endSelected (maintenance : Option Uuid) (now : Timestamp) (verdict : Verdict)
    (todo : NotificationTodo) :
    Keeps F (Notifications.endSelected maintenance now verdict todo) := by
  have hstop := keeps_stopMail hF (Notifications.stopTodoMail todo.id)
  have hback : ∀ v : Verdict, Keeps F (updateRow
      (fun db => db.todos.any (·.id == todo.id) &&
        exitAllowsWrite maintenance todo.workspaceId db)
      (fun db => v.apply now todo.id db)) := fun v =>
    keeps_updateRow hF (fun _ => hF _ _ (.ended now todo.id v)) _
  cases verdict with
  | completed => exact (hback _).bind fun _ => hstop
  | cancelled => exact (hback _).bind fun _ => hstop
  | deleted => exact hstop.bind fun _ => hback _

theorem keeps_endAll (maintenance : Option Uuid) (now : Timestamp)
    (ending : Notifications.Ending) : Keeps F (Notifications.endAll maintenance now ending) :=
  (keeps_selectAllForUpdate hF _ _).bind fun _ =>
    keeps_forEach (fun _ => keeps_endSelected hF maintenance now _ _) _

theorem keeps_createTodo {todo : NotificationTodo} (hkind : K todo.kind) :
    Keeps F (Notifications.createTodo todo) := by
  refine (keeps_selectForUpdate hF _ _).bind fun existing => ?_
  cases existing with
  | some existing => exact keeps_pure _
  | none =>
    refine (keeps_insertRow hF (fun _ => hF _ _ (.created todo hkind)) _ _ _).bind fun _ => ?_
    exact keeps_pure _

theorem keeps_enqueueMail (mail : MailOutbox) : Keeps F (Notifications.enqueueMail mail) :=
  keeps_insertRow hF (fun _ => hF _ _ (.mails (mail :: ·))) _ _ _

theorem keeps_notify (uuids : Uuids) {todo : Uuid → NotificationTodo}
    (hkind : ∀ id, K (todo id).kind) (mail : (id todoId : Uuid) → MailOutbox) :
    Keeps F (Notifications.notify uuids todo mail) := by
  refine (keeps_createTodo hF (hkind _)).bind fun created => ?_
  obtain ⟨todoId, created⟩ := created
  cases created with
  | true => exact (keeps_enqueueMail hF _).bind fun _ => keeps_pure _
  | false => exact keeps_pure _

theorem keeps_notifyParticipant (uuids : Uuids) (now : Timestamp) (item : PlaytestSession)
    {purpose : MailPurpose} (subject body : String) (participant : PlaytestSessionParticipant)
    (hkind : ∀ details ∈ todoDetails item purpose participant.id, K details.1) :
    Keeps F (notifyParticipant uuids now item purpose subject body participant) := by
  refine Tx.Within.bind (Tx.Within.require _ _) fun details hdetails => ?_
  refine (keeps_notify hF _ (fun _ => hkind _ hdetails) _).bind fun outboxId => ?_
  cases outboxId with
  | some outboxId =>
    exact keeps_updateRow hF (fun _ => hF _ _ (.notified participant.id outboxId)) _
  | none => exact keeps_pure _

theorem keeps_notifyParticipants (settings : Settings) (uuids : Uuids) (now : Timestamp)
    (item : PlaytestSession) {purpose : MailPurpose}
    (hkind : ∀ id, ∀ details ∈ todoDetails item purpose id, K details.1) :
    Keeps F (notifyParticipants settings uuids now item purpose) := by
  refine (keeps_read hF _).bind fun participants => (keeps_require _ _).bind fun content => ?_
  exact keeps_forEach (fun _ => keeps_notifyParticipant hF _ _ _ _ _ _ (hkind _)) _

theorem keeps_notifyFeedbackMaintainers (hkind : K .feedbackSubmitted) (uuids : Uuids)
    (now : Timestamp) (item : PlaytestSession) (submissionId : Uuid) :
    Keeps F (notifyFeedbackMaintainers uuids now item submissionId) := by
  refine (keeps_read hF _).bind fun accountIds => keeps_forEach (fun account => ?_) _
  exact (keeps_notify hF _ (fun _ => hkind) _).bind fun _ => keeps_pure _

theorem keeps_notifyMaintainers (uuids : Uuids) (now : Timestamp) (issue : Issue)
    {notice : Issues.MaintainerNotice} (hkind : K notice.kind) (except : Option Uuid) :
    Keeps F (Issues.notifyMaintainers uuids now issue notice except) := by
  refine (keeps_read hF _).bind fun accountIds => keeps_forEach (fun account => ?_) _
  dsimp only
  split
  · exact (keeps_notify hF _ (fun _ => hkind) _).bind fun _ => keeps_pure _
  · exact keeps_pure _

theorem keeps_cancelRetestArranged (now : Timestamp) (workspaceId workId sessionId : Uuid) :
    Keeps F (Issues.cancelRetestArrangedForSession now workspaceId workId sessionId) := by
  refine (keeps_read hF _).bind fun links => (keeps_read hF _).bind fun recipients => ?_
  exact keeps_forEach (fun _ => keeps_forEach (fun _ => keeps_endAll hF _ _ _) _) _

theorem keeps_updateTodos (hopened : K .issueOpened) (hneeded : K .retestArrangementNeeded)
    (uuids : Uuids) (now : Timestamp) (issue : Issue) (wasOpen adjustmentChanged : Bool) :
    Keeps F (Issues.updateTodos uuids now issue wasOpen adjustmentChanged) := by
  rw [Issues.updateTodos]
  split
  · exact (keeps_endAll hF _ _ _).bind fun _ => keeps_endAll hF _ _ _
  · refine keeps_when (keeps_notifyMaintainers hF _ _ _ hopened _) fun _ => ?_
    refine keeps_when (keeps_endAll hF _ _ _) fun _ => ?_
    split
    · exact keeps_notifyMaintainers hF _ _ _ hneeded _
    · exact keeps_pure _

/-! ## Checks -/

theorem keeps_requireManagement (actorId workspaceId workId : Uuid) (writable : Bool) :
    Keeps F (requireManagement actorId workspaceId workId writable) := by
  have hmanage : Keeps F (Works.ensurePlaytestManagement actorId workspaceId workId) :=
    Works.ensurePlaytestManagement_within hF.refl _ _ _
  refine keeps_mapError ?_
  cases writable with
  | true =>
    exact Keeps.bind (Workspaces.ensureWritable_within hF.refl _) fun _ =>
      hmanage.bind fun _ => keeps_pure _
  | false => exact hmanage.bind fun _ => keeps_pure _

/-! ## Queries -/

theorem keeps_snapshot (actorId workspaceId workId : Uuid) (fileIds : List Uuid) :
    Keeps F (Works.snapshotCurrentRuleMaterialsForPlaytest actorId workspaceId workId fileIds) :=
  Works.snapshotCurrentRuleMaterialsForPlaytest_within hF.refl _ _ _ _

theorem keeps_resolveParticipants (normalizeEmail : String → Option String)
    (emails seen : List String) : Keeps F (resolveParticipants normalizeEmail seen emails) := by
  induction emails generalizing seen with
  | nil => exact keeps_pure _
  | cons email rest ih =>
    refine (keeps_require _ _).bind fun normalized => (keeps_ensure _ _).bind fun _ => ?_
    refine Keeps.bind (keeps_selectForUpdate hF _ _) fun account => ?_
    exact (keeps_require _ _).bind fun account => (ih _).bind fun _ => keeps_pure _

theorem keeps_readMaterials (entries : List (Uuid × Bytes)) : Keeps F (readMaterials entries) := by
  induction entries with
  | nil => exact keeps_pure _
  | cons entry rest ih =>
    have hread : Keeps F (readMaterial entry.1 entry.2) :=
      (keeps_read hF _).bind fun _ => (keeps_require _ _).bind fun _ =>
        (keeps_ensure _ _).bind fun _ => keeps_pure _
    exact hread.bind fun _ => ih.bind fun _ => keeps_pure _

theorem keeps_materials (sessionId : Uuid) : Keeps F (materials sessionId) :=
  (keeps_read hF _).bind fun _ => keeps_readMaterials hF _

theorem keeps_sessionData (item : PlaytestSession) : Keeps F (sessionData item) :=
  (keeps_read hF _).bind fun _ => (keeps_materials hF _).bind fun _ =>
    (keeps_read hF _).bind fun _ => keeps_pure _

theorem keeps_sessionDatas (items : List PlaytestSession) : Keeps F (sessionDatas items) := by
  induction items with
  | nil => exact keeps_pure _
  | cons item rest ih =>
    exact (keeps_sessionData hF item).bind fun _ => ih.bind fun _ => keeps_pure _

theorem keeps_readManagedSession (actorId workspaceId workId sessionId : Uuid) :
    Keeps F (readManagedSession actorId workspaceId workId sessionId) := by
  refine keeps_mapError ((keeps_requireManagement hF _ _ _ _).bind fun _ => ?_)
  exact (keeps_read hF _).bind fun _ => (keeps_require _ _).bind fun _ => keeps_sessionData hF _

theorem keeps_readPlan (actorId workspaceId workId planId : Uuid) :
    Keeps F (readPlan actorId workspaceId workId planId) := by
  refine keeps_mapError ((keeps_requireManagement hF _ _ _ _).bind fun _ => ?_)
  refine (keeps_read hF _).bind fun _ => (keeps_require _ _).bind fun _ => ?_
  exact (keeps_read hF _).bind fun _ => keeps_sessionDatas hF _

theorem keeps_resultReadyMaterials (workspaceId workId : Uuid) (fileIds : List Uuid) :
    Keeps F (resultReadyMaterials workspaceId workId fileIds) := by
  rw [resultReadyMaterials]
  split
  · exact keeps_pure _
  · exact keeps_read hF _

theorem keeps_validatedMaterial (item : PlaytestSession) (draft : ActualMaterialDraft) :
    Keeps F (validatedMaterial item draft) := by
  refine (keeps_require _ _).bind fun ruleName => (keeps_require _ _).bind fun description => ?_
  refine (keeps_require _ _).bind fun content => (keeps_ensure _ _).bind fun _ => ?_
  refine (keeps_resultReadyMaterials hF _ _ _).bind fun files => (keeps_ensure _ _).bind fun _ => ?_
  refine (keeps_materials hF _).bind fun scheduled => ?_
  dsimp only
  refine Keeps.bind (keeps_require _ _) fun reason => ?_
  exact Keeps.bind (keeps_ensure _ _) fun _ => keeps_pure _

theorem keeps_validateResultDraft (item : PlaytestSession) (draft : ResultDraft) :
    Keeps F (validateResultDraft item draft) := by
  have hmaterial : Keeps F (validatedMaterial? item draft.actualMaterial) := by
    cases draft.actualMaterial with
    | none => exact keeps_pure _
    | some material => exact (keeps_validatedMaterial hF item material).bind fun _ => keeps_pure _
  refine (keeps_ensure _ _).bind fun _ => (keeps_require _ _).bind fun _ => ?_
  refine (keeps_read hF _).bind fun _ => (keeps_require _ _).bind fun _ => ?_
  exact (keeps_ensure _ _).bind fun _ => hmaterial.bind fun _ => keeps_pure _

theorem keeps_actualMaterials (item : PlaytestSession) : Keeps F (actualMaterials item) := by
  rw [actualMaterials]
  split
  · exact keeps_pure _
  · refine (keeps_require _ _).bind fun _ => (keeps_require _ _).bind fun _ => ?_
    exact (keeps_read hF _).bind fun _ => (keeps_readMaterials hF _).bind fun _ => keeps_pure _

/-! ## Feedback -/

theorem keeps_accountEmail (accountId : Uuid) : Keeps F (Evidence.accountEmail accountId) :=
  (keeps_read hF _).bind fun _ => (keeps_require _ _).bind fun _ => keeps_pure _

theorem keeps_feedbackManagedSession (actorId workspaceId workId sessionId : Uuid) :
    Keeps F (feedbackManagedSession actorId workspaceId workId sessionId) := by
  refine (keeps_requireManagement hF _ _ _ _).bind fun _ => ?_
  refine Keeps.bind ((keeps_selectForUpdate hF _ _).bind fun _ => keeps_require _ _) fun _ => ?_
  exact Keeps.bind (keeps_ensure _ _) fun _ => keeps_pure _

theorem keeps_participantSession (actorId sessionId : Uuid) :
    Keeps F (participantSession actorId sessionId) := by
  refine (keeps_read hF _).bind fun _ => (keeps_require _ _).bind fun _ => ?_
  exact (keeps_selectForUpdate hF _ _).bind fun _ => (keeps_require _ _).bind fun _ => keeps_pure _

theorem keeps_createFeedbackItem (hfeedback : FeedbackFrame F) (uuids : Uuids)
    (sessionId : Uuid) (operationKey : String) (draft : Evidence.FeedbackItemDraft)
    (hinsert : ∀ db item, F db { db with feedbackItems := item :: db.feedbackItems }) :
    Keeps F (Evidence.createFeedbackItem uuids sessionId operationKey draft) := by
  refine (keeps_require _ _).bind fun draft => (keeps_ensure _ _).bind fun _ => ?_
  refine (keeps_selectForUpdate hF _ _).bind fun existing => ?_
  cases existing with
  | some existing => exact (keeps_read hF _).bind fun _ => keeps_ensure _ _
  | none =>
    refine (keeps_insertRow hF (fun _ => ?_) _ _ _).bind fun _ => keeps_insertRows hF
      (fun _ _ => ?_) _ _
    · exact hinsert _ _
    · exact hfeedback _ _ _ _ rfl

theorem keeps_loadItem (sessionId itemId : Uuid) : Keeps F (Evidence.loadItem sessionId itemId) :=
  (keeps_selectForUpdate hF _ _).bind fun _ => keeps_require _ _

theorem keeps_deleteOptions (hfeedback : FeedbackFrame F) (sessionId itemId : Uuid) :
    Keeps F (Evidence.deleteOptions sessionId itemId) := by
  refine keeps_updateRow hF (fun _ => ?_) _
  exact hfeedback _ _ _ _ rfl

theorem keeps_updateFeedbackItem (hfeedback : FeedbackFrame F) (uuids : Uuids)
    (sessionId itemId : Uuid) (expectedRevision : ℤ) (draft : Evidence.FeedbackItemDraft) :
    Keeps F (Evidence.updateFeedbackItem uuids sessionId itemId expectedRevision draft) := by
  refine (keeps_require _ _).bind fun draft => (keeps_ensure _ _).bind fun _ => ?_
  refine (keeps_loadItem hF _ _).bind fun item => (keeps_ensure _ _).bind fun _ => ?_
  refine Keeps.bind (keeps_ensure _ _) fun _ => (keeps_updateRow hF (fun _ => ?_) _).bind
    fun _ => ?_
  · exact hfeedback _ _ _ _ (Table.map_update _ fun _ _ => rfl)
  · refine (keeps_deleteOptions hF hfeedback _ _).bind fun _ =>
      keeps_insertRows hF (fun _ _ => ?_) _ _
    exact hfeedback _ _ _ _ rfl

theorem keeps_deleteFeedbackItem (hfeedback : FeedbackFrame F) (sessionId itemId : Uuid)
    (hdelete : ∀ db id, F db { db with
      feedbackItems := Table.delete (·.id == id) db.feedbackItems }) :
    Keeps F (Evidence.deleteFeedbackItem sessionId itemId) := by
  refine (keeps_loadItem hF _ _).bind fun item => (keeps_ensure _ _).bind fun _ => ?_
  refine (keeps_deleteOptions hF hfeedback _ _).bind fun _ => keeps_updateRow hF (fun _ => ?_) _
  exact hdelete _ _

theorem keeps_validatedAnswers (sessionId : Uuid)
    (answers : List Evidence.FeedbackAnswerDraft) :
    Keeps F (Evidence.validatedAnswers sessionId answers) := by
  refine Keeps.bind (keeps_ensure _ _) fun _ => (keeps_read hF _).bind fun items => ?_
  refine Keeps.bind (keeps_ensure _ _) fun _ => (keeps_read hF _).bind fun options => ?_
  exact keeps_require _ _

theorem keeps_replaceAnswers (hfeedback : FeedbackFrame F)
    (submission : PlaytestFeedbackSubmission) (answers : List Evidence.FeedbackAnswerDraft) :
    Keeps F (Evidence.replaceAnswers submission answers) := by
  refine (keeps_updateRow hF (fun _ => ?_) _).bind fun _ =>
    keeps_forEach (fun _ => keeps_insertRow hF (fun _ => ?_) _ _ _) _
  · exact hfeedback _ _ _ _ rfl
  · exact hfeedback _ _ _ _ (Table.map_update _ fun _ _ => rfl)

theorem keeps_insertSubmission (hfeedback : FeedbackFrame F)
    (submission : PlaytestFeedbackSubmission) (answers : List Evidence.FeedbackAnswerDraft)
    (hinsert : ∀ db s, F db { db with feedbackSubmissions := s :: db.feedbackSubmissions }) :
    Keeps F (Evidence.insertSubmission submission answers) := by
  refine (keeps_insertRow hF (fun _ => ?_) _ _ _).bind fun _ =>
    keeps_replaceAnswers hF hfeedback _ _
  exact hinsert _ _

theorem keeps_rewriteSubmission (hfeedback : FeedbackFrame F)
    (submission : PlaytestFeedbackSubmission) (answers : List Evidence.FeedbackAnswerDraft)
    (hrewrite : ∀ db id change, KeepsPlace change → F db { db with
      feedbackSubmissions := Table.update (·.id == id) change db.feedbackSubmissions }) :
    Keeps F (Evidence.rewriteSubmission submission answers) := by
  refine (keeps_updateRow hF (fun _ => ?_) _).bind fun _ => keeps_replaceAnswers hF hfeedback _ _
  exact hrewrite _ _ _ fun _ => ⟨rfl, rfl⟩

theorem keeps_createOrganizerSubmission (hfeedback : FeedbackFrame F)
    (id sessionId actorId : Uuid) (operationKey : String) (draft : Evidence.FeedbackSubmissionDraft)
    (hinsert : ∀ db s, F db { db with feedbackSubmissions := s :: db.feedbackSubmissions }) :
    Keeps F (Evidence.createOrganizerSubmission id sessionId actorId operationKey draft) := by
  refine (keeps_require _ _).bind fun draft => (keeps_validatedAnswers hF _ _).bind
    fun answers => ?_
  refine (keeps_ensure _ _).bind fun _ => (keeps_selectForUpdate hF _ _).bind fun existing => ?_
  cases existing with
  | some existing => exact Keeps.bind (keeps_ensure _ _) fun _ => keeps_pure _
  | none =>
    exact (keeps_insertSubmission hF hfeedback _ _ hinsert).bind fun _ =>
      (keeps_accountEmail hF _).bind fun _ => keeps_pure _

theorem keeps_updateOrganizerSubmission (hfeedback : FeedbackFrame F)
    (sessionId submissionId actorId : Uuid) (expectedRevision : ℤ)
    (draft : Evidence.FeedbackSubmissionDraft)
    (hrewrite : ∀ db id change, KeepsPlace change → F db { db with
      feedbackSubmissions := Table.update (·.id == id) change db.feedbackSubmissions }) :
    Keeps F (Evidence.updateOrganizerSubmission sessionId submissionId actorId expectedRevision
      draft) := by
  refine (keeps_require _ _).bind fun draft => (keeps_validatedAnswers hF _ _).bind
    fun answers => ?_
  refine (keeps_ensure _ _).bind fun _ => (keeps_read hF _).bind fun found => ?_
  refine (keeps_require _ _).bind fun submission => Keeps.bind (keeps_ensure _ _) fun _ => ?_
  refine (keeps_selectForUpdate hF _ _).bind fun again => (keeps_ensure _ _).bind fun _ => ?_
  refine Keeps.bind (keeps_ensure _ _) fun _ =>
    (keeps_rewriteSubmission hF hfeedback _ _ hrewrite).bind fun _ => ?_
  exact (keeps_accountEmail hF _).bind fun _ => keeps_pure _

theorem keeps_preventLinkedDraft (submission : PlaytestFeedbackSubmission)
    (status : SubmissionStatus) :
    Keeps F (Evidence.preventLinkedFeedbackSubmissionDraft submission status) := by
  rw [Evidence.preventLinkedFeedbackSubmissionDraft]
  split
  · refine (keeps_lockAll _ _).bind fun _ => (keeps_read hF _).bind fun linked => ?_
    exact keeps_ensure _ _
  · exact keeps_pure _

theorem keeps_saveDirectSubmission (hfeedback : FeedbackFrame F)
    (id sessionId actorId : Uuid) (operationKey : Option String) (expectedRevision : Option ℤ)
    (draft : Evidence.FeedbackSubmissionDraft)
    (hinsert : ∀ db s, F db { db with feedbackSubmissions := s :: db.feedbackSubmissions })
    (hrewrite : ∀ db id change, KeepsPlace change → F db { db with
      feedbackSubmissions := Table.update (·.id == id) change db.feedbackSubmissions }) :
    Keeps F (Evidence.saveDirectSubmission id sessionId actorId operationKey expectedRevision
      draft) := by
  refine Keeps.bind (keeps_ensure _ _) fun _ => (keeps_validatedAnswers hF _ _).bind
    fun answers => ?_
  refine (keeps_selectForUpdate hF _ _).bind fun submission => ?_
  cases submission with
  | none =>
    refine (keeps_require _ _).bind fun key => Keeps.bind (keeps_ensure _ _) fun _ => ?_
    exact (keeps_insertSubmission hF hfeedback _ _ hinsert).bind fun _ =>
      (keeps_accountEmail hF _).bind fun _ => keeps_pure _
  | some submission =>
    cases expectedRevision with
    | none => exact Keeps.bind (keeps_ensure _ _) fun _ => keeps_pure _
    | some expectedRevision =>
      refine Keeps.bind (keeps_ensure _ _) fun _ => (keeps_preventLinkedDraft hF _ _).bind
        fun _ => ?_
      exact (keeps_rewriteSubmission hF hfeedback _ _ hrewrite).bind fun _ =>
        (keeps_accountEmail hF _).bind fun _ =>
        keeps_pure _

/-! ## Evidence -/

theorem keeps_updateObservation (sessionId observationId actorId : Uuid) (kind : ObservationKind)
    (content : String)
    (hobservations : ∀ db p (change : PlaytestObservation → PlaytestObservation),
      (∀ o, (change o).id = o.id ∧ (change o).sessionId = o.sessionId) →
        F db { db with observations := Table.update p change db.observations }) :
    Keeps F (Evidence.updateObservation sessionId observationId actorId kind content) := by
  refine (keeps_ensure _ _).bind fun _ => (keeps_selectForUpdate hF _ _).bind fun item => ?_
  refine (keeps_require _ _).bind fun item => (keeps_updateRow hF (fun db => ?_) _).bind fun _ => ?_
  · exact hobservations db _ _ fun _ => ⟨rfl, rfl⟩
  · exact (keeps_accountEmail hF _).bind fun _ => keeps_pure _

theorem keeps_validateIssueEvidenceSources (workspaceId workId : Uuid)
    (references : List Evidence.IssueEvidenceReference) :
    Keeps F (Evidence.validateIssueEvidenceSources workspaceId workId references) := by
  refine Keeps.bind (keeps_ensure _ _) fun _ => keeps_forEach (fun reference => ?_) _
  refine (keeps_read hF _).bind fun found => (keeps_require _ _).bind fun sessionId => ?_
  exact (keeps_read hF _).bind fun item => (keeps_require _ _).bind fun item => keeps_ensure _ _

theorem keeps_hasIssueEvidenceFromSession (sessionId : Uuid)
    (references : List Evidence.IssueEvidenceReference) :
    Keeps F (Evidence.hasIssueEvidenceFromSession sessionId references) := by
  induction references with
  | nil => exact keeps_pure _
  | cons reference rest ih =>
    refine (keeps_read hF _).bind fun source => ?_
    split
    · exact keeps_pure _
    · exact ih

/-! ## Issues -/

theorem keeps_requireIssueManagement (actorId workspaceId workId : Uuid) :
    Keeps F (Issues.requireManagement actorId workspaceId workId) := by
  refine Keeps.bind (Workspaces.ensureWritable_within hF.refl _) fun _ => ?_
  exact Keeps.bind (keeps_mapError (Works.requireManager_within hF.refl _ _ _)) fun _ =>
    keeps_pure _

theorem keeps_referencesForIssue (issueId : Uuid) : Keeps F (Issues.referencesForIssue issueId) :=
  (keeps_read hF _).bind fun _ => keeps_require _ _

theorem keeps_currentConclusion (issue : Issue) : Keeps F (Issues.currentConclusion issue) := by
  refine (keeps_read hF _).bind fun link => ?_
  cases link with
  | none => exact keeps_pure _
  | some link => exact (keeps_require _ _).bind fun _ => keeps_pure _

theorem keeps_preventIssueLink (reference : Evidence.IssueEvidenceReference) :
    Keeps F (Issues.preventIssueLinkToDraftFeedback reference) := by
  cases reference with
  | observation sourceId => exact keeps_pure _
  | feedbackSubmission sourceId =>
    refine (keeps_read hF _).bind fun found => (keeps_lockAll _ _).bind fun _ => ?_
    refine (keeps_read hF _).bind fun status => (keeps_lockAll _ _).bind fun _ => ?_
    exact keeps_ensure _ _

theorem keeps_addLinks (uuids : Uuids) (issueId : Uuid)
    (references : List Evidence.IssueEvidenceReference)
    (hlinks : ∀ db link, link.issueId = issueId →
      F db { db with evidenceLinks := link :: db.evidenceLinks }) :
    Keeps F (Issues.addLinks uuids issueId references) := by
  refine keeps_forEach (fun reference => ?_) _
  refine Keeps.bind (keeps_preventIssueLink hF _) fun _ => ?_
  exact keeps_insertRow hF (fun db => hlinks db _ (Issues.linkRow_issueId _ _ _)) _ _ _

end Statements

end Playtests

end Rulefolio
