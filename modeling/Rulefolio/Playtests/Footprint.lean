import Rulefolio.Issues.Retests
import Rulefolio.Library.Sequential
import Rulefolio.Playtests.Frames
import Rulefolio.Playtests.System

/-!
# What each call changes

The footprint of a call: which tables its statements write, and in what way. It says nothing of
locks, and of the order of statements only that they are these. So it holds of a call that runs
alone and of one that does not, and a property that no change of a footprint breaks is kept by every
call with that footprint.

## Main definitions

* `Call.notifies`, `Call.writesIssues` and its like — what a call takes part in.
* `Change` — the changes a call makes.

## Main results

* `Call.changes` — every statement of a call makes one of its changes.
-/

namespace Rulefolio

namespace Playtests

/-! ## What a call takes part in -/

namespace Call

/-- The kinds of todos a call creates. -/
def notifies : Call → List TodoKind
  | createPlan .. => [.playtestInvitation, .retestArranged]
  | appendSession .. => [.playtestInvitation]
  | updateArrangement .. => [.playtestArrangementUpdated]
  | replaceMaterials .. => [.playtestMaterialUpdated]
  | cancelSession .. => [.playtestCancelled]
  | createFeedbackSubmission .. | saveParticipantFeedback .. => [.feedbackSubmitted]
  | createIssue .. => [.issueOpened]
  | updateIssue .. => [.issueOpened, .retestArrangementNeeded]
  | _ => []

/-- The call creates sessions. -/
def schedules : Call → Bool
  | createPlan .. | appendSession .. => true
  | _ => false

/-- The call creates a plan. -/
def plans : Call → Bool
  | createPlan .. => true
  | _ => false

/-- The session a call starts. -/
def starts : Call → Option Uuid
  | startSession _ _ _ _ sessionId _ => some sessionId
  | _ => none

/-- The session a call cancels. -/
def cancels : Call → Option Uuid
  | cancelSession _ _ _ _ _ sessionId _ => some sessionId
  | _ => none

/-- The session a call records the result of, and whether with the material that was used. -/
def records : Call → Option (Uuid × Bool)
  | saveResult _ _ _ sessionId _ draft => some (sessionId, draft.actualMaterial.isSome)
  | _ => none

/-- The call writes feedback: its items, its submissions or its answers. -/
def writesFeedback : Call → Bool
  | createFeedbackItem .. | updateFeedbackItem .. | deleteFeedbackItem ..
  | createFeedbackSubmission .. | updateFeedbackSubmission .. | saveParticipantFeedback .. => true
  | _ => false

/-- The call creates an item or deletes one. -/
def writesItems : Call → Bool
  | createFeedbackItem .. | deleteFeedbackItem .. => true
  | _ => false

/-- The call writes a submission. -/
def writesSubmissions : Call → Bool
  | createFeedbackSubmission .. | updateFeedbackSubmission .. | saveParticipantFeedback .. => true
  | _ => false

/-- The call writes the row of an issue. -/
def writesIssues : Call → Bool
  | createPlan .. | createIssue .. | updateIssue .. | saveRetestConclusion ..
  | addIssueEvidence .. | removeIssueEvidence .. => true
  | _ => false

/-- The call adds an issue. -/
def createsIssue : Call → Bool
  | createIssue .. => true
  | _ => false

/-- The call adds a retest. -/
def bindsRetest : Call → Bool
  | createPlan .. => true
  | _ => false

/-- The call takes conclusions away. -/
def clearsConclusions : Call → Bool
  | updateIssue .. | saveRetestConclusion .. => true
  | _ => false

/-- The call may begin the next adjustment of an issue. -/
def adjusts : Call → Bool
  | updateIssue .. => true
  | _ => false

/-- The call concludes a retest. -/
def concludes : Call → Bool
  | saveRetestConclusion .. => true
  | _ => false

/-- The call adds evidence to an issue. -/
def linksEvidence : Call → Bool
  | createIssue .. | addIssueEvidence .. => true
  | _ => false

/-- The reference a call takes from an issue. -/
def unlinks : Call → Option Uuid
  | removeIssueEvidence _ _ _ _ linkId _ => some linkId
  | _ => none

/-- The issue whose status a call decides, and the status. -/
def decides : Call → Option (Uuid × IssueStatus)
  | updateIssue _ _ _ _ _ issueId _ _ _ _ status _ => some (issueId, status)
  | saveRetestConclusion _ _ _ issueId _ _ _ status _ => some (issueId, status)
  | _ => none

end Call

/-! ## Changes -/

/-- What one statement of a call can change. -/
inductive Change (call : Call) (db : Database) : Database → Prop
  | aside {db' : Database} (h : Aside (· ∈ call.notifies) db db') : Change call db db'
  | background (participants : List PlaytestSessionParticipant)
      (materials : List PlaytestSessionMaterial)
      (actualMaterials : List PlaytestSessionActualMaterial)
      (actualParticipants : List PlaytestSessionActualParticipant) :
      Change call db { db with participants, actualMaterials, actualParticipants,
                               sessionMaterials := materials }
  | planCreated (plan : PlaytestPlan) (hcall : call.plans) :
      Change call db { db with plans := plan :: db.plans }
  | sessionCreated (s : PlaytestSession) (hstatus : s.status = .scheduled)
      (hcall : call.schedules) :
      Change call db { db with sessions := s :: db.sessions }
  | sessionEdited (n : Uuid) (change : PlaytestSession → PlaytestSession)
      (h : ∀ s, (change s).id = s.id ∧ (change s).workspaceId = s.workspaceId ∧
        (change s).status = s.status ∧
        (change s).actualMaterialRecorded = s.actualMaterialRecorded)
      (hplan : ∀ s, (change s).planId = s.planId ∧ (change s).workId = s.workId) :
      Change call db { db with sessions := Table.update (·.id == n) change db.sessions }
  | sessionStarted (n : Uuid) (hcall : call.starts = some n) (now : Timestamp) (revision : ℕ) :
      Change call db { db with
        sessions := Table.update (·.id == n)
          (fun s => { s with status := .started, startedAt := some now, revision := revision })
          db.sessions }
  | sessionCancelled (n : Uuid) (hcall : call.cancels = some n) (revision : ℕ) :
      Change call db { db with
        sessions := Table.update (·.id == n)
          (fun s => { s with status := .cancelled, revision := revision }) db.sessions }
  | resultRecorded (n : Uuid) (draft : ResultDraft)
      (hcall : call.records = some (n, draft.actualMaterial.isSome)) (revision : ℕ) :
      Change call db { db with
        sessions := Table.update (·.id == n) (recordResult draft revision) db.sessions }
  | observed (o : PlaytestObservation) :
      Change call db { db with observations := o :: db.observations }
  | observationEdited (p : PlaytestObservation → Bool)
      (change : PlaytestObservation → PlaytestObservation)
      (h : ∀ o, (change o).id = o.id ∧ (change o).sessionId = o.sessionId) :
      Change call db { db with observations := Table.update p change db.observations }
  | itemCreated (hcall : call.writesItems) (item : PlaytestFeedbackItem) :
      Change call db { db with feedbackItems := item :: db.feedbackItems }
  | itemDeleted (hcall : call.writesItems) (id : Uuid) :
      Change call db { db with feedbackItems := Table.delete (·.id == id) db.feedbackItems }
  | feedbackWritten (hcall : call.writesFeedback) (items : List PlaytestFeedbackItem)
      (options : List PlaytestFeedbackOption) (answers : List PlaytestFeedbackAnswer)
      (hitems : items.map (·.id) = db.feedbackItems.map (·.id)) :
      Change call db { db with
        feedbackItems := items, feedbackOptions := options, feedbackAnswers := answers }
  | submissionCreated (hcall : call.writesSubmissions) (s : PlaytestFeedbackSubmission) :
      Change call db { db with feedbackSubmissions := s :: db.feedbackSubmissions }
  | submissionRewritten (hcall : call.writesSubmissions) (id : Uuid)
      (change : PlaytestFeedbackSubmission → PlaytestFeedbackSubmission) (h : KeepsPlace change) :
      Change call db { db with
        feedbackSubmissions := Table.update (·.id == id) change db.feedbackSubmissions }
  | issueCreated (hcall : call.createsIssue) (issue : Issue) :
      Change call db { db with issues := issue :: db.issues }
  | issueEdited (hcall : call.writesIssues) (k : Uuid) (change : Issue → Issue)
      (hplace : ∀ i, (change i).id = i.id ∧ (change i).workspaceId = i.workspaceId)
      (hkey : ∀ i, (change i).workId = i.workId ∧
        (change i).creationOperationKey = i.creationOperationKey)
      (hgeneration : ∀ i, (change i).adjustmentGeneration = i.adjustmentGeneration ∨ call.adjusts)
      (hstatus : ∀ i, (change i).status = i.status ∨
        call.decides = some (k, (change i).status)) :
      Change call db { db with issues := Table.update (·.id == k) change db.issues }
  | retestBound (hcall : call.bindsRetest) (link : IssueRetestLink)
      (hconclusion : link.conclusion = none) :
      Change call db { db with retestLinks := link :: db.retestLinks }
  | conclusionsCleared (hcall : call.clearsConclusions) (p : IssueRetestLink → Bool) :
      Change call db { db with
        retestLinks := Table.update p Issues.clearConclusion db.retestLinks }
  | concluded (hcall : call.concludes) (p : IssueRetestLink → Bool)
      (change : IssueRetestLink → IssueRetestLink) (h : Issues.KeepsRetest change) :
      Change call db { db with retestLinks := Table.update p change db.retestLinks }
  | linked (hcall : call.linksEvidence) (link : IssueEvidenceLink) :
      Change call db { db with evidenceLinks := link :: db.evidenceLinks }
  | unlinked (linkId : Uuid) (hcall : call.unlinks = some linkId) :
      Change call db { db with evidenceLinks := Table.delete (·.id == linkId) db.evidenceLinks }
  | elsewhere (change : Database → Database) (hcall : call = .elsewhere change) :
      Change call db (keepPlaytests db (change db))

theorem keepsRetest_clearConclusion : Issues.KeepsRetest Issues.clearConclusion :=
  fun _ => ⟨rfl, rfl, rfl, rfl⟩

/-- A call makes the changes of the shared parts. -/
theorem frame_change (call : Call) : Frame (Change call) (· ∈ call.notifies) :=
  fun _ _ h => .aside h

/-- A call that writes feedback makes every change of it by which no item comes or goes. -/
theorem feedbackFrame_change {call : Call} (hcall : call.writesFeedback) :
    FeedbackFrame (Change call) :=
  fun _ items options answers hitems => .feedbackWritten hcall items options answers hitems

/-! ## Parts of the calls on sessions -/

section Parts

variable {F : Database → Database → Prop} {K : TodoKind → Prop} (hF : Frame F K)

include hF

theorem lockManagedSession_within (workspaceId workId sessionId : Uuid) :
    (lockManagedSession workspaceId workId sessionId).Within F fun item => item.id = sessionId := by
  have hselect := Tx.Within.selectForUpdate (F := F) (L := RowKey) (ε := ServiceError) hF.refl
    (fun s : PlaytestSession => .session s.id)
    (fun db => (findSession workspaceId workId sessionId db).filter fun _ =>
      exitAllowsWrite none workspaceId db)
    (P := fun item => ∀ s, item = some s → s.id = sessionId) (fun s hs => by cases hs)
    fun db s hs => by
      have hfound := List.find?_some (Option.filter_eq_some_iff.1 hs).1
      simp only [Bool.and_eq_true, beq_iff_eq] at hfound
      exact hfound.1.1
  refine Tx.Within.bind hselect fun item hitem => ?_
  exact (Tx.Within.require item _).mono (fun _ _ h => h) fun s hs => hitem s hs

theorem lockRevision_within (actorId workspaceId workId sessionId : Uuid)
    (expectedRevision : ℤ) :
    (lockRevision actorId workspaceId workId sessionId expectedRevision).Within F
      fun item => item.id = sessionId := by
  refine Tx.Within.andThen (keeps_requireManagement hF _ _ _ _) fun _ => ?_
  refine Tx.Within.bind (lockManagedSession_within hF _ _ _) fun item hitem => ?_
  exact Tx.Within.andThen (keeps_ensure _ _) fun _ => Tx.Within.pure hitem

theorem keeps_writeSession {item : PlaytestSession} {change : PlaytestSession → PlaytestSession}
    (h : ∀ db : Database, F db { db with
      sessions := Table.update (·.id == item.id) change db.sessions }) :
    Keeps F (writeSession item change) :=
  keeps_updateRow hF h _

theorem validateResultDraft_within (item : PlaytestSession) (draft : ResultDraft) :
    (validateResultDraft item draft).Within F
      fun d => d.actualMaterial.isSome = draft.actualMaterial.isSome := by
  have hmaterial : (validatedMaterial? item draft.actualMaterial).Within F
      fun m => m.isSome = draft.actualMaterial.isSome := by
    cases draft.actualMaterial with
    | none => exact Tx.Within.pure rfl
    | some material =>
      rw [validatedMaterial?]
      refine Tx.Within.andThen (keeps_validatedMaterial hF item material) fun m => ?_
      exact Tx.Within.pure rfl
  refine Tx.Within.andThen (keeps_ensure _ _) fun _ => ?_
  refine Tx.Within.andThen (keeps_require _ _) fun _ => ?_
  refine Tx.Within.andThen (keeps_read hF _) fun _ => ?_
  refine Tx.Within.andThen (keeps_require _ _) fun _ => ?_
  refine Tx.Within.andThen (keeps_ensure _ _) fun _ => ?_
  exact Tx.Within.bind hmaterial fun _ hm => Tx.Within.pure hm

theorem keeps_readResult (actorId workspaceId workId sessionId : Uuid) :
    Keeps F (readResult actorId workspaceId workId sessionId) := by
  refine keeps_mapError ((keeps_requireManagement hF _ _ _ _).bind fun _ => ?_)
  refine (keeps_read hF _).bind fun _ => (keeps_require _ _).bind fun item => ?_
  refine Keeps.bind (keeps_ensure _ _) fun _ => (keeps_sessionData hF _).bind fun _ => ?_
  refine (keeps_read hF _).bind fun _ => (keeps_actualMaterials hF _).bind fun _ => ?_
  exact (keeps_read hF _).bind fun _ => (keeps_read hF _).bind fun _ => keeps_pure _

end Parts

/-! ## Calls on sessions -/

section Calls

variable (settings : Settings) (normalizeEmail : String → Option String)

/-- The columns that `Change.background` gathers. -/
theorem background_change (call : Call) {db db' : Database}
    (h : db' = { db with
      participants := db'.participants, sessionMaterials := db'.sessionMaterials,
      actualMaterials := db'.actualMaterials, actualParticipants := db'.actualParticipants }) :
    Change call db db' :=
  h ▸ .background db'.participants db'.sessionMaterials db'.actualMaterials db'.actualParticipants

/-- What `_create_session` writes: the session, its participants and planned materials, their todos
and mails. -/
structure SchedulingFrame (F : Database → Database → Prop) (K : TodoKind → Prop)
    (workspaceId workId : Uuid) (plan : PlaytestPlan) : Prop where
  frame : Frame F K
  notifies : K .playtestInvitation
  session : ∀ (db : Database) (id : Uuid) (draft : SessionDraft)
    (snapshot : Works.PlaytestRuleSnapshot), F db { db with
      sessions := newSession id plan workspaceId workId draft snapshot :: db.sessions }
  background : ∀ (db : Database) (participants : List PlaytestSessionParticipant)
    (materials : List PlaytestSessionMaterial),
    F db { db with participants, sessionMaterials := materials }

theorem keeps_createSession {F : Database → Database → Prop} {K : TodoKind → Prop}
    {workspaceId workId : Uuid} {plan : PlaytestPlan}
    (hF : SchedulingFrame F K workspaceId workId plan) (uuids : Uuids) (now : Timestamp)
    (actorId : Uuid) (draft : SessionDraft) :
    Keeps F
      (createSession settings normalizeEmail uuids now actorId workspaceId workId plan draft) := by
  have hframe := hF.frame
  refine (keeps_ensure _ _).bind fun _ => (keeps_resolveParticipants hframe _ _ _).bind fun _ => ?_
  refine (keeps_mapError (keeps_snapshot hframe _ _ _ _)).bind fun snapshot => ?_
  refine Keeps.bind (keeps_insertRow hframe (fun db => hF.session db _ _ _) _ _ _) fun _ => ?_
  refine Keeps.bind (keeps_forEach
    (fun _ => keeps_insertRow hframe (fun db => hF.background db _ _) _ _ _) _) fun _ => ?_
  refine (keeps_notifyParticipants hframe _ _ _ _ fun id details hd => ?_).bind fun _ => ?_
  · cases hd
    exact hF.notifies
  exact Keeps.bind (keeps_insertRows hframe (fun _ db => hF.background db _ _) _ _) fun _ =>
    keeps_pure _

theorem keeps_createSessions {F : Database → Database → Prop} {K : TodoKind → Prop}
    {workspaceId workId : Uuid} {plan : PlaytestPlan}
    (hF : SchedulingFrame F K workspaceId workId plan) (uuids : Uuids) (now : Timestamp)
    (actorId : Uuid) (k : ℕ) (drafts : List SessionDraft) :
    Keeps F (createSessions settings normalizeEmail uuids now actorId workspaceId workId plan k
      drafts) := by
  induction drafts generalizing k with
  | nil => exact keeps_pure _
  | cons draft drafts ih =>
    exact (keeps_createSession settings normalizeEmail hF _ _ _ _).bind fun _ =>
      (ih _).bind fun _ => keeps_pure _

theorem schedulingFrame_change {call : Call} (hcall : .playtestInvitation ∈ call.notifies)
    (hschedules : call.schedules) (workspaceId workId : Uuid) (plan : PlaytestPlan) :
    SchedulingFrame (Change call) (· ∈ call.notifies) workspaceId workId plan where
  frame := frame_change call
  notifies := hcall
  session _ _ _ _ := .sessionCreated _ rfl hschedules
  background _ _ _ := background_change call rfl

/-- What `bind_retest_session` writes: the revision of the issue, the link to the session, and what
becomes of the todos. -/
structure RetestFrame (F : Database → Database → Prop) (K : TodoKind → Prop) : Prop where
  frame : Frame F K
  notifies : K .retestArranged
  issue : ∀ (db : Database) (k : Uuid) (revision : ℕ), F db { db with
    issues := Table.update (·.id == k) (fun i => { i with revision := revision }) db.issues }
  link : ∀ (db : Database) (link : IssueRetestLink), link.conclusion = none →
    F db { db with retestLinks := link :: db.retestLinks }

theorem keeps_bindRetest {F : Database → Database → Prop} {K : TodoKind → Prop}
    (hF : RetestFrame F K) (uuids : Uuids) (now : Timestamp) (actorId workspaceId workId : Uuid)
    (retest : Option (Uuid × ℤ)) (sessions : List PlaytestSession) :
    Keeps F (bindRetest uuids now actorId workspaceId workId retest sessions) := by
  have hframe := hF.frame
  rw [bindRetest.eq_def]
  split
  · refine keeps_mapError ((keeps_ensure _ _).bind fun _ => ?_)
    refine (keeps_requireIssueManagement hframe _ _ _).bind fun _ => ?_
    refine Keeps.bind ((keeps_selectForUpdate hframe _ _).bind fun _ => keeps_require _ _)
      fun issue => ?_
    refine (keeps_ensure _ _).bind fun _ => (keeps_ensure _ _).bind fun _ => ?_
    refine (keeps_selectForUpdate hframe _ _).bind fun _ => (keeps_require _ _).bind fun item => ?_
    refine Keeps.bind (keeps_updateRow hframe (fun db => hF.issue db _ _) _) fun _ => ?_
    refine Keeps.bind (keeps_insertRow hframe (fun db => hF.link db _ rfl) _ _ _) fun _ => ?_
    exact (keeps_endAll hframe _ _ _).bind fun _ =>
      keeps_notifyMaintainers hframe _ _ _ hF.notifies _
  · exact keeps_pure _

theorem retestFrame_change {call : Call} (harranged : .retestArranged ∈ call.notifies)
    (hissues : call.writesIssues) (hbinds : call.bindsRetest) :
    RetestFrame (Change call) (· ∈ call.notifies) where
  frame := frame_change call
  notifies := harranged
  issue _ _ _ := .issueEdited hissues _ _ (fun _ => ⟨rfl, rfl⟩) (fun _ => ⟨rfl, rfl⟩)
    (fun _ => .inl rfl) fun _ => .inl rfl
  link _ link hconclusion := .retestBound hbinds link hconclusion

theorem steps_createPlan {call : Call} (hinvitation : .playtestInvitation ∈ call.notifies)
    (harranged : .retestArranged ∈ call.notifies) (hissues : call.writesIssues)
    (hbinds : call.bindsRetest) (hplans : call.plans) (hschedules : call.schedules)
    (uuids : Uuids) (now : Timestamp) (actorId workspaceId workId : Uuid) (goals method : String)
    (drafts : List SessionDraft) (retest : Option (Uuid × ℤ)) :
    (createPlan settings normalizeEmail uuids now actorId workspaceId workId goals method drafts
      retest).Steps (Change call) := by
  have hF := frame_change call
  refine Tx.Steps.after (keeps_ensure _ _) fun _ _ => ?_
  refine Tx.Steps.bind (Tx.Steps.mapError ?_) fun _ => (keeps_readPlan hF _ _ _ _).steps
  refine Tx.Steps.after (keeps_requireManagement hF _ _ _ _) fun _ _ => ?_
  refine Tx.Steps.after (keeps_insertRow hF (fun db => .planCreated _ hplans) _ _ _) fun _ _ => ?_
  refine Tx.Steps.after (keeps_createSessions settings normalizeEmail
    (schedulingFrame_change hinvitation hschedules _ _ _) _ _ _ _ _) fun sessions _ => ?_
  exact Tx.Steps.after (keeps_bindRetest (retestFrame_change harranged hissues hbinds)
    _ _ _ _ _ _ _) fun _ _ => Tx.Steps.commitNow_bind trivial

theorem steps_appendSession {call : Call} (hinvitation : .playtestInvitation ∈ call.notifies)
    (hschedules : call.schedules) (uuids : Uuids) (now : Timestamp)
    (actorId workspaceId workId planId : Uuid) (draft : SessionDraft) :
    (appendSession settings normalizeEmail uuids now actorId workspaceId workId planId draft).Steps
      (Change call) := by
  have hF := frame_change call
  refine Tx.Steps.mapError (Tx.Steps.after (keeps_requireManagement hF _ _ _ _) fun _ _ => ?_)
  refine Tx.Steps.after (keeps_read hF _) fun _ _ => ?_
  refine Tx.Steps.after (keeps_require _ _) fun plan _ => ?_
  refine Tx.Steps.after (keeps_createSession settings normalizeEmail
    (schedulingFrame_change hinvitation hschedules _ _ _) _ _ _ _) fun item _ => ?_
  exact Tx.Steps.commitNow_bind (keeps_readManagedSession hF _ _ _ _).steps

theorem steps_updateArrangement {call : Call}
    (hkind : .playtestArrangementUpdated ∈ call.notifies) (uuids : Uuids) (now : Timestamp)
    (actorId workspaceId workId sessionId : Uuid) (scheduledAt : RequestedTime)
    (location : String) (capacity expectedRevision : ℤ) :
    (updateArrangement settings uuids now actorId workspaceId workId sessionId scheduledAt location
      capacity expectedRevision).Steps (Change call) := by
  have hF := frame_change call
  refine Tx.Steps.mapError (Tx.Steps.after (keeps_ensure _ _) fun _ _ => ?_)
  refine Tx.Steps.after (lockRevision_within hF _ _ _ _ _) fun item _ => ?_
  refine Tx.Steps.after (keeps_ensure _ _) fun _ _ => ?_
  refine Tx.Steps.after (keeps_read hF _) fun _ _ => Tx.Steps.after (keeps_ensure _ _) fun _ _ => ?_
  refine Tx.Steps.after (keeps_writeSession hF fun db => ?_) fun _ _ => ?_
  · exact .sessionEdited _ _ (fun _ => ⟨rfl, rfl, rfl, rfl⟩) fun _ => ⟨rfl, rfl⟩
  refine Tx.Steps.after (keeps_endAll hF _ _ _) fun _ _ => ?_
  refine Tx.Steps.after (keeps_notifyParticipants hF _ _ _ _ fun id details hd => ?_) fun _ _ => ?_
  · cases hd
    exact hkind
  exact Tx.Steps.commitNow_bind (keeps_readManagedSession hF _ _ _ _).steps

theorem steps_replaceMaterials {call : Call} (hkind : .playtestMaterialUpdated ∈ call.notifies)
    (uuids : Uuids) (now : Timestamp) (actorId workspaceId workId sessionId : Uuid)
    (fileIds : List Uuid) (expectedRevision : ℤ) :
    (replaceMaterials settings uuids now actorId workspaceId workId sessionId fileIds
      expectedRevision).Steps (Change call) := by
  have hF := frame_change call
  refine Tx.Steps.mapError (Tx.Steps.after (keeps_ensure _ _) fun _ _ => ?_)
  refine Tx.Steps.after (lockRevision_within hF _ _ _ _ _) fun item _ => ?_
  refine Tx.Steps.after (keeps_ensure _ _) fun _ _ => ?_
  refine Tx.Steps.after (keeps_mapError (keeps_snapshot hF _ _ _ _)) fun snapshot _ => ?_
  refine Tx.Steps.after (keeps_writeSession hF fun db => ?_) fun _ _ => ?_
  · exact .sessionEdited _ _ (fun _ => ⟨rfl, rfl, rfl, rfl⟩) fun _ => ⟨rfl, rfl⟩
  refine Tx.Steps.after (keeps_updateRow hF (fun db => background_change call rfl) _) fun _ _ => ?_
  refine Tx.Steps.after (keeps_insertRows hF (fun _ db => background_change call rfl) _ _)
    fun _ _ => ?_
  refine Tx.Steps.after (keeps_endAll hF _ _ _) fun _ _ => ?_
  refine Tx.Steps.after (keeps_notifyParticipants hF _ _ _ _ fun id details hd => ?_) fun _ _ => ?_
  · cases hd
    exact hkind
  exact Tx.Steps.commitNow_bind (keeps_readManagedSession hF _ _ _ _).steps

theorem steps_startSession {call : Call} (now : Timestamp)
    (actorId workspaceId workId sessionId : Uuid) (expectedRevision : ℤ)
    (hstarts : call.starts = some sessionId) :
    (startSession now actorId workspaceId workId sessionId expectedRevision).Steps
      (Change call) := by
  have hF := frame_change call
  refine Tx.Steps.mapError ?_
  refine Tx.Steps.after (lockRevision_within hF _ _ _ _ _) fun item hitem => ?_
  refine Tx.Steps.after (keeps_ensure _ _) fun _ _ => ?_
  refine Tx.Steps.after (keeps_writeSession hF fun db => ?_) fun _ _ => ?_
  · exact .sessionStarted _ (hitem ▸ hstarts) _ _
  exact Tx.Steps.commitNow_bind (keeps_readManagedSession hF _ _ _ _).steps

theorem steps_cancelSession {call : Call} (hkind : .playtestCancelled ∈ call.notifies)
    (uuids : Uuids) (now : Timestamp) (actorId workspaceId workId sessionId : Uuid)
    (expectedRevision : ℤ) (hcancels : call.cancels = some sessionId) :
    (cancelSession settings uuids now actorId workspaceId workId sessionId expectedRevision).Steps
      (Change call) := by
  have hF := frame_change call
  refine Tx.Steps.mapError ?_
  refine Tx.Steps.after (lockRevision_within hF _ _ _ _ _) fun item hitem => ?_
  refine Tx.Steps.after (keeps_ensure _ _) fun _ _ => ?_
  refine Tx.Steps.after (keeps_writeSession hF fun db => ?_) fun _ _ => ?_
  · exact .sessionCancelled _ (hitem ▸ hcancels) _
  refine Tx.Steps.after (keeps_stopMail hF _) fun _ _ => ?_
  refine Tx.Steps.after (keeps_endAll hF _ _ _) fun _ _ => ?_
  refine Tx.Steps.after (keeps_cancelRetestArranged hF _ _ _ _) fun _ _ => ?_
  refine Tx.Steps.after (keeps_notifyParticipants hF _ _ _ _ fun id details hd => ?_) fun _ _ => ?_
  · cases hd
    exact hkind
  exact Tx.Steps.commitNow_bind (keeps_readManagedSession hF _ _ _ _).steps

theorem steps_saveResult {call : Call} (actorId workspaceId workId sessionId : Uuid)
    (expectedRevision : ℤ) (draft : ResultDraft)
    (hrecords : call.records = some (sessionId, draft.actualMaterial.isSome)) :
    (saveResult actorId workspaceId workId sessionId expectedRevision draft).Steps
      (Change call) := by
  have hF := frame_change call
  refine Tx.Steps.mapError (Tx.Steps.after (keeps_ensure _ _) fun _ _ => ?_)
  refine Tx.Steps.after (lockRevision_within hF _ _ _ _ _) fun item hitem => ?_
  refine Tx.Steps.after (keeps_ensure _ _) fun _ _ => ?_
  refine Tx.Steps.after (validateResultDraft_within hF _ _) fun draft' hdraft => ?_
  refine Tx.Steps.after (keeps_writeSession hF fun db => ?_) fun _ _ => ?_
  · exact .resultRecorded _ draft' (by rw [hrecords, hitem, hdraft]) _
  have hback : ∀ db : Database, ∀ actualMaterials actualParticipants, Change call db { db with
      actualMaterials := actualMaterials, actualParticipants := actualParticipants } :=
    fun db _ _ => background_change call rfl
  refine Tx.Steps.after (P := fun _ => True) ?_ fun _ _ => ?_
  · exact (keeps_updateRow hF (fun db => hback db _ _) _).bind fun _ =>
      keeps_updateRow hF (fun db => hback db _ _) _
  refine Tx.Steps.after (keeps_resultReadyMaterials hF _ _ _) fun files _ => ?_
  refine Tx.Steps.after (keeps_writeSession hF fun db => ?_) fun _ _ => ?_
  · exact .sessionEdited _ _ (fun _ => ⟨rfl, rfl, rfl, rfl⟩) fun _ => ⟨rfl, rfl⟩
  refine Tx.Steps.after (P := fun _ => True) ?_ fun _ _ =>
    Tx.Steps.commitNow_bind (keeps_readResult hF _ _ _ _).steps
  exact (keeps_insertRows hF (fun _ db => hback db _ _) _ _).bind fun _ =>
    keeps_insertRows hF (fun _ db => hback db _ _) _ _

theorem steps_createObservation {call : Call} (uuids : Uuids)
    (actorId workspaceId workId sessionId : Uuid) (expectedRevision : ℤ) (kind : ObservationKind)
    (content : String) :
    (createObservation uuids actorId workspaceId workId sessionId expectedRevision kind
      content).Steps (Change call) := by
  have hF := frame_change call
  refine Tx.Steps.mapError (Tx.Steps.after (keeps_ensure _ _) fun _ _ => ?_)
  refine Tx.Steps.after (lockRevision_within hF _ _ _ _ _) fun item _ => ?_
  refine Tx.Steps.after (keeps_ensure _ _) fun _ _ => ?_
  refine Tx.Steps.after (P := fun _ => True) ?_ fun _ _ => ?_
  · refine Keeps.bind (keeps_ensure _ _) fun _ => ?_
    refine Keeps.bind (keeps_insertRow hF (fun db => .observed _) _ _ _) fun _ => ?_
    exact (keeps_accountEmail hF _).bind fun _ => keeps_pure _
  refine Tx.Steps.after (keeps_writeSession hF fun db => ?_) fun _ _ => trivial
  exact .sessionEdited _ _ (fun _ => ⟨rfl, rfl, rfl, rfl⟩) fun _ => ⟨rfl, rfl⟩

theorem steps_updateObservation {call : Call}
    (actorId workspaceId workId sessionId observationId : Uuid) (expectedRevision : ℤ)
    (kind : ObservationKind) (content : String) :
    (updateObservation actorId workspaceId workId sessionId observationId expectedRevision kind
      content).Steps (Change call) := by
  have hF := frame_change call
  refine Tx.Steps.mapError (Tx.Steps.after (keeps_ensure _ _) fun _ _ => ?_)
  refine Tx.Steps.after (lockRevision_within hF _ _ _ _ _) fun item _ => ?_
  refine Tx.Steps.after (keeps_ensure _ _) fun _ _ => ?_
  refine Tx.Steps.after (keeps_updateObservation hF _ _ _ _ _
    fun db p change h => .observationEdited p change h) fun _ _ => ?_
  refine Tx.Steps.after (keeps_writeSession hF fun db => ?_) fun _ _ => trivial
  exact .sessionEdited _ _ (fun _ => ⟨rfl, rfl, rfl, rfl⟩) fun _ => ⟨rfl, rfl⟩

theorem steps_confirmParticipation {call : Call} (now : Timestamp) (actorId sessionId : Uuid) :
    (confirmParticipation now actorId sessionId).Steps (Change call) := by
  have hF := frame_change call
  refine Tx.Steps.mapError (Tx.Steps.after (keeps_participantSession hF _ _) fun found _ => ?_)
  refine Tx.Steps.after (Workspaces.ensureAuthorizedWritable_within hF.refl _) fun _ _ => ?_
  refine Tx.Steps.after (keeps_selectForUpdate hF _ _) fun _ _ => ?_
  refine Tx.Steps.after (keeps_ensure _ _) fun _ _ => ?_
  refine Tx.Steps.after (keeps_ensure _ _) fun _ _ => Tx.Steps.after (keeps_read hF _) fun _ _ => ?_
  split
  · exact Tx.Steps.commitNow_bind trivial
  · refine Tx.Steps.after (keeps_ensure _ _) fun _ _ => ?_
    refine Tx.Steps.after (keeps_updateRow hF (fun db => background_change call rfl) _)
      fun _ _ => ?_
    exact Tx.Steps.after (keeps_endAll hF _ _ _) fun _ _ => Tx.Steps.commitNow_bind trivial

/-! ## Calls on feedback -/

theorem steps_createFeedbackItem {call : Call} (hfeedback : call.writesFeedback)
    (hitems : call.writesItems) (uuids : Uuids)
    (actorId workspaceId workId sessionId : Uuid) (operationKey : String)
    (draft : Evidence.FeedbackItemDraft) :
    (createFeedbackItem uuids actorId workspaceId workId sessionId operationKey draft).Steps
      (Change call) := by
  have hF := frame_change call
  refine Tx.Steps.mapError (Tx.Steps.after (keeps_feedbackManagedSession hF _ _ _ _) fun _ _ => ?_)
  exact Tx.Steps.after (keeps_createFeedbackItem hF (feedbackFrame_change hfeedback) _ _ _ _
    fun _ item => .itemCreated hitems item) fun _ _ => trivial

theorem steps_updateFeedbackItem {call : Call} (hfeedback : call.writesFeedback) (uuids : Uuids)
    (actorId workspaceId workId sessionId itemId : Uuid) (expectedRevision : ℤ)
    (draft : Evidence.FeedbackItemDraft) :
    (updateFeedbackItem uuids actorId workspaceId workId sessionId itemId expectedRevision
      draft).Steps (Change call) := by
  have hF := frame_change call
  refine Tx.Steps.mapError (Tx.Steps.after (keeps_feedbackManagedSession hF _ _ _ _) fun _ _ => ?_)
  exact Tx.Steps.after (keeps_updateFeedbackItem hF (feedbackFrame_change hfeedback) _ _ _ _ _)
    fun _ _ => trivial

theorem steps_deleteFeedbackItem {call : Call} (hfeedback : call.writesFeedback)
    (hitems : call.writesItems)
    (actorId workspaceId workId sessionId itemId : Uuid) :
    (deleteFeedbackItem actorId workspaceId workId sessionId itemId).Steps (Change call) := by
  have hF := frame_change call
  refine Tx.Steps.mapError (Tx.Steps.after (keeps_feedbackManagedSession hF _ _ _ _) fun _ _ => ?_)
  exact Tx.Steps.after (keeps_deleteFeedbackItem hF (feedbackFrame_change hfeedback) _ _
    fun _ id => .itemDeleted hitems id) fun _ _ => trivial

theorem steps_createFeedbackSubmission {call : Call} (hkind : .feedbackSubmitted ∈ call.notifies)
    (hfeedback : call.writesFeedback) (hwrites : call.writesSubmissions) (uuids : Uuids)
    (now : Timestamp) (actorId workspaceId workId sessionId : Uuid) (operationKey : String)
    (draft : Evidence.FeedbackSubmissionDraft) :
    (createFeedbackSubmission uuids now actorId workspaceId workId sessionId operationKey
      draft).Steps (Change call) := by
  have hF := frame_change call
  refine Tx.Steps.mapError (Tx.Steps.after (keeps_feedbackManagedSession hF _ _ _ _) fun _ _ => ?_)
  refine Tx.Steps.after (keeps_read hF _) fun existing _ => ?_
  have hwritten := feedbackFrame_change hfeedback
  refine Tx.Steps.after (keeps_createOrganizerSubmission hF hwritten _ _ _ _ _
    fun _ s => .submissionCreated hwrites s) fun submissionId _ => ?_
  dsimp only
  split
  · exact Tx.Steps.after (keeps_notifyFeedbackMaintainers hF hkind _ _ _ _) fun _ _ => trivial
  · exact trivial

theorem steps_updateFeedbackSubmission {call : Call} (hfeedback : call.writesFeedback)
    (hwrites : call.writesSubmissions)
    (actorId workspaceId workId sessionId submissionId : Uuid) (expectedRevision : ℤ)
    (draft : Evidence.FeedbackSubmissionDraft) :
    (updateFeedbackSubmission actorId workspaceId workId sessionId submissionId expectedRevision
      draft).Steps (Change call) := by
  have hF := frame_change call
  refine Tx.Steps.mapError (Tx.Steps.after (keeps_feedbackManagedSession hF _ _ _ _) fun _ _ => ?_)
  have hwritten := feedbackFrame_change hfeedback
  exact Tx.Steps.after (keeps_updateOrganizerSubmission hF hwritten _ _ _ _ _
    fun _ id change h => .submissionRewritten hwrites id change h) fun _ _ => trivial

theorem steps_saveParticipantFeedback {call : Call} (hkind : .feedbackSubmitted ∈ call.notifies)
    (hfeedback : call.writesFeedback) (hwrites : call.writesSubmissions) (uuids : Uuids)
    (now : Timestamp) (actorId sessionId : Uuid)
    (operationKey : Option String) (expectedRevision : Option ℤ)
    (draft : Evidence.FeedbackSubmissionDraft) :
    (saveParticipantFeedback uuids now actorId sessionId operationKey expectedRevision draft).Steps
      (Change call) := by
  have hF := frame_change call
  refine Tx.Steps.mapError (Tx.Steps.after (keeps_participantSession hF _ _) fun found _ => ?_)
  refine Tx.Steps.after (Workspaces.ensureAuthorizedWritable_within hF.refl _) fun _ _ => ?_
  refine Tx.Steps.after (keeps_ensure _ _) fun _ _ => Tx.Steps.after (keeps_read hF _) fun _ _ => ?_
  refine Tx.Steps.after (keeps_saveDirectSubmission hF (feedbackFrame_change hfeedback) _ _ _ _ _ _
    (fun _ s => .submissionCreated hwrites s)
    fun _ id change h => .submissionRewritten hwrites id change h) fun saved _ => ?_
  dsimp only
  split
  · exact Tx.Steps.after (keeps_notifyFeedbackMaintainers hF hkind _ _ _ _) fun _ _ => trivial
  · exact trivial

/-! ## Calls on issues -/

theorem loadIssue_within {F : Database → Database → Prop} {K : TodoKind → Prop} (hF : Frame F K)
    (issueId : Uuid) : (Issues.loadIssue issueId).Within F fun issue => issue.id = issueId := by
  have hselect := Tx.Within.selectForUpdate (F := F) (L := RowKey) (ε := ServiceError) hF.refl
    (fun i : Issue => .issue i.id)
    (fun db : Database => db.issues.find? fun i =>
      i.id == issueId && exitAllowsWrite none i.workspaceId db)
    (P := fun issue => ∀ i, issue = some i → i.id = issueId) (fun i hi => by cases hi)
    fun db i hi => by
      have hfound := List.find?_some hi
      simp only [Bool.and_eq_true, beq_iff_eq] at hfound
      exact hfound.1
  refine Tx.Within.bind hselect fun issue hissue => ?_
  exact (Tx.Within.require issue _).mono (fun _ _ h => h) fun i hi => hissue i hi

theorem keeps_lockIssue {F : Database → Database → Prop} {K : TodoKind → Prop} (hF : Frame F K)
    (issueId : Uuid) : Keeps F (Issues.loadIssue issueId) :=
  (loadIssue_within hF issueId).mono (fun _ _ h => h) fun _ _ => trivial

theorem keeps_writeLinks {F : Database → Database → Prop} {K : TodoKind → Prop} (hF : Frame F K)
    (issueId : Uuid) (linkIds : List Uuid) {change : IssueRetestLink → IssueRetestLink}
    (h : ∀ db : Database, F db { db with
      retestLinks := Table.update (fun l => linkIds.contains l.id) change db.retestLinks }) :
    Keeps F (Issues.writeLinks issueId linkIds change) := by
  rw [Issues.writeLinks]
  split
  · exact keeps_pure _
  · exact keeps_updateRow hF h _

theorem steps_createIssue {call : Call} (hkind : .issueOpened ∈ call.notifies)
    (hcreates : call.createsIssue) (hlinks : call.linksEvidence) (uuids : Uuids) (now : Timestamp)
    (actorId workspaceId workId : Uuid) (operationKey description : String)
    (decision : IssueDecision) (reason : String) (status : IssueStatus)
    (references : List Evidence.IssueEvidenceReference) :
    (Issues.createIssue uuids now actorId workspaceId workId operationKey description decision
      reason status references).Steps (Change call) := by
  have hF := frame_change call
  refine Tx.Steps.mapError (Tx.Steps.after (keeps_require _ _) fun texts _ => ?_)
  refine Tx.Steps.after (keeps_ensure _ _) fun _ _ => ?_
  refine Tx.Steps.after (keeps_requireIssueManagement hF _ _ _) fun _ _ => ?_
  refine Tx.Steps.after (P := fun _ => True) ?_ fun _ _ => ?_
  · exact (keeps_selectForUpdate hF _ _).bind fun _ =>
      (keeps_require _ _).bind fun _ => keeps_pure _
  refine Tx.Steps.after (keeps_read hF _) fun existing _ => ?_
  cases existing with
  | some existing =>
    refine Tx.Steps.after (keeps_referencesForIssue hF _) fun _ _ => ?_
    refine Tx.Steps.after (keeps_ensure _ _) fun _ _ => ?_
    exact Tx.Steps.after (keeps_currentConclusion hF _) fun _ _ => trivial
  | none =>
    refine Tx.Steps.after (keeps_validateIssueEvidenceSources hF _ _ _) fun _ _ => ?_
    refine Tx.Steps.after (keeps_insertRow hF (fun db => .issueCreated hcreates _) _ _ _)
      fun _ _ => ?_
    refine Tx.Steps.after (keeps_addLinks hF _ _ _ fun _ link _ => .linked hlinks link)
      fun _ _ => ?_
    have hrest : ∀ i : Issue, (Tx.commitNow.bind fun _ =>
        (Issues.currentConclusion i).bind fun _ => Tx.pure () : Program Unit).Steps
          (Change call) := fun _ => Tx.Steps.commitNow_bind
        (Tx.Steps.after (keeps_currentConclusion hF _) fun _ _ => trivial)
    dsimp only
    split
    · exact Tx.Steps.after (keeps_notifyMaintainers hF _ _ _ hkind _) fun _ _ => hrest _
    · exact hrest _

theorem steps_updateIssue {call : Call} (hopened : .issueOpened ∈ call.notifies)
    (hneeded : .retestArrangementNeeded ∈ call.notifies) (hissues : call.writesIssues)
    (hclears : call.clearsConclusions) (hadjusts : call.adjusts) (uuids : Uuids) (now : Timestamp)
    (actorId workspaceId workId issueId : Uuid) (description : String) (decision : IssueDecision)
    (reason : String) (adjustmentNote : Option String) (status : IssueStatus)
    (expectedRevision : ℤ) (hdecides : call.decides = some (issueId, status)) :
    (Issues.updateIssue uuids now actorId workspaceId workId issueId description decision reason
      adjustmentNote status expectedRevision).Steps (Change call) := by
  have hF := frame_change call
  refine Tx.Steps.mapError (Tx.Steps.after (keeps_require _ _) fun texts _ => ?_)
  refine Tx.Steps.after (keeps_require _ _) fun note _ => ?_
  refine Tx.Steps.after (keeps_ensure _ _) fun _ _ => ?_
  refine Tx.Steps.after (keeps_requireIssueManagement hF _ _ _) fun _ _ => ?_
  refine Tx.Steps.after (loadIssue_within hF _) fun issue hid => ?_
  refine Tx.Steps.after (keeps_ensure _ _) fun _ _ => ?_
  refine Tx.Steps.after (keeps_updateRow hF (fun db => ?_) _) fun _ _ => ?_
  · exact .issueEdited hissues _ _ (fun _ => ⟨rfl, rfl⟩) (fun _ => ⟨rfl, rfl⟩)
      (fun _ => .inr hadjusts) fun _ => .inr (hid ▸ hdecides)
  have hrest : ∀ (i : Issue) (b b' : Bool), ((Issues.updateTodos uuids now i b b').bind fun _ =>
      Tx.commitNow.bind fun _ => (Issues.currentConclusion i).bind fun _ => Tx.pure () :
        Program Unit).Steps (Change call) := fun i b b' =>
    Tx.Steps.after (keeps_updateTodos hF hopened hneeded _ _ _ _ _) fun _ _ =>
      Tx.Steps.commitNow_bind (Tx.Steps.after (keeps_currentConclusion hF _) fun _ _ => trivial)
  dsimp only
  split
  · refine Tx.Steps.after (keeps_selectAllForUpdate hF _ _) fun links _ => ?_
    exact Tx.Steps.after (keeps_writeLinks hF _ _ fun _ => .conclusionsCleared hclears _)
      fun _ _ => hrest _ _ _
  · exact hrest _ _ _

theorem steps_saveRetestConclusion {call : Call} (hissues : call.writesIssues)
    (hconcludes : call.concludes) (actorId workspaceId workId issueId retestId : Uuid)
    (conclusion : RetestConclusion) (reason : String) (status : IssueStatus)
    (expectedRevision : ℤ) (hdecides : call.decides = some (issueId, status)) :
    (Issues.saveRetestConclusion actorId workspaceId workId issueId retestId conclusion reason
      status expectedRevision).Steps (Change call) := by
  have hF := frame_change call
  refine Tx.Steps.mapError (Tx.Steps.after (keeps_require _ _) fun reason _ => ?_)
  refine Tx.Steps.after (keeps_ensure _ _) fun _ _ => ?_
  refine Tx.Steps.after (keeps_requireIssueManagement hF _ _ _) fun _ _ => ?_
  refine Tx.Steps.after (loadIssue_within hF _) fun issue hid => ?_
  refine Tx.Steps.after (keeps_ensure _ _) fun _ _ => ?_
  refine Tx.Steps.after (keeps_selectForUpdate hF _ _) fun _ _ => ?_
  refine Tx.Steps.after (keeps_require _ _) fun retest _ => ?_
  refine Tx.Steps.after (keeps_ensure _ _) fun _ _ => Tx.Steps.after (keeps_read hF _) fun _ _ => ?_
  refine Tx.Steps.after (keeps_require _ _) fun item _ => ?_
  refine Tx.Steps.after (keeps_ensure _ _) fun _ _ => ?_
  have hlinks : ∀ ids change, Issues.KeepsRetest change →
      Keeps (Change call) (Issues.writeLinks issue.id ids change) :=
    fun _ _ h => keeps_writeLinks hF _ _ fun _ => .concluded hconcludes _ _ h
  have hrest : ((Tx.selectAllForUpdate (fun l : IssueRetestLink => .retestLink l.id)
      fun db : Database => db.retestLinks.filter fun l =>
        l.issueId == issue.id && l.id != retest.id && l.conclusion.isSome).bind fun previous =>
      (Issues.writeLinks issue.id (previous.map (·.id)) Issues.clearConclusion).bind fun _ =>
      (Issues.writeIssue issue.id fun i => { i with
        status := status, revision := issue.revision + 1 }).bind fun _ =>
      (Issues.writeLinks issue.id [retest.id] fun l => { l with
        conclusion := some conclusion, conclusionReason := some reason }).bind fun _ =>
      Tx.commitNow.bind fun _ =>
      (Issues.currentConclusion { issue with
        status := status, revision := issue.revision + 1 }).bind fun _ =>
      Tx.pure () : Program Unit).Steps (Change call) := by
    refine Tx.Steps.after (keeps_selectAllForUpdate hF _ _) fun previous _ => ?_
    refine Tx.Steps.after (hlinks _ _ keepsRetest_clearConclusion) fun _ _ => ?_
    refine Tx.Steps.after (keeps_updateRow hF (fun db => ?_) _) fun _ _ => ?_
    · exact .issueEdited hissues _ _ (fun _ => ⟨rfl, rfl⟩) (fun _ => ⟨rfl, rfl⟩)
        (fun _ => .inl rfl) fun _ => .inr (hid ▸ hdecides)
    refine Tx.Steps.after (hlinks _ _ fun _ => ⟨rfl, rfl, rfl, rfl⟩) fun _ _ =>
      Tx.Steps.commitNow_bind ?_
    exact Tx.Steps.after (keeps_currentConclusion hF _) fun _ _ => trivial
  dsimp only
  split
  · refine Tx.Steps.after (keeps_referencesForIssue hF _) fun references _ => ?_
    refine Tx.Steps.after (keeps_hasIssueEvidenceFromSession hF _ _) fun found _ => ?_
    exact Tx.Steps.after (keeps_ensure _ _) fun _ _ => hrest
  · exact hrest

theorem steps_addIssueEvidence {call : Call} (hissues : call.writesIssues)
    (hlinks : call.linksEvidence) (uuids : Uuids) (actorId workspaceId workId issueId : Uuid)
    (expectedRevision : ℤ) (reference : Evidence.IssueEvidenceReference) :
    (Issues.addIssueEvidence uuids actorId workspaceId workId issueId expectedRevision
      reference).Steps (Change call) := by
  have hF := frame_change call
  refine Tx.Steps.mapError (Tx.Steps.after (keeps_ensure _ _) fun _ _ => ?_)
  refine Tx.Steps.after (keeps_requireIssueManagement hF _ _ _) fun _ _ => ?_
  refine Tx.Steps.after (keeps_lockIssue hF _) fun issue _ => ?_
  refine Tx.Steps.after (keeps_ensure _ _) fun _ _ => ?_
  refine Tx.Steps.after (keeps_validateIssueEvidenceSources hF _ _ _) fun _ _ => ?_
  refine Tx.Steps.after (keeps_referencesForIssue hF _) fun existing _ => ?_
  refine Tx.Steps.after (keeps_ensure _ _) fun _ _ => ?_
  refine Tx.Steps.after (keeps_addLinks hF _ _ _ fun _ link _ => .linked hlinks link) fun _ _ => ?_
  refine Tx.Steps.after (keeps_updateRow hF (fun db => ?_) _) fun _ _ => ?_
  · exact .issueEdited hissues _ _ (fun _ => ⟨rfl, rfl⟩) (fun _ => ⟨rfl, rfl⟩) (fun _ => .inl rfl)
      fun _ => .inl rfl
  refine Tx.Steps.commitNow_bind ?_
  exact Tx.Steps.after (keeps_currentConclusion hF _) fun _ _ => trivial

theorem steps_removeIssueEvidence {call : Call} (hissues : call.writesIssues)
    (actorId workspaceId workId issueId linkId : Uuid)
    (expectedRevision : ℤ) (hunlinks : call.unlinks = some linkId) :
    (Issues.removeIssueEvidence actorId workspaceId workId issueId linkId expectedRevision).Steps
      (Change call) := by
  have hF := frame_change call
  refine Tx.Steps.mapError (Tx.Steps.after (keeps_ensure _ _) fun _ _ => ?_)
  refine Tx.Steps.after (keeps_requireIssueManagement hF _ _ _) fun _ _ => ?_
  refine Tx.Steps.after (keeps_lockIssue hF _) fun issue _ => ?_
  refine Tx.Steps.after (keeps_ensure _ _) fun _ _ => Tx.Steps.after (keeps_read hF _) fun _ _ => ?_
  refine Tx.Steps.after (Tx.Within.require _ _) fun target htarget => ?_
  have htarget := List.find?_some htarget
  refine Tx.Steps.after (keeps_ensure _ _) fun _ _ => ?_
  refine Tx.Steps.after (keeps_updateRow hF (fun db => ?_) _) fun _ _ => ?_
  · exact .issueEdited hissues _ _ (fun _ => ⟨rfl, rfl⟩) (fun _ => ⟨rfl, rfl⟩) (fun _ => .inl rfl)
      fun _ => .inl rfl
  refine Tx.Steps.after (keeps_updateRow hF (fun db => ?_) _) fun _ _ => ?_
  · exact .unlinked _ (beq_iff_eq.1 htarget ▸ hunlinks)
  refine Tx.Steps.commitNow_bind ?_
  exact Tx.Steps.after (keeps_currentConclusion hF _) fun _ _ => trivial

/-- **Every statement of a call makes one of its changes.** -/
theorem Call.changes (call : Call) :
    (call.program settings normalizeEmail).Steps (Change call) := by
  cases call with
  | createPlan => exact (steps_createPlan settings normalizeEmail (by simp [notifies])
      (by simp [notifies]) rfl rfl rfl rfl _ _ _ _ _ _ _ _ _).bind fun _ => trivial
  | appendSession => exact (steps_appendSession settings normalizeEmail (by simp [notifies]) rfl
      _ _ _ _ _ _ _).bind fun _ => trivial
  | updateArrangement => exact (steps_updateArrangement settings (by simp [notifies])
      _ _ _ _ _ _ _ _ _ _).bind fun _ => trivial
  | replaceMaterials => exact (steps_replaceMaterials settings (by simp [notifies])
      _ _ _ _ _ _ _ _).bind fun _ => trivial
  | startSession => exact (steps_startSession _ _ _ _ _ _ rfl).bind fun _ => trivial
  | cancelSession => exact (steps_cancelSession settings (by simp [notifies])
      _ _ _ _ _ _ _ rfl).bind fun _ => trivial
  | saveResult => exact (steps_saveResult _ _ _ _ _ _ rfl).bind fun _ => trivial
  | createObservation => exact (steps_createObservation _ _ _ _ _ _ _ _).bind fun _ => trivial
  | updateObservation => exact (steps_updateObservation _ _ _ _ _ _ _ _).bind fun _ => trivial
  | confirmParticipation => exact (steps_confirmParticipation _ _ _).bind fun _ => trivial
  | createFeedbackItem => exact steps_createFeedbackItem rfl rfl _ _ _ _ _ _ _
  | updateFeedbackItem => exact steps_updateFeedbackItem rfl _ _ _ _ _ _ _ _
  | deleteFeedbackItem => exact steps_deleteFeedbackItem rfl rfl _ _ _ _ _
  | createFeedbackSubmission =>
    exact steps_createFeedbackSubmission (by simp [notifies]) rfl rfl _ _ _ _ _ _ _ _
  | updateFeedbackSubmission => exact steps_updateFeedbackSubmission rfl rfl _ _ _ _ _ _ _
  | saveParticipantFeedback =>
    exact steps_saveParticipantFeedback (by simp [notifies]) rfl rfl _ _ _ _ _ _ _
  | createIssue => exact steps_createIssue (by simp [notifies]) rfl rfl _ _ _ _ _ _ _ _ _ _ _
  | updateIssue =>
    exact steps_updateIssue (by simp [notifies]) (by simp [notifies]) rfl rfl rfl
      _ _ _ _ _ _ _ _ _ _ _ _ rfl
  | saveRetestConclusion => exact steps_saveRetestConclusion rfl rfl _ _ _ _ _ _ _ _ _ rfl
  | addIssueEvidence => exact steps_addIssueEvidence rfl rfl _ _ _ _ _ _ _
  | removeIssueEvidence => exact steps_removeIssueEvidence rfl _ _ _ _ _ _ rfl
  | elsewhere change =>
    exact Tx.Steps.after (Tx.Within.write fun _ db => .elsewhere change rfl) fun _ _ => trivial

end Calls

end Playtests

end Rulefolio
