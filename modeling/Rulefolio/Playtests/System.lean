import Rulefolio.Playtests.Effects

/-!
# Playtests, evidence and issues under concurrency

Any number of calls of `app.playtests` and `app.issues`, interleaved. The other packages take part
through `Call.elsewhere`: any transaction at all that leaves the tables of playtests, evidence and
issues alone. So accounts, roles, works, files, todos and mails change freely around these calls.

`Commit` is what any call is shown to do: seen from a session it is a transition of
`Playtests.Record`, seen from an issue one of `IssueTransition`, and a view changes only under the
lock of its row.

## Main definitions

* `Call`, `Call.program`, `system` — the system.
* `Commit`, `guarantee` — what a commit of a call can be.
* `WellFormed` — the invariant of the database.
* `Respects` — an environment in which the views of a locked row are stable.

## Main results

* `Commit.wellFormed` — every commit keeps the invariant.
* `respects_environment` — the calls make such an environment for each other.
-/

namespace Rulefolio

namespace Playtests

open ReadCommitted

/-! ## Calls -/

/-- The database after some other transaction, which leaves the tables of playtests, evidence and
issues alone. -/
def keepPlaytests (before after : Database) : Database :=
  { after with
    plans := before.plans
    sessions := before.sessions
    sessionMaterials := before.sessionMaterials
    participants := before.participants
    actualMaterials := before.actualMaterials
    actualParticipants := before.actualParticipants
    observations := before.observations
    feedbackItems := before.feedbackItems
    feedbackOptions := before.feedbackOptions
    feedbackSubmissions := before.feedbackSubmissions
    feedbackAnswers := before.feedbackAnswers
    issues := before.issues
    retestLinks := before.retestLinks
    evidenceLinks := before.evidenceLinks }

/-- A call of a service function with its arguments, the keys it will be given and its clock. -/
inductive Call
  | createPlan (uuids : Uuids) (now : Timestamp) (actorId workspaceId workId : Uuid)
      (observationGoals recordingMethod : String) (drafts : List SessionDraft)
      (retest : Option (Uuid × ℤ))
  | appendSession (uuids : Uuids) (now : Timestamp) (actorId workspaceId workId planId : Uuid)
      (draft : SessionDraft)
  | updateArrangement (uuids : Uuids) (now : Timestamp)
      (actorId workspaceId workId sessionId : Uuid) (scheduledAt : RequestedTime)
      (location : String) (capacity expectedRevision : ℤ)
  | replaceMaterials (uuids : Uuids) (now : Timestamp)
      (actorId workspaceId workId sessionId : Uuid) (materialFileIds : List Uuid)
      (expectedRevision : ℤ)
  | startSession (now : Timestamp) (actorId workspaceId workId sessionId : Uuid)
      (expectedRevision : ℤ)
  | cancelSession (uuids : Uuids) (now : Timestamp) (actorId workspaceId workId sessionId : Uuid)
      (expectedRevision : ℤ)
  | saveResult (actorId workspaceId workId sessionId : Uuid) (expectedRevision : ℤ)
      (draft : ResultDraft)
  | createObservation (uuids : Uuids) (actorId workspaceId workId sessionId : Uuid)
      (expectedRevision : ℤ) (kind : ObservationKind) (content : String)
  | updateObservation (actorId workspaceId workId sessionId observationId : Uuid)
      (expectedRevision : ℤ) (kind : ObservationKind) (content : String)
  | confirmParticipation (now : Timestamp) (actorId sessionId : Uuid)
  | createFeedbackItem (uuids : Uuids) (actorId workspaceId workId sessionId : Uuid)
      (operationKey : String) (draft : Evidence.FeedbackItemDraft)
  | updateFeedbackItem (uuids : Uuids) (actorId workspaceId workId sessionId itemId : Uuid)
      (expectedRevision : ℤ) (draft : Evidence.FeedbackItemDraft)
  | deleteFeedbackItem (actorId workspaceId workId sessionId itemId : Uuid)
  | createFeedbackSubmission (uuids : Uuids) (now : Timestamp)
      (actorId workspaceId workId sessionId : Uuid) (operationKey : String)
      (draft : Evidence.FeedbackSubmissionDraft)
  | updateFeedbackSubmission (actorId workspaceId workId sessionId submissionId : Uuid)
      (expectedRevision : ℤ) (draft : Evidence.FeedbackSubmissionDraft)
  | saveParticipantFeedback (uuids : Uuids) (now : Timestamp) (actorId sessionId : Uuid)
      (operationKey : Option String) (expectedRevision : Option ℤ)
      (draft : Evidence.FeedbackSubmissionDraft)
  | createIssue (uuids : Uuids) (now : Timestamp) (actorId workspaceId workId : Uuid)
      (operationKey : String) (description : String) (decision : IssueDecision) (reason : String)
      (status : IssueStatus) (references : List Evidence.IssueEvidenceReference)
  | updateIssue (uuids : Uuids) (now : Timestamp) (actorId workspaceId workId issueId : Uuid)
      (description : String) (decision : IssueDecision) (reason : String)
      (adjustmentNote : Option String) (status : IssueStatus) (expectedRevision : ℤ)
  | saveRetestConclusion (actorId workspaceId workId issueId retestId : Uuid)
      (conclusion : RetestConclusion) (reason : String) (status : IssueStatus)
      (expectedRevision : ℤ)
  | addIssueEvidence (uuids : Uuids) (actorId workspaceId workId issueId : Uuid)
      (expectedRevision : ℤ) (reference : Evidence.IssueEvidenceReference)
  | removeIssueEvidence (actorId workspaceId workId issueId linkId : Uuid)
      (expectedRevision : ℤ)
  | elsewhere (change : Database → Database)

namespace Call

/-- The code of a call. What it returns is not looked at. -/
def program (settings : Settings) (normalizeEmail : String → Option String) :
    Call → Program Unit
  | createPlan uuids now actorId workspaceId workId goals method drafts retest => do
    let _ ← Playtests.createPlan settings normalizeEmail uuids now actorId workspaceId workId goals
      method drafts retest
  | appendSession uuids now actorId workspaceId workId planId draft => do
    let _ ← Playtests.appendSession settings normalizeEmail uuids now actorId workspaceId workId
      planId draft
  | updateArrangement uuids now actorId workspaceId workId sessionId scheduledAt location capacity
      expectedRevision => do
    let _ ← Playtests.updateArrangement settings uuids now actorId workspaceId workId sessionId
      scheduledAt location capacity expectedRevision
  | replaceMaterials uuids now actorId workspaceId workId sessionId fileIds expectedRevision => do
    let _ ← Playtests.replaceMaterials settings uuids now actorId workspaceId workId sessionId
      fileIds expectedRevision
  | startSession now actorId workspaceId workId sessionId expectedRevision => do
    let _ ← Playtests.startSession now actorId workspaceId workId sessionId expectedRevision
  | cancelSession uuids now actorId workspaceId workId sessionId expectedRevision => do
    let _ ← Playtests.cancelSession settings uuids now actorId workspaceId workId sessionId
      expectedRevision
  | saveResult actorId workspaceId workId sessionId expectedRevision draft => do
    let _ ← Playtests.saveResult actorId workspaceId workId sessionId expectedRevision draft
  | createObservation uuids actorId workspaceId workId sessionId expectedRevision kind content => do
    let _ ← Playtests.createObservation uuids actorId workspaceId workId sessionId expectedRevision
      kind content
  | updateObservation actorId workspaceId workId sessionId observationId expectedRevision kind
      content => do
    let _ ← Playtests.updateObservation actorId workspaceId workId sessionId observationId
      expectedRevision kind content
  | confirmParticipation now actorId sessionId => do
    let _ ← Playtests.confirmParticipation now actorId sessionId
  | createFeedbackItem uuids actorId workspaceId workId sessionId operationKey draft =>
    Playtests.createFeedbackItem uuids actorId workspaceId workId sessionId operationKey draft
  | updateFeedbackItem uuids actorId workspaceId workId sessionId itemId expectedRevision draft =>
    Playtests.updateFeedbackItem uuids actorId workspaceId workId sessionId itemId expectedRevision
      draft
  | deleteFeedbackItem actorId workspaceId workId sessionId itemId =>
    Playtests.deleteFeedbackItem actorId workspaceId workId sessionId itemId
  | createFeedbackSubmission uuids now actorId workspaceId workId sessionId operationKey draft =>
    Playtests.createFeedbackSubmission uuids now actorId workspaceId workId sessionId operationKey
      draft
  | updateFeedbackSubmission actorId workspaceId workId sessionId submissionId expectedRevision
      draft =>
    Playtests.updateFeedbackSubmission actorId workspaceId workId sessionId submissionId
      expectedRevision draft
  | saveParticipantFeedback uuids now actorId sessionId operationKey expectedRevision draft =>
    Playtests.saveParticipantFeedback uuids now actorId sessionId operationKey expectedRevision
      draft
  | createIssue uuids now actorId workspaceId workId operationKey description decision reason status
      references =>
    Issues.createIssue uuids now actorId workspaceId workId operationKey description decision
      reason status references
  | updateIssue uuids now actorId workspaceId workId issueId description decision reason note
      status expectedRevision =>
    Issues.updateIssue uuids now actorId workspaceId workId issueId description decision reason
      note status expectedRevision
  | saveRetestConclusion actorId workspaceId workId issueId retestId conclusion reason status
      expectedRevision =>
    Issues.saveRetestConclusion actorId workspaceId workId issueId retestId conclusion reason status
      expectedRevision
  | addIssueEvidence uuids actorId workspaceId workId issueId expectedRevision reference =>
    Issues.addIssueEvidence uuids actorId workspaceId workId issueId expectedRevision reference
  | removeIssueEvidence actorId workspaceId workId issueId linkId expectedRevision =>
    Issues.removeIssueEvidence actorId workspaceId workId issueId linkId expectedRevision
  | elsewhere change => Rulefolio.elsewhere keepPlaytests change

/-- The session a call carries an expected revision for. -/
def sessionRevision : Call → Option (Uuid × ℤ)
  | updateArrangement _ _ _ _ _ sessionId _ _ _ expectedRevision => some
    (sessionId, expectedRevision)
  | replaceMaterials _ _ _ _ _ sessionId _ expectedRevision => some (sessionId, expectedRevision)
  | startSession _ _ _ _ sessionId expectedRevision => some (sessionId, expectedRevision)
  | cancelSession _ _ _ _ _ sessionId expectedRevision => some (sessionId, expectedRevision)
  | saveResult _ _ _ sessionId expectedRevision _ => some (sessionId, expectedRevision)
  | createObservation _ _ _ _ sessionId expectedRevision _ _ => some (sessionId, expectedRevision)
  | updateObservation _ _ _ sessionId _ expectedRevision _ _ => some (sessionId, expectedRevision)
  | _ => none

/-- The issue a call carries an expected revision for. A plan for a retest carries one, which its
call of `bind_retest_session` compares. -/
def issueRevision : Call → Option (Uuid × ℤ)
  | updateIssue _ _ _ _ _ issueId _ _ _ _ _ expectedRevision => some (issueId, expectedRevision)
  | createPlan _ _ _ _ _ _ _ _ retest => retest
  | saveRetestConclusion _ _ _ issueId _ _ _ _ expectedRevision => some (issueId, expectedRevision)
  | addIssueEvidence _ _ _ _ issueId expectedRevision _ => some (issueId, expectedRevision)
  | removeIssueEvidence _ _ _ issueId _ expectedRevision => some (issueId, expectedRevision)
  | _ => none

/-- Whether a call ends by reading back what it has committed, with the caller checked again. -/
def readsBack : Call → Bool
  | createPlan .. | appendSession .. | updateArrangement .. | replaceMaterials ..
  | startSession .. | cancelSession .. | saveResult .. => true
  | _ => false

end Call

/-- The revision that goes with a key. -/
def expected (target : Option (Uuid × ℤ)) (key : Uuid) : Option ℤ :=
  target.bind fun (k, revision) => if k = key then some revision else none

@[simp] theorem expected_none (key : Uuid) : expected none key = none := rfl

@[simp] theorem expected_self (key : Uuid) (e : ℤ) : expected (some (key, e)) key = some e := by
  simp [expected]

theorem expected_of_ne {k key : Uuid} (h : key ≠ k) (e : ℤ) : expected (some (k, e)) key = none :=
    by
  simp [expected, Ne.symm h]

/-- Any number of calls, on a database that is empty at first. -/
def system (settings : Settings) (normalizeEmail : String → Option String) :
    TransitionSystem (Config Database RowKey ServiceError Unit Call) (Event Call) :=
  ReadCommitted.system (· = Database.empty) (Call.program settings normalizeEmail)

/-! ## What a commit can be -/

/-- One change of an issue, as far as its revision is concerned. -/
inductive IssueTransition : Option ℤ → List Issue → List Issue → Prop
  | stays (rows : List Issue) : IssueTransition none rows rows
  | created (issue : Issue) (hrevision : issue.revision = 1) : IssueTransition none [] [issue]
  | revised (issue issue' : Issue) (hid : issue'.id = issue.id)
      (hrevision : issue'.revision = issue.revision + 1) :
      IssueTransition (some issue.revision) [issue] [issue']

theorem IssueTransition.length_le {label : Option ℤ} {rows rows' : List Issue}
    (h : IssueTransition label rows rows') (hrows : rows.length ≤ 1) : rows'.length ≤ 1 := by
  cases h with
  | stays => exact hrows
  | created => rfl
  | revised => rfl

/-- What a commit of a call does. -/
structure Commit (call : Call) (H : Set (RowKey × RowLock)) (db db' : Database) : Prop where
  session : ∀ n, Transition (expected call.sessionRevision n) (db.record n) (db'.record n)
  sessionLock : ∀ n, db'.record n ≠ db.record n → (.session n, .update) ∈ H
  issue : ∀ k, IssueTransition (expected call.issueRevision k) (db.issueRows k) (db'.issueRows k)
  issueLock : ∀ k, db'.issueRows k ≠ db.issueRows k → (.issue k, .update) ∈ H
  places : ∃ new : List Place, db'.places = new ++ db.places ∧ (new.map (·.id)).Nodup ∧
    ∀ p ∈ new, p.id ∉ db.places.map (·.id) ∧ (.participant p.id, .update) ∈ H
  explained : db.Explained → db'.Explained

/-- A call commits at most once. -/
def guarantee (call : Call) : Tx.Guarantee Database RowKey :=
  fun commits H db db' => commits = 0 ∧ Commit call H db db'

/-- The invariant of the database. -/
structure WellFormed (db : Database) : Prop where
  session : ∀ n, (db.record n).Sound
  issue : ∀ k, (db.issueRows k).length ≤ 1
  places : (db.places.map (·.id)).Nodup
  explained : db.Explained

theorem wellFormed_empty : WellFormed Database.empty :=
  ⟨fun _ => Record.sound_empty, fun _ => Nat.zero_le 1, List.nodup_nil, fun _ hl => by cases hl⟩

/-- **Every commit keeps the invariant.** -/
theorem Commit.wellFormed {call : Call} {H : Set (RowKey × RowLock)} {db db' : Database}
    (h : Commit call H db db') (hdb : WellFormed db) : WellFormed db' := by
  refine ⟨fun n => (h.session n).sound (hdb.session n),
    fun k => (h.issue k).length_le (hdb.issue k), ?_, h.explained hdb.explained⟩
  obtain ⟨new, hplaces, hnodup, hnew⟩ := h.places
  rw [hplaces, List.map_append, List.nodup_append]
  refine ⟨hnodup, hdb.places, ?_⟩
  rintro _ ha b hb rfl
  obtain ⟨p, hp, rfl⟩ := List.mem_map.1 ha
  exact (hnew p hp).1 hb

/-! ## The environment -/

/-- Whoever holds the lock of a row sees its views stay the same. -/
structure Respects (E : Environment Database RowKey) : Prop where
  wellFormed : ∀ {db}, E.Inv db → WellFormed db
  session : ∀ {H db db' n}, E.Rely H db db' → (.session n, .update) ∈ H →
    db'.record n = db.record n
  issue : ∀ {H db db' k}, E.Rely H db db' → (.issue k, .update) ∈ H →
    db'.issueRows k = db.issueRows k
  /-- A participant's key that is free stays free. -/
  participant : ∀ {H db db' p}, E.Rely H db db' → (.participant p, .update) ∈ H →
    p ∉ db.places.map (·.id) → p ∉ db'.places.map (·.id)
  /-- Nobody leaves, locked or not. -/
  places : ∀ {H db db' p}, E.Rely H db db' → p ∈ db.places → p ∈ db'.places
  /-- What was started remains so, locked or not. -/
  started : ∀ {H db db' n}, E.Rely H db db' → (db.record n).Started → (db'.record n).Started

theorem Commit.places_subset {call : Call} {H : Set (RowKey × RowLock)} {db db' : Database}
    (h : Commit call H db db') {p : Place} (hp : p ∈ db.places) : p ∈ db'.places := by
  obtain ⟨new, hplaces, -⟩ := h.places
  exact hplaces ▸ List.mem_append_right _ hp

/-- The environment the calls make for each other. -/
abbrev concurrent : Environment Database RowKey := environment WellFormed guarantee

theorem closed_concurrent : Closed concurrent guarantee :=
  closed_environment fun _ _ _ _ _ hs hG => hG.2.wellFormed hs

/-- **The calls respect each other's locks.** -/
theorem respects_environment : Respects concurrent where
  wellFormed h := h
  session {H db db' n} hr hl := by
    refine relates_of_rely (R := fun db db' => db'.record n = db.record n) (fun _ => rfl)
      (fun s t u (h : t.record n = s.record n) (h' : u.record n = t.record n) => h'.trans h) ?_ hr
    intro call _ H' s s' _ hG hc
    by_contra hne
    exact hc.symm.notMem hl _ (hG.2.sessionLock n hne)
  issue {H db db' k} hr hl := by
    refine relates_of_rely (R := fun db db' => db'.issueRows k = db.issueRows k) (fun _ => rfl)
      (fun s t u (h : t.issueRows k = s.issueRows k) (h' : u.issueRows k = t.issueRows k) =>
        h'.trans h) ?_ hr
    intro call _ H' s s' _ hG hc
    by_contra hne
    exact hc.symm.notMem hl _ (hG.2.issueLock k hne)
  participant {H db db' p} hr hl := by
    refine relates_of_rely
      (R := fun db db' => p ∉ db.places.map (·.id) → p ∉ db'.places.map (·.id)) (fun _ => id)
      (fun _ _ _ h h' hp => h' (h hp)) ?_ hr
    intro call _ H' s s' _ hG hc hp
    obtain ⟨new, hplaces, -, hnew⟩ := hG.2.places
    rw [hplaces, List.map_append, List.mem_append, not_or]
    refine ⟨fun hmem => ?_, hp⟩
    obtain ⟨q, hq, rfl⟩ := List.mem_map.1 hmem
    exact hc.symm.notMem hl _ (hnew q hq).2
  places {H db db' p} hr hp := by
    refine relates_of_rely (R := fun db db' => p ∈ db.places → p ∈ db'.places) (fun _ => id)
      (fun _ _ _ h h' hp => h' (h hp)) ?_ hr hp
    exact fun _ _ _ _ _ _ hG _ => hG.2.places_subset
  started {H db db' n} hr hs := by
    refine relates_of_rely (R := fun db db' => (db.record n).Started → (db'.record n).Started)
      (fun _ => id) (fun _ _ _ h h' hs => h' (h hs)) ?_ hr hs
    exact fun _ _ _ _ _ _ hG _ => (hG.2.session n).stays_started

end Playtests

end Rulefolio
