import Rulefolio.Library.Returns
import Rulefolio.Playtests.FeedbackEdits

/-!
# Keys of feedback

The three operations that create feedback are each given a key of the caller's. A request under a
known key creates nothing, and the three differ in what they say. `create_feedback_item` compares
the request with the item as it is now, so that an edit makes the same request a conflict. The two
operations on submissions compare nothing but who asks, so that they never refuse a request for
something else.

## Main definitions

* `KeyIdempotent` — what a key promises to whoever sends a request again.
* `itemPayload`, `organizerPayload`, `directPayload` — requests after normalisation.

## Main results

* `itemKey_idempotent_iff` — the promise about an item is kept as long as it is not edited.
* `organizerKey_not_idempotent`, `directKey_not_idempotent` — the others are never kept.
* `feedback_keys_idempotent` — all three, in every reachable state.
-/

namespace Rulefolio

namespace Playtests

open ReadCommitted
open Evidence (Feedback FeedbackItemDraft FeedbackAnswerDraft FeedbackSubmissionDraft)

/-! ## The promise -/

/-- What a key promises once the record `id` was accepted under it: a request for the same returns
with the record under the key still that one, any other request in good form is a conflict, and
neither changes anything. -/
structure KeyIdempotent {δ π : Type} (payload : δ → Option π)
    (request : Uuids → Timestamp → δ → Program Unit) (record : Database → Option Uuid)
    (db : Database) (draft : δ) (id : Uuid) : Prop where
  same : ∀ uuids now again, payload again = payload draft →
    (request uuids now again).exec db = (db, .ok ())
  record : record db = some id
  different : ∀ uuids now other, (payload other).isSome → payload other ≠ payload draft →
    (request uuids now other).exec db = (db, .error .feedbackOperationConflict)

/-! ## Items -/

variable {db : Database} {actorId workspaceId workId n : Uuid} {operationKey : String}

/-- The item of a session under a key. -/
def itemUnder (n : Uuid) (operationKey : String) (db : Database) : Option PlaytestFeedbackItem :=
  db.feedbackItems.find? fun i => i.sessionId == n && i.creationOperationKey == operationKey

/-- The promise of `create_feedback_item`. -/
abbrev ItemKeyIdempotent (db : Database) (actorId workspaceId workId n : Uuid)
    (operationKey : String) (draft : FeedbackItemDraft) (id : Uuid) : Prop :=
  KeyIdempotent Evidence.itemDraft
    (fun uuids _ draft => createFeedbackItem uuids actorId workspaceId workId n operationKey draft)
    (fun db => (itemUnder n operationKey db).map (·.id)) db draft id

/-- The checks of the operations on feedback let the actor go on. -/
def MayManageFeedback (db : Database) (actorId workspaceId workId n : Uuid) : Prop :=
  (feedbackManagedSession actorId workspaceId workId n).Returns (fun _ _ _ => True) db db

/-- The item is what the draft asks for, with its options in their order. -/
structure IsItemRecord (db : Database) (n : Uuid) (operationKey : String)
    (draft : FeedbackItemDraft) (item : PlaytestFeedbackItem) : Prop where
  mem : item ∈ db.feedbackItems
  session : item.sessionId = n
  key : item.creationOperationKey = operationKey
  kind : item.kind = draft.kind
  question : item.question = draft.question
  options : (db.feedbackOptions.filter fun o => o.sessionId == n && o.itemId == item.id).map
    (·.label) = draft.options

theorem lockManagedSession_reads (workspaceId workId n : Uuid) :
    (lockManagedSession workspaceId workId n).Within Eq fun item => item.id = n := by
  have hid : ∀ db item, ((findSession workspaceId workId n db).filter fun _ =>
      exitAllowsWrite none workspaceId db) = some item → item.id = n := by
    intro db item hfind
    have hrow := List.find?_some (Option.filter_eq_some_iff.1 hfind).1
    simp only [Bool.and_eq_true, beq_iff_eq] at hrow
    exact hrow.1.1
  have hselect : (Tx.selectForUpdate (fun s : PlaytestSession => RowKey.session s.id)
      (fun db => (findSession workspaceId workId n db).filter fun _ =>
        exitAllowsWrite none workspaceId db) : Program (Option PlaytestSession)).Within Eq
      fun found => ∀ item, found = some item → item.id = n :=
    Tx.Within.selectForUpdate (fun _ => rfl) _ _ (fun item h => by cases h) hid
  refine Tx.Within.bind hselect fun found hfound => ?_
  exact (Tx.Within.require found _).mono (fun _ _ h => h) fun item h => hfound item h

theorem feedbackManagedSession_reads (actorId workspaceId workId n : Uuid) :
    (feedbackManagedSession actorId workspaceId workId n).Within Eq fun item => item.id = n := by
  have hmanagement : (requireManagement actorId workspaceId workId true).Within Eq
      fun _ => True :=
    Tx.Within.mapError ((Workspaces.ensureWritable_within (fun _ => rfl) _).andThen fun _ =>
      (Works.ensurePlaytestManagement_within (fun _ => rfl) _ _ _).andThen fun _ =>
        Tx.Within.pure trivial)
  refine hmanagement.andThen fun _ => ?_
  refine Tx.Within.bind (lockManagedSession_reads _ _ _) fun item hid => ?_
  exact (Tx.Within.ensure' _ _).andThen fun _ => Tx.Within.pure hid

/-- The comparison `create_feedback_item` makes. -/
def itemAgrees (db : Database) (n : Uuid) (item : PlaytestFeedbackItem)
    (draft : FeedbackItemDraft) : Bool :=
  item.kind == draft.kind && item.question == draft.question &&
    (db.feedbackOptions.filter fun o => o.sessionId == n && o.itemId == item.id).map (·.label) ==
      draft.options

/-- Whom a request under a known key is answered. -/
theorem createFeedbackItem_known_iff {item : PlaytestFeedbackItem}
    (hunder : itemUnder n operationKey db = some item) {uuids : Uuids}
    {draft : FeedbackItemDraft} :
    (createFeedbackItem uuids actorId workspaceId workId n operationKey draft).exec db =
        (db, .ok ()) ↔
      MayManageFeedback db actorId workspaceId workId n ∧ ∃ accepted,
        Evidence.itemDraft draft = some accepted ∧ Evidence.validOperationKey operationKey = true ∧
          itemAgrees db n item accepted = true := by
  rw [Tx.exec_eq_iff, createFeedbackItem, Tx.returns_mapError]
  simp only [Tx.bind_eq]
  rw [Tx.returns_bind]
  refine (feedbackManagedSession_reads actorId workspaceId workId n).returns_iff_and
    fun session hid => ?_
  subst hid
  rw [Evidence.createFeedbackItem]
  simp only [Tx.bind_eq, Tx.bind_assoc]
  rw [Tx.returns_bind, Tx.returns_require]
  refine exists_congr fun accepted => and_congr_right fun _ => ?_
  rw [Tx.returns_bind, Tx.returns_ensure]
  refine and_congr_right fun _ => ?_
  rw [Tx.returns_bind, Tx.returns_selectForUpdate]
  rw [itemUnder] at hunder
  rw [hunder]
  simp only [Tx.bind_assoc]
  rw [Tx.returns_bind, Tx.returns_read, Tx.returns_bind, Tx.returns_ensure, Tx.returns_commitNow]
  exact and_iff_left ⟨trivial, rfl⟩

theorem itemAgrees_iff {item : PlaytestFeedbackItem} {draft : FeedbackItemDraft}
    (hunder : itemUnder n operationKey db = some item) :
    itemAgrees db n item draft = true ↔ IsItemRecord db n operationKey draft item := by
  have hrow := List.find?_some hunder
  simp only [Bool.and_eq_true, beq_iff_eq] at hrow
  simp only [itemAgrees, Bool.and_eq_true, beq_iff_eq]
  constructor
  · rintro ⟨⟨hkind, hquestion⟩, hoptions⟩
    exact ⟨List.mem_of_find?_eq_some hunder, hrow.1, hrow.2, hkind, hquestion, hoptions⟩
  · intro h
    exact ⟨⟨h.kind, h.question⟩, h.options⟩

/-- A request under a known key that does not agree with the item is refused. -/
theorem createFeedbackItem_conflict {item : PlaytestFeedbackItem}
    (hmay : MayManageFeedback db actorId workspaceId workId n)
    (hunder : itemUnder n operationKey db = some item)
    (hkey : Evidence.validOperationKey operationKey = true) {draft accepted : FeedbackItemDraft}
    (haccepted : Evidence.itemDraft draft = some accepted)
    (hdiffers : itemAgrees db n item accepted = false) (uuids : Uuids) :
    (createFeedbackItem uuids actorId workspaceId workId n operationKey draft).exec db =
      (db, .error .feedbackOperationConflict) := by
  have hsession := feedbackManagedSession_reads actorId workspaceId workId n
  obtain ⟨session, hid, hreturns, -⟩ := hsession.returns_iff.1 hmay
  subst hid
  rw [createFeedbackItem, Tx.exec_mapError]
  simp only [Tx.bind_eq]
  rw [hsession.exec_bind hreturns, Evidence.createFeedbackItem, haccepted, hkey]
  simp only [Tx.bind_eq, Tx.bind_assoc]
  show (Tx.exec ((Tx.selectForUpdate _ (itemUnder session.id operationKey)).bind _) db).map id
    (Except.mapError checkErrors) = _
  have hselect : (Tx.selectForUpdate (fun i : PlaytestFeedbackItem => RowKey.feedbackItem i.id)
      (itemUnder session.id operationKey) : Program _).Within Eq fun _ => True :=
    Tx.Within.selectForUpdate (fun _ => rfl) _ _ trivial fun _ => trivial
  rw [hselect.exec_bind ((Tx.returns_selectForUpdate _ _).2 hunder)]
  show (Tx.exec ((Tx.ensure (itemAgrees db session.id item accepted) _).bind _) db).map id
    (Except.mapError checkErrors) = _
  rw [hdiffers]
  rfl

/-- **The key of an item is idempotent exactly while its item is what was asked for**, for an actor
who may manage the feedback of the session. -/
theorem itemKey_idempotent_iff {draft accepted : FeedbackItemDraft}
    (haccepted : Evidence.itemDraft draft = some accepted)
    (hkey : Evidence.validOperationKey operationKey = true)
    (hkeys : ((feedbackViews.view n db).items.map (·.creationOperationKey)).Nodup) {id : Uuid} :
    ItemKeyIdempotent db actorId workspaceId workId n operationKey draft id ↔
      MayManageFeedback db actorId workspaceId workId n ∧
        ∃ item, item.id = id ∧ IsItemRecord db n operationKey accepted item := by
  constructor
  · intro h
    obtain ⟨item, hunder, hid⟩ := Option.map_eq_some_iff.1 h.record
    obtain ⟨hmay, accepted', haccepted', -, hagrees⟩ :=
      (createFeedbackItem_known_iff hunder).1 (h.same (fun _ => 0) 0 draft rfl)
    obtain rfl := Option.some.inj (haccepted.symm.trans haccepted')
    exact ⟨hmay, item, hid, (itemAgrees_iff hunder).1 hagrees⟩
  · rintro ⟨hmay, item, rfl, hrecord⟩
    have hunder : itemUnder n operationKey db = some item := by
      refine Table.find?_eq_some_of_unique hrecord.mem (by simp [hrecord.session, hrecord.key])
        fun i hi hof => ?_
      simp only [Bool.and_eq_true, beq_iff_eq] at hof
      exact List.inj_on_of_nodup_map hkeys (Table.mem_rowsWith.2 ⟨hi, hof.1⟩)
        (Table.mem_rowsWith.2 ⟨hrecord.mem, hrecord.session⟩) (hof.2.trans hrecord.key.symm)
    refine ⟨fun uuids now again hagain => ?_, ?_, fun uuids now other hvalid hdiffers => ?_⟩
    · exact (createFeedbackItem_known_iff hunder).2
        ⟨hmay, accepted, hagain.trans haccepted, hkey, (itemAgrees_iff hunder).2 hrecord⟩
    · rw [hunder]
      rfl
    · obtain ⟨accepted', haccepted'⟩ := Option.isSome_iff_exists.1 hvalid
      refine createFeedbackItem_conflict hmay hunder hkey haccepted' ?_ uuids
      rw [← Bool.not_eq_true, itemAgrees_iff hunder]
      intro hrecord'
      refine hdiffers ?_
      rw [haccepted', haccepted, Option.some.injEq]
      obtain ⟨kind, question, options⟩ := accepted
      obtain ⟨kind', question', options'⟩ := accepted'
      have hkind : kind' = kind := hrecord'.kind.symm.trans hrecord.kind
      have hquestion : question' = question := hrecord'.question.symm.trans hrecord.question
      have hoptions : options' = options := hrecord'.options.symm.trans hrecord.options
      rw [hkind, hquestion, hoptions]

/-! ## Submissions -/

/-- The answers as `_validated_answers` returns them. -/
def acceptedAnswers (n : Uuid) (db : Database) (drafts : List FeedbackAnswerDraft) :
    Option (List FeedbackAnswerDraft) :=
  let itemIds := drafts.map (·.itemId)
  let items := db.feedbackItems.filter fun i => i.sessionId == n && itemIds.contains i.id
  let optionIds := drafts.filterMap (·.optionId)
  let options := db.feedbackOptions.filter fun o => o.sessionId == n && optionIds.contains o.id
  if (!drafts.isEmpty && itemIds.Nodup) && items.length == itemIds.length then
    drafts.mapM (Evidence.validatedAnswer n items options)
  else none

theorem validatedAnswers_returns_iff {α : Type} {drafts : List FeedbackAnswerDraft}
    {Q : α → Database → Database → Prop} {f : List FeedbackAnswerDraft → Program α} :
    ((Evidence.validatedAnswers n drafts).bind f).Returns Q db db ↔
      ∃ answers, acceptedAnswers n db drafts = some answers ∧ (f answers).Returns Q db db := by
  rw [Tx.returns_bind, Evidence.validatedAnswers]
  simp only [Tx.bind_eq]
  rw [Tx.returns_bind, Tx.returns_ensure, Tx.returns_bind, Tx.returns_read, Tx.returns_bind,
    Tx.returns_ensure, Tx.returns_bind, Tx.returns_read, Tx.returns_require, acceptedAnswers]
  constructor
  · rintro ⟨hdifferent, hthere, answers, hanswers, h⟩
    exact ⟨answers, by rw [if_pos (Bool.and_eq_true_iff.2 ⟨hdifferent, hthere⟩), hanswers], h⟩
  · rintro ⟨answers, hanswers, h⟩
    split at hanswers
    · rename_i hvalid
      obtain ⟨hdifferent, hthere⟩ := Bool.and_eq_true_iff.1 hvalid
      exact ⟨hdifferent, hthere, answers, hanswers, h⟩
    · cases hanswers

/-- A request of `create_feedback_submission` after normalisation. -/
def organizerPayload (n : Uuid) (db : Database) (draft : FeedbackSubmissionDraft) :
    Option FeedbackSubmissionDraft := do
  let draft ← Evidence.organizerDraft draft
  let answers ← acceptedAnswers n db draft.answers
  return { draft with answers := answers }

/-- A request of `save_participant_feedback` after normalisation. -/
def directPayload (n : Uuid) (db : Database) (draft : FeedbackSubmissionDraft) :
    Option FeedbackSubmissionDraft := do
  if draft.source == .direct && draft.temporaryAlias.isNone then
    let answers ← acceptedAnswers n db draft.answers
    return { draft with answers := answers }
  else none

/-- The submission of a session under a key. -/
def submissionUnder (n : Uuid) (operationKey : String) (db : Database) :
    Option PlaytestFeedbackSubmission :=
  db.feedbackSubmissions.find? fun s => s.sessionId == n && s.creationOperationKey == operationKey

/-- The submission of a session that a participant has written. -/
def submissionBy (n actorId : Uuid) (db : Database) : Option PlaytestFeedbackSubmission :=
  db.feedbackSubmissions.find? fun s => s.sessionId == n && s.directAuthorAccountId == some actorId

/-- The promise of `create_feedback_submission`. -/
abbrev OrganizerKeyIdempotent (db : Database) (actorId workspaceId workId n : Uuid)
    (operationKey : String) (draft : FeedbackSubmissionDraft) (id : Uuid) : Prop :=
  KeyIdempotent (organizerPayload n db)
    (fun uuids now draft =>
      createFeedbackSubmission uuids now actorId workspaceId workId n operationKey draft)
    (fun db => (submissionUnder n operationKey db).map (·.id)) db draft id

/-- The promise of the first `save_participant_feedback`, which expects no revision. -/
abbrev DirectKeyIdempotent (db : Database) (actorId n : Uuid) (operationKey : String)
    (draft : FeedbackSubmissionDraft) (id : Uuid) : Prop :=
  KeyIdempotent (directPayload n db)
    (fun uuids now draft =>
      saveParticipantFeedback uuids now actorId n (some operationKey) none draft)
    (fun db => (submissionBy n actorId db).map (·.id)) db draft id

theorem organizerPayload_isSome {draft : FeedbackSubmissionDraft} :
    (organizerPayload n db draft).isSome ↔ ∃ e, Evidence.organizerDraft draft = some e ∧
      ∃ answers, acceptedAnswers n db e.answers = some answers := by
  rw [organizerPayload, Option.isSome_iff_exists]
  simp only [Option.bind_eq_bind, Option.bind_eq_some_iff]
  constructor
  · rintro ⟨payload, e, he, answers, hanswers, -⟩
    exact ⟨e, he, answers, hanswers⟩
  · rintro ⟨e, he, answers, hanswers⟩
    exact ⟨_, e, he, answers, hanswers, rfl⟩

/-- Whom a request under a known key is answered: whoever has created the submission. -/
theorem createFeedbackSubmission_known_iff {submission : PlaytestFeedbackSubmission}
    (hunder : submissionUnder n operationKey db = some submission) {uuids : Uuids}
    {now : Timestamp} {draft : FeedbackSubmissionDraft} :
    (createFeedbackSubmission uuids now actorId workspaceId workId n operationKey draft).exec db =
        (db, .ok ()) ↔
      MayManageFeedback db actorId workspaceId workId n ∧ (organizerPayload n db draft).isSome ∧
        Evidence.validOperationKey operationKey = true ∧
          submission.recordedByAccountId = actorId := by
  rw [Tx.exec_eq_iff, createFeedbackSubmission, Tx.returns_mapError]
  simp only [Tx.bind_eq]
  rw [Tx.returns_bind]
  refine (feedbackManagedSession_reads actorId workspaceId workId n).returns_iff_and
    fun session hid => ?_
  subst hid
  have hof := List.find?_some hunder
  have hexists : (db.feedbackSubmissions.any fun s => s.sessionId == session.id &&
      s.creationOperationKey == operationKey) = true :=
    List.any_eq_true.2 ⟨submission, List.mem_of_find?_eq_some hunder, hof⟩
  rw [Tx.returns_bind, Tx.returns_read, hexists, Evidence.createOrganizerSubmission,
    organizerPayload_isSome]
  simp only [Tx.bind_eq, Tx.bind_assoc]
  rw [Tx.returns_bind, Tx.returns_require]
  rw [submissionUnder] at hunder
  constructor
  · rintro ⟨e, he, h⟩
    obtain ⟨answers, hanswers, h⟩ := validatedAnswers_returns_iff.1 h
    rw [Tx.returns_bind, Tx.returns_ensure, Tx.returns_bind, Tx.returns_selectForUpdate,
      hunder] at h
    obtain ⟨hkey, h⟩ := h
    simp only [Tx.bind_assoc] at h
    rw [Tx.returns_bind, Tx.returns_ensure, beq_iff_eq] at h
    exact ⟨⟨e, he, answers, hanswers⟩, hkey, h.1⟩
  · rintro ⟨⟨e, he, answers, hanswers⟩, hkey, hrecorder⟩
    refine ⟨e, he, validatedAnswers_returns_iff.2 ⟨answers, hanswers, ?_⟩⟩
    rw [Tx.returns_bind, Tx.returns_ensure, Tx.returns_bind, Tx.returns_selectForUpdate, hunder]
    refine ⟨hkey, ?_⟩
    simp only [Tx.bind_assoc]
    rw [Tx.returns_bind, Tx.returns_ensure, beq_iff_eq]
    exact ⟨hrecorder, trivial, rfl⟩

/-- Another alias than this one. -/
def otherAlias (known : Option String) : String :=
  if known = some "a" then "b" else "a"

theorem otherAlias_ne (known : Option String) : known ≠ some (otherAlias known) := by
  rw [otherAlias]
  split
  · rename_i hknown
    rw [hknown]
    decide
  · assumption

theorem optionalText_otherAlias (known : Option String) :
    optionalText 160 (some (otherAlias known)) = some (some (otherAlias known)) := by
  rw [otherAlias]
  split <;> decide +kernel

/-- A draft that an organiser may send, as `_organizer_draft` returns it. -/
theorem organizerDraft_spec {draft e : FeedbackSubmissionDraft}
    (h : Evidence.organizerDraft draft = some e) :
    draft.status = .submitted ∧ e.answers = draft.answers ∧ e.status = draft.status := by
  rw [Evidence.organizerDraft, Option.bind_eq_bind, Option.bind_eq_some_iff] at h
  obtain ⟨temporaryAlias, -, h⟩ := h
  split at h
  · cases h
  · rename_i hsource
    split at h
    · cases h
    · cases h
      exact ⟨not_not.1 (not_or.1 hsource).2, rfl, rfl⟩

/-- **The key of an organiser's submission is never idempotent**: its creator gets the submission
for a request under another alias too. -/
theorem organizerKey_not_idempotent {draft : FeedbackSubmissionDraft} {id : Uuid} :
    ¬OrganizerKeyIdempotent db actorId workspaceId workId n operationKey draft id := by
  intro h
  obtain ⟨submission, hunder, -⟩ := Option.map_eq_some_iff.1 h.record
  obtain ⟨hmay, hpayload, hkey, hrecorder⟩ :=
    (createFeedbackSubmission_known_iff hunder).1 (h.same (fun _ => 0) 0 draft rfl)
  obtain ⟨e, he, answers, hanswers⟩ := organizerPayload_isSome.1 hpayload
  obtain ⟨hstatus, hsame, -⟩ := organizerDraft_spec he
  rw [hsame] at hanswers
  let other : FeedbackSubmissionDraft := { draft with
    source := .temporaryAlias
    temporaryAlias := some (otherAlias e.temporaryAlias) }
  have hother : Evidence.organizerDraft other = some other := by
    rw [Evidence.organizerDraft, optionalText_otherAlias]
    simp [other, hstatus]
  have hvalid : organizerPayload n db other = some { other with answers := answers } := by
    rw [organizerPayload, hother]
    show (acceptedAnswers n db draft.answers).bind _ = _
    rw [hanswers]
    rfl
  have hpayload : organizerPayload n db draft = some { e with answers := answers } := by
    rw [organizerPayload, he]
    show (acceptedAnswers n db e.answers).bind _ = _
    rw [hsame, hanswers]
    rfl
  have hconflict := h.different (fun _ => 0) 0 other (by rw [hvalid]; rfl) fun heq => by
    rw [hvalid, hpayload, Option.some.injEq] at heq
    have halias := congrArg FeedbackSubmissionDraft.temporaryAlias heq
    exact otherAlias_ne e.temporaryAlias halias.symm
  have hok := (@createFeedbackSubmission_known_iff db actorId workspaceId workId n operationKey
    submission hunder (fun _ => 0) 0 other).2 ⟨hmay, by rw [hvalid]; rfl, hkey, hrecorder⟩
  rw [hok] at hconflict
  cases hconflict

/-! ### Feedback of participants -/

theorem participantSession_reads (actorId n : Uuid) :
    (participantSession actorId n).Within Eq fun found => found.2.id = n := by
  have hid : ∀ (db : Database) (item : PlaytestSession), (db.sessions.find? fun s => s.id == n &&
      exitAllowsWrite none s.workspaceId db) = some item → item.id = n := by
    intro db item hfind
    have hrow := List.find?_some hfind
    simp only [Bool.and_eq_true, beq_iff_eq] at hrow
    exact hrow.1
  have hselect : (Tx.selectForUpdate (fun s : PlaytestSession => RowKey.session s.id)
      (fun db : Database => db.sessions.find? fun s => s.id == n &&
        exitAllowsWrite none s.workspaceId db) : Program (Option PlaytestSession)).Within Eq
      fun found => ∀ item, found = some item → item.id = n :=
    Tx.Within.selectForUpdate (fun _ => rfl) _ _ (fun item h => by cases h) hid
  rw [participantSession]
  refine Tx.Within.read_bind (fun _ => rfl) fun db => ?_
  refine (Tx.Within.require' _ _).andThen fun participant => ?_
  refine Tx.Within.bind hselect fun found hfound => ?_
  refine Tx.Within.bind (Tx.Within.require found _) fun item hitem => Tx.Within.pure ?_
  exact hfound item hitem

theorem directPayload_isSome {draft : FeedbackSubmissionDraft} :
    (directPayload n db draft).isSome ↔
      (draft.source == .direct && draft.temporaryAlias.isNone) = true ∧
        ∃ answers, acceptedAnswers n db draft.answers = some answers := by
  rw [directPayload]
  split
  · rename_i hdirect
    simp only [hdirect, true_and]
    cases acceptedAnswers n db draft.answers <;> simp
  · rename_i hdirect
    simp [hdirect]

/-- A request of `save_participant_feedback` that its author has been answered was in good form, and
so is any other in good form. -/
theorem saveParticipantFeedback_known {submission : PlaytestFeedbackSubmission}
    (hby : submissionBy n actorId db = some submission) {uuids uuids' : Uuids}
    {now now' : Timestamp} {draft : FeedbackSubmissionDraft}
    (h : (saveParticipantFeedback uuids now actorId n (some operationKey) none draft).exec db =
      (db, .ok ())) :
    (directPayload n db draft).isSome ∧ ∀ other, (directPayload n db other).isSome →
      (saveParticipantFeedback uuids' now' actorId n (some operationKey) none other).exec db =
        (db, .ok ()) := by
  have hof := List.find?_some hby
  have hmem := List.mem_of_find?_eq_some hby
  rw [Tx.exec_eq_iff, saveParticipantFeedback, Tx.returns_mapError] at h
  simp only [Tx.bind_eq] at h
  replace h := (participantSession_reads actorId n).returns_bind.1 h
  obtain ⟨⟨participant, item⟩, hid, hsession, h⟩ := h
  dsimp only at hid h
  subst hid
  have hwritable : (Workspaces.ensureAuthorizedWritable item.workspaceId).Within Eq
      fun _ => True := Workspaces.ensureAuthorizedWritable_within (fun _ => rfl) _
  obtain ⟨⟨⟩, -, hwrites, h⟩ := hwritable.returns_bind.1 h
  rw [Tx.returns_bind, Tx.returns_ensure, Tx.returns_bind, Tx.returns_read,
    Evidence.saveDirectSubmission] at h
  obtain ⟨hstarted, h⟩ := h
  simp only [Tx.bind_eq, Tx.bind_assoc] at h
  rw [Tx.returns_bind, Tx.returns_ensure] at h
  obtain ⟨hdirect, h⟩ := h
  obtain ⟨answers, hanswers, h⟩ := validatedAnswers_returns_iff.1 h
  rw [submissionBy] at hby
  rw [Tx.returns_bind, Tx.returns_selectForUpdate, hby] at h
  simp only [Tx.bind_assoc] at h
  rw [Tx.returns_bind, Tx.returns_ensure] at h
  obtain ⟨hkey, -⟩ := h
  refine ⟨directPayload_isSome.2 ⟨hdirect, answers, hanswers⟩, fun other hother => ?_⟩
  obtain ⟨hdirect', answers', hanswers'⟩ := directPayload_isSome.1 hother
  rw [Tx.exec_eq_iff, saveParticipantFeedback, Tx.returns_mapError]
  simp only [Tx.bind_eq]
  refine (participantSession_reads actorId item.id).returns_bind.2 ⟨_, rfl, hsession, ?_⟩
  refine hwritable.returns_bind.2 ⟨(), trivial, hwrites, ?_⟩
  rw [Tx.returns_bind, Tx.returns_ensure, Tx.returns_bind, Tx.returns_read,
    Evidence.saveDirectSubmission]
  refine ⟨hstarted, ?_⟩
  simp only [Tx.bind_eq, Tx.bind_assoc]
  rw [Tx.returns_bind, Tx.returns_ensure]
  refine ⟨hdirect', validatedAnswers_returns_iff.2 ⟨answers', hanswers', ?_⟩⟩
  rw [Tx.returns_bind, Tx.returns_selectForUpdate, hby]
  simp only [Tx.bind_assoc]
  rw [Tx.returns_bind, Tx.returns_ensure]
  refine ⟨hkey, ?_⟩
  -- A submitted submission is not announced again.
  rw [Tx.pure_eq, Tx.pure_bind, if_neg]
  · exact ⟨trivial, rfl⟩
  · rintro ⟨hsubmitted, hnew⟩
    have hwas : (db.feedbackSubmissions.any fun s => s.sessionId == item.id &&
        s.directAuthorAccountId == some actorId && s.status == .submitted) = true := by
      refine List.any_eq_true.2 ⟨submission, hmem, ?_⟩
      rw [hof, Bool.true_and, beq_iff_eq]
      exact hsubmitted
    rw [hwas] at hnew
    cases hnew

/-- The other status. -/
def otherStatus : SubmissionStatus → SubmissionStatus
  | .draft => .submitted
  | .submitted => .draft

/-- **The key of a participant's feedback is never idempotent**: its author gets the feedback for a
request with the other status too. -/
theorem directKey_not_idempotent {draft : FeedbackSubmissionDraft} {id : Uuid} :
    ¬DirectKeyIdempotent db actorId n operationKey draft id := by
  intro h
  obtain ⟨submission, hby, -⟩ := Option.map_eq_some_iff.1 h.record
  have hok := h.same (fun _ => 0) 0 draft rfl
  obtain ⟨hvalid, hothers⟩ := @saveParticipantFeedback_known db actorId n operationKey submission
    hby _ (fun _ => 0) _ 0 draft hok
  obtain ⟨hdirect, answers, hanswers⟩ := directPayload_isSome.1 hvalid
  let other : FeedbackSubmissionDraft := { draft with status := otherStatus draft.status }
  have hpayload : ∀ status, directPayload n db { draft with status := status } =
      some { draft with status := status, answers := answers } := by
    intro status
    rw [directPayload]
    show (if (draft.source == .direct && draft.temporaryAlias.isNone) = true then
      (acceptedAnswers n db draft.answers).bind _ else none) = _
    rw [if_pos hdirect, hanswers]
    rfl
  have hconflict := h.different (fun _ => 0) 0 other (by rw [hpayload]; rfl) fun heq => by
    rw [hpayload, show directPayload n db draft = _ from hpayload draft.status,
      Option.some.injEq] at heq
    have hstatus := congrArg FeedbackSubmissionDraft.status heq
    revert hstatus
    cases draft.status <;> simp [otherStatus]
  rw [hothers other (by rw [hpayload]; rfl)] at hconflict
  cases hconflict

/-! ## Every run -/

variable {settings : Settings} {normalizeEmail : String → Option String}
  {c : Config Database RowKey ServiceError Unit Call}

/-- The items of a session have different keys in every reachable state. -/
theorem creationKeys_of_reachable (h : (system settings normalizeEmail).Reachable c) (n : Uuid) :
    ((feedbackViews.view n c.db).items.map (·.creationOperationKey)).Nodup := by
  obtain ⟨_, rfl, hlinked⟩ := (ReadCommitted.wellFormed_of_reachable h).linked
  exact hlinked.kept (P := fun db =>
    ((feedbackViews.view n db).items.map (·.creationOperationKey)).Nodup)
    (fun e he => ((feedbackCommitted h he).2.1 n).creationKeys) .nil

/-- **When keys of feedback are idempotent.** Of what was accepted under a key at any time of any
run, the promise about an item is kept exactly while the item is what was asked for and the actor
may manage the feedback; the promises about submissions are never kept. -/
theorem feedback_keys_idempotent (h : (system settings normalizeEmail).Reachable c)
    {e : ReadCommitted.Commit Database Call} (he : e ∈ c.history) :
    (∀ uuids creatorId workspaceId workId n operationKey draft,
      e.op = .createFeedbackItem uuids creatorId workspaceId workId n operationKey draft →
      ∃ accepted, Evidence.itemDraft draft = some accepted ∧
        ∃ created, itemUnder n operationKey e.after = some created ∧
          ∀ actorId, ItemKeyIdempotent c.db actorId workspaceId workId n operationKey draft
              created.id ↔
            MayManageFeedback c.db actorId workspaceId workId n ∧
              ∃ item, item.id = created.id ∧ IsItemRecord c.db n operationKey accepted item) ∧
    (∀ uuids now actorId workspaceId workId n operationKey draft,
      e.op = .createFeedbackSubmission uuids now actorId workspaceId workId n operationKey draft →
      ∀ id, ¬OrganizerKeyIdempotent c.db actorId workspaceId workId n operationKey draft id) ∧
    ∀ uuids now actorId n operationKey draft,
      e.op = .saveParticipantFeedback uuids now actorId n (some operationKey) none draft →
      ∀ id, ¬DirectKeyIdempotent c.db actorId n operationKey draft id := by
  refine ⟨fun uuids creatorId workspaceId workId n operationKey draft hop => ?_,
    fun _ _ _ _ _ _ _ _ _ _ => organizerKey_not_idempotent,
    fun _ _ _ _ _ _ _ _ => directKey_not_idempotent⟩
  have heffect := (feedbackCommitted h he).2.2
  rw [hop] at heffect
  obtain ⟨hsome, hkey, item, hitem, hof⟩ := heffect
  obtain ⟨accepted, haccepted⟩ := Option.isSome_iff_exists.1 hsome
  obtain ⟨hmem, hn⟩ := Table.mem_rowsWith.1 hitem
  obtain ⟨created, hcreated⟩ := Option.isSome_iff_exists.1
    (List.find?_isSome (p := fun i : PlaytestFeedbackItem => i.sessionId == n &&
      i.creationOperationKey == operationKey).2 ⟨item, hmem, by simp [hn, hof]⟩)
  exact ⟨accepted, haccepted, created, hcreated, fun actorId =>
    itemKey_idempotent_iff haccepted hkey (creationKeys_of_reachable h n)⟩

/-! ### Feedback that is sent again -/

/-- The call creates an item of the session under the key, with this draft. -/
def Call.asksForItem (workspaceId workId n : Uuid) (operationKey : String)
    (draft : FeedbackItemDraft) : Call → Bool
  | .createFeedbackItem _ _ workspaceId' workId' n' operationKey' draft' =>
    workspaceId' == workspaceId && workId' == workId && n' == n && operationKey' == operationKey &&
      draft' == draft
  | _ => false

theorem Call.asksForItem_iff {operationKey : String} {draft : FeedbackItemDraft} {call : Call}
    (h : call.asksForItem workspaceId workId n operationKey draft = true) :
    ∃ uuids creatorId, call =
      .createFeedbackItem uuids creatorId workspaceId workId n operationKey draft := by
  cases call with
  | createFeedbackItem uuids creatorId =>
    simp only [asksForItem, Bool.and_eq_true, beq_iff_eq] at h
    obtain ⟨⟨⟨⟨rfl, rfl⟩, rfl⟩, rfl⟩, rfl⟩ := h
    exact ⟨uuids, creatorId, rfl⟩
  | _ => cases h

theorem feedbackSubmitted_runs :
    ((system .withoutCipher some).run (.start .empty) feedbackSubmitted).any fun c =>
      c.db.feedbackSubmissions.map (fun s => (s.creationOperationKey, s.status)) =
        [("key", .submitted)] ∧
      (saveParticipantFeedback (keysFrom 9000) 9 2 sessionOfOneSeat (some "key") none
        (answered .draft)).exec c.db = (c.db, .ok ()) ∧
      (c.history.any fun e =>
        e.op.asksForItem 10 20 sessionOfOneSeat "item" ⟨.shortText, "how?", []⟩ &&
          (itemUnder sessionOfOneSeat "item" e.after).map (·.id) == some 210001) ∧
      ((feedbackManagedSession 1 10 20 sessionOfOneSeat).exec c.db).2.isOk ∧
      Evidence.itemDraft ⟨.shortText, "how?", []⟩ = some ⟨.shortText, "how?", []⟩ ∧
      c.db.feedbackItems = [⟨210001, sessionOfOneSeat, .shortText, "how?", 1, true, "item"⟩] ∧
      c.db.feedbackOptions = [] := by
  decide +kernel

/-- A participant has submitted feedback. A request for a draft under its key is answered with the
submitted feedback. -/
theorem other_request_answered :
    ∃ c, (system .withoutCipher some).Reachable c ∧
      c.db.feedbackSubmissions.map (fun s => (s.creationOperationKey, s.status)) =
        [("key", .submitted)] ∧
      (saveParticipantFeedback (keysFrom 9000) 9 2 sessionOfOneSeat (some "key") none
        (answered .draft)).exec c.db = (c.db, .ok ()) := by
  obtain ⟨c, hc, hfacts⟩ := (Option.any_eq_true _ _).1 feedbackSubmitted_runs
  simp only [decide_eq_true_eq] at hfacts
  exact ⟨c, ⟨.start .empty, feedbackSubmitted, init_start _ rfl, hc⟩, hfacts.1, hfacts.2.1⟩

/-- The item of this run was not edited, and its key is idempotent. -/
theorem feedback_keys_idempotent_submitted :
    ∃ c, (system .withoutCipher some).Reachable c ∧ ∃ created,
      ItemKeyIdempotent c.db 1 10 20 sessionOfOneSeat "item" ⟨.shortText, "how?", []⟩ created := by
  obtain ⟨c, hc, hfacts⟩ := (Option.any_eq_true _ _).1 feedbackSubmitted_runs
  simp only [decide_eq_true_eq] at hfacts
  obtain ⟨-, -, hhistory, hmanages, hdraft, hitems, hoptions⟩ := hfacts
  have hreach : (system .withoutCipher some).Reachable c :=
    ⟨.start .empty, feedbackSubmitted, init_start _ rfl, hc⟩
  obtain ⟨e, he, hof⟩ := List.any_eq_true.1 hhistory
  rw [Bool.and_eq_true, beq_iff_eq] at hof
  obtain ⟨hasks, hunder⟩ := hof
  obtain ⟨uuids, creatorId, hop⟩ := Call.asksForItem_iff hasks
  obtain ⟨accepted, haccepted, created, hcreated, hiff⟩ :=
    (feedback_keys_idempotent hreach he).1 _ _ _ _ _ _ _ hop
  obtain rfl := Option.some.inj (hdraft.symm.trans haccepted)
  refine ⟨c, hreach, created.id, (hiff 1).2 ⟨?_, ?_⟩⟩
  · cases hsession : ((feedbackManagedSession 1 10 20 sessionOfOneSeat).exec c.db).2 with
    | error e =>
      rw [hsession] at hmanages
      cases hmanages
    | ok item => exact (Tx.exec_eq_ok_iff.1 hsession).mono fun _ _ _ _ => trivial
  · rw [hcreated] at hunder
    let item : PlaytestFeedbackItem :=
      ⟨210001, sessionOfOneSeat, .shortText, "how?", 1, true, "item"⟩
    have hitem : item ∈ c.db.feedbackItems := hitems ▸ List.mem_singleton_self item
    refine ⟨item, (Option.some.inj hunder).symm, hitem, rfl, rfl, rfl, rfl, ?_⟩
    rw [hoptions]
    rfl

end Playtests

end Rulefolio
