import Rulefolio.Exports.Reading
import Rulefolio.Playtests.PlannedVersion

/-!
# A saved result is read back

Saving a result rewrites what is given: texts are stripped, an empty text is absent, and the reason
for a changed version is dropped where nothing was changed. It then deletes and inserts the rows of
two tables, and a reading joins them with the files. What is read is the rewritten draft, and it is a
draft that is accepted again, in whatever order its files and participants are listed; saving it
changes nothing but the revision.

## Main definitions

* `normalised` — a draft as it is kept.
* `redraft` — the draft rebuilt from what is read.
* `SameResult` — the same draft, its files and its participants in any order.

## Main results

* `saved_result_round_trip`.
-/

namespace Rulefolio

namespace Playtests

variable {s w db : Database} {item : PlaytestSession}

/-! ## Texts -/

/-- A text as it is kept: stripped, and absent if nothing is left. -/
def keptText (value : Option String) : Option String :=
  value.bind fun v => if (strip v).isEmpty then none else some (strip v)

theorem keptText_blank {v : String} (h : (strip v).isEmpty = true) : keptText (some v) = none :=
  if_pos h

theorem keptText_text {v : String} (h : ¬(strip v).isEmpty = true) :
    keptText (some v) = some (strip v) :=
  if_neg h

/-- What is kept of what is kept. -/
theorem keptText_keptText (value : Option String) : keptText (keptText value) = keptText value := by
  cases value with
  | none => rfl
  | some v =>
    by_cases hempty : (strip v).isEmpty = true
    · rw [keptText_blank hempty]
      rfl
    · rw [keptText_text hempty, keptText_text (by rwa [strip_strip]), strip_strip]

theorem optionalText_keptText {limit : ℕ} {value text : Option String}
    (h : optionalText limit value = some text) :
    text = keptText value ∧ optionalText limit (keptText value) = some (keptText value) := by
  refine ⟨optionalText_eq h, ?_⟩
  cases value with
  | none => exact optionalText_none limit
  | some v =>
    obtain ⟨hlength, -⟩ := optionalText_some_eq_some.1 h
    by_cases hempty : (strip v).isEmpty = true
    · rw [keptText_blank hempty]
      exact optionalText_none limit
    · rw [keptText_text hempty, optionalText_some_eq_some, strip_strip]
      exact ⟨hlength, (if_neg hempty).symm⟩

theorem requiredText_strip {limit : ℕ} {value text : String}
    (h : requiredText limit value = some text) :
    text = strip value ∧ requiredText limit (strip value) = some (strip value) := by
  obtain ⟨htext, hempty, hlength⟩ := requiredText_eq_some.1 h
  exact ⟨htext, requiredText_eq_some.2 (by rw [strip_strip]; exact ⟨rfl, hempty, hlength⟩)⟩

/-! ## Participants -/

/-- A participant as it is kept. -/
def keptParticipant (p : ActualParticipantDraft) : ActualParticipantDraft :=
  ⟨p.plannedAccountId, keptText p.temporaryCode, keptText p.seatOrFaction,
    keptText p.scoreOrOutcome⟩

/-- The texts of a participant are not too long, and it is either an account that was planned for or a
temporary code. -/
def FitParticipant (planned : List Uuid) (p : ActualParticipantDraft) : Prop :=
  optionalText 160 p.temporaryCode = some (keptText p.temporaryCode) ∧
    optionalText 160 p.seatOrFaction = some (keptText p.seatOrFaction) ∧
    optionalText 160 p.scoreOrOutcome = some (keptText p.scoreOrOutcome) ∧
    ((∃ accountId ∈ planned, p.plannedAccountId = some accountId ∧ keptText p.temporaryCode = none) ∨
      ∃ code, p.plannedAccountId = none ∧ keptText p.temporaryCode = some code)

/-- The accounts among the participants. -/
def accountsOf (participants : List ActualParticipantDraft) : List Uuid :=
  participants.filterMap (·.plannedAccountId)

/-- The temporary codes, as they are kept. -/
def codesOf (participants : List ActualParticipantDraft) : List String :=
  participants.filterMap fun p => keptText p.temporaryCode

/-- Nobody is named twice, nor anybody who was named before. -/
def NamedOnce (accounts : List Uuid) (codes : List String)
    (participants : List ActualParticipantDraft) : Prop :=
  (accountsOf participants).Nodup ∧ (∀ a ∈ accountsOf participants, a ∉ accounts) ∧
    (codesOf participants).Nodup ∧ ∀ code ∈ codesOf participants, code ∉ codes

theorem namedOnce_account {accounts : List Uuid} {codes : List String}
    {p : ActualParticipantDraft} {participants : List ActualParticipantDraft} {accountId : Uuid}
    (haccount : p.plannedAccountId = some accountId) (hcode : keptText p.temporaryCode = none) :
    NamedOnce accounts codes (p :: participants) ↔
      accountId ∉ accounts ∧ NamedOnce (accountId :: accounts) codes participants := by
  have haccounts : accountsOf (p :: participants) = accountId :: accountsOf participants := by
    simp [accountsOf, haccount]
  have hcodes : codesOf (p :: participants) = codesOf participants := by
    simp [codesOf, hcode]
  rw [NamedOnce, haccounts, hcodes, List.nodup_cons, List.forall_mem_cons, NamedOnce]
  simp only [List.mem_cons, not_or]
  constructor
  · rintro ⟨⟨hfresh, hnodup⟩, ⟨hnot, hrest⟩, hcodes⟩
    refine ⟨hnot, hnodup, fun a ha => ⟨?_, hrest a ha⟩, hcodes⟩
    rintro rfl
    exact hfresh ha
  · rintro ⟨hnot, hnodup, hrest, hcodes⟩
    exact ⟨⟨fun hmem => (hrest accountId hmem).1 rfl, hnodup⟩, ⟨hnot, fun a ha => (hrest a ha).2⟩,
      hcodes⟩

theorem namedOnce_code {accounts : List Uuid} {codes : List String}
    {p : ActualParticipantDraft} {participants : List ActualParticipantDraft} {code : String}
    (haccount : p.plannedAccountId = none) (hcode : keptText p.temporaryCode = some code) :
    NamedOnce accounts codes (p :: participants) ↔
      code ∉ codes ∧ NamedOnce accounts (code :: codes) participants := by
  have haccounts : accountsOf (p :: participants) = accountsOf participants := by
    simp [accountsOf, haccount]
  have hcodes : codesOf (p :: participants) = code :: codesOf participants := by
    simp [codesOf, hcode]
  rw [NamedOnce, haccounts, hcodes, List.nodup_cons, List.forall_mem_cons, NamedOnce]
  simp only [List.mem_cons, not_or]
  constructor
  · rintro ⟨hnodup, haccounts, ⟨hfresh, hcodes⟩, hnot, hrest⟩
    refine ⟨hnot, hnodup, haccounts, hcodes, fun c hc => ⟨?_, hrest c hc⟩⟩
    rintro rfl
    exact hfresh hc
  · rintro ⟨hnot, hnodup, haccounts, hcodes, hrest⟩
    exact ⟨hnodup, haccounts, ⟨fun hmem => (hrest code hmem).1 rfl, hcodes⟩, hnot,
      fun c hc => (hrest c hc).2⟩

/-- When the participants are accepted: each is fit, and none is named twice. -/
theorem validatedParticipants_eq_some {planned accounts : List Uuid} {codes : List String}
    {rows participants : List ActualParticipantDraft} :
    validatedParticipants planned accounts codes participants = some rows ↔
      rows = participants.map keptParticipant ∧ (∀ p ∈ participants, FitParticipant planned p) ∧
        NamedOnce accounts codes participants := by
  induction participants generalizing accounts codes rows with
  | nil => simp [validatedParticipants, NamedOnce, accountsOf, codesOf, eq_comm]
  | cons p participants ih =>
    simp only [validatedParticipants, bind, Option.bind_eq_some_iff]
    constructor
    · rintro ⟨code, hcode, seat, hseat, score, hscore, hrest⟩
      obtain ⟨rfl, hcode'⟩ := optionalText_keptText hcode
      obtain ⟨rfl, hseat'⟩ := optionalText_keptText hseat
      obtain ⟨rfl, hscore'⟩ := optionalText_keptText hscore
      split at hrest
      · rename_i accountId haccount hnone
        split at hrest
        · rename_i hplanned
          simp only [Bool.and_eq_true, Bool.not_eq_true', List.contains_eq_mem,
            decide_eq_false_iff_not, decide_eq_true_eq] at hplanned
          obtain ⟨rest, hrest, hrows⟩ := Option.bind_eq_some_iff.1 hrest
          obtain ⟨rfl, hfit, honce⟩ := ih.1 hrest
          cases hrows
          refine ⟨rfl, List.forall_mem_cons.2 ⟨⟨hcode, hseat, hscore,
            .inl ⟨accountId, hplanned.1, haccount, hnone⟩⟩, hfit⟩, ?_⟩
          exact (namedOnce_account haccount hnone).2 ⟨hplanned.2, honce⟩
        · cases hrest
      · rename_i code haccount hsome
        split at hrest
        · rename_i hfresh
          simp only [Bool.not_eq_true', List.contains_eq_mem, decide_eq_false_iff_not] at hfresh
          obtain ⟨rest, hrest, hrows⟩ := Option.bind_eq_some_iff.1 hrest
          obtain ⟨rfl, hfit, honce⟩ := ih.1 hrest
          cases hrows
          refine ⟨rfl, List.forall_mem_cons.2 ⟨⟨hcode, hseat, hscore,
            .inr ⟨code, haccount, hsome⟩⟩, hfit⟩, ?_⟩
          exact (namedOnce_code haccount hsome).2 ⟨hfresh, honce⟩
        · cases hrest
      · cases hrest
    · rintro ⟨rfl, hfit, honce⟩
      obtain ⟨⟨hcode, hseat, hscore, hnamed⟩, hfit⟩ := List.forall_mem_cons.1 hfit
      refine ⟨_, hcode, _, hseat, _, hscore, ?_⟩
      rcases hnamed with ⟨accountId, hplanned, haccount, hnone⟩ | ⟨code, haccount, hsome⟩
      · obtain ⟨hfresh, honce⟩ := (namedOnce_account haccount hnone).1 honce
        rw [haccount, hnone]
        simp only [List.contains_eq_mem, hplanned, hfresh, decide_true, decide_false, Bool.not_false,
          Bool.and_self, if_true]
        rw [ih.2 ⟨rfl, hfit, honce⟩, Option.bind_some, List.map_cons, keptParticipant, haccount,
          hnone]
      · obtain ⟨hfresh, honce⟩ := (namedOnce_code haccount hsome).1 honce
        rw [haccount, hsome]
        simp only [List.contains_eq_mem, hfresh, decide_false, Bool.not_false, if_true]
        rw [ih.2 ⟨rfl, hfit, honce⟩, Option.bind_some, List.map_cons, keptParticipant, haccount,
          hsome]

theorem keptParticipant_keptParticipant (p : ActualParticipantDraft) :
    keptParticipant (keptParticipant p) = keptParticipant p := by
  simp only [keptParticipant, keptText_keptText]

theorem FitParticipant.kept {planned : List Uuid} {p : ActualParticipantDraft}
    (h : FitParticipant planned p) : FitParticipant planned (keptParticipant p) := by
  obtain ⟨hcode, hseat, hscore, hnamed⟩ := h
  simp only [FitParticipant, keptParticipant, keptText_keptText]
  exact ⟨(optionalText_keptText hcode).2, (optionalText_keptText hseat).2,
    (optionalText_keptText hscore).2, hnamed⟩

theorem accountsOf_kept (participants : List ActualParticipantDraft) :
    accountsOf (participants.map keptParticipant) = accountsOf participants := by
  rw [accountsOf, List.filterMap_map]
  rfl

theorem codesOf_kept (participants : List ActualParticipantDraft) :
    codesOf (participants.map keptParticipant) = codesOf participants := by
  rw [codesOf, List.filterMap_map, codesOf]
  congr 1
  funext p
  exact keptText_keptText p.temporaryCode

/-- The kept participants are accepted as they are, in any order. -/
theorem validatedParticipants_again {planned : List Uuid}
    {participants rows again : List ActualParticipantDraft}
    (h : validatedParticipants planned [] [] participants = some rows) (hperm : again.Perm rows) :
    validatedParticipants planned [] [] again = some again ∧ again.map keptParticipant = again := by
  obtain ⟨rfl, hfit, haccounts, -, hcodes, -⟩ := validatedParticipants_eq_some.1 h
  have hkept : again.map keptParticipant = again := by
    refine (List.map_congr_left fun p hp => ?_).trans (List.map_id again)
    obtain ⟨p₀, -, rfl⟩ := List.mem_map.1 (hperm.mem_iff.1 hp)
    exact keptParticipant_keptParticipant p₀
  refine ⟨validatedParticipants_eq_some.2 ⟨hkept.symm, fun p hp => ?_, ?_, ?_, ?_, ?_⟩, hkept⟩
  · obtain ⟨p₀, hp₀, rfl⟩ := List.mem_map.1 (hperm.mem_iff.1 hp)
    exact (hfit p₀ hp₀).kept
  · have hsame := (hperm.filterMap (·.plannedAccountId)).nodup_iff
    refine hsame.2 ?_
    show (accountsOf (participants.map keptParticipant)).Nodup
    rwa [accountsOf_kept]
  · exact fun _ _ => List.not_mem_nil
  · have hsame := (hperm.filterMap fun p => keptText p.temporaryCode).nodup_iff
    refine hsame.2 ?_
    show (codesOf (participants.map keptParticipant)).Nodup
    rwa [codesOf_kept]
  · exact fun _ _ => List.not_mem_nil

/-! ## What was played with -/

/-- The files of a draft, with the digests they have. -/
def versions (item : PlaytestSession) (fileIds : List Uuid) (db : Database) : List (Uuid × Bytes) :=
  (readyFiles item fileIds db).map fun f => (f.id, f.sha256)

/-- Whether the draft, as it is kept, differs from what was planned. -/
def changes (item : PlaytestSession) (db : Database) (m : ActualMaterialDraft) : Bool :=
  materialChanged item (strip m.ruleName) (keptText m.ruleDescription) (strip m.ruleContent)
    (plannedMaterials item db) (versions item m.materialFileIds db)

/-- What was played with, as it is kept. -/
def keptMaterial (item : PlaytestSession) (db : Database) (m : ActualMaterialDraft) :
    ActualMaterialDraft where
  ruleName := strip m.ruleName
  ruleDescription := keptText m.ruleDescription
  ruleContent := strip m.ruleContent
  materialFileIds := m.materialFileIds
  changeReason := if changes item db m then keptText m.changeReason else none

/-- What is asked of it. -/
structure FitMaterial (item : PlaytestSession) (db : Database) (m : ActualMaterialDraft) : Prop where
  ruleName : requiredText 160 m.ruleName = some (strip m.ruleName)
  ruleDescription : optionalText 4000 m.ruleDescription = some (keptText m.ruleDescription)
  ruleContent : requiredText 20000 m.ruleContent = some (strip m.ruleContent)
  nodup : m.materialFileIds.Nodup
  found : (readyFiles item m.materialFileIds db).length = m.materialFileIds.length
  planned : ∃ ms, List.Forall₂ (IsMaterial db) (plannedMaterials item db) ms
  changeReason : optionalText 4000 m.changeReason = some (keptText m.changeReason)
  reason : changes item db m = true → keptText m.changeReason ≠ none

/-- The material as `_validate_result_draft` returns it: the files are in the order of the database. -/
def codedMaterial (item : PlaytestSession) (db : Database) (m : ActualMaterialDraft) :
    ActualMaterialDraft :=
  { keptMaterial item db m with
    materialFileIds := (readyFiles item m.materialFileIds db).map (·.id) }

theorem validatedMaterial_iff {Q : ActualMaterialDraft → Database → Database → Prop}
    (m : ActualMaterialDraft) :
    (validatedMaterial item m).Returns Q s w ↔
      FitMaterial item w m ∧ Q (codedMaterial item w m) s w := by
  rw [returns_validatedMaterial]
  simp only [materials, Tx.bind_eq, Tx.returns_bind, Tx.returns_read, returns_readMaterials]
  constructor
  · rintro ⟨name, hname, description, hdescription, content, hcontent, hnodup, hfound, hplanned,
      reason, hreason, hchanged, hQ⟩
    obtain ⟨rfl, -⟩ := requiredText_strip hname
    obtain ⟨rfl, -⟩ := optionalText_keptText hdescription
    obtain ⟨rfl, -⟩ := requiredText_strip hcontent
    obtain ⟨rfl, -⟩ := optionalText_keptText hreason
    obtain ⟨ms, hms, -⟩ := hplanned
    exact ⟨⟨hname, hdescription, hcontent, hnodup, hfound, ⟨ms, hms⟩, hreason, hchanged⟩, hQ⟩
  · rintro ⟨h, hQ⟩
    obtain ⟨ms, hms⟩ := h.planned
    exact ⟨_, h.ruleName, _, h.ruleDescription, _, h.ruleContent, h.nodup, h.found,
      ⟨ms, hms, trivial⟩, _, h.changeReason, h.reason, hQ⟩

/-! ## The draft -/

/-- A draft as it is kept. -/
def normalised (item : PlaytestSession) (db : Database) (draft : ResultDraft) : ResultDraft where
  actualHeadcount := draft.actualHeadcount
  actualDurationMinutes := draft.actualDurationMinutes
  completionStatus := draft.completionStatus
  actualMaterial := draft.actualMaterial.map (keptMaterial item db)
  actualParticipants := draft.actualParticipants.map keptParticipant
  actualPlayMode := keptText draft.actualPlayMode

/-- The accounts that were planned for. -/
def plannedAccounts (item : PlaytestSession) (db : Database) : List Uuid :=
  (db.participants.filter (·.sessionId == item.id)).map (·.accountId)

/-- What is asked of a draft. -/
structure FitDraft (item : PlaytestSession) (db : Database) (draft : ResultDraft) : Prop where
  numbers : validNumbers draft [] = true
  playMode : optionalText 160 draft.actualPlayMode = some (keptText draft.actualPlayMode)
  participants : validatedParticipants (plannedAccounts item db) [] [] draft.actualParticipants =
    some (draft.actualParticipants.map keptParticipant)
  covered : validNumbers draft (draft.actualParticipants.map keptParticipant) = true
  material : ∀ m, draft.actualMaterial = some m → FitMaterial item db m

/-- The files that are found are the same by whichever of them they are looked for. -/
theorem readyFiles_ids (fileIds : List Uuid) :
    readyFiles item ((readyFiles item fileIds db).map (·.id)) db = readyFiles item fileIds db := by
  refine List.filter_congr fun f hf => ?_
  rw [Bool.eq_iff_iff]
  simp only [Bool.and_eq_true, List.contains_iff_mem, List.mem_map]
  constructor
  · rintro ⟨⟨f', hf', hid⟩, hready⟩
    exact ⟨hid ▸ (mem_readyFiles.1 hf').2.1, hready⟩
  · rintro ⟨hid, hready⟩
    exact ⟨⟨f, mem_readyFiles.2 ⟨hf, hid, hready⟩, rfl⟩, hready⟩

/-- The order of the files makes no difference to what is stored. -/
theorem resultStored_coded (draft : ResultDraft) :
    resultStored item { normalised item db draft with
      actualMaterial := draft.actualMaterial.map (codedMaterial item db) } db =
      resultStored item (normalised item db draft) db := by
  cases hm : draft.actualMaterial with
  | none =>
    rw [normalised, hm]
    rfl
  | some m =>
    simp only [resultStored, normalised, hm, Option.map_some, Option.elim_some, codedMaterial,
      keptMaterial, readyFiles_ids, recordResult, Option.isSome_some, Option.bind_some]

/-- What is kept of a draft that was checked. -/
theorem Checked.kept {draft : ResultDraft} {mode : Option String}
    {participants : List ActualParticipantDraft}
    (h : Checked item draft mode participants db) :
    mode = keptText draft.actualPlayMode ∧
      participants = draft.actualParticipants.map keptParticipant :=
  ⟨(optionalText_keptText h.2.1).1, (validatedParticipants_eq_some.1 h.2.2.1).1⟩

/-- When `save_result` is accepted, and what it stores. -/
theorem saveResult_iff {Q : ResultData → Database → Database → Prop}
    {actorId workspaceId workId sessionId : Uuid} {expectedRevision : ℤ} {draft : ResultDraft} :
    (saveResult actorId workspaceId workId sessionId expectedRevision draft).Returns Q s w ↔
      0 < expectedRevision ∧
      (requireManagement actorId workspaceId workId true).Returns (fun _ _ _ => True) s w ∧
      ∃ item, findSession workspaceId workId sessionId w = some item ∧
        exitAllowsWrite none workspaceId w = true ∧ (item.revision : ℤ) = expectedRevision ∧
        item.status = .started ∧ FitDraft item w draft ∧
        exitAllowsSessionWrite item.id w = true ∧
        (readResult actorId workspaceId workId sessionId).Returns Q
          (resultStored item (normalised item w draft) w)
          (resultStored item (normalised item w draft) w) := by
  rw [returns_saveResult]
  refine and_congr_right fun _ => and_congr_right fun _ => exists_congr fun item =>
    and_congr_right fun _ => and_congr_right fun _ => and_congr_right fun _ =>
      and_congr_right fun _ => ?_
  rw [← resultStored_coded]
  cases hm : draft.actualMaterial with
  | none =>
    simp only [validatedMaterial?, Tx.pure_eq, Tx.returns_pure, returns_storeResult]
    constructor
    · rintro ⟨mode, participants, hchecked, hrest⟩
      obtain ⟨rfl, rfl⟩ := hchecked.kept
      refine ⟨⟨hchecked.1, hchecked.2.1, hchecked.2.2.1, hchecked.2.2.2, ?_⟩, ?_⟩
      · intro m hsome
        rw [hm] at hsome
        cases hsome
      · exact hrest
    · rintro ⟨hfit, hrest⟩
      exact ⟨_, _, ⟨hfit.numbers, hfit.playMode, hfit.participants, hfit.covered⟩, hrest⟩
  | some m =>
    simp only [validatedMaterial?, Tx.bind_eq, Tx.returns_bind, validatedMaterial_iff, Tx.pure_eq,
      Tx.returns_pure, returns_storeResult]
    constructor
    · rintro ⟨mode, participants, hchecked, hmaterial, hrest⟩
      obtain ⟨rfl, rfl⟩ := hchecked.kept
      refine ⟨⟨hchecked.1, hchecked.2.1, hchecked.2.2.1, hchecked.2.2.2, ?_⟩, ?_⟩
      · intro m' hsome
        obtain rfl := Option.some.inj (hm.symm.trans hsome)
        exact hmaterial
      · exact hrest
    · rintro ⟨hfit, hrest⟩
      exact ⟨_, _, ⟨hfit.numbers, hfit.playMode, hfit.participants, hfit.covered⟩,
        hfit.material m hm, hrest⟩

/-! ## Reading -/

/-- What `read_result` returns for a session. -/
structure IsResultData (w : Database) (item : PlaytestSession) (data : ResultData) : Prop where
  session : IsSessionData w item data.session
  materialCandidates :
    data.materialCandidates = w.files.filter (Works.isReadyMaterial item.workspaceId item.workId)
  actualMaterial : IsActualMaterial w item data.actualMaterial
  texts : item.actualMaterialRecorded = true →
    item.actualRuleName ≠ none ∧ item.actualRuleContent ≠ none
  actualParticipants : data.actualParticipants = joinedParticipants item.id w
  observations : data.observations = w.observations.filter (·.sessionId == item.id)

theorem returns_actualMaterials {Q : Option (List MaterialData) → Database → Database → Prop}
    (item : PlaytestSession) :
    (actualMaterials item).Returns Q s w ↔ ∃ m, IsActualMaterial w item m ∧
      (item.actualMaterialRecorded = true →
        item.actualRuleName ≠ none ∧ item.actualRuleContent ≠ none) ∧ Q m s w := by
  simp only [actualMaterials, IsActualMaterial]
  cases item.actualMaterialRecorded with
  | false => simp
  | true =>
    simp only [Bool.not_true, Bool.false_eq_true, if_false, if_true, Tx.bind_eq, Tx.returns_bind,
      Tx.returns_require, Tx.returns_read, returns_readMaterials, Tx.pure_eq, Tx.returns_pure,
      forall_const, ne_eq, Option.ne_none_iff_exists']
    constructor
    · rintro ⟨name, hname, content, hcontent, ms, hms, hQ⟩
      exact ⟨_, ⟨ms, hms, rfl⟩, ⟨⟨name, hname⟩, content, hcontent⟩, hQ⟩
    · rintro ⟨_, ⟨ms, hms, rfl⟩, ⟨⟨name, hname⟩, content, hcontent⟩, hQ⟩
      exact ⟨name, hname, content, hcontent, ms, hms, hQ⟩

/-- What `read_result` returns. -/
theorem readResult_iff {Q : ResultData → Database → Database → Prop}
    {actorId workspaceId workId sessionId : Uuid} :
    (readResult actorId workspaceId workId sessionId).Returns Q s w ↔
      ManagesPlaytests actorId workspaceId workId w ∧
        ∃ item, findSession workspaceId workId sessionId w = some item ∧ item.status = .started ∧
          ∃ data, IsResultData w item data ∧ Q data s w := by
  rw [readResult, Tx.returns_mapError, Tx.bind_eq, Tx.returns_bind, returns_requireManagement]
  refine and_congr_right fun _ => ?_
  simp only [Tx.bind_eq, Tx.returns_bind, Tx.returns_read, Tx.returns_require, requireStarted,
    Tx.returns_ensure, beq_iff_eq, Tx.pure_eq, Tx.returns_pure, returns_sessionData,
    returns_actualMaterials]
  refine exists_congr fun item => and_congr_right fun _ => and_congr_right fun _ => ?_
  constructor
  · rintro ⟨d, hd, m, hm, htexts, hQ⟩
    exact ⟨_, ⟨hd, rfl, hm, htexts, rfl, rfl⟩, hQ⟩
  · rintro ⟨⟨d, candidates, m, rows, observations⟩, h, hQ⟩
    obtain ⟨hd, hcandidates, hm, htexts, hrows, hobservations⟩ := h
    dsimp only at hd hcandidates hm hrows hobservations
    subst hcandidates hrows hobservations
    exact ⟨d, hd, m, hm, htexts, hQ⟩

/-- The draft rebuilt from what is read. -/
def redraft (data : ResultData) : ResultDraft where
  actualHeadcount := data.session.item.actualHeadcount.map (↑)
  actualDurationMinutes := data.session.item.actualDurationMinutes.map (↑)
  completionStatus := data.session.item.completionStatus
  actualMaterial := do
    let found ← data.actualMaterial
    let ruleName ← data.session.item.actualRuleName
    let ruleContent ← data.session.item.actualRuleContent
    some ⟨ruleName, data.session.item.actualRuleDescription, ruleContent, found.map (·.id),
      data.session.item.actualMaterialChangeReason⟩
  actualParticipants := data.actualParticipants.map fun p =>
    ⟨p.1.plannedAccountId, p.1.temporaryCode, p.1.seatOrFaction, p.1.scoreOrOutcome⟩
  actualPlayMode := data.session.item.actualPlayMode

/-- The same materials: the files in any order. -/
structure SameMaterial (a b : ActualMaterialDraft) : Prop where
  ruleName : a.ruleName = b.ruleName
  ruleDescription : a.ruleDescription = b.ruleDescription
  ruleContent : a.ruleContent = b.ruleContent
  materialFileIds : a.materialFileIds.Perm b.materialFileIds
  changeReason : a.changeReason = b.changeReason

/-- The same result: its files and its participants in any order. -/
structure SameResult (a b : ResultDraft) : Prop where
  actualHeadcount : a.actualHeadcount = b.actualHeadcount
  actualDurationMinutes : a.actualDurationMinutes = b.actualDurationMinutes
  completionStatus : a.completionStatus = b.completionStatus
  actualMaterial : Option.Rel SameMaterial a.actualMaterial b.actualMaterial
  actualParticipants : a.actualParticipants.Perm b.actualParticipants
  actualPlayMode : a.actualPlayMode = b.actualPlayMode

theorem SameMaterial.trans {a b c : ActualMaterialDraft} (h : SameMaterial a b)
    (h' : SameMaterial b c) : SameMaterial a c :=
  ⟨h.ruleName.trans h'.ruleName, h.ruleDescription.trans h'.ruleDescription,
    h.ruleContent.trans h'.ruleContent, h.materialFileIds.trans h'.materialFileIds,
    h.changeReason.trans h'.changeReason⟩

theorem SameMaterial.symm {a b : ActualMaterialDraft} (h : SameMaterial a b) : SameMaterial b a :=
  ⟨h.ruleName.symm, h.ruleDescription.symm, h.ruleContent.symm, h.materialFileIds.symm,
    h.changeReason.symm⟩

theorem sameMaterial_trans : ∀ {a b c : Option ActualMaterialDraft},
    Option.Rel SameMaterial a b → Option.Rel SameMaterial b c → Option.Rel SameMaterial a c
  | _, _, _, .none, .none => .none
  | _, _, _, .some h, .some h' => .some (h.trans h')

theorem sameMaterial_symm : ∀ {a b : Option ActualMaterialDraft},
    Option.Rel SameMaterial a b → Option.Rel SameMaterial b a
  | _, _, .none => .none
  | _, _, .some h => .some h.symm

theorem SameResult.trans {a b c : ResultDraft} (h : SameResult a b) (h' : SameResult b c) :
    SameResult a c where
  actualHeadcount := h.actualHeadcount.trans h'.actualHeadcount
  actualDurationMinutes := h.actualDurationMinutes.trans h'.actualDurationMinutes
  completionStatus := h.completionStatus.trans h'.completionStatus
  actualMaterial := sameMaterial_trans h.actualMaterial h'.actualMaterial
  actualParticipants := h.actualParticipants.trans h'.actualParticipants
  actualPlayMode := h.actualPlayMode.trans h'.actualPlayMode

theorem SameResult.symm {a b : ResultDraft} (h : SameResult a b) : SameResult b a where
  actualHeadcount := h.actualHeadcount.symm
  actualDurationMinutes := h.actualDurationMinutes.symm
  completionStatus := h.completionStatus.symm
  actualMaterial := sameMaterial_symm h.actualMaterial
  actualParticipants := h.actualParticipants.symm
  actualPlayMode := h.actualPlayMode.symm

/-! ## What is stored is what is read -/

/-- The rows of participants with the addresses of their accounts. -/
theorem map_fst_joinedParticipants (haccounts : (db.accounts.map (·.id)).Nodup)
    (sessionId : Uuid) :
    (joinedParticipants sessionId db).map (·.1) =
      db.actualParticipants.filter (·.sessionId == sessionId) := by
  rw [joinedParticipants, List.map_flatMap]
  refine (List.flatMap_congr fun p _ => ?_).trans (List.flatMap_singleton' _)
  have hmem : ∀ a ∈ db.accounts.filter (fun a => p.plannedAccountId == some a.id),
      p.plannedAccountId = some a.id := by
    intro a ha
    simpa using (List.mem_filter.1 ha).2
  have hnodup : ((db.accounts.filter fun a => p.plannedAccountId == some a.id).map
      (·.id)).Nodup := haccounts.sublist (List.filter_sublist.map _)
  revert hmem hnodup
  generalize db.accounts.filter (fun a => p.plannedAccountId == some a.id) = accounts
  intro hmem hnodup
  match accounts with
  | [] => rfl
  | [a] => rfl
  | a :: b :: rest =>
    have hsame : a.id = b.id := Option.some.inj ((hmem a List.mem_cons_self).symm.trans
      (hmem b (List.mem_cons_of_mem _ List.mem_cons_self)))
    rw [List.map_cons, List.map_cons, List.nodup_cons] at hnodup
    exact absurd (hsame ▸ List.mem_cons_self) hnodup.1

/-- What was recorded as played with is what was found of the draft. -/
theorem recordedMaterials_resultStored (draft : ResultDraft) :
    recordedMaterials (resultOf item draft) (resultStored item draft db) =
      versions item (draft.actualMaterial.elim [] (·.materialFileIds)) db := by
  have hid : (resultOf item draft).id = item.id := rfl
  rw [recordedMaterials, hid, resultStored, versions, List.filter_append, Table.delete,
    List.filter_filter, List.filter_map]
  simp [Function.comp_def]

theorem actualParticipants_resultStored (draft : ResultDraft) :
    (resultStored item draft db).actualParticipants.filter (·.sessionId == item.id) =
      draft.actualParticipants.map (participantRow item.id) := by
  rw [resultStored, List.filter_append, Table.delete, List.filter_filter, List.filter_map]
  simp [participantRow, Function.comp_def]

/-- The numbers of a draft that is accepted come back. -/
theorem toNat_of_validNumbers {draft : ResultDraft} {participants : List ActualParticipantDraft}
    (h : validNumbers draft participants = true) :
    (draft.actualHeadcount.map Int.toNat).map (fun n : ℕ => (n : ℤ)) = draft.actualHeadcount ∧
      (draft.actualDurationMinutes.map Int.toNat).map (fun n : ℕ => (n : ℤ)) =
        draft.actualDurationMinutes := by
  have hback : ∀ value : Option ℤ, (∀ n, value = some n → 0 ≤ n) →
      (value.map Int.toNat).map (fun n : ℕ => (n : ℤ)) = value := by
    intro value hvalue
    cases value with
    | none => rfl
    | some n => simp [Int.toNat_of_nonneg (hvalue n rfl)]
  simp only [validNumbers, Bool.and_eq_true, Option.all_eq_true, decide_eq_true_eq] at h
  exact ⟨hback _ fun n hn => (h.1 n hn).1, hback _ fun n hn => h.2 n hn⟩

/-- The files that are found are those that were asked for. -/
theorem ids_perm (hfiles : (db.files.map (·.id)).Nodup) {fileIds : List Uuid}
    (hnodup : fileIds.Nodup)
    (hlength : (readyFiles item fileIds db).length = fileIds.length) :
    ((readyFiles item fileIds db).map (·.id)).Perm fileIds := by
  refine (List.perm_ext_iff_of_nodup (nodup_readyFiles hfiles) hnodup).2 fun id => ?_
  rw [List.mem_map]
  constructor
  · rintro ⟨f, hf, rfl⟩
    exact (mem_readyFiles.1 hf).2.1
  · intro hid
    exact mem_of_length_readyFiles hfiles hlength hid

theorem map_id_of_isMaterial {rows : List (Uuid × Bytes)} {ms : List MaterialData}
    (h : List.Forall₂ (IsMaterial w) rows ms) : ms.map (·.id) = rows.map (·.1) := by
  induction h with
  | nil => rfl
  | cons hm _ ih => rw [List.map_cons, List.map_cons, hm.id_eq, ih]

/-- **What is read is the draft as it is kept.** -/
theorem sameResult_normalised {draft : ResultDraft} {data : ResultData}
    (hfiles : (db.files.map (·.id)).Nodup) (haccounts : (db.accounts.map (·.id)).Nodup)
    (hfit : FitDraft item db draft)
    (hdata : IsResultData (resultStored item (normalised item db draft) db)
      (resultOf item (normalised item db draft)) data) :
    SameResult (redraft data) (normalised item db draft) := by
  have hitem : data.session.item = resultOf item (normalised item db draft) :=
    hdata.session.item_eq
  obtain ⟨hheadcount, hduration⟩ := toNat_of_validNumbers hfit.numbers
  refine ⟨?_, ?_, ?_, ?_, ?_, ?_⟩
  · rw [redraft, hitem]
    exact hheadcount
  · rw [redraft, hitem]
    exact hduration
  · rw [redraft, hitem]
    rfl
  · have hread := hdata.actualMaterial
    rw [IsActualMaterial, recordedMaterials_resultStored] at hread
    rw [redraft, hitem]
    cases hm : draft.actualMaterial with
    | none =>
      simp only [resultOf, recordResult, normalised, hm, Option.map_none, Option.isSome_none,
        Bool.false_eq_true, if_false] at hread ⊢
      rw [hread]
      exact .none
    | some m =>
      simp only [resultOf, recordResult, normalised, hm, Option.map_some, Option.isSome_some,
        if_true, Option.elim_some] at hread ⊢
      obtain ⟨ms, hms, hfound⟩ := hread
      rw [hfound]
      have hm' := hfit.material m hm
      refine .some ⟨rfl, rfl, rfl, ?_, rfl⟩
      have hids := map_id_of_isMaterial hms
      dsimp only
      rw [hids, versions, List.map_map]
      exact ids_perm hfiles hm'.nodup hm'.found
  · have haccounts' :
        ((resultStored item (normalised item db draft) db).accounts.map (·.id)).Nodup := haccounts
    have hrows := map_fst_joinedParticipants haccounts' item.id
    rw [actualParticipants_resultStored] at hrows
    rw [redraft, hdata.actualParticipants]
    have hmap : ∀ rows : List (PlaytestSessionActualParticipant × Option String),
        rows.map (fun p => (⟨p.1.plannedAccountId, p.1.temporaryCode, p.1.seatOrFaction,
          p.1.scoreOrOutcome⟩ : ActualParticipantDraft)) = (rows.map (·.1)).map fun p =>
            ⟨p.plannedAccountId, p.temporaryCode, p.seatOrFaction, p.scoreOrOutcome⟩ := by
      intro rows
      rw [List.map_map]
      rfl
    dsimp only
    rw [hmap]
    have hid : (resultOf item (normalised item db draft)).id = item.id := rfl
    rw [hid, hrows, List.map_map]
    exact .of_eq (List.map_id _)
  · rw [redraft, hitem]
    rfl

/-! ## Saving it again

A save changes nothing that the checks of the next one look at. -/

theorem readyFiles_perm {fileIds fileIds' : List Uuid} (h : fileIds.Perm fileIds') :
    readyFiles item fileIds db = readyFiles item fileIds' db := by
  refine List.filter_congr fun f _ => ?_
  congr 1
  rw [Bool.eq_iff_iff, List.contains_iff_mem, List.contains_iff_mem]
  exact h.mem_iff

/-- What is asked of the material that was kept. -/
theorem FitMaterial.again {m again : ActualMaterialDraft} {n : ResultDraft}
    (h : FitMaterial item db m) (hsame : SameMaterial again (keptMaterial item db m)) :
    FitMaterial (resultOf item n) (resultStored item n db) again ∧
      SameMaterial (keptMaterial (resultOf item n) (resultStored item n db) again)
        (keptMaterial item db m) := by
  obtain ⟨hname, hdescription, hcontent, hids, hreason⟩ := hsame
  simp only [keptMaterial] at hname hdescription hcontent hids hreason
  have hfound : readyFiles (resultOf item n) again.materialFileIds (resultStored item n db) =
      readyFiles item m.materialFileIds db := by
    have hframe : readyFiles (resultOf item n) again.materialFileIds (resultStored item n db) =
        readyFiles item again.materialFileIds db := rfl
    rw [hframe, readyFiles_perm hids]
  -- The kept texts are compared with the same plan.
  have hchanges : changes (resultOf item n) (resultStored item n db) again = changes item db m := by
    have hplan : materialChanged (resultOf item n) = materialChanged item := rfl
    have hplanned : plannedMaterials (resultOf item n) (resultStored item n db) =
        plannedMaterials item db := rfl
    rw [changes, versions, hfound, hplan, hplanned, hname, hdescription, hcontent, strip_strip,
      strip_strip, keptText_keptText]
    rfl
  have hkept : optionalText 4000 again.changeReason = some again.changeReason := by
    rw [hreason]
    split
    · exact (optionalText_keptText h.changeReason).2
    · exact optionalText_none _
  have hback : keptText again.changeReason = again.changeReason :=
    (optionalText_keptText hkept).1.symm
  refine ⟨⟨?_, ?_, ?_, ?_, ?_, ?_, ?_, ?_⟩, ⟨?_, ?_, ?_, hids, ?_⟩⟩
  · rw [hname, strip_strip]
    exact (requiredText_strip h.ruleName).2
  · rw [hdescription, keptText_keptText]
    exact (optionalText_keptText h.ruleDescription).2
  · rw [hcontent, strip_strip]
    exact (requiredText_strip h.ruleContent).2
  · exact hids.nodup_iff.2 h.nodup
  · rw [hfound, h.found, hids.length_eq]
  · exact h.planned
  · rw [hkept, hback]
  · intro hchanged
    rw [hchanges] at hchanged
    rw [hback, hreason, if_pos hchanged]
    exact h.reason hchanged
  · simp only [keptMaterial]
    rw [hname, strip_strip]
  · simp only [keptMaterial]
    rw [hdescription, keptText_keptText]
  · simp only [keptMaterial]
    rw [hcontent, strip_strip]
  · simp only [keptMaterial]
    rw [hchanges, hback, hreason]
    split <;> rfl

/-- What is asked of the draft that was kept. -/
theorem FitDraft.again {draft again : ResultDraft} {n : ResultDraft} (h : FitDraft item db draft)
    (hsame : SameResult again (normalised item db draft)) :
    FitDraft (resultOf item n) (resultStored item n db) again ∧
      SameResult (normalised (resultOf item n) (resultStored item n db) again)
        (normalised item db draft) := by
  obtain ⟨hheadcount, hduration, hstatus, hmaterial, hparticipants, hmode⟩ := hsame
  simp only [normalised] at hheadcount hduration hstatus hmaterial hparticipants hmode
  obtain ⟨haccepted, hkept⟩ := validatedParticipants_again h.participants hparticipants
  have hnumbers : ∀ participants, validNumbers again participants =
      validNumbers draft participants := by
    intro participants
    rw [validNumbers, validNumbers, hheadcount, hduration]
  have hcovered : validNumbers draft again.actualParticipants =
      validNumbers draft (draft.actualParticipants.map keptParticipant) := by
    rw [validNumbers, validNumbers, hparticipants.length_eq]
  have hmode' : keptText again.actualPlayMode = keptText draft.actualPlayMode := by
    rw [hmode, keptText_keptText]
  have hrel : ∀ a, again.actualMaterial = some a → ∃ m, draft.actualMaterial = some m ∧
      SameMaterial a (keptMaterial item db m) := by
    intro a ha
    rw [ha] at hmaterial
    cases hm : draft.actualMaterial with
    | none =>
      rw [hm] at hmaterial
      cases hmaterial
    | some m =>
      rw [hm] at hmaterial
      cases hmaterial with
      | some hmaterial => exact ⟨m, rfl, hmaterial⟩
  refine ⟨⟨?_, ?_, ?_, ?_, ?_⟩, ⟨hheadcount, hduration, hstatus, ?_, ?_, ?_⟩⟩
  · rw [hnumbers]
    exact h.numbers
  · rw [hmode', hmode]
    exact (optionalText_keptText h.playMode).2
  · rw [hkept]
    exact haccepted
  · rw [hkept, hnumbers, hcovered]
    exact h.covered
  · intro a ha
    obtain ⟨m, hm, hsame⟩ := hrel a ha
    exact ((h.material m hm).again hsame).1
  · simp only [normalised]
    cases ha : again.actualMaterial with
    | none =>
      rw [ha] at hmaterial
      exact hmaterial
    | some a =>
      obtain ⟨m, hm, hsame⟩ := hrel a ha
      rw [hm]
      exact .some ((h.material m hm).again hsame).2
  · simp only [normalised]
    rw [hkept]
    exact hparticipants
  · exact hmode'

/-- The session after the same result was saved again. -/
theorem resultOf_again {n n' : ResultDraft} (h : SameResult n' n) :
    resultOf (resultOf item n) n' =
      { resultOf item n with revision := (resultOf item n).revision + 1 } := by
  obtain ⟨hheadcount, hduration, hstatus, hmaterial, -, hmode⟩ := h
  simp only [resultOf, recordResult, hheadcount, hduration, hstatus, hmode]
  revert hmaterial
  generalize n'.actualMaterial = a
  generalize n.actualMaterial = b
  intro hmaterial
  cases hmaterial with
  | none => rfl
  | some hsame =>
    simp only [Option.isSome_some, Option.map_some, Option.bind_some, hsame.ruleName,
      hsame.ruleDescription, hsame.ruleContent, hsame.changeReason]

/-- What could be read can be read again. -/
theorem IsResultData.again {n n' : ResultDraft} {data : ResultData}
    (h : IsResultData (resultStored item n db) (resultOf item n) data) (hsame : SameResult n' n) :
    ∃ data', IsResultData (resultStored (resultOf item n) n' (resultStored item n db))
      (resultOf (resultOf item n) n') data' := by
  obtain ⟨ms, hms, -⟩ := h.session
  have hread : IsActualMaterial (resultStored (resultOf item n) n' (resultStored item n db))
      (resultOf (resultOf item n) n') data.actualMaterial := by
    have hold := h.actualMaterial
    rw [IsActualMaterial, recordedMaterials_resultStored] at hold ⊢
    have hrecorded : (resultOf (resultOf item n) n').actualMaterialRecorded =
        (resultOf item n).actualMaterialRecorded := by
      rw [resultOf_again hsame]
    have hversions : versions (resultOf item n) (n'.actualMaterial.elim [] (·.materialFileIds))
        (resultStored item n db) =
          versions item (n.actualMaterial.elim [] (·.materialFileIds)) db := by
      have hmaterial := hsame.actualMaterial
      revert hmaterial
      generalize n'.actualMaterial = a
      generalize n.actualMaterial = b
      intro hmaterial
      cases hmaterial with
      | none => rfl
      | some hsame =>
        have hframe : ∀ ids, versions (resultOf item n) ids (resultStored item n db) =
            versions item ids db := fun ids => rfl
        rw [hframe, Option.elim_some, Option.elim_some, versions, versions,
          readyFiles_perm hsame.materialFileIds]
    rw [hrecorded, hversions]
    exact hold
  refine ⟨⟨_, _, _, _, _⟩, ⟨ms, hms, rfl⟩, rfl, hread, ?_, rfl, rfl⟩
  rw [resultOf_again hsame]
  exact h.texts

/-- An account that may save the result. -/
theorem returns_requireManagement_writable {Q : Unit → Database → Database → Prop}
    {actorId workspaceId workId : Uuid} :
    (requireManagement actorId workspaceId workId true).Returns Q s w ↔
      Workspaces.ensureWorkspaceWritable w workspaceId = .ok () ∧
        ManagesPlaytests actorId workspaceId workId w ∧ Q () s w := by
  rw [← returns_requireManagement (s := s), requireManagement, requireManagement,
    Tx.returns_mapError, Tx.returns_mapError, if_pos rfl, if_neg Bool.false_ne_true, Tx.bind_eq,
    Tx.returns_bind, Workspaces.ensureWritable, Tx.returns_check]
  constructor
  · rintro ⟨_, hwritable, hrest⟩
    exact ⟨hwritable, hrest⟩
  · rintro ⟨hwritable, hrest⟩
    exact ⟨_, hwritable, hrest⟩

/-- An account that may save the result may save it again. -/
theorem requireManagement_resultStored {actorId workspaceId workId : Uuid} {n : ResultDraft}
    (h : (requireManagement actorId workspaceId workId true).Returns (fun _ _ _ => True) db db) :
    (requireManagement actorId workspaceId workId true).Returns (fun _ _ _ => True)
      (resultStored item n db) (resultStored item n db) := by
  obtain ⟨hwritable, hmanages, -⟩ := returns_requireManagement_writable.1 h
  exact returns_requireManagement_writable.2 ⟨hwritable, hmanages, trivial⟩

/-- When a result is read, by itself. -/
theorem readResult_exec {actorId workspaceId workId sessionId : Uuid} {data : ResultData} :
    (readResult actorId workspaceId workId sessionId).exec db = (db, .ok data) ↔
      ManagesPlaytests actorId workspaceId workId db ∧
        ∃ item, findSession workspaceId workId sessionId db = some item ∧ item.status = .started ∧
          IsResultData db item data := by
  rw [Tx.exec_eq_iff, readResult_iff]
  simp only [and_true, exists_eq_right]

/-- When a draft is saved, by itself, and what is left and returned. -/
theorem saveResult_exec {db' : Database} {actorId workspaceId workId sessionId : Uuid}
    {expectedRevision : ℤ} {draft : ResultDraft} {data : ResultData} :
    (saveResult actorId workspaceId workId sessionId expectedRevision draft).exec db =
        (db', .ok data) ↔
      0 < expectedRevision ∧
      (requireManagement actorId workspaceId workId true).Returns (fun _ _ _ => True) db db ∧
      ∃ item, findSession workspaceId workId sessionId db = some item ∧
        exitAllowsWrite none workspaceId db = true ∧ (item.revision : ℤ) = expectedRevision ∧
        item.status = .started ∧ FitDraft item db draft ∧
        exitAllowsSessionWrite item.id db = true ∧
        ManagesPlaytests actorId workspaceId workId db ∧
        IsResultData db' (resultOf item (normalised item db draft)) data ∧
        db' = resultStored item (normalised item db draft) db := by
  rw [Tx.exec_eq_iff, saveResult_iff]
  refine and_congr_right fun _ => and_congr_right fun _ => exists_congr fun item =>
    and_congr_right fun hitem => and_congr_right fun _ => and_congr_right fun _ =>
      and_congr_right fun hstarted => and_congr_right fun _ => and_congr_right fun _ => ?_
  rw [readResult_iff]
  have hmanages : ManagesPlaytests actorId workspaceId workId
      (resultStored item (normalised item db draft) db) ↔
        ManagesPlaytests actorId workspaceId workId db := Iff.rfl
  rw [hmanages]
  refine and_congr_right fun _ => ?_
  constructor
  · rintro ⟨item', hitem', -, data', hdata, rfl, rfl⟩
    obtain rfl := Option.some.inj ((findSession_resultStored hitem).symm.trans hitem')
    exact ⟨hdata, rfl⟩
  · rintro ⟨hdata, rfl⟩
    exact ⟨_, findSession_resultStored hitem, hstarted, data, hdata, rfl, rfl⟩

/-- **A saved result is read back.** What is read after a draft was accepted is the draft as it is
kept; and whatever says the same, in any order, is accepted at the revision that was read, and
changes nothing but the revision. -/
theorem saved_result_round_trip {db db' : Database}
    {actorId workspaceId workId sessionId : Uuid} {expectedRevision : ℤ} {draft : ResultDraft}
    {data : ResultData} (hfiles : (db.files.map (·.id)).Nodup)
    (haccounts : (db.accounts.map (·.id)).Nodup)
    (h : (saveResult actorId workspaceId workId sessionId expectedRevision draft).exec db =
      (db', .ok data)) :
    ∃ item, findSession workspaceId workId sessionId db = some item ∧ item.status = .started ∧
      (readResult actorId workspaceId workId sessionId).exec db' = (db', .ok data) ∧
      SameResult (redraft data) (normalised item db draft) ∧
      ∀ again, SameResult again (redraft data) → ∃ db'' data',
        (saveResult actorId workspaceId workId sessionId data.session.item.revision again).exec
          db' = (db'', .ok data') ∧
        (readResult actorId workspaceId workId sessionId).exec db'' = (db'', .ok data') ∧
        SameResult (redraft data') (redraft data) ∧
        data'.session.item =
          { data.session.item with revision := data.session.item.revision + 1 } := by
  obtain ⟨-, hmanage, item, hitem, hwrite, -, hstarted, hfit, hsession, hmanages, hdata, rfl⟩ :=
    saveResult_exec.1 h
  have hitem' : findSession workspaceId workId sessionId
      (resultStored item (normalised item db draft) db) =
        some (resultOf item (normalised item db draft)) := findSession_resultStored hitem
  have hsame := sameResult_normalised hfiles haccounts hfit hdata
  have hrow : data.session.item = resultOf item (normalised item db draft) :=
    hdata.session.item_eq
  refine ⟨item, hitem, hstarted, ?_, hsame, fun again hagain => ?_⟩
  · exact readResult_exec.2 ⟨hmanages, _, hitem', hstarted, hdata⟩
  -- The second save passes the same checks, on the session the first one left.
  obtain ⟨hfit', hsame'⟩ := hfit.again (n := normalised item db draft) (hagain.trans hsame)
  obtain ⟨data', hdata'⟩ := hdata.again hsame'
  have hsession' : exitAllowsSessionWrite (resultOf item (normalised item db draft)).id
      (resultStored item (normalised item db draft) db) = true := by
    rw [← hsession]
    exact exitAllowsSessionWrite_update _ _ fun x => ⟨rfl, rfl⟩
  have hrevision : (0 : ℤ) < (data.session.item.revision : ℤ) := by
    rw [hrow, resultOf]
    exact_mod_cast Nat.succ_pos item.revision
  refine ⟨_, data', saveResult_exec.2 ⟨hrevision, requireManagement_resultStored hmanage, _,
    hitem', hwrite, ?_, hstarted, hfit', hsession', hmanages, hdata', rfl⟩, ?_, ?_, ?_⟩
  · rw [hrow]
  · exact readResult_exec.2 ⟨hmanages, _, findSession_resultStored hitem', hstarted, hdata'⟩
  · have hfiles' :
        ((resultStored item (normalised item db draft) db).files.map (·.id)).Nodup := hfiles
    have haccounts' :
        ((resultStored item (normalised item db draft) db).accounts.map (·.id)).Nodup := haccounts
    exact (sameResult_normalised hfiles' haccounts' hfit' hdata').trans (hsame'.trans hsame.symm)
  · rw [hdata'.session.item_eq, resultOf_again hsame', hrow]

/-- A result with blanks to strip, another rule text and two people who were not planned for. -/
def untidyResult : ResultDraft where
  actualHeadcount := some 3
  actualDurationMinutes := none
  completionStatus := some .completed
  actualMaterial := some ⟨" rules", some "  ", "house rules ", [50], some " shorter "⟩
  actualParticipants := [⟨none, some " bob", none, some ""⟩, ⟨none, some "amy", some "red ", none⟩]
  actualPlayMode := some " "

/-- The theorem on that result. -/
theorem saved_result_round_trip_untidyResult :
    ∃ db' data, (saveResult 1 10 20 40 2 untidyResult).exec (plannedWith 3) = (db', .ok data) ∧
      SameResult (redraft data) (normalised (sessionOf 3) (plannedWith 3) untidyResult) ∧
      ∃ db'' data', (saveResult 1 10 20 40 data.session.item.revision (redraft data)).exec db' =
        (db'', .ok data') ∧ SameResult (redraft data') (redraft data) := by
  have hsaved : ((saveResult 1 10 20 40 2 untidyResult).exec (plannedWith 3)).2.toOption.isSome =
      true := by
    decide +kernel
  obtain ⟨data, hdata⟩ := Option.isSome_iff_exists.1 hsaved
  have hexec : (saveResult 1 10 20 40 2 untidyResult).exec (plannedWith 3) =
      (((saveResult 1 10 20 40 2 untidyResult).exec (plannedWith 3)).1, .ok data) := by
    refine Prod.ext rfl ?_
    revert hdata
    generalize ((saveResult 1 10 20 40 2 untidyResult).exec (plannedWith 3)).2 = answer
    intro hdata
    cases answer with
    | error e => cases hdata
    | ok a =>
      cases hdata
      rfl
  obtain ⟨item, hitem, -, -, hsame, hagain⟩ :=
    saved_result_round_trip (by decide) (by decide) hexec
  have hfound : findSession 10 20 40 (plannedWith 3) = some (sessionOf 3) := by
    rfl
  obtain rfl := Option.some.inj (hfound.symm.trans hitem)
  obtain ⟨db'', data', hsecond, -, hsame', -⟩ := hagain (redraft data) (hsame.trans hsame.symm)
  exact ⟨_, data, hexec, hsame, db'', data', hsecond, hsame'⟩

end Playtests

end Rulefolio
