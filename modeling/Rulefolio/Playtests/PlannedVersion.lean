import Mathlib.Data.List.Perm.Subperm
import Rulefolio.Library.Returns
import Rulefolio.Library.Sequential
import Rulefolio.Playtests.Service

/-!
# Playing the planned version

The texts of a work's rules are bounded and normalised twice. The endpoint of the rule materials
and `update_rule_materials` do it when the rules are stored, and a session copies what is stored;
the endpoint of the results and `save_result` do it again when the session says what was played
with, and ask for a reason if that differs from the copy.

The two agree about the name and the description: what the first accepts, the second leaves alone.
They disagree about the length of the content, which may have 50 000 characters in a work and
20 000 in a result. A session that played longer rules exactly as planned cannot say so.

## Main definitions

* `RuleTexts`, `ruleMaterialsUpdateRequest`, `actualMaterialRequest` — what the endpoints accept.
* `Snapshot` — a session whose rules are those of an accepted request.
* `KeepsRules` — the rules of the works have not been changed.
* `FixedMaterials` — the planned files of a session are there.

## Main results

* `snapshot_of_createSession` — how the rules of a request come into a session, from what
  `update_rule_materials` stores and what a snapshot copies.
* `planned_version_iff` — the planned version needs no reason up to 20 000 characters.
-/

namespace Rulefolio

namespace Playtests

/-! ## The endpoints -/

/-- The texts of a work's rules. -/
structure RuleTexts where
  ruleName : String
  ruleDescription : Option String
  ruleContent : String
  deriving DecidableEq, Repr

/-- A required text of a request: `min_length` and `max_length` of the field, then
`strip_required_text`. -/
def requiredField (limit : ℕ) (value : String) : Option String :=
  if 1 ≤ value.length && value.length ≤ limit && !(strip value).isEmpty then some (strip value)
  else none

/-- The texts of `RuleMaterialsUpdateRequest`, with its validators. -/
def ruleMaterialsUpdateRequest (texts : RuleTexts) : Option RuleTexts := do
  let ruleName ← requiredField 160 texts.ruleName
  let ruleContent ← requiredField 50000 texts.ruleContent
  if texts.ruleDescription.all (·.length ≤ 2000) then
    some ⟨ruleName, texts.ruleDescription.bind fun d => if (strip d).isEmpty then none
      else some (strip d), ruleContent⟩
  else none

/-- `ActualMaterialRequest`, with its validators. They leave an empty text as it is. -/
def actualMaterialRequest (material : ActualMaterialDraft) : Option ActualMaterialDraft := do
  let ruleName ← requiredField 160 material.ruleName
  let ruleContent ← requiredField 20000 material.ruleContent
  if material.ruleDescription.all (·.length ≤ 4000) &&
      material.changeReason.all (·.length ≤ 4000) then
    some { material with
      ruleName := ruleName
      ruleDescription := material.ruleDescription.map strip
      ruleContent := ruleContent
      changeReason := material.changeReason.map strip }
  else none

/-- What `update_rule_materials` stores. -/
def storedTexts (texts : RuleTexts) : RuleTexts :=
  ⟨strip texts.ruleName,
    texts.ruleDescription.bind fun d => if d.isEmpty then none else some (strip d),
    strip texts.ruleContent⟩

/-- A work whose rules are these. -/
def HasRules (texts : RuleTexts) (work : Work) : Prop :=
  work.ruleName = some texts.ruleName ∧ work.ruleDescription = texts.ruleDescription ∧
    work.ruleContent = some texts.ruleContent

/-- A session whose snapshot was taken from a request that the endpoint and
`update_rule_materials` accepted. -/
structure Snapshot (request : RuleTexts) (item : PlaytestSession) : Prop where
  accepted : ∃ texts, ruleMaterialsUpdateRequest request = some texts ∧
    (⟨item.ruleName, item.ruleDescription, item.ruleContent⟩ : RuleTexts) = storedTexts texts

theorem requiredField_eq_some {limit : ℕ} {value text : String} :
    requiredField limit value = some text ↔ 1 ≤ value.length ∧ value.length ≤ limit ∧
      (strip value).isEmpty = false ∧ text = strip value := by
  rw [requiredField]
  split <;> grind

/-- What an accepted request leaves in a session. -/
theorem Snapshot.texts {request : RuleTexts} {item : PlaytestSession} (h : Snapshot request item) :
    item.ruleName = strip request.ruleName ∧ item.ruleContent = strip request.ruleContent ∧
      item.ruleName.isEmpty = false ∧ item.ruleName.length ≤ 160 ∧
      item.ruleContent.isEmpty = false ∧ item.ruleContent.length ≤ 50000 ∧
      ∀ d, item.ruleDescription = some d → d.isEmpty = false ∧ strip d = d ∧ d.length ≤ 2000 := by
  obtain ⟨texts, hrequest, hitem⟩ := h.accepted
  simp only [ruleMaterialsUpdateRequest, Option.bind_eq_bind, Option.bind_eq_some_iff,
    requiredField_eq_some] at hrequest
  obtain ⟨_, ⟨-, hname, hnonempty, rfl⟩, _, ⟨-, hcontent, hfilled, rfl⟩, htexts⟩ := hrequest
  split at htexts
  · rename_i hdescription
    obtain rfl := Option.some.inj htexts
    simp only [storedTexts, RuleTexts.mk.injEq, strip_strip] at hitem
    obtain ⟨hn, hd, hc⟩ := hitem
    have hnameLength := length_strip_le request.ruleName
    have hcontentLength := length_strip_le request.ruleContent
    refine ⟨hn, hc, hn ▸ hnonempty, hn ▸ by omega, hc ▸ hfilled, hc ▸ by omega, fun d hsome => ?_⟩
    rw [hd] at hsome
    obtain ⟨raw, hraw, hd'⟩ := Option.bind_eq_some_iff.1 hsome
    obtain ⟨raw', hraw', hraw''⟩ := Option.bind_eq_some_iff.1 hraw
    rw [hraw', Option.all_some] at hdescription
    have hrawLength := length_strip_le raw'
    split at hraw''
    · nomatch hraw''
    · rename_i hempty
      obtain rfl := Option.some.inj hraw''
      rw [if_neg hempty, strip_strip] at hd'
      obtain rfl := Option.some.inj hd'
      refine ⟨by simpa using hempty, strip_strip raw', ?_⟩
      have : raw'.length ≤ 2000 := by simpa using hdescription
      omega
  · nomatch htexts

/-! ## How the rules come into a session -/

theorem loadVisibleWork_id (workspaceId workId : Uuid) :
    (Works.loadVisibleWork workspaceId workId).Within Eq fun work => work.id = workId := by
  refine Tx.Within.read_bind (fun _ => rfl) fun db => ?_
  refine (Tx.Within.require _ _).mono (fun _ _ => id) fun work hwork => ?_
  have hfound := List.find?_some hwork
  simp only [Bool.and_eq_true, beq_iff_eq] at hfound
  exact hfound.1

theorem requireManager_id (workspaceId workId actorId : Uuid) :
    (Works.requireManager workspaceId workId actorId).Within Eq fun work => work.id = workId :=
  (loadVisibleWork_id workspaceId workId).bind fun _ hwork =>
    (Workspaces.workAccessRole_within (fun _ => rfl) _ _).andThen fun _ =>
      (Tx.Within.ensure' _ _).andThen fun _ => Tx.Within.pure hwork

theorem prepareManagerWrite_id (workspaceId workId actorId : Uuid)
    (targetAccountId : Option Uuid) :
    (Works.prepareManagerWrite workspaceId workId actorId targetAccountId).Within Eq
      fun managed => managed.1.id = workId := by
  refine (Workspaces.ensureWritable_within (fun _ => rfl) _).andThen fun _ => ?_
  refine (requireManager_id workspaceId workId actorId).bind fun work hwork => ?_
  have hmembers : (Workspaces.lockWorkMembers work.workspaceId
      (actorId :: targetAccountId.toList)).Within Eq fun _ => True :=
    (Tx.Within.selectAllForUpdate (fun _ => rfl) _ _).andThen fun _ => Tx.Within.pure trivial
  refine hmembers.andThen fun memberIds => ?_
  refine (Tx.Within.ensure' _ _).andThen fun _ => (Tx.Within.ensure' _ _).andThen fun _ => ?_
  refine (Tx.Within.selectAllForUpdate (fun _ => rfl) _ _).andThen fun accesses => ?_
  exact (Tx.Within.ensure' _ _).andThen fun _ => Tx.Within.pure hwork

theorem returns_insertRows {ρ : Type} {Q : Unit → Database → Database → Prop} {s w : Database}
    (rows : List ρ) (admits : Database → Bool) (insert : List ρ → Database → Database) :
    (insertRows rows admits insert).Returns Q s w ↔ (rows = [] ∧ Q () s w) ∨
      (rows ≠ [] ∧ admits w = true ∧ Q () s (insert rows w)) := by
  rw [insertRows]
  split
  · simp_all
  · rw [insertRow, Tx.returns_bind]
    simp_all

theorem selectedReadyMaterials_reads (workspaceId workId : Uuid) (fileIds : List Uuid) :
    (Works.selectedReadyMaterials workspaceId workId fileIds).Within Eq fun _ => True := by
  rw [Works.selectedReadyMaterials]
  split
  · exact Tx.Within.pure trivial
  · exact Tx.Within.read (fun _ => rfl) _ fun _ => trivial

/-- **What `update_rule_materials` leaves behind** when it returns. -/
theorem updateRuleMaterials_stores {db : Database} {actorId workspaceId workId : Uuid}
    {texts : RuleTexts} {materialFileIds : List Uuid} {expectedRevision : ℤ}
    (h : ((Works.updateRuleMaterials actorId workspaceId workId texts.ruleName
      texts.ruleDescription texts.ruleContent materialFileIds expectedRevision).exec db).2 =
        .ok ()) :
    ∃ work ∈ ((Works.updateRuleMaterials actorId workspaceId workId texts.ruleName
        texts.ruleDescription texts.ruleContent materialFileIds expectedRevision).exec db).1.works,
      work.id = workId ∧ HasRules (storedTexts texts) work := by
  have hreturns := Tx.returns_of_exec (Q := fun _ after _ => after = ((Works.updateRuleMaterials
    actorId workspaceId workId texts.ruleName texts.ruleDescription texts.ruleContent
    materialFileIds expectedRevision).exec db).1) h fun _ => rfl
  revert hreturns
  generalize ((Works.updateRuleMaterials actorId workspaceId workId texts.ruleName
    texts.ruleDescription texts.ruleContent materialFileIds expectedRevision).exec db).1 = after
  intro hreturns
  rw [Works.updateRuleMaterials, Tx.returns_mapError, Tx.bind_eq, Tx.returns_bind,
    Tx.returns_ensure] at hreturns
  obtain ⟨-, hreturns⟩ := hreturns
  rw [Tx.bind_eq, (prepareManagerWrite_id _ _ _ _).returns_bind] at hreturns
  obtain ⟨⟨work, accesses⟩, hid, -, hreturns⟩ := hreturns
  dsimp only at hid hreturns
  rw [Tx.bind_eq, (selectedReadyMaterials_reads _ _ _).returns_bind] at hreturns
  obtain ⟨selected, -, -, hreturns⟩ := hreturns
  simp only [Tx.bind_eq, Tx.returns_bind, Tx.returns_ensure, Works.updateRevision,
    Tx.returns_lockAll, Tx.returns_writeIf, Tx.returns_write, Tx.returns_commitNow,
    returns_insertRows, List.any_eq_true, Bool.and_eq_true, beq_iff_eq] at hreturns
  obtain ⟨-, ⟨current, hcurrent, ⟨hcurrentId, hrevision⟩, -⟩, hinserted⟩ := hreturns
  have hchosen : (current.id == work.id && (current.revision : ℤ) == expectedRevision) = true := by
    simp [hcurrentId, hrevision]
  rcases hinserted with ⟨-, rfl⟩ | ⟨-, -, rfl⟩ <;>
    exact ⟨_, Table.mem_update.2 (.inl ⟨current, hcurrent, hchosen, rfl⟩), hcurrentId.trans hid,
      rfl, rfl, rfl⟩

/-- **What a snapshot copies.** -/
theorem snapshot_copies {s w : Database} {actorId workspaceId workId : Uuid} {fileIds : List Uuid}
    {snapshot : Works.PlaytestRuleSnapshot}
    (h : (Works.snapshotCurrentRuleMaterialsForPlaytest actorId workspaceId workId
      fileIds).Returns (fun copied _ _ => copied = snapshot) s w) :
    ∃ work ∈ w.works, work.id = workId ∧
      HasRules ⟨snapshot.ruleName, snapshot.ruleDescription, snapshot.ruleContent⟩ work := by
  rw [Works.snapshotCurrentRuleMaterialsForPlaytest, Tx.returns_mapError, Tx.bind_eq,
    Tx.returns_bind, Tx.returns_ensure] at h
  obtain ⟨-, h⟩ := h
  rw [Tx.bind_eq, (Works.ensurePlaytestManagement_within (fun _ => rfl) _ _ _).returns_bind] at h
  obtain ⟨-, -, -, h⟩ := h
  simp only [Tx.bind_eq, Tx.returns_bind, Tx.returns_selectForUpdate, Tx.returns_require] at h
  obtain ⟨work, hwork, name, hname, content, hcontent, h⟩ := h
  rw [Tx.returns_ensure, Tx.returns_read, Tx.returns_ensure,
    (Works.readMaterials_within (fun _ => rfl) _ _ _).returns_iff] at h
  obtain ⟨-, -, files, -, -, hcopied⟩ := h
  obtain rfl := hcopied
  have hfound := List.find?_some hwork
  simp only [Bool.and_eq_true, beq_iff_eq] at hfound
  exact ⟨work, List.mem_of_find?_eq_some hwork, hfound.1.1, hname, rfl, hcontent⟩

theorem resolveParticipants_reads (normalizeEmail : String → Option String)
    (seen emails : List String) :
    (resolveParticipants normalizeEmail seen emails).Within Eq fun _ => True := by
  induction emails generalizing seen with
  | nil => exact Tx.Within.pure trivial
  | cons email rest ih =>
    refine (Tx.Within.require _ _).andThen fun normalized => (Tx.Within.ensure' _ _).andThen
      fun _ => ?_
    have hfind : (findActiveAccountByEmail normalized).Within Eq fun _ => True :=
      Tx.Within.selectForUpdate (fun _ => rfl) _ _ trivial fun _ => trivial
    refine hfind.andThen fun account => (Tx.Within.require _ _).andThen fun account => ?_
    exact (ih _).andThen fun accounts => Tx.Within.pure trivial

/-- A new session has the rules of its work. -/
theorem createSession_copies {s w : Database} {settings : Settings}
    {normalizeEmail : String → Option String} {uuids : Uuids} {now : Timestamp}
    {actorId workspaceId workId : Uuid} {plan : PlaytestPlan} {draft : SessionDraft}
    {item : PlaytestSession}
    (h : (createSession settings normalizeEmail uuids now actorId workspaceId workId plan
      draft).Returns (fun created _ _ => created = item) s w) :
    ∃ work ∈ w.works, work.id = workId ∧
      HasRules ⟨item.ruleName, item.ruleDescription, item.ruleContent⟩ work := by
  rw [createSession, Tx.bind_eq, Tx.returns_bind, Tx.returns_ensure] at h
  obtain ⟨-, h⟩ := h
  rw [Tx.bind_eq, (resolveParticipants_reads _ _ _).returns_bind] at h
  obtain ⟨accounts, -, -, h⟩ := h
  rw [Tx.bind_eq, (Tx.Within.mapError (Works.snapshotCurrentRuleMaterialsForPlaytest_within
    (fun _ => rfl) _ _ _ _)).returns_bind] at h
  obtain ⟨snapshot, -, hsnapshot, h⟩ := h
  rw [Tx.returns_mapError] at hsnapshot
  simp only [Tx.bind_eq, Tx.returns_bind] at h
  -- The statements that follow insert the session and what belongs to it, and return it.
  obtain ⟨_, _, _, h⟩ := h.exists_result
  obtain ⟨_, _, _, h⟩ := h.exists_result
  obtain ⟨_, _, _, h⟩ := h.exists_result
  obtain ⟨_, _, _, h⟩ := h.exists_result
  obtain rfl := h
  exact snapshot_copies hsnapshot

/-- The works that are still there have the rules they had. -/
def KeepsRules (db db' : Database) : Prop :=
  ∀ work ∈ db.works, ∀ work' ∈ db'.works, work'.id = work.id →
    ∀ texts, HasRules texts work → HasRules texts work'

theorem HasRules.unique {texts texts' : RuleTexts} {work : Work} (h : HasRules texts work)
    (h' : HasRules texts' work) : texts = texts' := by
  obtain ⟨hname, hdescription, hcontent⟩ := h
  obtain ⟨hname', hdescription', hcontent'⟩ := h'
  rw [RuleTexts.mk.injEq]
  exact ⟨Option.some.inj (hname.symm.trans hname'), hdescription.symm.trans hdescription',
    Option.some.inj (hcontent.symm.trans hcontent')⟩

/-- **A session has the rules of an accepted request** if `update_rule_materials` stored them and
nobody changed them before the session was created. -/
theorem snapshot_of_createSession {db db' s : Database} {request texts : RuleTexts}
    {ownerId actorId workspaceId workId : Uuid} {materialFileIds : List Uuid}
    {expectedRevision : ℤ} {settings : Settings} {normalizeEmail : String → Option String}
    {uuids : Uuids} {now : Timestamp} {plan : PlaytestPlan} {draft : SessionDraft}
    {item : PlaytestSession} (haccepted : ruleMaterialsUpdateRequest request = some texts)
    (hstored : ((Works.updateRuleMaterials ownerId workspaceId workId texts.ruleName
      texts.ruleDescription texts.ruleContent materialFileIds expectedRevision).exec db).2 = .ok ())
    (hkept : KeepsRules ((Works.updateRuleMaterials ownerId workspaceId workId texts.ruleName
      texts.ruleDescription texts.ruleContent materialFileIds expectedRevision).exec db).1 db')
    (hcreated : (createSession settings normalizeEmail uuids now actorId workspaceId workId plan
      draft).Returns (fun created _ _ => created = item) s db') : Snapshot request item := by
  obtain ⟨work, hwork, hid, hrules⟩ := updateRuleMaterials_stores hstored
  obtain ⟨work', hwork', hid', hcopied⟩ := createSession_copies hcreated
  have hlater := hkept work hwork work' hwork' (hid'.trans hid.symm) _ hrules
  exact ⟨texts, haccepted, hcopied.unique hlater⟩

/-! ## When a result is accepted -/

variable {s w : Database}

theorem requireManagement_reads (actorId workspaceId workId : Uuid) (writable : Bool) :
    (requireManagement actorId workspaceId workId writable).Within Eq fun _ => True := by
  refine Tx.Within.mapError ?_
  have hchecks : (do let _ ← Works.ensurePlaytestManagement actorId workspaceId workId :
      Program Unit).Within Eq fun _ => True :=
    (Works.ensurePlaytestManagement_within (fun _ => rfl) _ _ _).andThen fun _ =>
      Tx.Within.pure trivial
  cases writable with
  | true => exact (Workspaces.ensureWritable_within (fun _ => rfl) _).andThen fun _ => hchecks
  | false => exact hchecks

/-- The account may manage the playtests of the work. -/
def ManagesPlaytests (actorId workspaceId workId : Uuid) (db : Database) : Prop :=
  ∃ work, db.works.find? (fun x => x.id == workId && x.workspaceId == workspaceId) = some work ∧
    ((db.accesses.find? fun a => a.workId == work.id && a.accountId == actorId).map (·.role) ==
        some .maintainer ||
      (db.accesses.find? fun a => a.workId == work.id && a.accountId == actorId).map (·.role) ==
        some .organizer) = true

theorem returns_requireManagement {Q : Unit → Database → Database → Prop}
    (actorId workspaceId workId : Uuid) :
    (requireManagement actorId workspaceId workId false).Returns Q s w ↔
      ManagesPlaytests actorId workspaceId workId w ∧ Q () s w := by
  simp only [requireManagement, Tx.returns_mapError, Tx.bind_eq, Works.ensurePlaytestManagement,
    Works.loadVisibleWork, Workspaces.workAccessRole]
  simp only [Bool.false_eq_true, if_false, Tx.returns_bind, Tx.returns_read, Tx.returns_require,
    Tx.returns_ensure, Tx.pure_eq, Tx.returns_pure, ManagesPlaytests]
  constructor
  · rintro ⟨work, hwork, hrole, hQ⟩
    exact ⟨⟨work, hwork, hrole⟩, hQ⟩
  · rintro ⟨⟨work, hwork, hrole⟩, hQ⟩
    exact ⟨work, hwork, hrole, hQ⟩

/-- The files among these that a work can use as its material. -/
def readyFiles (item : PlaytestSession) (fileIds : List Uuid) (db : Database) : List StoredFile :=
  db.files.filter fun f => fileIds.contains f.id &&
    Works.isReadyMaterial item.workspaceId item.workId f

theorem returns_resultReadyMaterials {Q : List StoredFile → Database → Database → Prop}
    (item : PlaytestSession) (fileIds : List Uuid) :
    (resultReadyMaterials item.workspaceId item.workId fileIds).Returns Q s w ↔
      Q (readyFiles item fileIds w) s w := by
  rw [resultReadyMaterials]
  split
  · rename_i hempty
    rw [List.isEmpty_iff] at hempty
    simp [readyFiles, hempty]
  · exact Iff.rfl

/-- The materials `_materials` reads are those of the rows, if they are all there. -/
theorem readMaterials_reads (rows : List (Uuid × Bytes)) :
    (readMaterials rows).Within Eq fun found => found.map (fun m => (m.id, m.sha256)) = rows := by
  induction rows with
  | nil => exact Tx.Within.pure rfl
  | cons row rows ih =>
    have hread : (readMaterial row.1 row.2).Within Eq fun m => (m.id, m.sha256) = row := by
      refine Tx.Within.read_bind (fun _ => rfl) fun db => ?_
      refine (Tx.Within.require _ _).bind fun file hfile => ?_
      refine (Tx.Within.ensure' _ _).andThen fun _ => Tx.Within.pure ?_
      have hfound := List.find?_some hfile
      simp only [Bool.and_eq_true, beq_iff_eq] at hfound
      rw [hfound.1.1]
    refine hread.bind fun m hm => ih.bind fun found hfound => Tx.Within.pure ?_
    rw [List.map_cons, hm, hfound]

/-- Rows whose files are ready can be read. -/
theorem readMaterials_returns {rows : List (Uuid × Bytes)}
    (hnodup : (w.files.map (·.id)).Nodup)
    (hready : ∀ row ∈ rows, ∃ f ∈ w.files, f.id = row.1 ∧ f.sha256 = row.2 ∧
      f.kind = .material ∧ f.status = .ready)
    {Q : List MaterialData → Database → Database → Prop}
    (hQ : ∀ found, found.map (fun m => (m.id, m.sha256)) = rows → Q found s w) :
    (readMaterials rows).Returns Q s w := by
  induction rows generalizing Q with
  | nil => exact hQ [] rfl
  | cons row rows ih =>
    obtain ⟨f, hf, hid, hsha, hkind, hstatus⟩ := hready row List.mem_cons_self
    have hfind : w.files.find? (fun x => x.id == row.1 && x.kind == .material &&
        x.status == .ready) = some f := by
      refine Table.find?_eq_some_of_unique hf (by simp [hid, hkind, hstatus]) fun g hg hmatch => ?_
      simp only [Bool.and_eq_true, beq_iff_eq] at hmatch
      exact List.inj_on_of_nodup_map hnodup hg hf (hmatch.1.1.trans hid.symm)
    rw [readMaterials, Tx.bind_eq, Tx.returns_bind, readMaterial, Tx.bind_eq, Tx.returns_bind,
      Tx.returns_read, Tx.bind_eq, Tx.returns_bind, Tx.returns_require]
    refine ⟨f, hfind, ?_⟩
    rw [Tx.bind_eq, Tx.returns_bind, Tx.returns_ensure]
    refine ⟨by simpa using hsha, ?_⟩
    rw [Tx.pure_eq, Tx.returns_pure, Tx.bind_eq, Tx.returns_bind]
    refine ih (fun row' hrow' => hready row' (List.mem_cons_of_mem _ hrow')) fun found hfound => ?_
    exact hQ _ (by rw [List.map_cons, hfound, hid])

/-- The part of `save_result` after the checks. -/
def storeResult (actorId workspaceId workId sessionId : Uuid) (item : PlaytestSession)
    (draft : ResultDraft) : Program ResultData := do
  writeSession item (recordResult draft item.revision)
  deleteActuals item.id
  let files ← resultReadyMaterials item.workspaceId item.workId
    (draft.actualMaterial.elim [] (·.materialFileIds))
  writeSession item fun s => { s with revision := item.revision + 1 }
  insertActuals item.id files draft.actualParticipants
  Tx.commitNow
  readResult actorId workspaceId workId sessionId

/-- What `save_result` commits. -/
def resultStored (item : PlaytestSession) (draft : ResultDraft) (db : Database) : Database :=
  { db with
    sessions := Table.update (·.id == item.id)
      (fun s => { recordResult draft item.revision s with revision := item.revision + 1 })
      db.sessions
    actualMaterials :=
      (readyFiles item (draft.actualMaterial.elim [] (·.materialFileIds)) db).map
          (fun f => ⟨item.id, f.id, f.sha256⟩) ++
        Table.delete (·.sessionId == item.id) db.actualMaterials
    actualParticipants := draft.actualParticipants.map (participantRow item.id) ++
      Table.delete (·.sessionId == item.id) db.actualParticipants }

/-- A policy on a session does not look at the columns of its result. -/
theorem exitAllowsSessionWrite_update {db : Database} (sessionId : Uuid)
    {change : PlaytestSession → PlaytestSession} (p : PlaytestSession → Bool)
    (hchange : ∀ x, (change x).id = x.id ∧ (change x).workspaceId = x.workspaceId) :
    exitAllowsSessionWrite sessionId { db with sessions := Table.update p change db.sessions } =
      exitAllowsSessionWrite sessionId db := by
  simp only [exitAllowsSessionWrite, Table.update, List.any_map, Function.comp_def]
  congr 1
  funext x
  split
  · rw [(hchange x).1, (hchange x).2]
    rfl
  · rfl

theorem returns_writeSession {Q : Unit → Database → Database → Prop} (item : PlaytestSession)
    (change : PlaytestSession → PlaytestSession) :
    (writeSession item change).Returns Q s w ↔ exitAllowsSessionWrite item.id w = true ∧
      Q () s { w with sessions := Table.update (·.id == item.id) change w.sessions } :=
  Tx.returns_writeIf _ _ _

theorem returns_deleteActuals {Q : Unit → Database → Database → Prop} (sessionId : Uuid) :
    (deleteActuals sessionId).Returns Q s w ↔ exitAllowsSessionWrite sessionId w = true ∧
      Q () s { w with
        actualMaterials := Table.delete (·.sessionId == sessionId) w.actualMaterials
        actualParticipants := Table.delete (·.sessionId == sessionId) w.actualParticipants } := by
  rw [deleteActuals, Tx.bind_eq, Tx.returns_bind, updateRow, updateRow, Tx.returns_writeIf]
  refine and_congr_right fun hallow => ?_
  rw [Tx.returns_writeIf]
  exact and_iff_right hallow

theorem returns_insertActuals {Q : Unit → Database → Database → Prop} {sessionId : Uuid}
    (hallow : exitAllowsSessionWrite sessionId w = true) (files : List StoredFile)
    (participants : List ActualParticipantDraft) :
    (insertActuals sessionId files participants).Returns Q s w ↔ Q () s { w with
        actualMaterials := files.map (fun f => ⟨sessionId, f.id, f.sha256⟩) ++ w.actualMaterials
        actualParticipants := participants.map (participantRow sessionId) ++
          w.actualParticipants } := by
  rw [insertActuals, Tx.bind_eq, Tx.returns_bind, returns_insertRows]
  cases files with
  | nil =>
    rw [List.map_nil, returns_insertRows]
    cases participants <;> simp [hallow]
  | cons f files =>
    simp only [List.map_cons, ne_eq, reduceCtorEq, not_false_eq_true, true_and, false_and,
      false_or, hallow]
    rw [returns_insertRows]
    cases participants with
    | nil => simp
    | cons p participants =>
      simp only [List.map_cons, ne_eq, reduceCtorEq, not_false_eq_true, true_and, false_and,
        false_or]
      exact and_iff_right hallow

theorem returns_storeResult {Q : ResultData → Database → Database → Prop}
    (actorId workspaceId workId sessionId : Uuid) (item : PlaytestSession) (draft : ResultDraft) :
    (storeResult actorId workspaceId workId sessionId item draft).Returns Q s w ↔
      exitAllowsSessionWrite item.id w = true ∧
        (readResult actorId workspaceId workId sessionId).Returns Q (resultStored item draft w)
          (resultStored item draft w) := by
  rw [storeResult, Tx.bind_eq, Tx.returns_bind, returns_writeSession]
  refine and_congr_right fun hallow => ?_
  -- The columns of the result are written first, and no policy looks at them.
  have hkept : exitAllowsSessionWrite item.id { w with
      sessions := Table.update (·.id == item.id) (recordResult draft item.revision)
        w.sessions } = true := by
    rw [← hallow]
    exact exitAllowsSessionWrite_update _ _ fun x => ⟨rfl, rfl⟩
  have hkept' : exitAllowsSessionWrite item.id (resultStored item draft w) = true := by
    rw [← hallow]
    exact exitAllowsSessionWrite_update _ _ fun x => ⟨rfl, rfl⟩
  rw [Tx.bind_eq, Tx.returns_bind, returns_deleteActuals]
  refine (and_iff_right hkept).trans ?_
  rw [Tx.bind_eq, Tx.returns_bind, returns_resultReadyMaterials, Tx.bind_eq, Tx.returns_bind,
    returns_writeSession]
  refine (and_iff_right hkept).trans ?_
  rw [Tx.bind_eq, Tx.returns_bind,
    Table.update_update (g := recordResult draft item.revision) _ fun _ => rfl]
  refine (returns_insertActuals ?_ _ _).trans ?_
  · exact hkept'
  · exact Iff.rfl

/-! ### The checks -/

theorem returns_lockRevision {Q : PlaytestSession → Database → Database → Prop}
    (actorId workspaceId workId sessionId : Uuid) (expectedRevision : ℤ) :
    (lockRevision actorId workspaceId workId sessionId expectedRevision).Returns Q s w ↔
      (requireManagement actorId workspaceId workId true).Returns (fun _ _ _ => True) s w ∧
        ∃ item, findSession workspaceId workId sessionId w = some item ∧
          exitAllowsWrite none workspaceId w = true ∧ (item.revision : ℤ) = expectedRevision ∧
          Q item s w := by
  rw [lockRevision, Tx.bind_eq, (requireManagement_reads _ _ _ _).returns_bind,
    (requireManagement_reads _ _ _ _).returns_iff]
  simp only [true_and, and_true, exists_const]
  refine and_congr_right fun _ => ?_
  simp only [lockManagedSession, Tx.bind_eq, Tx.returns_bind, Tx.returns_selectForUpdate,
    Tx.returns_require, Tx.returns_ensure, Tx.pure_eq, Tx.returns_pure, beq_iff_eq,
    Option.filter_eq_some_iff, and_assoc]

/-- The checks of `_validate_result_draft` that do not concern the material. -/
def Checked (item : PlaytestSession) (draft : ResultDraft) (actualPlayMode : Option String)
    (participants : List ActualParticipantDraft) (db : Database) : Prop :=
  validNumbers draft [] = true ∧ optionalText 160 draft.actualPlayMode = some actualPlayMode ∧
    validatedParticipants ((db.participants.filter (·.sessionId == item.id)).map (·.accountId))
      [] []
      draft.actualParticipants = some participants ∧
    validNumbers draft participants = true

theorem returns_validateResultDraft {Q : ResultDraft → Database → Database → Prop}
    (item : PlaytestSession) (draft : ResultDraft) :
    (validateResultDraft item draft).Returns Q s w ↔ ∃ mode participants,
      Checked item draft mode participants w ∧
        (validatedMaterial? item draft.actualMaterial).Returns (fun material s' w' =>
          Q { draft with
            actualMaterial := material
            actualParticipants := participants
            actualPlayMode := mode } s' w') s w := by
  simp only [validateResultDraft, Tx.bind_eq, Tx.returns_bind, Tx.returns_ensure,
    Tx.returns_require, Tx.returns_read, Tx.pure_eq, Tx.returns_pure, Checked]
  constructor
  · rintro ⟨hnumbers, mode, hmode, participants, hparticipants, hcovered, hmaterial⟩
    exact ⟨mode, participants, ⟨hnumbers, hmode, hparticipants, hcovered⟩, hmaterial⟩
  · rintro ⟨mode, participants, ⟨hnumbers, hmode, hparticipants, hcovered⟩, hmaterial⟩
    exact ⟨hnumbers, mode, hmode, participants, hparticipants, hcovered, hmaterial⟩

/-- What was played with differs from what was planned. -/
def materialChanged (item : PlaytestSession) (ruleName : String) (ruleDescription : Option String)
    (ruleContent : String) (scheduled actual : List (Uuid × Bytes)) : Bool :=
  ruleName != item.ruleName || ruleDescription != item.ruleDescription ||
    ruleContent != item.ruleContent || !(actual.all (scheduled.contains ·)) ||
    !(scheduled.all (actual.contains ·))

/-- The planned materials of a session, with their digests. -/
def plannedMaterials (item : PlaytestSession) (db : Database) : List (Uuid × Bytes) :=
  (db.sessionMaterials.filter (·.sessionId == item.id)).map fun m => (m.fileId, m.sha256)

theorem returns_validatedMaterial {Q : ActualMaterialDraft → Database → Database → Prop}
    (item : PlaytestSession) (draft : ActualMaterialDraft) :
    (validatedMaterial item draft).Returns Q s w ↔
      ∃ ruleName, requiredText 160 draft.ruleName = some ruleName ∧
      ∃ ruleDescription, optionalText 4000 draft.ruleDescription = some ruleDescription ∧
      ∃ ruleContent, requiredText 20000 draft.ruleContent = some ruleContent ∧
      draft.materialFileIds.Nodup ∧
      (readyFiles item draft.materialFileIds w).length = draft.materialFileIds.length ∧
      (materials item.id).Returns (fun _ _ _ => True) s w ∧
      ∃ changeReason, optionalText 4000 draft.changeReason = some changeReason ∧
      (materialChanged item ruleName ruleDescription ruleContent (plannedMaterials item w)
        ((readyFiles item draft.materialFileIds w).map fun f => (f.id, f.sha256)) = true →
          changeReason ≠ none) ∧
      Q ⟨ruleName, ruleDescription, ruleContent,
        (readyFiles item draft.materialFileIds w).map (·.id),
        if materialChanged item ruleName ruleDescription ruleContent (plannedMaterials item w)
          ((readyFiles item draft.materialFileIds w).map fun f => (f.id, f.sha256))
      then changeReason
          else none⟩ s w := by
  simp only [validatedMaterial, Tx.bind_eq, Tx.returns_bind, Tx.returns_ensure,
    Tx.returns_require, Tx.returns_read, Tx.pure_eq, Tx.returns_pure, returns_resultReadyMaterials,
    materials, decide_eq_true_eq, beq_iff_eq]
  refine exists_congr fun ruleName => and_congr_right fun _ => exists_congr fun description =>
    and_congr_right fun _ => exists_congr fun content => and_congr_right fun _ =>
      and_congr_right fun _ => and_congr_right fun _ => ?_
  refine (readMaterials_reads _).returns_iff_and fun found hfound => exists_congr fun reason =>
    and_congr_right fun _ => and_congr ?_ ?_
  · rw [hfound]
    change (!(materialChanged item ruleName description content (plannedMaterials item w) _ &&
      reason.isNone)) = true ↔ _
    cases reason <;> simp
  · rw [hfound]
    exact Iff.rfl

/-! ### The whole call -/

theorem materials_reads (sessionId : Uuid) : (materials sessionId).Within Eq fun _ => True :=
  Tx.Within.read_bind (fun _ => rfl) fun _ =>
    (readMaterials_reads _).mono (fun _ _ => id) fun _ _ => trivial

theorem sessionData_reads (item : PlaytestSession) : (sessionData item).Within Eq fun _ => True :=
  Tx.Within.read_bind (fun _ => rfl) fun _ => (materials_reads _).andThen fun _ =>
    Tx.Within.read_bind (fun _ => rfl) fun _ => Tx.Within.pure trivial

theorem actualMaterials_reads (item : PlaytestSession) :
    (actualMaterials item).Within Eq fun _ => True := by
  rw [actualMaterials]
  split
  · exact Tx.Within.pure trivial
  · refine (Tx.Within.require' _ _).andThen fun _ => (Tx.Within.require' _ _).andThen fun _ => ?_
    exact Tx.Within.read_bind (fun _ => rfl) fun _ => (readMaterials_reads _).andThen fun _ =>
      Tx.Within.pure trivial

/-- When `read_result` finds what it needs. -/
theorem returns_readResult {Q : ResultData → Database → Database → Prop} {R : Prop}
    (hQ : ∀ data, Q data s w ↔ R) (actorId workspaceId workId sessionId : Uuid) :
    (readResult actorId workspaceId workId sessionId).Returns Q s w ↔
      ManagesPlaytests actorId workspaceId workId w ∧
        ∃ item, findSession workspaceId workId sessionId w = some item ∧ item.status = .started ∧
          (sessionData item).Returns (fun _ _ _ => True) s w ∧
          (actualMaterials item).Returns (fun _ _ _ => True) s w ∧ R := by
  rw [readResult, Tx.returns_mapError, Tx.bind_eq, Tx.returns_bind, returns_requireManagement]
  refine and_congr_right fun _ => ?_
  simp only [Tx.bind_eq, Tx.returns_bind, Tx.returns_read, Tx.returns_require, requireStarted,
    Tx.returns_ensure, beq_iff_eq, Tx.pure_eq, Tx.returns_pure]
  refine exists_congr fun item => and_congr_right fun _ => and_congr_right fun _ => ?_
  refine (sessionData_reads item).returns_iff_and fun data _ => ?_
  exact (actualMaterials_reads item).returns_iff_and fun _ _ => hQ _

/-- When `save_result` is accepted. -/
theorem returns_saveResult {Q : ResultData → Database → Database → Prop}
    (actorId workspaceId workId sessionId : Uuid) (expectedRevision : ℤ) (draft : ResultDraft) :
    (saveResult actorId workspaceId workId sessionId expectedRevision draft).Returns Q s w ↔
      0 < expectedRevision ∧
      (requireManagement actorId workspaceId workId true).Returns (fun _ _ _ => True) s w ∧
      ∃ item, findSession workspaceId workId sessionId w = some item ∧
        exitAllowsWrite none workspaceId w = true ∧ (item.revision : ℤ) = expectedRevision ∧
        item.status = .started ∧ ∃ mode participants, Checked item draft mode participants w ∧
          (validatedMaterial? item draft.actualMaterial).Returns (fun material s' w' =>
            (storeResult actorId workspaceId workId sessionId item { draft with
              actualMaterial := material
              actualParticipants := participants
              actualPlayMode := mode }).Returns Q s' w') s w := by
  rw [saveResult, Tx.returns_mapError, Tx.bind_eq, Tx.returns_bind, Tx.returns_ensure,
    decide_eq_true_eq]
  refine and_congr_right fun _ => ?_
  rw [Tx.bind_eq, Tx.returns_bind, returns_lockRevision]
  refine and_congr_right fun _ => exists_congr fun item => and_congr_right fun _ =>
    and_congr_right fun _ => and_congr_right fun _ => ?_
  rw [Tx.bind_eq, Tx.returns_bind, requireStarted, Tx.returns_ensure, beq_iff_eq]
  refine and_congr_right fun _ => ?_
  rw [Tx.bind_eq, Tx.returns_bind, returns_validateResultDraft]
  exact Iff.rfl

/-! ## The planned version -/

/-- The planned files of a session are there. Identifiers of files, and of the planned files of a
session, are keys; a file that is ready stays so, with the digest it had. -/
structure FixedMaterials (db : Database) (item : PlaytestSession) : Prop where
  files : (db.files.map (·.id)).Nodup
  planned : ((plannedMaterials item db).map (·.1)).Nodup
  ready : ∀ row ∈ plannedMaterials item db, ∃ f ∈ db.files, f.id = row.1 ∧ f.sha256 = row.2 ∧
    Works.isReadyMaterial item.workspaceId item.workId f = true

/-- The planned version, as a draft of what was played with. -/
def verbatim (item : PlaytestSession) (materialFileIds : List Uuid) : ActualMaterialDraft where
  ruleName := item.ruleName
  ruleDescription := item.ruleDescription
  ruleContent := item.ruleContent
  materialFileIds := materialFileIds
  changeReason := none

variable {db : Database} {item : PlaytestSession} {fileIds : List Uuid}

theorem mem_readyFiles {f : StoredFile} : f ∈ readyFiles item fileIds db ↔
    f ∈ db.files ∧ f.id ∈ fileIds ∧
      Works.isReadyMaterial item.workspaceId item.workId f = true := by
  simp [readyFiles]

theorem nodup_readyFiles (h : (db.files.map (·.id)).Nodup) :
    ((readyFiles item fileIds db).map (·.id)).Nodup :=
  h.sublist (List.filter_sublist.map _)

/-- If as many files are found as were asked for, they are those. -/
theorem mem_of_length_readyFiles (h : (db.files.map (·.id)).Nodup)
    (hlength : (readyFiles item fileIds db).length = fileIds.length) {id : Uuid}
    (hid : id ∈ fileIds) : ∃ f ∈ readyFiles item fileIds db, f.id = id := by
  have hsub : ((readyFiles item fileIds db).map (·.id)) ⊆ fileIds := by
    intro x hx
    obtain ⟨f, hf, rfl⟩ := List.mem_map.1 hx
    exact (mem_readyFiles.1 hf).2.1
  have hperm := (List.subperm_of_subset (nodup_readyFiles h) hsub).perm_of_length_le
    (by rw [List.length_map, hlength])
  simpa using hperm.mem_iff.2 hid

/-- The planned files are found, with the digests they had. -/
theorem FixedMaterials.found (h : FixedMaterials db item)
    (hids : fileIds.Perm ((plannedMaterials item db).map (·.1))) :
    (readyFiles item fileIds db).length = fileIds.length ∧
      ∀ row, row ∈ (readyFiles item fileIds db).map (fun f => (f.id, f.sha256)) ↔
        row ∈ plannedMaterials item db := by
  have hmem : ∀ row, row ∈ (readyFiles item fileIds db).map (fun f => (f.id, f.sha256)) ↔
      row ∈ plannedMaterials item db := by
    intro row
    constructor
    · intro hrow
      obtain ⟨f, hf, rfl⟩ := List.mem_map.1 hrow
      obtain ⟨hfile, hid, -⟩ := mem_readyFiles.1 hf
      obtain ⟨planned, hplanned, hplannedId⟩ := List.mem_map.1 (hids.mem_iff.1 hid)
      obtain ⟨f', hf', hid', hsha, -⟩ := h.ready planned hplanned
      obtain rfl := List.inj_on_of_nodup_map h.files hf' hfile (hid'.trans hplannedId)
      have hpair : (f'.id, f'.sha256) = planned := Prod.ext hid' hsha
      exact hpair ▸ hplanned
    · intro hrow
      obtain ⟨f, hf, hid, hsha, hready⟩ := h.ready row hrow
      have hasked : f.id ∈ fileIds :=
        hids.mem_iff.2 (List.mem_map.2 ⟨row, hrow, hid.symm⟩)
      exact List.mem_map.2 ⟨f, mem_readyFiles.2 ⟨hf, hasked, hready⟩, Prod.ext hid hsha⟩
  refine ⟨?_, hmem⟩
  have hperm : ((readyFiles item fileIds db).map (·.id)).Perm fileIds := by
    refine (List.perm_ext_iff_of_nodup (nodup_readyFiles h.files)
      (hids.nodup_iff.2 h.planned)).2 fun id => ?_
    rw [hids.mem_iff, List.mem_map, List.mem_map]
    constructor
    · rintro ⟨f, hf, rfl⟩
      exact ⟨_, (hmem _).1 (List.mem_map.2 ⟨f, hf, rfl⟩), rfl⟩
    · rintro ⟨row, hrow, rfl⟩
      obtain ⟨f, hf, rfl⟩ := List.mem_map.1 ((hmem row).2 hrow)
      exact ⟨f, hf, rfl⟩
  simpa using hperm.length_eq

/-- What is ready can be read, whatever has been recorded. -/
theorem FixedMaterials.readable (h : FixedMaterials db item) {w : Database}
    (hfiles : w.files = db.files) {rows : List (Uuid × Bytes)}
    (hrows : ∀ row ∈ rows, row ∈ plannedMaterials item db)
    {Q : List MaterialData → Database → Database → Prop} (hQ : ∀ found, Q found s w) :
    (readMaterials rows).Returns Q s w := by
  refine readMaterials_returns (hfiles ▸ h.files) (fun row hrow => ?_) fun found _ => hQ found
  obtain ⟨f, hf, hid, hsha, hready⟩ := h.ready row (hrows row hrow)
  simp only [Works.isReadyMaterial, Bool.and_eq_true, beq_iff_eq] at hready
  exact ⟨f, hfiles ▸ hf, hid, hsha, hready.1.2, hready.2⟩

/-- The planned version is not a changed one. -/
theorem materialChanged_verbatim (h : FixedMaterials db item)
    (hids : fileIds.Perm ((plannedMaterials item db).map (·.1))) :
    materialChanged item item.ruleName item.ruleDescription item.ruleContent
      (plannedMaterials item db)
      ((readyFiles item fileIds db).map fun f => (f.id, f.sha256)) = false := by
  have hsame := (h.found hids).2
  simp only [materialChanged, bne_self_eq_false, Bool.false_or, Bool.or_eq_false_iff,
    Bool.not_eq_false', List.all_eq_true, List.contains_iff_mem]
  exact ⟨fun row hrow => (hsame row).1 hrow, fun row hrow => (hsame row).2 hrow⟩

/-- The session as `save_result` leaves it. -/
def resultOf (item : PlaytestSession) (draft : ResultDraft) : PlaytestSession :=
  { recordResult draft item.revision item with revision := item.revision + 1 }

theorem findSession_resultStored {workspaceId workId sessionId : Uuid} {draft : ResultDraft}
    (hitem : findSession workspaceId workId sessionId db = some item) :
    findSession workspaceId workId sessionId (resultStored item draft db) =
      some (resultOf item draft) := by
  rw [findSession] at hitem ⊢
  rw [resultStored, Table.update, List.find?_map]
  have hkeys : ((fun s : PlaytestSession => s.id == sessionId && s.workspaceId == workspaceId &&
      s.workId == workId) ∘ fun s : PlaytestSession => if s.id == item.id then
        { recordResult draft item.revision s with revision := item.revision + 1 } else s) =
      fun s => s.id == sessionId && s.workspaceId == workspaceId && s.workId == workId := by
    funext s
    rw [Function.comp_apply]
    split <;> rfl
  rw [hkeys, hitem, Option.map_some, if_pos (beq_self_eq_true _)]
  rfl

/-- The session itself can be read back. -/
theorem FixedMaterials.sessionData (h : FixedMaterials db item) (draft : ResultDraft) :
    (sessionData (resultOf item draft)).Returns (fun _ _ _ => True) s
      (resultStored item draft db) := by
  rw [Playtests.sessionData, Tx.bind_eq, Tx.returns_bind, Tx.returns_read, Tx.bind_eq,
    Tx.returns_bind, materials, Tx.bind_eq, Tx.returns_bind, Tx.returns_read]
  refine h.readable (w := resultStored item draft db) rfl (fun row => id) fun found => ?_
  trivial

/-- What `read_result` needs of a session whose result is the planned version. -/
theorem FixedMaterials.readResult (h : FixedMaterials db item)
    {actorId workspaceId workId sessionId : Uuid}
    (hitem : findSession workspaceId workId sessionId db = some item)
    (hstarted : item.status = .started)
    (hmanages : ManagesPlaytests actorId workspaceId workId db) {draft : ResultDraft}
    {material : ActualMaterialDraft} (hmaterial : draft.actualMaterial = some material)
    (hfiles : ∀ row, row ∈ (readyFiles item material.materialFileIds db).map
      (fun f => (f.id, f.sha256)) → row ∈ plannedMaterials item db)
    {Q : ResultData → Database → Database → Prop}
    (hQ : ∀ data, Q data (resultStored item draft db) (resultStored item draft db)) :
    (readResult actorId workspaceId workId sessionId).Returns Q (resultStored item draft db)
      (resultStored item draft db) := by
  refine (returns_readResult (R := True) (fun data => iff_true_intro (hQ data)) _ _ _ _).2
    ⟨hmanages, resultOf item draft, findSession_resultStored hitem, hstarted, ?_, ?_, trivial⟩
  · exact h.sessionData draft
  · have hrecorded : (resultOf item draft).actualMaterialRecorded = true := by
      simp [resultOf, recordResult, hmaterial]
    have hname : (resultOf item draft).actualRuleName = some material.ruleName := by
      simp [resultOf, recordResult, hmaterial]
    have hcontent : (resultOf item draft).actualRuleContent = some material.ruleContent := by
      simp [resultOf, recordResult, hmaterial]
    have hrows : (resultStored item draft db).actualMaterials.filter
        (fun m => m.sessionId == (resultOf item draft).id) =
        (readyFiles item material.materialFileIds db).map
          fun f => ⟨item.id, f.id, f.sha256⟩ := by
      have hid : (resultOf item draft).id = item.id := rfl
      rw [hid, resultStored, hmaterial, List.filter_append, Table.delete, List.filter_filter]
      simp
    rw [actualMaterials, hrecorded, hname, hcontent]
    simp only [Bool.not_true, Bool.false_eq_true, if_false, Tx.bind_eq, Tx.returns_bind,
      Tx.returns_require, Tx.returns_read, Option.some.injEq, exists_eq_left']
    rw [hrows, List.map_map]
    refine h.readable (w := resultStored item draft db) rfl
      (fun row hrow => hfiles row hrow) fun found => ?_
    trivial

/-- `save_result` has returned. -/
def Accepted (actorId workspaceId workId sessionId : Uuid) (expectedRevision : ℤ)
    (draft : ResultDraft) (db : Database) : Prop :=
  ∃ data, ((saveResult actorId workspaceId workId sessionId expectedRevision draft).exec db).2 =
    .ok data

/-- The rule text or the set of files, as they are normalised, differ from what was planned. -/
def Differs (item : PlaytestSession) (material : ActualMaterialDraft) (db : Database) : Prop :=
  strip material.ruleName ≠ item.ruleName ∨
    (material.ruleDescription.bind fun d => if (strip d).isEmpty then none else some (strip d)) ≠
      item.ruleDescription ∨
    strip material.ruleContent ≠ item.ruleContent ∨
    ¬ ∀ id, id ∈ material.materialFileIds ↔ id ∈ (plannedMaterials item db).map (·.1)

/-- A reason that is not blank. -/
def HasReason (material : ActualMaterialDraft) : Prop :=
  ∃ reason, material.changeReason = some reason ∧ (strip reason).isEmpty = false

variable {actorId workspaceId workId sessionId : Uuid} {expectedRevision : ℤ}

theorem optionalText_eq {limit : ℕ} {value text : Option String}
    (h : optionalText limit value = some text) :
    text = value.bind fun v => if (strip v).isEmpty then none else some (strip v) := by
  cases value with
  | none =>
    rw [optionalText_none] at h
    exact (Option.some.inj h).symm
  | some v => exact (optionalText_some_eq_some.1 h).2

/-- **A changed version is accepted only with a reason**, whatever its texts. -/
theorem reason_of_accepted {draft : ResultDraft} {material : ActualMaterialDraft}
    (hfiles : (db.files.map (·.id)).Nodup)
    (hitem : findSession workspaceId workId sessionId db = some item)
    (hmaterial : draft.actualMaterial = some material)
    (haccepted : Accepted actorId workspaceId workId sessionId expectedRevision draft db)
    (hdiffers : Differs item material db) : HasReason material := by
  obtain ⟨data, hdata⟩ := haccepted
  have hreturns := Tx.returns_of_exec (Q := fun _ _ _ => True) hdata fun _ => trivial
  obtain ⟨-, -, item', hitem', -, -, -, mode, participants, -, hchecks⟩ :=
    (returns_saveResult _ _ _ _ _ _).1 hreturns
  obtain rfl := Option.some.inj (hitem.symm.trans hitem')
  rw [hmaterial, validatedMaterial?, Tx.bind_eq, Tx.returns_bind, returns_validatedMaterial]
    at hchecks
  obtain ⟨name, hname, description, hdescription, content, hcontent, hnodup, hlength, -, reason,
    hreason, hchanged, -⟩ := hchecks
  rw [optionalText_eq hreason] at hchanged
  cases hgiven : material.changeReason.bind fun v => if (strip v).isEmpty then none
    else some (strip v) with
  | some text =>
    obtain ⟨value, hvalue, htext⟩ := Option.bind_eq_some_iff.1 hgiven
    refine ⟨value, hvalue, ?_⟩
    by_contra hblank
    rw [if_pos (by simpa using hblank)] at htext
    nomatch htext
  | none =>
    have hsame : materialChanged item name description content (plannedMaterials item db)
        ((readyFiles item material.materialFileIds db).map fun f => (f.id, f.sha256)) = false := by
      by_contra hchange
      exact hchanged (by simpa using hchange) hgiven
    simp only [materialChanged, Bool.or_eq_false_iff, bne_eq_false_iff_eq, Bool.not_eq_false',
      List.all_eq_true, List.contains_iff_mem] at hsame
    obtain ⟨⟨⟨⟨hsameName, hsameDescription⟩, hsameContent⟩, hplayed⟩, hplanned⟩ := hsame
    refine absurd hdiffers ?_
    rintro (hother | hother | hother | hother)
    · exact hother ((requiredText_eq_some.1 hname).1.symm.trans hsameName)
    · exact hother ((optionalText_eq hdescription).symm.trans hsameDescription)
    · exact hother ((requiredText_eq_some.1 hcontent).1.symm.trans hsameContent)
    · refine hother fun id => ⟨fun hid => ?_, fun hid => ?_⟩
      · obtain ⟨f, hf, rfl⟩ := mem_of_length_readyFiles hfiles hlength hid
        exact List.mem_map.2 ⟨_, hplayed _ (List.mem_map.2 ⟨f, hf, rfl⟩), rfl⟩
      · obtain ⟨row, hrow, rfl⟩ := List.mem_map.1 hid
        obtain ⟨f, hf, rfl⟩ := List.mem_map.1 (hplanned row hrow)
        exact (mem_readyFiles.1 hf).2.1

/-- The endpoint of the results takes the planned version of a session as it is, up to the length
of its content. -/
theorem actualMaterialRequest_verbatim {request : RuleTexts} (h : Snapshot request item)
    (fileIds : List Uuid) : actualMaterialRequest (verbatim item fileIds) =
      if item.ruleContent.length ≤ 20000 then some (verbatim item fileIds) else none := by
  obtain ⟨hname, hcontent, hnamed, hnameLength, hfilled, -, hdescription⟩ := h.texts
  have hstripName : strip item.ruleName = item.ruleName := by rw [hname, strip_strip]
  have hstripContent : strip item.ruleContent = item.ruleContent := by rw [hcontent, strip_strip]
  have hnameField : requiredField 160 item.ruleName = some item.ruleName :=
    requiredField_eq_some.2 ⟨one_le_length hnamed, hnameLength, by rwa [hstripName],
      hstripName.symm⟩
  have hdescriptionField : item.ruleDescription.map strip = item.ruleDescription := by
    cases hd : item.ruleDescription with
    | none => rfl
    | some d => rw [Option.map_some, (hdescription d hd).2.1]
  have hbound : item.ruleDescription.all (·.length ≤ 4000) = true := by
    cases hd : item.ruleDescription with
    | none => rfl
    | some d =>
      have := (hdescription d hd).2.2
      simpa using by omega
  split
  · rename_i hlength
    have hcontentField : requiredField 20000 item.ruleContent = some item.ruleContent :=
      requiredField_eq_some.2 ⟨one_le_length hfilled, hlength, by rwa [hstripContent],
        hstripContent.symm⟩
    simp [actualMaterialRequest, verbatim, hnameField, hcontentField, hdescriptionField, hbound]
  · rename_i hlong
    have hcontentField : requiredField 20000 item.ruleContent = none := by
      refine Option.eq_none_iff_forall_ne_some.2 fun text htext => hlong ?_
      exact (requiredField_eq_some.1 htext).2.1
    simp [actualMaterialRequest, verbatim, hnameField, hcontentField]

/-- The checks of `save_result` leave the planned version as it is. -/
theorem returns_verbatim {request : RuleTexts} (hsnapshot : Snapshot request item)
    (hfixed : FixedMaterials db item) (hlength : item.ruleContent.length ≤ 20000)
    (hids : fileIds.Perm ((plannedMaterials item db).map (·.1)))
    {Q : ActualMaterialDraft → Database → Database → Prop}
    (hQ : Q (verbatim item ((readyFiles item fileIds db).map (·.id))) s db) :
    (validatedMaterial item (verbatim item fileIds)).Returns Q s db := by
  obtain ⟨hname, hcontent, hnamed, hnameLength, hfilled, -, hdescription⟩ := hsnapshot.texts
  have hstripName : strip item.ruleName = item.ruleName := by rw [hname, strip_strip]
  have hstripContent : strip item.ruleContent = item.ruleContent := by rw [hcontent, strip_strip]
  have hdescriptionText : optionalText 4000 item.ruleDescription = some item.ruleDescription := by
    cases hd : item.ruleDescription with
    | none => rw [optionalText_none]
    | some d =>
      obtain ⟨hempty, hstrip, hbound⟩ := hdescription d hd
      exact optionalText_some_eq_some.2 ⟨by rw [hstrip]; omega, by simp [hstrip, hempty]⟩
  have hnameText : requiredText 160 item.ruleName = some item.ruleName :=
    requiredText_eq_some.2 ⟨hstripName.symm, by rwa [hstripName], by rwa [hstripName]⟩
  have hcontentText : requiredText 20000 item.ruleContent = some item.ruleContent :=
    requiredText_eq_some.2 ⟨hstripContent.symm, by rwa [hstripContent], by rwa [hstripContent]⟩
  refine (returns_validatedMaterial _ _).2 ⟨item.ruleName, hnameText, item.ruleDescription,
    hdescriptionText, item.ruleContent, hcontentText, hids.nodup_iff.2 hfixed.planned,
    (hfixed.found hids).1, ?_, none, optionalText_none _, ?_, ?_⟩
  · rw [materials, Tx.bind_eq, Tx.returns_bind, Tx.returns_read]
    exact hfixed.readable rfl (fun row => id) fun found => trivial
  · rw [show (verbatim item fileIds).materialFileIds = fileIds from rfl,
      materialChanged_verbatim hfixed hids]
    simp
  · rw [show (verbatim item fileIds).materialFileIds = fileIds from rfl,
      materialChanged_verbatim hfixed hids]
    exact hQ

/-- The planned version is accepted without a reason, and none is stored. -/
theorem verbatim_accepted {request : RuleTexts} {draft : ResultDraft}
    (hsnapshot : Snapshot request item) (hfixed : FixedMaterials db item)
    (hitem : findSession workspaceId workId sessionId db = some item)
    (hrest : Accepted actorId workspaceId workId sessionId expectedRevision
      { draft with actualMaterial := none } db)
    (hlength : item.ruleContent.length ≤ 20000)
    (hids : fileIds.Perm ((plannedMaterials item db).map (·.1))) :
    (saveResult actorId workspaceId workId sessionId expectedRevision
      { draft with actualMaterial := some (verbatim item fileIds) }).Returns
        (fun _ after _ => ∀ s ∈ after.sessions, s.id = sessionId →
          s.actualMaterialRecorded = true ∧ s.actualMaterialChangeReason = none) db db := by
  obtain ⟨data, hdata⟩ := hrest
  have hreturns := Tx.returns_of_exec (Q := fun _ _ _ => True) hdata fun _ => trivial
  obtain ⟨hpos, hmanage, item', hitem', hallow, hrevision, hstarted, mode, participants, hchecked,
    hstored⟩ := (returns_saveResult _ _ _ _ _ _).1 hreturns
  obtain rfl := Option.some.inj (hitem.symm.trans hitem')
  obtain ⟨hwrite, hread⟩ := (returns_storeResult _ _ _ _ _ _).1 hstored
  obtain ⟨hmanages, -⟩ := (returns_readResult (R := True) (fun _ => Iff.rfl) _ _ _ _).1 hread
  refine (returns_saveResult _ _ _ _ _ _).2 ⟨hpos, hmanage, item, hitem, hallow, hrevision,
    hstarted, mode, participants, hchecked, ?_⟩
  rw [validatedMaterial?, Tx.bind_eq, Tx.returns_bind]
  refine returns_verbatim hsnapshot hfixed hlength hids ?_
  refine (returns_storeResult _ _ _ _ _ _).2 ⟨hwrite, ?_⟩
  have hid : item.id = sessionId := by
    have hfound := List.find?_some hitem
    simp only [Bool.and_eq_true, beq_iff_eq] at hfound
    exact hfound.1.1
  refine hfixed.readResult hitem hstarted hmanages rfl (fun row hrow => ?_) fun data x hx hxid => ?_
  · -- The files are looked up twice, and found again.
    obtain ⟨f, hf, rfl⟩ := List.mem_map.1 hrow
    obtain ⟨hfile, hagain, hready⟩ := mem_readyFiles.1 hf
    obtain ⟨f', hf', hsame⟩ := List.mem_map.1 hagain
    refine ((hfixed.found hids).2 _).1
      (List.mem_map.2 ⟨f, mem_readyFiles.2 ⟨hfile, ?_, hready⟩, rfl⟩)
    exact hsame ▸ (mem_readyFiles.1 hf').2.1
  · rcases Table.mem_update.1 hx with ⟨x₀, -, -, rfl⟩ | ⟨-, hother⟩
    · exact ⟨rfl, rfl⟩
    · rw [hxid, hid, beq_self_eq_true] at hother
      nomatch hother

/-- The property: the planned version is taken by the endpoint and by `save_result`, which stores
no reason, and a changed version needs one. -/
def PlannedNeedsNoReason (actorId workspaceId workId sessionId : Uuid) (expectedRevision : ℤ)
    (draft : ResultDraft) (item : PlaytestSession) (db : Database) : Prop :=
  (∀ fileIds : List Uuid, fileIds.Perm ((plannedMaterials item db).map (·.1)) →
    actualMaterialRequest (verbatim item fileIds) = some (verbatim item fileIds) ∧
    Accepted actorId workspaceId workId sessionId expectedRevision
      { draft with actualMaterial := some (verbatim item fileIds) } db ∧
    ∀ s ∈ ((saveResult actorId workspaceId workId sessionId expectedRevision
        { draft with actualMaterial := some (verbatim item fileIds) }).exec db).1.sessions,
      s.id = sessionId → s.actualMaterialRecorded = true ∧ s.actualMaterialChangeReason = none) ∧
  ∀ material, Accepted actorId workspaceId workId sessionId expectedRevision
    { draft with actualMaterial := some material } db → Differs item material db →
      HasReason material

/-- Longer rules are not accepted as they were planned. -/
theorem length_of_accepted {draft : ResultDraft}
    (hitem : findSession workspaceId workId sessionId db = some item)
    (hstrip : strip item.ruleContent = item.ruleContent)
    (haccepted : Accepted actorId workspaceId workId sessionId expectedRevision
      { draft with actualMaterial := some (verbatim item fileIds) } db) :
    item.ruleContent.length ≤ 20000 := by
  obtain ⟨data, hdata⟩ := haccepted
  have hreturns := Tx.returns_of_exec (Q := fun _ _ _ => True) hdata fun _ => trivial
  obtain ⟨-, -, item', hitem', -, -, -, mode, participants, -, hchecks⟩ :=
    (returns_saveResult _ _ _ _ _ _).1 hreturns
  obtain rfl := Option.some.inj (hitem.symm.trans hitem')
  dsimp only at hchecks
  rw [validatedMaterial?, Tx.bind_eq, Tx.returns_bind, returns_validatedMaterial] at hchecks
  obtain ⟨name, -, description, -, content, hcontent, -⟩ := hchecks
  have hbound := (requiredText_eq_some.1 hcontent).2.2
  rwa [verbatim, hstrip] at hbound

/-- **The planned version needs no reason exactly when its content is no longer than a result may
have**: for a session whose rules come from an accepted request, whose planned files are there, and
whose result is accepted when it leaves the material out. -/
theorem planned_version_iff {request : RuleTexts} {draft : ResultDraft}
    (hsnapshot : Snapshot request item) (hfixed : FixedMaterials db item)
    (hitem : findSession workspaceId workId sessionId db = some item)
    (hrest : Accepted actorId workspaceId workId sessionId expectedRevision
      { draft with actualMaterial := none } db) :
    PlannedNeedsNoReason actorId workspaceId workId sessionId expectedRevision draft item db ↔
      (strip request.ruleContent).length ≤ 20000 := by
  have hcontent := hsnapshot.texts.2.1
  rw [← hcontent]
  constructor
  · rintro ⟨hplanned, -⟩
    refine length_of_accepted hitem ?_ (hplanned _ (List.Perm.refl _)).2.1
    rw [hcontent, strip_strip]
  · intro hlength
    refine ⟨fun fileIds hids => ⟨?_, ?_⟩, fun material haccepted hdiffers => ?_⟩
    · rw [actualMaterialRequest_verbatim hsnapshot, if_pos hlength]
    · obtain ⟨data, -, hdata, hstored⟩ := Tx.exec_of_returns
        (verbatim_accepted hsnapshot hfixed hitem hrest hlength hids)
      exact ⟨⟨data, hdata⟩, hstored⟩
    · exact reason_of_accepted hfixed.files hitem rfl haccepted hdiffers

/-! ### Rules of 20 001 characters -/

/-- A request whose content is one character, this many times. -/
def requestOf (length : ℕ) : RuleTexts :=
  ⟨"rules", none, String.ofList (List.replicate length 'a')⟩

/-- A started session of the work `20` with those rules. -/
def sessionOf (length : ℕ) : PlaytestSession where
  id := 40
  planId := 30
  workspaceId := 10
  workId := 20
  scheduledAt := 5
  location := "table"
  capacity := 4
  status := .started
  revision := 2
  startedAt := some 5
  observationGoals := "pace"
  recordingMethod := "notes"
  workName := "game"
  ruleName := "rules"
  ruleDescription := none
  ruleContent := String.ofList (List.replicate length 'a')
  actualHeadcount := none
  actualDurationMinutes := none
  completionStatus := none
  actualPlayMode := none
  actualMaterialRecorded := false
  actualRuleName := none
  actualRuleDescription := none
  actualRuleContent := none
  actualMaterialChangeReason := none

/-- The work, its maintainer and the session, with one planned file. -/
def plannedWith (length : ℕ) : Database :=
  { Database.empty with
    workspaces := [⟨10, "club", none, 1, 1, none, none, none, none, none⟩]
    members := [⟨10, 1⟩]
    accesses := [⟨20, 10, 1, .maintainer⟩]
    works := [⟨20, 10, "game", "text", "draft", "fun", 2, 4, 30, 2, some "rules", none,
      some (String.ofList (List.replicate length 'a'))⟩]
    files :=
      [⟨50, 10, 20, 1, "board", "image/png", "image/png", 3, [7], "key", .ready, .material, 4,
      some 4⟩]
    sessions := [sessionOf length]
    sessionMaterials := [⟨40, 50, [7]⟩] }

/-- A result that says nothing. -/
def emptyResult : ResultDraft :=
  ⟨none, none, none, none, [], none⟩

theorem snapshot_sessionOf {length : ℕ} (hpos : 1 ≤ length) (hlength : length ≤ 50000) :
    Snapshot (requestOf length) (sessionOf length) := by
  have hstrip : strip (String.ofList (List.replicate length 'a')) =
      String.ofList (List.replicate length 'a') := strip_replicate (by decide) length
  have hname : strip "rules" = "rules" := by decide +kernel
  have hcount : (String.ofList (List.replicate length 'a')).length = length := by
    rw [String.length_ofList, List.length_replicate]
  have hfilled : (String.ofList (List.replicate length 'a')).isEmpty = false := by
    by_contra hempty
    have hzero : length = 0 := by simpa using hempty
    omega
  have hnameField : requiredField 160 "rules" = some "rules" :=
    requiredField_eq_some.2 ⟨by decide, by decide, by rw [hname]; decide, hname.symm⟩
  have hcontentField : requiredField 50000 (String.ofList (List.replicate length 'a')) =
      some (String.ofList (List.replicate length 'a')) :=
    requiredField_eq_some.2 ⟨by rwa [hcount], by rwa [hcount], by rwa [hstrip], hstrip.symm⟩
  refine ⟨requestOf length, ?_, ?_⟩
  · simp [ruleMaterialsUpdateRequest, requestOf, hnameField, hcontentField]
  · simp [storedTexts, requestOf, sessionOf, hname, hstrip]

theorem fixedMaterials_plannedWith (length : ℕ) :
    FixedMaterials (plannedWith length) (sessionOf length) where
  files := by simp [plannedWith]
  planned := by simp [plannedMaterials, plannedWith, sessionOf]
  ready := by
    intro row hrow
    have hrow : row = (50, [7]) := by
      simpa [plannedMaterials, plannedWith, sessionOf, Database.empty] using hrow
    exact ⟨_, List.mem_singleton_self _, by rw [hrow], by rw [hrow], rfl⟩

theorem accepted_emptyResult (length : ℕ) :
    Accepted 1 10 20 40 2 { emptyResult with actualMaterial := none } (plannedWith length) := by
  have hchecked : Checked (sessionOf length) { emptyResult with actualMaterial := none } none []
      (plannedWith length) :=
    ⟨rfl, optionalText_none _, rfl, rfl⟩
  have hreturns : (saveResult 1 10 20 40 2 { emptyResult with actualMaterial := none }).Returns
      (fun _ _ _ => True) (plannedWith length) (plannedWith length) := by
    have hmanage : (requireManagement 1 10 20 true).Returns (fun _ _ _ => True)
        (plannedWith length) (plannedWith length) := by
      exact trivial
    have hitem : findSession 10 20 40 (plannedWith length) = some (sessionOf length) := by
      rfl
    have hallow : exitAllowsWrite none 10 (plannedWith length) = true := by
      rfl
    refine (returns_saveResult _ _ _ _ _ _).2 ⟨by decide, hmanage, sessionOf length, hitem, hallow,
      rfl, rfl, none, [], hchecked, ?_⟩
    have hstored : exitAllowsSessionWrite (sessionOf length).id (plannedWith length) = true := by
      rfl
    rw [validatedMaterial?, Tx.pure_eq, Tx.returns_pure, returns_storeResult]
    refine ⟨hstored, ?_⟩
    refine (returns_readResult (R := True) (fun _ => Iff.rfl) _ _ _ _).2 ⟨⟨_, rfl, rfl⟩,
      resultOf (sessionOf length) { emptyResult with actualMaterial := none },
      findSession_resultStored rfl, rfl,
      (fixedMaterials_plannedWith length).sessionData _, trivial, trivial⟩
  obtain ⟨data, -, hdata, -⟩ := Tx.exec_of_returns hreturns
  exact ⟨data, hdata⟩

/-- The planned version of a session with 20 001 characters of rules is not accepted without a
reason. -/
theorem planned_version_needs_reason :
    Snapshot (requestOf 20001) (sessionOf 20001) ∧
      FixedMaterials (plannedWith 20001) (sessionOf 20001) ∧
      Accepted 1 10 20 40 2 { emptyResult with actualMaterial := none } (plannedWith 20001) ∧
      ¬ PlannedNeedsNoReason 1 10 20 40 2 emptyResult (sessionOf 20001) (plannedWith 20001) := by
  refine ⟨snapshot_sessionOf (by omega) (by omega), fixedMaterials_plannedWith _,
    accepted_emptyResult _, fun h => ?_⟩
  have hstrip : strip (sessionOf 20001).ruleContent = (sessionOf 20001).ruleContent :=
    strip_replicate (by decide) _
  have hlength := length_of_accepted rfl hstrip (h.1 _ (List.Perm.refl _)).2.1
  rw [sessionOf, String.length_ofList, List.length_replicate] at hlength
  omega

/-- The theorem on a session with short rules. -/
theorem planned_version_iff_plannedWith :
    PlannedNeedsNoReason 1 10 20 40 2 emptyResult (sessionOf 3) (plannedWith 3) ↔
      (strip (requestOf 3).ruleContent).length ≤ 20000 :=
  planned_version_iff (snapshot_sessionOf (by omega) (by omega)) (fixedMaterials_plannedWith 3) rfl
    (accepted_emptyResult 3)

end Playtests

end Rulefolio
