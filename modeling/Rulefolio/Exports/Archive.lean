import Rulefolio.Exports.Collected
import Rulefolio.Exports.Rules
import Rulefolio.Playtests.LifeCycle

/-!
# The archive of an export

Two dictionaries of materials go into an archive: the files of the current rule, and the files of the
sessions with those of the rule left out. Each is keyed by the identifier of the file, so every file
is opened once and stands in the archive once, with an entry of its own in the manifest. What is
stored has been compared with the record of the file.

## Main definitions

* `Archivable` — what the schema and its policies promise of a database.
* `Exported` — the files an export is to hold.

## Main results

* `export_archive_exact`, and `archivable_of_reachable` for the databases it is about.
-/

namespace Rulefolio

namespace Exports

open Playtests (MaterialData SessionData IsMaterial IsSessionData IsActualMaterial)

variable {sha256 : Bytes → Bytes} {times : Times} {turns : ℕ} {now : Timestamp} {db : Database}
  {opened : Uuid → World} {actorId workspaceId workId : Uuid}

/-! ## Writing the files -/

/-- A file that is stored, with the bytes that were read. -/
abbrev Stored := MaterialData × Bytes

/-- Its entry in the archive. -/
def Stored.entry (p : Stored) : ArchiveEntry :=
  ⟨materialPath p.1.id p.1.displayName.toList, .bytes p.2⟩

/-- Its entry in the manifest. -/
def Stored.file (sha256 : Bytes → Bytes) (p : Stored) : ManifestFile :=
  ⟨p.1.id, materialPath p.1.id p.1.displayName.toList, p.1.detectedContentType, p.2.length,
    sha256 p.2⟩

/-- The comparison of either loop. -/
def Stored.Fits (sha256 : Bytes → Bytes) (p : Stored) : Prop :=
  p.2.length = p.1.sizeBytes ∧ sha256 p.2 = p.1.sha256

/-- The archive with one more file. -/
def Archive.store (sha256 : Bytes → Bytes) (archive : Archive) (p : Stored) : Archive :=
  ⟨archive.entries ++ [p.entry], archive.manifestFiles ++ [p.file sha256]⟩

theorem archiveMaterial_eq_ok {read : Except FileError Bytes} {archive archive' : Archive}
    {m : MaterialData} (h : archiveMaterial sha256 read archive m = .ok archive') :
    ∃ body, Stored.Fits sha256 (m, body) ∧ archive' = archive.store sha256 (m, body) := by
  cases read with
  | error e => cases h
  | ok body =>
    rw [archiveMaterial.eq_def] at h
    dsimp only at h
    split at h
    · cases h
    · rename_i hfits
      rw [not_or, not_not, not_not] at hfits
      cases h
      exact ⟨body, hfits, rfl⟩

/-- A loop stores one file after the other. -/
theorem archiveMaterials_eq_ok {opens : Uuid → Except FileError Bytes} {archive archive' : Archive}
    {materials : List MaterialData}
    (h : archiveMaterials sha256 opens archive materials = .ok archive') :
    ∃ stored : List Stored, stored.map (·.1) = materials ∧ (∀ p ∈ stored, p.Fits sha256) ∧
      archive'.entries = archive.entries ++ stored.map Stored.entry ∧
        archive'.manifestFiles = archive.manifestFiles ++ stored.map (Stored.file sha256) := by
  induction materials generalizing archive with
  | nil =>
    cases h
    exact ⟨[], rfl, fun p hp => (by cases hp), by simp, by simp⟩
  | cons m materials ih =>
    rw [archiveMaterials] at h
    cases hm : archiveMaterial sha256 (opens m.id) archive m with
    | error e =>
      rw [hm] at h
      cases h
    | ok next =>
      rw [hm] at h
      obtain ⟨body, hfits, rfl⟩ := archiveMaterial_eq_ok hm
      obtain ⟨stored, hstored, hall, hentries, hfiles⟩ := ih h
      refine ⟨(m, body) :: stored, by rw [List.map_cons, hstored], fun p hp => ?_, ?_, ?_⟩
      · rcases List.mem_cons.1 hp with rfl | hp
        · exact hfits
        · exact hall p hp
      · rw [hentries, Archive.store, List.append_assoc]
        rfl
      · rw [hfiles, Archive.store, List.append_assoc]
        rfl

/-- The manifest of an archive that holds these files. -/
def manifestOf (sha256 : Bytes → Bytes) (now : Timestamp) (workspaceId workId : Uuid)
    (stored : List Stored) : Manifest :=
  ⟨"rulefolio-work-export", 1, now, workspaceId, workId, stored.map (Stored.file sha256)⟩

/-- An archive holds its files and the two documents. -/
theorem writeArchive_eq_ok {data : ExportData} {e : WorkExport}
    (h : writeArchive sha256 now opened actorId workspaceId workId data = .ok e) :
    ∃ stored : List Stored,
      stored.map (·.1) = sortedById (currentMaterials data) ++ otherMaterials data ∧
      (∀ p ∈ stored, p.Fits sha256) ∧
      e.entries = stored.map Stored.entry ++
        [⟨"manifest.json".toList, .manifest (manifestOf sha256 now workspaceId workId stored)⟩,
          ⟨"data.json".toList, .data data⟩] := by
  rw [writeArchive] at h
  cases hcurrent : archiveMaterials sha256
      (fun fileId => openMaterial (opened fileId) actorId workspaceId workId fileId) ⟨[], []⟩
      (sortedById (currentMaterials data)) with
  | error e' =>
    rw [hcurrent] at h
    cases h
  | ok archive =>
    obtain ⟨stored, hstored, hfits, hentries, hfiles⟩ := archiveMaterials_eq_ok hcurrent
    cases hother : archiveMaterials sha256
        (fun fileId => openPlaytestMaterial (opened fileId) fileId) archive
        (otherMaterials data) with
    | error e' =>
      simp only [bind, Except.bind, hcurrent, hother] at h
      cases h
    | ok archive' =>
      obtain ⟨stored', hstored', hfits', hentries', hfiles'⟩ := archiveMaterials_eq_ok hother
      simp only [bind, Except.bind, hcurrent, hother] at h
      cases h
      refine ⟨stored ++ stored', by rw [List.map_append, hstored, hstored'], fun p hp => ?_, ?_⟩
      · exact (List.mem_append.1 hp).elim (hfits p) (hfits' p)
      · simp [Archive.writestr, manifestOf, hentries', hentries, hfiles', hfiles]

/-- What is archived was read in the snapshot. -/
theorem returns_buildWorkExport {e : WorkExport}
    (h : (buildWorkExport sha256 times turns now db opened actorId workspaceId workId).Returns e) :
    ∃ data, (collect times turns db actorId workspaceId workId).Returns data ∧
      writeArchive sha256 now opened actorId workspaceId workId data = .ok e := by
  rw [buildWorkExport, Outcome.returns_bind] at h
  obtain ⟨data, hdata, h⟩ := h
  cases hwrite : writeArchive sha256 now opened actorId workspaceId workId data with
  | error e' =>
    rw [hwrite] at h
    cases h
  | ok e' =>
    rw [hwrite] at h
    cases h
    exact ⟨data, hdata, hwrite⟩

/-! ## The dictionaries -/

theorem ids_setItem (materials : List MaterialData) (m : MaterialData) :
    ids (setItem materials m) =
      if m.id ∈ ids materials then ids materials else ids materials ++ [m.id] := by
  rw [setItem]
  by_cases hmem : m.id ∈ ids materials
  · rw [if_pos (any_id_iff.2 hmem), if_pos hmem, ids, List.map_map]
    refine List.map_congr_left fun m' _ => ?_
    rw [Function.comp_apply]
    split
    · rename_i heq
      exact (beq_iff_eq.1 heq).symm
    · rfl
  · rw [if_neg (fun hany => hmem (any_id_iff.1 hany)), if_neg hmem]
    exact List.map_append

/-- Both ways of adding to a dictionary have the same effect on its keys. -/
theorem ids_setItem_foldl (materials new : List MaterialData) :
    ids (new.foldl setItem materials) = ids (new.foldl setDefault materials) := by
  have hsame : ∀ {a b : List MaterialData}, ids a = ids b →
      ids (new.foldl setItem a) = ids (new.foldl setDefault b) := by
    induction new with
    | nil => exact id
    | cons m new ih =>
      intro a b hab
      refine ih ?_
      rw [ids_setItem, ids_setDefault, hab]
  exact hsame rfl

theorem mem_of_mem_setItem_foldl {materials new : List MaterialData} {m : MaterialData}
    (h : m ∈ new.foldl setItem materials) : m ∈ materials ∨ m ∈ new := by
  induction new generalizing materials with
  | nil => exact .inl h
  | cons m' new ih =>
    rcases ih h with h | h
    · rw [setItem] at h
      split at h
      · obtain ⟨x, hx, heq⟩ := List.mem_map.1 h
        split at heq
        · exact .inr (heq ▸ List.mem_cons_self)
        · exact .inl (heq ▸ hx)
      · rcases List.mem_append.1 h with h | h
        · exact .inl h
        · exact .inr (List.mem_singleton.1 h ▸ List.mem_cons_self)
    · exact .inr (List.mem_cons_of_mem _ h)

theorem sortedById_perm (materials : List MaterialData) : (sortedById materials).Perm materials :=
  List.perm_insertionSort _ _

theorem mem_ids_sortedById {materials : List MaterialData} {n : Uuid} :
    n ∈ ids (sortedById materials) ↔ n ∈ ids materials :=
  ((sortedById_perm materials).map _).mem_iff

theorem nodup_sortedById {materials : List MaterialData} (h : (ids materials).Nodup) :
    (ids (sortedById materials)).Nodup :=
  (((sortedById_perm materials).map _).nodup_iff).2 h

/-- The materials of the sessions, of whoever sees them. -/
def managerMaterials (data : ExportData) : List MaterialData :=
  (data.manager.map (·.materials)).getD []

theorem mem_ids_otherMaterials {data : ExportData} {n : Uuid} :
    n ∈ ids (otherMaterials data) ↔
      n ∈ ids (managerMaterials data) ∧ n ∉ ids (currentMaterials data) := by
  rw [ids, otherMaterials, List.mem_map]
  constructor
  · rintro ⟨m, hm, rfl⟩
    obtain ⟨hm, hnew⟩ := List.mem_filter.1 hm
    refine ⟨mem_ids_sortedById.1 (List.mem_map_of_mem hm), fun hold => ?_⟩
    rw [any_id_iff.2 hold] at hnew
    cases hnew
  · rintro ⟨hmem, hnew⟩
    obtain ⟨m, hm, rfl⟩ := List.mem_map.1 (mem_ids_sortedById.2 hmem)
    refine ⟨m, List.mem_filter.2 ⟨hm, ?_⟩, rfl⟩
    rw [Bool.not_eq_true', ← Bool.not_eq_true]
    exact fun hany => hnew (any_id_iff.1 hany)

/-- No file is in both loops, and none twice in one of them. -/
theorem nodup_archived {data : ExportData} (h : (ids (managerMaterials data)).Nodup) :
    (ids (sortedById (currentMaterials data) ++ otherMaterials data)).Nodup := by
  have hcurrent : (ids (currentMaterials data)).Nodup := by
    rw [currentMaterials, ids_setItem_foldl]
    exact nodup_foldl List.nodup_nil
  have hothers : (ids (otherMaterials data)).Nodup :=
    (nodup_sortedById h).sublist (List.filter_sublist.map _)
  rw [ids, List.map_append, List.nodup_append]
  refine ⟨nodup_sortedById hcurrent, hothers, ?_⟩
  rintro a ha b hb rfl
  exact (mem_ids_otherMaterials.1 hb).2 (mem_ids_sortedById.1 ha)

theorem mem_ids_archived {data : ExportData} {n : Uuid} :
    n ∈ ids (sortedById (currentMaterials data) ++ otherMaterials data) ↔
      n ∈ ids (currentMaterials data) ∨ n ∈ ids (managerMaterials data) := by
  have happend : ids (sortedById (currentMaterials data) ++ otherMaterials data) =
      ids (sortedById (currentMaterials data)) ++ ids (otherMaterials data) := List.map_append
  rw [happend, List.mem_append, mem_ids_sortedById, mem_ids_otherMaterials]
  tauto

/-! ## What is to be archived -/

/-- What the schema promises of a database, with the policies of two tables: a file becomes part of
a rule when it is ready, and stays ready; and results are recorded of sessions that were started.
Reachable databases are so (`archivable_of_reachable`). -/
structure Archivable (db : Database) : Prop extends Keyed db where
  planKeys : (db.plans.map (·.id)).Nodup
  rule : ∀ m ∈ db.workMaterials, (Files.findReadyMaterial m.fileId db).isSome
  recorded : Playtests.RecordedOnlyIfStarted db

/-- The files an export is to hold: those of the current rule and, for a maintainer or organizer,
those planned for a session of the work or recorded as played with. -/
def Exported (db : Database) (workspaceId workId : Uuid) (role : WorkRole) (fileId : Uuid) : Prop :=
  (∃ m ∈ db.workMaterials, m.workId = workId ∧ m.fileId = fileId) ∨
    managesPlaytests role = true ∧ ∃ s ∈ db.sessions, s.workspaceId = workspaceId ∧
      s.workId = workId ∧ ((∃ m ∈ db.sessionMaterials, m.sessionId = s.id ∧ m.fileId = fileId) ∨
        s.actualMaterialRecorded = true ∧
          ∃ m ∈ db.actualMaterials, m.sessionId = s.id ∧ m.fileId = fileId)

/-- The record of a file agrees with what is known of a material. -/
def FromFile (db : Database) (m : MaterialData) : Prop :=
  ∃ file ∈ db.files, file.id = m.id ∧ file.sizeBytes = m.sizeBytes ∧ file.sha256 = m.sha256

theorem fromFile_of_isMaterial {row : Uuid × Bytes} {m : MaterialData} (h : IsMaterial db row m) :
    FromFile db m := by
  obtain ⟨file, hfile, hsha, rfl⟩ := h
  exact ⟨file, List.mem_of_find?_eq_some hfile, rfl, rfl, hsha⟩

/-! ### The rule -/

/-- The materials `read_rule_materials` returns. -/
theorem currentRule_materials {rule : Works.RuleMaterialsData}
    (h : (Works.readRuleMaterials actorId workspaceId workId).Returns (fun a _ _ => a = rule)
      db db) : rule.materials = Files.currentReadyMaterials workId db := by
  simp only [Works.readRuleMaterials, Works.loadVisibleWork, Workspaces.workAccessRole, Tx.bind_eq,
    Tx.returns_bind, Tx.returns_read, Tx.returns_require, Tx.returns_ensure, Tx.pure_eq,
    Tx.returns_pure] at h
  obtain ⟨work, hwork, -, rfl⟩ := h
  have hfound := List.find?_some hwork
  simp only [Bool.and_eq_true, beq_iff_eq] at hfound
  rw [hfound.1]

theorem mem_currentReadyMaterials {m : Files.MaterialData} :
    m ∈ Files.currentReadyMaterials workId db ↔ ∃ link ∈ db.workMaterials, link.workId = workId ∧
      ∃ file, Files.findReadyMaterial link.fileId db = some file ∧ Files.materialData file = m := by
  simp only [Files.currentReadyMaterials, List.mem_insertionSort, List.mem_map, List.mem_filterMap,
    List.mem_filter, beq_iff_eq]
  constructor
  · rintro ⟨file, ⟨link, ⟨hlink, hwork⟩, hfile⟩, rfl⟩
    exact ⟨link, hlink, hwork, file, hfile, rfl⟩
  · rintro ⟨link, hlink, hwork, file, hfile, rfl⟩
    exact ⟨file, ⟨link, ⟨hlink, hwork⟩, hfile⟩, rfl⟩

theorem findReadyMaterial_id {n : Uuid} {file : StoredFile}
    (h : Files.findReadyMaterial n db = some file) : file.id = n := by
  have hfound := List.find?_some h
  simp only [Bool.and_eq_true, beq_iff_eq] at hfound
  exact hfound.1.1

/-- The files of the current rule are those it refers to. -/
theorem mem_ids_currentMaterials (hdb : Archivable db) {data : ExportData}
    (hrule : data.currentRule.materials = Files.currentReadyMaterials workId db) {n : Uuid} :
    n ∈ ids (currentMaterials data) ↔ ∃ m ∈ db.workMaterials, m.workId = workId ∧ m.fileId = n := by
  have hids : n ∈ ids (currentMaterials data) ↔
      n ∈ ids (data.currentRule.materials.map (·.toMaterialData)) := by
    rw [currentMaterials, ids_setItem_foldl, mem_ids_foldl]
    simp [ids]
  rw [hids, hrule, ids, List.map_map, List.mem_map]
  constructor
  · rintro ⟨m, hm, rfl⟩
    obtain ⟨link, hlink, hwork, file, hfile, rfl⟩ := mem_currentReadyMaterials.1 hm
    exact ⟨link, hlink, hwork, (findReadyMaterial_id hfile).symm⟩
  · rintro ⟨link, hlink, hwork, rfl⟩
    obtain ⟨file, hfile⟩ := Option.isSome_iff_exists.1 (hdb.rule link hlink)
    exact ⟨_, mem_currentReadyMaterials.2 ⟨link, hlink, hwork, file, hfile, rfl⟩,
      findReadyMaterial_id hfile⟩

theorem fromFile_of_current {data : ExportData}
    (hrule : data.currentRule.materials = Files.currentReadyMaterials workId db) {m : MaterialData}
    (h : m ∈ currentMaterials data) : FromFile db m := by
  rcases mem_of_mem_setItem_foldl h with h | h
  · cases h
  · rw [hrule] at h
    obtain ⟨m', hm', rfl⟩ := List.mem_map.1 h
    obtain ⟨link, -, -, file, hfile, rfl⟩ := mem_currentReadyMaterials.1 hm'
    exact ⟨file, List.mem_of_find?_eq_some hfile, rfl, rfl, rfl⟩

/-! ### The sessions -/

/-- With a primary key a session is found by it. -/
theorem findSession_of_mem (hkeyed : Keyed db) {s : PlaytestSession} (hs : s ∈ db.sessions) :
    Playtests.findSession s.workspaceId s.workId s.id db = some s := by
  refine Table.find?_eq_some_of_unique hs (by simp) fun t ht hmatch => ?_
  simp only [Bool.and_eq_true, beq_iff_eq] at hmatch
  exact List.inj_on_of_nodup_map hkeyed.sessions ht hs hmatch.1.1

/-- The actual materials of a session that was read with its result. -/
theorem Started.isActualMaterial {d : SessionData} {result : Playtests.ResultData}
    {feedback : Playtests.ManagedFeedbackData} (hkeyed : Keyed db) (hd : d.item ∈ db.sessions)
    (hworkspace : d.item.workspaceId = workspaceId) (hwork : d.item.workId = workId)
    (h : Started db actorId workspaceId workId d result feedback) :
    IsActualMaterial db d.item result.actualMaterial := by
  obtain ⟨item, hitem, data, hactual, rfl⟩ := Playtests.readResult_returns h.result
  rw [← hworkspace, ← hwork, findSession_of_mem hkeyed hd] at hitem
  cases hitem
  exact hactual

/-- The identifiers of materials that were read are those of their rows. -/
theorem ids_of_isMaterial {rows : List (Uuid × Bytes)} {ms : List MaterialData}
    (h : List.Forall₂ (IsMaterial db) rows ms) : ids ms = rows.map (·.1) := by
  induction h with
  | nil => rfl
  | cons hm h ih =>
    rw [List.map_cons, ← ih, ← hm.id_eq]
    rfl

/-- The sessions that were visited belong to the work. -/
theorem Visits.work {visited : List SessionData} (hdb : Archivable db)
    (h : Visits db (Playtests.orderedPlans times workspaceId workId db) visited) {d : SessionData}
    (hd : d ∈ visited) : d.item ∈ db.sessions ∧ d.item.workspaceId = workspaceId ∧
      d.item.workId = workId := by
  obtain ⟨hmem, plan, hplan, hid⟩ := h.source d hd
  rw [Playtests.orderedPlans, List.mem_insertionSort, List.mem_filter] at hplan
  obtain ⟨hplan, hscope⟩ := hplan
  obtain ⟨plan', hplan', hid', hworkspace, hwork⟩ := hdb.plan d.item hmem
  obtain rfl : plan' = plan :=
    List.inj_on_of_nodup_map hdb.planKeys hplan' hplan (hid'.trans hid)
  simp only [Bool.and_eq_true, beq_iff_eq] at hscope
  exact ⟨hmem, hworkspace ▸ hscope.1, hwork ▸ hscope.2⟩

variable {visited : List SessionData} {data : ManagerData}

/-- The materials of the sessions are those planned for them and those recorded. -/
theorem Gathered.mem_ids (hdb : Archivable db)
    (h : Gathered db actorId workspaceId workId visited data)
    (hvisits : Visits db (Playtests.orderedPlans times workspaceId workId db) visited) {n : Uuid} :
    n ∈ ids data.materials ↔ ∃ s ∈ db.sessions, s.workspaceId = workspaceId ∧ s.workId = workId ∧
      ((∃ m ∈ db.sessionMaterials, m.sessionId = s.id ∧ m.fileId = n) ∨
        s.actualMaterialRecorded = true ∧
          ∃ m ∈ db.actualMaterials, m.sessionId = s.id ∧ m.fileId = n) := by
  have hplanned : ∀ s : PlaytestSession, n ∈ (Playtests.plannedMaterials s db).map (·.1) ↔
      ∃ m ∈ db.sessionMaterials, m.sessionId = s.id ∧ m.fileId = n := fun s => by
    simp [Playtests.plannedMaterials, and_assoc]
  have hrecorded : ∀ s : PlaytestSession, n ∈ (Playtests.recordedMaterials s db).map (·.1) ↔
      ∃ m ∈ db.actualMaterials, m.sessionId = s.id ∧ m.fileId = n := fun s => by
    simp [Playtests.recordedMaterials, and_assoc]
  constructor
  · intro hn
    obtain ⟨m, hm, rfl⟩ := List.mem_map.1 hn
    obtain ⟨d, hd, hsource⟩ := h.source m hm
    obtain ⟨hmem, hworkspace, hwork⟩ := hvisits.work hdb hd
    refine ⟨d.item, hmem, hworkspace, hwork, ?_⟩
    rcases hsource with hm | ⟨result, feedback, hstarted, hm⟩
    · refine .inl ((hplanned d.item).1 ?_)
      rw [← ids_of_isMaterial (hvisits.read d hd).materials]
      exact List.mem_map_of_mem hm
    · have hactual := hstarted.isActualMaterial hdb.toKeyed hmem hworkspace hwork
      rw [IsActualMaterial] at hactual
      split at hactual
      · rename_i hflag
        obtain ⟨ms, hms, hresult⟩ := hactual
        rw [hresult] at hm
        refine .inr ⟨hflag, (hrecorded d.item).1 ?_⟩
        rw [← ids_of_isMaterial hms]
        exact List.mem_map_of_mem hm
      · rw [hactual] at hm
        cases hm
  · rintro ⟨s, hs, hworkspace, hwork, hsource⟩
    obtain ⟨d, hd, rfl⟩ := hvisits.of_work hdb.toKeyed hs hworkspace hwork
    rcases hsource with hrow | ⟨hflag, hrow⟩
    · have hn := (hplanned d.item).2 hrow
      rw [← ids_of_isMaterial (hvisits.read d hd).materials] at hn
      obtain ⟨m, hm, rfl⟩ := List.mem_map.1 hn
      exact h.planned d hd m hm
    · have hstatus : d.item.status = .started := by
        obtain ⟨m, hm, hsession, -⟩ := hrow
        obtain ⟨s, hs', hid, hstarted⟩ := hdb.recorded.actualMaterials m hm
        rw [List.inj_on_of_nodup_map hdb.sessions hs' hs (hid.trans hsession)] at hstarted
        exact hstarted
      obtain ⟨result, feedback, hstarted, hall, -⟩ := h.started d hd hstatus
      have hactual := hstarted.isActualMaterial hdb.toKeyed hs hworkspace hwork
      rw [IsActualMaterial, if_pos hflag] at hactual
      obtain ⟨ms, hms, hresult⟩ := hactual
      have hn := (hrecorded d.item).2 hrow
      rw [← ids_of_isMaterial hms] at hn
      obtain ⟨m, hm, rfl⟩ := List.mem_map.1 hn
      exact hall m (by rw [hresult]; exact hm)

/-- Every material of a session comes from a file. -/
theorem Gathered.fromFile (hdb : Archivable db)
    (h : Gathered db actorId workspaceId workId visited data)
    (hvisits : Visits db (Playtests.orderedPlans times workspaceId workId db) visited)
    {m : MaterialData} (hm : m ∈ data.materials) : FromFile db m := by
  obtain ⟨d, hd, hsource⟩ := h.source m hm
  obtain ⟨hmem, hworkspace, hwork⟩ := hvisits.work hdb hd
  rcases hsource with hm | ⟨result, feedback, hstarted, hm⟩
  · obtain ⟨row, -, hrow⟩ := (Table.forall₂_mem (hvisits.read d hd).materials).2 m hm
    exact fromFile_of_isMaterial hrow
  · have hactual := hstarted.isActualMaterial hdb.toKeyed hmem hworkspace hwork
    rw [IsActualMaterial] at hactual
    split at hactual
    · obtain ⟨ms, hms, hresult⟩ := hactual
      rw [hresult] at hm
      obtain ⟨row, -, hrow⟩ := (Table.forall₂_mem hms).2 m hm
      exact fromFile_of_isMaterial hrow
    · rw [hactual] at hm
      cases hm

/-! ## The archive -/

/-- The entries of an archive under `materials/`. -/
def WorkExport.materials (e : WorkExport) : List ArchiveEntry :=
  e.entries.filter fun entry => materialsDirectory.isPrefixOf entry.name

/-- What `manifest.json` encodes. -/
def WorkExport.manifests (e : WorkExport) : List Manifest :=
  e.entries.filterMap fun entry =>
    match entry.content with
    | .manifest manifest => if entry.name = "manifest.json".toList then some manifest else none
    | _ => none

/-- An entry of the archive and one of the manifest are about the same bytes, which are those of the
record of the file. -/
def Agree (sha256 : Bytes → Bytes) (db : Database) (entry : ArchiveEntry) (file : ManifestFile) :
    Prop :=
  entry.name = file.path ∧ ∃ body, entry.content = .bytes body ∧ file.sizeBytes = body.length ∧
    file.sha256 = sha256 body ∧ ∃ record ∈ db.files, record.id = file.id ∧
      record.sizeBytes = body.length ∧ record.sha256 = sha256 body

/-- A path that leads out of no directory: one component below the directory of the materials. -/
def SafePath (name : List Char) : Prop :=
  ∃ component, name = materialsDirectory ++ component ∧ (∀ c ∈ component, IsSafe c) ∧
    component ≠ ".".toList ∧ component ≠ "..".toList

theorem isPrefixOf_entry (p : Stored) : materialsDirectory.isPrefixOf p.entry.name = true :=
  List.isPrefixOf_iff_prefix.2 (List.prefix_append _ _)

/-- The files are what an archive holds under `materials/`. -/
theorem materials_eq {e : WorkExport} {stored : List Stored} {manifest : Manifest}
    {exported : ExportData}
    (h : e.entries = stored.map Stored.entry ++ [⟨"manifest.json".toList, .manifest manifest⟩,
      ⟨"data.json".toList, .data exported⟩]) : e.materials = stored.map Stored.entry := by
  rw [WorkExport.materials, h, List.filter_append, List.filter_eq_self.2]
  · have hrest : ([⟨"manifest.json".toList, .manifest manifest⟩,
        ⟨"data.json".toList, .data exported⟩] : List ArchiveEntry).filter
          (fun entry => materialsDirectory.isPrefixOf entry.name) = [] := by
      rw [List.filter_eq_nil_iff]
      intro entry hentry
      have hmanifest : materialsDirectory.isPrefixOf "manifest.json".toList = false := by
        decide +kernel
      have hdata : materialsDirectory.isPrefixOf "data.json".toList = false := by decide +kernel
      rcases List.mem_cons.1 hentry with rfl | hentry
      · exact hmanifest ▸ Bool.false_ne_true
      · rw [List.mem_singleton.1 hentry]
        exact hdata ▸ Bool.false_ne_true
    rw [hrest, List.append_nil]
  · intro entry hentry
    obtain ⟨p, -, rfl⟩ := List.mem_map.1 hentry
    exact isPrefixOf_entry p

theorem manifests_eq {e : WorkExport} {stored : List Stored} {manifest : Manifest}
    {exported : ExportData}
    (h : e.entries = stored.map Stored.entry ++ [⟨"manifest.json".toList, .manifest manifest⟩,
      ⟨"data.json".toList, .data exported⟩]) : e.manifests = [manifest] := by
  rw [WorkExport.manifests, h, List.filterMap_append, List.filterMap_eq_nil_iff.2]
  · rfl
  · intro entry hentry
    obtain ⟨p, -, rfl⟩ := List.mem_map.1 hentry
    rfl

/-- Different files are stored under different paths. -/
theorem nodup_paths {stored : List Stored} (h : (ids (stored.map (·.1))).Nodup) :
    ((stored.map Stored.entry).map (·.name)).Nodup := by
  rw [ids, List.map_map, List.Nodup, List.pairwise_map] at h
  rw [List.map_map, List.Nodup, List.pairwise_map]
  exact h.imp fun hne hpath => hne (materialPath_injective hpath)

/-- A key of a list without repetitions is found once. -/
theorem length_filter_id {stored : List Stored} (h : (ids (stored.map (·.1))).Nodup) {n : Uuid}
    (hn : n ∈ ids (stored.map (·.1))) :
    ((stored.map (Stored.file sha256)).filter (·.id == n)).length = 1 := by
  have hids : (stored.map (Stored.file sha256)).map (·.id) = ids (stored.map (·.1)) := by
    rw [ids, List.map_map, List.map_map]
    rfl
  have hcount : ((stored.map (Stored.file sha256)).filter (·.id == n)).length =
      (ids (stored.map (·.1))).count n := by
    rw [← hids, List.count, List.countP_map, List.countP_eq_length_filter]
    rfl
  rw [hcount, List.count_eq_one_of_mem h hn]

/-- An archive that holds the files it is to hold, each once, under paths of their own, as its
manifest says. -/
structure Exact (sha256 : Bytes → Bytes) (db : Database) (workspaceId workId : Uuid)
    (role : WorkRole) (e : WorkExport) (manifest : Manifest) : Prop where
  complete : ∀ fileId, Exported db workspaceId workId role fileId →
    (manifest.files.filter (·.id == fileId)).length = 1
  source : ∀ file ∈ manifest.files, Exported db workspaceId workId role file.id
  agree : List.Forall₂ (Agree sha256 db) e.materials manifest.files
  paths : (e.materials.map (·.name)).Nodup
  safe : ∀ entry ∈ e.materials, SafePath entry.name

/-- **The archive is exact.** When an export returns, its manifest lists every file of the current
rule and, for maintainers and organizers, every file planned for a session of the work or recorded as
played with, each of them once and no other; the entries under `materials/` are those of the
manifest, one for one, under paths that are safe and distinct; and every entry has the size and the
digest of its bytes and of the record of the file. -/
theorem export_archive_exact (hdb : Archivable db) {e : WorkExport}
    (h : (buildWorkExport sha256 times turns now db opened actorId workspaceId workId).Returns e) :
    ∃ work role manifest,
      snapshot db (Works.readWork actorId workspaceId workId) = .ok (work, role) ∧
        e.manifests = [manifest] ∧ Exact sha256 db workspaceId workId role e manifest := by
  obtain ⟨data, hcollect, hwrite⟩ := returns_buildWorkExport h
  obtain ⟨hwork, hrule, hmanager⟩ := returns_collect hcollect
  obtain ⟨stored, hstored, hfits, hentries⟩ := writeArchive_eq_ok hwrite
  replace hrule := currentRule_materials hrule
  -- What the part for managers holds, of whoever sees it.
  have hmanaged : (ids (managerMaterials data)).Nodup ∧
      (∀ m ∈ managerMaterials data, FromFile db m) ∧
      ∀ n, n ∈ ids (managerMaterials data) ↔ managesPlaytests data.ownRole = true ∧
        ∃ s ∈ db.sessions, s.workspaceId = workspaceId ∧ s.workId = workId ∧
          ((∃ m ∈ db.sessionMaterials, m.sessionId = s.id ∧ m.fileId = n) ∨
            s.actualMaterialRecorded = true ∧
              ∃ m ∈ db.actualMaterials, m.sessionId = s.id ∧ m.fileId = n) := by
    cases hrole : managesPlaytests data.ownRole with
    | false =>
      rw [managerPart, hrole] at hmanager
      have hnone : none = data.manager := Outcome.returns_pure.1 hmanager
      rw [managerMaterials, ← hnone]
      exact ⟨List.nodup_nil, fun m hm => (by cases hm), fun n =>
        ⟨fun hn => (by cases hn), fun hn => absurd hn.1 Bool.false_ne_true⟩⟩
    | true =>
      obtain ⟨part, hpart, hreturns⟩ := managerPart_of_manages hrole hmanager
      obtain ⟨visited, hgathered, hvisits⟩ := collected hreturns
      rw [managerMaterials, hpart]
      exact ⟨hgathered.keys, fun m hm => hgathered.fromFile hdb hvisits hm, fun n =>
        (hgathered.mem_ids hdb hvisits).trans ⟨fun hs => ⟨rfl, hs⟩, fun hs => hs.2⟩⟩
  obtain ⟨hkeys, hfrom, hsessions⟩ := hmanaged
  have hnodup : (ids (stored.map (·.1))).Nodup := by
    rw [hstored]
    exact nodup_archived hkeys
  have hmem : ∀ n, n ∈ ids (stored.map (·.1)) ↔
      Exported db workspaceId workId data.ownRole n := fun n => by
    rw [hstored, mem_ids_archived, mem_ids_currentMaterials hdb hrule, hsessions]
    exact Iff.rfl
  refine ⟨data.work, data.ownRole, _, Tx.exec_eq_ok_iff.2 hwork, manifests_eq hentries, ?_⟩
  refine ⟨fun n hn => length_filter_id hnodup ((hmem n).2 hn), fun file hfile => ?_, ?_, ?_, ?_⟩
  · obtain ⟨p, hp, rfl⟩ := List.mem_map.1 hfile
    exact (hmem _).1 (List.mem_map_of_mem (List.mem_map_of_mem hp))
  · rw [materials_eq hentries, manifestOf, List.forall₂_map_left_iff, List.forall₂_map_right_iff,
      List.forall₂_same]
    intro p hp
    have hfile : FromFile db p.1 := by
      have hp' : p.1 ∈ sortedById (currentMaterials data) ++ otherMaterials data :=
        hstored ▸ List.mem_map_of_mem hp
      rcases List.mem_append.1 hp' with hp' | hp'
      · exact fromFile_of_current hrule ((sortedById_perm _).mem_iff.1 hp')
      · exact hfrom _ ((sortedById_perm _).mem_iff.1 (List.mem_of_mem_filter hp'))
    obtain ⟨record, hrecord, hid, hsize, hsha⟩ := hfile
    obtain ⟨hlength, hdigest⟩ := hfits p hp
    exact ⟨rfl, p.2, rfl, rfl, rfl, record, hrecord, hid, hsize.trans hlength.symm,
      hsha.trans hdigest.symm⟩
  · rw [materials_eq hentries]
    exact nodup_paths hnodup
  · rw [materials_eq hentries]
    intro entry hentry
    obtain ⟨p, -, rfl⟩ := List.mem_map.1 hentry
    exact materialPath_component _ _

/-! ### Reachable databases -/

/-- **Reachable databases can be archived**: the keys of plans and sessions hold, results are
recorded of started sessions only, and rules are ready where the transactions of other packages keep
them so, as `update_rule_materials` and the operations on files do. -/
theorem archivable_of_reachable {settings : Settings} {normalizeEmail : String → Option String}
    {c : ReadCommitted.Config Database RowKey ServiceError Unit Playtests.Call}
    (hc : (Playtests.system settings normalizeEmail).Reachable c)
    (hother : ∀ e ∈ c.history, ∀ change, e.op = .elsewhere change →
      RulesReady e.before → RulesReady e.after) : Archivable c.db where
  sessions := (Playtests.wellFormed_of_reachable hc).sessionKeys
  plan s hs := by
    obtain ⟨p, hp, hof⟩ := (Playtests.planned_of_reachable hc).plan s hs
    exact ⟨p, hp, hof⟩
  planKeys := (Playtests.planned_of_reachable hc).keys
  rule := rulesReady_of_reachable hc hother
  recorded := (Playtests.wellFormed_of_reachable hc).recordedOnlyIfStarted

/-! ### An organizer's export -/

/-- `sha256` of no bytes at all. -/
def emptyDigest : Bytes :=
  [0xe3, 0xb0, 0xc4, 0x42, 0x98, 0xfc, 0x1c, 0x14, 0x9a, 0xfb, 0xf4, 0xc8, 0x99, 0x6f, 0xb9, 0x24,
    0x27, 0xae, 0x41, 0xe4, 0x64, 0x9b, 0x93, 0x4c, 0xa4, 0x95, 0x99, 0x1b, 0x78, 0x52, 0xb8, 0x55]

/-- An empty file of a work, ready for use. -/
def emptyFile (id : Uuid) (displayName : String) : StoredFile :=
  ⟨id, 10, 20, 1, displayName, "pdf", "pdf", 0, emptyDigest, "works/10/20", .ready, .material, 0,
    some 0⟩

/-- A session of the work that was started and played with what the argument says. -/
def heldSession (recorded : Bool) : PlaytestSession :=
  ⟨50, 40, 10, 20, 7, "table", 2, .started, 3, some 8, "balance", "notes", "go", "rules", none,
    "place stones", some 2, some 45, some .completed, none, recorded,
    if recorded then some "rules" else none, none, if recorded then some "place stones" else none,
    none⟩

/-- A work with two files in its rule, and a session for which one of them and a third were planned.
It was played with a fourth. -/
def workWithFiles : Database :=
  { Database.empty with
    accounts := [⟨1, "host", .active⟩]
    workspaces := [⟨10, "games", none, 1, 1, none, none, none, none, none⟩]
    members := [⟨10, 1⟩]
    works := [⟨20, 10, "go", "stones", "draft", "calm", 2, 2, 60, 1, some "rules", none,
      some "place stones"⟩]
    accesses := [⟨20, 10, 1, .organizer⟩]
    files := [emptyFile 30 "../board", emptyFile 31 "..", emptyFile 32 "board", emptyFile 33 "/"]
    workMaterials := [⟨20, 30⟩, ⟨20, 31⟩]
    plans := [⟨40, 10, 20, "balance", "notes", 1⟩]
    sessions := [heldSession true]
    sessionMaterials := [⟨50, 30, emptyDigest⟩, ⟨50, 32, emptyDigest⟩]
    actualMaterials := [⟨50, 33, emptyDigest⟩] }

/-- No column orders anything. -/
def noTimes : Times := ⟨fun _ => 0, fun _ => 0, fun _ => 0⟩

/-- A state in which every object is there, and empty. -/
def emptyObjects (db : Database) : World := ⟨db, fun _ => .ok (some [])⟩

theorem archivable_workWithFiles : Archivable workWithFiles where
  sessions := by decide
  plan := by decide
  planKeys := by decide
  rule := by decide
  recorded := {
    startedAt := by decide
    result := by decide
    actualMaterials := by
      intro m hm
      exact ⟨heldSession true, List.mem_cons_self, by
        rw [List.mem_singleton.1 hm]
        exact ⟨rfl, rfl⟩⟩
    actualParticipants := fun p hp => by cases hp
    observations := fun o ho => by cases ho }

/-- Whether an export returns, with these paths. -/
def hasPaths (paths : List String) (outcome : Outcome WorkExport) : Bool :=
  outcome.run.any fun answer =>
    match answer with
    | .ok e => e.materials.map (·.name) == paths.map (·.toList)
    | .error _ => false

theorem returns_of_hasPaths {paths : List String} {outcome : Outcome WorkExport}
    (h : hasPaths paths outcome = true) :
    ∃ e, outcome.Returns e ∧ e.materials.map (·.name) = paths.map (·.toList) := by
  obtain ⟨answer, hanswer, hok⟩ := (Option.any_eq_true _ _).1 h
  cases answer with
  | error e => cases hok
  | ok e => exact ⟨e, hanswer, beq_iff_eq.1 hok⟩

/-- The theorem on an organizer's export of that work. -/
theorem export_archive_exact_organizer :
    Archivable workWithFiles ∧ ∃ e, (buildWorkExport (fun _ => emptyDigest) noTimes 2 9 workWithFiles
      (fun _ => emptyObjects workWithFiles) 1 10 20).Returns e ∧
        e.materials.map (·.name) =
          ["materials/00000000-0000-0000-0000-00000000001e-_board",
            "materials/00000000-0000-0000-0000-00000000001f-material",
            "materials/00000000-0000-0000-0000-000000000020-board",
            "materials/00000000-0000-0000-0000-000000000021-_"].map (·.toList) ∧
        ∃ work role manifest,
          snapshot workWithFiles (Works.readWork 1 10 20) = .ok (work, role) ∧
            e.manifests = [manifest] ∧
              Exact (fun _ => emptyDigest) workWithFiles 10 20 role e manifest := by
  have hpaths : hasPaths ["materials/00000000-0000-0000-0000-00000000001e-_board",
      "materials/00000000-0000-0000-0000-00000000001f-material",
      "materials/00000000-0000-0000-0000-000000000020-board",
      "materials/00000000-0000-0000-0000-000000000021-_"]
      (buildWorkExport (fun _ => emptyDigest) noTimes 2 9 workWithFiles
        (fun _ => emptyObjects workWithFiles) 1 10 20) = true := by
    decide +kernel
  obtain ⟨e, he, hpaths⟩ := returns_of_hasPaths hpaths
  exact ⟨archivable_workWithFiles, e, he, hpaths, export_archive_exact archivable_workWithFiles he⟩

end Exports

end Rulefolio
