import Rulefolio.Files.Pasts

/-!
# What an action does to the files and the store

Rows of `files` are added, and settled once; they are never removed, and of what an upload has
recorded in them nothing is changed. The store is changed by the puts and the deletes. Everything
that follows about interleaved calls uses these lemmas, and none of them looks into the meaning of an
action again.

## Main definitions

* `Effect` — all that can come of an action.
* `SameFile` — a row and an earlier version of it.
* `RowStep`, `StoreStep` — what a step may do to the rows, and to the objects.
* `Keys`, `Known` — rows have keys of their own, and the rows a call has taken up are there.
-/

namespace Rulefolio

namespace Files

variable {i : ℕ} {a : Action} {s s' : Shared} {choice : Choice} {r : a.Answer}

/-! ## Actions -/

/-- Nothing comes of the action but its answer. -/
def Action.isQuiet : (a : Action) → a.Answer → Bool
  | .lockWork _, _ => false
  | .rollback, _ => false
  | .insertFile _ _ _ _ _, _ => false
  | .updateFailed _, _ => false
  | .updateReady _ _, updated => !updated
  | _, _ => true

/-- All that can come of an action of session `i`. -/
inductive Effect (i : ℕ) (s : Shared) : (a : Action) → a.Answer → Shared → Prop
  | quiet (a : Action) (r : a.Answer) (hquiet : a.isQuiet r = true)
    (hnotPending : ∀ actorId file, a = .updateReady actorId file → isPending file.id s.db = false) :
    Effect i s a r s
  | locked (workId : Uuid)
    (hfree : s.locks (advisoryKey workId) = none ∨ s.locks (advisoryKey workId) = some i) :
    Effect i s (.lockWork workId) ()
      { s with locks := fun key => if key = advisoryKey workId then some i else s.locks key }
  | rolledBack : Effect i s .rollback () (s.unlocked i)
  | inserted (actorId workspaceId workId : Uuid) (kind : FileKind) (upload : UploadedFile)
    (file : StoredFile) (id objectId : Uuid) (now : Timestamp)
    (hfile : file = newFile actorId workspaceId workId kind upload id objectId now)
    (hmay : mayTouch actorId workspaceId workId kind s.db = true)
    (hid : ∀ f ∈ s.db.files, f.id ≠ file.id)
    (hkey : ∀ f ∈ s.db.files, f.objectKey ≠ file.objectKey) :
    Effect i s (.insertFile actorId workspaceId workId kind upload) file
      ({ s with db := { s.db with files := file :: s.db.files } }.unlocked i)
  | failed (fileId : Uuid) (now : Timestamp) :
    Effect i s (.updateFailed fileId) (isPending fileId s.db)
      ({ s with db := completeFiles fileId .failed now s.db }.unlocked i)
  | completed (actorId : Uuid) (file : StoredFile) (now : Timestamp)
    (hpending : isPending file.id s.db = true)
    (hmay : mayTouch actorId file.workspaceId file.workId file.kind s.db = true) :
    Effect i s (.updateReady actorId file) true
      ({ s with db := completeFiles file.id .ready now s.db }.unlocked i)
  | put (file : StoredFile) (data content : Bytes) (kept : Bool)
    (hfree : s.objects file.objectKey = none) :
    Effect i s (.putObject file data) kept (s.put file.objectKey content)
  | deleted (file : StoredFile) (done : Bool) :
    Effect i s (.deleteObject file) done (s.deleted file.objectKey)

theorem effect_of_perform (h : a.perform i s choice = some (s', r)) : Effect i s a r s' := by
  cases a with
  | lockWork workId =>
    cases choice with
    | plain =>
      simp only [Action.perform, Option.ite_none_right_eq_some, Option.some.injEq,
        Prod.mk.injEq] at h
      obtain ⟨hfree, rfl, -⟩ := h
      exact .locked workId hfree
    | _ => cases h
  | rollback =>
    cases choice with
    | plain =>
      cases h
      exact .rolledBack
    | _ => cases h
  | insertFile actorId workspaceId workId kind upload =>
    cases choice with
    | fresh id objectId now =>
      simp only [Action.perform, Option.ite_none_right_eq_some, Bool.and_eq_true, Option.some.injEq,
        Prod.mk.injEq, Bool.not_eq_true', List.any_eq_false, Bool.or_eq_true, beq_iff_eq,
        not_or] at h
      obtain ⟨⟨⟨hmay, hfresh⟩, -⟩, rfl, rfl⟩ := h
      exact .inserted actorId workspaceId workId kind upload _ id objectId now rfl hmay
        (fun f hf => (hfresh f hf).1) fun f hf => (hfresh f hf).2
    | _ => cases h
  | updateFailed fileId =>
    cases choice with
    | clock now =>
      cases h
      exact .failed fileId now
    | _ => cases h
  | updateReady actorId file =>
    cases choice with
    | clock now =>
      simp only [Action.perform] at h
      split at h
      · rename_i hpending
        split at h
        · rename_i hmay
          cases h
          exact .completed actorId file now hpending hmay
        · cases h
      · rename_i hpending
        cases h
        refine .quiet _ _ rfl fun actorId' file' heq => ?_
        cases heq
        exact Bool.eq_false_iff.2 hpending
    | _ => cases h
  | putObject file data =>
    rcases choice with _ | _ | _ | content | content | _ | _
    case stored =>
      simp only [Action.perform, Option.ite_none_right_eq_some, Option.some.injEq,
        Prod.mk.injEq] at h
      obtain ⟨hfree, rfl, -⟩ := h
      exact .put file data content r hfree
    case unavailable =>
      cases content with
      | none => cases h
      | some content =>
        simp only [Action.perform, Option.ite_none_right_eq_some, Option.some.injEq,
          Prod.mk.injEq] at h
        obtain ⟨hfree, rfl, -⟩ := h
        exact .put file data content r hfree
    case refused =>
      cases h
      exact .quiet _ _ rfl nofun
    all_goals cases h
  | deleteObject file =>
    rcases choice with _ | _ | _ | _ | content | _ | _
    case plain =>
      cases h
      exact .deleted file true
    case unavailable =>
      cases content with
      | none =>
        cases h
        exact .deleted file false
      | some content => cases h
    case refused =>
      cases h
      exact .quiet _ _ rfl nofun
    all_goals cases h
  | _ => cases choice <;> cases h <;> exact .quiet _ _ rfl nofun

/-! ## Rows -/

/-- The row records what the earlier version recorded; it may have been settled since. -/
def SameFile (row file : StoredFile) : Prop :=
  row = { file with status := row.status, completedAt := row.completedAt }

theorem SameFile.refl (file : StoredFile) : SameFile file file := rfl

theorem SameFile.id_eq {row file : StoredFile} (h : SameFile row file) : row.id = file.id := by
  rw [h]

theorem SameFile.objectKey_eq {row file : StoredFile} (h : SameFile row file) :
    row.objectKey = file.objectKey := by
  rw [h]

/-- A row that is settled with a status. -/
def settledRow (status : FileStatus) (now : Timestamp) (f : StoredFile) : StoredFile :=
  { f with status := status, completedAt := some now }

theorem SameFile.settle {row file : StoredFile} (h : SameFile row file) (status : FileStatus)
    (now : Timestamp) : SameFile (settledRow status now row) file := by
  rw [SameFile] at h
  rw [settledRow, SameFile, h]

/-- What a step may do to the rows. -/
inductive RowStep (a : Action) (files : List StoredFile) : List StoredFile → Prop
  | same : RowStep a files files
  | added (file : StoredFile) (hstatus : file.status = .pending) (hid : ∀ f ∈ files, f.id ≠ file.id)
    (hkey : ∀ f ∈ files, f.objectKey ≠ file.objectKey) : RowStep a files (file :: files)
  | settled (fileId : Uuid) (status : FileStatus) (hstatus : status ≠ .pending)
    (hready : status = .ready → ∃ actorId file, a = .updateReady actorId file ∧ file.id = fileId)
    (now : Timestamp) : RowStep a files
      (Table.update (fun f => f.id == fileId && f.status == .pending) (settledRow status now) files)

theorem rowStep_of_effect (h : Effect i s a r s') : RowStep a s.db.files s'.db.files := by
  cases h with
  | inserted actorId workspaceId workId kind upload file id objectId now hfile hmay hid hkey =>
    exact .added _ (by rw [hfile]; rfl) hid hkey
  | failed fileId now => exact .settled fileId .failed nofun nofun now
  | completed actorId file now hpending hmay =>
    exact .settled file.id .ready nofun (fun _ => ⟨actorId, file, rfl, rfl⟩) now
  | _ => exact .same

/-! ## Objects -/

/-- What a step may do to the objects. -/
inductive StoreStep (a : Action) (objects : String → Option Bytes) :
    (String → Option Bytes) → Prop
  | same : StoreStep a objects objects
  | put (file : StoredFile) (data content : Bytes) (ha : a = .putObject file data)
    (hfree : objects file.objectKey = none) :
    StoreStep a objects fun key => if key = file.objectKey then some content else objects key
  | deleted (file : StoredFile) (ha : a = .deleteObject file) :
    StoreStep a objects fun key => if key = file.objectKey then none else objects key

theorem storeStep_of_effect (h : Effect i s a r s') : StoreStep a s.objects s'.objects := by
  cases h with
  | put file data content kept hfree => exact .put file data content rfl hfree
  | deleted file done => exact .deleted file rfl
  | _ => exact .same

/-! ## What is kept -/

/-- Rows have keys of their own, and so have their objects. -/
structure Keys (files : List StoredFile) : Prop where
  ids : (files.map (·.id)).Nodup
  objectKeys : (files.map (·.objectKey)).Nodup

theorem Keys.step {files files' : List StoredFile} (h : Keys files) (hstep : RowStep a files files') :
    Keys files' := by
  cases hstep with
  | same => exact h
  | added file hstatus hid hkey =>
    constructor
    · rw [List.map_cons, List.nodup_cons]
      refine ⟨fun hmem => ?_, h.ids⟩
      obtain ⟨f, hf, heq⟩ := List.mem_map.1 hmem
      exact hid f hf heq
    · rw [List.map_cons, List.nodup_cons]
      refine ⟨fun hmem => ?_, h.objectKeys⟩
      obtain ⟨f, hf, heq⟩ := List.mem_map.1 hmem
      exact hkey f hf heq
  | settled fileId status hstatus hready now =>
    constructor
    · have heq := Table.map_update (p := fun f => f.id == fileId && f.status == .pending)
        (f := settledRow status now) (c := (·.id)) files fun _ _ => rfl
      exact heq ▸ h.ids
    · have heq := Table.map_update (p := fun f => f.id == fileId && f.status == .pending)
        (f := settledRow status now) (c := (·.objectKey)) files fun _ _ => rfl
      exact heq ▸ h.objectKeys

theorem Keys.eq_of_id_eq {files : List StoredFile} (h : Keys files) {f f' : StoredFile}
    (hf : f ∈ files) (hf' : f' ∈ files) (hid : f.id = f'.id) : f = f' :=
  List.inj_on_of_nodup_map h.ids hf hf' hid

theorem Keys.eq_of_objectKey_eq {files : List StoredFile} (h : Keys files) {f f' : StoredFile}
    (hf : f ∈ files) (hf' : f' ∈ files) (hkey : f.objectKey = f'.objectKey) : f = f' :=
  List.inj_on_of_nodup_map h.objectKeys hf hf' hkey

/-- The file is a row, which may have been settled since it was read. -/
def Known (file : StoredFile) (files : List StoredFile) : Prop :=
  ∃ row ∈ files, SameFile row file

theorem Known.step {file : StoredFile} {files files' : List StoredFile} (h : Known file files)
    (hstep : RowStep a files files') : Known file files' := by
  obtain ⟨row, hrow, hsame⟩ := h
  cases hstep with
  | same => exact ⟨row, hrow, hsame⟩
  | added file hstatus hid hkey => exact ⟨row, List.mem_cons_of_mem _ hrow, hsame⟩
  | settled fileId status hstatus hready now =>
    by_cases hp : (row.id == fileId && row.status == .pending) = true
    · exact ⟨_, Table.mem_update.2 (.inl ⟨row, hrow, hp, rfl⟩), hsame.settle status now⟩
    · exact ⟨row, Table.mem_update.2 (.inr ⟨hrow, by simpa using hp⟩), hsame⟩

/-- The row with this identifier is ready. -/
def Ready (fileId : Uuid) (files : List StoredFile) : Prop :=
  ∃ row ∈ files, row.id = fileId ∧ row.status = .ready

/-- What is ready stays so. -/
theorem Ready.step {fileId : Uuid} {files files' : List StoredFile} (h : Ready fileId files)
    (hstep : RowStep a files files') : Ready fileId files' := by
  obtain ⟨row, hrow, hid, hstate⟩ := h
  cases hstep with
  | same => exact ⟨row, hrow, hid, hstate⟩
  | added file hstatus hid' hkey => exact ⟨row, List.mem_cons_of_mem _ hrow, hid, hstate⟩
  | settled fileId' status hstatus hready now =>
    exact ⟨row, Table.mem_update.2 (.inr ⟨hrow, by simp [hstate]⟩), hid, hstate⟩

/-- A row that is ready after a step was so before, or the step is the update that makes it so. -/
theorem ready_of_step {files files' : List StoredFile} (hstep : RowStep a files files')
    {row : StoredFile} (hrow : row ∈ files') (hstate : row.status = .ready) :
    row ∈ files ∨ ∃ actorId file row₀ now, a = .updateReady actorId file ∧ row₀ ∈ files ∧
      row₀.id = file.id ∧ row = settledRow .ready now row₀ := by
  cases hstep with
  | same => exact .inl hrow
  | added file hstatus hid hkey =>
    rcases List.mem_cons.1 hrow with rfl | hrow
    · rw [hstate] at hstatus
      cases hstatus
    · exact .inl hrow
  | settled fileId status hstatus hready now =>
    rcases Table.mem_update.1 hrow with ⟨row₀, hrow₀, hp, rfl⟩ | ⟨hrow, -⟩
    · obtain rfl : status = .ready := hstate
      obtain ⟨actorId, file, rfl, rfl⟩ := hready rfl
      exact .inr ⟨actorId, file, row₀, now, rfl, hrow₀,
        beq_iff_eq.1 (Bool.and_eq_true_iff.1 hp).1, rfl⟩
    · exact .inl hrow

/-! ## What a call has taken up -/

/-- The rows a call has taken up are there. -/
def AllKnown (t : Past) (files : List StoredFile) : Prop :=
  ∀ file ∈ takenUp t, Known file files

theorem AllKnown.step {t : Past} {files files' : List StoredFile} (h : AllKnown t files)
    (hstep : RowStep a files files') : AllKnown t files' :=
  fun file hfile => (h file hfile).step hstep

/-- A row that an action hands out is there. -/
theorem AllKnown.perform {t : Past} (h : AllKnown t s.db.files)
    (hperform : a.perform i s choice = some (s', r)) : AllKnown (⟨a, r⟩ :: t) s'.db.files := by
  have hrest := h.step (rowStep_of_effect (effect_of_perform hperform))
  intro file hfile
  cases a with
  | selectPending actorId workspaceId workId fileId kind =>
    cases r with
    | none => exact hrest file hfile
    | some found =>
      rcases List.mem_cons.1 hfile with rfl | hfile
      · cases choice with
        | plain =>
          simp only [Action.perform, Option.some.injEq, Prod.mk.injEq] at hperform
          obtain ⟨rfl, hfound⟩ := hperform
          have hmem := List.mem_of_find?_eq_some hfound
          exact ⟨file, (List.mem_filter.1 hmem).1, SameFile.refl file⟩
        | _ => cases hperform
      · exact hrest file hfile
  | insertFile actorId workspaceId workId kind upload =>
    rcases List.mem_cons.1 hfile with rfl | hfile
    · cases effect_of_perform hperform with
      | quiet _ _ hquiet => cases hquiet
      | inserted => exact ⟨file, List.mem_cons_self, SameFile.refl file⟩
    · exact hrest file hfile
  | _ => exact hrest file hfile

end Files

end Rulefolio
