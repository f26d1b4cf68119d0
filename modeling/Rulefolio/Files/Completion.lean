import Rulefolio.Files.Rows

/-!
# Ready files

An upload ends with a conditional update: the row becomes ready if it is still pending. Two things are
expected of it. A call that returns its file has made it ready, or found it so; and a ready file has
its object.

Neither is so in every order. The outcome of the conditional update is not looked at, so an upload
whose row was marked failed by another call in the meantime returns it all the same. And whoever
deletes an object does so on the strength of what it read before: a reconciler that found no object,
because the upload was still going on, deletes the one that has since been stored, read back and
marked ready.

## Main definitions

* `ownRowNotFailed`, `deletesUnneeded`, `deletesUncompared` — the conditions on a step.
* `Stored` — the object of a row is there.

## Main results

* `returned_is_ready` — with the first condition, what an upload returns is ready.
* `returned_failed` — a run in which it is not.
* `ready_is_stored` — with the other two, a ready file has its object.
* `ready_without_object` — a run in which it has none.
-/

namespace Rulefolio

namespace Files

open TransitionSystem (Reachable)

variable {readers : Readers}

/-- A revocation changes no file. -/
theorem files_of_revocation {db db' : Database} {r : Revocation} (h : r.apply db = some db') :
    db'.files = db.files := by
  cases r with
  | access _ _ =>
    cases h
    rfl
  | role _ _ newRole =>
    simp only [Revocation.apply, Option.ite_none_left_eq_some] at h
    obtain ⟨-, heq⟩ := h
    cases heq
    rfl
  | member _ _ =>
    cases h
    rfl

/-- What others do leaves the files and the objects. -/
theorem same_of_move {s s' : Shared} {r : Revocation}
    (h : (setting readers).move s r = some s') :
    s'.db.files = s.db.files ∧ s'.objects = s.objects ∧ s'.locks = s.locks := by
  obtain ⟨db, hdb, rfl⟩ := Option.map_eq_some_iff.1 h
  exact ⟨files_of_revocation hdb, rfl, rfl⟩

/-! ## What an upload returns -/

/-- An upload that completes its own row does not find it failed. -/
def ownRowNotFailed (s : Shared) (t : Past) : Action → Bool
  | .updateReady _ file =>
    !((reserved t).contains file &&
      s.db.files.any fun f => f.id == file.id && f.status == .failed)
  | _ => true

/-- The conditional update was the last thing done, but for a rollback. -/
def Tried (t : Past) (file : StoredFile) : Prop :=
  (∃ actorId updated t', t = ⟨.updateReady actorId file, updated⟩ :: t') ∨ Completed t file

/-- The condition of the update, as the update finds it. -/
theorem ready_of_updateReady {i : ℕ} {s s' : Shared} {choice : Choice} {actorId : Uuid}
    {file : StoredFile} {updated : Bool} (hknown : Known file s.db.files)
    (hfailed : ∀ f ∈ s.db.files, f.id = file.id → f.status ≠ .failed)
    (h : Action.perform i (.updateReady actorId file) s choice = some (s', updated)) :
    Ready file.id s'.db.files := by
  cases effect_of_perform h with
  | completed _ _ now hpending hmay =>
    obtain ⟨f, hf, hof⟩ := List.any_eq_true.1 hpending
    refine ⟨settledRow .ready now f, Table.mem_update.2 (.inl ⟨f, hf, hof, rfl⟩), ?_, rfl⟩
    exact beq_iff_eq.1 (Bool.and_eq_true_iff.1 hof).1
  | quiet _ _ hquiet hnotPending =>
    obtain ⟨row, hrow, hsame⟩ := hknown
    refine ⟨row, hrow, hsame.id_eq, ?_⟩
    cases hstatus : row.status with
    | ready => rfl
    | failed => exact absurd hstatus (hfailed row hrow hsame.id_eq)
    | pending =>
      have hnot := List.any_eq_false.1 (hnotPending actorId file rfl) row hrow
      simp [hsame.id_eq, hstatus] at hnot

/-- What an upload has made and then tried to complete is ready. -/
def TriedIsReady (t : Past) (files : List StoredFile) : Prop :=
  ∀ file ∈ reserved t, Tried t file → Ready file.id files

theorem TriedIsReady.step {a : Action} {t : Past} {files files' : List StoredFile}
    (h : TriedIsReady t files) (hstep : RowStep a files files') : TriedIsReady t files' :=
  fun file hfile htried => (h file hfile htried).step hstep

theorem TriedIsReady.perform {i : ℕ} {a : Action} {s s' : Shared} {choice : Choice} {r : a.Answer}
    {t : Past} (h : TriedIsReady t s.db.files) (hknown : AllKnown t s.db.files)
    (hok : ownRowNotFailed s t a = true) (hperform : a.perform i s choice = some (s', r)) :
    TriedIsReady (⟨a, r⟩ :: t) s'.db.files := by
  have hrest := h.step (rowStep_of_effect (effect_of_perform hperform))
  intro file hfile htried
  have hupdated : ∀ actorId updated t', (⟨a, r⟩ :: t : Past) =
      ⟨.updateReady actorId file, updated⟩ :: t' → Ready file.id s'.db.files := by
    rintro actorId updated t' heq
    cases heq
    refine ready_of_updateReady (hknown file (reserved_subset_takenUp t hfile)) ?_ hperform
    intro f hf hid hstatus
    rw [ownRowNotFailed, Bool.not_eq_true', Bool.and_eq_false_iff] at hok
    rcases hok with hok | hok
    · rw [List.contains_eq_mem, decide_eq_false_iff_not] at hok
      exact absurd hfile hok
    · have hnot := List.any_eq_false.1 hok f hf
      simp [hid, hstatus] at hnot
  rcases htried with ⟨actorId, updated, t', heq⟩ | ⟨actorId, t', heq⟩ | ⟨actorId, t', heq⟩
  · exact hupdated actorId updated t' heq
  · exact hupdated actorId true t' heq
  · cases heq
    exact hrest file hfile (.inl ⟨actorId, false, t', rfl⟩)

/-- What the state is known for, and each call by its past. -/
theorem invariant_returned : Setting.Invariant (setting readers) (Allowed readers) Returned
    ownRowNotFailed (fun _ _ _ => true) (fun s => Keys s.db.files)
    (fun _ t s => AllKnown t s.db.files ∧ TriedIsReady t s.db.files)
    (fun v s => ∀ file, v = some file → Ready file.id s.db.files) where
  init s h := by
    rw [h.1]
    exact ⟨List.nodup_nil, List.nodup_nil⟩
  start i s _ := ⟨nofun, nofun⟩
  act i t a s choice s' r hkeys hpast _ hok hperform :=
    ⟨hkeys.step (rowStep_of_effect (effect_of_perform hperform)), hpast.1.perform hperform,
      hpast.2.perform hpast.1 hok hperform⟩
  aside i t a s choice s' r _ _ _ _ hperform := by
    have hstep := rowStep_of_effect (effect_of_perform hperform)
    exact ⟨fun j u _ _ h => ⟨h.1.step hstep, h.2.step hstep⟩,
      fun v h file hv => (h file hv).step hstep⟩
  returns i t v s _ hpast hreturned file hv := by
    obtain ⟨hfile, hcompleted⟩ := hreturned file hv
    exact hpast.2 file hfile (.inr hcompleted)
  release i s h := ⟨h, fun j u _ h => h, fun v h => h⟩
  move s r s' h hmove := by
    obtain ⟨hfiles, -, -⟩ := same_of_move hmove
    rw [hfiles]
    exact ⟨h, fun j u h => h, fun v h => h⟩

/-- **What an upload returns is ready**, in every run in which no upload finds its own row failed when
it completes it. -/
theorem returned_is_ready {c : State} (h : ((setting readers).system.restrict
      (Setting.admissible ownRowNotFailed fun _ _ _ => true)).Reachable c) {past : Past}
    {file : StoredFile} (hcall : ⟨past, .returned (some file)⟩ ∈ c.calls) :
    file ∈ reserved past ∧
      (c.shared.db.files.find? (·.id == file.id)).map (·.status) = some .ready := by
  have hholds := invariant_returned.of_reachable walks_code h
  have hwalked := Setting.walks_of_reachable walks_code
    (TransitionSystem.reachable_of_restrict h) _ hcall
  obtain ⟨i, hi⟩ := List.mem_iff_getElem?.1 hcall
  obtain ⟨row, hrow, hid, hready⟩ := hholds.2 i _ hi file rfl
  refine ⟨(hwalked file rfl).1, ?_⟩
  have hfound : c.shared.db.files.find? (·.id == file.id) = some row :=
    Table.find?_eq_some_of_unique hrow (by simp [hid]) fun row' hrow' hid' =>
      hholds.1.eq_of_id_eq hrow' hrow ((by simpa using hid' : row'.id = file.id).trans hid.symm)
  rw [hfound, Option.map_some, hready]

/-! ## What a ready file has -/

/-- The type the reader of a kind finds. -/
def detectedType (readers : Readers) : FileKind → Bytes → Option String
  | .image => validateImage readers
  | .material => materialType readers

/-- The object of the row is in the store, and is what the row records. -/
def Stored (readers : Readers) (objects : String → Option Bytes) (file : StoredFile) : Prop :=
  ∃ content, objects file.objectKey = some content ∧ isStored readers file content = true

/-- What is compared: the type, the size and the digest. -/
theorem isStored_iff {file : StoredFile} {content : Bytes} (h : isStored readers file content = true) :
    content.length = file.sizeBytes ∧ readers.sha256 content = file.sha256 ∧
      detectedType readers file.kind content = some file.detectedContentType := by
  rw [isStored] at h
  split at h
  · rename_i actual hread
    simp only [«matches», Bool.and_eq_true, beq_iff_eq] at h
    obtain ⟨⟨htype, hsize⟩, hdigest⟩ := h
    cases hkind : file.kind with
    | image =>
      rw [hkind] at hread
      simp only [read, readImage] at hread
      split at hread
      · cases hread
      · split at hread
        · cases hread
        · rename_i type hdetected
          cases hread
          exact ⟨hsize, hdigest, hdetected.trans (congrArg some htype)⟩
    | material =>
      rw [hkind] at hread
      simp only [read, readMaterial] at hread
      split at hread
      · cases hread
      · split at hread
        · cases hread
        · rename_i type hdetected
          cases hread
          exact ⟨hsize, hdigest, hdetected.trans (congrArg some htype)⟩
  · cases h

/-- What was compared does not change with the status of a row. -/
theorem SameFile.stored {objects : String → Option Bytes} {row file : StoredFile}
    (h : SameFile row file) (hstored : Stored readers objects file) : Stored readers objects row := by
  obtain ⟨content, hobject, hequal⟩ := hstored
  rw [SameFile] at h
  rw [h]
  exact ⟨content, hobject, hequal⟩

/-- No object is deleted whose row is ready. -/
def deletesUnneeded (s : Shared) (_ : Past) : Action → Bool
  | .deleteObject file => !s.db.files.any fun f => f.id == file.id && f.status == .ready
  | _ => true

/-- No object is deleted that another call has found to match, and is about to complete the row of. -/
def deletesUncompared (readers : Readers) (_ : Past) (a : Action) (other : Past) : Bool :=
  match a with
  | .deleteObject file => (comparedEqual readers other).all (·.id != file.id)
  | _ => true

/-- A step leaves the object of a row, if it is not the row whose object it deletes. -/
theorem Stored.step {a : Action} {objects objects' : String → Option Bytes} {file : StoredFile}
    (h : Stored readers objects file) (hstep : StoreStep a objects objects')
    (hkept : ∀ deleted, a = .deleteObject deleted → deleted.objectKey ≠ file.objectKey) :
    Stored readers objects' file := by
  obtain ⟨content, hobject, hequal⟩ := h
  cases hstep with
  | same => exact ⟨content, hobject, hequal⟩
  | put file' data content' ha hfree =>
    have hne : file.objectKey ≠ file'.objectKey := by
      intro heq
      rw [heq, hfree] at hobject
      cases hobject
    exact ⟨content, (if_neg hne).trans hobject, hequal⟩
  | deleted file' ha =>
    exact ⟨content, (if_neg (hkept file' ha).symm).trans hobject, hequal⟩

/-- Rows with different identifiers have different objects. -/
theorem Keys.objectKey_ne {files : List StoredFile} (h : Keys files) {file file' : StoredFile}
    (hfile : Known file files) (hfile' : Known file' files) (hne : file.id ≠ file'.id) :
    file.objectKey ≠ file'.objectKey := by
  obtain ⟨row, hrow, hsame⟩ := hfile
  obtain ⟨row', hrow', hsame'⟩ := hfile'
  intro heq
  refine hne ?_
  rw [← hsame.id_eq, ← hsame'.id_eq]
  refine congrArg _ (h.eq_of_objectKey_eq hrow hrow' ?_)
  rw [hsame.objectKey_eq, hsame'.objectKey_eq, heq]

/-- What a call has found to match has its object. -/
def ComparedIsStored (readers : Readers) (t : Past) (objects : String → Option Bytes) : Prop :=
  ∀ file, comparedEqual readers t = some file → Stored readers objects file

/-- The rows have keys of their own, and the ready ones have their objects. -/
structure ReadyStored (readers : Readers) (s : Shared) : Prop where
  keys : Keys s.db.files
  stored : ∀ f ∈ s.db.files, f.status = .ready → Stored readers s.objects f

theorem ReadyStored.perform {i : ℕ} {a : Action} {s s' : Shared} {choice : Choice} {r : a.Answer}
    {t : Past} (h : ReadyStored readers s) (hknown : AllKnown t s.db.files)
    (hcompared : ComparedIsStored readers t s.objects) (hallowed : Allowed readers t a)
    (hok : deletesUnneeded s t a = true) (hperform : a.perform i s choice = some (s', r)) :
    ReadyStored readers s' := by
  have hrows := rowStep_of_effect (effect_of_perform hperform)
  have hstore := storeStep_of_effect (effect_of_perform hperform)
  have hkept : ∀ f ∈ s.db.files, f.status = .ready → Stored readers s'.objects f := by
    intro f hf hready
    refine (h.stored f hf hready).step hstore ?_
    rintro deleted rfl
    refine h.keys.objectKey_ne (hknown deleted hallowed) ⟨f, hf, SameFile.refl f⟩ fun hid => ?_
    rw [deletesUnneeded, Bool.not_eq_true'] at hok
    have hnot := List.any_eq_false.1 hok f hf
    simp [hid, hready] at hnot
  refine ⟨h.keys.step hrows, fun row hrow hready => ?_⟩
  rcases ready_of_step hrows hrow hready with hrow | ⟨actorId, file, row₀, now, rfl, hrow₀, hid, rfl⟩
  · exact hkept row hrow hready
  · obtain ⟨hfile, hequal⟩ := hallowed
    obtain ⟨known, hknown', hsame⟩ := hknown file hfile
    obtain rfl : known = row₀ := h.keys.eq_of_id_eq hknown' hrow₀ (hsame.id_eq.trans hid.symm)
    exact (hsame.settle .ready now).stored ((hcompared file hequal).step hstore nofun)

/-- What another call has compared is still there. -/
theorem ComparedIsStored.aside {i : ℕ} {a : Action} {s s' : Shared} {choice : Choice} {r : a.Answer}
    {t u : Past} (h : ComparedIsStored readers u s.objects) (hkeys : Keys s.db.files)
    (hknown : AllKnown t s.db.files) (hother : AllKnown u s.db.files)
    (htaken : ∀ file, comparedEqual readers u = some file → file ∈ takenUp u)
    (hallowed : Allowed readers t a) (hapart : deletesUncompared readers t a u = true)
    (hperform : a.perform i s choice = some (s', r)) : ComparedIsStored readers u s'.objects := by
  intro file hfile
  refine (h file hfile).step (storeStep_of_effect (effect_of_perform hperform)) ?_
  rintro deleted rfl
  refine hkeys.objectKey_ne (hknown deleted hallowed) (hother file (htaken file hfile)) fun hid => ?_
  rw [deletesUncompared, hfile, Option.all_some] at hapart
  exact bne_iff_ne.1 hapart hid.symm

/-- What a call has compared it has taken up. -/
def ComparedIsTaken (readers : Readers) (t : Past) : Prop :=
  ∀ file, comparedEqual readers t = some file → file ∈ takenUp t

theorem ComparedIsTaken.cons {a : Action} {r : a.Answer} {t : Past}
    (h : ComparedIsTaken readers t) (hallowed : Allowed readers t a) :
    ComparedIsTaken readers (⟨a, r⟩ :: t) := by
  intro file hfile
  cases a with
  | openObject file' =>
    simp only [comparedEqual, Option.ite_none_right_eq_some, Option.some.injEq] at hfile
    obtain ⟨-, rfl⟩ := hfile
    exact hallowed
  | readWork _ _ _ => exact h file hfile
  | readRole _ _ => exact h file hfile
  | _ => cases hfile

/-- What a call finds to match is there. -/
theorem ComparedIsStored.perform {i : ℕ} {a : Action} {s s' : Shared} {choice : Choice}
    {r : a.Answer} {t : Past} (h : ComparedIsStored readers t s.objects)
    (hperform : a.perform i s choice = some (s', r)) :
    ComparedIsStored readers (⟨a, r⟩ :: t) s'.objects := by
  intro file hfile
  cases a with
  | openObject file' =>
    simp only [comparedEqual, Option.ite_none_right_eq_some, Option.some.injEq] at hfile
    obtain ⟨hmatch, rfl⟩ := hfile
    cases choice with
    | plain =>
      cases hperform
      obtain ⟨answer, hanswer, hmatch⟩ := (Option.any_eq_true _ _).1 hmatch
      obtain ⟨content, hcontent, hequal⟩ := (Option.any_eq_true _ _).1 hmatch
      exact ⟨content, (Option.some.inj hanswer).trans hcontent, hequal⟩
    | refused =>
      cases hperform
      cases hmatch
    | _ => cases hperform
  | readWork _ _ _ | readRole _ _ =>
    refine (h file hfile).step (storeStep_of_effect (effect_of_perform hperform)) ?_
    intro key hkey
    cases hkey
  | _ => cases hfile

/-- What the state is known for, and each call by its past. -/
theorem invariant_stored : Setting.Invariant (setting readers) (Allowed readers) Returned
    deletesUnneeded (deletesUncompared readers) (ReadyStored readers)
    (fun _ t s => AllKnown t s.db.files ∧ ComparedIsTaken readers t ∧
      ComparedIsStored readers t s.objects)
    (fun _ _ => True) where
  init s h := by
    constructor
    · rw [h.1]
      exact ⟨List.nodup_nil, List.nodup_nil⟩
    · rw [h.1]
      exact nofun
  start i s _ := ⟨nofun, nofun, nofun⟩
  act i t a s choice s' r hs hpast hallowed hok hperform :=
    ⟨hs.perform hpast.1 hpast.2.2 hallowed hok hperform, hpast.1.perform hperform,
      hpast.2.1.cons hallowed, hpast.2.2.perform hperform⟩
  aside i t a s choice s' r hs hpast hallowed _ hperform :=
    ⟨fun j u _ hapart h => ⟨h.1.step (rowStep_of_effect (effect_of_perform hperform)), h.2.1,
      h.2.2.aside hs.keys hpast.1 h.1 h.2.1 hallowed hapart hperform⟩, fun _ _ => trivial⟩
  returns _ _ _ _ _ _ _ := trivial
  release i s h := ⟨⟨h.keys, h.stored⟩, fun j u _ h => h, fun _ _ => trivial⟩
  move s r s' h hmove := by
    obtain ⟨hfiles, hobjects, -⟩ := same_of_move hmove
    refine ⟨⟨?_, ?_⟩, ?_, fun _ _ => trivial⟩
    · rw [hfiles]
      exact h.keys
    · rw [hfiles, hobjects]
      exact h.stored
    · rw [hfiles, hobjects]
      exact fun j u h => h

/-- **A ready file is a stored file**, in every run in which no object is deleted whose row is ready
or whose row another call, having found the object to match, is about to complete. -/
theorem ready_is_stored {c : State} (h : ((setting readers).system.restrict
      (Setting.admissible deletesUnneeded (deletesUncompared readers))).Reachable c) :
    ∀ f ∈ c.shared.db.files, f.status = .ready → ∃ content,
      c.shared.objects f.objectKey = some content ∧ content.length = f.sizeBytes ∧
        readers.sha256 content = f.sha256 ∧
          detectedType readers f.kind content = some f.detectedContentType := by
  intro f hf hready
  have hholds := invariant_stored.of_reachable walks_code h
  obtain ⟨content, hobject, hequal⟩ := hholds.1.stored f hf hready
  exact ⟨content, hobject, isStored_iff hequal⟩

/-! ## Two uploads -/

/-- A gray image of one pixel. -/
def onePixel : Bytes :=
  [0x89, 0x50, 0x4e, 0x47, 0x0d, 0x0a, 0x1a, 0x0a, 0x00, 0x00, 0x00, 0x0d, 0x49, 0x48, 0x44, 0x52,
    0x00, 0x00, 0x00, 0x01, 0x00, 0x00, 0x00, 0x01, 0x08, 0x00, 0x00, 0x00, 0x00, 0x3a, 0x7e, 0x9b,
    0x55, 0x00, 0x00, 0x00, 0x0a, 0x49, 0x44, 0x41, 0x54, 0x78, 0xda, 0x63, 0x60, 0x00, 0x00, 0x00,
    0x02, 0x00, 0x01, 0xe5, 0x27, 0xde, 0xfc, 0x00, 0x00, 0x00, 0x00, 0x49, 0x45, 0x4e, 0x44, 0xae,
    0x42, 0x60, 0x82]

def onePixelDigest : Bytes :=
  [0xa4, 0xd4, 0xc0, 0x09, 0x61, 0x93, 0x11, 0xd9, 0xb8, 0x39, 0x04, 0xac, 0xfd, 0x62, 0xfe, 0x3b,
    0x7f, 0x91, 0x8c, 0x31, 0x25, 0x22, 0xbb, 0xcc, 0x6a, 0xd5, 0x1c, 0xde, 0xc4, 0xfd, 0x1e, 0xdf]

/-- What the libraries make of that image. -/
def onePixelReaders : Readers where
  sha256 data := if data = onePixel then onePixelDigest else []
  pillow data := if data = onePixel then some ("PNG", 1, 1) else none
  pypdf _ := none
  isPrintable c := 0x20 ≤ c.toNat && c.toNat < 0x7F

/-- Two accounts with access to a work, and no file. -/
def emptyWork : Shared where
  db := { Database.empty with
    workspaces := [⟨10, "club", none, 1, 1, none, none, none, none, none⟩]
    members := [⟨10, 1⟩, ⟨10, 2⟩]
    works := [⟨20, 10, "chess", "a game", "draft", "calm", 2, 2, 30, 1, none, none, none⟩]
    accesses := [⟨20, 10, 1, .collaborator⟩, ⟨20, 10, 2, .collaborator⟩] }
  objects _ := none
  locks _ := none

/-- The image, uploaded by one of them. -/
def uploadBy (actorId : Uuid) : Call :=
  .upload ⟨actorId, 10, 20, onePixel, "pixel.png", some "image/png", .image⟩

/-- The upload up to the reservation of the row. -/
def reserves (i : ℕ) (now : Timestamp) : List Event :=
  [.step i .plain, .step i .plain, .step i .plain, .step i (.clock now), .step i .plain,
    .step i .plain, .step i .plain, .step i .plain, .step i .plain, .step i (.fresh 30 31 now)]

/-- Another upload finds the row, its pending time over, and no object. -/
def findsNothing (i : ℕ) (now : Timestamp) : List Event :=
  [.step i .plain, .step i .plain, .step i .plain, .step i (.clock now), .step i .plain,
    .step i .plain, .step i .plain, .step i .plain, .step i .plain, .step i .plain]

/-- The object is stored and read back, and the row completed. -/
def completes (i : ℕ) (now : Timestamp) : List Event :=
  [.step i (.stored onePixel), .step i .plain, .step i .plain, .step i .plain,
    .step i (.clock now)]

/-- The other upload marks the row failed before the object is stored. -/
def failedMeanwhile : List Event :=
  [.start (uploadBy 1), .start (uploadBy 2)] ++ reserves 0 0 ++ findsNothing 1 120 ++
    [.step 1 .plain, .step 1 (.clock 120)] ++ completes 0 121 ++ [.step 0 .plain]

/-- The other upload deletes the object after the row was completed. -/
def deletedMeanwhile : List Event :=
  [.start (uploadBy 1), .start (uploadBy 2)] ++ reserves 0 0 ++ findsNothing 1 120 ++
    completes 0 121 ++ [.step 1 .plain]

/-- A configuration in which nothing has happened. -/
def begun (s : Shared) : State := ⟨s, []⟩

/-- The statuses of the rows, and the identifiers of what the calls have returned. -/
def summary (c : State) : List (Uuid × FileStatus) × List (Option Uuid) :=
  (c.shared.db.files.map fun f => (f.id, f.status), c.calls.map fun call =>
    match call.rest with
    | .returned (some file) => some file.id
    | _ => none)

theorem begun_init : (setting readers).system.init (begun emptyWork) :=
  ⟨⟨rfl, fun _ => rfl, fun _ => rfl⟩, rfl⟩

theorem row_of_summary {c : State} {id : Uuid} {status : FileStatus}
    (h : (id, status) ∈ (summary c).1) : ∃ f ∈ c.shared.db.files, f.id = id ∧ f.status = status := by
  obtain ⟨f, hf, heq⟩ := List.mem_map.1 h
  cases heq
  exact ⟨f, hf, rfl, rfl⟩

theorem returned_of_summary {c : State} {id : Uuid} (h : some id ∈ (summary c).2) :
    ∃ past file, ⟨past, .returned (some file)⟩ ∈ c.calls ∧ file.id = id := by
  obtain ⟨⟨past, p⟩, hcall, heq⟩ := List.mem_map.1 h
  dsimp only at heq
  split at heq
  · cases heq
    rename_i file
    exact ⟨past, file, hcall, rfl⟩
  · cases heq

/-- An upload returns a file whose row is failed. -/
theorem returned_failed :
    ∃ c past file, (setting onePixelReaders).system.Reachable c ∧
      ⟨past, .returned (some file)⟩ ∈ c.calls ∧
        ∃ row ∈ c.shared.db.files, row.id = file.id ∧ row.status = .failed := by
  have hrun : ((setting onePixelReaders).system.run (begun emptyWork) failedMeanwhile).map summary =
      some ([(30, .failed)], [some 30, none]) := by
    decide +kernel
  obtain ⟨c, hc, hsummary⟩ := Option.map_eq_some_iff.1 hrun
  have hreturned : some 30 ∈ (summary c).2 := by simp [hsummary]
  have hfailed : (30, FileStatus.failed) ∈ (summary c).1 := by simp [hsummary]
  obtain ⟨past, file, hcall, hid⟩ := returned_of_summary hreturned
  obtain ⟨row, hrow, hid', hstatus⟩ := row_of_summary hfailed
  exact ⟨c, past, file, ⟨_, _, begun_init, hc⟩, hcall, row, hrow, hid'.trans hid.symm, hstatus⟩

/-- The upload on its own. -/
def undisturbed : List Event :=
  [.start (uploadBy 1)] ++ reserves 0 0 ++ completes 0 1

/-- The theorem on the upload that nobody disturbs. -/
theorem returned_is_ready_undisturbed :
    ∃ c past file, ((setting onePixelReaders).system.restrict
        (Setting.admissible ownRowNotFailed fun _ _ _ => true)).Reachable c ∧
      ⟨past, .returned (some file)⟩ ∈ c.calls ∧ file ∈ reserved past ∧
        (c.shared.db.files.find? (·.id == file.id)).map (·.status) = some .ready := by
  have hrun : (((setting onePixelReaders).system.restrict
      (Setting.admissible ownRowNotFailed fun _ _ _ => true)).run (begun emptyWork)
        undisturbed).map summary = some ([(30, .ready)], [some 30]) := by
    decide +kernel
  obtain ⟨c, hc, hsummary⟩ := Option.map_eq_some_iff.1 hrun
  have hreturned : some 30 ∈ (summary c).2 := by simp [hsummary]
  obtain ⟨past, file, hcall, -⟩ := returned_of_summary hreturned
  have hreachable : ((setting onePixelReaders).system.restrict
      (Setting.admissible ownRowNotFailed fun _ _ _ => true)).Reachable c :=
    ⟨_, _, begun_init, hc⟩
  exact ⟨c, past, file, hreachable, hcall, returned_is_ready hreachable hcall⟩

/-- A ready file has no object. -/
theorem ready_without_object :
    ∃ c, (setting onePixelReaders).system.Reachable c ∧
      ∃ f ∈ c.shared.db.files, f.status = .ready ∧ c.shared.objects f.objectKey = none := by
  have hrun : (((setting onePixelReaders).system.run (begun emptyWork) deletedMeanwhile).map fun c =>
      c.shared.db.files.map fun f => (f.status, c.shared.objects f.objectKey)) =
      some [(.ready, none)] := by
    decide +kernel
  obtain ⟨c, hc, hrows⟩ := Option.map_eq_some_iff.1 hrun
  have hmem : (FileStatus.ready, (none : Option Bytes)) ∈
      c.shared.db.files.map fun f => (f.status, c.shared.objects f.objectKey) := by
    rw [hrows]
    exact List.mem_singleton_self _
  obtain ⟨f, hf, heq⟩ := List.mem_map.1 hmem
  exact ⟨c, ⟨_, _, begun_init, hc⟩, f, hf, (Prod.mk.inj heq).1, (Prod.mk.inj heq).2⟩

/-- The theorem on the upload that nobody disturbs. -/
theorem ready_is_stored_undisturbed :
    ∃ c, ((setting onePixelReaders).system.restrict
        (Setting.admissible deletesUnneeded (deletesUncompared onePixelReaders))).Reachable c ∧
      (∃ f ∈ c.shared.db.files, f.id = 30 ∧ f.status = .ready) ∧
        ∀ f ∈ c.shared.db.files, f.status = .ready → ∃ content,
          c.shared.objects f.objectKey = some content ∧ content.length = f.sizeBytes ∧
            onePixelReaders.sha256 content = f.sha256 ∧
              detectedType onePixelReaders f.kind content = some f.detectedContentType := by
  have hrun : (((setting onePixelReaders).system.restrict
      (Setting.admissible deletesUnneeded (deletesUncompared onePixelReaders))).run
        (begun emptyWork) undisturbed).map summary = some ([(30, .ready)], [some 30]) := by
    decide +kernel
  obtain ⟨c, hc, hsummary⟩ := Option.map_eq_some_iff.1 hrun
  have hreachable : ((setting onePixelReaders).system.restrict
      (Setting.admissible deletesUnneeded (deletesUncompared onePixelReaders))).Reachable c :=
    ⟨_, _, begun_init, hc⟩
  have hrow : (30, FileStatus.ready) ∈ (summary c).1 := by simp [hsummary]
  exact ⟨c, hreachable, row_of_summary hrow, ready_is_stored hreachable⟩

end Files

end Rulefolio
