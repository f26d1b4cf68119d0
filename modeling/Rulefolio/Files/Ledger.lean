import Rulefolio.Files.Completion

/-!
# Every file is accounted for

What holds of the files and the store in every order of uploads, reconcilers and revocations, with
no condition on the steps. A row is settled once and otherwise never changes. No object is in the
store that is not recorded in a row. And a file is ready because exactly one call has made it so,
which had read the object back before and found what the row records.

What the last says of the object is said of the moment it was read: it may be deleted later
(`ready_without_object`).

## Main definitions

* `Settles` — what becomes of the rows.
* `Verified` — a call has read the object back and then completed the row.
* `Accounted`.

## Main results

* `files_accounted`.
-/

namespace Rulefolio

namespace Files

open TransitionSystem (Reachable)

variable {readers : Readers} {c c' : State}

/-! ## Rows settle -/

/-- The rows are still there. Those that were pending may have been settled, and nothing else of
them has changed. -/
def Settles (files files' : List StoredFile) : Prop :=
  ∀ row ∈ files, ∃ row' ∈ files', SameFile row' row ∧
    (row.status ≠ .pending ∨ row'.status = .pending → row' = row)

theorem Settles.refl (files : List StoredFile) : Settles files files :=
  fun row hrow => ⟨row, hrow, SameFile.refl row, fun _ => rfl⟩

theorem SameFile.trans {row row' row'' : StoredFile} (h : SameFile row' row)
    (h' : SameFile row'' row') : SameFile row'' row := by
  rw [SameFile] at h h' ⊢
  rw [h', h]

theorem Settles.trans {files files' files'' : List StoredFile} (h : Settles files files')
    (h' : Settles files' files'') : Settles files files'' := by
  intro row hrow
  obtain ⟨row', hrow', hsame, hstays⟩ := h row hrow
  obtain ⟨row'', hrow'', hsame', hstays'⟩ := h' row' hrow'
  refine ⟨row'', hrow'', hsame.trans hsame', ?_⟩
  rintro (hsettled | hpending)
  · obtain rfl := hstays (.inl hsettled)
    exact hstays' (.inl hsettled)
  · obtain rfl := hstays' (.inr hpending)
    exact hstays (.inr hpending)

theorem RowStep.settles {a : Action} {files files' : List StoredFile} (h : RowStep a files files') :
    Settles files files' := by
  intro row hrow
  cases h with
  | same => exact ⟨row, hrow, SameFile.refl row, fun _ => rfl⟩
  | added file => exact ⟨row, List.mem_cons_of_mem _ hrow, SameFile.refl row, fun _ => rfl⟩
  | settled fileId status hstatus _ now =>
    by_cases hp : (row.id == fileId && row.status == .pending) = true
    · refine ⟨_, Table.mem_update.2 (.inl ⟨row, hrow, hp, rfl⟩), (SameFile.refl row).settle _ _, ?_⟩
      rintro (hsettled | hpending)
      · exact absurd (beq_iff_eq.1 (Bool.and_eq_true_iff.1 hp).2) hsettled
      · exact absurd hpending hstatus
    · exact ⟨row, Table.mem_update.2 (.inr ⟨hrow, by simpa using hp⟩), SameFile.refl row,
        fun _ => rfl⟩

/-! ## Completing a row -/

/-- The entry of an update that has made the row with this key ready. -/
def isCompletion (id : Uuid) : (Σ a : Action, a.Answer) → Bool
  | ⟨.updateReady _ file, updated⟩ => file.id == id && updated
  | _ => false

/-- How many rows with this key are ready. -/
def readyCount (id : Uuid) (files : List StoredFile) : ℕ :=
  files.countP fun f => f.id == id && f.status == .ready

theorem readyCount_settled {files : List StoredFile} (fileId id : Uuid) {status : FileStatus}
    (h : status ≠ .ready ∨ fileId ≠ id) (now : Timestamp) :
    readyCount id (Table.update (fun f => f.id == fileId && f.status == .pending)
      (settledRow status now) files) = readyCount id files := by
  rw [readyCount, Table.update, List.countP_map]
  refine List.countP_congr fun f _ => ?_
  by_cases hp : (f.id == fileId && f.status == .pending) = true
  · obtain ⟨hid, hpending⟩ : f.id = fileId ∧ f.status = .pending := by simpa using hp
    rw [Function.comp_apply, if_pos hp]
    rcases h with h | h
    · simp [settledRow, h, hpending]
    · simp [settledRow, hid, h]
  · rw [Function.comp_apply, if_neg hp]

/-- Where rows have keys of their own, one that is pending becomes the one that is ready. -/
theorem readyCount_completed {files : List StoredFile} (hkeys : Keys files) {id : Uuid}
    (hpending : (files.any fun f => f.id == id && f.status == .pending) = true) (now : Timestamp) :
    readyCount id files = 0 ∧
      readyCount id (Table.update (fun f => f.id == id && f.status == .pending)
        (settledRow .ready now) files) = 1 := by
  obtain ⟨row, hrow, hp⟩ := List.any_eq_true.1 hpending
  obtain ⟨hid, hstatus⟩ : row.id = id ∧ row.status = .pending := by simpa using hp
  have hall : ∀ f ∈ files, f.id = id → f.status = .pending := by
    intro f hf hfid
    rw [hkeys.eq_of_id_eq hf hrow (hfid.trans hid.symm), hstatus]
  constructor
  · refine List.countP_eq_zero.2 fun f hf hready => ?_
    obtain ⟨hfid, hfready⟩ : f.id = id ∧ f.status = .ready := by simpa using hready
    rw [hall f hf hfid] at hfready
    cases hfready
  · have hcount : (files.map (·.id)).count id = 1 :=
      List.count_eq_one_of_mem hkeys.ids (List.mem_map.2 ⟨row, hrow, hid⟩)
    rw [← hcount, readyCount, Table.update, List.countP_map, List.count, List.countP_map]
    refine List.countP_congr fun f hf => ?_
    by_cases hfid : f.id = id
    · rw [Function.comp_apply, if_pos (by simp [hfid, hall f hf hfid])]
      simp [hfid, settledRow]
    · rw [Function.comp_apply, if_neg (by simp [hfid])]
      simp [hfid]

/-- An action completes a row if it is the update that says so. -/
theorem readyCount_of_effect {i : ℕ} {s s' : Shared} {a : Action} {r : a.Answer}
    (hkeys : Keys s.db.files) (h : Effect i s a r s') (id : Uuid) :
    readyCount id s'.db.files =
      readyCount id s.db.files + if isCompletion id ⟨a, r⟩ then 1 else 0 := by
  cases h with
  | quiet a r hquiet =>
    have hnone : isCompletion id ⟨a, r⟩ = false := by
      cases a with
      | updateReady actorId file =>
        rw [isCompletion, show r = false by simpa [Action.isQuiet] using hquiet, Bool.and_false]
      | _ => rfl
    rw [hnone]
    rfl
  | inserted actorId workspaceId workId kind upload file fileId objectId now hfile =>
    have hnot : ¬ (file.id == id && file.status == .ready) = true := by simp [hfile, newFile]
    show readyCount id (file :: s.db.files) = _
    rw [readyCount, List.countP_cons, if_neg hnot]
    rfl
  | failed fileId now =>
    have hstatus : FileStatus.failed ≠ .ready := nofun
    exact readyCount_settled fileId id (.inl hstatus) now
  | completed actorId file now hpending =>
    by_cases hid : file.id = id
    · subst hid
      obtain ⟨hbefore, hafter⟩ := readyCount_completed hkeys hpending now
      rw [isCompletion, beq_self_eq_true, hbefore]
      exact hafter
    · rw [isCompletion, beq_false_of_ne hid]
      exact readyCount_settled file.id id (.inr hid) now
  | _ => rfl

/-! ## Reading back -/

/-- A call read the object of the row, found what the row records, and completed the row after
that. -/
def Verified (readers : Readers) (t : Past) (row : StoredFile) : Prop :=
  ∃ later before actorId file content, t = later ++ ⟨.updateReady actorId file, true⟩ :: before ∧
    ⟨.openObject file, some (some content)⟩ ∈ before ∧ isStored readers file content = true ∧
      SameFile row file

theorem Verified.cons {t : Past} {row : StoredFile} (h : Verified readers t row)
    (entry : Σ a : Action, a.Answer) : Verified readers (entry :: t) row := by
  obtain ⟨later, before, actorId, file, content, rfl, hread⟩ := h
  exact ⟨entry :: later, before, actorId, file, content, rfl, hread⟩

/-- What was compared was read back. -/
theorem exists_openObject {t : Past} {file : StoredFile}
    (h : comparedEqual readers t = some file) :
    ∃ content, (⟨.openObject file, some (some content)⟩ : Σ a : Action, a.Answer) ∈ t ∧
      isStored readers file content = true := by
  induction t with
  | nil => cases h
  | cons entry t ih =>
    obtain ⟨a, r⟩ := entry
    cases a with
    | openObject file' =>
      rw [comparedEqual] at h
      split at h
      · rename_i hany
        cases h
        cases r with
        | none => cases hany
        | some found =>
          cases found with
          | none => cases hany
          | some content => exact ⟨content, List.mem_cons_self, hany⟩
      · cases h
    | readWork =>
      obtain ⟨content, hmem, hstored⟩ := ih h
      exact ⟨content, List.mem_cons_of_mem _ hmem, hstored⟩
    | readRole =>
      obtain ⟨content, hmem, hstored⟩ := ih h
      exact ⟨content, List.mem_cons_of_mem _ hmem, hstored⟩
    | _ => cases h

/-! ## The ledger -/

/-- **Every file is accounted for.** -/
structure Accounted (readers : Readers) (c : State) : Prop where
  /-- Rows have keys of their own, and so have their objects. -/
  keys : Keys c.shared.db.files
  /-- What a call has taken up is recorded. -/
  known : ∀ t ∈ Setting.pasts c, AllKnown t c.shared.db.files
  /-- No object is in the store that is not recorded in a row. -/
  recorded : ∀ key, c.shared.objects key ≠ none → ∃ row ∈ c.shared.db.files, row.objectKey = key
  /-- For each row that is ready, one update among all that the calls have done has made it so. -/
  completedOnce : ∀ id, (Setting.pasts c).flatten.countP (isCompletion id) =
    readyCount id c.shared.db.files
  /-- The call that made a row ready had read its object back. -/
  verified : ∀ row ∈ c.shared.db.files, row.status = .ready →
    ∃ t ∈ Setting.pasts c, Verified readers t row

/-- Where files and objects are the same and nothing has been done. -/
theorem Accounted.still (h : Accounted readers c)
    (hfiles : c'.shared.db.files = c.shared.db.files) (hobjects : c'.shared.objects = c.shared.objects)
    (hpasts : Setting.pasts c' = Setting.pasts c ∨ Setting.pasts c' = Setting.pasts c ++ [[]]) :
    Accounted readers c' := by
  have hsub : ∀ t ∈ Setting.pasts c, t ∈ Setting.pasts c' := by
    rcases hpasts with hpasts | hpasts <;> rw [hpasts]
    · exact fun t ht => ht
    · exact fun t ht => List.mem_append_left _ ht
  have hflat : (Setting.pasts c').flatten = (Setting.pasts c).flatten := by
    rcases hpasts with hpasts | hpasts <;> rw [hpasts]
    rw [List.flatten_append, List.flatten_singleton, List.append_nil]
  refine ⟨hfiles ▸ h.keys, fun t ht => ?_, ?_, fun id => ?_, fun row hrow hready => ?_⟩
  · rw [hfiles]
    rcases hpasts with hpasts | hpasts <;> rw [hpasts] at ht
    · exact h.known t ht
    · rcases List.mem_append.1 ht with ht | ht
      · exact h.known t ht
      · rw [List.mem_singleton.1 ht]
        exact nofun
  · rw [hfiles, hobjects]
    exact h.recorded
  · rw [hflat, hfiles]
    exact h.completedOnce id
  · obtain ⟨t, ht, hverified⟩ := h.verified row (hfiles ▸ hrow) hready
    exact ⟨t, hsub t ht, hverified⟩

/-- A put or a delete keeps the store recorded. -/
theorem recorded_of_effect {i : ℕ} {s s' : Shared} {a : Action} {r : a.Answer} {t : Past}
    (h : ∀ key, s.objects key ≠ none → ∃ row ∈ s.db.files, row.objectKey = key)
    (hallowed : Allowed readers t a) (hknown : AllKnown t s.db.files) (heffect : Effect i s a r s') :
    ∀ key, s'.objects key ≠ none → ∃ row ∈ s'.db.files, row.objectKey = key := by
  intro key hkey
  have hbefore : ∃ row ∈ s.db.files, row.objectKey = key := by
    have hstore := storeStep_of_effect heffect
    generalize s'.objects = objects' at hstore hkey
    cases hstore with
    | same => exact h key hkey
    | put file data content ha hfree =>
      by_cases hput : key = file.objectKey
      · subst ha
        obtain ⟨row, hrow, hsame⟩ := hknown file (reserved_subset_takenUp t hallowed)
        exact ⟨row, hrow, hsame.objectKey_eq.trans hput.symm⟩
      · exact h key (by simpa [hput] using hkey)
    | deleted file ha =>
      by_cases hdeleted : key = file.objectKey
      · exact absurd (by simp [hdeleted]) hkey
      · exact h key (by simpa [hdeleted] using hkey)
  obtain ⟨row, hrow, hrowKey⟩ := hbefore
  obtain ⟨row', hrow', hsame, -⟩ := (rowStep_of_effect heffect).settles row hrow
  exact ⟨row', hrow', hsame.objectKey_eq.trans hrowKey⟩

/-- An action of a call. -/
theorem Accounted.act (h : Accounted readers c) {i : ℕ} {past : Past} {a : Action} {r : a.Answer}
    {s' : Shared} (hpast : (Setting.pasts c)[i]? = some past) (hallowed : Allowed readers past a)
    {choice : Choice} (hperform : a.perform i c.shared choice = some (s', r))
    (hfiles : c'.shared.db.files = s'.db.files) (hobjects : c'.shared.objects = s'.objects)
    (hpasts : Setting.pasts c' = (Setting.pasts c).set i (⟨a, r⟩ :: past)) :
    Accounted readers c' := by
  have heffect := effect_of_perform hperform
  have hstep := rowStep_of_effect heffect
  have hmem : past ∈ Setting.pasts c := List.mem_of_getElem? hpast
  have hkept : ∀ t ∈ Setting.pasts c, ∃ t' ∈ Setting.pasts c',
      ∀ row, Verified readers t row → Verified readers t' row := by
    intro t ht
    obtain ⟨j, hj⟩ := List.mem_iff_getElem?.1 ht
    by_cases hij : i = j
    · subst hij
      obtain rfl := Option.some.inj (hpast.symm.trans hj)
      refine ⟨⟨a, r⟩ :: past, ?_, fun row hrow => hrow.cons _⟩
      rw [hpasts]
      exact List.mem_of_getElem? (by rw [List.getElem?_set_self', hpast]; rfl)
    · refine ⟨t, ?_, fun _ hrow => hrow⟩
      rw [hpasts]
      exact List.mem_of_getElem? ((List.getElem?_set_ne hij).trans hj)
  refine ⟨hfiles ▸ h.keys.step hstep, fun t ht => ?_, ?_, fun id => ?_, fun row hrow hready => ?_⟩
  · rw [hpasts] at ht
    rw [hfiles]
    rcases List.mem_or_eq_of_mem_set ht with ht | rfl
    · exact (h.known t ht).step hstep
    · exact (h.known past hmem).perform hperform
  · rw [hfiles, hobjects]
    exact recorded_of_effect h.recorded hallowed (h.known past hmem) heffect
  · rw [hpasts, Setting.countP_set hpast, h.completedOnce id, hfiles,
      readyCount_of_effect h.keys heffect id]
  · rw [hfiles] at hrow
    by_cases hold : row ∈ c.shared.db.files
    · obtain ⟨t, ht, hverified⟩ := h.verified row hold hready
      obtain ⟨t', ht', hlater⟩ := hkept t ht
      exact ⟨t', ht', hlater row hverified⟩
    · -- This is the update that completes the row.
      obtain ⟨actorId, file, row₀, now, rfl, hrow₀, hid, rfl⟩ :=
        (ready_of_step hstep hrow hready).resolve_left hold
      cases heffect with
      | quiet => exact absurd hrow hold
      | completed =>
        obtain ⟨htaken, hequal⟩ := hallowed
        obtain ⟨content, hread, hstored⟩ := exists_openObject hequal
        obtain ⟨row₁, hrow₁, hsame⟩ := h.known past hmem file htaken
        obtain rfl := h.keys.eq_of_id_eq hrow₁ hrow₀ (hsame.id_eq.trans hid.symm)
        refine ⟨⟨.updateReady actorId file, true⟩ :: past, ?_, [], past, actorId, file, content, rfl,
          hread, hstored, hsame.settle .ready now⟩
        rw [hpasts]
        exact List.mem_of_getElem? (by rw [List.getElem?_set_self', hpast]; rfl)

theorem Accounted.step (h : Accounted readers c)
    (hwalked : ∀ call ∈ c.calls, Setting.Running.Walked (setting readers) (Allowed readers) Returned
      Refused call) {e : Event} (hstep : (setting readers).step c e = some c') :
    Accounted readers c' := by
  rcases Setting.pasts_of_step hstep with ⟨i, past, a, k, choice, s', r, hcall, hperform, hshared,
    hpasts⟩ | ⟨hshared, hpasts⟩
  · have hpast : (Setting.pasts c)[i]? = some past := by
      rw [Setting.pasts, List.getElem?_map, hcall]
      rfl
    have hallowed : Allowed readers past a := (hwalked _ (List.mem_of_getElem? hcall)).1
    refine h.act hpast hallowed hperform ?_ ?_ hpasts
    · rcases hshared with hshared | hshared <;> rw [hshared]
      rfl
    · rcases hshared with hshared | hshared <;> rw [hshared]
      rfl
  · have hsame : c'.shared.db.files = c.shared.db.files ∧ c'.shared.objects = c.shared.objects := by
      rcases hshared with hshared | ⟨i, hshared⟩ | ⟨revocation, hmove⟩
      · rw [hshared]
        exact ⟨rfl, rfl⟩
      · rw [hshared]
        exact ⟨rfl, rfl⟩
      · obtain ⟨hfiles, hobjects, -⟩ := same_of_move hmove
        exact ⟨hfiles, hobjects⟩
    exact h.still hsame.1 hsame.2 hpasts

/-- What one event makes of the rows. -/
theorem settles_of_step {e : Event} (hstep : (setting readers).step c e = some c') :
    Settles c.shared.db.files c'.shared.db.files := by
  rcases Setting.pasts_of_step hstep with ⟨i, past, a, k, choice, s', r, -, hperform, hshared, -⟩ |
    ⟨hshared, -⟩
  · have hsettles := (rowStep_of_effect (effect_of_perform hperform)).settles
    rcases hshared with hshared | hshared <;> rw [hshared] <;> exact hsettles
  · rcases hshared with hshared | ⟨i, hshared⟩ | ⟨revocation, hmove⟩
    · rw [hshared]
      exact Settles.refl _
    · rw [hshared]
      exact Settles.refl _
    · rw [(same_of_move hmove).1]
      exact Settles.refl _

theorem accounted_of_init (h : (setting readers).system.init c) : Accounted readers c := by
  obtain ⟨⟨hfiles, hobjects, -⟩, hcalls⟩ := h
  have hpasts : Setting.pasts c = [] := by rw [Setting.pasts, hcalls, List.map_nil]
  refine ⟨?_, ?_, fun key hkey => absurd (hobjects key) hkey, fun id => ?_, fun row hrow => ?_⟩
  · rw [hfiles]
    exact ⟨List.nodup_nil, List.nodup_nil⟩
  · rw [hpasts]
    intro t ht
    cases ht
  · rw [hpasts, hfiles]
    rfl
  · rw [hfiles] at hrow
    cases hrow

/-- **Every file is accounted for**, in whatever order any number of uploads, reconcilers and
revocations take their steps, and its row only settles. -/
theorem files_accounted (h : (setting readers).system.Reachable c) :
    Accounted readers c ∧ ∀ es c', (setting readers).system.run c es = some c' →
      Settles c.shared.db.files c'.shared.db.files := by
  have hinductive : TransitionSystem.Inductive (setting readers).system fun c : State =>
      (∀ call ∈ c.calls, Setting.Running.Walked (setting readers) (Allowed readers) Returned
        Refused call) ∧ Accounted readers c := by
    constructor
    · intro c hinit
      refine ⟨fun call hcall => ?_, accounted_of_init hinit⟩
      rw [hinit.2] at hcall
      cases hcall
    · rintro c e c' ⟨hwalked, hc⟩ hstep
      exact ⟨Setting.walked_of_step walks_code hwalked hstep, hc.step hwalked hstep⟩
  have hc := hinductive.of_reachable h
  refine ⟨hc.2, fun es c' hrun => ?_⟩
  exact hinductive.relates (R := fun c c' : State => Settles c.shared.db.files c'.shared.db.files)
    (fun _ => Settles.refl _) (fun _ _ _ h h' => h.trans h') (fun _ _ _ _ => settles_of_step) hc hrun

/-- The theorem on the run in which another upload deletes the object of a file that is ready. -/
theorem files_accounted_deletedMeanwhile :
    ∃ c, (setting onePixelReaders).system.Reachable c ∧
      summary c = ([(30, .ready)], [some 30, none]) ∧ Accounted onePixelReaders c ∧
        ∀ es c', (setting onePixelReaders).system.run c es = some c' →
          Settles c.shared.db.files c'.shared.db.files := by
  have hrun : ((setting onePixelReaders).system.run (begun emptyWork) deletedMeanwhile).map
      summary = some ([(30, .ready)], [some 30, none]) := by
    decide +kernel
  obtain ⟨c, hc, hsummary⟩ := Option.map_eq_some_iff.1 hrun
  have hreachable : (setting onePixelReaders).system.Reachable c := ⟨_, _, begun_init, hc⟩
  exact ⟨c, hreachable, hsummary, files_accounted hreachable⟩

end Files

end Rulefolio
