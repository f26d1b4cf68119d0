import Rulefolio.Files.Completion

/-!
# Quotas

The files of a work are counted, and a row is added, under the advisory lock of the work. What is
counted is a sum over rows that other calls complete and fail without that lock; but a completion
leaves a row in the sum and a failure takes it out, so a sum that was taken under the lock can only
have become too large when the row is added.

The sum is taken over the rows the actor may see. An actor who may no longer see them may no longer
add a row either.

## Main definitions

* `WithinQuota` — the quotas of every work.
* `LockHeld`, `RoomCounted` — what a call knows by its past.

## Main results

* `quota_holds` — the quotas hold in every reachable configuration, and a call that was refused for a
  limit has made no row and put no object.
-/

namespace Rulefolio

namespace Files

variable {readers : Readers} {i : ℕ} {a : Action} {s s' : Shared} {choice : Choice} {r : a.Answer}

/-! ## Locks and accesses -/

/-- An action changes nothing in the database but the rows of `files`. -/
theorem db_of_effect (h : Effect i s a r s') : s'.db = { s.db with files := s'.db.files } := by
  cases h <;> rfl

theorem mayTouch_of_effect (h : Effect i s a r s') (actorId workspaceId workId : Uuid)
    (kind : FileKind) : mayTouch actorId workspaceId workId kind s'.db =
      mayTouch actorId workspaceId workId kind s.db := by
  rw [db_of_effect h]
  rfl

/-- What an action does to a lock: it is taken when it is free, or given up by who holds it. -/
inductive LockStep (i : ℕ) (locks : ℤ → Option ℕ) : (ℤ → Option ℕ) → Prop
  | same : LockStep i locks locks
  | locked (key : ℤ) (hfree : locks key = none ∨ locks key = some i) :
    LockStep i locks fun k => if k = key then some i else locks k
  | unlocked : LockStep i locks fun k => if locks k = some i then none else locks k

theorem lockStep_of_effect (h : Effect i s a r s') : LockStep i s.locks s'.locks := by
  cases h with
  | quiet => exact .same
  | put => exact .same
  | deleted => exact .same
  | locked workId hfree => exact .locked _ hfree
  | _ => exact .unlocked

/-- The lock of another call stays where it is. -/
theorem LockStep.other {locks locks' : ℤ → Option ℕ} (h : LockStep i locks locks') {j : ℕ}
    (hne : j ≠ i) {key : ℤ} (hheld : locks key = some j) : locks' key = some j := by
  cases h with
  | same => exact hheld
  | locked key' hfree =>
    have hkey : key ≠ key' := by
      rintro rfl
      rcases hfree with hfree | hfree
      · rw [hfree] at hheld
        cases hheld
      · rw [hfree] at hheld
        exact hne (Option.some.inj hheld).symm
    exact (if_neg hkey).trans hheld
  | unlocked =>
    have hother : locks key ≠ some i := by
      rw [hheld]
      exact fun heq => hne (Option.some.inj heq)
    exact (if_neg hother).trans hheld

/-- A call whose past says that it holds the lock of a work does. -/
def LockHeld (i : ℕ) (t : Past) (s : Shared) : Prop :=
  ∀ workId, holding t = some workId → s.locks (advisoryKey workId) = some i

theorem LockHeld.other {t : Past} {j : ℕ} (h : LockHeld j t s) (hne : j ≠ i)
    (hstep : LockStep i s.locks s'.locks) : LockHeld j t s' :=
  fun workId hworkId => hstep.other hne (h workId hworkId)

theorem holding_of_isQuiet {t : Past} (h : a.isQuiet r = true) : holding (⟨a, r⟩ :: t) = holding t := by
  cases a with
  | updateReady actorId file =>
    cases r with
    | true => cases h
    | false => rfl
  | lockWork _ => cases h
  | rollback => cases h
  | insertFile _ _ _ _ _ => cases h
  | updateFailed _ => cases h
  | _ => rfl

theorem LockHeld.effect {t : Past} (h : LockHeld i t s) (heffect : Effect i s a r s') :
    LockHeld i (⟨a, r⟩ :: t) s' := by
  intro workId hholding
  cases heffect with
  | quiet _ _ hquiet _ =>
    rw [holding_of_isQuiet hquiet] at hholding
    exact h workId hholding
  | locked workId' hfree =>
    obtain rfl := Option.some.inj hholding
    simp only [if_true]
  | put file data content kept hfree => exact h workId hholding
  | deleted file done => exact h workId hholding
  | _ => cases hholding

/-! ## The sums -/

/-- A selection from which an update may only take rows, without changing their sizes, has no more
rows and no larger sum afterwards. -/
theorem filter_update_le {p q : StoredFile → Bool} {f : StoredFile → StoredFile}
    (hq : ∀ row, p row = true → q (f row) = true → q row = true)
    (hsize : ∀ row, (f row).sizeBytes = row.sizeBytes) (files : List StoredFile) :
    ((Table.update p f files).filter q).length ≤ (files.filter q).length ∧
      totalBytes ((Table.update p f files).filter q) ≤ totalBytes (files.filter q) := by
  induction files with
  | nil => exact ⟨le_refl _, le_refl _⟩
  | cons row files ih =>
    rw [Table.update_cons]
    by_cases hp : p row = true
    · rw [if_pos hp]
      by_cases hkept : q (f row) = true
      · rw [List.filter_cons_of_pos hkept, List.filter_cons_of_pos (hq row hp hkept)]
        simp only [List.length_cons, totalBytes, List.map_cons, List.sum_cons, hsize]
        simp only [totalBytes] at ih
        omega
      · rw [List.filter_cons_of_neg hkept]
        by_cases hrow : q row = true
        · rw [List.filter_cons_of_pos hrow]
          simp only [List.length_cons, totalBytes, List.map_cons, List.sum_cons]
          simp only [totalBytes] at ih
          omega
        · rw [List.filter_cons_of_neg hrow]
          exact ih
    · rw [if_neg hp]
      by_cases hrow : q row = true
      · rw [List.filter_cons_of_pos hrow, List.filter_cons_of_pos hrow]
        simp only [List.length_cons, totalBytes, List.map_cons, List.sum_cons]
        simp only [totalBytes] at ih
        omega
      · rw [List.filter_cons_of_neg hrow, List.filter_cons_of_neg hrow]
        exact ih

/-- The sums of a work are at most these. -/
def AtMost (workspaceId workId : Uuid) (kind : FileKind) (count total : ℕ) (db : Database) : Prop :=
  (counted workspaceId workId kind db).length ≤ count ∧
    totalBytes (counted workspaceId workId kind db) ≤ total

/-- The quotas of every work. -/
def WithinQuota (db : Database) : Prop :=
  ∀ workspaceId workId kind,
    AtMost workspaceId workId kind (maxCount kind) (maxTotalBytes kind) db

variable {workspaceId workId : Uuid} {kind : FileKind} {count total : ℕ}

theorem AtMost.complete {db : Database} (h : AtMost workspaceId workId kind count total db)
    (fileId : Uuid) (status : FileStatus) (now : Timestamp) :
    AtMost workspaceId workId kind count total (completeFiles fileId status now db) := by
  obtain ⟨hlength, htotal⟩ := filter_update_le
    (p := fun f => f.id == fileId && f.status == .pending)
    (q := fun f => f.workspaceId == workspaceId && f.workId == workId && f.kind == kind &&
      (f.status == .pending || f.status == .ready))
    (f := fun f => { f with status := status, completedAt := some now })
    (fun row hp hq => by
      simp only [Bool.and_eq_true, beq_iff_eq, Bool.or_eq_true] at hp hq ⊢
      exact ⟨hq.1, .inl hp.2⟩)
    (fun row => rfl) db.files
  exact ⟨hlength.trans h.1, htotal.trans h.2⟩

/-- The work, the workspace and the kind of a new row. -/
def IsFor (workspaceId workId : Uuid) (kind : FileKind) : Action → Prop
  | .insertFile _ workspaceId' workId' kind' _ =>
    workspaceId' = workspaceId ∧ workId' = workId ∧ kind' = kind
  | _ => False

/-- A step that adds no row to these sums makes them no larger. -/
theorem AtMost.effect (h : AtMost workspaceId workId kind count total s.db)
    (heffect : Effect i s a r s') (hother : ¬IsFor workspaceId workId kind a) :
    AtMost workspaceId workId kind count total s'.db := by
  cases heffect with
  | inserted actorId workspaceId' workId' kind' upload file id objectId now hfile hmay hid hkey =>
    have hnot : ¬(file.workspaceId == workspaceId && file.workId == workId && file.kind == kind &&
        (file.status == .pending || file.status == .ready)) = true := by
      intro hcounted
      simp only [Bool.and_eq_true, beq_iff_eq] at hcounted
      rw [hfile] at hcounted
      exact hother ⟨hcounted.1.1.1, hcounted.1.1.2, hcounted.1.2⟩
    have hsame : counted workspaceId workId kind { s.db with files := file :: s.db.files } =
        counted workspaceId workId kind s.db := List.filter_cons_of_neg hnot
    show (counted workspaceId workId kind { s.db with files := file :: s.db.files }).length ≤ _ ∧
      totalBytes (counted workspaceId workId kind { s.db with files := file :: s.db.files }) ≤ _
    rw [hsame]
    exact h
  | failed fileId now => exact h.complete fileId .failed now
  | completed actorId file now hpending hmay => exact h.complete file.id .ready now
  | _ => exact h

/-- What a call has just counted, and may still add to, has not become more. -/
def RoomCounted (t : Past) (db : Database) : Prop :=
  ∀ actorId workspaceId workId kind count total t',
    t = ⟨.countFiles actorId workspaceId workId kind, (count, total)⟩ :: t' →
      holding t' = some workId ∧ (mayTouch actorId workspaceId workId kind db = true →
        AtMost workspaceId workId kind count total db)

theorem RoomCounted.own {t : Past} (hallowed : Allowed readers t a)
    (hperform : a.perform i s choice = some (s', r)) : RoomCounted (⟨a, r⟩ :: t) s'.db := by
  rintro actorId workspaceId workId kind count total t' heq
  cases heq
  refine ⟨hallowed, fun hmay => ?_⟩
  cases choice with
  | plain =>
    simp only [Action.perform, Option.some.injEq, Prod.mk.injEq] at hperform
    obtain ⟨rfl, hlength, htotal⟩ := hperform
    rw [countedBy, if_pos hmay] at hlength htotal
    exact ⟨hlength.le, htotal.le⟩
  | _ => cases hperform

/-- While a call counts and adds, nobody else adds to the same sums. -/
theorem RoomCounted.other {t u : Past} {j : ℕ} (h : RoomCounted u s.db) (hheld : LockHeld j u s)
    (hne : j ≠ i) (hlock : LockHeld i t s) (hallowed : Allowed readers t a)
    (heffect : Effect i s a r s') : RoomCounted u s'.db := by
  rintro actorId workspaceId workId kind count total t' rfl
  obtain ⟨hholding, hroom⟩ := h _ _ _ _ _ _ _ rfl
  refine ⟨hholding, fun hmay => ?_⟩
  rw [mayTouch_of_effect heffect] at hmay
  refine (hroom hmay).effect heffect fun hfor => ?_
  -- Both calls would hold the lock of the work.
  cases a with
  | insertFile actorId' workspaceId' workId' kind' upload =>
    obtain ⟨-, rfl, -⟩ := hfor
    obtain ⟨count', total', t'', rfl, hholding', -⟩ := hallowed
    have hmine := hlock workId' hholding'
    have hother := hheld workId' hholding
    rw [hmine] at hother
    exact hne (Option.some.inj hother).symm
  | _ => exact hfor

/-- **A row is added only where there is room.** -/
theorem WithinQuota.effect {t : Past} (h : WithinQuota s.db) (hroom : RoomCounted t s.db)
    (hallowed : Allowed readers t a) (heffect : Effect i s a r s') : WithinQuota s'.db := by
  intro workspaceId workId kind
  by_cases hfor : IsFor workspaceId workId kind a
  · cases heffect with
    | inserted actorId workspaceId' workId' kind' upload file id objectId now hfile hmay hid hkey =>
      obtain ⟨rfl, rfl, rfl⟩ := hfor
      obtain ⟨count, total, t', rfl, -, hcount, htotal⟩ := hallowed
      obtain ⟨hlength, hsum⟩ := (hroom _ _ _ _ _ _ _ rfl).2 hmay
      have hcounted : counted workspaceId' workId' kind' { s.db with files := file :: s.db.files } =
          file :: counted workspaceId' workId' kind' s.db :=
        List.filter_cons_of_pos (by simp [hfile, newFile])
      show (counted workspaceId' workId' kind' { s.db with files := file :: s.db.files }).length ≤ _ ∧
        totalBytes (counted workspaceId' workId' kind' { s.db with files := file :: s.db.files }) ≤ _
      have hsize : file.sizeBytes = upload.sizeBytes := by rw [hfile]; rfl
      rw [hcounted]
      simp only [List.length_cons, totalBytes, List.map_cons, List.sum_cons, hsize]
      simp only [totalBytes] at hsum
      omega
    | quiet _ _ hquiet _ =>
      cases a with
      | insertFile _ _ _ _ _ => cases hquiet
      | _ => exact hfor.elim
    | _ => exact hfor.elim
  · exact (h workspaceId workId kind).effect heffect hfor

/-! ## Revocations -/

/-- A revocation lets nobody touch more files. -/
theorem mayTouch_of_revocation {db db' : Database} {revocation : Revocation} {actorId : Uuid}
    (h : revocation.apply db = some db')
    (hmay : mayTouch actorId workspaceId workId kind db' = true) :
    mayTouch actorId workspaceId workId kind db = true := by
  simp only [mayTouch, Bool.and_eq_true, List.any_eq_true] at hmay ⊢
  obtain ⟨⟨m, hm, hmember⟩, access, haccess, hrole⟩ := hmay
  cases revocation with
  | access workId' accountId =>
    cases h
    exact ⟨⟨m, hm, hmember⟩, access, (Table.mem_delete.1 haccess).1, hrole⟩
  | role workId' accountId newRole =>
    simp only [Revocation.apply, Option.ite_none_left_eq_some, Option.some.injEq] at h
    obtain ⟨hnew, rfl⟩ := h
    refine ⟨⟨m, hm, hmember⟩, ?_⟩
    rcases Table.mem_update.1 haccess with ⟨access₀, haccess₀, -, rfl⟩ | ⟨haccess, -⟩
    · refine ⟨access₀, haccess₀, hrole.1, ?_⟩
      have hkind : (kind == .image || newRole == .maintainer) = true := hrole.2
      rw [show (newRole == .maintainer) = false by simpa using hnew, Bool.or_false] at hkind
      rw [hkind, Bool.true_or]
    · exact ⟨access, haccess, hrole⟩
  | member workspaceId' accountId =>
    cases h
    exact ⟨⟨m, (Table.mem_delete.1 hm).1, hmember⟩, access, (Table.mem_delete.1 haccess).1, hrole⟩

theorem counted_of_files {db db' : Database} (h : db'.files = db.files) :
    counted workspaceId workId kind db' = counted workspaceId workId kind db := by
  rw [counted, h, counted]

/-! ## Runs -/

theorem invariant_quota : Setting.Invariant (setting readers) (Allowed readers) Returned
    (fun _ _ _ => true) (fun _ _ _ => true) (fun s => WithinQuota s.db)
    (fun i t s => LockHeld i t s ∧ RoomCounted t s.db) (fun _ _ => True) where
  init s h workspaceId workId kind := by
    have hnone : counted workspaceId workId kind s.db = [] := by rw [counted, h.1]; rfl
    constructor
    · rw [hnone]
      exact Nat.zero_le _
    · rw [hnone]
      exact Nat.zero_le _
  start i s _ := ⟨nofun, nofun⟩
  act i t a s choice s' r hs hpast hallowed _ hperform :=
    ⟨hs.effect hpast.2 hallowed (effect_of_perform hperform),
      hpast.1.effect (effect_of_perform hperform), RoomCounted.own hallowed hperform⟩
  aside i t a s choice s' r _ hpast hallowed _ hperform := by
    have heffect := effect_of_perform hperform
    exact ⟨fun j u hne _ h => ⟨h.1.other hne (lockStep_of_effect heffect),
      h.2.other h.1 hne hpast.1 hallowed heffect⟩, fun _ _ => trivial⟩
  returns _ _ _ _ _ _ _ := trivial
  release i s h :=
    ⟨h, fun j u hne h => ⟨h.1.other hne .unlocked, h.2⟩, fun _ _ => trivial⟩
  move s revocation s' h hmove := by
    obtain ⟨hfiles, -, hlocks⟩ := same_of_move hmove
    obtain ⟨db, hdb, rfl⟩ := Option.map_eq_some_iff.1 hmove
    refine ⟨fun workspaceId workId kind => ?_, fun j u h => ⟨h.1, ?_⟩, fun _ _ => trivial⟩
    · rw [AtMost, counted_of_files hfiles]
      exact h workspaceId workId kind
    · intro actorId workspaceId workId kind count total t' heq
      obtain ⟨hholding, hroom⟩ := h.2 actorId workspaceId workId kind count total t' heq
      refine ⟨hholding, fun hmay => ?_⟩
      rw [AtMost, counted_of_files hfiles]
      exact hroom (mayTouch_of_revocation hdb hmay)

/-- **The quotas of every work hold**, and an upload that is refused for a limit has made no row and
put no object. -/
theorem quota_holds {c : State} (h : (setting readers).system.Reachable c) :
    (∀ workspaceId workId kind,
      (counted workspaceId workId kind c.shared.db).length ≤ maxCount kind ∧
        ((counted workspaceId workId kind c.shared.db).map (·.sizeBytes)).sum ≤
          maxTotalBytes kind) ∧
      ∀ past e, ⟨past, .raised e⟩ ∈ c.calls → e.isLimit = true → Spotless past := by
  have hall : ((setting readers).system.restrict
      (Setting.admissible (fun _ _ _ => true) fun _ _ _ => true)).Reachable c := by
    rw [Setting.admissible_true]
    exact TransitionSystem.restrict_of_reachable h
  refine ⟨(invariant_quota.of_reachable walks_code hall).1, fun past e hcall hlimit => ?_⟩
  rcases Setting.walks_of_reachable walks_code h _ hcall with hrefused | rfl
  · exact hrefused hlimit
  · cases hlimit

/-- The theorem on the upload that nobody disturbs. -/
theorem quota_holds_undisturbed :
    ∃ c, (setting onePixelReaders).system.Reachable c ∧ summary c = ([(30, .ready)], [some 30]) ∧
      (∀ workspaceId workId kind,
        (counted workspaceId workId kind c.shared.db).length ≤ maxCount kind ∧
          ((counted workspaceId workId kind c.shared.db).map (·.sizeBytes)).sum ≤
            maxTotalBytes kind) ∧
        ∀ past e, ⟨past, .raised e⟩ ∈ c.calls → e.isLimit = true → Spotless past := by
  have hrun : ((setting onePixelReaders).system.run (begun emptyWork) undisturbed).map summary =
      some ([(30, .ready)], [some 30]) := by
    decide +kernel
  obtain ⟨c, hc, hsummary⟩ := Option.map_eq_some_iff.1 hrun
  have hreachable : (setting onePixelReaders).system.Reachable c := ⟨_, _, begun_init, hc⟩
  exact ⟨c, hreachable, hsummary, quota_holds hreachable⟩

end Files

end Rulefolio
