import Rulefolio.Files.Service

/-!
# What an upload has done when it acts

The order of the actions of a call, read off its code. It is a matter of the code alone: what the
database and the store make of the actions comes later, and so do the other calls.

Five things are said of it. A file is handled only after its row was read or made. A row is marked
ready only right after its object was read and found to match, with nothing in between but checks of
the access. The files of a work are counted, and a row is added, only under the lock of the work, and
the row is added right after a count that leaves room for it. An upload returns its own file only
after the conditional update. An upload that is refused for a limit has made no row and put no
object.

## Main definitions

* `takenUp`, `reserved`, `comparedEqual`, `holding` — what a past says.
* `Allowed`, `Returned`, `Refused` — what a call does after which past.

## Main results

* `walks_code` — the calls of the setting do what these say.
-/

namespace Rulefolio

namespace Files

open Process (walks_perform_bind)

/-- What a call has done. -/
abbrev Past := Process.Past Action Action.Answer

/-! ## What a past says -/

/-- The rows the call has read or made. -/
def takenUp : Past → List StoredFile
  | [] => []
  | ⟨.selectPending _ _ _ _ _, some file⟩ :: t => file :: takenUp t
  | ⟨.insertFile _ _ _ _ _, file⟩ :: t => file :: takenUp t
  | _ :: t => takenUp t

/-- The rows it has made. -/
def reserved : Past → List StoredFile
  | [] => []
  | ⟨.insertFile _ _ _ _ _, file⟩ :: t => file :: reserved t
  | _ :: t => reserved t

/-- The file whose object it has found to match, as long as it has only checked its access since. -/
def comparedEqual (readers : Readers) : Past → Option StoredFile
  | ⟨.openObject file, answer⟩ :: _ =>
    if answer.any (·.any (isStored readers file)) then some file else none
  | ⟨.readWork _ _ _, _⟩ :: t => comparedEqual readers t
  | ⟨.readRole _ _, _⟩ :: t => comparedEqual readers t
  | _ => none

/-- The work whose lock it holds. -/
def holding : Past → Option Uuid
  | [] => none
  | ⟨.lockWork workId, _⟩ :: _ => some workId
  | ⟨.rollback, _⟩ :: _ => none
  | ⟨.insertFile _ _ _ _ _, _⟩ :: _ => none
  | ⟨.updateFailed _, _⟩ :: _ => none
  | ⟨.updateReady _ _, true⟩ :: _ => none
  | _ :: t => holding t

/-- The call has made no row and put no object with these actions. -/
def Spotless (t : Past) : Prop :=
  ∀ entry ∈ t, (∀ actorId workspaceId workId kind upload,
    entry.1 ≠ .insertFile actorId workspaceId workId kind upload) ∧
      ∀ file data, entry.1 ≠ .putObject file data

/-- The later past, with nothing made or put since. -/
def Longer (t t' : Past) : Prop :=
  ∃ since, t' = since ++ t ∧ Spotless since

/-- The later past, with only checks of the access since. -/
def Checked (t t' : Past) : Prop :=
  ∃ since, t' = since ++ t ∧ ∀ entry ∈ since,
    (∃ actorId workspaceId workId, entry.1 = .readWork actorId workspaceId workId) ∨
      ∃ workId accountId, entry.1 = .readRole workId accountId

/-! ## What a call does -/

variable (readers : Readers)

/-- What a call may do with a past. -/
def Allowed (t : Past) : Action → Prop
  | .putObject file _ => file ∈ reserved t
  | .openObject file => file ∈ takenUp t
  | .deleteObject file => file ∈ takenUp t
  | .updateReady _ file => file ∈ takenUp t ∧ comparedEqual readers t = some file
  | .countFiles _ _ workId _ => holding t = some workId
  | .insertFile actorId workspaceId workId kind upload => ∃ count total t',
    t = ⟨.countFiles actorId workspaceId workId kind, (count, total)⟩ :: t' ∧
      holding t' = some workId ∧ count < maxCount kind ∧
        total + upload.sizeBytes ≤ maxTotalBytes kind
  | _ => True

/-- The conditional update of the row was the last thing done, but for a rollback where it found the
row settled already. -/
def Completed (t : Past) (file : StoredFile) : Prop :=
  (∃ actorId t', t = ⟨.updateReady actorId file, true⟩ :: t') ∨
    ∃ actorId t', t = ⟨.rollback, ()⟩ :: ⟨.updateReady actorId file, false⟩ :: t'

/-- What an upload returns. -/
def Returned (t : Past) (v : Option StoredFile) : Prop :=
  ∀ file, v = some file → file ∈ reserved t ∧ Completed t file

/-- The exception of a limit. -/
def FileError.isLimit : FileError → Bool
  | .imageLimitExceeded => true
  | .materialLimitExceeded => true
  | _ => false

/-- What an upload raises. -/
def Refused (t : Past) (e : FileError) : Prop :=
  e.isLimit = true → Spotless t

/-! ## Growing pasts -/

theorem spotless_nil : Spotless [] := by
  intro entry hentry
  cases hentry

theorem Spotless.append {t t' : Past} (h : Spotless t) (h' : Spotless t') : Spotless (t ++ t') := by
  intro entry hentry
  rcases List.mem_append.1 hentry with hentry | hentry
  · exact h entry hentry
  · exact h' entry hentry

theorem Longer.refl (t : Past) : Longer t t :=
  ⟨[], rfl, spotless_nil⟩

theorem Longer.trans {t t' t'' : Past} (h : Longer t t') (h' : Longer t' t'') : Longer t t'' := by
  obtain ⟨since, rfl, hsince⟩ := h
  obtain ⟨since', rfl, hsince'⟩ := h'
  exact ⟨since' ++ since, by rw [List.append_assoc], hsince'.append hsince⟩

/-- One more action that makes and puts nothing. -/
theorem Longer.cons {t t' : Past} (h : Longer t t') (a : Action) (r : a.Answer)
    (hinsert : ∀ actorId workspaceId workId kind upload,
      a ≠ .insertFile actorId workspaceId workId kind upload)
    (hput : ∀ file data, a ≠ .putObject file data) : Longer t (⟨a, r⟩ :: t') := by
  refine h.trans ⟨[⟨a, r⟩], rfl, ?_⟩
  intro entry hentry
  obtain rfl := List.mem_singleton.1 hentry
  exact ⟨hinsert, hput⟩

theorem Longer.spotless {t t' : Past} (h : Longer t t') (ht : Spotless t) : Spotless t' := by
  obtain ⟨since, rfl, hsince⟩ := h
  exact hsince.append ht

theorem subset_takenUp_cons (entry : Σ a : Action, a.Answer) (t : Past) :
    takenUp t ⊆ takenUp (entry :: t) := by
  obtain ⟨a, r⟩ := entry
  cases a with
  | selectPending _ _ _ _ _ =>
    cases r with
    | none => exact List.Subset.refl _
    | some file => exact List.subset_cons_self _ _
  | insertFile _ _ _ _ _ => exact List.subset_cons_self _ _
  | _ => exact List.Subset.refl _

theorem subset_reserved_cons (entry : Σ a : Action, a.Answer) (t : Past) :
    reserved t ⊆ reserved (entry :: t) := by
  obtain ⟨a, r⟩ := entry
  cases a with
  | insertFile _ _ _ _ _ => exact List.subset_cons_self _ _
  | _ => exact List.Subset.refl _

theorem Longer.takenUp {t t' : Past} (h : Longer t t') : takenUp t ⊆ takenUp t' := by
  obtain ⟨since, rfl, -⟩ := h
  induction since with
  | nil => exact List.Subset.refl _
  | cons entry since ih => exact List.Subset.trans ih (subset_takenUp_cons entry _)

theorem Longer.reserved {t t' : Past} (h : Longer t t') : reserved t ⊆ reserved t' := by
  obtain ⟨since, rfl, -⟩ := h
  induction since with
  | nil => exact List.Subset.refl _
  | cons entry since ih => exact List.Subset.trans ih (subset_reserved_cons entry _)

theorem reserved_subset_takenUp (t : Past) : reserved t ⊆ takenUp t := by
  induction t with
  | nil => exact List.Subset.refl _
  | cons entry t ih =>
    obtain ⟨a, r⟩ := entry
    cases a with
    | insertFile _ _ _ _ _ => exact List.cons_subset_cons _ ih
    | selectPending _ _ _ _ _ =>
      cases r with
      | none => exact ih
      | some file => exact List.subset_cons_of_subset _ ih
    | _ => exact ih

theorem Checked.refl (t : Past) : Checked t t :=
  ⟨[], rfl, by simp⟩

theorem Checked.readWork {t t' : Past} (h : Checked t t') (actorId workspaceId workId : Uuid)
    (r : Option Work) : Checked t (⟨.readWork actorId workspaceId workId, r⟩ :: t') := by
  obtain ⟨since, rfl, hsince⟩ := h
  refine ⟨_ :: since, rfl, fun entry hentry => ?_⟩
  rcases List.mem_cons.1 hentry with rfl | hentry
  · exact .inl ⟨_, _, _, rfl⟩
  · exact hsince entry hentry

theorem Checked.readRole {t t' : Past} (h : Checked t t') (workId accountId : Uuid)
    (r : Option WorkRole) : Checked t (⟨.readRole workId accountId, r⟩ :: t') := by
  obtain ⟨since, rfl, hsince⟩ := h
  refine ⟨_ :: since, rfl, fun entry hentry => ?_⟩
  rcases List.mem_cons.1 hentry with rfl | hentry
  · exact .inr ⟨_, _, rfl⟩
  · exact hsince entry hentry

theorem Checked.longer {t t' : Past} (h : Checked t t') : Longer t t' := by
  obtain ⟨since, rfl, hsince⟩ := h
  refine ⟨since, rfl, fun entry hentry => ?_⟩
  rcases hsince entry hentry with ⟨_, _, _, heq⟩ | ⟨_, _, heq⟩ <;> rw [heq] <;>
    exact ⟨nofun, nofun⟩

theorem Checked.induction {t t' : Past} (h : Checked t t') {P : Past → Prop} (ht : P t)
    (hwork : ∀ u actorId workspaceId workId r, P u →
      P (⟨.readWork actorId workspaceId workId, r⟩ :: u))
    (hrole : ∀ u workId accountId r, P u → P (⟨.readRole workId accountId, r⟩ :: u)) : P t' := by
  obtain ⟨since, rfl, hsince⟩ := h
  induction since with
  | nil => exact ht
  | cons entry since ih =>
    obtain ⟨a, r⟩ := entry
    have hrest := ih fun entry hentry => hsince entry (List.mem_cons_of_mem _ hentry)
    rcases hsince ⟨a, r⟩ List.mem_cons_self with ⟨_, _, _, heq⟩ | ⟨_, _, heq⟩ <;>
      obtain rfl := heq
    · exact hwork _ _ _ _ r hrest
    · exact hrole _ _ _ r hrest

theorem Checked.holding {t t' : Past} (h : Checked t t') : holding t' = holding t :=
  h.induction (P := fun u => Files.holding u = Files.holding t) rfl (fun _ _ _ _ _ h => h) fun _ _ _ _ h => h

theorem Checked.comparedEqual {t t' : Past} (h : Checked t t') :
    comparedEqual readers t' = comparedEqual readers t :=
  h.induction (P := fun u => Files.comparedEqual readers u = Files.comparedEqual readers t) rfl
    (fun _ _ _ _ _ h => h) fun _ _ _ _ h => h

/-! ## The parts of the code -/

variable {readers} {t : Past} {actorId workspaceId workId fileId : Uuid} {kind : FileKind}
  {file : StoredFile} {upload : UploadedFile}

/-- What is raised after a past that has grown, and is not a refusal. -/
def Failed (t t' : Past) (e : FileError) : Prop :=
  Longer t t' ∧ e.isLimit = false

theorem walks_ensureWorkAccess :
    (ensureWorkAccess actorId workspaceId workId).Walks (Allowed readers)
      (fun t' _ => Checked t t') (Failed t) t := by
  refine walks_perform_bind trivial fun work => ?_
  have hwork := (Checked.refl t).readWork actorId workspaceId workId work
  cases work with
  | none => exact ⟨trivial, fun _ => ⟨hwork.longer.cons .rollback _ nofun nofun, rfl⟩⟩
  | some work =>
    refine walks_perform_bind trivial fun role => ?_
    have hrole := hwork.readRole work.id actorId role
    cases role with
    | none => exact ⟨trivial, fun _ => ⟨hrole.longer.cons .rollback _ nofun nofun, rfl⟩⟩
    | some role => exact hrole

theorem walks_ensureWorkManagement :
    (ensureWorkManagement actorId workspaceId workId).Walks (Allowed readers)
      (fun t' _ => Checked t t') (Failed t) t := by
  refine walks_perform_bind trivial fun work => ?_
  have hwork := (Checked.refl t).readWork actorId workspaceId workId work
  cases work with
  | none => exact ⟨trivial, fun _ => ⟨hwork.longer.cons .rollback _ nofun nofun, rfl⟩⟩
  | some work =>
    refine walks_perform_bind trivial fun role => ?_
    have hrole := hwork.readRole work.id actorId role
    have hforbidden : ((act .rollback).bind fun _ => .raised .workManagementForbidden :
        Code Unit).Walks (Allowed readers) (fun t' _ => Checked t t') (Failed t)
        (⟨.readRole work.id actorId, role⟩ :: ⟨.readWork actorId workspaceId workId, some work⟩ :: t) :=
      ⟨trivial, fun _ => ⟨hrole.longer.cons .rollback _ nofun nofun, rfl⟩⟩
    cases role with
    | none => exact hforbidden
    | some role =>
      cases role with
      | maintainer => exact hrole
      | organizer => exact hforbidden
      | collaborator => exact hforbidden

theorem walks_ensureFor :
    (ensureFor kind actorId workspaceId workId).Walks (Allowed readers)
      (fun t' _ => Checked t t') (Failed t) t := by
  cases kind with
  | image => exact walks_ensureWorkAccess
  | material => exact walks_ensureWorkManagement

theorem walks_ensureManagerRequired :
    (ensureManagerRequired kind actorId workspaceId workId).Walks (Allowed readers)
      (fun t' _ => Checked t t') (Failed t) t := by
  cases kind with
  | image => exact Checked.refl t
  | material => exact walks_ensureWorkManagement

theorem walks_lockWorkForFiles :
    (lockWorkForFiles actorId workspaceId workId).Walks (Allowed readers)
      (fun t' _ => Longer t t' ∧ holding t' = some workId) (Failed t) t := by
  refine walks_perform_bind trivial fun r => ?_
  have hlocked := (Longer.refl t).cons (.lockWork workId) r nofun nofun
  refine walks_ensureWorkAccess.imp (fun t' _ h => ?_) fun t' e h => ?_
  · exact ⟨hlocked.trans h.longer, h.holding⟩
  · exact ⟨hlocked.trans h.1, h.2⟩

theorem walks_markReady (htaken : file ∈ takenUp t) (hequal : comparedEqual readers t = some file) :
    (markReady actorId workspaceId workId file kind).Walks (Allowed readers)
      (fun t' _ => Longer t t' ∧ Completed t' file) (Failed t) t := by
  refine walks_ensureFor.bind fun t₁ _ hchecked => ?_
  refine walks_perform_bind ⟨hchecked.longer.takenUp htaken,
    (hchecked.comparedEqual readers).trans hequal⟩ fun updated => ?_
  have hupdated := hchecked.longer.cons (.updateReady actorId file) updated nofun nofun
  cases updated with
  | true => exact ⟨hupdated, .inl ⟨actorId, t₁, rfl⟩⟩
  | false =>
    exact ⟨trivial, fun _ => ⟨hupdated.cons .rollback _ nofun nofun, .inr ⟨actorId, t₁, rfl⟩⟩⟩

theorem walks_storedMatches (htaken : file ∈ takenUp t) :
    (storedMatches readers file).Walks (Allowed readers)
      (fun t' equal => Longer t t' ∧ (equal = true → comparedEqual readers t' = some file))
      (Failed t) t := by
  refine walks_perform_bind htaken fun answer => ?_
  have hopened := (Longer.refl t).cons (.openObject file) answer nofun nofun
  cases answer with
  | none => exact ⟨hopened, rfl⟩
  | some content =>
    refine ⟨hopened, fun hequal => ?_⟩
    rw [comparedEqual, Option.any_some, hequal]
    rfl

theorem Failed.later {t₀ t t' : Past} {e : FileError} (h : Failed t t' e) (ht : Longer t₀ t) :
    Failed t₀ t' e :=
  ⟨ht.trans h.1, h.2⟩

/-- A program that makes and puts nothing can be begun later. -/
theorem walks_later {α : Type} {p : Code α} {Q : Past → α → Prop} {t₀ : Past} (ht : Longer t₀ t)
    (h : p.Walks (Allowed readers) Q (Failed t) t) : p.Walks (Allowed readers) Q (Failed t₀) t :=
  h.imp (fun _ _ h => h) fun _ _ h => h.later ht

/-- A rollback, and then the exception. -/
theorem walks_rollback_raise {α : Type} {Q : Past → α → Prop} {t₀ : Past} {e : FileError}
    (ht : Longer t₀ t) (he : e.isLimit = false) :
    ((act .rollback).bind fun _ => .raised e : Code α).Walks (Allowed readers) Q (Failed t₀) t :=
  ⟨trivial, fun r => ⟨ht.cons .rollback r nofun nofun, he⟩⟩

theorem walks_reconcilePending :
    (reconcilePending readers actorId workspaceId workId fileId kind).Walks (Allowed readers)
      (fun t' _ => Longer t t') (Failed t) t := by
  refine walks_ensureManagerRequired.bind fun t₁ _ h₁ => ?_
  refine (walks_later h₁.longer walks_lockWorkForFiles).bind fun t₂ _ h₂ => ?_
  have h₂ := h₁.longer.trans h₂.1
  refine walks_perform_bind trivial fun found => ?_
  have h₃ := h₂.cons (.selectPending actorId workspaceId workId fileId kind) found nofun nofun
  cases found with
  | none => exact ⟨trivial, fun _ => h₃.cons .rollback _ nofun nofun⟩
  | some file =>
    have htaken : file ∈ takenUp (⟨.selectPending actorId workspaceId workId fileId kind,
        some file⟩ :: t₂) := List.mem_cons_self
    refine (walks_storedMatches htaken).attempt.bind fun t₄ outcome h₄ => ?_
    cases outcome with
    | error e => exact walks_rollback_raise (h₃.trans h₄.1) h₄.2
    | ok equal =>
      have htaken := h₄.1.takenUp htaken
      have hlonger := h₃.trans h₄.1
      cases equal with
      | false =>
        refine walks_perform_bind htaken fun deleted => ?_
        have h₅ := hlonger.cons (.deleteObject file) deleted nofun nofun
        cases deleted with
        | true => exact ⟨trivial, fun r => h₅.cons (.updateFailed file.id) r nofun nofun⟩
        | false => exact walks_rollback_raise h₅ rfl
      | true =>
        refine (walks_markReady htaken (h₄.2 rfl)).attempt.bind fun t₅ outcome h₅ => ?_
        cases outcome with
        | ok _ => exact hlonger.trans h₅.1
        | error e =>
          have htaken := h₅.1.takenUp htaken
          have hlonger := hlonger.trans h₅.1
          refine walks_perform_bind trivial fun found => ?_
          have h₆ := hlonger.cons (.refresh file) found nofun nofun
          cases found with
          | false => exact walks_rollback_raise h₆ rfl
          | true =>
            refine walks_perform_bind trivial fun failed => ?_
            have h₇ := h₆.cons (.updateFailed file.id) failed nofun nofun
            cases failed with
            | false => exact ⟨h₇, h₅.2⟩
            | true =>
              exact ⟨htaken, fun r => ⟨h₇.cons (.deleteObject file) r nofun nofun, h₅.2⟩⟩

theorem walks_recoverPending :
    (recoverPending readers actorId workspaceId workId kind).Walks (Allowed readers)
      (fun t' _ => Longer t t') (Failed t) t := by
  refine walks_ensureFor.bind fun t₁ _ h₁ => ?_
  refine walks_perform_bind trivial fun files => ?_
  refine walks_perform_bind trivial fun r => ?_
  have h₂ := (h₁.longer.cons (.pendingRecords actorId workspaceId workId kind) files nofun
    nofun).cons .rollback r nofun nofun
  refine Process.walks_forEach (fun t' file h => ?_) files _ h₂
  exact (walks_later h walks_reconcilePending).imp (fun _ _ h' => h.trans h') fun _ _ h' => h'

theorem walks_reserveFile (ht : Spotless t) :
    (reserveFile actorId workspaceId workId kind upload).Walks (Allowed readers)
      (fun t' file => file ∈ reserved t') Refused t := by
  have hrefused : ∀ t' e, Failed t t' e → Refused t' e := fun t' e h hlimit => by
    rw [h.2] at hlimit
    cases hlimit
  refine (walks_ensureManagerRequired.imp (fun _ _ h => h) hrefused).bind fun t₁ _ h₁ => ?_
  refine ((walks_later h₁.longer walks_lockWorkForFiles).imp (fun _ _ h => h) hrefused).bind
    fun t₂ _ h₂ => ?_
  have hlonger := h₁.longer.trans h₂.1
  refine walks_perform_bind h₂.2 fun found => ?_
  obtain ⟨count, total⟩ := found
  have hcounted := hlonger.cons (.countFiles actorId workspaceId workId kind) (count, total)
    nofun nofun
  dsimp only
  split
  · exact ⟨trivial, fun r _ => (hcounted.cons .rollback r nofun nofun).spotless ht⟩
  · rename_i hroom
    obtain ⟨hcount, htotal⟩ := not_or.1 hroom
    refine ⟨⟨count, total, t₂, rfl, h₂.2, by omega, by omega⟩, fun file => ?_⟩
    exact List.mem_cons_self

theorem walks_storeFile {u : Upload} (hfile : file ∈ reserved t) :
    (storeFile readers u upload file).Walks (Allowed readers)
      (fun t' v => v ∈ reserved t' ∧ Completed t' v) (fun _ e => e.isLimit = false) t := by
  refine walks_perform_bind hfile fun kept => ?_
  cases kept with
  | false => exact rfl
  | true =>
    have htaken : file ∈ takenUp (⟨.putObject file upload.data, true⟩ :: t) :=
      reserved_subset_takenUp _ hfile
    refine ((walks_storedMatches htaken).imp (fun _ _ h => h) fun _ _ h => h.2).bind
      fun t₁ equal h₁ => ?_
    have htaken := h₁.1.takenUp htaken
    cases equal with
    | false =>
      refine walks_perform_bind htaken fun deleted => ?_
      cases deleted with
      | false => exact rfl
      | true => exact ⟨trivial, fun _ => rfl⟩
    | true =>
      refine (walks_markReady htaken (h₁.2 rfl)).attempt.bind fun t₂ outcome h₂ => ?_
      cases outcome with
      | ok _ => exact ⟨h₂.1.reserved (h₁.1.reserved hfile), h₂.2⟩
      | error e =>
        refine walks_perform_bind trivial fun found => ?_
        cases found with
        | false => exact rfl
        | true => exact ⟨h₂.1.takenUp htaken, fun _ => ⟨trivial, fun _ => h₂.2⟩⟩

theorem walks_ensureWorkspaceWritable :
    (ensureWorkspaceWritable workspaceId).Walks (Allowed readers) (fun t' _ => Longer t t')
      (Failed t) t := by
  refine walks_perform_bind trivial fun workspace => ?_
  have hread := (Longer.refl t).cons (.readWorkspace workspaceId) workspace nofun nofun
  cases workspace with
  | none => exact walks_rollback_raise hread rfl
  | some workspace =>
    dsimp only
    split
    · exact walks_rollback_raise hread rfl
    · exact hread

theorem walks_uploadFile {u : Upload} :
    (uploadFile readers u).Walks (Allowed readers) (fun t v => v ∈ reserved t ∧ Completed t v)
      Refused [] := by
  have hrefused : ∀ t' e, Failed [] t' e → Refused t' e := fun t' e h _ => h.1.spotless spotless_nil
  refine (walks_ensureWorkspaceWritable.imp (fun _ _ h => h) hrefused).bind fun t₁ _ h₁ => ?_
  cases read readers u.kind u.source u.filename u.declaredContentType with
  | error e => exact fun _ => h₁.spotless spotless_nil
  | ok upload =>
    refine ((walks_later h₁ walks_recoverPending).imp (fun _ _ h => h) hrefused).bind
      fun t₂ _ h₂ => ?_
    refine (walks_reserveFile ((h₁.trans h₂).spotless spotless_nil)).bind fun t₃ file h₃ => ?_
    refine (walks_storeFile h₃).imp (fun _ _ h => h) fun t' e h hlimit => ?_
    rw [h] at hlimit
    cases hlimit

/-- **The order in which a call acts.** -/
theorem walks_code (call : Call) :
    (call.code readers).Walks (Allowed readers) Returned Refused [] := by
  cases call with
  | upload u =>
    refine walks_uploadFile.bind fun t file h => ?_
    rintro _ ⟨⟩
    exact h
  | reconcile actorId workspaceId workId fileId kind =>
    have hrefused : ∀ t e, Failed [] t e → Refused t e := fun t e h _ => h.1.spotless spotless_nil
    refine (walks_reconcilePending.imp (fun _ _ h => h) hrefused).bind fun t _ _ => ?_
    exact nofun

end Files

end Rulefolio
