import Rulefolio.Playtests.Frames
import Rulefolio.Playtests.System

/-!
# Following a call to its commit

The rules by which each call is shown to do no other commits than `Commit` allows. A call is
followed statement by statement: `Tracks` says which effect its changes have so far, and `Held` adds
that it has locked a session whose record it therefore knows, whatever the others do.

Statements that the views do not show are passed over by `Tracks.within_bind`. The rest have the
effects of `Playtests.Effects`.

## Main definitions

* `Tracks`, `Held` — where a call stands.
* `Rejected` — how a call may raise.

## Main results

* `Held.update_bind`, `Held.within_bind` — the rules.
* `Held.commit_bind` — a commit of one session.
* `readBack_safe` — what comes after a commit.
-/

namespace Rulefolio

namespace Playtests

open ReadCommitted

variable {α β : Type} {E : Environment Database RowKey} {G : Tx.Guarantee Database RowKey}
  {Q : α → Point Database RowKey → Prop} {X : ServiceError → Point Database RowKey → Prop}
  {x : Point Database RowKey} {e : Effect}

/-! ## Before a session is locked -/

/-- The call has gone on from one point to the other without a commit. -/
structure Later (E : Environment Database RowKey) (x y : Point Database RowKey) : Prop where
  locks : x.locks ⊆ y.locks
  rely : E.Rely x.locks x.db y.db

theorem Later.trans {x y z : Point Database RowKey} (h : Later E x y) (h' : Later E y z) :
    Later E x z :=
  ⟨h.locks.trans h'.locks, E.trans h.rely (E.anti h.locks h'.rely)⟩

/-- The call has not committed, and its changes so far have the effect `e`. -/
structure Tracks (E : Environment Database RowKey) (e : Effect) (x : Point Database RowKey) :
    Prop where
  commits : x.commits = 0
  relates : ∀ s, E.Inv s → E.Rely x.locks x.db s → e.Relates s (x.pending s)

/-- A program the views do not show. -/
abbrev Unseen (t : Program α) : Prop :=
  Keeps Effect.none.Relates t

namespace Tracks

theorem start (s : Database) : Tracks E Effect.none (Point.start s) :=
  ⟨rfl, fun _ _ _ => Effect.none_relates_refl _⟩

/-- Time passes, and locks are taken. -/
theorem later (h : Tracks E e x) {H : Set (RowKey × RowLock)} {s : Database} (hH : x.locks ⊆ H)
    (hr : E.Rely x.locks x.db s) : Tracks E e { x with locks := H, db := s } :=
  ⟨h.commits, fun t ht hrt => h.relates t ht (E.trans hr (E.anti hH hrt))⟩

/-- A statement with an effect of its own. -/
theorem write (h : Tracks E e x) {e' : Effect} {δ : Database → Database}
    (hδ : ∀ s, E.Inv s → E.Rely x.locks x.db s → e'.Relates (x.pending s) (δ (x.pending s)))
    {s : Database} (hr : E.Rely x.locks x.db s) :
    Tracks E (e.andThen e') { x with pending := δ ∘ x.pending, db := s } :=
  ⟨h.commits, fun t ht hrt =>
    (h.relates t ht (E.trans hr hrt)).andThen (hδ t ht (E.trans hr hrt))⟩

theorem extends_ (h : Tracks E e x) {y : Point Database RowKey}
    (hy : Tx.Extends E Effect.none.Relates x y) : Tracks E e y :=
  ⟨hy.commits.trans h.commits, fun s hs hr =>
    (h.relates s hs (E.trans hy.rely (E.anti hy.locks hr))).andThen (hy.pending s)⟩

/-- Passing over a program the views do not show. -/
theorem within_bind (h : Tracks E e x) (hX : ∀ error y, y.commits = 0 → X error y)
    {t : Program β} {P : β → Prop} (ht : t.Within Effect.none.Relates P) {f : β → Program α}
    (hf : ∀ b y, P b → Tracks E e y → x.locks ⊆ y.locks → E.Rely x.locks x.db y.db →
      (f b).Safe E G Q X y) : (t.bind f).Safe E G Q X x :=
  ht.safe_bind Effect.none_relates_refl Effect.none_relates_trans
    (fun error y hy => hX error y (h.extends_ hy).commits)
    fun b y hb hy => hf b y hb (h.extends_ hy) hy.locks hy.rely

theorem insertRow_bind (h : Tracks E e x) (hX : ∀ error y, y.commits = 0 → X error y)
    {keys : List RowKey} {absent admits : Database → Bool} {insert : Database → Database}
    {e' : Effect} (he : ∀ db, e'.Relates db (insert db)) {f : Unit → Program α}
    (hf : ∀ H s, x.locks ⊆ H → (∀ l ∈ keys, (l, .update) ∈ H) → E.Inv s →
      E.Rely x.locks x.db s → absent (x.pending s) = true →
      Tracks E (e.andThen e') { x with locks := H, pending := insert ∘ x.pending, db := s } →
      (f ()).Safe E G Q X { x with locks := H, pending := insert ∘ x.pending, db := s }) :
    ((insertRow keys absent admits insert).bind f).Safe E G Q X x := by
  rw [insertRow, Tx.bind_assoc]
  refine Tx.Safe.lockAll_bind fun H s₀ hH hkeys hr₀ => ?_
  refine Tx.Safe.writeIf_bind (fun s _ _ => hX _ _ h.commits) fun s hs hr ha => ?_
  have hrs : E.Rely x.locks x.db s := E.trans hr₀ (E.anti hH hr)
  exact hf H s hH hkeys hs hrs (Bool.and_eq_true_iff.1 ha).1
    ((h.later hH hrs).write (δ := insert) (fun t _ _ => he _) (E.refl _ _))

theorem updateRow_bind (h : Tracks E e x) (hX : ∀ error y, y.commits = 0 → X error y)
    {admits : Database → Bool} {change : Database → Database} {e' : Effect}
    (he : ∀ s, E.Inv s → E.Rely x.locks x.db s → e'.Relates (x.pending s) (change (x.pending s)))
    {f : Unit → Program α}
    (hf : ∀ s, E.Rely x.locks x.db s →
      Tracks E (e.andThen e') { x with pending := change ∘ x.pending, db := s } →
      (f ()).Safe E G Q X { x with pending := change ∘ x.pending, db := s }) :
    ((updateRow admits change).bind f).Safe E G Q X x :=
  Tx.Safe.writeIf_bind (fun _ _ _ => hX _ _ h.commits) fun s _ hr _ =>
    hf s hr (h.write (δ := change) he hr)

end Tracks

/-! ## While a session is locked -/

/-- The call holds the lock of a session whose record is `r`, and what it has changed so far is
this record, by `g`. -/
structure Held (E : Environment Database RowKey) (n : Uuid) (r : Record) (g : Record → Record)
    (x : Point Database RowKey) : Prop extends Tracks E (.onSession n g) x where
  lock : (.session n, .update) ∈ x.locks
  record : x.db.record n = r

namespace Held

variable {n : Uuid} {r : Record} {g : Record → Record}

theorem later (hE : Respects E) (h : Held E n r g x) {H : Set (RowKey × RowLock)} {s : Database}
    (hH : x.locks ⊆ H) (hr : E.Rely x.locks x.db s) :
    Held E n r g { x with locks := H, db := s } :=
  ⟨h.toTracks.later hH hr, hH h.lock, (hE.session hr h.lock).trans h.record⟩

/-- What a statement sees of the session. -/
theorem sees (hE : Respects E) (h : Held E n r g x) {s : Database} (hs : E.Inv s)
    (hr : E.Rely x.locks x.db s) : (x.pending s).record n = g r := by
  rw [(h.relates s hs hr).session, hE.session hr h.lock, h.record]
  simp [Effect.onSession]

theorem within_bind (hE : Respects E) (h : Held E n r g x)
    (hX : ∀ error y, y.commits = 0 → X error y) {t : Program β} {P : β → Prop}
    (ht : t.Within Effect.none.Relates P) {f : β → Program α}
    (hf : ∀ b y, P b → Held E n r g y → E.Rely x.locks x.db y.db → (f b).Safe E G Q X y) :
    (t.bind f).Safe E G Q X x :=
  h.toTracks.within_bind hX ht fun b y hb hy hlocks hr =>
    hf b y hb ⟨hy, hlocks h.lock, (hE.session hr h.lock).trans h.record⟩ hr

theorem ensure_bind (h : Held E n r g x) (hX : ∀ error y, y.commits = 0 → X error y) {b : Bool}
    {error : ServiceError} {f : Unit → Program α}
    (hf : b = true → (f ()).Safe E G Q X x) : ((Tx.ensure b error).bind f).Safe E G Q X x :=
  Tx.Safe.ensure_bind (fun _ => hX _ _ h.commits) hf

theorem read_bind (hE : Respects E) (h : Held E n r g x) {q : Database → β} {f : β → Program α}
    (hf : ∀ s, (x.pending s).record n = g r → Held E n r g { x with db := s } →
      E.Rely x.locks x.db s → (f (q (x.pending s))).Safe E G Q X { x with db := s }) :
    ((Tx.read q).bind f).Safe E G Q X x :=
  Tx.Safe.read_bind fun s hs hr => hf s (h.sees hE hs hr) (h.later hE subset_rfl hr) hr

theorem updateRow_bind (hE : Respects E) (h : Held E n r g x)
    (hX : ∀ error y, y.commits = 0 → X error y) {admits : Database → Bool}
    {change : Database → Database} {g' : Record → Record}
    (he : ∀ s, E.Inv s → E.Rely x.locks x.db s →
      (Effect.onSession n g').Relates (x.pending s) (change (x.pending s)))
    {f : Unit → Program α} (hf : ∀ y, Held E n r (g' ∘ g) y → (f ()).Safe E G Q X y) :
    ((updateRow admits change).bind f).Safe E G Q X x := by
  refine h.toTracks.updateRow_bind hX he fun _ hr hy => ?_
  rw [Effect.onSession_andThen] at hy
  exact hf _ ⟨hy, h.lock, (hE.session hr h.lock).trans h.record⟩

theorem insertRow_bind (hE : Respects E) (h : Held E n r g x)
    (hX : ∀ error y, y.commits = 0 → X error y) {keys : List RowKey}
    {absent admits : Database → Bool} {insert : Database → Database} {g' : Record → Record}
    (he : ∀ db, (Effect.onSession n g').Relates db (insert db)) {f : Unit → Program α}
    (hf : ∀ y, Held E n r (g' ∘ g) y → (f ()).Safe E G Q X y) :
    ((insertRow keys absent admits insert).bind f).Safe E G Q X x := by
  refine h.toTracks.insertRow_bind hX he fun _ _ hH _ _ hr _ hy => ?_
  rw [Effect.onSession_andThen] at hy
  exact hf _ ⟨hy, hH h.lock, (hE.session hr h.lock).trans h.record⟩

/-- The rows of `session.add_all` in the record of their session. -/
theorem insertRows_bind {ρ : Type} (hE : Respects E) (h : Held E n r g x)
    (hX : ∀ error y, y.commits = 0 → X error y) {rows : List ρ} {admits : Database → Bool}
    {insert : List ρ → Database → Database} {g' : Record → Record}
    (he : ∀ db, (Effect.onSession n g').Relates db (insert rows db))
    (hnil : rows = [] → g' = id) {f : Unit → Program α}
    (hf : ∀ y, Held E n r (g' ∘ g) y → (f ()).Safe E G Q X y) :
    ((insertRows rows admits insert).bind f).Safe E G Q X x := by
  rw [insertRows]
  split
  · rename_i hempty
    refine hf x ?_
    rwa [hnil (List.isEmpty_iff.1 hempty), Function.id_comp]
  · exact h.insertRow_bind hE hX he hf

/-- **The commit of a call that has changed one session.** -/
theorem commit_bind {call : Call} (hE : Respects E) (h : Held E n r g x)
    (ht : Transition (expected call.sessionRevision n) r (g r))
    (hother : ∀ m, m ≠ n → expected call.sessionRevision m = none)
    (hissue : call.issueRevision = none) {f : Unit → Program α}
    (hf : ∀ s, s.record n = g r → (f ()).Safe E (guarantee call) Q X ⟨1, ∅, id, s⟩) :
    (Tx.commitNow.bind f).Safe E (guarantee call) Q X x := by
  refine Tx.Safe.commitNow_bind fun s hs hr => ⟨⟨h.commits, ?_⟩, ?_⟩
  swap
  · have := hf (x.pending s) (h.sees hE hs hr)
    rwa [show (1 : ℕ) = x.commits + 1 by rw [h.commits]] at this
  have he := h.relates s hs hr
  have hrecord : s.record n = r := (hE.session hr h.lock).trans h.record
  have hsession : ∀ m, m ≠ n → (x.pending s).record m = s.record m := fun m hm => by
    rw [he.session]
    simp [Effect.onSession, editAt_of_ne hm]
  refine ⟨fun m => ?_, fun m hm => ?_, fun k => ?_, fun k hk => ?_, ⟨[], he.places, ?_⟩,
    he.explained⟩
  · by_cases hm : m = n
    · subst hm
      rw [he.session, hrecord]
      simpa [Effect.onSession] using ht
    · rw [hsession m hm, hother m hm]
      exact .stays _
  · by_cases hmn : m = n
    · exact hmn ▸ h.lock
    · exact absurd (hsession m hmn) hm
  · rw [he.issue, hissue]
    exact .stays _
  · exact absurd (he.issue k) hk
  · simp

end Held

/-! ## Calls that change no record -/

/-- **The commit of a call the views do not show.** -/
theorem Tracks.commit_bind {call : Call} (h : Tracks E .none x)
    (hsession : call.sessionRevision = none) (hissue : call.issueRevision = none)
    {f : Unit → Program α} (hf : ∀ y, y.commits = 1 → (f ()).Safe E (guarantee call) Q X y) :
    (Tx.commitNow.bind f).Safe E (guarantee call) Q X x := by
  refine Tx.Safe.commitNow_bind fun s hs hr => ⟨⟨h.commits, ?_⟩, hf _ (by simp [h.commits])⟩
  have he := h.relates s hs hr
  refine ⟨fun n => ?_, fun n hn => absurd (he.session n) hn, fun k => ?_,
    fun k hk => absurd (he.issue k) hk, ⟨[], he.places, by simp⟩, he.explained⟩
  · rw [he.session, hsession]
    exact .stays _
  · rw [he.issue, hissue]
    exact .stays _

/-! ## How a call may raise -/

/-- What a call may raise while it reads back what it has committed. -/
def ReadBackError (error : ServiceError) : Prop :=
  error = .playtestUnavailable ∨ error = .playtestManagementForbidden

/-- The call has raised before it committed, or while it read back what it had committed. -/
def Rejected (call : Call) (error : ServiceError) (x : Point Database RowKey) : Prop :=
  x.commits = 0 ∨ call.readsBack = true ∧ ReadBackError error

theorem rejected_of_commits {call : Call} {f : ServiceError → ServiceError} :
    ∀ error (y : Point Database RowKey), y.commits = 0 → Rejected call (f error) y :=
  fun _ _ hy => .inl hy

/-- Reading back, statement by statement. -/
theorem readBack_bind {call : Call} (hcall : call.readsBack = true)
    {g : ServiceError → ServiceError} (hg : ∀ e, ReadBackError e → ReadBackError (g e))
    {t : Program β} (ht : Unseen t) (hraises : t.Raises ReadBackError) {f : β → Program α}
    (hf : ∀ b y, Tx.Extends E Effect.none.Relates x y →
      (f b).Safe E G Q (fun error => Rejected call (g error)) y) :
    (t.bind f).Safe E G Q (fun error => Rejected call (g error)) x :=
  (((ht.safe Effect.none_relates_refl Effect.none_relates_trans).raises hraises).mono
    (fun _ _ h => h.2) fun _ _ h => .inr ⟨hcall, hg _ h.1⟩).bind hf

/-- What comes after the commit of a call that reads back. -/
theorem readBack_safe {call : Call} (hcall : call.readsBack = true)
    {g : ServiceError → ServiceError} (hg : ∀ e, ReadBackError e → ReadBackError (g e))
    {t : Program α} (ht : Unseen t) (hraises : t.Raises ReadBackError) :
    t.Safe E G (fun _ _ => True) (fun error => Rejected call (g error)) x := by
  rw [← Tx.bind_pure t]
  exact readBack_bind hcall hg ht hraises fun _ _ _ => Tx.Safe.pure trivial

end Playtests

end Rulefolio
