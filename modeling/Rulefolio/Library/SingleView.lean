import Rulefolio.Library.LockedViews

/-!
# Transactions that hold one view

Rules for a transaction that is followed on the one view it has locked, where each statement is a
function of that view: `Holds` carries the view as the transaction sees it, and a statement applies
its function. A program that changes no view at all is followed by `Changes`, across its commits.

## Main definitions

* `Tx.Changes` — every statement of a program changes the state within a relation.
* `LockedViews.Ready` — the transaction may commit.

## Main results

* `Clean.changes_bind`, `Changes.safe` — programs that change no view.
* `Holds.write_bind`, `Holds.writeIf_bind`, `Holds.commit_bind` — the rules.
-/

variable {σ L ε α β ρ κ ν ω : Type}

namespace Tx

/-- Every statement changes the state within `F`. It may commit. -/
def Changes (F : σ → σ → Prop) : Tx σ L ε α → Prop
  | .pure _ => True
  | .raise _ => True
  | .lock _ _ k => k.Changes F
  | .stmt δ k => (∀ v s, F s (δ v s)) ∧ ∀ v, (k v).Changes F
  | .commit k => k.Changes F

theorem Within.changes {F : σ → σ → Prop} {P : α → Prop} {t : Tx σ L ε α} (h : t.Within F P) :
    t.Changes F := by
  induction t with
  | pure a => trivial
  | raise e => trivial
  | lock l m k ih => exact ih h
  | stmt δ k ih => exact ⟨h.1, fun v => ih v (h.2 v)⟩
  | commit k ih => exact h.elim

namespace Changes

variable {F : σ → σ → Prop}

theorem pure (a : α) : (Tx.pure a : Tx σ L ε α).Changes F := trivial

theorem raise (e : ε) : (Tx.raise e : Tx σ L ε α).Changes F := trivial

theorem bind {t : Tx σ L ε β} {f : β → Tx σ L ε α} (ht : t.Changes F)
    (hf : ∀ b, (f b).Changes F) : (t.bind f).Changes F := by
  induction t with
  | pure b => exact hf b
  | raise e => trivial
  | lock l m k ih => exact ih ht
  | stmt δ k ih => exact ⟨ht.1, fun v => ih v (ht.2 v)⟩
  | commit k ih => exact ih ht

theorem mono {G : σ → σ → Prop} (hF : ∀ s s', F s s' → G s s') {t : Tx σ L ε α}
    (ht : t.Changes F) : t.Changes G := by
  induction t with
  | pure a => trivial
  | raise e => trivial
  | lock l m k ih => exact ih ht
  | stmt δ k ih => exact ⟨fun v s => hF _ _ (ht.1 v s), fun v => ih v (ht.2 v)⟩
  | commit k ih => exact ih ht

theorem commitNow : (Tx.commitNow : Tx σ L ε Unit).Changes F := trivial

end Changes

end Tx

namespace LockedViews

open ReadCommitted

variable {V : LockedViews σ L κ ν} {E : Environment σ L} {step : ν → ν → Prop}
  {X : ε → Point σ L → Prop} {x : Point σ L} {k : κ} {v w : ν}

/-- A program that changes no view has changed none whenever it commits, and none when it is
over. -/
theorem Clean.changes (hrefl : ∀ v, step v v) (h : V.Clean E x) {t : Tx σ L ε α}
    (ht : t.Changes V.Same) :
    t.Safe E (fun _ H s s' => V.Commits step H s s' ∧ V.Same s s') (fun _ y => V.Clean E y)
      (fun _ _ => True) x := by
  induction t generalizing x with
  | pure a =>
    rw [Tx.Safe]
    exact h
  | raise e =>
    rw [Tx.Safe]
    trivial
  | lock l m k ih =>
    rw [Tx.Safe]
    intro s hs hr
    exact ih (h.later (Set.subset_insert _ _) hr) ht
  | stmt δ k ih =>
    rw [Tx.Safe]
    intro s hs hr
    refine ih _ (fun t hti hrt j => ?_) (ht.2 _)
    exact (ht.1 _ _ j).trans (h t hti (E.trans hr hrt) j)
  | commit k ih =>
    rw [Tx.Safe]
    intro s hs hr
    exact ⟨⟨h.commits hrefl hs hr, h s hs hr⟩, ih (clean_of_committed rfl) ht⟩

theorem Clean.changes_bind (hrefl : ∀ v, step v v) (h : V.Clean E x) {t : Tx σ L ε β}
    (ht : t.Changes V.Same) {f : β → Tx σ L ε α} {G : Tx.Guarantee σ L}
    {Q : α → Point σ L → Prop}
    (hG : ∀ n H s s', V.Commits step H s s' → V.Same s s' → G n H s s')
    (hX : ∀ e y, X e y) (hf : ∀ b y, V.Clean E y → (f b).Safe E G Q X y) :
    (t.bind f).Safe E G Q X x :=
  (((h.changes hrefl ht).weaken fun _ _ _ _ hc => hG _ _ _ _ hc.1 hc.2).mono (fun _ _ hy => hy)
    fun e y _ => hX e y).bind hf

/-- What the transaction holds it has not changed. -/
theorem Holds.clean (hV : V.Respected E) (h : V.Holds E k v v x) : V.Clean E x := by
  intro s hs hr j
  by_cases hj : j = k
  · subst hj
    rw [h.sees s hs hr, h.view_eq hV hr]
  · exact h.others s hs hr j hj

variable {G : Tx.Guarantee σ L} {Q : α → Point σ L → Prop}

/-- A statement that is a function of the view. -/
theorem Holds.write_bind (hV : V.Respected E) (h : V.Holds E k v w x) {δ : σ → σ → σ} {g : ν → ν}
    (hself : ∀ s t, V.view k (δ s t) = g (V.view k t))
    (hothers : ∀ s t j, j ≠ k → V.view j (δ s t) = V.view j t) {f : Unit → Tx σ L ε α}
    (hf : ∀ y, V.Holds E k v (g w) y → (f ()).Safe E G Q X y) :
    ((Tx.write δ).bind f).Safe E G Q X x := by
  refine Tx.Safe.write_bind fun s _ hr => hf _ ?_
  refine h.write hV (fun t _ _ hw => ?_) (fun t _ _ j hj => hothers _ _ j hj) hr
  rw [hself, hw]

/-- A statement that is a function of the view and may fail. -/
theorem Holds.writeIf_bind (hV : V.Respected E) (h : V.Holds E k v w x) {admits : σ → Bool}
    {e : ε} {δ : σ → σ} {g : ν → ν} (hself : ∀ t, V.view k (δ t) = g (V.view k t))
    (hothers : ∀ t j, j ≠ k → V.view j (δ t) = V.view j t) (hX : ∀ e y, X e y)
    {P : Prop} (hP : ∀ t, admits t = true → V.view k t = w → P) {f : Unit → Tx σ L ε α}
    (hf : ∀ y, P → V.Holds E k v (g w) y → (f ()).Safe E G Q X y) :
    ((Tx.writeIf admits e fun _ => δ).bind f).Safe E G Q X x := by
  refine Tx.Safe.writeIf_bind (fun s _ _ => hX e _) fun s hs hr ha => ?_
  refine hf _ (hP _ ha (h.sees s hs hr)) ?_
  refine h.write hV (fun t _ _ hw => ?_) (fun t _ _ j hj => hothers _ j hj) hr
  rw [hself, hw]

/-- A statement that is a function of the view and, in the states the transaction can find, leaves
the others alone. -/
theorem Holds.writeIf_among_bind (hV : V.Respected E) (h : V.Holds E k v w x) {admits : σ → Bool}
    {e : ε} {δ : σ → σ} {g : ν → ν} (hself : ∀ t, V.view k (δ t) = g (V.view k t))
    (hothers : ∀ s t, E.Inv s → V.view k s = v → (∀ j, j ≠ k → V.view j t = V.view j s) →
      ∀ j, j ≠ k → V.view j (δ t) = V.view j t) (hX : ∀ e y, X e y) {f : Unit → Tx σ L ε α}
    (hf : ∀ y, V.Holds E k v (g w) y → (f ()).Safe E G Q X y) :
    ((Tx.writeIf admits e fun _ => δ).bind f).Safe E G Q X x := by
  refine Tx.Safe.writeIf_bind (fun s _ _ => hX e _) fun s hs hr ha => hf _ ?_
  refine h.write hV (fun t _ _ hw => ?_) (fun t ht hrt j hj => ?_) hr
  · rw [hself, hw]
  · exact hothers t _ ht (h.view_eq hV hrt) (h.others t ht hrt) j hj

/-- Locks are taken. -/
theorem Holds.lockAll_bind (hV : V.Respected E) (h : V.Holds E k v w x) {m : RowLock}
    {ls : List L} {f : Unit → Tx σ L ε α}
    (hf : ∀ y, V.Holds E k v w y → (f ()).Safe E G Q X y) :
    ((Tx.lockAll m ls).bind f).Safe E G Q X x :=
  Tx.Safe.lockAll_bind fun _ _ hH _ hr => hf _ (h.later hV hH hr)

/-- The commit, with all that the views are before and after it. -/
theorem Holds.commit_bind (hV : V.Respected E) (h : V.Holds E k v w x) (hrefl : ∀ v, step v v)
    (hstep : step v w)
    (hG : ∀ n H s s', V.Commits step H s s' → V.view k s = v → V.view k s' = w → G n H s s')
    {f : Unit → Tx σ L ε α}
    (hf : ∀ y, V.Clean E y → (f ()).Safe E G Q X y) :
    (Tx.commitNow.bind f).Safe E G Q X x :=
  Tx.Safe.commitNow_bind fun s hs hr =>
    ⟨hG _ _ _ _ (h.commits hV hrefl hstep hs hr) (h.view_eq hV hr) (h.sees s hs hr),
      hf _ (clean_of_committed rfl)⟩

/-! ## Ready to commit -/

variable (V E step)

/-- The transaction has changed no view, or one of them by a step. -/
def Ready (x : Point σ L) : Prop :=
  V.Clean E x ∨ ∃ k v w, V.Holds E k v w x ∧ step v w

variable {V E step}

theorem Ready.within_bind (hV : V.Respected E) (h : V.Ready E step x) (hX : ∀ e y, X e y)
    {t : Tx σ L ε β} {P : β → Prop} (ht : t.Within V.Same P) {f : β → Tx σ L ε α}
    (hf : ∀ b y, P b → V.Ready E step y → (f b).Safe E G Q X y) :
    (t.bind f).Safe E G Q X x := by
  rcases h with h | ⟨k, v, w, h, hstep⟩
  · exact h.within_bind hX ht fun b y hb h _ => hf b y hb (.inl h)
  · exact h.within_bind hV hX ht fun b y hb h _ => hf b y hb (.inr ⟨k, v, w, h, hstep⟩)

/-- The commit at the end of a call. -/
theorem Ready.commitNow (hV : V.Respected E) (h : V.Ready E step x) (hrefl : ∀ v, step v v) :
    (Tx.commitNow : Tx σ L ε Unit).Safe E (fun _ => V.Commits step) (fun _ _ => True)
      (fun _ _ => True) x := by
  rw [← Tx.bind_pure (Tx.commitNow : Tx σ L ε Unit)]
  refine Tx.Safe.commitNow_bind fun s hs hr => ⟨?_, Tx.Safe.pure trivial⟩
  rcases h with h | ⟨k, v, w, h, hstep⟩
  · exact h.commits hrefl hs hr
  · exact h.commits hV hrefl hstep hs hr

end LockedViews
