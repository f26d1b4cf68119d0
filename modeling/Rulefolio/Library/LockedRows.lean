import Rulefolio.Library.LockedViews

/-!
# Transactions that change several views

`Holds` follows a transaction on the one view it has locked. A transaction that changes several
views is followed on all of them at once. What it has done so far is a function of each view alone
(`Acts`), so nothing that happens to another view can disturb it: a view that is locked is known
from the moment it was read, both as it is committed and as the transaction sees it (`Row`).

`Tracks` is what a proof carries along: only locked views have been changed, and each of them by a
`step`. A statement extends it by what it makes of the views it touches.

## Main definitions

* `Acts` — which views a change touches.
* `Tracks`, `Row` — where a transaction stands.

## Main results

* `Tracks.write`, `Row.write`, `Row.extends_` — a statement that changes some views.
* `Tracks.writeIf_bind`, `Tracks.write_bind` — the rules.
* `Tracks.commits` — what a commit makes of every view.
-/

variable {σ L ε α β ρ κ ν τ : Type}

namespace LockedViews

open ReadCommitted

variable (V : LockedViews σ L κ ν)

/-! ## Changes of several views -/

/-- The two states look the same but for the views in `K`. -/
def Outside (K : Set κ) (s s' : σ) : Prop :=
  ∀ k, k ∉ K → V.view k s' = V.view k s

/-- The change touches only the views in `K`, and what it makes of a view depends on that view
alone. -/
structure Acts (K : Set κ) (δ : σ → σ) : Prop where
  only : ∀ s k, k ∉ K → V.view k (δ s) = V.view k s
  pointwise : ∀ s t k, V.view k s = V.view k t → V.view k (δ s) = V.view k (δ t)

namespace Outside

variable {V} {K K' : Set κ}

theorem refl (s : σ) : V.Outside K s s := fun _ _ => rfl

theorem trans (s t u : σ) (h : V.Outside K s t) (h' : V.Outside K t u) : V.Outside K s u :=
  fun k hk => (h' k hk).trans (h k hk)

theorem mono {s s' : σ} (h : V.Outside K s s') (hK : K ⊆ K') : V.Outside K' s s' :=
  fun k hk => h k fun hmem => hk (hK hmem)

theorem of_same {s s' : σ} (h : V.Same s s') : V.Outside K s s' := fun k _ => h k

end Outside

namespace Acts

variable {V} {K K' : Set κ} {δ δ' : σ → σ}

theorem of_same (h : ∀ s, V.Same s (δ s)) : V.Acts ∅ δ where
  only s k _ := h s k
  pointwise s t k hst := (h s k).trans (hst.trans (h t k).symm)

theorem nothing : V.Acts ∅ fun s => s :=
  of_same Same.refl

theorem comp (h' : V.Acts K' δ') (h : V.Acts K δ) : V.Acts (K ∪ K') (δ' ∘ δ) where
  only s k hk := by
    rw [Set.mem_union, not_or] at hk
    exact (h'.only (δ s) k hk.2).trans (h.only s k hk.1)
  pointwise s t k hst := h'.pointwise _ _ k (h.pointwise s t k hst)

end Acts

/-! ## Where a transaction stands -/

/-- The transaction has changed only the views in `K`, all of them under their locks, and each by a
step. -/
structure Tracks (step : κ → ν → ν → Prop) (K : Set κ) (x : Point σ L) : Prop where
  acts : V.Acts K x.pending
  locked : ∀ k ∈ K, (V.lock k, .update) ∈ x.locks
  steps : ∀ k, step k (V.view k x.db) (V.view k (x.pending x.db))

/-- The transaction has locked a view. In the part of it that `π` shows, `v` is committed and the
transaction sees `w`. -/
structure Row (k : κ) (π : ν → τ) (v w : τ) (x : Point σ L) : Prop where
  lock : (V.lock k, .update) ∈ x.locks
  committed : π (V.view k x.db) = v
  sees : π (V.view k (x.pending x.db)) = w

/-- The transaction has locked a view, in which `π` shows `v`. -/
structure Known (k : κ) (π : ν → τ) (v : τ) (x : Point σ L) : Prop where
  lock : (V.lock k, .update) ∈ x.locks
  committed : π (V.view k x.db) = v

variable {V} {E : Environment σ L} {step : κ → ν → ν → Prop} {K K' : Set κ} {x y : Point σ L}
  {k : κ} {π : ν → τ} {v w z : τ} {δ : σ → σ}

/-- Nothing has been changed yet. -/
theorem tracks_of_id (hrefl : ∀ k v, step k v v) (hx : x.pending = id) : V.Tracks step ∅ x where
  acts := hx ▸ Acts.nothing
  locked _ hk := hk.elim
  steps k := by
    rw [hx]
    exact hrefl k _

namespace Tracks

/-- Locks are taken and time passes. -/
theorem later (hV : V.Respected E) (hrefl : ∀ k v, step k v v) (h : V.Tracks step K x)
    {H : Set (L × RowLock)} {s : σ} (hH : x.locks ⊆ H) (hr : E.Rely x.locks x.db s) :
    V.Tracks step K { x with locks := H, db := s } where
  acts := h.acts
  locked k hk := hH (h.locked k hk)
  steps k := by
    by_cases hk : k ∈ K
    · have hsame : V.view k s = V.view k x.db := hV hr (h.locked k hk)
      show step k (V.view k s) (V.view k (x.pending s))
      rw [h.acts.pointwise s x.db k hsame, hsame]
      exact h.steps k
    · show step k (V.view k s) (V.view k (x.pending s))
      rw [h.acts.only s k hk]
      exact hrefl k _

theorem extends_ (hV : V.Respected E) (hrefl : ∀ k v, step k v v) (h : V.Tracks step K x)
    (hy : Tx.Extends E V.Same x y) : V.Tracks step K y := by
  have hlater := h.later hV hrefl hy.locks hy.rely
  refine ⟨⟨fun s k hk => ?_, fun s t k hst => ?_⟩, hlater.locked, fun k => ?_⟩
  · exact (hy.pending s k).trans (h.acts.only s k hk)
  · exact (hy.pending s k).trans ((h.acts.pointwise s t k hst).trans (hy.pending t k).symm)
  · rw [hy.pending y.db k]
    exact hlater.steps k

/-- A view that has not been touched. -/
theorem unchanged (h : V.Tracks step K x) (hk : k ∉ K) (s : σ) :
    V.view k (x.pending s) = V.view k s :=
  h.acts.only s k hk

/-- A statement that changes some views. -/
theorem write (hV : V.Respected E) (hrefl : ∀ k v, step k v v) (h : V.Tracks step K x)
    (hδ : V.Acts K' δ) (hlocked : ∀ k ∈ K', (V.lock k, .update) ∈ x.locks) {s : σ}
    (hr : E.Rely x.locks x.db s)
    (hstep : ∀ k ∈ K', step k (V.view k s) (V.view k (x.pending s)) →
      step k (V.view k s) (V.view k (δ (x.pending s)))) :
    V.Tracks step (K ∪ K') { x with pending := δ ∘ x.pending, db := s } := by
  have hlater := h.later hV hrefl subset_rfl hr
  refine ⟨hδ.comp h.acts, fun k hk => ?_, fun k => ?_⟩
  · rcases hk with hk | hk
    · exact h.locked k hk
    · exact hlocked k hk
  · by_cases hk : k ∈ K'
    · exact hstep k hk (hlater.steps k)
    · show step k (V.view k s) (V.view k (δ (x.pending s)))
      rw [hδ.only _ k hk]
      exact hlater.steps k

/-- **What a commit makes of every view.** -/
theorem commits (hV : V.Respected E) (hrefl : ∀ k v, step k v v) (h : V.Tracks step K x) {s : σ}
    (hr : E.Rely x.locks x.db s) :
    (∀ k, step k (V.view k s) (V.view k (x.pending s))) ∧
      ∀ k, V.view k (x.pending s) ≠ V.view k s → (V.lock k, .update) ∈ x.locks := by
  refine ⟨(h.later hV hrefl subset_rfl hr).steps, fun k hk => ?_⟩
  by_contra hlock
  exact hk (h.unchanged (fun hmem => hlock (h.locked k hmem)) s)

end Tracks

/-- What is known under a lock stays known. -/
theorem Known.extends_ (hV : V.Respected E) (h : V.Known k π v x) {F : σ → σ → Prop}
    (hy : Tx.Extends E F x y) : V.Known k π v y :=
  ⟨hy.locks h.lock, (congrArg π (hV hy.rely h.lock)).trans h.committed⟩

namespace Row

theorem known (h : V.Row k π v w x) : V.Known k π v x :=
  ⟨h.lock, h.committed⟩

theorem later (hV : V.Respected E) (h : V.Row k π v w x) (hx : V.Acts K x.pending)
    {H : Set (L × RowLock)} {s : σ} (hH : x.locks ⊆ H) (hr : E.Rely x.locks x.db s) :
    V.Row k π v w { x with locks := H, db := s } := by
  have hsame : V.view k s = V.view k x.db := hV hr h.lock
  refine ⟨hH h.lock, (congrArg π hsame).trans h.committed, ?_⟩
  exact (congrArg π (hx.pointwise s x.db k hsame)).trans h.sees

/-- What is done to other views. -/
theorem extends_ (hV : V.Respected E) (h : V.Row k π v w x) (hx : V.Acts K x.pending)
    (hy : Tx.Extends E (V.Outside K') x y) (hk : k ∉ K') : V.Row k π v w y := by
  have hlater := h.later hV hx hy.locks hy.rely
  exact ⟨hlater.lock, hlater.committed, (congrArg π (hy.pending y.db k hk)).trans hlater.sees⟩

/-- Nothing is done to any view. -/
theorem same (hV : V.Respected E) (h : V.Row k π v w x) (hx : V.Acts K x.pending)
    (hy : Tx.Extends E V.Same x y) : V.Row k π v w y :=
  h.extends_ hV hx (hy.mono fun _ _ => Outside.of_same) (Set.notMem_empty k)

/-- A statement that changes the view. -/
theorem write (hV : V.Respected E) (h : V.Row k π v w x) (hx : V.Acts K x.pending)
    (hy : Tx.Extends E (V.Outside K') x y) (hpending : y.pending = δ ∘ x.pending)
    (hz : ∀ t, π (V.view k t) = w → π (V.view k (δ t)) = z) : V.Row k π v z y := by
  have hlater := h.later hV hx hy.locks hy.rely
  refine ⟨hlater.lock, hlater.committed, ?_⟩
  rw [hpending]
  exact hz _ hlater.sees

end Row

/-! ## Rules -/

variable {G : Tx.Guarantee σ L} {Q : α → Point σ L → Prop} {X : ε → Point σ L → Prop}

theorem extends_write {δ : σ → σ} (hδ : V.Acts K' δ) {s : σ} (hr : E.Rely x.locks x.db s) :
    Tx.Extends E (V.Outside K') x { x with pending := δ ∘ x.pending, db := s } :=
  ⟨rfl, subset_rfl, fun s k hk => hδ.only (x.pending s) k hk, hr⟩

/-- Two parts of a program, one after the other. -/
theorem extends_union {z : Point σ L} (hxy : Tx.Extends E (V.Outside K) x y)
    (hyz : Tx.Extends E (V.Outside K') y z) : Tx.Extends E (V.Outside (K ∪ K')) x z :=
  (hxy.mono fun _ _ hout => hout.mono Set.subset_union_left).trans Outside.trans
    (hyz.mono fun _ _ hout => hout.mono Set.subset_union_right)

theorem Tracks.writeIf_bind (hV : V.Respected E) (hrefl : ∀ k v, step k v v)
    (h : V.Tracks step K x) {admits : σ → Bool} {e : ε} (hδ : V.Acts K' δ)
    (hlocked : ∀ k ∈ K', (V.lock k, .update) ∈ x.locks)
    (hX : ∀ y, Tx.Extends E V.Same x y → X e y)
    (hstep : ∀ s, E.Inv s → E.Rely x.locks x.db s → admits (x.pending s) = true → ∀ k ∈ K',
      step k (V.view k s) (V.view k (x.pending s)) →
        step k (V.view k s) (V.view k (δ (x.pending s)))) {f : Unit → Tx σ L ε α}
    (hf : ∀ y, E.Inv y.db → V.Tracks step (K ∪ K') y → Tx.Extends E (V.Outside K') x y →
      y.pending = δ ∘ x.pending → admits (x.pending y.db) = true → (f ()).Safe E G Q X y) :
    ((Tx.writeIf admits e fun _ => δ).bind f).Safe E G Q X x := by
  refine Tx.Safe.writeIf_bind (fun s _ hr => ?_) fun s hs hr ha => ?_
  · exact hX _ ⟨rfl, subset_rfl, fun s => Same.refl _, hr⟩
  · exact hf _ hs (h.write hV hrefl hδ hlocked hr (hstep s hs hr ha)) (extends_write hδ hr) rfl ha

theorem Tracks.write_bind (hV : V.Respected E) (hrefl : ∀ k v, step k v v)
    (h : V.Tracks step K x) {δ : σ → σ → σ} (hδ : ∀ v, V.Acts K' (δ v))
    (hlocked : ∀ k ∈ K', (V.lock k, .update) ∈ x.locks)
    (hstep : ∀ s, E.Inv s → E.Rely x.locks x.db s → ∀ k ∈ K',
      step k (V.view k s) (V.view k (x.pending s)) →
        step k (V.view k s) (V.view k (δ (x.pending s) (x.pending s)))) {f : Unit → Tx σ L ε α}
    (hf : ∀ y, E.Inv y.db → V.Tracks step (K ∪ K') y → Tx.Extends E (V.Outside K') x y →
      y.pending = δ (x.pending y.db) ∘ x.pending → (f ()).Safe E G Q X y) :
    ((Tx.write δ).bind f).Safe E G Q X x :=
  Tx.Safe.write_bind fun s hs hr =>
    hf _ hs (h.write hV hrefl (hδ _) hlocked hr (hstep s hs hr)) (extends_write (hδ _) hr) rfl

end LockedViews
