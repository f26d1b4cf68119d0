import Rulefolio.Library.RelyGuarantee

/-!
# Views of the state that are guarded by a lock

A database is read through a family of views: the rows that belong together, one view for each key.
Where every writer of a view locks its key `FOR UPDATE`, whoever holds that lock knows the view, and
a transaction that has locked one key can be followed as if it ran on this one view alone.

`Clean` and `Holds` say where such a transaction stands: it has changed no view, or it holds the
lock of one, of which it knows the committed value and its own. What a commit may make of a view is
a relation `step`, and the whole of what the others must know of a commit is `Commits`.

## Main definitions

* `LockedViews`, `LockedViews.Same`, `LockedViews.Commits`.
* `Clean`, `Holds` — where a transaction stands.

## Main results

* `respected_environment` — calls whose commits are `Commits` respect each other's locks.
* `Holds.within_bind`, `Clean.selectForUpdate_bind` — the rules.
* `Holds.commits` — the commit of a transaction that has changed one view.
-/

variable {σ L ε α β ρ κ ν ω : Type}

/-- A family of views, and the locks that guard them. -/
structure LockedViews (σ L κ ν : Type) where
  view : κ → σ → ν
  lock : κ → L

namespace LockedViews

open ReadCommitted

variable (V : LockedViews σ L κ ν) (E : Environment σ L)

/-- The two states look the same. -/
def Same (s s' : σ) : Prop :=
  ∀ k, V.view k s' = V.view k s

/-- A commit that changes each view by a step, and only under its lock. -/
structure Commits (step : ν → ν → Prop) (H : Set (L × RowLock)) (s s' : σ) : Prop where
  step : ∀ k, step (V.view k s) (V.view k s')
  locked : ∀ k, V.view k s' ≠ V.view k s → (V.lock k, .update) ∈ H

/-- Whoever holds the lock of a view sees it stay the same. -/
def Respected : Prop :=
  ∀ {H s s' k}, E.Rely H s s' → (V.lock k, .update) ∈ H → V.view k s' = V.view k s

variable {V E}

theorem Same.refl (s : σ) : V.Same s s := fun _ => rfl

theorem Same.trans (s t u : σ) (h : V.Same s t) (h' : V.Same t u) : V.Same s u :=
  fun k => (h' k).trans (h k)

/-- **Calls respect each other's locks** when their commits do. -/
theorem respected_environment {Inv : σ → Prop} {G : ω → Tx.Guarantee σ L}
    (hG : ∀ op n H s s', G op n H s s' → ∀ k, V.view k s' ≠ V.view k s → (V.lock k, .update) ∈ H) :
    V.Respected (environment Inv G) := by
  intro H s s' k hr hl
  refine relates_of_rely (R := fun s s' => V.view k s' = V.view k s) (fun _ => rfl)
    (fun _ _ _ h h' => h'.trans h) (fun op n H' s s' _ hs hc => ?_) hr
  by_contra hne
  exact hc.symm.notMem hl _ (hG op n H' s s' hs k hne)

/-! ## Where a transaction stands -/

variable (V E)

/-- The transaction has changed no view. -/
def Clean (x : Point σ L) : Prop :=
  ∀ s, E.Inv s → E.Rely x.locks x.db s → V.Same s (x.pending s)

/-- The transaction holds the lock of a view, whose committed value is `v`. It sees `w` there, and
has changed no other view. -/
structure Holds (k : κ) (v w : ν) (x : Point σ L) : Prop where
  lock : (V.lock k, .update) ∈ x.locks
  committed : V.view k x.db = v
  sees : ∀ s, E.Inv s → E.Rely x.locks x.db s → V.view k (x.pending s) = w
  others : ∀ s, E.Inv s → E.Rely x.locks x.db s → ∀ j, j ≠ k →
    V.view j (x.pending s) = V.view j s

variable {V E}

theorem clean_start (s : σ) : V.Clean E (Point.start s) := fun _ _ _ => Same.refl _

/-- After a commit nothing is pending. -/
theorem clean_of_committed {x : Point σ L} (h : x.pending = id) : V.Clean E x := fun s _ _ => by
  rw [h]
  exact Same.refl s

namespace Clean

variable {x : Point σ L}

theorem later (h : V.Clean E x) {H : Set (L × RowLock)} {s : σ} (hH : x.locks ⊆ H)
    (hr : E.Rely x.locks x.db s) : V.Clean E { x with locks := H, db := s } :=
  fun t ht hrt => h t ht (E.trans hr (E.anti hH hrt))

theorem extends_ (h : V.Clean E x) {y : Point σ L} (hy : Tx.Extends E V.Same x y) :
    V.Clean E y := fun s hs hr => by
  have hx := h s hs (E.trans hy.rely (E.anti hy.locks hr))
  exact Same.trans s (x.pending s) (y.pending s) hx (hy.pending s)

/-- The lock of a view is there. -/
theorem holds (hV : V.Respected E) (h : V.Clean E x) {k : κ} (hl : (V.lock k, .update) ∈ x.locks) :
    V.Holds E k (V.view k x.db) (V.view k x.db) x where
  lock := hl
  committed := rfl
  sees s hs hr := (h s hs hr k).trans (hV hr hl)
  others s hs hr j _ := h s hs hr j

end Clean

namespace Holds

variable {x : Point σ L} {k : κ} {v w : ν}

theorem later (hV : V.Respected E) (h : V.Holds E k v w x) {H : Set (L × RowLock)} {s : σ}
    (hH : x.locks ⊆ H) (hr : E.Rely x.locks x.db s) :
    V.Holds E k v w { x with locks := H, db := s } where
  lock := hH h.lock
  committed := (hV hr h.lock).trans h.committed
  sees t ht hrt := h.sees t ht (E.trans hr (E.anti hH hrt))
  others t ht hrt := h.others t ht (E.trans hr (E.anti hH hrt))

theorem extends_ (hV : V.Respected E) (h : V.Holds E k v w x) {y : Point σ L}
    (hy : Tx.Extends E V.Same x y) : V.Holds E k v w y where
  lock := hy.locks h.lock
  committed := (hV hy.rely h.lock).trans h.committed
  sees s hs hr :=
    (hy.pending s k).trans (h.sees s hs (E.trans hy.rely (E.anti hy.locks hr)))
  others s hs hr j hj :=
    (hy.pending s j).trans (h.others s hs (E.trans hy.rely (E.anti hy.locks hr)) j hj)

/-- The view as it is in any state the transaction may yet find. -/
theorem view_eq (hV : V.Respected E) (h : V.Holds E k v w x) {s : σ} (hr : E.Rely x.locks x.db s) :
    V.view k s = v :=
  (hV hr h.lock).trans h.committed

/-- A statement that changes the view. -/
theorem write (hV : V.Respected E) (h : V.Holds E k v w x) {δ : σ → σ} {z : ν}
    (hself : ∀ s, E.Inv s → E.Rely x.locks x.db s → V.view k (x.pending s) = w →
      V.view k (δ (x.pending s)) = z)
    (hothers : ∀ s, E.Inv s → E.Rely x.locks x.db s → ∀ j, j ≠ k →
      V.view j (δ (x.pending s)) = V.view j (x.pending s))
    {s : σ} (hr : E.Rely x.locks x.db s) :
    V.Holds E k v z { x with pending := δ ∘ x.pending, db := s } where
  lock := h.lock
  committed := h.view_eq hV hr
  sees t ht hrt := hself t ht (E.trans hr hrt) (h.sees t ht (E.trans hr hrt))
  others t ht hrt j hj :=
    (hothers t ht (E.trans hr hrt) j hj).trans (h.others t ht (E.trans hr hrt) j hj)

/-- **The commit of a transaction that has changed one view.** -/
theorem commits (hV : V.Respected E) (h : V.Holds E k v w x) {step : ν → ν → Prop}
    (hrefl : ∀ v, step v v) (hstep : step v w) {s : σ} (hs : E.Inv s)
    (hr : E.Rely x.locks x.db s) : V.Commits step x.locks s (x.pending s) := by
  refine ⟨fun j => ?_, fun j hj => ?_⟩
  · by_cases hjk : j = k
    · subst hjk
      rw [h.view_eq hV hr, h.sees s hs hr]
      exact hstep
    · rw [h.others s hs hr j hjk]
      exact hrefl _
  · by_cases hjk : j = k
    · exact hjk ▸ h.lock
    · exact absurd (h.others s hs hr j hjk) hj

end Holds

theorem Clean.commits {x : Point σ L} (h : V.Clean E x) {step : ν → ν → Prop}
    (hrefl : ∀ v, step v v) {s : σ} (hs : E.Inv s) (hr : E.Rely x.locks x.db s) :
    V.Commits step x.locks s (x.pending s) := by
  refine ⟨fun k => ?_, fun k hk => absurd (h s hs hr k) hk⟩
  rw [h s hs hr k]
  exact hrefl _

/-! ## Rules -/

variable {G : Tx.Guarantee σ L} {Q : α → Point σ L → Prop} {X : ε → Point σ L → Prop}
  {x : Point σ L} {k : κ} {v w : ν}

theorem Clean.within_bind (h : V.Clean E x) (hX : ∀ e y, X e y) {t : Tx σ L ε β} {P : β → Prop}
    (ht : t.Within V.Same P) {f : β → Tx σ L ε α}
    (hf : ∀ b y, P b → V.Clean E y → Tx.Extends E V.Same x y → (f b).Safe E G Q X y) :
    (t.bind f).Safe E G Q X x :=
  ht.safe_bind Same.refl Same.trans (fun e y _ => hX e y)
    fun b y hb hy => hf b y hb (h.extends_ hy) hy

theorem Holds.within_bind (hV : V.Respected E) (h : V.Holds E k v w x) (hX : ∀ e y, X e y)
    {t : Tx σ L ε β} {P : β → Prop} (ht : t.Within V.Same P) {f : β → Tx σ L ε α}
    (hf : ∀ b y, P b → V.Holds E k v w y → Tx.Extends E V.Same x y → (f b).Safe E G Q X y) :
    (t.bind f).Safe E G Q X x :=
  ht.safe_bind Same.refl Same.trans (fun e y _ => hX e y)
    fun b y hb hy => hf b y hb (h.extends_ hV hy) hy

/-- A row-locking read of a row that a view shows. If there is a row, its view is held. -/
theorem Clean.selectForUpdate_bind (hV : V.Respected E) (h : V.Clean E x) {key : ρ → L}
    {find : σ → Option ρ} {f : Option ρ → Tx σ L ε α}
    (hkey : ∀ v row, find v = some row → key row = V.lock k)
    (hnone : ∀ s, E.Inv s → E.Rely x.locks x.db s → V.Clean E { x with db := s } →
      (f none).Safe E G Q X { x with db := s })
    (hsome : ∀ s, E.Inv s → E.Rely x.locks x.db s →
      V.Holds E k (V.view k s) (V.view k s)
        { x with locks := insert (V.lock k, .update) x.locks, db := s } →
      V.view k (x.pending s) = V.view k s →
      (f (find (x.pending s))).Safe E G Q X
        { x with locks := insert (V.lock k, .update) x.locks, db := s }) :
    ((Tx.selectForUpdate key find).bind f).Safe E G Q X x := by
  refine Tx.Safe.selectForUpdate_bind hkey (fun s hs hr => ?_) fun s hs hr => ?_
  · exact hnone s hs hr (h.later subset_rfl hr)
  · have hclean := h.later (Set.subset_insert (V.lock k, .update) _) hr
    exact hsome s hs hr (hclean.holds hV (Set.mem_insert _ _)) (h s hs hr k)

/-- What a statement sees of the view it holds. -/
theorem Holds.read_bind (hV : V.Respected E) (h : V.Holds E k v w x) {q : σ → β}
    {f : β → Tx σ L ε α}
    (hf : ∀ s, E.Inv s → V.view k (x.pending s) = w → V.Holds E k v w { x with db := s } →
      E.Rely x.locks x.db s → (f (q (x.pending s))).Safe E G Q X { x with db := s }) :
    ((Tx.read q).bind f).Safe E G Q X x :=
  Tx.Safe.read_bind fun s hs hr =>
    hf s hs (h.sees s hs hr) (h.later hV subset_rfl hr) hr

/-- Locking a row that the view shows. -/
theorem Holds.selectForUpdate_bind (hV : V.Respected E) (h : V.Holds E k v w x) {key : ρ → L}
    {find : σ → Option ρ} {g : ν → Option ρ} (hfind : ∀ s, find s = g (V.view k s))
    {f : Option ρ → Tx σ L ε α}
    (hf : ∀ y, V.Holds E k v w y → (f (g w)).Safe E G Q X y) :
    ((Tx.selectForUpdate key find).bind f).Safe E G Q X x := by
  rw [Tx.selectForUpdate, Tx.bind_assoc]
  refine h.read_bind hV fun s hs hw hy hr => ?_
  rw [hfind, hw]
  cases hrow : g w with
  | none =>
    rw [hrow] at hf
    exact hf _ hy
  | some row =>
    show Tx.Safe E G Q X (.lock (key row) .update ((Tx.read find).bind f)) _
    rw [Tx.Safe]
    intro t ht hrt
    have hz := hy.later hV (Set.subset_insert (key row, .update) _) hrt
    refine hz.read_bind hV fun u _ hw hz _ => ?_
    rw [hfind, hw]
    exact hf _ hz

/-- Locking rows that the view shows. -/
theorem Holds.selectAllForUpdate_bind [DecidableEq L] (hV : V.Respected E)
    (h : V.Holds E k v w x) {key : ρ → L} {rows : σ → List ρ} {g : ν → List ρ}
    (hrows : ∀ s, rows s = g (V.view k s)) {f : List ρ → Tx σ L ε α}
    (hf : ∀ y, V.Holds E k v w y → (f (g w)).Safe E G Q X y) :
    ((Tx.selectAllForUpdate key rows).bind f).Safe E G Q X x := by
  rw [Tx.selectAllForUpdate, Tx.bind_assoc]
  refine h.read_bind hV fun s hs hw hy hr => ?_
  rw [hrows, hw, Tx.bind_assoc]
  refine Tx.Safe.lockAll_bind fun H t hH _ hrt => ?_
  refine (hy.later hV hH hrt).read_bind hV fun u _ hw hz _ => ?_
  rw [hrows, hw, List.filter_eq_self.2 fun row hrow => by simpa using ⟨row, hrow, rfl⟩]
  exact hf _ hz

end LockedViews
