import Rulefolio.Library.ReadCommitted

/-!
# Rely-guarantee reasoning about transactions

`Tx.Safe` is a rely-guarantee argument, folded into one predicate on the tree of a program. At
every node it quantifies over what the other calls may have committed since the node before
(`Environment.Rely`, which depends on the locks held). At every commit it demands the guarantee
`G`: a relation between the committed state before and after, which says what a commit of this call
can be.

The environment is a parameter. A program is proved safe once, for every environment that respects
the locks, and the result is used twice: with the environment of the other calls
(`ReadCommitted.sound`), and with the environment in which nothing else runs (`Tx.exec_sound`).

The rules are backward: what is to be proved of `t.bind f` is first proved of `t`, with everything
the rest needs as its postcondition. A postcondition speaks about the `Point` a call has reached:
how often it has committed, what it has locked, what its uncommitted changes are, and a committed
state it has seen. `Tx.Within.safe` is the frame rule: a program whose statements all stay within a
relation reaches a point whose uncommitted changes differ from the old ones within that relation.

## Main definitions

* `Environment`, `Environment.alone` — what the other calls may do.
* `Point`, `Tx.Safe` — the proof rules.

## Main results

* `Tx.Safe.bind`, `Tx.Within.safe`, `Tx.Safe.selectForUpdate` — the rules.
* `ReadCommitted.sound` — if every program is safe, every reachable configuration satisfies the
  invariant, and every commit is one the guarantee of its call allows.
* `Tx.exec_sound` — the same for a program that runs alone.
-/

variable {σ L ε α β ρ : Type}

/-- What a call may assume about the committed state: an invariant, and how the other calls change
it while this call holds some locks. -/
structure Environment (σ L : Type) where
  Inv : σ → Prop
  Rely : Set (L × RowLock) → σ → σ → Prop
  refl : ∀ H s, Rely H s s
  trans : ∀ {H s t u}, Rely H s t → Rely H t u → Rely H s u
  anti : ∀ {H H' s t}, H ⊆ H' → Rely H' s t → Rely H s t

/-- The environment in which nothing else runs. -/
def Environment.alone (Inv : σ → Prop) : Environment σ L where
  Inv := Inv
  Rely _ := Eq
  refl _ _ := rfl
  trans := Eq.trans
  anti _ h := h

/-- Where a call stands. -/
structure Point (σ L : Type) where
  /-- How often it has committed. -/
  commits : ℕ
  locks : Set (L × RowLock)
  /-- Its uncommitted changes, as a function of the committed state. -/
  pending : σ → σ
  /-- A committed state it has seen. -/
  db : σ

/-- A call that has just begun. -/
def Point.start (s : σ) : Point σ L := ⟨0, ∅, id, s⟩

namespace Tx

/-- What a commit of a call can be: its number, the locks held, the states before and after. -/
abbrev Guarantee (σ L : Type) := ℕ → Set (L × RowLock) → σ → σ → Prop

variable (E : Environment σ L) (G : Guarantee σ L)

/-- From this point the program makes only commits that `G` allows, returns only as `Q` says and
raises only as `X` says. -/
def Safe (Q : α → Point σ L → Prop) (X : ε → Point σ L → Prop) :
    Tx σ L ε α → Point σ L → Prop
  | .pure a, x => Q a x
  | .raise e, x => X e x
  | .lock l m k, x => ∀ s, E.Inv s → E.Rely x.locks x.db s →
      k.Safe Q X { x with locks := insert (l, m) x.locks, db := s }
  | .stmt δ k, x => ∀ s, E.Inv s → E.Rely x.locks x.db s →
      (k (x.pending s)).Safe Q X { x with pending := δ (x.pending s) ∘ x.pending, db := s }
  | .commit k, x => ∀ s, E.Inv s → E.Rely x.locks x.db s →
      G x.commits x.locks s (x.pending s) ∧
        k.Safe Q X ⟨x.commits + 1, ∅, id, x.pending s⟩

/-- The point `y` is reached from `x` without a commit, and the uncommitted changes have been
extended within `F`. -/
structure Extends (F : σ → σ → Prop) (x y : Point σ L) : Prop where
  commits : y.commits = x.commits
  locks : x.locks ⊆ y.locks
  pending : ∀ s, F (x.pending s) (y.pending s)
  rely : E.Rely x.locks x.db y.db

variable {E G} {Q : α → Point σ L → Prop} {X : ε → Point σ L → Prop} {x : Point σ L}

namespace Safe

theorem pure {a : α} (h : Q a x) : (Tx.pure a : Tx σ L ε α).Safe E G Q X x := h

theorem raise {e : ε} (h : X e x) : (Tx.raise e : Tx σ L ε α).Safe E G Q X x := h

theorem of_pure {a : α} (h : (Tx.pure a : Tx σ L ε α).Safe E G Q X x) : Q a x := h

theorem of_raise {e : ε} (h : (Tx.raise e : Tx σ L ε α).Safe E G Q X x) : X e x := h

theorem mono {Q' : α → Point σ L → Prop} {X' : ε → Point σ L → Prop} {t : Tx σ L ε α}
    (h : t.Safe E G Q X x) (hQ : ∀ a y, Q a y → Q' a y) (hX : ∀ e y, X e y → X' e y) :
    t.Safe E G Q' X' x := by
  induction t generalizing x with
  | pure a => exact hQ a x h
  | raise e => exact hX e x h
  | lock l m k ih => exact fun s hs hr => ih (h s hs hr)
  | stmt δ k ih => exact fun s hs hr => ih _ (h s hs hr)
  | commit k ih => exact fun s hs hr => ⟨(h s hs hr).1, ih (h s hs hr).2⟩

/-- A guarantee that says less. -/
theorem weaken {G' : Guarantee σ L} {t : Tx σ L ε α} (h : t.Safe E G Q X x)
    (hG : ∀ n H s s', G n H s s' → G' n H s s') : t.Safe E G' Q X x := by
  induction t generalizing x with
  | pure a => exact h
  | raise e => exact h
  | lock l m k ih => exact fun s hs hr => ih (h s hs hr)
  | stmt δ k ih => exact fun s hs hr => ih _ (h s hs hr)
  | commit k ih => exact fun s hs hr => ⟨hG _ _ _ _ (h s hs hr).1, ih (h s hs hr).2⟩

/-- The rule for sequencing. -/
theorem bind {t : Tx σ L ε β} {f : β → Tx σ L ε α} {R : β → Point σ L → Prop}
    (ht : t.Safe E G R X x) (hf : ∀ b y, R b y → (f b).Safe E G Q X y) :
    (t.bind f).Safe E G Q X x := by
  induction t generalizing x with
  | pure b => exact hf b x ht
  | raise e => exact ht
  | lock l m k ih => exact fun s hs hr => ih (ht s hs hr)
  | stmt δ k ih => exact fun s hs hr => ih _ (ht s hs hr)
  | commit k ih => exact fun s hs hr => ⟨(ht s hs hr).1, ih (ht s hs hr).2⟩

/-- Whether a condition holds is known after it was checked. -/
theorem ensure_bind {b : Bool} {e : ε} {f : Unit → Tx σ L ε α} (hX : b = false → X e x)
    (hf : b = true → (f ()).Safe E G Q X x) : ((Tx.ensure b e).bind f).Safe E G Q X x := by
  cases b with
  | true => exact hf rfl
  | false => exact hX rfl

theorem require_bind {o : Option β} {e : ε} {f : β → Tx σ L ε α} (hX : o = none → X e x)
    (hf : ∀ b, o = some b → (f b).Safe E G Q X x) :
    ((Tx.require o e).bind f).Safe E G Q X x := by
  cases o with
  | some b => exact hf b rfl
  | none => exact hX rfl

theorem read_bind {g : σ → β} {f : β → Tx σ L ε α}
    (hf : ∀ s, E.Inv s → E.Rely x.locks x.db s →
      (f (g (x.pending s))).Safe E G Q X { x with db := s }) :
    ((Tx.read g).bind f).Safe E G Q X x :=
  hf

theorem write_bind {δ : σ → σ → σ} {f : Unit → Tx σ L ε α}
    (hf : ∀ s, E.Inv s → E.Rely x.locks x.db s →
      (f ()).Safe E G Q X { x with pending := δ (x.pending s) ∘ x.pending, db := s }) :
    ((Tx.write δ).bind f).Safe E G Q X x :=
  hf

theorem stmt_bind {δ : σ → σ → σ} {g : σ → Tx σ L ε β} {f : β → Tx σ L ε α}
    (hf : ∀ s, E.Inv s → E.Rely x.locks x.db s → ((g (x.pending s)).bind f).Safe E G Q X
      { x with pending := δ (x.pending s) ∘ x.pending, db := s }) :
    ((Tx.stmt δ g).bind f).Safe E G Q X x :=
  hf

theorem writeIf_bind {admits : σ → Bool} {e : ε} {δ : σ → σ → σ} {f : Unit → Tx σ L ε α}
    (hX : ∀ s, E.Inv s → E.Rely x.locks x.db s → X e { x with db := s })
    (hf : ∀ s, E.Inv s → E.Rely x.locks x.db s → admits (x.pending s) = true →
      (f ()).Safe E G Q X { x with pending := δ (x.pending s) ∘ x.pending, db := s }) :
    ((Tx.writeIf admits e δ).bind f).Safe E G Q X x := by
  intro s hs hr
  by_cases ha : admits (x.pending s)
  · simpa [ha] using hf s hs hr ha
  · simpa [ha, Safe, Function.comp_def] using hX s hs hr

/-- Taking locks changes nothing but the locks held, and lets time pass. -/
theorem lockAll_bind {m : RowLock} {ls : List L} {f : Unit → Tx σ L ε α}
    (hf : ∀ H s, x.locks ⊆ H → (∀ l ∈ ls, (l, m) ∈ H) → E.Rely x.locks x.db s →
      (f ()).Safe E G Q X { x with locks := H, db := s }) :
    ((Tx.lockAll m ls).bind f).Safe E G Q X x := by
  induction ls generalizing x with
  | nil => exact hf x.locks x.db subset_rfl (by simp) (E.refl _ _)
  | cons l ls ih =>
    intro s hs hr
    refine ih fun H t hH hls ht => hf H t ?_ ?_ ?_
    · exact (Set.subset_insert _ _).trans hH
    · intro l' hl'
      rcases List.mem_cons.1 hl' with rfl | hl'
      · exact hH (Set.mem_insert _ _)
      · exact hls l' hl'
    · exact E.trans hr (E.anti (Set.subset_insert _ _) ht)

theorem commitNow_bind {f : Unit → Tx σ L ε α}
    (hf : ∀ s, E.Inv s → E.Rely x.locks x.db s → G x.commits x.locks s (x.pending s) ∧
      (f ()).Safe E G Q X ⟨x.commits + 1, ∅, id, x.pending s⟩) :
    (Tx.commitNow.bind f).Safe E G Q X x :=
  hf

/-- A row-locking read by primary key. If there is a row its lock is held, and the call goes on
with what a second look found. -/
theorem selectForUpdate_bind {key : ρ → L} {find : σ → Option ρ} {f : Option ρ → Tx σ L ε α}
    {l : L} (hkey : ∀ v row, find v = some row → key row = l)
    (hnone : ∀ s, E.Inv s → E.Rely x.locks x.db s → (f none).Safe E G Q X { x with db := s })
    (hsome : ∀ s, E.Inv s → E.Rely x.locks x.db s → (f (find (x.pending s))).Safe E G Q X
      { x with locks := insert (l, .update) x.locks, db := s }) :
    ((Tx.selectForUpdate key find).bind f).Safe E G Q X x := by
  intro s hs hr
  cases hrow : find (x.pending s) with
  | none => simpa [hrow] using hnone s hs hr
  | some row =>
    simp only [pure_bind, hrow, lock_bind]
    intro s₁ hs₁ hr₁ s₂ hs₂ hr₂
    rw [hkey _ row hrow] at hr₂ ⊢
    exact hsome s₂ hs₂ (E.trans hr (E.trans hr₁ (E.anti (Set.subset_insert _ _) hr₂)))

/-- A row-locking read. The row it first found is locked; the second look may find another. -/
theorem selectForUpdate_found_bind {key : ρ → L} {find : σ → Option ρ} {f : Option ρ → Tx σ L ε α}
    (hnone : ∀ s, E.Inv s → E.Rely x.locks x.db s → find (x.pending s) = none →
      (f none).Safe E G Q X { x with db := s })
    (hsome : ∀ row s t, E.Inv s → E.Rely x.locks x.db s → find (x.pending s) = some row →
      E.Inv t → E.Rely x.locks s t → (f (find (x.pending t))).Safe E G Q X
        { x with locks := insert (key row, .update) x.locks, db := t }) :
    ((Tx.selectForUpdate key find).bind f).Safe E G Q X x := by
  intro s hs hr
  cases hrow : find (x.pending s) with
  | none => simpa [hrow] using hnone s hs hr hrow
  | some row =>
    simp only [pure_bind, hrow, lock_bind]
    intro s₁ hs₁ hr₁ s₂ hs₂ hr₂
    exact hsome row s s₂ hs hr hrow hs₂ (E.trans hr₁ (E.anti (Set.subset_insert _ _) hr₂))

/-- A row-locking read of any number of rows: those it returns are there, and locked. A row that
was there at first and still is, under its key, is among them. -/
theorem selectAllForUpdate_complete_bind [DecidableEq L] {key : ρ → L} {rows : σ → List ρ}
    {f : List ρ → Tx σ L ε α}
    (hf : ∀ H s₀ s found, x.locks ⊆ H → E.Inv s₀ → E.Rely x.locks x.db s₀ → E.Inv s →
      E.Rely x.locks s₀ s → found.Sublist (rows (x.pending s)) →
      (∀ r ∈ found, (key r, .update) ∈ H) →
      (∀ r ∈ rows (x.pending s), ∀ r₀ ∈ rows (x.pending s₀), key r₀ = key r → r ∈ found) →
      (f found).Safe E G Q X { x with locks := H, db := s }) :
    ((Tx.selectAllForUpdate key rows).bind f).Safe E G Q X x := by
  rw [Tx.selectAllForUpdate, bind_assoc]
  refine read_bind fun s hs hr => ?_
  rw [bind_assoc]
  refine lockAll_bind fun H t hH hkeys hrt => ?_
  refine read_bind fun u hu hru => ?_
  refine hf H s u _ hH hs hr hu (E.trans hrt (E.anti hH hru)) List.filter_sublist ?_ ?_
  · intro r hr
    exact hkeys _ (of_decide_eq_true (List.mem_filter.1 hr).2)
  · intro r hr r₀ hr₀ hkey
    exact List.mem_filter.2 ⟨hr, decide_eq_true (hkey ▸ List.mem_map_of_mem hr₀)⟩

/-- A row-locking read of any number of rows: those it returns are there, and locked. -/
theorem selectAllForUpdate_bind [DecidableEq L] {key : ρ → L} {rows : σ → List ρ}
    {f : List ρ → Tx σ L ε α}
    (hf : ∀ H s found, x.locks ⊆ H → E.Inv s → E.Rely x.locks x.db s →
      found.Sublist (rows (x.pending s)) → (∀ r ∈ found, (key r, .update) ∈ H) →
      (f found).Safe E G Q X { x with locks := H, db := s }) :
    ((Tx.selectAllForUpdate key rows).bind f).Safe E G Q X x :=
  selectAllForUpdate_complete_bind fun H _ s found hH _ hr₀ hs hr hsub hkeys _ =>
    hf H s found hH hs (E.trans hr₀ hr) hsub hkeys

/-- The rule for loops, with an invariant that each turn keeps which the loop takes. -/
theorem forEach_mem {I : Point σ L → Prop} {f : ρ → Tx σ L ε Unit} {rows : List ρ} (hx : I x)
    (hf : ∀ row ∈ rows, ∀ y, I y → (f row).Safe E G (fun _ => I) X y) :
    (Tx.forEach rows f).Safe E G (fun _ => I) X x := by
  induction rows generalizing x with
  | nil => exact hx
  | cons row rows ih =>
    refine bind (hf row List.mem_cons_self x hx) fun _ y hy => ih hy fun r hr => ?_
    exact hf r (List.mem_cons_of_mem _ hr)

/-- The rule for loops, with an invariant. -/
theorem forEach {I : Point σ L → Prop} {f : ρ → Tx σ L ε Unit} {rows : List ρ} (hx : I x)
    (hf : ∀ row y, I y → (f row).Safe E G (fun _ => I) X y) :
    (Tx.forEach rows f).Safe E G (fun _ => I) X x :=
  forEach_mem hx fun row _ => hf row

theorem mapError {f : ε → ε} {t : Tx σ L ε α} (h : t.Safe E G Q (fun e => X (f e)) x) :
    (t.mapError f).Safe E G Q X x := by
  induction t generalizing x with
  | pure a => exact h
  | raise e => exact h
  | lock l m k ih => exact fun s hs hr => ih (h s hs hr)
  | stmt δ k ih => exact fun s hs hr => ih _ (h s hs hr)
  | commit k ih => exact fun s hs hr => ⟨(h s hs hr).1, ih (h s hs hr).2⟩

/-- What a program raises satisfies what holds of everything it raises. -/
theorem raises {P : ε → Prop} {t : Tx σ L ε α} (h : t.Safe E G Q X x) (ht : t.Raises P) :
    t.Safe E G Q (fun e y => P e ∧ X e y) x := by
  induction t generalizing x with
  | pure a => exact h
  | raise e => exact ⟨ht, h⟩
  | lock l m k ih => exact fun s hs hr => ih (h s hs hr) ht
  | stmt δ k ih => exact fun s hs hr => ih _ (h s hs hr) (ht _)
  | commit k ih => exact fun s hs hr => ⟨(h s hs hr).1, ih (h s hs hr).2 ht⟩

/-- Two arguments about one program. -/
theorem and {G' : Guarantee σ L} {Q' : α → Point σ L → Prop} {X' : ε → Point σ L → Prop}
    {t : Tx σ L ε α} (h : t.Safe E G Q X x) (h' : t.Safe E G' Q' X' x) :
    t.Safe E (fun n H s s' => G n H s s' ∧ G' n H s s') (fun a y => Q a y ∧ Q' a y)
      (fun e y => X e y ∧ X' e y) x := by
  induction t generalizing x with
  | pure a => exact ⟨h, h'⟩
  | raise e => exact ⟨h, h'⟩
  | lock l m k ih => exact fun s hs hr => ih (h s hs hr) (h' s hs hr)
  | stmt δ k ih => exact fun s hs hr => ih _ (h s hs hr) (h' s hs hr)
  | commit k ih =>
    exact fun s hs hr => ⟨⟨(h s hs hr).1, (h' s hs hr).1⟩, ih (h s hs hr).2 (h' s hs hr).2⟩

end Safe

namespace Extends

variable {F : σ → σ → Prop}

theorem refl (hF : ∀ s, F s s) (x : Point σ L) : Extends E F x x :=
  ⟨rfl, subset_rfl, fun _ => hF _, E.refl _ _⟩

theorem trans (hF : ∀ s t u, F s t → F t u → F s u) {x y z : Point σ L} (h : Extends E F x y)
    (h' : Extends E F y z) : Extends E F x z :=
  ⟨h'.commits.trans h.commits, h.locks.trans h'.locks,
    fun s => hF _ _ _ (h.pending s) (h'.pending s), E.trans h.rely (E.anti h.locks h'.rely)⟩

theorem mono {F' : σ → σ → Prop} (hF : ∀ s s', F s s' → F' s s') {x y : Point σ L}
    (h : Extends E F x y) : Extends E F' x y :=
  ⟨h.commits, h.locks, fun s => hF _ _ (h.pending s), h.rely⟩

end Extends

/-- **The frame rule.** -/
theorem Within.safe {F : σ → σ → Prop} {P : α → Prop} (hrefl : ∀ s, F s s)
    (htrans : ∀ s t u, F s t → F t u → F s u) {t : Tx σ L ε α} (h : t.Within F P) :
    t.Safe E G (fun a y => P a ∧ Extends E F x y) (fun _ y => Extends E F x y) x := by
  suffices H : ∀ y, Extends E F x y →
      t.Safe E G (fun a y => P a ∧ Extends E F x y) (fun _ y => Extends E F x y) y from
    H x (.refl hrefl x)
  induction t with
  | pure a => exact fun y hy => ⟨h, hy⟩
  | raise e => exact fun y hy => hy
  | lock l m k ih =>
    intro y hy s hs hr
    exact ih h _ (hy.trans htrans ⟨rfl, Set.subset_insert _ _, fun s => hrefl _, hr⟩)
  | stmt δ k ih =>
    intro y hy s hs hr
    exact ih _ (h.2 _) _ (hy.trans htrans ⟨rfl, subset_rfl, fun s => h.1 _ _, hr⟩)
  | commit k ih => exact h.elim

theorem Within.safe_bind {F : σ → σ → Prop} {P : β → Prop} (hrefl : ∀ s, F s s)
    (htrans : ∀ s t u, F s t → F t u → F s u) {t : Tx σ L ε β} (h : t.Within F P)
    {f : β → Tx σ L ε α} (hX : ∀ e y, Extends E F x y → X e y)
    (hf : ∀ b y, P b → Extends E F x y → (f b).Safe E G Q X y) :
    (t.bind f).Safe E G Q X x :=
  ((h.safe hrefl htrans).mono (fun _ _ hy => hy) hX).bind fun b y hy => hf b y hy.1 hy.2

end Tx

/-! ## Running alone -/

theorem Tx.execFrom_sound {Inv : σ → Prop} {G : Tx.Guarantee σ L} {Q : α → Point σ L → Prop}
    {X : ε → Point σ L → Prop} (hG : ∀ n H s s', Inv s → G n H s s' → Inv s')
    {t : Tx σ L ε α} {n : ℕ} {H : Set (L × RowLock)} {p : σ → σ} {s : σ} (hs : Inv s)
    (h : t.Safe (.alone Inv) G Q X ⟨n, H, p, s⟩) :
    Relation.ReflTransGen (fun s s' => Inv s ∧ ∃ n H, G n H s s') s (t.execFrom p s).1 := by
  induction t generalizing n H p s with
  | pure a => exact .refl
  | raise e => exact .refl
  | lock l m k ih => exact ih hs (h s hs rfl)
  | stmt δ k ih => exact ih _ hs (h s hs rfl)
  | commit k ih =>
    obtain ⟨hc, hk⟩ := h s hs rfl
    exact .head ⟨hs, n, H, hc⟩ (ih (hG n H s _ hs hc) hk)

/-- **A program that runs alone** takes the database from one state to the other by commits its
guarantee allows. -/
theorem Tx.exec_sound {Inv : σ → Prop} {G : Tx.Guarantee σ L} {Q : α → Point σ L → Prop}
    {X : ε → Point σ L → Prop} (hG : ∀ n H s s', Inv s → G n H s s' → Inv s')
    {t : Tx σ L ε α} {s : σ} (hs : Inv s) (h : t.Safe (.alone Inv) G Q X (Point.start s)) :
    Relation.ReflTransGen (fun s s' => Inv s ∧ ∃ n H, G n H s s') s (t.exec s).1 :=
  Tx.execFrom_sound hG hs h

theorem Tx.execFrom_result {Inv : σ → Prop} {G : Tx.Guarantee σ L} {Q : α → Point σ L → Prop}
    {X : ε → Point σ L → Prop} (hG : ∀ n H s s', Inv s → G n H s s' → Inv s')
    {t : Tx σ L ε α} {n : ℕ} {H : Set (L × RowLock)} {p : σ → σ} {s : σ} (hs : Inv s)
    (h : t.Safe (.alone Inv) G Q X ⟨n, H, p, s⟩) :
    ∃ y : Point σ L, y.db = (t.execFrom p s).1 ∧
      (∀ a, (t.execFrom p s).2 = .ok a → Q a y) ∧ ∀ e, (t.execFrom p s).2 = .error e → X e y := by
  induction t generalizing n H p s with
  | pure a => exact ⟨_, rfl, fun b hb => Except.ok.inj hb ▸ h, nofun⟩
  | raise e => exact ⟨_, rfl, nofun, fun e' he => Except.error.inj he ▸ h⟩
  | lock l m k ih => exact ih hs (h s hs rfl)
  | stmt δ k ih => exact ih _ hs (h s hs rfl)
  | commit k ih =>
    obtain ⟨hc, hk⟩ := h s hs rfl
    exact ih (hG n H s _ hs hc) hk

/-- What a program that runs alone returns or raises. -/
theorem Tx.exec_result {Inv : σ → Prop} {G : Tx.Guarantee σ L} {Q : α → Point σ L → Prop}
    {X : ε → Point σ L → Prop} (hG : ∀ n H s s', Inv s → G n H s s' → Inv s')
    {t : Tx σ L ε α} {s : σ} (hs : Inv s) (h : t.Safe (.alone Inv) G Q X (Point.start s)) :
    ∃ y : Point σ L, y.db = (t.exec s).1 ∧ (∀ a, (t.exec s).2 = .ok a → Q a y) ∧
      ∀ e, (t.exec s).2 = .error e → X e y :=
  Tx.execFrom_result hG hs h

/-! ## Running with others -/

namespace ReadCommitted

variable {ω : Type}

/-- What makes an environment the environment of calls with given guarantees. -/
structure Closed (E : Environment σ L) (G : ω → Tx.Guarantee σ L) : Prop where
  /-- A commit of any call keeps the invariant. -/
  inv : ∀ op n H s s', E.Inv s → G op n H s s' → E.Inv s'
  /-- A commit of any call is something the others rely on. -/
  rely : ∀ op n H H' s s', E.Inv s → G op n H s s' → Compatible H H' → E.Rely H' s s'

/-- One commit of another call, while this one holds the locks `H`. -/
def Interferes (Inv : σ → Prop) (G : ω → Tx.Guarantee σ L) (H : Set (L × RowLock)) (s s' : σ) :
    Prop :=
  Inv s ∧ ∃ op n H', G op n H' s s' ∧ Compatible H' H

/-- The environment of calls with given guarantees: the others do any number of commits, each
under locks that do not conflict. -/
def environment (Inv : σ → Prop) (G : ω → Tx.Guarantee σ L) : Environment σ L where
  Inv := Inv
  Rely H := Relation.ReflTransGen (Interferes Inv G H)
  refl _ _ := .refl
  trans := Relation.ReflTransGen.trans
  anti h hr := Relation.ReflTransGen.mono
    (fun _ _ ⟨hs, op, n, H', hG, hc⟩ => ⟨hs, op, n, H', hG, hc.mono subset_rfl h⟩) _ _ hr

theorem closed_environment {Inv : σ → Prop} {G : ω → Tx.Guarantee σ L}
    (h : ∀ op n H s s', Inv s → G op n H s s' → Inv s') : Closed (environment Inv G) G where
  inv := h
  rely op n H _ _ _ hs hG hc := Relation.ReflTransGen.single ⟨hs, op, n, H, hG, hc⟩

/-- A reflexive and transitive relation that holds across every compatible commit holds across
whatever the others do. -/
theorem relates_of_rely {Inv : σ → Prop} {G : ω → Tx.Guarantee σ L} {H : Set (L × RowLock)}
    {R : σ → σ → Prop} (hrefl : ∀ s, R s s) (htrans : ∀ s t u, R s t → R t u → R s u)
    (hstep : ∀ op n H' s s', Inv s → G op n H' s s' → Compatible H' H → R s s') {s s' : σ}
    (h : Relation.ReflTransGen (Interferes Inv G H) s s') : R s s' := by
  induction h with
  | refl => exact hrefl _
  | tail _ hlast ih =>
    obtain ⟨ht, op, n, H', hG, hc⟩ := hlast
    exact htrans _ _ _ ih (hstep op n H' _ _ ht hG hc)

variable [DecidableEq L] {E : Environment σ L} {G : ω → Tx.Guarantee σ L}
  {Q : ω → α → Point σ L → Prop} {X : ω → ε → Point σ L → Prop} {prog : ω → Tx σ L ε α}

/-- Every call in progress is safe from some point whose locks and changes it has. -/
structure SafeConfig (E : Environment σ L) (G : ω → Tx.Guarantee σ L)
    (Q : ω → α → Point σ L → Prop) (X : ω → ε → Point σ L → Prop) (c : Config σ L ε α ω) :
    Prop where
  inv : E.Inv c.db
  calls : ∀ i p, c.sessions i = some p → ∃ s, E.Rely (c.held i) s c.db ∧
    p.code.Safe E (G p.op) (Q p.op) (X p.op) ⟨p.commits, c.held i, p.pending, s⟩
  history : ∀ e ∈ c.history, E.Inv e.before ∧ ∃ n H, G e.op n H e.before e.after

/-- The same, where what is shown of a call depends on which call it is. -/
structure SafeEach (E : Environment σ L) (G : ω × ℕ → Tx.Guarantee σ L)
    (Q : ω × ℕ → α → Point σ L → Prop) (X : ω × ℕ → ε → Point σ L → Prop)
    (c : Config σ L ε α ω) : Prop where
  inv : E.Inv c.db
  calls : ∀ i p, c.sessions i = some p → ∃ s, E.Rely (c.held i) s c.db ∧
    p.code.Safe E (G (p.op, p.serial)) (Q (p.op, p.serial)) (X (p.op, p.serial))
      ⟨p.commits, c.held i, p.pending, s⟩
  history : ∀ e ∈ c.history, E.Inv e.before ∧ ∃ n H, G (e.op, e.serial) n H e.before e.after

open Config in
theorem safeEach_of_takes {init : σ → Prop} {G : ω × ℕ → Tx.Guarantee σ L}
    {Q : ω × ℕ → α → Point σ L → Prop} {X : ω × ℕ → ε → Point σ L → Prop} (hE : Closed E G)
    {c c' : Config σ L ε α ω} (hsafe : ∀ i op,
      c'.sessions i = some ⟨op, c.calls, prog op, id, 0⟩ → (prog op).Safe E (G (op, c.calls))
        (Q (op, c.calls)) (X (op, c.calls)) (Point.start c.db)) (hw : c.WellFormed init)
    (h : SafeEach E G Q X c) (ht : Takes prog c c') : SafeEach E G Q X c' := by
  cases ht with
  | begins i op hi =>
    refine ⟨h.inv, fun j p hp => ?_, h.history⟩
    by_cases hj : j = i
    · subst hj
      rw [set_sessions_self] at hp
      cases hp
      have hfree : c.held j = ∅ := hw.free j (by simp [card, hi])
      refine ⟨c.db, E.refl _ _, ?_⟩
      change (prog op).Safe E (G (op, c.calls)) (Q (op, c.calls)) (X (op, c.calls))
        ⟨0, c.held j, id, c.db⟩
      rw [hfree]
      exact hsafe j op (set_sessions_self _ _)
    · rw [set_sessions_of_ne hj] at hp
      exact h.calls j p hp
  | locks i p l m k hi hp hl =>
    refine ⟨h.inv, fun j q hq => ?_, h.history⟩
    by_cases hj : j = i
    · subst hj
      rw [set_sessions_self] at hq
      cases hq
      obtain ⟨s, hr, hs⟩ := h.calls j p hi
      rw [hp] at hs
      have hheld : ({ c with locks := ⟨j, l, m⟩ :: c.locks } : Config σ L ε α ω).held j
          = insert (l, m) (c.held j) := by
        ext ⟨l', m'⟩
        simp [held]
      refine ⟨c.db, E.refl _ _, ?_⟩
      change k.Safe E (G (p.op, p.serial)) (Q (p.op, p.serial)) (X (p.op, p.serial)) ⟨p.commits,
        ({ c with locks := ⟨j, l, m⟩ :: c.locks } : Config σ L ε α ω).held j, p.pending, c.db⟩
      rw [hheld]
      exact hs c.db h.inv hr
    · rw [set_sessions_of_ne hj] at hq
      have hheld : ({ c with locks := ⟨i, l, m⟩ :: c.locks } : Config σ L ε α ω).held j
          = c.held j := by
        ext ⟨l', m'⟩
        simp [held, hj]
      obtain ⟨s, hr, hs⟩ := h.calls j q hq
      refine ⟨s, ?_, ?_⟩
      · change E.Rely (({ c with locks := ⟨i, l, m⟩ :: c.locks } : Config σ L ε α ω).held j) s c.db
        rwa [hheld]
      · change q.code.Safe E (G (q.op, q.serial)) (Q (q.op, q.serial)) (X (q.op, q.serial))
          ⟨q.commits, ({ c with locks := ⟨i, l, m⟩ :: c.locks } : Config σ L ε α ω).held j, q.pending, s⟩
        rwa [hheld]
  | executes i p δ k hi hp =>
    refine ⟨h.inv, fun j q hq => ?_, h.history⟩
    by_cases hj : j = i
    · subst hj
      rw [set_sessions_self] at hq
      cases hq
      obtain ⟨s, hr, hs⟩ := h.calls j p hi
      rw [hp] at hs
      exact ⟨c.db, E.refl _ _, hs c.db h.inv hr⟩
    · rw [set_sessions_of_ne hj] at hq
      exact h.calls j q hq
  | commits i p k hi hp =>
    obtain ⟨s, hr, hs⟩ := h.calls i p hi
    rw [hp] at hs
    obtain ⟨hG, hk⟩ := hs c.db h.inv hr
    have hinv := hE.inv (p.op, p.serial) p.commits (c.held i) c.db _ h.inv hG
    refine ⟨hinv, fun j q hq => ?_, fun e he => ?_⟩
    · by_cases hj : j = i
      · subst hj
        rw [set_sessions_self] at hq
        cases hq
        have hheld : ({ c with locks := c.release j } : Config σ L ε α ω).held j = ∅ :=
          Set.eq_empty_of_forall_notMem fun lm hlm => (mem_held_release.1 hlm).2 rfl
        refine ⟨p.pending c.db, E.refl _ _, ?_⟩
        change k.Safe E (G (p.op, p.serial)) (Q (p.op, p.serial)) (X (p.op, p.serial))
          ⟨p.commits + 1, ({ c with locks := c.release j } : Config σ L ε α ω).held j, id, p.pending c.db⟩
        rw [hheld]
        exact hk
      · rw [set_sessions_of_ne hj] at hq
        have hheld : ({ c with locks := c.release i } : Config σ L ε α ω).held j = c.held j := by
          ext lm
          rw [mem_held_release]
          simp [hj]
        obtain ⟨t, hrt, ht⟩ := h.calls j q hq
        have hrely := hE.rely (p.op, p.serial) p.commits (c.held i) (c.held j) c.db _ h.inv hG
          (hw.compatible i j (Ne.symm hj))
        refine ⟨t, ?_, ?_⟩
        · change E.Rely (({ c with locks := c.release i } : Config σ L ε α ω).held j) t _
          rw [hheld]
          exact E.trans hrt hrely
        · change q.code.Safe E (G (q.op, q.serial)) (Q (q.op, q.serial)) (X (q.op, q.serial)) ⟨q.commits,
            ({ c with locks := c.release i } : Config σ L ε α ω).held j, q.pending, t⟩
          rwa [hheld]
    · rcases List.mem_cons.1 he with rfl | he
      · exact ⟨h.inv, p.commits, c.held i, hG⟩
      · exact h.history e he
  | closes i =>
    refine ⟨h.inv, fun j q hq => ?_, h.history⟩
    by_cases hj : j = i
    · subst hj
      rw [set_sessions_self] at hq
      cases hq
    · rw [set_sessions_of_ne hj] at hq
      have hheld : ({ c with locks := c.release i } : Config σ L ε α ω).held j = c.held j := by
        ext lm
        rw [mem_held_release]
        simp [hj]
      obtain ⟨t, hrt, ht⟩ := h.calls j q hq
      refine ⟨t, ?_, ?_⟩
      · change E.Rely (({ c with locks := c.release i } : Config σ L ε α ω).held j) t c.db
        rwa [hheld]
      · change q.code.Safe E (G (q.op, q.serial)) (Q (q.op, q.serial)) (X (q.op, q.serial))
          ⟨q.commits, ({ c with locks := c.release i } : Config σ L ε α ω).held j, q.pending, t⟩
        rwa [hheld]

open Config in
theorem safeConfig_of_takes {init : σ → Prop} (hE : Closed E G)
    (hsafe : ∀ op s, E.Inv s → (prog op).Safe E (G op) (Q op) (X op) (Point.start s))
    {c c' : Config σ L ε α ω} (hw : c.WellFormed init) (h : SafeConfig E G Q X c)
    (ht : Takes prog c c') : SafeConfig E G Q X c' := by
  have heach := safeEach_of_takes (G := fun o => G o.1) (Q := fun o => Q o.1) (X := fun o => X o.1)
    ⟨fun o => hE.inv o.1, fun o => hE.rely o.1⟩ (fun _ op _ => hsafe op c.db h.inv) hw
    ⟨h.inv, h.calls, h.history⟩ ht
  exact ⟨heach.inv, heach.calls, heach.history⟩

/-- **Soundness.** If every program is safe in an environment that their guarantees make, then
every reachable configuration satisfies the invariant, every call in progress is safe, and every
commit of the history is one its call was allowed. -/
theorem sound {init : σ → Prop} (hE : Closed E G) (hinit : ∀ s, init s → E.Inv s)
    (hsafe : ∀ op s, E.Inv s → (prog op).Safe E (G op) (Q op) (X op) (Point.start s))
    {c : Config σ L ε α ω} (h : (system init prog).Reachable c) : SafeConfig E G Q X c := by
  suffices H : c.WellFormed init ∧ SafeConfig E G Q X c from H.2
  refine TransitionSystem.Inductive.of_reachable
    (I := fun c : Config σ L ε α ω => c.WellFormed init ∧ SafeConfig E G Q X c) ⟨?_, ?_⟩ h
  · rintro c ⟨hdb, hs, hl, hh, -⟩
    refine ⟨wellFormed_of_init hdb hs hl hh, hinit _ hdb, fun i p hp => ?_, fun e he => ?_⟩
    · simp [hs] at hp
    · simp [hh] at he
  · rintro c e c' ⟨hw, hc⟩ hstep
    have ht := takes_of_step hstep
    exact ⟨wellFormed_of_takes hw ht, safeConfig_of_takes hE hsafe hw hc ht⟩

/-- **A call, from the state it began in.** What the program of a call is shown to do from the state
the call begins in is what the call does, among all the others. -/
theorem safeEach_of_call {init : σ → Prop} (hE : Closed E G) (hinit : ∀ s, init s → E.Inv s)
    (hsafe : ∀ op s, E.Inv s → (prog op).Safe E (G op) (Q op) (X op) (Point.start s))
    {c c₁ c₂ : Config σ L ε α ω} (h : (system init prog).Reachable c) {i : ℕ} {op : ω}
    (hcall : step prog c (.call i op) = some c₁) {G' : Tx.Guarantee σ L}
    {Q' : α → Point σ L → Prop} {X' : ε → Point σ L → Prop}
    (hG' : ∀ n H s s', G' n H s s' → G op n H s s')
    (hstart : (prog op).Safe E G' Q' X' (Point.start c.db)) {es : List (Event ω)}
    (hrun : (system init prog).run c₁ es = some c₂) :
    SafeEach E (fun o => if o.2 = c.calls then G' else G o.1)
      (fun o => if o.2 = c.calls then Q' else Q o.1)
      (fun o => if o.2 = c.calls then X' else X o.1) c₂ := by
  let G₁ : ω × ℕ → Tx.Guarantee σ L := fun o => if o.2 = c.calls then G' else G o.1
  let Q₁ : ω × ℕ → α → Point σ L → Prop := fun o => if o.2 = c.calls then Q' else Q o.1
  let X₁ : ω × ℕ → ε → Point σ L → Prop := fun o => if o.2 = c.calls then X' else X o.1
  have hG : ∀ o n H s s', G₁ o n H s s' → ∃ op, G op n H s s' := by
    intro o n H s s' hstep
    by_cases ho : o.2 = c.calls
    · exact ⟨op, hG' n H s s' (by simpa only [G₁, if_pos ho] using hstep)⟩
    · exact ⟨o.1, by simpa only [G₁, if_neg ho] using hstep⟩
  have hE₁ : Closed E G₁ := by
    constructor
    · intro o n H s s' hs hstep
      obtain ⟨op', hstep⟩ := hG o n H s s' hstep
      exact hE.inv op' n H s s' hs hstep
    · intro o n H H' s s' hs hstep
      obtain ⟨op', hstep⟩ := hG o n H s s' hstep
      exact hE.rely op' n H H' s s' hs hstep
  have hother : ∀ op' n, n ≠ c.calls → G₁ (op', n) = G op' ∧ Q₁ (op', n) = Q op' ∧
      X₁ (op', n) = X op' := fun op' n hn => ⟨if_neg hn, if_neg hn, if_neg hn⟩
  have hw := wellFormed_of_reachable h
  have hc := sound hE hinit hsafe h
  have hbefore : SafeEach E G₁ Q₁ X₁ c := by
    refine ⟨hc.inv, fun j p hp => ?_, fun e he => ?_⟩
    · have hlt := hw.serial_lt j p.serial p.commits (Config.card_of_session hp)
      obtain ⟨hG₀, hQ₀, hX₀⟩ := hother p.op p.serial hlt.ne
      rw [hG₀, hQ₀, hX₀]
      exact hc.calls j p hp
    · rw [(hother e.op e.serial (hw.history_lt e he).ne).1]
      exact hc.history e he
  have ht := takes_of_step hcall
  have hfirst : SafeEach E G₁ Q₁ X₁ c₁ := by
    refine safeEach_of_takes hE₁ (fun j op' hj => ?_) hw hbefore ht
    have hop : op' = op := by
      rw [step] at hcall
      cases hi : c.sessions i with
      | some p =>
        rw [hi] at hcall
        cases hcall
      | none =>
        rw [hi] at hcall
        cases hcall
        by_cases hji : j = i
        · subst hji
          rw [Config.set_sessions_self] at hj
          cases hj
          rfl
        · rw [Config.set_sessions_of_ne hji] at hj
          exact absurd (hw.serial_lt j _ _ (Config.card_of_session hj)) (lt_irrefl _)
    subst hop
    simpa only [G₁, Q₁, X₁, if_true] using hstart
  have hcalls : c.calls < c₁.calls := by
    rw [step] at hcall
    cases hi : c.sessions i with
    | some p =>
      rw [hi] at hcall
      cases hcall
    | none =>
      rw [hi] at hcall
      cases hcall
      exact Nat.lt_succ_self _
  suffices H : ∀ c' : Config σ L ε α ω,
      (c'.WellFormed init ∧ c.calls < c'.calls ∧ SafeEach E G₁ Q₁ X₁ c') → ∀ es,
        (system init prog).run c' es = some c₂ → SafeEach E G₁ Q₁ X₁ c₂ from
    H c₁ ⟨wellFormed_of_takes hw ht, hcalls, hfirst⟩ es hrun
  clear hrun
  intro c' hc' es hrun
  induction es generalizing c' with
  | nil =>
    cases hrun
    exact hc'.2.2
  | cons e es ih =>
    obtain ⟨t, hstep, hrun⟩ := Option.bind_eq_some_iff.1 hrun
    obtain ⟨hw', hlt, heach⟩ := hc'
    have ht' := takes_of_step hstep
    refine ih t ⟨wellFormed_of_takes hw' ht', hlt.trans_le ht'.calls_le, ?_⟩ hrun
    refine safeEach_of_takes hE₁ (fun j op' _ => ?_) hw' heach ht'
    obtain ⟨hG₀, hQ₀, hX₀⟩ := hother op' c'.calls hlt.ne'
    rw [hG₀, hQ₀, hX₀]
    exact hsafe op' c'.db heach.inv

omit [DecidableEq L] in
/-- A call that has raised has raised as its guarantee says. -/
theorem SafeConfig.raised {c : Config σ L ε α ω} (h : SafeConfig E G Q X c) {i : ℕ}
    {p : Session σ L ε α ω} {e : ε} (hi : c.sessions i = some p) (hp : p.code = .raise e) :
    ∃ s, X p.op e ⟨p.commits, c.held i, p.pending, s⟩ := by
  obtain ⟨s, -, hs⟩ := h.calls i p hi
  rw [hp] at hs
  exact ⟨s, hs⟩

end ReadCommitted

-- Programs are followed by the rules from here on, never by unfolding.
attribute [irreducible] Tx.Safe
