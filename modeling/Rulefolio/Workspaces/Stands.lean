import Rulefolio.Workspaces.Commits

/-!
# Following a call on workspaces

`Stands` is where a call stands before its commit: it has changed only rows it has locked, each by
a `RowsStep`, and it has not committed. The rules below follow the statements of the services from
one such point to another, and end with the commit.

## Main definitions

* `Stands`.

## Main results

* `Stands.within_bind` — what does not look at workspaces.
* `Stands.insertRow_bind`, `Stands.updateRow_bind`, `Stands.write_bind` — the statements.
* `Stands.commitNow_bind` — the commit of a call that is neither an exchange nor about an exit.
-/

namespace Rulefolio

namespace Workspaces

open LockedViews ReadCommitted

/-- The call may change the rows with these keys. -/
def Allowed (call : Call) (K : Set RowKey) : Prop :=
  call.governs = true ∨ ∀ k ∈ K, isGovernance k = false

theorem Allowed.union {call : Call} {K K' : Set RowKey} (h : Allowed call K)
    (h' : Allowed call K') : Allowed call (K ∪ K') := by
  rcases h with h | h
  · exact .inl h
  · rcases h' with h' | h'
    · exact .inl h'
    · exact .inr fun k hk => hk.elim (h k) (h' k)

theorem allowed_singleton {call : Call} {k : RowKey} (hk : isGovernance k = false) :
    Allowed call {k} :=
  .inr fun _ h => Set.mem_singleton_iff.1 h ▸ hk

/-- Where a call stands before its commit: it has changed only the rows with keys in `K`. -/
structure Stands (call : Call) (K : Set RowKey) (x : Point Database RowKey) : Prop
    extends LockedViews.Tracks rowViews (fun _ => RowsStep call) K x where
  fresh : x.commits = 0
  allowed : Allowed call K

variable {α β : Type} {E : Environment Database RowKey} {call : Call} {K K' : Set RowKey}
  {x y : Point Database RowKey} {Q : α → Point Database RowKey → Prop}
  {X : ServiceError → Point Database RowKey → Prop}

theorem stands_start (call : Call) (db : Database) : Stands call ∅ (Point.start db) :=
  ⟨tracks_of_id (fun _ => RowsStep.refl call) rfl, rfl, .inr nofun⟩

namespace Stands

theorem extends_ (hE : Respects E) (h : Stands call K x) (hy : Tx.Extends E rowViews.Same x y) :
    Stands call K y :=
  ⟨h.toTracks.extends_ hE.views (fun _ => RowsStep.refl call) hy, hy.commits.trans h.fresh,
    h.allowed⟩

/-- A part of the call that changes nothing of workspaces. -/
theorem within_bind (hE : Respects E) (h : Stands call K x) (hX : ∀ e y, X e y)
    {t : Program β} {P : β → Prop} (ht : t.Within rowViews.Same P) {f : β → Program α}
    (hf : ∀ b y, P b → Stands call K y → Tx.Extends E rowViews.Same x y →
      (f b).Safe E (guarantee call) Q X y) :
    (t.bind f).Safe E (guarantee call) Q X x :=
  ht.safe_bind Same.refl Same.trans (fun e y _ => hX e y)
    fun b y hb hy => hf b y hb (h.extends_ hE hy) hy

/-- What a statement reads. -/
theorem read_bind (hE : Respects E) (h : Stands call K x) {g : Database → β} {f : β → Program α}
    (hf : ∀ y, Stands call K y → Tx.Extends E rowViews.Same x y → E.Inv y.db →
      y.pending = x.pending → (f (g (x.pending y.db))).Safe E (guarantee call) Q X y) :
    ((Tx.read g).bind f).Safe E (guarantee call) Q X x := by
  refine Tx.Safe.read_bind fun s hs hr => ?_
  have hy : Tx.Extends E rowViews.Same x { x with db := s } :=
    ⟨rfl, subset_rfl, fun s => Same.refl _, hr⟩
  exact hf _ (h.extends_ hE hy) hy hs rfl

/-- A row-locking read that misses no row that was there at first and still is. -/
theorem selectEvery_bind {ρ : Type} (hE : Respects E) (h : Stands call K x) {key : ρ → RowKey}
    {rows : Database → List ρ} {f : List ρ → Program α}
    (hf : ∀ s₀ found y, Stands call K y → Tx.Extends E rowViews.Same x y → E.Inv s₀ →
      E.Rely x.locks x.db s₀ → E.Inv y.db → E.Rely x.locks s₀ y.db → y.pending = x.pending →
      found.Sublist (rows (x.pending y.db)) → (∀ r ∈ found, (key r, .update) ∈ y.locks) →
      (∀ r ∈ rows (x.pending y.db), r ∈ rows (x.pending s₀) → r ∈ found) →
      (f found).Safe E (guarantee call) Q X y) :
    ((Tx.selectAllForUpdate key rows).bind f).Safe E (guarantee call) Q X x := by
  refine Tx.Safe.selectAllForUpdate_complete_bind fun H s₀ s found hH hs₀ hr₀ hs hr hsub hkeys
    hevery => ?_
  have hy : Tx.Extends E rowViews.Same x { x with locks := H, db := s } :=
    ⟨rfl, hH, fun s => Same.refl _, E.trans hr₀ hr⟩
  exact hf s₀ found _ (h.extends_ hE hy) hy hs₀ hr₀ hs hr rfl hsub hkeys
    fun r hr hr₀ => hevery r hr r hr₀ rfl

/-- A row-locking read of any number of rows. -/
theorem selectAll_bind {ρ : Type} (hE : Respects E) (h : Stands call K x) {key : ρ → RowKey}
    {rows : Database → List ρ} {f : List ρ → Program α}
    (hf : ∀ found y, Stands call K y → Tx.Extends E rowViews.Same x y → E.Inv y.db →
      y.pending = x.pending → found.Sublist (rows (x.pending y.db)) →
      (∀ r ∈ found, (key r, .update) ∈ y.locks) → (f found).Safe E (guarantee call) Q X y) :
    ((Tx.selectAllForUpdate key rows).bind f).Safe E (guarantee call) Q X x := by
  refine Tx.Safe.selectAllForUpdate_bind fun H s found hH hs hr hsub hkeys => ?_
  have hy : Tx.Extends E rowViews.Same x { x with locks := H, db := s } :=
    ⟨rfl, hH, fun s => Same.refl _, hr⟩
  exact hf found _ (h.extends_ hE hy) hy hs rfl hsub hkeys

theorem selectFirst_bind {ρ : Type} (hE : Respects E) (h : Stands call K x) {key : ρ → RowKey}
    {rows : Database → List ρ} {f : Option ρ → Program α}
    (hf : ∀ found y, Stands call K y → Tx.Extends E rowViews.Same x y → E.Inv y.db →
      y.pending = x.pending → (∀ r ∈ found, r ∈ rows (x.pending y.db)) →
      (∀ r ∈ found, (key r, .update) ∈ y.locks) → (f found).Safe E (guarantee call) Q X y) :
    ((Tx.selectFirstForUpdate key rows).bind f).Safe E (guarantee call) Q X x := by
  rw [Tx.selectFirstForUpdate, Tx.bind_assoc]
  refine h.selectAll_bind hE fun found y hy hxy hinv hpending hsub hkeys => ?_
  refine hf found.head? y hy hxy hinv hpending (fun r hr => ?_) fun r hr => ?_
  · exact hsub.subset (List.mem_of_mem_head? hr)
  · exact hkeys r (List.mem_of_mem_head? hr)

/-- A row-locking read by a key. -/
theorem selectForUpdate_bind {ρ : Type} (hE : Respects E) (h : Stands call K x) {key : ρ → RowKey}
    {find : Database → Option ρ} {l : RowKey} (hkey : ∀ db row, find db = some row → key row = l)
    {f : Option ρ → Program α}
    (hf : ∀ found y, Stands call K y → Tx.Extends E rowViews.Same x y → E.Inv y.db →
      y.pending = x.pending →
      (∀ row, found = some row → find (x.pending y.db) = some row ∧ (l, .update) ∈ y.locks) →
      (f found).Safe E (guarantee call) Q X y) :
    ((Tx.selectForUpdate key find).bind f).Safe E (guarantee call) Q X x := by
  refine Tx.Safe.selectForUpdate_bind hkey (fun s hs hr => ?_) fun s hs hr => ?_
  · have hy : Tx.Extends E rowViews.Same x { x with db := s } :=
      ⟨rfl, subset_rfl, fun s => Same.refl _, hr⟩
    exact hf none _ (h.extends_ hE hy) hy hs rfl nofun
  · have hy : Tx.Extends E rowViews.Same x
        { x with locks := insert (l, .update) x.locks, db := s } :=
      ⟨rfl, Set.subset_insert _ _, fun s => Same.refl _, hr⟩
    exact hf _ _ (h.extends_ hE hy) hy hs rfl fun row hrow => ⟨hrow, Set.mem_insert _ _⟩

/-- An `INSERT`. -/
theorem insertRow_bind (hE : Respects E) (h : Stands call K x) (hX : ∀ e y, X e y)
    {keys : List RowKey} {absent admits : Database → Bool} {insert : Database → Database}
    (hδ : rowViews.Acts K' insert) (hallowed : Allowed call K') (hkeys : ∀ k ∈ K', k ∈ keys)
    (hstep : ∀ k ∈ K', ∀ v db, absent db = true → RowsStep call v (rowsAt k db) →
      RowsStep call v (rowsAt k (insert db))) {f : Unit → Program α}
    (hf : ∀ y, Stands call (K ∪ K') y → Tx.Extends E (rowViews.Outside K') x y →
      y.pending = insert ∘ x.pending → E.Inv y.db → (∀ k ∈ keys, (k, .update) ∈ y.locks) →
      absent (x.pending y.db) = true → admits (x.pending y.db) = true →
      (f ()).Safe E (guarantee call) Q X y) :
    ((insertRow keys absent admits insert).bind f).Safe E (guarantee call) Q X x := by
  rw [insertRow, Tx.bind_assoc]
  refine Tx.Safe.lockAll_bind fun H s hH hlocked hr => ?_
  have hz : Tx.Extends E rowViews.Same x { x with locks := H, db := s } :=
    ⟨rfl, hH, fun s => Same.refl _, hr⟩
  refine (h.extends_ hE hz).toTracks.writeIf_bind hE.views (fun _ => RowsStep.refl call) hδ
    (fun k hk => hlocked k (hkeys k hk)) (fun y _ => hX _ y) (fun t _ _ ha k hk hold => ?_)
    fun y hinv hy hzy hpending ha => ?_
  · exact hstep k hk _ _ (Bool.and_eq_true_iff.1 ha).1 hold
  · obtain ⟨habsent, hadmits⟩ := Bool.and_eq_true_iff.1 ha
    exact hf y ⟨hy, hzy.commits.trans h.fresh, h.allowed.union hallowed⟩
      ((hz.mono fun _ _ => Outside.of_same).trans Outside.trans hzy) hpending hinv
      (fun k hk => hzy.locks (hlocked k hk)) habsent hadmits

/-- An `UPDATE` or `DELETE` of one object. -/
theorem updateRow_bind (hE : Respects E) (h : Stands call K x) (hX : ∀ e y, X e y)
    {admits : Database → Bool} {change : Database → Database} (hδ : rowViews.Acts K' change)
    (hallowed : Allowed call K') (hlocked : ∀ k ∈ K', (k, .update) ∈ x.locks)
    (hstep : ∀ s, E.Inv s → E.Rely x.locks x.db s → ∀ k ∈ K',
      RowsStep call (rowsAt k s) (rowsAt k (x.pending s)) →
        RowsStep call (rowsAt k s) (rowsAt k (change (x.pending s)))) {f : Unit → Program α}
    (hf : ∀ y, Stands call (K ∪ K') y → Tx.Extends E (rowViews.Outside K') x y →
      y.pending = change ∘ x.pending → E.Inv y.db → (f ()).Safe E (guarantee call) Q X y) :
    ((updateRow admits change).bind f).Safe E (guarantee call) Q X x :=
  h.toTracks.writeIf_bind hE.views (fun _ => RowsStep.refl call) hδ hlocked (fun y _ => hX _ y)
    (fun s hs hr _ => hstep s hs hr) fun y hinv hy hxy hpending _ =>
      hf y ⟨hy, hxy.commits.trans h.fresh, h.allowed.union hallowed⟩ hxy hpending hinv

/-- Any other writing statement. -/
theorem write_bind (hE : Respects E) (h : Stands call K x) {N : Set RowKey}
    {δ : Database → Database → Database} (hδ : ∀ v, rowViews.Acts N (δ v))
    (hallowed : Allowed call N) (hlocked : ∀ k ∈ N, (k, .update) ∈ x.locks)
    (hstep : ∀ s, E.Inv s → E.Rely x.locks x.db s → ∀ k ∈ N,
      RowsStep call (rowsAt k s) (rowsAt k (x.pending s)) →
        RowsStep call (rowsAt k s) (rowsAt k (δ (x.pending s) (x.pending s))))
    {f : Unit → Program α}
    (hf : ∀ y, Stands call (K ∪ N) y → Tx.Extends E (rowViews.Outside N) x y →
      y.pending = δ (x.pending y.db) ∘ x.pending → E.Inv y.db →
      (f ()).Safe E (guarantee call) Q X y) :
    ((Tx.write δ).bind f).Safe E (guarantee call) Q X x :=
  h.toTracks.write_bind hE.views (fun _ => RowsStep.refl call) hδ hlocked hstep
    fun y hinv hy hxy hpending =>
      hf y ⟨hy, hxy.commits.trans h.fresh, h.allowed.union hallowed⟩ hxy hpending hinv

/-- What a call that governs nothing does about members and accesses. -/
theorem governs (h : Stands call K x) (hquiet : call.governs = false) (s : Database) :
    Governs x.locks s (x.pending s) := by
  refine .of_unchanged fun k hk => h.toTracks.unchanged (fun hmem => ?_) s
  rcases h.allowed with hgoverns | hallowed
  · rw [hquiet] at hgoverns
    cases hgoverns
  · rw [hallowed k hmem] at hk
    cases hk

/-- What is known of a commit of any call. -/
theorem commits (hE : Respects E) (h : Stands call K x) {s : Database}
    (hr : E.Rely x.locks x.db s) (hgoverns : Governs x.locks s (x.pending s))
    (hexchange : call.exchange.isSome = true →
      (∃ i c, Accepted call i c s (x.pending s)) ∨ Declined s (x.pending s))
    (hrequest : call.requestsExit = true → Requested call s (x.pending s))
    (hexit : ∀ workspaceId, call.completes = some workspaceId →
      Emptied workspaceId s (x.pending s)) :
    guarantee call x.commits x.locks s (x.pending s) := by
  obtain ⟨hsteps, hlocked⟩ := h.toTracks.commits hE.views (fun _ => RowsStep.refl call) hr
  exact ⟨h.fresh, hsteps, hlocked, hgoverns, hexchange, hrequest, hexit⟩

/-- The commit of a call that is neither an exchange nor about an exit. -/
theorem commitNow_bind (hE : Respects E) (h : Stands call K x) (hplain : call.exchange = none)
    (hrequest : call.requestsExit = false) (hstays : call.completes = none)
    (hgoverns : ∀ s, E.Inv s → E.Rely x.locks x.db s → Governs x.locks s (x.pending s))
    {f : Unit → Program α} (hf : ∀ y, (f ()).Safe E (guarantee call) Q X y) :
    (Tx.commitNow.bind f).Safe E (guarantee call) Q X x := by
  refine Tx.Safe.commitNow_bind fun s hs hr => ⟨h.commits hE hr (hgoverns s hs hr)
    (fun hsome => ?_) (fun hsome => ?_) fun workspaceId hsome => ?_, hf _⟩
  · rw [hplain] at hsome
    cases hsome
  · rw [hrequest] at hsome
    cases hsome
  · rw [hstays] at hsome
    cases hsome

end Stands

end Workspaces

end Rulefolio
