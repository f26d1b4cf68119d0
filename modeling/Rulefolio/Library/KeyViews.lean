import Mathlib.Data.List.Count
import Mathlib.Data.List.Nodup
import Rulefolio.Library.SingleView

/-!
# Keys that are taken under their lock

A statement that writes a row by its key finds at most one row, because a key is taken only by
whoever holds its lock and has seen that it is free. The rows under a key are a view of the state,
of which only their number matters.

## Main definitions

* `LockedViews.ofKeys`, `KeepsUnique`.

## Main results

* `Clean.insertKey_bind` — the rule for the statement that takes a key.
-/

variable {σ L ε α κ : Type} [DecidableEq κ]

namespace LockedViews

open ReadCommitted

/-- How many rows there are under a key, guarded by the lock of the key. -/
def ofKeys (keys : σ → List κ) (lock : κ → L) : LockedViews σ L κ ℕ where
  view k s := (keys s).count k
  lock := lock

/-- Where there was at most one row there still is. -/
def KeepsUnique (m n : ℕ) : Prop := m ≤ 1 → n ≤ 1

theorem KeepsUnique.refl (n : ℕ) : KeepsUnique n n := id

variable {keys : σ → List κ} {lock : κ → L}

theorem same_of_keys {s s' : σ} (h : keys s' = keys s) : (ofKeys keys lock).Same s s' := by
  intro k
  show (keys s').count k = (keys s).count k
  rw [h]

theorem nodup_of_keys {s : σ} (h : ∀ k, (ofKeys keys lock).view k s ≤ 1) : (keys s).Nodup :=
  List.nodup_iff_count_le_one.2 h

theorem Commits.nodup_keys {H : Set (L × RowLock)} {s s' : σ}
    (h : (ofKeys keys lock).Commits KeepsUnique H s s') (hs : (keys s).Nodup) : (keys s').Nodup :=
  nodup_of_keys fun k => h.step k (List.nodup_iff_count_le_one.1 hs k)

variable {E : Environment σ L} {G : Tx.Guarantee σ L} {Q : α → Point σ L → Prop}
  {X : ε → Point σ L → Prop} {x : Point σ L} {k : κ}

/-- **A key is taken under its lock**, by a statement that has seen that it is free. -/
theorem Clean.insertKey_bind (hV : (ofKeys keys lock).Respected E)
    (h : (ofKeys keys lock).Clean E x) {ls : List L} (hls : lock k ∈ ls) {admits : σ → Bool} {e : ε}
    {δ : σ → σ} (hfree : ∀ s, admits s = true → k ∉ keys s) (hδ : ∀ s, keys (δ s) = k :: keys s)
    (hX : ∀ e y, X e y) {f : Unit → Tx σ L ε α}
    (hf : ∀ y, (ofKeys keys lock).Holds E k 0 1 y → (f ()).Safe E G Q X y) :
    (((Tx.lockAll .update ls).bind fun _ => Tx.writeIf admits e fun _ => δ).bind f).Safe E G Q X
      x := by
  rw [Tx.bind_assoc]
  refine Tx.Safe.lockAll_bind fun H s hH hkeys hr => ?_
  have hheld := (h.later hH hr).holds hV (hkeys _ hls)
  refine Tx.Safe.writeIf_bind (fun _ _ _ => hX e _) fun t ht hrt ha => hf _ ?_
  have hzero : (keys (x.pending t)).count k = 0 := List.count_eq_zero.2 (hfree _ ha)
  have hsees := (hheld.sees t ht hrt).symm.trans hzero
  rw [hsees] at hheld
  refine hheld.write hV (fun u _ _ hu => ?_) (fun u _ _ j hj => ?_) hrt
  · show (keys (δ (x.pending u))).count k = 1
    rw [hδ, List.count_cons_self]
    exact congrArg (· + 1) hu
  · show (keys (δ (x.pending u))).count j = (keys (x.pending u)).count j
    rw [hδ, List.count_cons_of_ne (Ne.symm hj)]

end LockedViews
