import Rulefolio.Library.Transaction

/-!
# When a program that runs alone returns

`Tx.Returns` is the weakest precondition of a program that runs alone: it returns, and what it
returns, what it has committed and what it sees at the end satisfy the postcondition. Unlike
`Tx.Leads` it rules exceptions out, so it says of a call that it is accepted, and its rules are
equivalences: a precondition that is computed from the program says exactly when that is so.

## Main definitions

* `Tx.Returns`.

## Main results

* `Tx.returns_bind` — the rule for sequencing.
* `Tx.exec_of_returns`, `Tx.returns_of_exec` — what it says about `Tx.exec`.
-/

variable {σ L ε α β ρ : Type}

namespace Tx

/-- With `s` committed and `w` in view, the program returns, and the value, the committed state and
the state in view satisfy `Q`. -/
def Returns (Q : α → σ → σ → Prop) : Tx σ L ε α → σ → σ → Prop
  | .pure a, s, w => Q a s w
  | .raise _, _, _ => False
  | .lock _ _ k, s, w => k.Returns Q s w
  | .stmt δ k, s, w => (k w).Returns Q s (δ w w)
  | .commit k, _, w => k.Returns Q w w

variable {Q : α → σ → σ → Prop} {s w : σ}

/-! ## The rules -/

@[simp] theorem returns_pure (a : α) : (Tx.pure a : Tx σ L ε α).Returns Q s w ↔ Q a s w :=
  Iff.rfl

@[simp] theorem returns_raise (e : ε) : (Tx.raise e : Tx σ L ε α).Returns Q s w ↔ False :=
  Iff.rfl

/-- The rule for sequencing. -/
theorem returns_bind (t : Tx σ L ε β) (f : β → Tx σ L ε α) :
    (t.bind f).Returns Q s w ↔ t.Returns (fun b s' w' => (f b).Returns Q s' w') s w := by
  induction t generalizing s w with
  | pure b => exact Iff.rfl
  | raise e => exact Iff.rfl
  | lock l m k ih => exact ih
  | stmt δ k ih => exact ih w
  | commit k ih => exact ih

theorem Returns.mono {Q' : α → σ → σ → Prop} {t : Tx σ L ε α} (h : t.Returns Q s w)
    (hQ : ∀ a s' w', Q a s' w' → Q' a s' w') : t.Returns Q' s w := by
  induction t generalizing s w with
  | pure a => exact hQ a s w h
  | raise e => exact h
  | lock l m k ih => exact ih h
  | stmt δ k ih => exact ih w h
  | commit k ih => exact ih h

/-- A program that returns gets somewhere. -/
theorem Returns.exists_result {t : Tx σ L ε α} (h : t.Returns Q s w) : ∃ a s' w', Q a s' w' := by
  induction t generalizing s w with
  | pure a => exact ⟨a, s, w, h⟩
  | raise e => exact h.elim
  | lock l m k ih => exact ih h
  | stmt δ k ih => exact ih w h
  | commit k ih => exact ih h

@[simp] theorem returns_read (g : σ → α) :
    (Tx.read g : Tx σ L ε α).Returns Q s w ↔ Q (g w) s w :=
  Iff.rfl

@[simp] theorem returns_write {Q : Unit → σ → σ → Prop} (δ : σ → σ → σ) :
    (Tx.write δ : Tx σ L ε Unit).Returns Q s w ↔ Q () s (δ w w) :=
  Iff.rfl

@[simp] theorem returns_writeIf {Q : Unit → σ → σ → Prop} (admits : σ → Bool) (e : ε)
    (δ : σ → σ → σ) :
    (Tx.writeIf admits e δ : Tx σ L ε Unit).Returns Q s w ↔
      admits w = true ∧ Q () s (δ w w) := by
  by_cases ha : admits w = true <;> simp [Tx.writeIf, Returns, ha]

@[simp] theorem returns_lockAll {Q : Unit → σ → σ → Prop} (m : RowLock) (ls : List L) :
    (Tx.lockAll m ls : Tx σ L ε Unit).Returns Q s w ↔ Q () s w := by
  induction ls with
  | nil => exact Iff.rfl
  | cons l ls ih => exact ih

@[simp] theorem returns_ensure {Q : Unit → σ → σ → Prop} (b : Bool) (e : ε) :
    (Tx.ensure b e : Tx σ L ε Unit).Returns Q s w ↔ b = true ∧ Q () s w := by
  cases b <;> simp [Tx.ensure]

@[simp] theorem returns_require (o : Option α) (e : ε) :
    (Tx.require o e : Tx σ L ε α).Returns Q s w ↔ ∃ a, o = some a ∧ Q a s w := by
  cases o <;> simp [Tx.require]

theorem returns_check (f : σ → Except ε α) :
    (Tx.check f : Tx σ L ε α).Returns Q s w ↔ ∃ a, f w = .ok a ∧ Q a s w := by
  rw [Tx.check, Tx.returns_bind, Tx.returns_read]
  cases f w <;> simp

@[simp] theorem returns_commitNow {Q : Unit → σ → σ → Prop} :
    (Tx.commitNow : Tx σ L ε Unit).Returns Q s w ↔ Q () w w :=
  Iff.rfl

/-- Alone, a row-locking read finds the same the second time. -/
@[simp] theorem returns_selectForUpdate {Q : Option ρ → σ → σ → Prop} (key : ρ → L)
    (find : σ → Option ρ) :
    (Tx.selectForUpdate key find : Tx σ L ε (Option ρ)).Returns Q s w ↔ Q (find w) s w := by
  rw [Tx.selectForUpdate, returns_bind, returns_read]
  cases hfind : find w with
  | none => exact Iff.rfl
  | some row =>
    show Q (find w) s w ↔ _
    rw [hfind]

@[simp] theorem returns_mapError (f : ε → ε) (t : Tx σ L ε α) :
    (t.mapError f).Returns Q s w ↔ t.Returns Q s w := by
  induction t generalizing s w with
  | pure a => exact Iff.rfl
  | raise e => exact Iff.rfl
  | lock l m k ih => exact ih
  | stmt δ k ih => exact ih w
  | commit k ih => exact ih

/-- A part that only reads leaves both states as they are. -/
theorem Within.returns_iff {P : α → Prop} {t : Tx σ L ε α} (ht : t.Within Eq P) :
    t.Returns Q s w ↔ ∃ a, P a ∧ t.Returns (fun a' _ _ => a' = a) s w ∧ Q a s w := by
  induction t with
  | pure a => exact ⟨fun h => ⟨a, ht, rfl, h⟩, fun ⟨_, _, ha, h⟩ => ha ▸ h⟩
  | raise e => exact ⟨False.elim, fun ⟨_, _, h, _⟩ => h⟩
  | lock l m k ih => exact ih ht
  | stmt δ k ih =>
    have hsame : δ w w = w := (ht.1 w w).symm
    simpa only [Returns, hsame] using ih w (ht.2 w)
  | commit k ih => exact ht.elim

/-- The same, where the postcondition does not depend on what it returns. -/
theorem Within.returns_iff_and {P : α → Prop} {R : Prop} {t : Tx σ L ε α} (ht : t.Within Eq P)
    (hQ : ∀ a, P a → (Q a s w ↔ R)) :
    t.Returns Q s w ↔ t.Returns (fun _ _ _ => True) s w ∧ R := by
  rw [ht.returns_iff, ht.returns_iff (Q := fun _ _ _ => True)]
  constructor
  · rintro ⟨a, ha, hreturns, h⟩
    exact ⟨⟨a, ha, hreturns, trivial⟩, (hQ a ha).1 h⟩
  · rintro ⟨⟨a, ha, hreturns, -⟩, h⟩
    exact ⟨a, ha, hreturns, (hQ a ha).2 h⟩

/-- What such a part lets the rest do. -/
theorem Within.returns_bind {P : β → Prop} {t : Tx σ L ε β} (ht : t.Within Eq P)
    {f : β → Tx σ L ε α} : (t.bind f).Returns Q s w ↔
      ∃ b, P b ∧ t.Returns (fun b' _ _ => b' = b) s w ∧ (f b).Returns Q s w := by
  rw [Tx.returns_bind, ht.returns_iff]

/-! ## Running the program -/

theorem execFrom_of_returns {t : Tx σ L ε α} {p : σ → σ} (h : t.Returns Q s (p s)) :
    ∃ a w', (t.execFrom p s).2 = .ok a ∧ Q a (t.execFrom p s).1 w' := by
  induction t generalizing p s with
  | pure a => exact ⟨a, p s, rfl, h⟩
  | raise e => exact h.elim
  | lock l m k ih => exact ih h
  | stmt δ k ih => exact ih (p s) (p := δ (p s) ∘ p) h
  | commit k ih => exact ih (p := id) h

/-- A program whose precondition holds returns. -/
theorem exec_of_returns {t : Tx σ L ε α} (h : t.Returns Q s s) :
    ∃ a w', (t.exec s).2 = .ok a ∧ Q a (t.exec s).1 w' :=
  execFrom_of_returns (p := id) h

theorem returns_of_execFrom {t : Tx σ L ε α} {p : σ → σ} {a : α}
    (h : (t.execFrom p s).2 = .ok a) (hQ : ∀ w', Q a (t.execFrom p s).1 w') :
    t.Returns Q s (p s) := by
  induction t generalizing p s with
  | pure b =>
    obtain rfl := Except.ok.inj h
    exact hQ (p s)
  | raise e => nomatch h
  | lock l m k ih => exact ih h hQ
  | stmt δ k ih => exact ih (p s) (p := δ (p s) ∘ p) h hQ
  | commit k ih => exact ih (p := id) h hQ

/-- A program that returns had its precondition. -/
theorem returns_of_exec {t : Tx σ L ε α} {a : α} (h : (t.exec s).2 = .ok a)
    (hQ : ∀ w', Q a (t.exec s).1 w') : t.Returns Q s s :=
  returns_of_execFrom (p := id) h hQ

/-- What a program returns that runs alone. -/
theorem exec_eq_ok_iff {t : Tx σ L ε α} {a : α} :
    (t.exec s).2 = .ok a ↔ t.Returns (fun b _ _ => b = a) s s := by
  constructor
  · intro h
    exact returns_of_exec h fun _ => rfl
  · intro h
    obtain ⟨b, -, hb, rfl⟩ := exec_of_returns h
    exact hb

/-- The same, with the state that is left. -/
theorem exec_eq_iff {t : Tx σ L ε α} {a : α} {s' : σ} :
    t.exec s = (s', .ok a) ↔ t.Returns (fun b r _ => b = a ∧ r = s') s s := by
  constructor
  · intro h
    exact returns_of_exec (congrArg Prod.snd h) fun _ => ⟨rfl, congrArg Prod.fst h⟩
  · intro h
    obtain ⟨b, -, hb, rfl, hs⟩ := exec_of_returns h
    exact Prod.ext hs hb

/-- A part that only reads is over with what it returns. -/
theorem Within.execFrom_bind {P : β → Prop} {t : Tx σ L ε β} (ht : t.Within Eq P) {b : β}
    {p : σ → σ} (h : t.Returns (fun b' _ _ => b' = b) s (p s)) (f : β → Tx σ L ε α) :
    (t.bind f).execFrom p s = (f b).execFrom p s := by
  induction t generalizing p with
  | pure b' =>
    obtain rfl : b' = b := h
    rfl
  | raise e => exact h.elim
  | lock l m k ih => exact ih ht h
  | stmt δ k ih =>
    have hsame : δ (p s) ∘ p = p := funext fun r => (ht.1 (p s) (p r)).symm
    have hread : δ (p s) (p s) = p s := (ht.1 (p s) (p s)).symm
    have hrest : (k (p s)).Returns (fun b' _ _ => b' = b) s (δ (p s) (p s)) := h
    rw [hread] at hrest
    show ((k (p s)).bind f).execFrom (δ (p s) ∘ p) s = _
    rw [hsame]
    exact ih (p s) (ht.2 (p s)) hrest
  | commit k ih => exact ht.elim

theorem Within.exec_bind {P : β → Prop} {t : Tx σ L ε β} (ht : t.Within Eq P) {b : β}
    (h : t.Returns (fun b' _ _ => b' = b) s s) (f : β → Tx σ L ε α) :
    (t.bind f).exec s = (f b).exec s :=
  ht.execFrom_bind (p := id) h f

theorem execFrom_mapError (f : ε → ε) (t : Tx σ L ε α) (p : σ → σ) :
    (t.mapError f).execFrom p s = ((t.execFrom p s).1, (t.execFrom p s).2.mapError f) := by
  induction t generalizing p s with
  | pure a => rfl
  | raise e => rfl
  | lock l m k ih => exact ih p
  | stmt δ k ih => exact ih (p s) (δ (p s) ∘ p)
  | commit k ih => exact ih id

theorem exec_mapError (f : ε → ε) (t : Tx σ L ε α) :
    (t.mapError f).exec s = ((t.exec s).1, (t.exec s).2.mapError f) :=
  execFrom_mapError f t id

/-! ## Running a program statement by statement -/

section Execution

variable {p : σ → σ}

theorem execFrom_read_bind (g : σ → β) (f : β → Tx σ L ε α) :
    ((Tx.read g).bind f).execFrom p s = (f (g (p s))).execFrom p s := rfl

theorem execFrom_write_bind (δ : σ → σ → σ) (f : Unit → Tx σ L ε α) :
    ((Tx.write δ).bind f).execFrom p s = (f ()).execFrom (δ (p s) ∘ p) s := rfl

theorem execFrom_ensure_bind (b : Bool) (e : ε) (f : Unit → Tx σ L ε α) :
    ((Tx.ensure b e).bind f).execFrom p s =
      if b then (f ()).execFrom p s else (s, .error e) := by
  cases b <;> rfl

theorem execFrom_require_bind (o : Option β) (e : ε) (f : β → Tx σ L ε α) :
    ((Tx.require o e).bind f).execFrom p s =
      match o with
      | some b => (f b).execFrom p s
      | none => (s, .error e) := by
  cases o <;> rfl

theorem execFrom_writeIf_bind (admits : σ → Bool) (e : ε) (δ : σ → σ → σ)
    (f : Unit → Tx σ L ε α) :
    ((Tx.writeIf admits e δ).bind f).execFrom p s =
      if admits (p s) then (f ()).execFrom (δ (p s) ∘ p) s else (s, .error e) := by
  by_cases ha : admits (p s) = true
  · rw [if_pos ha]
    simp [Tx.writeIf, Tx.execFrom, ha, Function.comp_def]
  · rw [if_neg ha]
    simp [Tx.writeIf, Tx.execFrom, ha]

theorem execFrom_lockAll_bind (m : RowLock) (ls : List L) (f : Unit → Tx σ L ε α) :
    ((Tx.lockAll m ls).bind f).execFrom p s = (f ()).execFrom p s := by
  induction ls with
  | nil => rfl
  | cons l ls ih => exact ih

/-- Alone, a row-locking read finds the same the second time. -/
theorem execFrom_selectForUpdate_bind (key : ρ → L) (find : σ → Option ρ)
    (f : Option ρ → Tx σ L ε α) :
    ((Tx.selectForUpdate key find).bind f).execFrom p s = (f (find (p s))).execFrom p s := by
  rw [Tx.selectForUpdate, bind_assoc, execFrom_read_bind]
  cases hfind : find (p s) with
  | none => rfl
  | some row =>
    show (f (find (p s))).execFrom p s = _
    rw [hfind]

end Execution

end Tx
