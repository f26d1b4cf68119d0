import Mathlib.Data.List.Basic
import Mathlib.Logic.Relation

/-!
# Transactions as programs

A `Tx` is the code of one call against a database: a tree of statements, locks and commits, with
the values read so far in the continuations. `σ` is the state of the database, `L` what a row lock
can be taken on, `ε` the exceptions of the call.

* A statement (`Tx.stmt`) sees one state, and may add to the changes the call will commit. A query
  adds none.
* `Tx.lock` waits for a row lock.
* `Tx.commit` publishes the changes. A call that ends without committing publishes nothing.

What a program means is said twice: alone on the database (`Tx.exec`), and interleaved with others
(in `ReadCommitted`). Everything else is built from the constructors, in particular the row-locking
read: it looks for the row, waits for the lock, and looks again.

## Main definitions

* `RowLock` — the row locks of PostgreSQL and which of them exclude each other.
* `Tx` — programs, with their monad.
* `Tx.selectForUpdate`, `Tx.selectAllForUpdate`, `Tx.selectFirstForUpdate` — row-locking reads.
* `Tx.exec` — the effect of a program that runs alone.
* `Tx.Within` — every statement of a program that makes no commit changes the state within a
  relation.
* `Tx.Raises` — a property of whatever a program raises.
-/

/-- The row locks of PostgreSQL, the weakest first. -/
inductive RowLock
  | keyShare
  | share
  | noKeyUpdate
  | update
  deriving DecidableEq, Repr

namespace RowLock

/-- Whether two calls cannot hold these locks on one row at the same time. -/
def conflicts : RowLock → RowLock → Bool
  | .update, _ => true
  | _, .update => true
  | .noKeyUpdate, .noKeyUpdate => true
  | .noKeyUpdate, .share => true
  | .share, .noKeyUpdate => true
  | _, _ => false

theorem conflicts_comm (m m' : RowLock) : m.conflicts m' = m'.conflicts m := by
  cases m <;> cases m' <;> rfl

@[simp] theorem update_conflicts (m : RowLock) : RowLock.update.conflicts m = true := by
  cases m <;> rfl

@[simp] theorem conflicts_update (m : RowLock) : m.conflicts .update = true := by
  cases m <;> rfl

end RowLock

/-- The code of a call. -/
inductive Tx (σ L ε α : Type) where
  /-- The call returns. -/
  | pure (a : α)
  /-- The call raises; what it has not committed is lost. -/
  | raise (e : ε)
  /-- Wait for a row lock. -/
  | lock (l : L) (m : RowLock) (k : Tx σ L ε α)
  /-- A statement: on the state `v` it sees, it adds the change `δ v`, and the call goes on with
  `v` known. -/
  | stmt (δ : σ → σ → σ) (k : σ → Tx σ L ε α)
  | commit (k : Tx σ L ε α)

namespace Tx

variable {σ L ε α β ρ : Type}

/-- Run one program after the other. -/
def bind : Tx σ L ε α → (α → Tx σ L ε β) → Tx σ L ε β
  | .pure a, f => f a
  | .raise e, _ => .raise e
  | .lock l m k, f => .lock l m (k.bind f)
  | .stmt δ k, f => .stmt δ fun v => (k v).bind f
  | .commit k, f => .commit (k.bind f)

instance : Monad (Tx σ L ε) where
  pure := Tx.pure
  bind := Tx.bind

@[simp] theorem pure_eq (a : α) : (Pure.pure a : Tx σ L ε α) = .pure a := rfl

@[simp] theorem bind_eq (t : Tx σ L ε α) (f : α → Tx σ L ε β) : t >>= f = t.bind f := rfl

@[simp] theorem pure_bind (a : α) (f : α → Tx σ L ε β) : (Tx.pure a).bind f = f a := rfl

@[simp] theorem raise_bind (e : ε) (f : α → Tx σ L ε β) : (Tx.raise e).bind f = .raise e := rfl

@[simp] theorem lock_bind (l : L) (m : RowLock) (k : Tx σ L ε α) (f : α → Tx σ L ε β) :
    (Tx.lock l m k).bind f = .lock l m (k.bind f) := rfl

@[simp] theorem stmt_bind (δ : σ → σ → σ) (k : σ → Tx σ L ε α) (f : α → Tx σ L ε β) :
    (Tx.stmt δ k).bind f = .stmt δ fun v => (k v).bind f := rfl

@[simp] theorem commit_bind (k : Tx σ L ε α) (f : α → Tx σ L ε β) :
    (Tx.commit k).bind f = .commit (k.bind f) := rfl

theorem bind_assoc {γ : Type} (t : Tx σ L ε α) (f : α → Tx σ L ε β) (g : β → Tx σ L ε γ) :
    (t.bind f).bind g = t.bind fun a => (f a).bind g := by
  induction t with
  | pure a => rfl
  | raise e => rfl
  | lock l m k ih => exact congrArg (Tx.lock l m) ih
  | stmt δ k ih => exact congrArg (Tx.stmt δ) (funext ih)
  | commit k ih => exact congrArg Tx.commit ih

theorem bind_pure (t : Tx σ L ε α) : t.bind Tx.pure = t := by
  induction t with
  | pure a => rfl
  | raise e => rfl
  | lock l m k ih => exact congrArg (Tx.lock l m) ih
  | stmt δ k ih => exact congrArg (Tx.stmt δ) (funext ih)
  | commit k ih => exact congrArg Tx.commit ih

theorem bind_congr {t : Tx σ L ε α} {f g : α → Tx σ L ε β} (h : ∀ a, f a = g a) :
    t.bind f = t.bind g :=
  congrArg t.bind (funext h)

/-! ## Statements -/

/-- A `SELECT`. -/
def read (f : σ → α) : Tx σ L ε α :=
  .stmt (fun _ => id) fun v => .pure (f v)

/-- A writing statement. The change may depend on the state the statement sees. -/
def write (δ : σ → σ → σ) : Tx σ L ε Unit :=
  .stmt δ fun _ => .pure ()

/-- A writing statement that raises when the state it sees does not admit it. -/
def writeIf (admits : σ → Bool) (e : ε) (δ : σ → σ → σ) : Tx σ L ε Unit :=
  .stmt (fun v s => if admits v then δ v s else s) fun v =>
    if admits v then .pure () else .raise e

/-- Take the locks one after the other. -/
def lockAll (m : RowLock) : List L → Tx σ L ε Unit
  | [] => .pure ()
  | l :: ls => .lock l m (lockAll m ls)

/-- Raise unless the condition holds. -/
def ensure (b : Bool) (e : ε) : Tx σ L ε Unit :=
  if b then .pure () else .raise e

/-- The value, or an exception. -/
def require (a : Option α) (e : ε) : Tx σ L ε α :=
  match a with
  | some a => .pure a
  | none => .raise e

/-- A query that may raise. -/
def check (f : σ → Except ε α) : Tx σ L ε α :=
  (read f).bind fun
    | .ok a => .pure a
    | .error e => .raise e

/-- `COMMIT`. -/
def commitNow : Tx σ L ε Unit :=
  .commit (.pure ())

/-- `SELECT … FOR UPDATE` of at most one row. No row, no lock; a row that is gone once the lock
is there is not returned. -/
def selectForUpdate (key : ρ → L) (find : σ → Option ρ) : Tx σ L ε (Option ρ) :=
  (read find).bind fun
    | none => .pure none
    | some row => .lock (key row) .update (read find)

/-- `SELECT … FOR UPDATE` of any number of rows. Rows that match only after the statement has
begun are neither locked nor returned. -/
def selectAllForUpdate [DecidableEq L] (key : ρ → L) (rows : σ → List ρ) :
    Tx σ L ε (List ρ) :=
  (read rows).bind fun found =>
    (lockAll .update (found.map key)).bind fun _ =>
      read fun v => (rows v).filter fun row => key row ∈ found.map key

/-- The first row of a `SELECT … FOR UPDATE`. -/
def selectFirstForUpdate [DecidableEq L] (key : ρ → L) (rows : σ → List ρ) :
    Tx σ L ε (Option ρ) :=
  (selectAllForUpdate key rows).bind fun found => .pure found.head?

/-- Rename the exceptions, as `except … raise … from` does. -/
def mapError (f : ε → ε) : Tx σ L ε α → Tx σ L ε α
  | .pure a => .pure a
  | .raise e => .raise (f e)
  | .lock l m k => .lock l m (k.mapError f)
  | .stmt δ k => .stmt δ fun v => (k v).mapError f
  | .commit k => .commit (k.mapError f)

theorem mapError_bind_pure (f : ε → ε) (t : Tx σ L ε α) (g : α → β) :
    ((t.mapError f).bind fun a => .pure (g a)) = (t.bind fun a => .pure (g a)).mapError f := by
  induction t with
  | pure a => rfl
  | raise e => rfl
  | lock l m k ih => exact congrArg (Tx.lock l m) ih
  | stmt δ k ih => exact congrArg (Tx.stmt δ) (funext ih)
  | commit k ih => exact congrArg Tx.commit ih

/-- Run a program for every element, in order. -/
def forEach : List ρ → (ρ → Tx σ L ε Unit) → Tx σ L ε Unit
  | [], _ => .pure ()
  | r :: rs, f => (f r).bind fun _ => forEach rs f

/-! ## Running alone -/

/-- The outcome of a program that runs alone: the state it leaves, and its value or exception.
`p` are its uncommitted changes. -/
def execFrom : Tx σ L ε α → (σ → σ) → σ → σ × Except ε α
  | .pure a, _, s => (s, .ok a)
  | .raise e, _, s => (s, .error e)
  | .lock _ _ k, p, s => k.execFrom p s
  | .stmt δ k, p, s => (k (p s)).execFrom (δ (p s) ∘ p) s
  | .commit k, p, s => k.execFrom id (p s)

/-- Run a program alone. -/
def exec (t : Tx σ L ε α) (s : σ) : σ × Except ε α :=
  t.execFrom id s

/-! ## Changes within a relation -/

/-- Every statement changes the state within `F`, nothing is committed, and what is returned
satisfies `P`. -/
def Within (F : σ → σ → Prop) (P : α → Prop) : Tx σ L ε α → Prop
  | .pure a => P a
  | .raise _ => True
  | .lock _ _ k => k.Within F P
  | .stmt δ k => (∀ v s, F s (δ v s)) ∧ ∀ v, (k v).Within F P
  | .commit _ => False

namespace Within

variable {F : σ → σ → Prop} {P : α → Prop}

theorem pure {a : α} (h : P a) : (Tx.pure a : Tx σ L ε α).Within F P := h

@[simp] theorem raise (e : ε) : (Tx.raise e : Tx σ L ε α).Within F P := trivial

theorem bind {R : β → Prop} {t : Tx σ L ε β} {f : β → Tx σ L ε α} (ht : t.Within F R)
    (hf : ∀ b, R b → (f b).Within F P) : (t.bind f).Within F P := by
  induction t with
  | pure b => exact hf b ht
  | raise e => trivial
  | lock l m k ih => exact ih ht
  | stmt δ k ih => exact ⟨ht.1, fun v => ih v (ht.2 v)⟩
  | commit k ih => exact ht.elim

theorem mono {G : σ → σ → Prop} {P' : α → Prop} (hF : ∀ s s', F s s' → G s s')
    (hP : ∀ a, P a → P' a) {t : Tx σ L ε α} (ht : t.Within F P) : t.Within G P' := by
  induction t with
  | pure a => exact hP a ht
  | raise e => trivial
  | lock l m k ih => exact ih ht
  | stmt δ k ih => exact ⟨fun v s => hF _ _ (ht.1 v s), fun v => ih v (ht.2 v)⟩
  | commit k ih => exact ht.elim

/-- Sequencing when the value does not matter. -/
theorem andThen {R : β → Prop} {t : Tx σ L ε β} {f : β → Tx σ L ε α} (ht : t.Within F R)
    (hf : ∀ b, (f b).Within F P) : (t.bind f).Within F P :=
  bind ht fun b _ => hf b

theorem read (hF : ∀ s, F s s) (f : σ → α) (hP : ∀ v, P (f v)) :
    (Tx.read f : Tx σ L ε α).Within F P :=
  ⟨fun _ s => hF s, hP⟩

theorem read_bind (hF : ∀ s, F s s) {g : σ → β} {f : β → Tx σ L ε α}
    (hf : ∀ v, (f (g v)).Within F P) : ((Tx.read g).bind f).Within F P :=
  ⟨fun _ s => hF s, hf⟩

theorem write {δ : σ → σ → σ} (h : ∀ v s, F s (δ v s)) :
    (Tx.write δ : Tx σ L ε Unit).Within F fun _ => True :=
  ⟨h, fun _ => trivial⟩

theorem writeIf (hF : ∀ s, F s s) {δ : σ → σ → σ} (h : ∀ v s, F s (δ v s)) (admits : σ → Bool)
    (e : ε) : (Tx.writeIf admits e δ : Tx σ L ε Unit).Within F fun _ => True := by
  refine ⟨fun v s => ?_, fun v => ?_⟩
  · by_cases hv : admits v
    · simpa [hv] using h v s
    · simpa [hv] using hF s
  · by_cases hv : admits v
    · simpa [hv] using pure trivial
    · simp [hv]

theorem lockAll (m : RowLock) (ls : List L) :
    (Tx.lockAll m ls : Tx σ L ε Unit).Within F fun _ => True := by
  induction ls with
  | nil => trivial
  | cons l ls ih => exact ih

theorem ensure (b : Bool) (e : ε) : (Tx.ensure b e : Tx σ L ε Unit).Within F fun _ => b = true := by
  cases b with
  | true => exact rfl
  | false => trivial

theorem require (a : Option α) (e : ε) :
    (Tx.require a e : Tx σ L ε α).Within F fun b => a = some b := by
  cases a with
  | none => trivial
  | some b => exact rfl

/-- Where it does not matter what was checked. -/
theorem ensure' (b : Bool) (e : ε) : (Tx.ensure b e : Tx σ L ε Unit).Within F fun _ => True :=
  (ensure b e).mono (fun _ _ h => h) fun _ _ => trivial

theorem require' (a : Option α) (e : ε) : (Tx.require a e : Tx σ L ε α).Within F fun _ => True :=
  (require a e).mono (fun _ _ h => h) fun _ _ => trivial

theorem check (hF : ∀ s, F s s) (f : σ → Except ε α) (hP : ∀ v a, f v = .ok a → P a) :
    (Tx.check f : Tx σ L ε α).Within F P := by
  refine read_bind hF fun v => ?_
  cases h : f v with
  | ok a => exact hP v a h
  | error e => trivial

theorem selectForUpdate (hF : ∀ s, F s s) (key : ρ → L) (find : σ → Option ρ)
    {P : Option ρ → Prop} (hnone : P none) (hP : ∀ v, P (find v)) :
    (Tx.selectForUpdate key find : Tx σ L ε (Option ρ)).Within F P := by
  refine read_bind hF fun v => ?_
  cases find v with
  | none => exact hnone
  | some row => exact read hF find hP

theorem selectAllForUpdate [DecidableEq L] (hF : ∀ s, F s s) (key : ρ → L) (rows : σ → List ρ) :
    (Tx.selectAllForUpdate key rows : Tx σ L ε (List ρ)).Within F fun _ => True :=
  read_bind hF fun _ => andThen (lockAll .update _) fun _ => read hF _ fun _ => trivial

theorem mapError {f : ε → ε} {t : Tx σ L ε α} (ht : t.Within F P) : (t.mapError f).Within F P := by
  induction t with
  | pure a => exact ht
  | raise e => trivial
  | lock l m k ih => exact ih ht
  | stmt δ k ih => exact ⟨ht.1, fun v => ih v (ht.2 v)⟩
  | commit k ih => exact ht.elim

theorem forEach {f : ρ → Tx σ L ε Unit} (hf : ∀ r, (f r).Within F fun _ => True) (rs : List ρ) :
    (Tx.forEach rs f).Within F fun _ => True := by
  induction rs with
  | nil => trivial
  | cons r rs ih => exact andThen (hf r) fun _ => ih

end Within

/-! ## What is raised -/

/-- Whatever the program raises satisfies `X`. -/
def Raises (X : ε → Prop) : Tx σ L ε α → Prop
  | .pure _ => True
  | .raise e => X e
  | .lock _ _ k => k.Raises X
  | .stmt _ k => ∀ v, (k v).Raises X
  | .commit k => k.Raises X

namespace Raises

variable {X : ε → Prop}

theorem mono {X' : ε → Prop} (hX : ∀ e, X e → X' e) {t : Tx σ L ε α} (ht : t.Raises X) :
    t.Raises X' := by
  induction t with
  | pure a => trivial
  | raise e => exact hX e ht
  | lock l m k ih => exact ih ht
  | stmt δ k ih => exact fun v => ih v (ht v)
  | commit k ih => exact ih ht

theorem bind {t : Tx σ L ε β} {f : β → Tx σ L ε α} (ht : t.Raises X)
    (hf : ∀ b, (f b).Raises X) : (t.bind f).Raises X := by
  induction t with
  | pure b => exact hf b
  | raise e => exact ht
  | lock l m k ih => exact ih ht
  | stmt δ k ih => exact fun v => ih v (ht v)
  | commit k ih => exact ih ht

theorem read (f : σ → α) : (Tx.read f : Tx σ L ε α).Raises X :=
  fun _ => trivial

theorem ensure (b : Bool) {e : ε} (h : X e) : (Tx.ensure b e : Tx σ L ε Unit).Raises X := by
  cases b with
  | true => exact trivial
  | false => exact h

theorem require (a : Option α) {e : ε} (h : X e) : (Tx.require a e : Tx σ L ε α).Raises X := by
  cases a with
  | none => exact h
  | some a => exact trivial

theorem mapError {f : ε → ε} {t : Tx σ L ε α} (ht : t.Raises fun e => X (f e)) :
    (t.mapError f).Raises X := by
  induction t with
  | pure a => trivial
  | raise e => exact ht
  | lock l m k ih => exact ih ht
  | stmt δ k ih => exact fun v => ih v (ht v)
  | commit k ih => exact ih ht

end Raises

end Tx
