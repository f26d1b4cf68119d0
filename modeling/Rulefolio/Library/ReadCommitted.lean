import Mathlib.Data.Set.Insert
import Mathlib.Logic.Function.Basic
import Rulefolio.Library.Transaction
import Rulefolio.Library.TransitionSystem

/-!
# Calls interleaved under `READ COMMITTED`

Any number of calls run at the same time, each on its own connection. The rules are those of a
database with row locks at isolation level `READ COMMITTED`.

* A statement sees the state committed at the moment it runs, with the call's own uncommitted
  changes on top. Two statements of one call may see different states.
* A lock is granted when no other connection holds a conflicting one, and kept until the call
  commits or ends.
* A commit publishes the call's changes on the state committed at that moment.
* A call can be lost at any point. What it has not committed is lost with it.

Whether a statement that changes a row holds a lock on it is not built in. Where it matters the
programs take the locks themselves, as the database does for them. A program that leaves a lock out
has more interleavings, not fewer.

## Main definitions

* `Config`, `system` — the interleaving semantics.
* `Linked` — a history leads from one state to another.

## Main results

* `Config.WellFormed` — the bookkeeping of locks, calls and history is consistent.
* `wellFormed_of_reachable` — it is in every reachable configuration. In particular the history
  leads from an initial state to the current one, and a call has made exactly `commits` of its
  entries.
-/

namespace ReadCommitted

variable {σ L ε α ω : Type}

/-- A call in progress. -/
structure Session (σ L ε α ω : Type) where
  op : ω
  /-- Tells the calls apart: the how manieth call this is. -/
  serial : ℕ
  code : Tx σ L ε α
  /-- Its uncommitted changes, as a function of the committed state. -/
  pending : σ → σ
  /-- How often it has committed. -/
  commits : ℕ

/-- A commit, with the call that made it and the states around it. -/
structure Commit (σ ω : Type) where
  op : ω
  serial : ℕ
  before : σ
  after : σ

/-- A lock and the connection it is granted to. -/
structure Grant (L : Type) where
  connection : ℕ
  key : L
  mode : RowLock

/-- The committed state and the calls in progress. -/
structure Config (σ L ε α ω : Type) where
  db : σ
  sessions : ℕ → Option (Session σ L ε α ω)
  locks : List (Grant L)
  /-- Every commit so far, the latest first. -/
  history : List (Commit σ ω)
  /-- How many calls have begun. -/
  calls : ℕ

/-- What can happen next. -/
inductive Event (ω : Type) where
  /-- A call begins on a free connection. -/
  | call (i : ℕ) (op : ω)
  /-- A call takes its next step. -/
  | advance (i : ℕ)
  /-- A call is over, or its connection is lost. -/
  | close (i : ℕ)

namespace Config

variable (c : Config σ L ε α ω)

/-- What a connection has locked. -/
def held (i : ℕ) : Set (L × RowLock) :=
  { lm | ⟨i, lm.1, lm.2⟩ ∈ c.locks }

/-- The grants without those of a connection. -/
def release (i : ℕ) : List (Grant L) :=
  c.locks.filter fun g => g.connection != i

/-- Whether a lock can be granted. -/
def available [DecidableEq L] (i : ℕ) (l : L) (m : RowLock) : Bool :=
  c.locks.all fun g => g.connection == i || g.key != l || !m.conflicts g.mode

/-- Replace what a connection does. -/
def set (i : ℕ) (p : Option (Session σ L ε α ω)) : Config σ L ε α ω :=
  { c with sessions := Function.update c.sessions i p }

end Config

variable [DecidableEq L]

/-- The next step of a call. -/
def advance (c : Config σ L ε α ω) (i : ℕ) (p : Session σ L ε α ω) :
    Option (Config σ L ε α ω) :=
  match p.code with
  | .pure _ => none
  | .raise _ => none
  | .lock l m k =>
    if c.available i l m then
      some ({ c with locks := ⟨i, l, m⟩ :: c.locks }.set i (some { p with code := k }))
    else none
  | .stmt δ k =>
    let v := p.pending c.db
    some (c.set i (some { p with code := k v, pending := δ v ∘ p.pending }))
  | .commit k =>
    let db := p.pending c.db
    some ({ c with
        db := db
        locks := c.release i
        history := ⟨p.op, p.serial, c.db, db⟩ :: c.history }.set i
      (some { p with code := k, pending := id, commits := p.commits + 1 }))

/-- The effect of an event. -/
def step (prog : ω → Tx σ L ε α) (c : Config σ L ε α ω) : Event ω → Option (Config σ L ε α ω)
  | .call i op =>
    match c.sessions i with
    | none => some ({ c with calls := c.calls + 1 }.set i (some ⟨op, c.calls, prog op, id, 0⟩))
    | some _ => none
  | .advance i => (c.sessions i).bind (advance c i)
  | .close i => some ({ c with locks := c.release i }.set i none)

/-- Any number of calls, interleaved, over a database that starts in a given state. -/
def system (init : σ → Prop) (prog : ω → Tx σ L ε α) :
    TransitionSystem (Config σ L ε α ω) (Event ω) where
  init c :=
    init c.db ∧ c.sessions = (fun _ => none) ∧ c.locks = [] ∧ c.history = [] ∧ c.calls = 0
  step := step prog

/-- The configuration in which nothing has happened. -/
def Config.start (s : σ) : Config σ L ε α ω :=
  ⟨s, fun _ => none, [], [], 0⟩

theorem init_start {init : σ → Prop} (prog : ω → Tx σ L ε α) {s : σ} (h : init s) :
    (system init prog).init (Config.start s) :=
  ⟨h, rfl, rfl, rfl, rfl⟩

/-- A run of a call: that many steps. -/
def advances (i n : ℕ) : List (Event ω) :=
  List.replicate n (.advance i)

/-- The exception a call has raised. -/
def Config.raised (c : Config σ L ε α ω) (i : ℕ) : Option ε :=
  (c.sessions i).bind fun p =>
    match p.code with
    | .raise e => some e
    | _ => none

omit [DecidableEq L] in
theorem Config.raised_eq_some {c : Config σ L ε α ω} {i : ℕ} {e : ε} :
    c.raised i = some e ↔ ∃ p, c.sessions i = some p ∧ p.code = .raise e := by
  rw [Config.raised, Option.bind_eq_some_iff]
  refine exists_congr fun p => and_congr_right fun _ => ?_
  cases p.code <;> simp

/-- What a call has returned. -/
def Config.returned (c : Config σ L ε α ω) (i : ℕ) : Option α :=
  (c.sessions i).bind fun p =>
    match p.code with
    | .pure a => some a
    | _ => none

omit [DecidableEq L] in
theorem Config.returned_eq_some {c : Config σ L ε α ω} {i : ℕ} {a : α} :
    c.returned i = some a ↔ ∃ p, c.sessions i = some p ∧ p.code = .pure a := by
  rw [Config.returned, Option.bind_eq_some_iff]
  refine exists_congr fun p => and_congr_right fun _ => ?_
  cases p.code <;> simp

/-! ## What a step does -/

/-- The ways a configuration can change, with everything that is known about the step. -/
inductive Takes (prog : ω → Tx σ L ε α) (c : Config σ L ε α ω) : Config σ L ε α ω → Prop where
  | begins (i : ℕ) (op : ω) (hi : c.sessions i = none) :
      Takes prog c ({ c with calls := c.calls + 1 }.set i (some ⟨op, c.calls, prog op, id, 0⟩))
  | locks (i : ℕ) (p : Session σ L ε α ω) (l : L) (m : RowLock) (k : Tx σ L ε α)
      (hi : c.sessions i = some p) (hp : p.code = .lock l m k) (hl : c.available i l m = true) :
      Takes prog c
        ({ c with locks := ⟨i, l, m⟩ :: c.locks }.set i (some { p with code := k }))
  | executes (i : ℕ) (p : Session σ L ε α ω) (δ : σ → σ → σ) (k : σ → Tx σ L ε α)
      (hi : c.sessions i = some p) (hp : p.code = .stmt δ k) :
      Takes prog c (c.set i (some { p with
        code := k (p.pending c.db)
        pending := δ (p.pending c.db) ∘ p.pending }))
  | commits (i : ℕ) (p : Session σ L ε α ω) (k : Tx σ L ε α)
      (hi : c.sessions i = some p) (hp : p.code = .commit k) :
      Takes prog c ({ c with
          db := p.pending c.db
          locks := c.release i
          history := ⟨p.op, p.serial, c.db, p.pending c.db⟩ :: c.history }.set i
        (some { p with code := k, pending := id, commits := p.commits + 1 }))
  | closes (i : ℕ) : Takes prog c ({ c with locks := c.release i }.set i none)

theorem takes_of_step {prog : ω → Tx σ L ε α} {c c' : Config σ L ε α ω} {e : Event ω}
    (h : step prog c e = some c') : Takes prog c c' := by
  cases e with
  | call i op =>
    rw [step] at h
    cases hi : c.sessions i with
    | none =>
      rw [hi] at h
      cases h
      exact .begins i op hi
    | some p =>
      rw [hi] at h
      cases h
  | advance i =>
    obtain ⟨p, hi, h⟩ := Option.bind_eq_some_iff.1 h
    rw [advance] at h
    cases hp : p.code with
    | pure a =>
      rw [hp] at h
      cases h
    | raise e =>
      rw [hp] at h
      cases h
    | lock l m k =>
      simp only [hp] at h
      by_cases hl : c.available i l m = true
      · rw [if_pos hl] at h
        cases h
        exact .locks i p l m k hi hp hl
      · rw [if_neg hl] at h
        cases h
    | stmt δ k =>
      simp only [hp] at h
      cases h
      exact .executes i p δ k hi hp
    | commit k =>
      simp only [hp] at h
      cases h
      exact .commits i p k hi hp
  | close i =>
    cases h
    exact .closes i

/-- A step changes the committed state by a commit only. -/
theorem Takes.db_eq {prog : ω → Tx σ L ε α} {c c' : Config σ L ε α ω} (h : Takes prog c c') :
    c'.db = c.db ∨ ∃ e, c'.history = e :: c.history ∧ e.before = c.db ∧ e.after = c'.db := by
  cases h with
  | commits i p k hi hp => exact .inr ⟨_, rfl, rfl, rfl⟩
  | begins | locks | executes | closes => exact .inl rfl

/-- Calls are only added. -/
theorem Takes.calls_le {prog : ω → Tx σ L ε α} {c c' : Config σ L ε α ω} (h : Takes prog c c') :
    c.calls ≤ c'.calls := by
  cases h with
  | begins i op hi => exact Nat.le_succ _
  | commits | locks | executes | closes => exact le_rfl

/-! ## Locks, calls and history -/

/-- The commits of `history`, the latest first, lead from `s₀` to `s`. -/
def Linked (s₀ : σ) : List (Commit σ ω) → σ → Prop
  | [], s => s = s₀
  | e :: es, s => e.after = s ∧ Linked s₀ es e.before

omit [DecidableEq L] in
/-- A history is cut in two. -/
theorem Linked.append {s₀ s : σ} {es es' : List (Commit σ ω)} (h : Linked s₀ (es ++ es') s) :
    ∃ t, Linked t es s ∧ Linked s₀ es' t := by
  induction es generalizing s with
  | nil => exact ⟨s, rfl, h⟩
  | cons e es ih =>
    obtain ⟨he, h⟩ := h
    obtain ⟨t, hes, hes'⟩ := ih h
    exact ⟨t, ⟨he, hes⟩, hes'⟩

omit [DecidableEq L] in
/-- What lies between two commits leads from the one to the other. -/
theorem Linked.between {s₀ s : σ} {later es earlier : List (Commit σ ω)} {e e' : Commit σ ω}
    (h : Linked s₀ (later ++ e :: es ++ e' :: earlier) s) : Linked e'.after es e.before := by
  obtain ⟨t, hlater, rfl, -⟩ := Linked.append h
  obtain ⟨u, -, -, hes⟩ := Linked.append hlater
  exact hes

omit [DecidableEq L] in
/-- What every commit keeps is kept over the whole history. -/
theorem Linked.kept {P : σ → Prop} {s₀ s : σ} {es : List (Commit σ ω)} (h : Linked s₀ es s)
    (hstep : ∀ e ∈ es, P e.before → P e.after) (hs : P s₀) : P s := by
  induction es generalizing s with
  | nil =>
    obtain rfl : s = s₀ := h
    exact hs
  | cons e es ih =>
    obtain ⟨rfl, hl⟩ := h
    exact hstep e List.mem_cons_self (ih hl fun f hf => hstep f (List.mem_cons_of_mem _ hf))

omit [DecidableEq L] in
/-- What holds at the end and did not at the start came with a commit. -/
theorem Linked.exists_begins {P : σ → Prop} {s₀ s : σ} {es : List (Commit σ ω)}
    (h : Linked s₀ es s) (h₀ : ¬ P s₀) (hs : P s) : ∃ e ∈ es, ¬ P e.before ∧ P e.after := by
  by_contra hnone
  have hkept : ¬ P s := h.kept (P := fun s => ¬ P s)
    (fun e he hbefore hafter => hnone ⟨e, he, hbefore, hafter⟩) h₀
  exact hkept hs

omit [DecidableEq L] in
/-- A reflexive and transitive relation across every commit holds from each to all later ones. -/
theorem Linked.pairwise {R : σ → σ → Prop} (hrefl : ∀ s, R s s)
    (htrans : ∀ s t u, R s t → R t u → R s u) {s₀ s : σ} {es : List (Commit σ ω)}
    (h : Linked s₀ es s) (hstep : ∀ e ∈ es, R e.before e.after) :
    es.Pairwise fun e e' => R e'.after e.before := by
  suffices H : ∀ t, Linked s₀ es t →
      es.Pairwise (fun e e' => R e'.after e.before) ∧ ∀ e' ∈ es, R e'.after t from (H s h).1
  clear h
  induction es with
  | nil => exact fun t _ => ⟨.nil, nofun⟩
  | cons e es ih =>
    rintro _ ⟨rfl, hl⟩
    obtain ⟨hpairs, hlast⟩ := ih (fun e' he' => hstep e' (List.mem_cons_of_mem _ he')) _ hl
    refine ⟨hpairs.cons hlast, fun e' he' => ?_⟩
    rcases List.mem_cons.1 he' with rfl | he'
    · exact hrefl _
    · exact htrans _ _ _ (hlast e' he') (hstep e List.mem_cons_self)

omit [DecidableEq L] in
/-- Such a relation also holds from each commit to the present. -/
theorem Linked.later {R : σ → σ → Prop} (hrefl : ∀ s, R s s)
    (htrans : ∀ s t u, R s t → R t u → R s u) {s₀ s : σ} {es : List (Commit σ ω)}
    (h : Linked s₀ es s) (hstep : ∀ e ∈ es, R e.before e.after) {e : Commit σ ω} (he : e ∈ es) :
    R e.after s := by
  induction es generalizing s with
  | nil => cases he
  | cons f es ih =>
    obtain ⟨rfl, hl⟩ := h
    rcases List.mem_cons.1 he with rfl | he
    · exact hrefl _
    · exact htrans _ _ _ (ih hl (fun e' he' => hstep e' (List.mem_cons_of_mem _ he')) he)
        (hstep f List.mem_cons_self)

/-- Two sets of locks can be held at the same time. -/
def Compatible (H H' : Set (L × RowLock)) : Prop :=
  ∀ l m m', (l, m) ∈ H → (l, m') ∈ H' → m.conflicts m' = false

omit [DecidableEq L] in
theorem Compatible.symm {H H' : Set (L × RowLock)} (h : Compatible H H') : Compatible H' H :=
  fun l m m' hm hm' => by rw [RowLock.conflicts_comm]; exact h l m' m hm' hm

omit [DecidableEq L] in
theorem Compatible.mono {H H' K K' : Set (L × RowLock)} (h : Compatible H H') (hK : K ⊆ H)
    (hK' : K' ⊆ H') : Compatible K K' :=
  fun l m m' hm hm' => h l m m' (hK hm) (hK' hm')

omit [DecidableEq L] in
/-- A row locked `FOR UPDATE` is not locked by anyone else. -/
theorem Compatible.notMem {H H' : Set (L × RowLock)} (h : Compatible H H') {l : L}
    (hl : (l, .update) ∈ H) (m : RowLock) : (l, m) ∉ H' := by
  intro hm
  have := h l _ _ hl hm
  simp at this

namespace Config

variable {c : Config σ L ε α ω}

omit [DecidableEq L] in
@[simp] theorem mem_held {i : ℕ} {l : L} {m : RowLock} :
    (l, m) ∈ c.held i ↔ (⟨i, l, m⟩ : Grant L) ∈ c.locks := Iff.rfl

omit [DecidableEq L] in
@[simp] theorem set_db (i : ℕ) (p : Option (Session σ L ε α ω)) : (c.set i p).db = c.db := rfl

omit [DecidableEq L] in
@[simp] theorem set_locks (i : ℕ) (p : Option (Session σ L ε α ω)) :
    (c.set i p).locks = c.locks := rfl

omit [DecidableEq L] in
@[simp] theorem set_history (i : ℕ) (p : Option (Session σ L ε α ω)) :
    (c.set i p).history = c.history := rfl

omit [DecidableEq L] in
@[simp] theorem set_calls (i : ℕ) (p : Option (Session σ L ε α ω)) :
    (c.set i p).calls = c.calls := rfl

omit [DecidableEq L] in
@[simp] theorem set_sessions_self (i : ℕ) (p : Option (Session σ L ε α ω)) :
    (c.set i p).sessions i = p := by
  simp [set]

omit [DecidableEq L] in
theorem set_sessions_of_ne {i j : ℕ} (h : j ≠ i) (p : Option (Session σ L ε α ω)) :
    (c.set i p).sessions j = c.sessions j := by
  simp [set, h]

omit [DecidableEq L] in
theorem mem_release {i : ℕ} {g : Grant L} : g ∈ c.release i ↔ g ∈ c.locks ∧ g.connection ≠ i := by
  simp [release]

theorem available_iff {i : ℕ} {l : L} {m : RowLock} :
    c.available i l m = true ↔
      ∀ g ∈ c.locks, g.connection ≠ i → g.key = l → m.conflicts g.mode = false := by
  simp only [available, List.all_eq_true]
  refine forall₂_congr fun g _ => ?_
  by_cases h₁ : g.connection = i <;> by_cases h₂ : g.key = l <;> simp [h₁, h₂]

/-- The serial number of the call on a connection, and how often it has committed. -/
def card (c : Config σ L ε α ω) (i : ℕ) : Option (ℕ × ℕ) :=
  (c.sessions i).map fun p => (p.serial, p.commits)

omit [DecidableEq L] in
theorem card_of_session {i : ℕ} {p : Session σ L ε α ω} (h : c.sessions i = some p) :
    c.card i = some (p.serial, p.commits) := by
  simp [card, h]

omit [DecidableEq L] in
theorem card_set (i : ℕ) (p : Option (Session σ L ε α ω)) :
    (c.set i p).card = Function.update c.card i (p.map fun p => (p.serial, p.commits)) := by
  funext j
  by_cases hj : j = i
  · subst hj
    simp [card]
  · simp [card, set_sessions_of_ne hj, hj]

/-- The bookkeeping of locks, calls and history is consistent. -/
structure WellFormed (init : σ → Prop) (c : Config σ L ε α ω) : Prop where
  /-- No two connections hold conflicting locks. -/
  compatible : ∀ i j, i ≠ j → Compatible (c.held i) (c.held j)
  /-- A free connection holds no lock. -/
  free : ∀ i, c.card i = none → c.held i = ∅
  serial_lt : ∀ i k n, c.card i = some (k, n) → k < c.calls
  serial_inj : ∀ i j k n n', c.card i = some (k, n) → c.card j = some (k, n') → i = j
  history_lt : ∀ e ∈ c.history, e.serial < c.calls
  /-- The entries of a call are its commits. -/
  count : ∀ i k n, c.card i = some (k, n) → c.history.countP (fun e => e.serial == k) = n
  linked : ∃ s₀, init s₀ ∧ Linked s₀ c.history c.db

omit [DecidableEq L] in
theorem mem_held_release {i j : ℕ} {lm : L × RowLock} :
    lm ∈ ({ c with locks := c.release i } : Config σ L ε α ω).held j ↔ lm ∈ c.held j ∧ j ≠ i :=
  mem_release

omit [DecidableEq L] in
theorem held_release_eq_empty {i j : ℕ} (h : c.held j = ∅) :
    ({ c with locks := c.release i } : Config σ L ε α ω).held j = ∅ :=
  Set.eq_empty_of_forall_notMem fun lm hlm =>
    Set.eq_empty_iff_forall_notMem.1 h lm (mem_held_release.1 hlm).1

omit [DecidableEq L] in
theorem compatible_release (h : ∀ i j, i ≠ j → Compatible (c.held i) (c.held j)) (i : ℕ) :
    ∀ a b, a ≠ b → Compatible (({ c with locks := c.release i } : Config σ L ε α ω).held a)
      (({ c with locks := c.release i } : Config σ L ε α ω).held b) :=
  fun a b hab => (h a b hab).mono (fun _ hx => (mem_held_release.1 hx).1)
    fun _ hx => (mem_held_release.1 hx).1

theorem compatible_grant (h : ∀ i j, i ≠ j → Compatible (c.held i) (c.held j)) {i : ℕ} {l : L}
    {m : RowLock} (hl : c.available i l m = true) :
    ∀ a b, a ≠ b → Compatible
      (({ c with locks := ⟨i, l, m⟩ :: c.locks } : Config σ L ε α ω).held a)
      (({ c with locks := ⟨i, l, m⟩ :: c.locks } : Config σ L ε α ω).held b) := by
  intro a b hab l' m₁ m₂ h₁ h₂
  rcases List.mem_cons.1 (mem_held.1 h₁) with h₁ | h₁ <;>
    rcases List.mem_cons.1 (mem_held.1 h₂) with h₂ | h₂
  · cases h₁
    cases h₂
    exact absurd rfl hab
  · cases h₁
    exact available_iff.1 hl _ h₂ hab.symm rfl
  · cases h₂
    rw [RowLock.conflicts_comm]
    exact available_iff.1 hl _ h₁ hab rfl
  · exact h a b hab l' m₁ m₂ h₁ h₂

end Config

open Config

/-- One step keeps the books. -/
theorem wellFormed_of_takes {init : σ → Prop} {prog : ω → Tx σ L ε α} {c c' : Config σ L ε α ω}
    (h : c.WellFormed init) (ht : Takes prog c c') : c'.WellFormed init := by
  cases ht with
  | begins i op hi =>
    have hcard : c.card i = none := by simp [card, hi]
    refine ⟨h.compatible, ?_, ?_, ?_, fun e he => Nat.lt_succ_of_lt (h.history_lt e he), ?_,
      h.linked⟩
    · intro j hj
      rw [card_set, Function.update_apply] at hj
      split at hj
      · cases hj
      · exact h.free j hj
    · intro j k n hj
      rw [card_set, Function.update_apply] at hj
      split at hj
      · cases hj
        exact Nat.lt_succ_self _
      · exact Nat.lt_succ_of_lt (h.serial_lt j k n hj)
    · intro a b k n n' ha hb
      rw [card_set, Function.update_apply] at ha hb
      split at ha <;> split at hb
      · simp [*]
      · cases ha
        exact absurd (h.serial_lt b _ n' hb) (lt_irrefl _)
      · cases hb
        exact absurd (h.serial_lt a _ n ha) (lt_irrefl _)
      · exact h.serial_inj a b k n n' ha hb
    · intro j k n hj
      rw [card_set, Function.update_apply] at hj
      split at hj
      · cases hj
        refine List.countP_eq_zero.2 fun e he => ?_
        simpa using (h.history_lt e he).ne
      · exact h.count j k n hj
  | locks i p l m k hi hp hl =>
    have hcard : (({ c with locks := ⟨i, l, m⟩ :: c.locks } : Config σ L ε α ω).set i
        (some { p with code := k })).card = c.card := by
      rw [card_set]
      exact Function.update_eq_self_iff.2 (card_of_session hi).symm
    refine ⟨compatible_grant h.compatible hl, fun j hj => ?_, hcard ▸ h.serial_lt,
      hcard ▸ h.serial_inj, h.history_lt, hcard ▸ h.count, h.linked⟩
    rw [hcard] at hj
    have hij : j ≠ i := fun hij => by
      rw [hij, card_of_session hi] at hj
      cases hj
    refine Set.eq_empty_of_forall_notMem fun lm hlm => ?_
    rcases List.mem_cons.1 (mem_held.1 hlm) with heq | hmem
    · cases heq
      exact hij rfl
    · exact Set.eq_empty_iff_forall_notMem.1 (h.free j hj) _ (mem_held.2 hmem)
  | executes i p δ k hi hp =>
    have hcard : (c.set i (some { p with
        code := k (p.pending c.db)
        pending := δ (p.pending c.db) ∘ p.pending })).card = c.card := by
      rw [card_set]
      exact Function.update_eq_self_iff.2 (card_of_session hi).symm
    exact ⟨h.compatible, hcard ▸ h.free, hcard ▸ h.serial_lt, hcard ▸ h.serial_inj,
      h.history_lt, hcard ▸ h.count, h.linked⟩
  | commits i p k hi hp =>
    have hcard := card_of_session hi
    obtain ⟨s₀, hs₀, hl⟩ := h.linked
    refine ⟨compatible_release h.compatible i, ?_, ?_, ?_, ?_, ?_, s₀, hs₀, rfl, hl⟩
    · intro j hj
      rw [card_set, Function.update_apply] at hj
      split at hj
      · cases hj
      · exact held_release_eq_empty (h.free j hj)
    · intro j k' n hj
      rw [card_set, Function.update_apply] at hj
      split at hj
      · cases hj
        exact h.serial_lt i _ _ hcard
      · exact h.serial_lt j k' n hj
    · intro a b k' n n' ha hb
      rw [card_set, Function.update_apply] at ha hb
      split at ha <;> split at hb
      · simp [*]
      · cases ha
        simpa [*] using h.serial_inj i b _ _ n' hcard hb
      · cases hb
        simpa [*] using h.serial_inj a i _ n _ ha hcard
      · exact h.serial_inj a b k' n n' ha hb
    · intro e he
      rcases List.mem_cons.1 he with rfl | he
      · exact h.serial_lt i _ _ hcard
      · exact h.history_lt e he
    · intro j k' n hj
      rw [card_set, Function.update_apply] at hj
      rw [set_history, List.countP_cons]
      split at hj
      · cases hj
        simp [h.count i _ _ hcard]
      · rename_i hne
        have hserial : p.serial ≠ k' := fun heq =>
          hne (h.serial_inj j i k' n p.commits hj (heq ▸ hcard))
        simpa [hserial] using h.count j k' n hj
  | closes i =>
    have hsub : ∀ j k n, (({ c with locks := c.release i } : Config σ L ε α ω).set i none).card j
        = some (k, n) → c.card j = some (k, n) := by
      intro j k n hj
      rw [card_set, Function.update_apply] at hj
      split at hj
      · cases hj
      · exact hj
    refine ⟨compatible_release h.compatible i, fun j hj => ?_,
      fun j k n hj => h.serial_lt j k n (hsub j k n hj),
      fun a b k n n' ha hb => h.serial_inj a b k n n' (hsub a k n ha) (hsub b k n' hb),
      h.history_lt, fun j k n hj => h.count j k n (hsub j k n hj), h.linked⟩
    by_cases hij : j = i
    · exact Set.eq_empty_of_forall_notMem fun lm hlm => (mem_held_release.1 hlm).2 hij
    · rw [card_set, Function.update_of_ne hij] at hj
      exact held_release_eq_empty (h.free j hj)

omit [DecidableEq L] in
theorem wellFormed_of_init {init : σ → Prop} {c : Config σ L ε α ω} (hdb : init c.db)
    (hs : c.sessions = fun _ => none) (hl : c.locks = []) (hh : c.history = []) :
    c.WellFormed init := by
  have hcard : ∀ i, c.card i = none := fun i => by simp [card, hs]
  refine ⟨fun i j _ l m m' hm => ?_, ?_, ?_, ?_, ?_, ?_, c.db, hdb, ?_⟩
  · simp [hl] at hm
  · intro i _
    exact Set.eq_empty_of_forall_notMem fun lm hlm => by simp [held, hl] at hlm
  · intro i k n hi
    simp [hcard] at hi
  · intro i j k n n' hi
    simp [hcard] at hi
  · intro e he
    simp [hh] at he
  · intro i k n hi
    simp [hcard] at hi
  · simp [hh, Linked]

/-- **Every reachable configuration is well formed.** -/
theorem wellFormed_of_reachable {init : σ → Prop} {prog : ω → Tx σ L ε α}
    {c : Config σ L ε α ω} (h : (system init prog).Reachable c) : c.WellFormed init := by
  refine TransitionSystem.Inductive.of_reachable (I := Config.WellFormed init) ⟨?_, ?_⟩ h
  · rintro c ⟨hdb, hs, hl, hh, -⟩
    exact wellFormed_of_init hdb hs hl hh
  · exact fun c e c' hc hstep => wellFormed_of_takes hc (takes_of_step hstep)

/-- What a call is about to commit is the state of a reachable configuration. -/
theorem exists_committed {init : σ → Prop} {prog : ω → Tx σ L ε α} {c : Config σ L ε α ω}
    (h : (system init prog).Reachable c) {i : ℕ} {p : Session σ L ε α ω} {k : Tx σ L ε α}
    (hi : c.sessions i = some p) (hp : p.code = .commit k) :
    ∃ c', (system init prog).Reachable c' ∧ c'.db = p.pending c.db := by
  let c' : Config σ L ε α ω := { c with
      db := p.pending c.db
      locks := c.release i
      history := ⟨p.op, p.serial, c.db, p.pending c.db⟩ :: c.history }.set i
    (some { p with code := k, pending := id, commits := p.commits + 1 })
  refine ⟨c', h.step (e := .advance i) ?_, rfl⟩
  show (c.sessions i).bind (advance c i) = some c'
  rw [hi, Option.bind_some, advance, hp]

end ReadCommitted
