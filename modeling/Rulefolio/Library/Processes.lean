import Rulefolio.Library.TransitionSystem

/-!
# Calls that act on shared state step by step

A `Tx` is one transaction. Some calls are not: they commit several times, and between two
transactions they talk to a store that knows no transactions at all. A `Process` is the code of such
a call, a tree of atomic actions with the answers in its continuations. What an action does to the
shared state is said once for all calls, by `Setting.perform`. The choices an action leaves open
(a clock, a fresh identifier, how an outside party answers) are part of the event, as everywhere
here.

## What a call has done

A configuration keeps, for each call, the list of its actions with their answers. Nothing reads it
but the proofs: it is what a call knows. `Process.Walks` is a program logic over it: `F past a` says
after what a call may take the action `a`, `Q` and `E` what is past when it returns or raises. It is
a matter of the code alone, with no state in it and no other calls, and so it is composed along
`bind`.

What holds of the state is then an `Invariant`: it ties the past of each running call to the state,
and has one obligation for an action of the call itself and one for an action of another.

## Main definitions

* `Process`, with `bind`, `attempt` and `forEach`.
* `Setting` — the meaning of the actions; `Setting.system` — its calls, interleaved.
* `Process.Walks` — the logic of the past.
* `Setting.Invariant` — what ties pasts and state.

## Main results

* `Setting.pasts_of_step`, `Setting.countP_set` — what one event adds to what has been done.
* `Setting.walks_of_reachable` — every call has walked its code.
* `Setting.Invariant.of_reachable` — an invariant holds in every configuration that is reached by
  admissible events.
-/

/-- The code of a call: `A` are its actions, `Answer a` what it learns from one. -/
inductive Process (A : Type) (Answer : A → Type) (X α : Type)
  | returned (v : α)
  | raised (e : X)
  | act (a : A) (k : Answer a → Process A Answer X α)

namespace Process

variable {A : Type} {Answer : A → Type} {X Y α β : Type}

/-- Run one program after the other. -/
def bind : Process A Answer X α → (α → Process A Answer X β) → Process A Answer X β
  | .returned v, f => f v
  | .raised e, _ => .raised e
  | .act a k, f => .act a fun r => (k r).bind f

instance : Monad (Process A Answer X) where
  pure := Process.returned
  bind := Process.bind

@[simp] theorem pure_eq (v : α) : (Pure.pure v : Process A Answer X α) = .returned v := rfl

@[simp] theorem bind_eq (p : Process A Answer X α) (f : α → Process A Answer X β) :
    p >>= f = p.bind f := rfl

@[simp] theorem returned_bind (v : α) (f : α → Process A Answer X β) :
    (Process.returned v).bind f = f v := rfl

@[simp] theorem raised_bind (e : X) (f : α → Process A Answer X β) :
    (Process.raised e).bind f = .raised e := rfl

/-- One action. -/
def perform (a : A) : Process A Answer X (Answer a) :=
  .act a .returned

/-- The outcome of a program as a value: what `try` hands to its handlers. -/
def attempt : Process A Answer X α → Process A Answer Y (Except X α)
  | .returned v => .returned (.ok v)
  | .raised e => .returned (.error e)
  | .act a k => .act a fun r => (k r).attempt

/-- A loop over a list. -/
def forEach (f : β → Process A Answer X Unit) : List β → Process A Answer X Unit
  | [] => .returned ()
  | b :: bs => (f b).bind fun _ => forEach f bs

/-! ## The logic of the past -/

/-- What a call has done, the latest action first. -/
abbrev Past (A : Type) (Answer : A → Type) := List (Σ a, Answer a)

/-- With this past, the program takes each action as `F` has it, returns as `Q` and raises as `E`
has it. -/
def Walks (F : Past A Answer → A → Prop) (Q : Past A Answer → α → Prop)
    (E : Past A Answer → X → Prop) : Past A Answer → Process A Answer X α → Prop
  | t, .returned v => Q t v
  | t, .raised e => E t e
  | t, .act a k => F t a ∧ ∀ r, Walks F Q E (⟨a, r⟩ :: t) (k r)

variable {F : Past A Answer → A → Prop} {Q : Past A Answer → α → Prop}
  {Q' : Past A Answer → β → Prop} {E : Past A Answer → X → Prop} {t : Past A Answer}

theorem Walks.bind {p : Process A Answer X α} {f : α → Process A Answer X β}
    (h : p.Walks F Q E t) (hf : ∀ t v, Q t v → (f v).Walks F Q' E t) :
    (p.bind f).Walks F Q' E t := by
  induction p generalizing t with
  | returned v => exact hf t v h
  | raised e => exact h
  | act a k ih => exact ⟨h.1, fun r => ih r (h.2 r)⟩

/-- A program that is begun with one action. -/
theorem walks_perform_bind {a : A} {f : Answer a → Process A Answer X β} (ha : F t a)
    (hf : ∀ r, (f r).Walks F Q' E (⟨a, r⟩ :: t)) : ((perform a).bind f).Walks F Q' E t :=
  ⟨ha, hf⟩

theorem Walks.attempt {E' : Past A Answer → Y → Prop} {p : Process A Answer X α}
    (h : p.Walks F Q E t) :
    (p.attempt (Y := Y)).Walks F
      (fun t outcome => match outcome with
        | .ok v => Q t v
        | .error e => E t e) E' t := by
  induction p generalizing t with
  | returned v => exact h
  | raised e => exact h
  | act a k ih => exact ⟨h.1, fun r => ih r (h.2 r)⟩

theorem Walks.imp {Q₁ : Past A Answer → α → Prop} {E₁ : Past A Answer → X → Prop}
    {p : Process A Answer X α} (h : p.Walks F Q E t) (hQ : ∀ t v, Q t v → Q₁ t v)
    (hE : ∀ t e, E t e → E₁ t e) : p.Walks F Q₁ E₁ t := by
  induction p generalizing t with
  | returned v => exact hQ t v h
  | raised e => exact hE t e h
  | act a k ih => exact ⟨h.1, fun r => ih r (h.2 r)⟩

/-- The invariant of a loop is a property of the past. -/
theorem walks_forEach {f : β → Process A Answer X Unit} {J : Past A Answer → Prop}
    (hstep : ∀ t b, J t → (f b).Walks F (fun t _ => J t) E t) (bs : List β) :
    ∀ t, J t → (forEach f bs).Walks F (fun t _ => J t) E t := by
  induction bs with
  | nil => intro t ht; exact ht
  | cons b bs ih =>
    intro t ht
    exact (hstep t b ht).bind fun t _ ht => ih t ht

end Process

/-! ## Calls, interleaved -/

open Process (Past Walks)

/-- What the actions of the calls `C` mean on a shared state `σ`. `ε` are the choices an action
leaves open, `μ` what else may happen to the state. -/
structure Setting (σ ε μ C A : Type) (Answer : A → Type) (X α : Type) where
  /-- The states a run may start in. -/
  init : σ → Prop
  /-- The code of a call. -/
  code : C → Process A Answer X α
  /-- What an action of a call does; `none` where it has to wait, or the choice is not its own. -/
  perform : ℕ → (a : A) → σ → ε → Option (σ × Answer a)
  /-- What is given up when a call is over. -/
  release : ℕ → σ → σ
  /-- What others do. -/
  move : σ → μ → Option σ
  /-- The exception of a call that is cut off. -/
  cutOff : X

/-- A call, with what it has done and what it still has to do. -/
structure Running (A : Type) (Answer : A → Type) (X α : Type) where
  past : Past A Answer
  rest : Process A Answer X α

/-- The shared state and the calls. -/
structure Concurrent (σ A : Type) (Answer : A → Type) (X α : Type) where
  shared : σ
  calls : List (Running A Answer X α)

/-- What happens next. -/
inductive Occurrence (ε μ C : Type)
  /-- A call begins. -/
  | start (call : C)
  /-- A call takes its next action. -/
  | step (i : ℕ) (choice : ε)
  /-- A call is cut off: a statement of it fails, or its process is gone. -/
  | cut (i : ℕ)
  /-- Something else happens. -/
  | move (m : μ)
  deriving DecidableEq, Repr

namespace Setting

variable {σ ε μ C A : Type} {Answer : A → Type} {X α : Type} (S : Setting σ ε μ C A Answer X α)

/-- The call goes on with `p`. If that is its end, what it holds is given up. -/
def settle (c : Concurrent σ A Answer X α) (i : ℕ) (s : σ) (past : Past A Answer) :
    Process A Answer X α → Concurrent σ A Answer X α
  | .act a k => ⟨s, c.calls.set i ⟨past, .act a k⟩⟩
  | p => ⟨S.release i s, c.calls.set i ⟨past, p⟩⟩

/-- One event. -/
def step (c : Concurrent σ A Answer X α) : Occurrence ε μ C → Option (Concurrent σ A Answer X α)
  | .start call => some ⟨c.shared, c.calls ++ [⟨[], S.code call⟩]⟩
  | .step i choice =>
    match c.calls[i]? with
    | some ⟨past, .act a k⟩ =>
      (S.perform i a c.shared choice).map fun out => S.settle c i out.1 (⟨a, out.2⟩ :: past) (k out.2)
    | _ => none
  | .cut i =>
    match c.calls[i]? with
    | some ⟨past, .act _ _⟩ => some (S.settle c i c.shared past (.raised S.cutOff))
    | _ => none
  | .move m => (S.move c.shared m).map fun s => { c with shared := s }

/-- The calls of a setting, any number of them in any order. -/
def system : TransitionSystem (Concurrent σ A Answer X α) (Occurrence ε μ C) where
  init c := S.init c.shared ∧ c.calls = []
  step := S.step

/-! ## What every call has walked -/

variable {S} {F : Past A Answer → A → Prop} {Q : Past A Answer → α → Prop}
  {E : Past A Answer → X → Prop} {c c' : Concurrent σ A Answer X α}

/-- The call has done what its code does, or was cut off. -/
def Running.Walked (S : Setting σ ε μ C A Answer X α) (F : Past A Answer → A → Prop)
    (Q : Past A Answer → α → Prop) (E : Past A Answer → X → Prop)
    (call : Running A Answer X α) : Prop :=
  call.rest.Walks F Q (fun t e => E t e ∨ e = S.cutOff) call.past

theorem settle_calls (c : Concurrent σ A Answer X α) (i : ℕ) (s : σ) (past : Past A Answer)
    (p : Process A Answer X α) : (S.settle c i s past p).calls = c.calls.set i ⟨past, p⟩ := by
  cases p <;> rfl

/-- What one event does to the calls. -/
theorem calls_of_step {e : Occurrence ε μ C} (h : S.step c e = some c') :
    (∃ call, c'.calls = c.calls ++ [⟨[], S.code call⟩]) ∨
      (∃ i past a k r, c.calls[i]? = some ⟨past, .act a k⟩ ∧
        c'.calls = c.calls.set i ⟨⟨a, r⟩ :: past, k r⟩) ∨
      (∃ i past a k, c.calls[i]? = some ⟨past, .act a k⟩ ∧
        c'.calls = c.calls.set i ⟨past, .raised S.cutOff⟩) ∨ c'.calls = c.calls := by
  cases e with
  | start call =>
    cases h
    exact .inl ⟨call, rfl⟩
  | step i choice =>
    simp only [step] at h
    split at h
    · rename_i past a k hcall
      obtain ⟨out, -, rfl⟩ := Option.map_eq_some_iff.1 h
      exact .inr (.inl ⟨i, past, a, k, out.2, hcall, settle_calls _ _ _ _ _⟩)
    · cases h
  | cut i =>
    simp only [step] at h
    split at h
    · rename_i past a k hcall
      cases h
      exact .inr (.inr (.inl ⟨i, past, a, k, hcall, settle_calls _ _ _ _ _⟩))
    · cases h
  | move m =>
    obtain ⟨s, -, rfl⟩ := Option.map_eq_some_iff.1 h
    exact .inr (.inr (.inr rfl))

/-- What each call has done. -/
def pasts (c : Concurrent σ A Answer X α) : List (Past A Answer) :=
  c.calls.map (·.past)

/-- One event is an action of one call, or nothing is done. -/
theorem pasts_of_step {e : Occurrence ε μ C} (h : S.step c e = some c') :
    (∃ i past a k choice s' r, c.calls[i]? = some ⟨past, .act a k⟩ ∧
      S.perform i a c.shared choice = some (s', r) ∧
        (c'.shared = s' ∨ c'.shared = S.release i s') ∧
          pasts c' = (pasts c).set i (⟨a, r⟩ :: past)) ∨
      ((c'.shared = c.shared ∨ (∃ i, c'.shared = S.release i c.shared) ∨
          ∃ m, S.move c.shared m = some c'.shared) ∧
        (pasts c' = pasts c ∨ pasts c' = pasts c ++ [[]])) := by
  have hshared : ∀ i s past (p : Process A Answer X α),
      (S.settle c i s past p).shared = s ∨ (S.settle c i s past p).shared = S.release i s := by
    intro i s past p
    cases p with
    | act => exact .inl rfl
    | _ => exact .inr rfl
  cases e with
  | start call =>
    cases h
    exact .inr ⟨.inl rfl, .inr (List.map_append ..)⟩
  | step i choice =>
    simp only [step] at h
    split at h
    · rename_i past a k hcall
      obtain ⟨⟨s', r⟩, hperform, rfl⟩ := Option.map_eq_some_iff.1 h
      refine .inl ⟨i, past, a, k, choice, s', r, hcall, hperform, hshared _ _ _ _, ?_⟩
      rw [pasts, settle_calls, List.map_set, pasts]
    · cases h
  | cut i =>
    simp only [step] at h
    split at h
    · rename_i past a k hcall
      cases h
      refine .inr ⟨(hshared _ _ _ _).imp id fun hreleased => .inl ⟨i, hreleased⟩, .inl ?_⟩
      rw [pasts, settle_calls, List.map_set, pasts]
      refine List.ext_getElem? fun j => ?_
      by_cases hij : i = j
      · subst hij
        rw [List.getElem?_set_self', List.getElem?_map, hcall]
        rfl
      · rw [List.getElem?_set_ne hij]
    · cases h
  | move m =>
    obtain ⟨s', hmove, rfl⟩ := Option.map_eq_some_iff.1 h
    exact .inr ⟨.inr (.inr ⟨m, hmove⟩), .inl rfl⟩

/-- What is counted of all that has been done grows with what one call does. -/
theorem countP_set {l : List (Past A Answer)} {i : ℕ} {past : Past A Answer} (h : l[i]? = some past)
    (entry : Σ a, Answer a) (p : (Σ a, Answer a) → Bool) :
    (l.set i (entry :: past)).flatten.countP p = l.flatten.countP p + if p entry then 1 else 0 := by
  induction l generalizing i with
  | nil => cases h
  | cons t l ih =>
    cases i with
    | zero =>
      obtain rfl : t = past := Option.some.inj h
      rw [List.set_cons_zero, List.flatten_cons, List.flatten_cons, List.cons_append,
        List.countP_cons]
    | succ i =>
      rw [List.set_cons_succ, List.flatten_cons, List.flatten_cons, List.countP_append,
        List.countP_append, ih h, Nat.add_assoc]

theorem walked_of_step (hcode : ∀ call, (S.code call).Walks F Q E [])
    (hwalked : ∀ call ∈ c.calls, Running.Walked S F Q E call) {e : Occurrence ε μ C}
    (hstep : S.step c e = some c') : ∀ call ∈ c'.calls, Running.Walked S F Q E call := by
  intro call hcall
  rcases calls_of_step hstep with ⟨code, heq⟩ | ⟨i, past, a, k, r, hi, heq⟩ |
    ⟨i, past, a, k, hi, heq⟩ | heq
  · rw [heq, List.mem_append, List.mem_singleton] at hcall
    rcases hcall with hcall | rfl
    · exact hwalked call hcall
    · exact (hcode code).imp (fun _ _ h => h) fun _ _ h => .inl h
  · rw [heq] at hcall
    rcases List.mem_or_eq_of_mem_set hcall with hcall | rfl
    · exact hwalked call hcall
    · exact (hwalked _ (List.mem_of_getElem? hi)).2 r
  · rw [heq] at hcall
    rcases List.mem_or_eq_of_mem_set hcall with hcall | rfl
    · exact hwalked call hcall
    · exact .inr rfl
  · rw [heq] at hcall
    exact hwalked call hcall

/-- **Every call walks its code.** -/
theorem walks_of_reachable (hcode : ∀ call, (S.code call).Walks F Q E [])
    (h : S.system.Reachable c) : ∀ call ∈ c.calls, Running.Walked S F Q E call := by
  have hinductive : TransitionSystem.Inductive S.system fun c : Concurrent σ A Answer X α =>
      ∀ call ∈ c.calls, Running.Walked S F Q E call := by
    constructor
    · rintro c ⟨-, hnone⟩ call hcall
      rw [hnone] at hcall
      cases hcall
    · intro c e c' hc hstep
      exact walked_of_step hcode hc hstep
  exact hinductive.of_reachable h

/-! ## Invariants -/

/-- Some other running call stands in the way of the action. -/
def obstructed (apart : Past A Answer → A → Past A Answer → Bool) (i : ℕ) (past : Past A Answer)
    (a : A) (calls : List (Running A Answer X α)) : Bool :=
  calls.zipIdx.any fun entry =>
    match entry.1.rest with
    | .act _ _ => entry.2 != i && !apart past a entry.1.past
    | _ => false

/-- An action is admissible if the state and its past allow it, and the past of every other running
call does. -/
def admissible (ok : σ → Past A Answer → A → Bool) (apart : Past A Answer → A → Past A Answer → Bool)
    (c : Concurrent σ A Answer X α) : Occurrence ε μ C → Bool
  | .step i _ =>
    match c.calls[i]? with
    | some ⟨past, .act a _⟩ => ok c.shared past a && !obstructed apart i past a c.calls
    | _ => true
  | _ => true

variable {ok : σ → Past A Answer → A → Bool} {apart : Past A Answer → A → Past A Answer → Bool}

theorem apart_of_not_obstructed {i j : ℕ} {past : Past A Answer} {a : A}
    {calls : List (Running A Answer X α)} (h : obstructed apart i past a calls = false)
    (hne : j ≠ i) {u : Past A Answer} {b : A} {k : Answer b → Process A Answer X α}
    (hj : calls[j]? = some ⟨u, .act b k⟩) : apart past a u = true := by
  have hmem : ((⟨u, .act b k⟩ : Running A Answer X α), j) ∈ calls.zipIdx := by
    rw [List.mem_zipIdx_iff_getElem?]
    exact hj
  have hnone := List.any_eq_false.1 h _ hmem
  simpa [hne] using hnone

/-- Without a condition every event is admissible. -/
theorem admissible_true :
    admissible (X := X) (α := α) (ε := ε) (μ := μ) (C := C) (fun (_ : σ) (_ : Past A Answer) _ => true)
      (fun _ _ _ => true) = fun _ _ => true := by
  funext c e
  cases e with
  | step i choice =>
    rw [admissible]
    split
    · rw [Bool.true_and, Bool.not_eq_true', obstructed, List.any_eq_false]
      intro entry _
      split
      · simp
      · exact Bool.false_ne_true
    · rfl
  | _ => rfl

/-- A property of the state, `I`, and what the past of a call says of the state while the call runs
(`P`) and once it has returned (`R`). -/
structure Invariant (S : Setting σ ε μ C A Answer X α) (F : Past A Answer → A → Prop)
    (Q : Past A Answer → α → Prop) (ok : σ → Past A Answer → A → Bool)
    (apart : Past A Answer → A → Past A Answer → Bool) (I : σ → Prop)
    (P : ℕ → Past A Answer → σ → Prop) (R : α → σ → Prop) : Prop where
  init : ∀ s, S.init s → I s
  /-- A call begins. -/
  start : ∀ i s, I s → P i [] s
  /-- The call's own action. -/
  act : ∀ i t a s choice s' r, I s → P i t s → F t a → ok s t a = true →
    S.perform i a s choice = some (s', r) → I s' ∧ P i (⟨a, r⟩ :: t) s'
  /-- The action of another call. -/
  aside : ∀ i t a s choice s' r, I s → P i t s → F t a → ok s t a = true →
    S.perform i a s choice = some (s', r) →
    (∀ j u, j ≠ i → apart t a u = true → P j u s → P j u s') ∧ ∀ v, R v s → R v s'
  /-- A call returns. -/
  returns : ∀ i t v s, I s → P i t s → Q t v → R v s
  /-- What a call held is given up. -/
  release : ∀ i s, I s →
    I (S.release i s) ∧ (∀ j u, j ≠ i → P j u s → P j u (S.release i s)) ∧
      ∀ v, R v s → R v (S.release i s)
  /-- Something else happens. -/
  move : ∀ s m s', I s → S.move s m = some s' →
    I s' ∧ (∀ j u, P j u s → P j u s') ∧ ∀ v, R v s → R v s'

/-- What an invariant says of one call. -/
def Holds (P : ℕ → Past A Answer → σ → Prop) (R : α → σ → Prop) (s : σ) (i : ℕ) :
    Running A Answer X α → Prop
  | ⟨past, .act _ _⟩ => P i past s
  | ⟨_, .returned v⟩ => R v s
  | ⟨_, .raised _⟩ => True

variable {I : σ → Prop} {P : ℕ → Past A Answer → σ → Prop} {R : α → σ → Prop}

theorem Holds.imp {s s' : σ} {i : ℕ} {call : Running A Answer X α} (h : Holds P R s i call)
    (hP : ∀ b k, call.rest = .act b k → P i call.past s → P i call.past s')
    (hR : ∀ v, R v s → R v s') : Holds P R s' i call := by
  obtain ⟨past, p⟩ := call
  cases p with
  | returned v => exact hR v h
  | raised e => trivial
  | act b k => exact hP b k rfl h

theorem eq_or_of_getElem?_set {γ : Type} {l : List γ} {i j : ℕ} {x y : γ}
    (h : (l.set i x)[j]? = some y) : (j = i ∧ y = x) ∨ (j ≠ i ∧ l[j]? = some y) := by
  by_cases hij : j = i
  · subst hij
    rw [List.getElem?_set_self'] at h
    obtain ⟨z, -, rfl⟩ := Option.map_eq_some_iff.1 h
    exact .inl ⟨rfl, rfl⟩
  · rw [List.getElem?_set_ne (Ne.symm hij)] at h
    exact .inr ⟨hij, h⟩

/-- The state is as the invariant has it, and so is what each call knows of it. -/
def Holding (I : σ → Prop) (P : ℕ → Past A Answer → σ → Prop) (R : α → σ → Prop)
    (c : Concurrent σ A Answer X α) : Prop :=
  I c.shared ∧ ∀ i call, c.calls[i]? = some call → Holds P R c.shared i call

/-- Whether the call goes on, returns or raises, what is left to show is a matter of the others. -/
theorem Invariant.settle (hI : Invariant S F Q ok apart I P R) {i : ℕ} {s : σ}
    {past : Past A Answer} {p : Process A Answer X α}
    (hwalks : p.Walks F Q (fun t e => E t e ∨ e = S.cutOff) past) (hs : I s)
    (hown : (∀ e, p ≠ .raised e) → P i past s)
    (hothers : ∀ j call, j ≠ i → c.calls[j]? = some call → Holds P R s j call) :
    Holding I P R (S.settle c i s past p) := by
  obtain ⟨hrelease, hasideP, hasideR⟩ := hI.release i s hs
  have hreleased : ∀ j call, j ≠ i → c.calls[j]? = some call →
      Holds P R (S.release i s) j call := by
    intro j call hne hcall
    exact (hothers j call hne hcall).imp (fun _ _ _ => hasideP j call.past hne) hasideR
  cases p with
  | act b k =>
    refine ⟨hs, fun j call hcall => ?_⟩
    rcases eq_or_of_getElem?_set hcall with ⟨rfl, rfl⟩ | ⟨hne, hcall⟩
    · exact hown nofun
    · exact hothers j call hne hcall
  | returned v =>
    refine ⟨hrelease, fun j call hcall => ?_⟩
    rcases eq_or_of_getElem?_set hcall with ⟨rfl, rfl⟩ | ⟨hne, hcall⟩
    · exact hasideR v (hI.returns j past v s hs (hown nofun) hwalks)
    · exact hreleased j call hne hcall
  | raised e =>
    refine ⟨hrelease, fun j call hcall => ?_⟩
    rcases eq_or_of_getElem?_set hcall with ⟨rfl, rfl⟩ | ⟨hne, hcall⟩
    · trivial
    · exact hreleased j call hne hcall

/-- The step obligation of the whole system. -/
theorem Invariant.step (hI : Invariant S F Q ok apart I P R)
    (hcode : ∀ call, (S.code call).Walks F Q E [])
    (hwalked : ∀ call ∈ c.calls, Running.Walked S F Q E call) (hc : Holding I P R c)
    {e : Occurrence ε μ C} (hok : admissible ok apart c e = true) (hstep : S.step c e = some c') :
    Holding I P R c' := by
  cases e with
  | start call =>
    cases hstep
    refine ⟨hc.1, fun j call' hcall => ?_⟩
    rw [List.getElem?_append] at hcall
    split at hcall
    · exact hc.2 j call' hcall
    · obtain rfl : call' = ⟨[], S.code call⟩ := by
        simpa using List.mem_of_getElem? hcall
      cases hp : S.code call with
      | act b k => exact hI.start j c.shared hc.1
      | returned v =>
        have hv := hcode call
        rw [hp] at hv
        exact hI.returns j [] v c.shared hc.1 (hI.start j c.shared hc.1) hv
      | raised e => trivial
  | step i choice =>
    simp only [Setting.step] at hstep
    split at hstep
    · rename_i past a k hcall
      obtain ⟨⟨s', r⟩, hperform, rfl⟩ := Option.map_eq_some_iff.1 hstep
      simp only [admissible, hcall, Bool.and_eq_true, Bool.not_eq_true'] at hok
      have hwalks := hwalked _ (List.mem_of_getElem? hcall)
      have hown : P i past c.shared := hc.2 i _ hcall
      obtain ⟨hs', hown'⟩ := hI.act i past a c.shared choice s' r hc.1 hown hwalks.1 hok.1 hperform
      obtain ⟨hasideP, hasideR⟩ :=
        hI.aside i past a c.shared choice s' r hc.1 hown hwalks.1 hok.1 hperform
      refine hI.settle (hwalks.2 r) hs' (fun _ => hown') fun j call hne hj => ?_
      refine (hc.2 j call hj).imp (fun b k' hrest => ?_) hasideR
      obtain ⟨u, p⟩ := call
      cases hrest
      exact hasideP j u hne (apart_of_not_obstructed hok.2 hne hj)
    · cases hstep
  | cut i =>
    simp only [Setting.step] at hstep
    split at hstep
    · rename_i past a k hcall
      cases hstep
      refine hI.settle (E := E) (.inr rfl) hc.1 (fun h => absurd rfl (h S.cutOff))
        fun j call _ hj => hc.2 j call hj
    · cases hstep
  | move m =>
    obtain ⟨s', hmove, rfl⟩ := Option.map_eq_some_iff.1 hstep
    obtain ⟨hs', hP, hR⟩ := hI.move c.shared m s' hc.1 hmove
    exact ⟨hs', fun j call hj => (hc.2 j call hj).imp (fun _ _ _ => hP j call.past) hR⟩

/-- **An invariant holds wherever admissible events lead.** -/
theorem Invariant.of_reachable (hI : Invariant S F Q ok apart I P R)
    (hcode : ∀ call, (S.code call).Walks F Q E [])
    (h : (S.system.restrict (admissible ok apart)).Reachable c) : Holding I P R c := by
  have hinductive : TransitionSystem.Inductive (S.system.restrict (admissible ok apart))
      fun c => (∀ call ∈ c.calls, Running.Walked S F Q E call) ∧ Holding I P R c := by
    constructor
    · rintro c ⟨hinit, hnone⟩
      refine ⟨fun call hcall => ?_, hI.init _ hinit, fun i call hcall => ?_⟩
      · rw [hnone] at hcall
        cases hcall
      · rw [hnone] at hcall
        cases hcall
    · rintro c e c' ⟨hwalked, hc⟩ hstep
      obtain ⟨hok, hstep⟩ := TransitionSystem.restrict_step_eq_some.1 hstep
      exact ⟨walked_of_step hcode hwalked hstep, hI.step hcode hwalked hc hok hstep⟩
  exact (hinductive.of_reachable h).2

end Setting
