import Mathlib.Data.Option.Basic
import Mathlib.Data.List.Basic

/-!
# Transition systems whose labels carry all the nondeterminism

A `TransitionSystem` is an executable step function. Everything a step could choose (a clock
reading, a fresh identifier, the answer of an outside party, which process moves) is part of the
label, so a run is a list of labels and a state is reachable when some list of labels leads to
it. That keeps two things available at once: a concrete run is evaluated by `decide`, and an
invariant is proved by the usual step-then-run argument.

`restrict` keeps only the steps whose label is admissible in the state it is taken in. Statements
of the form "in every run whose steps all meet the condition" are statements about the
reachable states of a restricted system.

## Main definitions

* `TransitionSystem`, `TransitionSystem.run`, `TransitionSystem.Reachable`.
* `TransitionSystem.restrict` — the same system with inadmissible steps removed.
* `TransitionSystem.Inductive` — an invariant together with its two obligations.
* `TransitionSystem.Passes` — a run that takes certain steps, in order.

## Main results

* `TransitionSystem.Inductive.of_reachable` — an inductive predicate holds in every reachable
  state.
* `TransitionSystem.reachable_of_restrict` — a restricted run is a run.
* `TransitionSystem.passes_of_stages` — who goes through stages takes the steps between them.
-/

universe u v

/-- A step function and its initial states. `step s e = none` means that the event `e` cannot
happen in `s`. -/
structure TransitionSystem (σ : Type u) (ε : Type v) where
  /-- The states a run may start in. -/
  init : σ → Prop
  /-- The effect of an event. -/
  step : σ → ε → Option σ

namespace TransitionSystem

variable {σ : Type u} {ε : Type v} (S : TransitionSystem σ ε)

/-- Take the events in order; `none` as soon as one of them cannot happen. -/
def run : σ → List ε → Option σ
  | s, [] => some s
  | s, e :: es => (S.step s e).bind fun s' => run s' es

@[simp] theorem run_nil (s : σ) : S.run s [] = some s := rfl

@[simp] theorem run_cons (s : σ) (e : ε) (es : List ε) :
    S.run s (e :: es) = (S.step s e).bind fun s' => S.run s' es := rfl

theorem run_append (s : σ) (es fs : List ε) :
    S.run s (es ++ fs) = (S.run s es).bind fun s' => S.run s' fs := by
  induction es generalizing s with
  | nil => rfl
  | cons e es ih =>
    cases h : S.step s e with
    | none => simp [h]
    | some s' => simp [h, ih]

/-- Some run from an initial state ends here. -/
def Reachable (s : σ) : Prop :=
  ∃ s₀ es, S.init s₀ ∧ S.run s₀ es = some s

variable {S}

theorem Reachable.initial {s : σ} (h : S.init s) : S.Reachable s :=
  ⟨s, [], h, rfl⟩

theorem Reachable.run {s s' : σ} {es : List ε} (h : S.Reachable s) (hr : S.run s es = some s') :
    S.Reachable s' := by
  obtain ⟨s₀, fs, h₀, hs⟩ := h
  exact ⟨s₀, fs ++ es, h₀, by rw [run_append, hs]; exact hr⟩

theorem Reachable.step {s s' : σ} {e : ε} (h : S.Reachable s) (hs : S.step s e = some s') :
    S.Reachable s' :=
  h.run (show S.run s [e] = some s' by simp [hs])

/-- A predicate that holds initially and that every step from a state satisfying it keeps. -/
structure Inductive (S : TransitionSystem σ ε) (I : σ → Prop) : Prop where
  /-- The predicate holds at the start. -/
  init : ∀ s, S.init s → I s
  /-- One step keeps it. -/
  step : ∀ s e s', I s → S.step s e = some s' → I s'

/-- The step obligation, iterated along a run. -/
theorem Inductive.of_run {I : σ → Prop} (hI : Inductive S I) {s s' : σ} {es : List ε}
    (h : I s) (hr : S.run s es = some s') : I s' := by
  induction es generalizing s with
  | nil =>
    cases hr
    exact h
  | cons e es ih =>
    obtain ⟨t, ht, hr⟩ := Option.bind_eq_some_iff.1 hr
    exact ih (hI.step s e t h ht) hr

/-- **An inductive predicate is an invariant.** -/
theorem Inductive.of_reachable {I : σ → Prop} (hI : Inductive S I) {s : σ}
    (h : S.Reachable s) : I s := by
  obtain ⟨s₀, es, h₀, hr⟩ := h
  exact hI.of_run (hI.init s₀ h₀) hr

/-- A reflexive and transitive relation kept by every step from an invariant state relates the
two ends of a run. Frame and monotonicity facts about whole runs come from this. -/
theorem Inductive.relates {I : σ → Prop} (hI : Inductive S I) {R : σ → σ → Prop}
    (hrefl : ∀ s, R s s) (htrans : ∀ s t u, R s t → R t u → R s u)
    (hstep : ∀ s e s', I s → S.step s e = some s' → R s s') {s s' : σ} {es : List ε}
    (h : I s) (hr : S.run s es = some s') : R s s' := by
  induction es generalizing s with
  | nil =>
    cases hr
    exact hrefl _
  | cons e es ih =>
    obtain ⟨t, ht, hr⟩ := Option.bind_eq_some_iff.1 hr
    exact htrans s t s' (hstep s e t h ht) (ih (hI.step s e t h ht) hr)

/-! ## Runs whose steps all meet a condition -/

variable (S) in
/-- The system whose only steps are the admissible ones. -/
def restrict (ok : σ → ε → Bool) : TransitionSystem σ ε where
  init := S.init
  step s e := if ok s e then S.step s e else none

variable {ok : σ → ε → Bool}

@[simp] theorem restrict_init (s : σ) : (S.restrict ok).init s ↔ S.init s := Iff.rfl

theorem restrict_step_eq_some {s s' : σ} {e : ε} :
    (S.restrict ok).step s e = some s' ↔ ok s e = true ∧ S.step s e = some s' := by
  by_cases h : ok s e = true <;> simp [restrict, h]

theorem run_of_restrict {s s' : σ} {es : List ε} (h : (S.restrict ok).run s es = some s') :
    S.run s es = some s' := by
  induction es generalizing s with
  | nil => exact h
  | cons e es ih =>
    obtain ⟨t, ht, hr⟩ := Option.bind_eq_some_iff.1 h
    rw [run_cons, (restrict_step_eq_some.1 ht).2]
    exact ih hr

theorem reachable_of_restrict {s : σ} (h : (S.restrict ok).Reachable s) : S.Reachable s := by
  obtain ⟨s₀, es, h₀, hr⟩ := h
  exact ⟨s₀, es, h₀, run_of_restrict hr⟩

/-- Where every step is admissible, nothing is lost. -/
theorem restrict_of_reachable {s : σ} (h : S.Reachable s) :
    (S.restrict fun _ _ => true).Reachable s := h

/-! ## Steps a run takes, in order -/

variable (S) in
/-- The run takes a step of each kind, in this order, with any other steps in between. -/
def Passes (s : σ) (es : List ε) (s' : σ) : List (σ → ε → σ → Prop) → Prop
  | [] => S.run s es = some s'
  | P :: Ps => ∃ before e after t t', es = before ++ e :: after ∧ S.run s before = some t ∧
      S.step t e = some t' ∧ P t e t' ∧ Passes t' after s' Ps

theorem Passes.cons {s t s' : σ} {e : ε} {es : List ε} {Ps : List (σ → ε → σ → Prop)}
    (hstep : S.step s e = some t) (h : S.Passes t es s' Ps) : S.Passes s (e :: es) s' Ps := by
  cases Ps with
  | nil =>
    have hrun : S.run t es = some s' := h
    show S.run s (e :: es) = some s'
    rw [run_cons, hstep, Option.bind_some, hrun]
  | cons P Ps =>
    obtain ⟨before, e', after, u, u', rfl, hrun, hstep', hP, hrest⟩ := h
    refine ⟨e :: before, e', after, u, u', rfl, ?_, hstep', hP, hrest⟩
    rw [run_cons, hstep, Option.bind_some, hrun]

theorem Passes.take {s t s' : σ} {e : ε} {es : List ε} {P : σ → ε → σ → Prop}
    {Ps : List (σ → ε → σ → Prop)} (hstep : S.step s e = some t) (hP : P s e t)
    (h : S.Passes t es s' Ps) : S.Passes s (e :: es) s' (P :: Ps) :=
  ⟨[], e, es, s, t, rfl, rfl, hstep, hP, h⟩

/-- **Stages are passed in order.** `At` says of a state that these steps are still ahead. If every
step from such a state leaves them ahead or is the first of them, and no state with steps ahead is
a goal, then a run to a goal takes them all. -/
theorem passes_of_stages {I Goal : σ → Prop} (hI : Inductive S I)
    {At : List (σ → ε → σ → Prop) → σ → Prop}
    (hstep : ∀ P Ps s e s', I s → At (P :: Ps) s → S.step s e = some s' →
      At (P :: Ps) s' ∨ (P s e s' ∧ At Ps s'))
    (hgoal : ∀ P Ps s, I s → At (P :: Ps) s → ¬ Goal s) {Ps : List (σ → ε → σ → Prop)} {s s' : σ}
    {es : List ε} (hs : I s) (hat : At Ps s) (hrun : S.run s es = some s') (hs' : Goal s') :
    S.Passes s es s' Ps := by
  induction es generalizing s Ps with
  | nil =>
    obtain rfl := Option.some.inj hrun
    cases Ps with
    | nil => exact hrun
    | cons P Ps => exact absurd hs' (hgoal P Ps s hs hat)
  | cons e es ih =>
    obtain ⟨t, ht, hrun'⟩ := Option.bind_eq_some_iff.1 hrun
    have hIt : I t := hI.step s e t hs ht
    cases Ps with
    | nil => exact hrun
    | cons P Ps =>
      rcases hstep P Ps s e t hs hat ht with hahead | ⟨hP, hrest⟩
      · exact (ih hIt hahead hrun').cons ht
      · exact Passes.take ht hP (ih hIt hrest hrun')

end TransitionSystem
