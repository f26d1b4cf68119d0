import Rulefolio.Library.TransitionSystem

/-!
# What a run has done so far

A guard may look at the present state only, while what it is for depends on all that happened
before. `history` collects a record of the steps of a run, and `Along` says that a property of the
record, the state and the next event holds at every event of a run.

Where one property gives another under an invariant of the record and the state, and its steps keep
the invariant, it gives the other along a run.

## Main definitions

* `TransitionSystem.history`, `TransitionSystem.Along`.

## Main results

* `TransitionSystem.Along.of_inv`, `TransitionSystem.along_iff`.
-/

universe u v w

namespace TransitionSystem

variable {σ : Type u} {ε : Type v} {η : Type w} (S : TransitionSystem σ ε)
  (record : η → σ → ε → σ → η)

/-- The record of a run. -/
def history : η → σ → List ε → η
  | h, _, [] => h
  | h, s, e :: es =>
    match S.step s e with
    | none => h
    | some s' => history (record h s e s') s' es

/-- The property holds at every event of the run. -/
def Along (P : η → σ → ε → Prop) (h : η) (s : σ) (es : List ε) : Prop :=
  ∀ before e after t, es = before ++ e :: after → S.run s before = some t →
    P (S.history record h s before) t e

variable {S} {record} {P Q : η → σ → ε → Prop} {I : η → σ → Prop} {h : η} {s : σ}

theorem along_nil : S.Along record P h s [] := by
  intro before e after t hes
  cases before <;> cases hes

theorem along_cons {e : ε} {es : List ε} :
    S.Along record P h s (e :: es) ↔
      P h s e ∧ ∀ s', S.step s e = some s' → S.Along record P (record h s e s') s' es := by
  constructor
  · intro hall
    refine ⟨hall [] e es s rfl rfl, fun s' hstep before e' after t hes hrun => ?_⟩
    have hlater := hall (e :: before) e' after t (by rw [hes, List.cons_append])
      (by rw [run_cons, hstep, Option.bind_some, hrun])
    rwa [history, hstep] at hlater
  · rintro ⟨hfirst, hrest⟩ before e' after t hes hrun
    cases before with
    | nil =>
      obtain ⟨rfl, rfl⟩ := List.cons.inj hes
      obtain rfl := Option.some.inj hrun
      exact hfirst
    | cons e₀ before =>
      obtain ⟨rfl, rfl⟩ := List.cons.inj hes
      obtain ⟨s', hstep, hrun⟩ := Option.bind_eq_some_iff.1 hrun
      rw [history, hstep]
      exact hrest s' hstep before e' after t rfl hrun

variable (S) (record) in
/-- Check a property along a run. -/
def checkAlong (check : η → σ → ε → Bool) : η → σ → List ε → Bool
  | _, _, [] => true
  | h, s, e :: es => check h s e &&
    match S.step s e with
    | none => true
    | some s' => checkAlong check (record h s e s') s' es

theorem along_of_check {check : η → σ → ε → Bool} (hcheck : ∀ h s e, check h s e = true → P h s e)
    {es : List ε} (hes : S.checkAlong record check h s es = true) : S.Along record P h s es := by
  induction es generalizing h s with
  | nil => exact along_nil
  | cons e es ih =>
    rw [checkAlong, Bool.and_eq_true] at hes
    refine along_cons.2 ⟨hcheck h s e hes.1, fun s' hstep => ih ?_⟩
    rw [hstep] at hes
    exact hes.2

/-- **A property that follows under an invariant follows along a run.** -/
theorem Along.of_inv (hfollows : ∀ h s e, I h s → Q h s e → P h s e)
    (hkeep : ∀ h s e s', I h s → Q h s e → S.step s e = some s' → I (record h s e s') s')
    {es : List ε} (hI : I h s) (hQ : S.Along record Q h s es) : S.Along record P h s es := by
  induction es generalizing h s with
  | nil => exact along_nil
  | cons e es ih =>
    obtain ⟨hfirst, hrest⟩ := along_cons.1 hQ
    exact along_cons.2 ⟨hfollows h s e hI hfirst,
      fun s' hstep => ih (hkeep h s e s' hI hfirst hstep) (hrest s' hstep)⟩

/-- **Properties that agree under an invariant agree along a run.** -/
theorem along_iff (hiff : ∀ h s e, I h s → (P h s e ↔ Q h s e))
    (hkeep : ∀ h s e s', I h s → Q h s e → S.step s e = some s' → I (record h s e s') s')
    {es : List ε} (hI : I h s) : S.Along record P h s es ↔ S.Along record Q h s es := by
  constructor
  · exact Along.of_inv (fun h s e hI => (hiff h s e hI).1)
      (fun h s e s' hI hP => hkeep h s e s' hI ((hiff h s e hI).1 hP)) hI
  · exact Along.of_inv (fun h s e hI => (hiff h s e hI).2) hkeep hI

end TransitionSystem
