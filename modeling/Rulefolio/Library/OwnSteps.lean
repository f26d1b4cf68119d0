import Rulefolio.Library.RelyGuarantee

/-!
# The next step of one call

A call that is safe from some point takes a step. It is safe afterwards from a point that has seen
exactly the committed state behind the step, and the other calls are as they were. With this an
invariant can be followed that says something else of each call, or whose environment differs from
call to call.

## Main definitions

* `ReadCommitted.OwnStep` — what a step of one call leaves alone.
* `Tx.EndsWithCommit` — a program returns with its commit.

## Main results

* `ReadCommitted.safe_of_advance`.
-/

variable {σ L ε α β ω : Type}

/-! ## Programs that end with their commit -/

namespace Tx

/-- The program returns with its commit: not without one, and nothing comes after it. -/
def EndsWithCommit : Tx σ L ε α → Prop
  | .pure _ => False
  | .raise _ => True
  | .lock _ _ k => k.EndsWithCommit
  | .stmt _ k => ∀ v, (k v).EndsWithCommit
  | .commit k => ∃ a, k = .pure a

theorem Within.endsWithCommit_bind {F : σ → σ → Prop} {P : β → Prop} {t : Tx σ L ε β}
    (ht : t.Within F P) {f : β → Tx σ L ε α} (hf : ∀ b, P b → (f b).EndsWithCommit) :
    (t.bind f).EndsWithCommit := by
  induction t with
  | pure b => exact hf b ht
  | raise e => trivial
  | lock l m k ih => exact ih ht
  | stmt δ k ih => exact fun v => ih v (ht.2 v)
  | commit k ih => exact ht.elim

theorem endsWithCommit_commitNow (a : α) :
    ((Tx.commitNow : Tx σ L ε Unit).bind fun _ => .pure a).EndsWithCommit :=
  ⟨a, rfl⟩

theorem EndsWithCommit.mapError {f : ε → ε} {t : Tx σ L ε α} (h : t.EndsWithCommit) :
    (t.mapError f).EndsWithCommit := by
  induction t with
  | pure a => exact h
  | raise e => trivial
  | lock l m k ih => exact ih h
  | stmt δ k ih => exact fun v => ih v (h v)
  | commit k ih =>
    obtain ⟨a, rfl⟩ := h
    exact ⟨a, rfl⟩

end Tx

namespace ReadCommitted

variable [DecidableEq L] {c c' : Config σ L ε α ω} {i : ℕ} {p p' : Session σ L ε α ω}
  {prog : ω → Tx σ L ε α}

/-! ## One step -/

/-- The call on one connection has taken a step. -/
structure OwnStep (c c' : Config σ L ε α ω) (i : ℕ) (p p' : Session σ L ε α ω) : Prop where
  before : c.sessions i = some p
  after : c'.sessions i = some p'
  op : p'.op = p.op
  serial : p'.serial = p.serial
  calls : c'.calls = c.calls
  sessions : ∀ j, j ≠ i → c'.sessions j = c.sessions j
  held : ∀ j, j ≠ i → c'.held j = c.held j

open Config in
/-- **A safe call takes a step.** It has committed, under its guarantee, or the committed state is as
it was; and it is safe from a point that has seen the committed state. -/
theorem safe_of_advance {E : Environment σ L} {G : Tx.Guarantee σ L} {Q : α → Point σ L → Prop}
    {X : ε → Point σ L → Prop} {s : σ} (hi : c.sessions i = some p) (hinv : E.Inv c.db)
    (hr : E.Rely (c.held i) s c.db)
    (hsafe : p.code.Safe E G Q X ⟨p.commits, c.held i, p.pending, s⟩)
    (hstep : step prog c (.advance i) = some c') :
    ∃ p', OwnStep c c' i p p' ∧
      p'.code.Safe E G Q X ⟨p'.commits, c'.held i, p'.pending, c'.db⟩ ∧
      ((c'.db = c.db ∧ c'.history = c.history ∧ p'.commits = p.commits ∧
          (p.code.EndsWithCommit → p'.code.EndsWithCommit)) ∨
        G p.commits (c.held i) c.db c'.db ∧ p'.commits = p.commits + 1 ∧
          c'.history ≠ c.history ∧
          (p.code.EndsWithCommit → ∃ a, p'.code = .pure a)) := by
  rw [step, hi, Option.bind_some, advance] at hstep
  cases hp : p.code with
  | pure a =>
    rw [hp] at hstep
    cases hstep
  | raise e =>
    rw [hp] at hstep
    cases hstep
  | lock l m k =>
    simp only [hp] at hstep
    rw [hp, Tx.Safe] at hsafe
    by_cases hl : c.available i l m = true
    · rw [if_pos hl] at hstep
      cases hstep
      have hheld : ({ c with locks := ⟨i, l, m⟩ :: c.locks } : Config σ L ε α ω).held i =
          insert (l, m) (c.held i) := by
        ext ⟨l', m'⟩
        simp [held]
      refine ⟨{ p with code := k }, ⟨hi, set_sessions_self _ _, rfl, rfl, rfl,
        fun j hj => set_sessions_of_ne hj _, fun j hj => ?_⟩, ?_, .inl ⟨rfl, rfl, rfl, id⟩⟩
      · ext ⟨l', m'⟩
        simp [held, hj]
      · change k.Safe E G Q X ⟨p.commits,
          ({ c with locks := ⟨i, l, m⟩ :: c.locks } : Config σ L ε α ω).held i, p.pending, c.db⟩
        rw [hheld]
        exact hsafe c.db hinv hr
    · rw [if_neg hl] at hstep
      cases hstep
  | stmt δ k =>
    simp only [hp] at hstep
    rw [hp, Tx.Safe] at hsafe
    cases hstep
    exact ⟨_, ⟨hi, set_sessions_self _ _, rfl, rfl, rfl, fun j hj => set_sessions_of_ne hj _,
      fun j _ => rfl⟩, hsafe c.db hinv hr, .inl ⟨rfl, rfl, rfl, fun hends => hends _⟩⟩
  | commit k =>
    simp only [hp] at hstep
    rw [hp, Tx.Safe] at hsafe
    cases hstep
    obtain ⟨hG, hk⟩ := hsafe c.db hinv hr
    have hheld : ({ c with locks := c.release i } : Config σ L ε α ω).held i = ∅ :=
      Set.eq_empty_of_forall_notMem fun lm hlm => (mem_held_release.1 hlm).2 rfl
    refine ⟨_, ⟨hi, set_sessions_self _ _, rfl, rfl, rfl, fun j hj => set_sessions_of_ne hj _,
      fun j hj => ?_⟩, ?_, .inr ⟨hG, rfl, List.cons_ne_self _ _, id⟩⟩
    · ext lm
      exact mem_held_release.trans (by simp [hj])
    · change k.Safe E G Q X ⟨p.commits + 1,
        ({ c with locks := c.release i } : Config σ L ε α ω).held i, id, p.pending c.db⟩
      rw [hheld]
      exact hk

end ReadCommitted
