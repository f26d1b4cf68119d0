import Mathlib.Data.List.Count
import Mathlib.Data.List.Nodup
import Rulefolio.Models

/-!
# An issue and its retests

What the rows of an issue and of its retests say together, independent of how they are written. An
adjustment of an issue begins a new generation. A retest belongs to the generation it was bound in,
and a conclusion counts as long as the issue is in the generation of its retest.

## Main definitions

* `IssueView` — the row of an issue and the rows of its retests.
* `RetestStep` — what may become of them.
* `IssueView.Consistent` — what holds of them.

## Main results

* `RetestStep.consistent` — every step keeps it.
* `RetestStep.unconcluded` — a step that changes the adjustment leaves no conclusion.
-/

namespace Rulefolio

namespace Issues

/-- The row of an issue (none or one) and the rows of its retests. -/
structure IssueView where
  rows : List Issue
  links : List IssueRetestLink
  deriving DecidableEq

/-- An edit that leaves the adjustment of an issue alone. -/
structure KeepsAdjustment (issue issue' : Issue) : Prop where
  id : issue'.id = issue.id
  note : issue'.adjustmentNote = issue.adjustmentNote
  generation : issue'.adjustmentGeneration = issue.adjustmentGeneration

/-- An edit of retests that leaves alone which they are. -/
def KeepsRetest (f : IssueRetestLink → IssueRetestLink) : Prop :=
  ∀ l, (f l).id = l.id ∧ (f l).issueId = l.issueId ∧ (f l).sessionId = l.sessionId ∧
    (f l).adjustmentGeneration = l.adjustmentGeneration

theorem KeepsRetest.comp {f g : IssueRetestLink → IssueRetestLink} (hf : KeepsRetest f)
    (hg : KeepsRetest g) : KeepsRetest (g ∘ f) := fun l =>
  ⟨(hg _).1.trans (hf l).1, (hg _).2.1.trans (hf l).2.1, (hg _).2.2.1.trans (hf l).2.2.1,
    (hg _).2.2.2.trans (hf l).2.2.2⟩

/-- What may become of an issue and its retests. -/
inductive RetestStep : IssueView → IssueView → Prop
  | stays (v : IssueView) : RetestStep v v
  | created (issue : Issue) : RetestStep ⟨[], []⟩ ⟨[issue], []⟩
  | edited (issue issue' : Issue) (links : List IssueRetestLink)
      (h : KeepsAdjustment issue issue') : RetestStep ⟨[issue], links⟩ ⟨[issue'], links⟩
  | adjusted (issue issue' : Issue) (links : List IssueRetestLink)
      (hid : issue'.id = issue.id)
      (hgeneration : issue'.adjustmentGeneration = issue.adjustmentGeneration + 1)
      (f : IssueRetestLink → IssueRetestLink) (hf : KeepsRetest f)
      (hcleared : ∀ l ∈ links, (f l).conclusion = none) :
      RetestStep ⟨[issue], links⟩ ⟨[issue'], links.map f⟩
  | bound (issue issue' : Issue) (links : List IssueRetestLink) (h : KeepsAdjustment issue issue')
      (hnote : issue.adjustmentNote.isSome) (link : IssueRetestLink)
      (hgeneration : link.adjustmentGeneration = issue.adjustmentGeneration)
      (hconclusion : link.conclusion = none) (hfresh : link.id ∉ links.map (·.id)) :
      RetestStep ⟨[issue], links⟩ ⟨[issue'], link :: links⟩
  | concluded (issue issue' : Issue) (links : List IssueRetestLink)
      (h : KeepsAdjustment issue issue') (retest : IssueRetestLink) (hretest : retest ∈ links)
      (hgeneration : retest.adjustmentGeneration = issue.adjustmentGeneration)
      (f : IssueRetestLink → IssueRetestLink) (hf : KeepsRetest f)
      (hreason : ∀ l, l.id = retest.id → (f l).conclusionReason.isSome)
      (hcleared : ∀ l ∈ links, l.id ≠ retest.id → (f l).conclusion = none) :
      RetestStep ⟨[issue], links⟩ ⟨[issue'], links.map f⟩

/-- What an issue and its retests say together. -/
structure IssueView.Consistent (v : IssueView) : Prop where
  unique : v.rows.length ≤ 1
  orphan : v.rows = [] → v.links = []
  ids : (v.links.map (·.id)).Nodup
  /-- No retest is ahead of its issue. -/
  generation : ∀ issue ∈ v.rows, ∀ l ∈ v.links,
    l.adjustmentGeneration ≤ issue.adjustmentGeneration
  /-- A retest is bound to an adjustment there is. -/
  note : ∀ issue ∈ v.rows, ∀ l ∈ v.links,
    l.adjustmentGeneration = issue.adjustmentGeneration → issue.adjustmentNote.isSome
  /-- A conclusion is about the current adjustment. -/
  current : ∀ issue ∈ v.rows, ∀ l ∈ v.links, l.conclusion.isSome →
    l.adjustmentGeneration = issue.adjustmentGeneration
  reason : ∀ l ∈ v.links, l.conclusion.isSome → l.conclusionReason.isSome
  single : ∀ l ∈ v.links, ∀ l' ∈ v.links, l.conclusion.isSome → l'.conclusion.isSome → l = l'

namespace IssueView

theorem consistent_empty : Consistent ⟨[], []⟩ := by
  refine ⟨Nat.zero_le 1, fun _ => rfl, List.nodup_nil, ?_, ?_, ?_, ?_, ?_⟩ <;> simp

namespace Consistent

variable {issue issue' : Issue} {links : List IssueRetestLink}

theorem edit (hv : Consistent ⟨[issue], links⟩) (h : KeepsAdjustment issue issue') :
    Consistent ⟨[issue'], links⟩ := by
  refine ⟨le_refl 1, by simp, hv.ids, ?_, ?_, ?_, hv.reason, hv.single⟩
  · intro i hi l hl
    rw [List.mem_singleton] at hi
    rw [hi, h.generation]
    exact hv.generation issue (by simp) l hl
  · intro i hi l hl hcurrent
    rw [List.mem_singleton] at hi
    rw [hi, h.generation] at hcurrent
    rw [hi, h.note]
    exact hv.note issue (by simp) l hl hcurrent
  · intro i hi l hl hconclusion
    rw [List.mem_singleton] at hi
    rw [hi, h.generation]
    exact hv.current issue (by simp) l hl hconclusion

theorem nodup_map (hv : Consistent ⟨[issue], links⟩) {f : IssueRetestLink → IssueRetestLink}
    (hf : KeepsRetest f) : ((links.map f).map (·.id)).Nodup := by
  have hids : (fun l => (f l).id) = fun l : IssueRetestLink => l.id := funext fun l => (hf l).1
  rw [List.map_map]
  show (links.map fun l => (f l).id).Nodup
  rw [hids]
  exact hv.ids

end Consistent

end IssueView

open IssueView

/-- **Every step keeps an issue and its retests consistent.** -/
theorem RetestStep.consistent {v v' : IssueView} (h : RetestStep v v') (hv : v.Consistent) :
    v'.Consistent := by
  cases h with
  | stays => exact hv
  | created issue => refine ⟨le_refl 1, ?_, List.nodup_nil, ?_, ?_, ?_, ?_, ?_⟩ <;> simp
  | edited issue issue' links h => exact hv.edit h
  | adjusted issue issue' links hid hgeneration f hf hcleared =>
    have hnone : ∀ l ∈ links.map f, l.conclusion = none := by
      intro l hl
      obtain ⟨l₀, hl₀, rfl⟩ := List.mem_map.1 hl
      exact hcleared l₀ hl₀
    have hbehind : ∀ i ∈ [issue'], ∀ l ∈ links.map f,
        l.adjustmentGeneration < i.adjustmentGeneration := by
      intro i hi l hl
      obtain ⟨l₀, hl₀, rfl⟩ := List.mem_map.1 hl
      rw [List.mem_singleton] at hi
      have hle := hv.generation issue (by simp) l₀ hl₀
      rw [hi, hgeneration, (hf l₀).2.2.2]
      omega
    refine ⟨le_refl 1, by simp, hv.nodup_map hf, ?_, ?_, ?_, ?_, ?_⟩
    · exact fun i hi l hl => (hbehind i hi l hl).le
    · exact fun i hi l hl hcurrent => absurd hcurrent (hbehind i hi l hl).ne
    · exact fun i hi l hl hconclusion => absurd hconclusion (by simp [hnone l hl])
    · exact fun l hl hconclusion => absurd hconclusion (by simp [hnone l hl])
    · exact fun l hl l' hl' hconclusion => absurd hconclusion (by simp [hnone l hl])
  | bound issue issue' links h hnote link hgeneration hconclusion hfresh =>
    have hv' := hv.edit h
    have hnone : ¬link.conclusion.isSome := by simp [hconclusion]
    refine ⟨le_refl 1, by simp, List.nodup_cons.2 ⟨hfresh, hv.ids⟩, ?_, ?_, ?_, ?_, ?_⟩
    · rintro i hi l (_ | ⟨_, hl⟩)
      · rw [List.mem_singleton] at hi
        rw [hi, hgeneration, h.generation]
      · exact hv'.generation i hi l hl
    · rintro i hi l (_ | ⟨_, hl⟩) hcurrent
      · rw [List.mem_singleton] at hi
        rw [hi, h.note]
        exact hnote
      · exact hv'.note i hi l hl hcurrent
    · rintro i hi l (_ | ⟨_, hl⟩) hc
      · exact absurd hc hnone
      · exact hv'.current i hi l hl hc
    · rintro l (_ | ⟨_, hl⟩) hc
      · exact absurd hc hnone
      · exact hv'.reason l hl hc
    · rintro l (_ | ⟨_, hl⟩) l' (_ | ⟨_, hl'⟩) hc hc'
      · rfl
      · exact absurd hc hnone
      · exact absurd hc' hnone
      · exact hv'.single l hl l' hl' hc hc'
  | concluded issue issue' links h retest hretest hgeneration f hf hreason hcleared =>
    have hv' := hv.edit h
    -- Only the retest itself has a conclusion afterwards.
    have honly : ∀ l ∈ links, (f l).conclusion.isSome → l = retest := by
      intro l hl hc
      have hid : l.id = retest.id := by
        by_contra hne
        rw [hcleared l hl hne] at hc
        cases hc
      exact List.inj_on_of_nodup_map hv.ids hl hretest hid
    refine ⟨le_refl 1, by simp, hv.nodup_map hf, ?_, ?_, ?_, ?_, ?_⟩
    · intro i hi l hl
      obtain ⟨l₀, hl₀, rfl⟩ := List.mem_map.1 hl
      rw [(hf l₀).2.2.2]
      exact hv'.generation i hi l₀ hl₀
    · intro i hi l hl hcurrent
      obtain ⟨l₀, hl₀, rfl⟩ := List.mem_map.1 hl
      rw [(hf l₀).2.2.2] at hcurrent
      exact hv'.note i hi l₀ hl₀ hcurrent
    · intro i hi l hl hc
      obtain ⟨l₀, hl₀, rfl⟩ := List.mem_map.1 hl
      rw [List.mem_singleton] at hi
      rw [(hf l₀).2.2.2, honly l₀ hl₀ hc, hi, h.generation]
      exact hgeneration
    · intro l hl hc
      obtain ⟨l₀, hl₀, rfl⟩ := List.mem_map.1 hl
      exact hreason l₀ (by rw [honly l₀ hl₀ hc])
    · intro l hl l' hl' hc hc'
      obtain ⟨l₀, hl₀, rfl⟩ := List.mem_map.1 hl
      obtain ⟨l₁, hl₁, rfl⟩ := List.mem_map.1 hl'
      rw [honly l₀ hl₀ hc, honly l₁ hl₁ hc']

/-- **A step that changes the adjustment leaves no conclusion.** -/
theorem RetestStep.unconcluded {v v' : IssueView} (h : RetestStep v v') {issue issue' : Issue}
    (hi : v.rows = [issue]) (hi' : v'.rows = [issue'])
    (hnote : issue'.adjustmentNote ≠ issue.adjustmentNote) :
    ∀ l ∈ v'.links, l.conclusion = none := by
  have hsame : ∀ {i i' : Issue}, [i] = [issue] → [i'] = [issue'] → ¬KeepsAdjustment i i' := by
    rintro i i' hi hi' hkeeps
    rw [List.cons.injEq] at hi hi'
    exact hnote (by rw [← hi.1, ← hi'.1, hkeeps.note])
  cases h with
  | stays =>
    rw [hi, List.cons.injEq] at hi'
    exact absurd (by rw [hi'.1]) hnote
  | created => cases hi
  | edited _ _ _ h => exact absurd h (hsame hi hi')
  | adjusted _ _ links _ _ f hf hcleared =>
    intro l hl
    obtain ⟨l₀, hl₀, rfl⟩ := List.mem_map.1 hl
    exact hcleared l₀ hl₀
  | bound _ _ _ h => exact absurd h (hsame hi hi')
  | concluded _ _ _ h => exact absurd h (hsame hi hi')

end Issues

end Rulefolio
