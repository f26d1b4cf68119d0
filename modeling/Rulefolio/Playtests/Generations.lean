import Rulefolio.Playtests.RetestCalls
import Rulefolio.Playtests.Sequential

/-!
# Generations of retests

The current conclusion of an issue is the one whose retest has the generation of the issue. In every
interleaving there is at most one, and none from before the last adjustment.

## Main definitions

* `Issues.retests`, `Issues.RetestGenerations`.

## Main results

* `retest_generations` — generations are consistent, and an adjustment takes the conclusion away.
-/

namespace Rulefolio

namespace Issues

/-- The retests of an issue. -/
def retests (issueId : Uuid) (db : Database) : List IssueRetestLink :=
  db.retestLinks.filter (·.issueId == issueId)

/-- An issue and its retests agree about the adjustment they are about. -/
structure RetestGenerations (db : Database) (issue : Issue) : Prop where
  /-- At most one retest has a conclusion. -/
  single : (retests issue.id db).countP (·.conclusion.isSome) ≤ 1
  /-- It is about the adjustment there is, and gives a reason. -/
  current : ∀ l ∈ retests issue.id db, l.conclusion.isSome →
    l.adjustmentGeneration = issue.adjustmentGeneration ∧ issue.adjustmentNote.isSome ∧
      l.conclusionReason.isSome
  /-- No retest is ahead of its issue. -/
  bounded : ∀ l ∈ retests issue.id db, l.adjustmentGeneration ≤ issue.adjustmentGeneration

end Issues

namespace Playtests

open ReadCommitted Issues

variable {settings : Settings} {normalizeEmail : String → Option String}
  {c : Config Database RowKey ServiceError Unit Call}

/-- Of rows with different keys at most one satisfies what holds of one row only. -/
theorem countP_le_one {links : List IssueRetestLink} {p : IssueRetestLink → Bool}
    (hids : (links.map (·.id)).Nodup) (h : ∀ l ∈ links, ∀ l' ∈ links, p l → p l' → l = l') :
    links.countP p ≤ 1 := by
  rw [List.countP_eq_length_filter]
  have hnodup : (links.filter p).Nodup := (List.Nodup.of_map _ hids).filter _
  match hlinks : links.filter p, hnodup with
  | [], _ => exact Nat.zero_le 1
  | [_], _ => exact le_rfl
  | l :: l' :: rest, hnodup =>
    have hl : l ∈ links.filter p := by rw [hlinks]; simp
    have hl' : l' ∈ links.filter p := by rw [hlinks]; simp
    rw [List.mem_filter] at hl hl'
    have hsame := h l hl.1 l' hl'.1 hl.2 hl'.2
    rw [hsame] at hnodup
    simp at hnodup

theorem RetestsConsistent.generations {db : Database} (hdb : RetestsConsistent db) {issue : Issue}
    (hissue : issue ∈ db.issues) : RetestGenerations db issue := by
  have hview := hdb.issue issue.id
  have hrow : issue ∈ (issueViews.view issue.id db).rows :=
    List.mem_filter.2 ⟨hissue, beq_self_eq_true _⟩
  refine ⟨countP_le_one hview.ids hview.single, fun l hl hconclusion => ?_, ?_⟩
  · have hgeneration := hview.current issue hrow l hl hconclusion
    exact ⟨hgeneration, hview.note issue hrow l hl hgeneration, hview.reason l hl hconclusion⟩
  · exact hview.generation issue hrow

/-- **Retest generations are consistent**, whatever the calls and their interleaving: so it is in
every reachable database, and a commit that changes the adjustment note of an issue leaves none of
its retests a conclusion. -/
theorem retest_generations (h : (system settings normalizeEmail).Reachable c) :
    (∀ issue ∈ c.db.issues, RetestGenerations c.db issue) ∧
      ∀ e ∈ c.history, ∀ issue ∈ e.before.issues, ∀ issue' ∈ e.after.issues,
        issue'.id = issue.id → issue'.adjustmentNote ≠ issue.adjustmentNote →
          ∀ l ∈ retests issue.id e.after, l.conclusion = none := by
  refine ⟨fun issue => (retests_of_reachable h).generations, ?_⟩
  intro e he issue hissue issue' hissue' hid hnote
  obtain ⟨hbefore, n, H, hcommit⟩ := (safeRetests_of_reachable h).history e he
  have hafter := retestGuarantee_consistent hcommit hbefore
  have hrows := rows_eq_singleton hbefore (List.mem_filter.2 ⟨hissue, beq_self_eq_true issue.id⟩)
  have hrows' := rows_eq_singleton hafter (List.mem_filter.2 ⟨hissue', beq_self_eq_true issue'.id⟩)
  rw [hid] at hrows'
  exact (hcommit.1.step issue.id).unconcluded hrows hrows' hnote

theorem retestConcluded_runs :
    ((sequentially .withoutCipher some).run .empty retestConcluded).any fun db =>
      db.issues.map (fun i => (i.id, i.adjustmentGeneration)) = [(slowIssue, 1)] ∧
        db.retestLinks.map (fun l => (l.issueId, l.conclusion)) =
          [(slowIssue, some .verified)] := by
  decide +kernel

/-- The theorem on the run that ends with a conclusion. -/
theorem retest_generations_concluded :
    ∃ c, (system .withoutCipher some).Reachable c ∧
      (∃ l ∈ c.db.retestLinks, l.issueId = slowIssue ∧ l.conclusion = some .verified) ∧
      ∃ issue ∈ c.db.issues, issue.id = slowIssue ∧ issue.adjustmentGeneration = 1 ∧
        RetestGenerations c.db issue := by
  obtain ⟨db, hdb, hfacts⟩ := reachable_of_runs retestConcluded_runs
  obtain ⟨c, hc, rfl⟩ := interleaved_of_sequentially hdb
  simp only [decide_eq_true_eq] at hfacts
  obtain ⟨issue, hissue, hi⟩ := List.mem_map.1 (hfacts.1 ▸ List.mem_singleton_self _)
  obtain ⟨l, hl, hlink⟩ := List.mem_map.1 (hfacts.2 ▸ List.mem_singleton_self _)
  rw [Prod.mk.injEq] at hi hlink
  exact ⟨c, hc, ⟨l, hl, hlink.1, hlink.2⟩, issue, hissue, hi.1, hi.2,
    (retest_generations hc).1 issue hissue⟩

end Playtests

end Rulefolio
