import Rulefolio.Playtests.NewSessions

/-!
# Every commit is a transition

The calls of `Playtests.Call`, interleaved in any way, refine the machines of sessions and issues:
in a reachable configuration every commit of the history is a `Commit`, and the database is well
formed.

## Main results

* `Call.safe` — every call is safe.
* `committed_of_reachable`, `wellFormed_of_reachable`, `rejected_of_reachable`.
-/

namespace Rulefolio

namespace Playtests

open ReadCommitted

variable {settings : Settings} {normalizeEmail : String → Option String}

/-- **Every call is safe** in an environment that respects its locks. -/
theorem Call.safe {E : Environment Database RowKey} (hE : Respects E) (call : Call) (s : Database) :
    (call.program settings normalizeEmail).Safe E (guarantee call) (fun _ _ => True)
      (Rejected call) (Point.start s) := by
  have h : Tracks E .none (Point.start s) := .start s
  cases call with
  | createPlan => exact discard_safe (createPlan_safe _ _ hE h rfl rfl rfl _ _ _ _ _ _ _ _)
  | appendSession => exact discard_safe (appendSession_safe _ _ hE h rfl rfl rfl _ _ _ _ _ _ _)
  | updateArrangement =>
    exact discard_safe (updateArrangement_safe _ hE h rfl rfl rfl _ _ _ _ _)
  | replaceMaterials => exact discard_safe (replaceMaterials_safe _ hE h rfl rfl rfl _ _ _)
  | startSession => exact discard_safe (startSession_safe hE h rfl rfl rfl _)
  | cancelSession => exact discard_safe (cancelSession_safe _ hE h rfl rfl rfl _ _)
  | saveResult => exact discard_safe (saveResult_safe hE h rfl rfl rfl _)
  | createObservation => exact discard_safe (createObservation_safe hE h rfl rfl _ _ _)
  | updateObservation => exact discard_safe (updateObservation_safe hE h rfl rfl _ _ _)
  | confirmParticipation => exact discard_safe (confirmParticipation_safe hE h rfl rfl _ _ _)
  | createFeedbackItem => exact createFeedbackItem_safe h rfl rfl _ _ _ _ _ _ _
  | updateFeedbackItem => exact updateFeedbackItem_safe h rfl rfl _ _ _ _ _ _ _ _
  | deleteFeedbackItem => exact deleteFeedbackItem_safe h rfl rfl _ _ _ _ _
  | createFeedbackSubmission =>
    exact createFeedbackSubmission_safe h rfl rfl _ _ _ _ _ _ _ _
  | updateFeedbackSubmission => exact updateFeedbackSubmission_safe h rfl rfl _ _ _ _ _ _ _
  | saveParticipantFeedback => exact saveParticipantFeedback_safe h rfl rfl _ _ _ _ _ _ _
  | createIssue => exact createIssue_safe hE h rfl rfl _ _ _ _ _ _ _ _ _ _ _
  | updateIssue => exact updateIssue_safe hE h rfl rfl _ _ _ _ _ _ _
  | saveRetestConclusion => exact saveRetestConclusion_safe hE h rfl rfl _ _ _ _
  | addIssueEvidence => exact addIssueEvidence_safe hE h rfl rfl _ _
  | removeIssueEvidence => exact removeIssueEvidence_safe hE h rfl rfl _
  | elsewhere change => exact elsewhere_safe h rfl rfl change

variable {c : Config Database RowKey ServiceError Unit Call}

theorem safeConfig_of_reachable (h : (system settings normalizeEmail).Reachable c) :
    SafeConfig concurrent guarantee (fun _ _ _ => True) Rejected c := by
  refine sound closed_concurrent ?_ (fun call s _ => call.safe respects_environment s) h
  rintro _ rfl
  exact wellFormed_empty

/-- The database of a reachable configuration is well formed. -/
theorem wellFormed_of_reachable (h : (system settings normalizeEmail).Reachable c) :
    WellFormed c.db :=
  (safeConfig_of_reachable h).inv

/-- **Every commit is a transition** of the sessions and issues, from a well-formed database. -/
theorem committed_of_reachable (h : (system settings normalizeEmail).Reachable c)
    {e : ReadCommitted.Commit Database Call} (he : e ∈ c.history) :
    WellFormed e.before ∧ ∃ H, Commit e.op H e.before e.after := by
  obtain ⟨hbefore, n, H, -, hcommit⟩ := (safeConfig_of_reachable h).history e he
  exact ⟨hbefore, H, hcommit⟩

/-- A call that has raised had committed nothing, unless it was reading back. -/
theorem rejected_of_reachable (h : (system settings normalizeEmail).Reachable c) {i : ℕ}
    {p : Session Database RowKey ServiceError Unit Call} {error : ServiceError}
    (hi : c.sessions i = some p) (hp : p.code = .raise error) :
    p.commits = 0 ∨ p.op.readsBack = true ∧ ReadBackError error := by
  obtain ⟨s, hs⟩ := (safeConfig_of_reachable h).raised hi hp
  exact hs

/-- What a call that has not committed has in the history: nothing. -/
theorem not_mem_history (h : (system settings normalizeEmail).Reachable c) {i : ℕ}
    {p : Session Database RowKey ServiceError Unit Call} (hi : c.sessions i = some p)
    (hp : p.commits = 0) : ∀ e ∈ c.history, e.serial ≠ p.serial := by
  have hcount := (ReadCommitted.wellFormed_of_reachable h).count i p.serial p.commits
    (Config.card_of_session hi)
  rw [hp, List.countP_eq_zero] at hcount
  intro e he heq
  exact hcount e he (by simp [heq])

end Playtests

end Rulefolio
