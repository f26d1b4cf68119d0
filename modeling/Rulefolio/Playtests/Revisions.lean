import Rulefolio.Playtests.LifeCycle

/-!
# Revisions linearise

The calls that carry an expected revision, of a session or of an issue, are ordered by it. Each
commit of one finds the revision it expects and raises it by one, and nothing else changes the row;
so the committed revisions of a row form a chain, and no two commits expect the same one.

A call that is rejected has committed nothing, with one exception. Seven calls read back what they
have committed, and check the caller once more for it. When the caller has lost access in between,
or what is read is gone, the call raises although it has committed.

## Main definitions

* `Versioned` — a table with revisions, and the calls that expect them.
* `Versioned.Step`, `Versioned.Linear` — the order of the commits.

## Main results

* `revisions_linearise`.
* `startSession_forbidden` — the exception.
-/

namespace Rulefolio

namespace Playtests

open ReadCommitted

variable {ρ : Type} {settings : Settings} {normalizeEmail : String → Option String}
  {c : Config Database RowKey ServiceError Unit Call}

/-! ## Tables with revisions -/

/-- A table whose rows have revisions, and the row and revision each call expects. -/
structure Versioned (ρ : Type) where
  rows : Uuid → Database → List ρ
  revision : ρ → ℕ
  expects : Call → Option (Uuid × ℤ)

/-- `playtest_sessions`. -/
def sessionVersions : Versioned PlaytestSession where
  rows key db := db.sessions.filter (·.id == key)
  revision := (·.revision)
  expects := Call.sessionRevision

/-- `issues`. -/
def issueVersions : Versioned Issue where
  rows key db := db.issues.filter (·.id == key)
  revision := (·.revision)
  expects := Call.issueRevision

namespace Versioned

/-- What a commit does to the rows with one key. If its call expects a revision of the row, the
commit finds the row at this revision and raises it by one. Otherwise it leaves the row alone, or
creates it with revision one. -/
def Step (v : Versioned ρ) : Option ℤ → List ρ → List ρ → Prop
  | none, rows, rows' => rows' = rows ∨ rows = [] ∧ ∀ row ∈ rows', v.revision row = 1
  | some expectedRevision, rows, rows' => ∃ row row', rows = [row] ∧ rows' = [row'] ∧
      (v.revision row : ℤ) = expectedRevision ∧ v.revision row' = v.revision row + 1

/-- The order that expected revisions give to the commits of a history. -/
structure Linear (v : Versioned ρ) (history : List (ReadCommitted.Commit Database Call)) :
    Prop where
  /-- The committed revisions of a row form a chain. -/
  chain : ∀ e ∈ history, ∀ key,
    v.Step (expected (v.expects e.op) key) (v.rows key e.before) (v.rows key e.after)
  /-- No two commits expect the same revision of the same row. -/
  once : history.Pairwise fun e e' =>
    ∀ target, v.expects e.op = some target → v.expects e'.op ≠ some target

/-- The revision of a row has reached this number. -/
def Reached (v : Versioned ρ) (key : Uuid) (n : ℕ) (db : Database) : Prop :=
  ∃ row, v.rows key db = [row] ∧ n ≤ v.revision row

/-- Revisions never fall. -/
theorem Reached.step {v : Versioned ρ} {label : Option ℤ} {key : Uuid} {n : ℕ}
    {before after : Database} (hn : v.Reached key n before)
    (h : v.Step label (v.rows key before) (v.rows key after)) : v.Reached key n after := by
  obtain ⟨row, hrow, hle⟩ := hn
  cases label with
  | none =>
    rcases h with hsame | ⟨hnil, -⟩
    · exact ⟨row, hsame.trans hrow, hle⟩
    · rw [hrow] at hnil
      cases hnil
  | some expectedRevision =>
    obtain ⟨old, new, hold, hnew, -, hraised⟩ := h
    obtain rfl : old = row := by
      rw [hrow] at hold
      exact (List.singleton_inj.1 hold).symm
    exact ⟨new, hnew, by omega⟩

/-- **A revision that one commit has raised is not there for another.** -/
theorem linear_of_chain {v : Versioned ρ} {s₀ s : Database}
    {history : List (ReadCommitted.Commit Database Call)}
    (hlinked : ReadCommitted.Linked s₀ history s)
    (hchain : ∀ e ∈ history, ∀ key,
      v.Step (expected (v.expects e.op) key) (v.rows key e.before) (v.rows key e.after)) :
    v.Linear history := by
  refine ⟨hchain, ?_⟩
  have hpairs := hlinked.pairwise
    (R := fun db db' => ∀ key n, v.Reached key n db → v.Reached key n db')
    (fun _ _ _ h => h) (fun _ _ _ h h' key n hn => h' key n (h key n hn))
    fun e he key n hn => hn.step (hchain e he key)
  refine hpairs.imp_of_mem fun {e e'} he he' hreached target htarget htarget' => ?_
  obtain ⟨key, expectedRevision⟩ := target
  have hlater := hchain e he key
  rw [htarget, expected_self] at hlater
  have hearlier := hchain e' he' key
  rw [htarget', expected_self] at hearlier
  obtain ⟨row, -, hrow, -, hrevision, -⟩ := hlater
  obtain ⟨old, new, -, hnew, hold, hraised⟩ := hearlier
  obtain ⟨row', hrow', hle⟩ := hreached key (v.revision new) ⟨new, hnew, le_rfl⟩
  -- The earlier commit has left a higher revision than the later one finds.
  obtain rfl : row = row' := by
    rw [hrow] at hrow'
    exact List.singleton_inj.1 hrow'
  omega

end Versioned

/-! ## Sessions and issues -/

theorem Transition.step {label : Option ℤ} {r r' : Record} (h : Transition label r r') :
    sessionVersions.Step label r.rows r'.rows := by
  cases label with
  | none =>
    cases h with
    | stays => exact .inl rfl
    | created _ s hnew =>
      refine .inr ⟨rfl, fun row hrow => ?_⟩
      rw [hnew.rows, List.mem_singleton] at hrow
      rw [hrow]
      exact hnew.revision
    | confirmed => exact .inl rfl
  | some expectedRevision =>
    obtain ⟨s, s', hs, hs', -, hrevision, hraised⟩ := h.revision
    exact ⟨s, s', hs, hs', hrevision, hraised⟩

theorem IssueTransition.step {label : Option ℤ} {rows rows' : List Issue}
    (h : IssueTransition label rows rows') : issueVersions.Step label rows rows' := by
  cases h with
  | stays => exact .inl rfl
  | created issue hrevision =>
    refine .inr ⟨rfl, fun row hrow => ?_⟩
    rw [List.mem_singleton] at hrow
    rw [hrow]
    exact hrevision
  | revised issue issue' _ hrevision => exact ⟨issue, issue', rfl, rfl, rfl, hrevision⟩

/-- A call has been rejected: it has raised, and not while it read back what it had committed. -/
def RejectedAt (c : Config Database RowKey ServiceError Unit Call) (i : ℕ)
    (p : Session Database RowKey ServiceError Unit Call) : Prop :=
  c.sessions i = some p ∧ ∃ error, p.code = .raise error ∧
    ¬(p.op.readsBack = true ∧ ReadBackError error)

/-- **Revisions linearise**, whatever the calls and their interleaving: in every reachable
configuration the history of commits is ordered by the expected revisions, for sessions and for
issues, and a rejected call has no part in it. -/
theorem revisions_linearise (h : (system settings normalizeEmail).Reachable c) :
    ReadCommitted.Linked .empty c.history c.db ∧ sessionVersions.Linear c.history ∧
      issueVersions.Linear c.history ∧
      ∀ i p, RejectedAt c i p → ∀ e ∈ c.history, e.serial ≠ p.serial := by
  obtain ⟨_, rfl, hlinked⟩ := (ReadCommitted.wellFormed_of_reachable h).linked
  refine ⟨hlinked, Versioned.linear_of_chain hlinked fun e he key => ?_,
    Versioned.linear_of_chain hlinked fun e he key => ?_, ?_⟩
  · obtain ⟨-, H, hcommit⟩ := committed_of_reachable h he
    exact (hcommit.session key).step
  · obtain ⟨-, H, hcommit⟩ := committed_of_reachable h he
    exact (hcommit.issue key).step
  · rintro i p ⟨hi, error, hp, hnot⟩
    refine not_mem_history h hi ?_
    rcases rejected_of_reachable h hi hp with hcommits | hback
    · exact hcommits
    · exact absurd hback hnot

/-! ### Two calls that expect the same revision -/

/-- A session is being started and cancelled. Both calls expect revision one. -/
def startedOrCancelled : List (Event Call) :=
  arranged ++ [.call 0 (.startSession 8 1 10 20 sessionOfOneSeat 1),
    .call 1 (.cancelSession (keysFrom 5000) 8 1 10 20 sessionOfOneSeat 1)] ++
    advances 1 2 ++ advances 0 8 ++ advances 1 4

theorem startedOrCancelled_runs :
    ((system .withoutCipher some).run (.start .empty) startedOrCancelled).any fun c =>
      c.db.sessions.map (fun s => (s.status, s.revision)) = [(.started, 2)] ∧
        c.raised 1 = some .playtestSessionRevisionConflict := by
  decide +kernel

/-- The theorem on this run, in which the session is started. -/
theorem revisions_linearise_startedOrCancelled :
    ∃ c, (system .withoutCipher some).Reachable c ∧
      c.db.sessions.map (fun s => (s.status, s.revision)) = [(.started, 2)] ∧
      c.raised 1 = some .playtestSessionRevisionConflict ∧ sessionVersions.Linear c.history := by
  obtain ⟨c, hc, hfacts⟩ := (Option.any_eq_true _ _).1 startedOrCancelled_runs
  have hreach : (system .withoutCipher some).Reachable c :=
    ⟨.start .empty, startedOrCancelled, init_start _ rfl, hc⟩
  simp only [decide_eq_true_eq] at hfacts
  exact ⟨c, hreach, hfacts.1, hfacts.2, (revisions_linearise hreach).2.1⟩

/-! ### A call that raises after its commit -/

/-- The work is handed over to another maintainer. -/
def handedOver (db : Database) : Database :=
  { db with
    members := [⟨10, 2⟩, ⟨10, 1⟩]
    accesses := [⟨20, 10, 2, .maintainer⟩, ⟨20, 10, 1, .collaborator⟩] }

/-- The work is handed over after the commit of `start_session`, before it reads back. -/
def startedByFormer : List (Event Call) :=
  arranged ++ [.call 0 (.startSession 8 1 10 20 sessionOfOneSeat 1)] ++ advances 0 8 ++
    [.call 1 (.elsewhere handedOver)] ++ advances 1 2 ++ advances 0 2

theorem startedByFormer_runs :
    ((system .withoutCipher some).run (.start .empty) startedByFormer).any fun c =>
      c.raised 0 = some .playtestManagementForbidden ∧
        ∃ e ∈ c.history, (c.sessions 0).map (·.serial) = some e.serial ∧
          e.before.sessions.map (fun s => (s.status, s.revision)) = [(.scheduled, 1)] ∧
          e.after.sessions.map (fun s => (s.status, s.revision)) = [(.started, 2)] := by
  decide +kernel

/-- A call raises for lost access, and has started the session. -/
theorem startSession_forbidden :
    ∃ c i p e, (system .withoutCipher some).Reachable c ∧ c.sessions i = some p ∧
      p.code = .raise .playtestManagementForbidden ∧ e ∈ c.history ∧ e.serial = p.serial ∧
      e.before.sessions.map (fun s => (s.status, s.revision)) = [(.scheduled, 1)] ∧
      e.after.sessions.map (fun s => (s.status, s.revision)) = [(.started, 2)] := by
  obtain ⟨c, hc, hfacts⟩ := (Option.any_eq_true _ _).1 startedByFormer_runs
  simp only [decide_eq_true_eq] at hfacts
  obtain ⟨hraised, e, he, hserial, hbefore, hafter⟩ := hfacts
  obtain ⟨p, hp, hcode⟩ := Config.raised_eq_some.1 hraised
  rw [hp, Option.map_some, Option.some.injEq] at hserial
  exact ⟨c, 0, p, e, ⟨.start .empty, startedByFormer, init_start _ rfl, hc⟩, hp, hcode, he,
    hserial.symm, hbefore, hafter⟩

end Playtests

end Rulefolio
