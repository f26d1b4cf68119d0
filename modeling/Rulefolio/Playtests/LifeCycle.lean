import Rulefolio.Playtests.Capacity

/-!
# Life cycle of sessions

A session is started or cancelled once. From then on nobody rewrites what was agreed for it or who
takes part, and only a session that was started has results and observations. All of this is said
of `Transition`; here it is read off the tables, for every commit of every run.

## Main definitions

* `LifeStep`, `Frozen` — what a commit may do to a session.
* `RecordedOnlyIfStarted` — what there may be of a session.

## Main results

* `session_life_cycle`.
-/

namespace Rulefolio

namespace Playtests

open ReadCommitted

variable {settings : Settings} {normalizeEmail : String → Option String}
  {c : Config Database RowKey ServiceError Unit Call}

/-- The ways the status of a session may change, with the time of its start. -/
def LifeStep (s s' : PlaytestSession) : Prop :=
  s'.status = s.status ∧ s'.startedAt = s.startedAt ∨
    s.status = .scheduled ∧ s'.status = .started ∧ s'.startedAt.isSome ∨
    s.status = .scheduled ∧ s'.status = .cancelled ∧ s'.startedAt = s.startedAt

/-- Who takes part in a session, and whether they have confirmed. -/
def attendance (db : Database) (n : Uuid) : List (Uuid × Uuid × ParticipantStatus) :=
  (db.participants.filter (·.sessionId == n)).map fun p => (p.id, p.accountId, p.status)

/-- What was agreed for a session is the same in both states. -/
structure Frozen (before after : Database) (s s' : PlaytestSession) : Prop where
  arrangement : s'.arrangement = s.arrangement
  materials : after.sessionMaterials.filter (·.sessionId == s.id) =
    before.sessionMaterials.filter (·.sessionId == s.id)
  attendance : attendance after s.id = attendance before s.id

/-- Every session lives on, and is frozen once it is no longer scheduled. -/
def LivesOn (before after : Database) : Prop :=
  ∀ s ∈ before.sessions, (∃ s' ∈ after.sessions, s'.id = s.id) ∧
    ∀ s' ∈ after.sessions, s'.id = s.id →
      LifeStep s s' ∧ (s.status ≠ .scheduled → Frozen before after s s')

/-- The session with this key was started. -/
def Started (db : Database) (n : Uuid) : Prop :=
  ∃ s ∈ db.sessions, s.id = n ∧ s.status = .started

/-- The time of the start, the results and the observations belong to sessions that were started. -/
structure RecordedOnlyIfStarted (db : Database) : Prop where
  startedAt : ∀ s ∈ db.sessions, s.startedAt.isSome ↔ s.status = .started
  result : ∀ s ∈ db.sessions, s.status ≠ .started → s.withoutResult = s
  actualMaterials : ∀ m ∈ db.actualMaterials, Started db m.sessionId
  actualParticipants : ∀ p ∈ db.actualParticipants, Started db p.sessionId
  observations : ∀ o ∈ db.observations, Started db o.sessionId

/-- A session with anything to show for it was started. -/
theorem started_of_played {db : Database} (h : WellFormed db) {n : Uuid}
    (hplayed : ¬(db.record n).Unplayed) : Started db n := by
  have hsound := h.session n
  rcases List.eq_nil_or_concat (db.record n).rows with hrows | ⟨rows, s, hrows⟩
  · refine absurd ?_ hplayed
    rw [hsound.absent hrows]
    exact Record.unplayed_empty
  · have hs : s ∈ (db.record n).rows := by simp [hrows]
    obtain ⟨hmem, hid⟩ := List.mem_filter.1 hs
    refine ⟨s, hmem, by simpa using hid, ?_⟩
    by_contra hne
    exact hplayed (hsound.unplayed s hs hne)

theorem WellFormed.recordedOnlyIfStarted {db : Database} (h : WellFormed db) :
    RecordedOnlyIfStarted db where
  startedAt s hs := (h.session s.id).startedAt s (mem_record_rows hs)
  result s hs hne := ((h.session s.id).unplayed s (mem_record_rows hs) hne).rows s
    (mem_record_rows hs)
  actualMaterials m hm := started_of_played h fun hun => by
    have hmem : m ∈ (db.record m.sessionId).actualMaterials := List.mem_filter.2 ⟨hm, by simp⟩
    simp [hun.actualMaterials] at hmem
  actualParticipants p hp := started_of_played h fun hun => by
    have hmem : p ∈ (db.record p.sessionId).actualParticipants := List.mem_filter.2 ⟨hp, by simp⟩
    simp [hun.actualParticipants] at hmem
  observations o ho := started_of_played h fun hun =>
    List.countP_eq_zero.1 hun.observations o ho (by simp)

/-- No two sessions have one key. -/
theorem WellFormed.sessionKeys {db : Database} (h : WellFormed db) :
    (db.sessions.map (·.id)).Nodup := by
  refine List.nodup_iff_count_le_one.2 fun n => ?_
  have hcount : (db.sessions.map (·.id)).count n = (db.record n).rows.length := by
    rw [List.count, List.countP_map, List.countP_eq_length_filter]
    rfl
  rw [hcount]
  exact (h.session n).unique

theorem attendance_eq (db : Database) (n : Uuid) :
    attendance db n = (db.record n).participants.map fun p => (p.id, p.accountId, p.status) := by
  rw [attendance, Database.record, List.filter_map, List.map_map]
  rfl

/-- What is shown of transitions, said of rows. -/
theorem Commit.livesOn {call : Call} {H : Set (RowKey × RowLock)} {before after : Database}
    (h : Commit call H before after) (hbefore : WellFormed before) : LivesOn before after := by
  intro s hs
  have hrows := (hbefore.session s.id).rows_eq (mem_record_rows hs)
  have ht := h.session s.id
  obtain ⟨t, ht', hid, hstep⟩ := ht.status hrows
  have htmem : t ∈ after.sessions :=
    (List.mem_filter.1 (show t ∈ (after.record s.id).rows by simp [ht'])).1
  refine ⟨⟨t, htmem, hid⟩, fun s' hs' hid' => ?_⟩
  have heq : s' = t := by
    have hmem := mem_record_rows hs'
    rw [hid', ht', List.mem_singleton] at hmem
    exact hmem
  subst heq
  refine ⟨hstep, fun hstatus => ?_⟩
  obtain ⟨harrangement, hmaterials, hparticipants⟩ := ht.frozen hrows hstatus
  refine ⟨harrangement s' (by simp [ht']), hmaterials, ?_⟩
  rw [attendance_eq, attendance_eq, hparticipants]

/-- **The life cycle of sessions**, over every reachable configuration: every commit leaves every
session alive, changes its status as it may, and does not touch what is frozen; and what belongs to
sessions that were started belongs to no other. -/
theorem session_life_cycle (h : (system settings normalizeEmail).Reachable c) :
    (∀ e ∈ c.history, LivesOn e.before e.after) ∧ RecordedOnlyIfStarted c.db := by
  refine ⟨fun e he => ?_, (wellFormed_of_reachable h).recordedOnlyIfStarted⟩
  obtain ⟨hbefore, H, hcommit⟩ := committed_of_reachable h he
  exact hcommit.livesOn hbefore

/-! ### A session that was held -/

/-- The session is started and a headcount is recorded. A change of the arrangement comes too
late. -/
def heldSession : List (Event Call) :=
  arranged ++ [.call 0 (.startSession 8 1 10 20 sessionOfOneSeat 1)] ++ advances 0 15 ++
    [.close 0, .call 0 (.saveResult 1 10 20 sessionOfOneSeat 2
      ⟨some 2, some 45, some .completed, none, [⟨some 2, none, none, none⟩], none⟩)] ++
    advances 0 23 ++
    [.call 1 (.updateArrangement (keysFrom 5000)
      9 1 10 20 sessionOfOneSeat ⟨9, true⟩ "garden" 5 3)] ++
    advances 1 6

theorem heldSession_runs :
    ((system .withoutCipher some).run (.start .empty) heldSession).any fun c =>
      c.db.sessions.map (fun s => (s.status, s.revision, s.actualHeadcount, s.location)) =
          [(.started, 3, some 2, "table")] ∧
        c.raised 1 = some .playtestSessionStateInvalid := by
  decide +kernel

/-- The theorem on that run. -/
theorem session_life_cycle_heldSession :
    ∃ c, (system .withoutCipher some).Reachable c ∧
      c.db.sessions.map (fun s => (s.status, s.revision, s.actualHeadcount, s.location)) =
        [(.started, 3, some 2, "table")] ∧
      (∀ e ∈ c.history, LivesOn e.before e.after) ∧ RecordedOnlyIfStarted c.db := by
  obtain ⟨c, hc, hfacts⟩ := (Option.any_eq_true _ _).1 heldSession_runs
  have hreach : (system .withoutCipher some).Reachable c :=
    ⟨.start .empty, heldSession, init_start _ rfl, hc⟩
  simp only [decide_eq_true_eq] at hfacts
  exact ⟨c, hreach, hfacts.1, session_life_cycle hreach⟩

end Playtests

end Rulefolio
