import Rulefolio.Playtests.Soundness

/-!
# No overbooking

A confirmation counts the confirmed participants and compares them with the capacity under the lock
of the session, and so does a change of the capacity. The participant itself is loaded before the
lock, and may be out of date by the time it is written; that a confirmation by the same account has
slipped in between only repeats what is already so.

## Main results

* `no_overbooking` — the bound, over every reachable configuration; confirmations are for good; a
  call rejected because of the bound has changed nothing.
-/

namespace Rulefolio

namespace Playtests

open ReadCommitted

variable {settings : Settings} {normalizeEmail : String → Option String}
  {c : Config Database RowKey ServiceError Unit Call}

/-! ## From records to rows -/

theorem confirmedCount_le {db : Database} (h : WellFormed db) {s : PlaytestSession}
    (hs : s ∈ db.sessions) : confirmedCount s.id db ≤ s.capacity := by
  rw [confirmedCount_eq]
  exact (h.session s.id).capacity s (mem_record_rows hs)

/-- A participant, as their record shows them. -/
theorem mem_record_participants {db : Database} {p : PlaytestSessionParticipant}
    (hp : p ∈ db.participants) : p.forgetMail ∈ (db.record p.sessionId).participants :=
  List.mem_filter.2 ⟨List.mem_map_of_mem hp, by simp [PlaytestSessionParticipant.forgetMail]⟩

/-- A participant of a record comes from a row. -/
theorem exists_of_mem_record {db : Database} {n : Uuid} {q : PlaytestSessionParticipant}
    (hq : q ∈ (db.record n).participants) :
    ∃ p ∈ db.participants, p.id = q.id ∧ p.sessionId = n ∧ p.accountId = q.accountId ∧
      p.status = q.status := by
  obtain ⟨hq, hn⟩ := List.mem_filter.1 hq
  obtain ⟨p, hp, rfl⟩ := List.mem_map.1 hq
  exact ⟨p, hp, rfl, beq_iff_eq.1 hn, rfl, rfl⟩

/-- Two rows with the same key are one row. -/
theorem participant_unique {db : Database} (h : WellFormed db) {p q : PlaytestSessionParticipant}
    (hp : p ∈ db.participants) (hq : q ∈ db.participants) (hid : p.id = q.id) : p = q := by
  have hkeys : (db.participants.map (·.id)).Nodup := by
    have := h.places
    rwa [Database.places, List.map_map] at this
  exact List.inj_on_of_nodup_map hkeys hp hq hid

/-! ## The bound -/

/-- Whoever has confirmed in one state still takes part in the other, and is confirmed there. -/
def StaysConfirmed (before after : Database) : Prop :=
  ∀ p ∈ before.participants, p.status = .confirmed →
    (∃ p' ∈ after.participants, p'.id = p.id) ∧
      ∀ p' ∈ after.participants, p'.id = p.id → p'.status = .confirmed

theorem Commit.staysConfirmed {call : Call} {H : Set (RowKey × RowLock)} {before after : Database}
    (h : Commit call H before after) (hafter : WellFormed after) : StaysConfirmed before after := by
  intro p hp hconfirmed
  obtain ⟨q, hq, hid, -, hstatus⟩ :=
    (h.session p.sessionId).stays_confirmed (mem_record_participants hp)
  obtain ⟨p', hp', hid', -, -, hstatus'⟩ := exists_of_mem_record hq
  have hpid : p'.id = p.id := hid'.trans hid
  refine ⟨⟨p', hp', hpid⟩, fun p'' hp'' hpid' => ?_⟩
  rw [participant_unique hafter hp'' hp' (hpid'.trans hpid.symm), hstatus']
  exact hstatus hconfirmed

/-- **No overbooking**, whatever the calls and their interleaving. In every reachable configuration
no session has more confirmed participants than seats; no commit takes a confirmation back; and a
call that was rejected because of the bound has committed nothing. -/
theorem no_overbooking (h : (system settings normalizeEmail).Reachable c) :
    (∀ s ∈ c.db.sessions, confirmedCount s.id c.db ≤ s.capacity) ∧
      (∀ e ∈ c.history, StaysConfirmed e.before e.after) ∧
      ∀ i p error, c.sessions i = some p → p.code = .raise error →
        error = .playtestCapacityExceeded ∨ error = .playtestCapacityBelowConfirmed →
        ∀ e ∈ c.history, e.serial ≠ p.serial := by
  refine ⟨fun s hs => confirmedCount_le (wellFormed_of_reachable h) hs, fun e he => ?_, ?_⟩
  · obtain ⟨hbefore, H, hcommit⟩ := committed_of_reachable h he
    exact hcommit.staysConfirmed (hcommit.wellFormed hbefore)
  · intro i p error hi hp herror
    refine not_mem_history h hi ?_
    rcases rejected_of_reachable h hi hp with hcommits | ⟨-, hback⟩
    · exact hcommits
    · -- Reading back does not count seats.
      rcases herror with rfl | rfl <;> rcases hback with hback | hback <;> cases hback

/-! ### The last seat -/

/-- Keys that differ by where in a call they are asked for. -/
def keysFrom (first : ℕ) : Uuids :=
  fun path => path.foldl (fun key k => 100 * key + k + 1) first

/-- An active account for each of three people, a workspace and a work with rules and a file,
maintained by the first of them. -/
def workOfOne (db : Database) : Database :=
  { db with
    accounts := [⟨1, "host", .active⟩, ⟨2, "ada", .active⟩, ⟨3, "bob", .active⟩]
    workspaces := [⟨10, "games", none, 1, 1, none, none, none, none, none⟩]
    members := [⟨10, 1⟩]
    works := [⟨20, 10, "go", "stones", "draft", "calm", 2, 2, 60, 1, some "rules", none,
      some "place stones"⟩]
    accesses := [⟨20, 10, 1, .maintainer⟩]
    files := [⟨30, 10, 20, 1, "board", "pdf", "pdf", 1, [1], "board", .ready, .material, 0, some 0⟩]
    workMaterials := [⟨20, 30⟩] }

/-- The plan of one session, with one seat for two. -/
def planOfOneSeat : Call :=
  .createPlan (keysFrom 1000) 5 1 10 20 "balance" "notes"
    [⟨⟨7, true⟩, "table", 1, [30], ["ada", "bob"]⟩] none

/-- The session of that plan, by the keys it is given. -/
def sessionOfOneSeat : Uuid := 1000020101

/-- The work and the plan are there. -/
def arranged : List (Event Call) :=
  [.call 0 (.elsewhere workOfOne)] ++ advances 0 2 ++ [.close 0, .call 0 planOfOneSeat] ++
    advances 0 49 ++ [.close 0]

/-- Both load their invitation; then one of them gets the seat. -/
def lastSeat : List (Event Call) :=
  arranged ++ [.call 0 (.confirmParticipation 6 2 sessionOfOneSeat),
    .call 1 (.confirmParticipation 6 3 sessionOfOneSeat)] ++
    advances 0 1 ++ advances 1 1 ++ advances 0 15 ++ advances 1 8

theorem lastSeat_runs :
    ((system .withoutCipher some).run (.start .empty) lastSeat).any fun c =>
      c.db.participants.map (·.status) = [.invited, .confirmed] ∧
        c.raised 1 = some .playtestCapacityExceeded := by
  decide +kernel

/-- The theorem on the run in which two account for the last seat. -/
theorem no_overbooking_lastSeat :
    ∃ c, (system .withoutCipher some).Reachable c ∧
      c.db.participants.map (·.status) = [.invited, .confirmed] ∧
      c.raised 1 = some .playtestCapacityExceeded ∧
      ∀ s ∈ c.db.sessions, confirmedCount s.id c.db ≤ s.capacity := by
  obtain ⟨c, hc, hfacts⟩ := (Option.any_eq_true _ _).1 lastSeat_runs
  have hreach : (system .withoutCipher some).Reachable c :=
    ⟨.start .empty, lastSeat, init_start _ rfl, hc⟩
  simp only [decide_eq_true_eq] at hfacts
  exact ⟨c, hreach, hfacts.1, hfacts.2, (no_overbooking hreach).1⟩

end Playtests

end Rulefolio
