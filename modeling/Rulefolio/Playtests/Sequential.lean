import Rulefolio.Library.Sequential
import Rulefolio.Playtests.Capacity

/-!
# Calls one after the other

The calls of `Playtests.Call` where none begins before the last one has ended. What they reach,
interleaved calls reach too.

## Main definitions

* `sequentially` — the system.
* `concluded` — a run in which an issue is adjusted, tested again and the retest concluded.
-/

namespace Rulefolio

namespace Playtests

open ReadCommitted

variable {settings : Settings} {normalizeEmail : String → Option String}

/-- Any number of calls, one after the other, on a database that is empty at first. -/
def sequentially (settings : Settings) (normalizeEmail : String → Option String) :
    TransitionSystem Database Call :=
  Tx.sequential (· = Database.empty) (Call.program settings normalizeEmail)

theorem interleaved_of_sequentially {db : Database}
    (h : (sequentially settings normalizeEmail).Reachable db) :
    ∃ c, (system settings normalizeEmail).Reachable c ∧ c.db = db :=
  Tx.reachable_of_sequential h

/-- A state that calls one after the other reach from the empty database. -/
theorem reachable_of_runs {calls : List Call} {ok : Database → Bool}
    (h : ((sequentially settings normalizeEmail).run .empty calls).any ok = true) :
    ∃ db, (sequentially settings normalizeEmail).Reachable db ∧ ok db = true := by
  obtain ⟨db, hdb, hok⟩ := (Option.any_eq_true _ _).1 h
  exact ⟨db, ⟨.empty, calls, rfl, hdb⟩, hok⟩

/-- An invariant of the runs whose calls all meet a condition. What is known of every run may be
used of the state before each call. -/
theorem restricted_induction {ok : Database → Call → Bool} {I : Database → Prop}
    (hempty : I .empty)
    (hstep : ∀ db call, (sequentially settings normalizeEmail).Reachable db → ok db call = true →
      I db → I ((call.program settings normalizeEmail).exec db).1) {db : Database}
    (h : ((sequentially settings normalizeEmail).restrict ok).Reachable db) : I db := by
  suffices H : (sequentially settings normalizeEmail).Reachable db ∧ I db from H.2
  refine TransitionSystem.Inductive.of_reachable (I := fun db =>
    (sequentially settings normalizeEmail).Reachable db ∧ I db) ⟨?_, ?_⟩ h
  · rintro _ rfl
    exact ⟨.initial rfl, hempty⟩
  · rintro db call db' ⟨hdb, hI⟩ hrestricted
    obtain ⟨hok, hcall⟩ := TransitionSystem.restrict_step_eq_some.1 hrestricted
    cases hcall
    exact ⟨hdb.step (e := call) rfl, hstep db call hdb hok hI⟩

/-! ### Sessions -/

theorem respects_alone : Respects (.alone WellFormed) where
  wellFormed h := h
  session hr _ := by rw [show _ = _ from hr]
  issue hr _ := by rw [show _ = _ from hr]
  participant hr _ hp := (show _ = _ from hr) ▸ hp
  places hr hp := (show _ = _ from hr) ▸ hp
  started hr hs := (show _ = _ from hr) ▸ hs

theorem wellFormed_of_sequentially {db : Database}
    (h : (sequentially settings normalizeEmail).Reachable db) : WellFormed db := by
  obtain ⟨c, hc, rfl⟩ := interleaved_of_sequentially h
  exact wellFormed_of_reachable hc

/-- What was started before a call is started after it. -/
theorem started_of_exec {db : Database} (hdb : WellFormed db) (call : Call) {n : Uuid}
    (hn : (db.record n).Started) :
    (((call.program settings normalizeEmail).exec db).1.record n).Started := by
  have hcommits := Tx.exec_sound (fun _ _ _ _ hs hG => hG.2.wellFormed hs) hdb
    (@Call.safe settings normalizeEmail _ respects_alone call db)
  generalize ((call.program settings normalizeEmail).exec db).1 = db' at hcommits ⊢
  induction hcommits with
  | refl => exact hn
  | tail _ hlast ih =>
    obtain ⟨-, _, _, -, hcommit⟩ := hlast
    exact (hcommit.session n).stays_started ih

/-! ### A retest -/

/-- The issue of the run, by the key it is given. -/
def slowIssue : Uuid := 300001

/-- The session in which it is tested again. -/
def retestSession : Uuid := 5000020101

/-- The retest. -/
def retestLink : Uuid := 50000301

/-- An observation shows that the game is slow. There are to be fewer stones, and a session is
planned and started to try that. -/
def retestArranged : List Call :=
  [.elsewhere workOfOne, planOfOneSeat, .startSession 8 1 10 20 sessionOfOneSeat 1,
    .createObservation (keysFrom 2000) 1 10 20 sessionOfOneSeat 2 .fact "late",
    .createIssue (keysFrom 3000) 9 1 10 20 "key" "slow" .modify "long" .opened [.observation 2000],
    .updateIssue (keysFrom 4000) 9 1 10 20 slowIssue "slow" .modify "long" (some "fewer stones")
      .opened 1,
    .createPlan (keysFrom 5000) 5 1 10 20 "again" "notes" [⟨⟨7, true⟩, "table", 1, [30], ["ada"]⟩]
      (some (slowIssue, 2)),
    .startSession 8 1 10 20 retestSession 1]

/-- The game is observed to be fast, which is linked to the issue and concluded upon. -/
def retestConcluded : List Call :=
  retestArranged ++
    [.saveResult 1 10 20 retestSession 2
        ⟨some 0, none, none, some ⟨"rules", none, "place stones", [30], none⟩, [], none⟩,
      .createObservation (keysFrom 6000) 1 10 20 retestSession 3 .fact "fast",
      .addIssueEvidence (keysFrom 7000) 1 10 20 slowIssue 3 (.observation 6000),
      .saveRetestConclusion 1 10 20 slowIssue retestLink .verified "fast" .opened 4]

end Playtests

end Rulefolio
