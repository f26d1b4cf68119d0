import Rulefolio.Notifications.Following
import Rulefolio.Playtests.Footprint
import Rulefolio.Playtests.Sequential

/-!
# Todos over runs

The calls of `Playtests.Call`, one after the other, together with `complete_todo`. Of the other
packages take part the transactions that leave todos alone: none of them creates or ends a todo
about a session or an issue.

## Main definitions

* `Operation`, `todoSystem` — the system.

## Main results

* `todo_induction` — an invariant of the runs whose operations all meet a condition.
-/

namespace Rulefolio

namespace Playtests

variable {settings : Settings} {normalizeEmail : String → Option String}

/-- The call, with a transaction of another package kept from changing todos. -/
def Call.sparesTodos : Call → Call
  | .elsewhere change => .elsewhere fun db => { change db with todos := db.todos }
  | call => call

/-- A call, or `complete_todo` by a recipient. -/
inductive Operation
  | call (c : Call)
  | completeTodo (now : Timestamp) (recipientId todoId : Uuid)

/-- The code of an operation. -/
def Operation.program (settings : Settings) (normalizeEmail : String → Option String) :
    Operation → Program Unit
  | .call c => c.sparesTodos.program settings normalizeEmail
  | .completeTodo now recipientId todoId => Notifications.completeTodo now recipientId todoId

/-- Any number of operations, one after the other, on a database that is empty at first. -/
def todoSystem (settings : Settings) (normalizeEmail : String → Option String) :
    TransitionSystem Database Operation :=
  Tx.sequential (· = Database.empty) (Operation.program settings normalizeEmail)

/-- What `complete_todo` leaves behind. -/
theorem completeTodo_exec (now : Timestamp) (recipientId todoId : Uuid) (db : Database) :
    Notifications.Fewer db ((Notifications.completeTodo now recipientId todoId).exec db).1 :=
  (Notifications.completeTodo_fewer now recipientId todoId).exec Notifications.Fewer.refl
    Notifications.Fewer.trans db

/-- What the operations reach, the calls reach: `complete_todo` is a transaction elsewhere. -/
theorem sequentially_of_todoSystem {db : Database}
    (h : (todoSystem settings normalizeEmail).Reachable db) :
    (sequentially settings normalizeEmail).Reachable db := by
  refine TransitionSystem.Inductive.of_reachable
    (I := (sequentially settings normalizeEmail).Reachable) ⟨?_, ?_⟩ h
  · rintro _ rfl
    exact .initial rfl
  · rintro db op _ hdb hstep
    cases hstep
    cases op with
    | call c => exact hdb.step (e := c.sparesTodos) rfl
    | completeTodo now recipientId todoId =>
      refine hdb.step (e := .elsewhere fun db =>
        ((Notifications.completeTodo now recipientId todoId).exec db).1) ?_
      have hrest := (completeTodo_exec now recipientId todoId db).rest
      show some (keepPlaytests db ((Notifications.completeTodo now recipientId todoId).exec db).1) =
        some ((Notifications.completeTodo now recipientId todoId).exec db).1
      rw [hrest]
      rfl

/-- **An invariant of the runs whose operations all meet a condition.** The database before each of
them is well formed. -/
theorem todo_induction {ok : Database → Operation → Bool} {I : Database → Prop}
    (hempty : I .empty)
    (hstep : ∀ db op, WellFormed db → ok db op = true → I db →
      I ((op.program settings normalizeEmail).exec db).1) {db : Database}
    (h : ((todoSystem settings normalizeEmail).restrict ok).Reachable db) :
    WellFormed db ∧ I db := by
  suffices H : (todoSystem settings normalizeEmail).Reachable db ∧ I db from
    ⟨wellFormed_of_sequentially (sequentially_of_todoSystem H.1), H.2⟩
  refine TransitionSystem.Inductive.of_reachable (I := fun db =>
    (todoSystem settings normalizeEmail).Reachable db ∧ I db) ⟨?_, ?_⟩ h
  · rintro _ rfl
    exact ⟨.initial rfl, hempty⟩
  · rintro db op db' ⟨hdb, hI⟩ hrestricted
    obtain ⟨hok, hop⟩ := TransitionSystem.restrict_step_eq_some.1 hrestricted
    cases hop
    exact ⟨hdb.step (e := op) rfl,
      hstep db op (wellFormed_of_sequentially (sequentially_of_todoSystem hdb)) hok hI⟩

/-- A state that operations one after the other reach from the empty database. -/
theorem todos_of_runs (ok : Database → Operation → Bool) (ops : List Operation)
    (p : Database → Bool)
    (h : (((todoSystem settings normalizeEmail).restrict ok).run .empty ops).any p = true) :
    ∃ db, ((todoSystem settings normalizeEmail).restrict ok).Reachable db ∧ p db = true := by
  obtain ⟨db, hdb, hp⟩ := (Option.any_eq_true _ _).1 h
  exact ⟨db, ⟨.empty, ops, rfl, hdb⟩, hp⟩

/-- What another package does to the rest of the database. -/
theorem Call.sparesTodos_elsewhere {c : Call} {change : Database → Database}
    (h : c.sparesTodos = .elsewhere change) (db : Database) : (change db).todos = db.todos := by
  cases c with
  | elsewhere change' =>
    cases h
    rfl
  | _ => cases h

end Playtests

end Rulefolio
