import Mathlib.Data.List.Basic

/-!
# A session with a unit of work

A session collects the objects that are added to it, and inserts them when it is flushed. It is
flushed before every query, and before a savepoint is set.

When a flush fails inside a savepoint, what was written since the savepoint is undone, and leaving
the block ends the savepoint. When a flush fails outside, everything the transaction has written is
undone, and the session refuses every further statement until somebody rolls it back.

Each statement is given the committed state it meets. Other transactions commit in between, so two
statements may be given different ones.

## Main definitions

* `NewObject`, `UnitOfWork`.
* `UnitOfWork.flush`, `UnitOfWork.select`, `UnitOfWork.withNested`.

## Main results

* `UnitOfWork.withNested_of_refused` — a flush that fails before the savepoint.
* `UnitOfWork.withNested_add` — a new object whose flush fails behind the savepoint.
-/

/-- What a statement of a session raises. -/
inductive SessionError
  /-- A unique index or a foreign key refuses a row. -/
  | integrityError
  /-- Anything else the database refuses. -/
  | databaseError
  /-- The transaction was rolled back by a flush, and nobody has taken note of it. -/
  | pendingRollbackError
  deriving DecidableEq, Repr

/-- An object that is to be inserted. -/
structure NewObject (σ : Type) where
  /-- What the database raises, if it does not admit the row. -/
  refused : σ → Option SessionError
  insert : σ → σ

/-- A session in a transaction. -/
structure UnitOfWork (σ : Type) where
  /-- The objects that were added and are not inserted yet. -/
  pending : List (NewObject σ)
  /-- What the transaction has written, in order. -/
  written : List (σ → σ)
  /-- What it had written at each savepoint, the innermost first. -/
  savepoints : List (List (σ → σ))
  active : Bool

namespace UnitOfWork

variable {σ α β : Type}

/-- A committed state with the writes of a transaction on top. -/
def onTop (db : σ) (written : List (σ → σ)) : σ :=
  written.foldl (fun s write => write s) db

/-- What the session sees. -/
def view (s : UnitOfWork σ) (db : σ) : σ :=
  onTop db s.written

/-- The state behind a flush that has failed. -/
def undone (s : UnitOfWork σ) : UnitOfWork σ :=
  { s with
    pending := []
    written := s.savepoints.headD []
    active := false }

/-- Statements of a session. -/
abbrev Action (σ α : Type) :=
  ExceptT SessionError (StateM (UnitOfWork σ)) α

/-- The outcome of some statements. -/
def Action.outcome (a : Action σ α) (s : UnitOfWork σ) : Except SessionError α × UnitOfWork σ :=
  Id.run (StateT.run (ExceptT.run a) s)

/-! ## Statements -/

/-- Insert some objects, in order. -/
def insertAll (db : σ) : List (σ → σ) → List (NewObject σ) → Except SessionError (List (σ → σ))
  | written, [] => .ok written
  | written, o :: os =>
    match o.refused (onTop db written) with
    | some e => .error e
    | none => insertAll db (written ++ [o.insert]) os

/-- `session.add`. -/
def add (o : NewObject σ) : Action σ Unit := fun s =>
  (.ok (), { s with pending := s.pending ++ [o] })

/-- `session.flush`. -/
def flush (db : σ) : Action σ Unit := fun s =>
  if s.active then
    match insertAll db s.written s.pending with
    | .ok written => (.ok (), { s with pending := [], written := written })
    | .error e => (.error e, s.undone)
  else (.error .pendingRollbackError, s)

/-- A query. The session is flushed before it. -/
def select (db : σ) (query : σ → α) : Action σ α := do
  flush db
  fun s => (.ok (query (s.view db)), s)

/-- `SAVEPOINT`. -/
def setSavepoint : Action σ Unit := fun s =>
  (.ok (), { s with savepoints := s.written :: s.savepoints })

/-- Leave a savepoint, with what was written since. -/
def releaseSavepoint : Action σ Unit := fun s =>
  (.ok (), { s with savepoints := s.savepoints.tail })

/-- Leave a savepoint, without what was written since. -/
def rollbackToSavepoint : Action σ Unit := fun s =>
  (.ok (), ⟨[], s.savepoints.headD [], s.savepoints.tail, true⟩)

/-- `try … except …`. -/
def tryExcept (x : Action σ α) (f : SessionError → Action σ α) : Action σ α := fun s =>
  match x.outcome s with
  | (.ok a, s) => (.ok a, s)
  | (.error e, s) => (f e).outcome s

/-- `with session.begin_nested():`. The session is flushed before the savepoint is set. -/
def withNested (db : σ) (body : Action σ α) : Action σ α := do
  flush db
  setSavepoint
  tryExcept (do
    let a ← body
    flush db
    releaseSavepoint
    return a) fun e => do
      rollbackToSavepoint
      throw e

/-! ## Outcomes -/

variable {s s' : UnitOfWork σ} {db : σ}

@[simp] theorem outcome_pure (a : α) : (pure a : Action σ α).outcome s = (.ok a, s) := rfl

@[simp] theorem outcome_throw (e : SessionError) :
    (throw e : Action σ α).outcome s = (.error e, s) := rfl

theorem outcome_bind_ok {x : Action σ α} {f : α → Action σ β} {a : α}
    (h : x.outcome s = (.ok a, s')) : (x >>= f).outcome s = (f a).outcome s' := by
  have hbind : (x >>= f).outcome s =
      Id.run ((ExceptT.bindCont f (x.outcome s).1) (x.outcome s).2) := rfl
  rw [hbind, h]
  rfl

theorem outcome_bind_error {x : Action σ α} {f : α → Action σ β} {e : SessionError}
    (h : x.outcome s = (.error e, s')) : (x >>= f).outcome s = (.error e, s') := by
  have hbind : (x >>= f).outcome s =
      Id.run ((ExceptT.bindCont f (x.outcome s).1) (x.outcome s).2) := rfl
  rw [hbind, h]
  rfl

theorem outcome_tryExcept_ok {x : Action σ α} {f : SessionError → Action σ α} {a : α}
    (h : x.outcome s = (.ok a, s')) : (tryExcept x f).outcome s = (.ok a, s') := by
  show (match x.outcome s with
    | (.ok a, s) => (.ok a, s)
    | (.error e, s) => (f e).outcome s : Except SessionError α × UnitOfWork σ) = _
  rw [h]

theorem outcome_tryExcept_error {x : Action σ α} {f : SessionError → Action σ α}
    {e : SessionError} (h : x.outcome s = (.error e, s')) :
    (tryExcept x f).outcome s = (f e).outcome s' := by
  show (match x.outcome s with
    | (.ok a, s) => (.ok a, s)
    | (.error e, s) => (f e).outcome s : Except SessionError α × UnitOfWork σ) = _
  rw [h]

theorem outcome_flush_ok {written : List (σ → σ)} (hactive : s.active = true)
    (h : insertAll db s.written s.pending = .ok written) :
    (flush db).outcome s = (.ok (), { s with pending := [], written := written }) := by
  show (if s.active then _ else _) = _
  rw [if_pos hactive, h]

theorem outcome_flush_error {e : SessionError} (hactive : s.active = true)
    (h : insertAll db s.written s.pending = .error e) :
    (flush db).outcome s = (.error e, s.undone) := by
  show (if s.active then _ else _) = _
  rw [if_pos hactive, h]

theorem outcome_flush_inactive (h : s.active = false) :
    (flush db).outcome s = (.error .pendingRollbackError, s) := by
  show (if s.active then _ else _) = _
  rw [if_neg (by rw [h]; exact Bool.false_ne_true)]

/-- A flush that has gone through leaves nothing pending. -/
theorem of_outcome_flush {u : Unit} (h : (flush db).outcome s = (.ok u, s')) :
    s.active = true ∧ s'.active = true ∧ s'.pending = [] ∧ s'.savepoints = s.savepoints ∧
      insertAll db s.written s.pending = .ok s'.written := by
  cases hactive : s.active with
  | false =>
    rw [outcome_flush_inactive hactive] at h
    cases h
  | true =>
    cases hinsert : insertAll db s.written s.pending with
    | error e =>
      rw [outcome_flush_error hactive hinsert] at h
      cases h
    | ok written =>
      rw [outcome_flush_ok hactive hinsert] at h
      cases h
      exact ⟨rfl, hactive, rfl, rfl, rfl⟩

/-- A flush that goes through writes the new objects behind what was written. -/
theorem written_of_insertAll {written written' : List (σ → σ)} {os : List (NewObject σ)}
    (h : insertAll db written os = .ok written') : written' = written ++ os.map (·.insert) := by
  induction os generalizing written with
  | nil =>
    cases h
    exact (List.append_nil _).symm
  | cons o os ih =>
    rw [insertAll] at h
    cases hrefused : o.refused (onTop db written) with
    | some e =>
      rw [hrefused] at h
      cases h
    | none =>
      rw [hrefused] at h
      rw [ih h, List.append_assoc]
      rfl

/-- A session that refuses every statement refuses a query. -/
theorem outcome_select_inactive {query : σ → α} (h : s.active = false) :
    (select db query).outcome s = (.error .pendingRollbackError, s) :=
  outcome_bind_error (outcome_flush_inactive h)

theorem of_outcome_select {query : σ → α} {a : α} (h : (select db query).outcome s = (.ok a, s')) :
    (flush db).outcome s = (.ok (), s') ∧ a = query (s'.view db) := by
  cases hflush : (flush db).outcome s with
  | mk result t =>
    cases result with
    | error e =>
      rw [select, outcome_bind_error hflush] at h
      cases h
    | ok u =>
      rw [select, outcome_bind_ok hflush] at h
      cases h
      exact ⟨rfl, rfl⟩

/-! ## Objects that are refused -/

/-- **An object that was added before the block.** It is inserted before the savepoint is set, so the
whole transaction is undone, and the session stays inactive. -/
theorem withNested_of_refused {o : NewObject σ} {e : SessionError} (db : σ) (body : Action σ α)
    (hactive : s.active = true) (hpending : s.pending = [o])
    (h : o.refused (s.view db) = some e) :
    (withNested db body).outcome s = (.error e, s.undone) := by
  refine outcome_bind_error (outcome_flush_error hactive ?_)
  rw [hpending, insertAll, ← view, h]

/-- **An object that is added inside the block.** What was written since the savepoint is undone, and
the session stays active. -/
theorem withNested_add {o : NewObject σ} {e : SessionError} (db : σ) (a : α) (hactive : s.active = true)
    (hpending : s.pending = []) (h : o.refused (s.view db) = some e) :
    (withNested db (do add o; flush db; return a)).outcome s = (.error e, s) := by
  obtain ⟨pending, written, savepoints, active⟩ := s
  obtain rfl : active = true := hactive
  obtain rfl : pending = [] := hpending
  have hrefused : insertAll db written [o] = .error e := by
    rw [insertAll]
    have hview : o.refused (onTop db written) = some e := h
    rw [hview]
  have hflush : (flush db).outcome ⟨[o], written, written :: savepoints, true⟩ =
      (.error e, ⟨[], written, written :: savepoints, false⟩) :=
    outcome_flush_error rfl hrefused
  have hblock : (do add o; flush db; return a : Action σ α).outcome
      ⟨[], written, written :: savepoints, true⟩ =
      (.error e, ⟨[], written, written :: savepoints, false⟩) :=
    (outcome_bind_ok (show (add o).outcome ⟨[], written, written :: savepoints, true⟩ =
      (.ok (), ⟨[o], written, written :: savepoints, true⟩) from rfl)).trans
      (outcome_bind_error hflush)
  refine (outcome_bind_ok (outcome_flush_ok rfl rfl)).trans ?_
  refine (outcome_bind_ok (show setSavepoint.outcome ⟨[], written, savepoints, true⟩ =
    (.ok (), ⟨[], written, written :: savepoints, true⟩) from rfl)).trans ?_
  exact (outcome_tryExcept_error (outcome_bind_error hblock)).trans rfl

end UnitOfWork
