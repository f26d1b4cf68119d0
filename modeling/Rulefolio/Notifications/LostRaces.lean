import Rulefolio.Identity.Service
import Rulefolio.Library.Returns
import Rulefolio.Library.UnitOfWork

/-!
# A row that somebody else was first to insert

`create_todo` and `get_or_create_invitation_account` look for a row, insert it where there is none,
and read it again when the unique index turns out to be taken. Both set a savepoint for the insert.
`create_todo` adds the new object to the session before it sets the savepoint. The session flushes
before it does, so the insert happens outside of it, and when that fails the whole transaction is
undone and the second look is refused.

The two functions are given here in terms of the session. `Notifications.createTodo` and
`Identity.getOrCreateInvitationAccount` say what they come to inside a transaction.

## Main definitions

* `LostRaces.createTodo`, `LostRaces.getOrCreateInvitationAccount`.
* `LostRaces.Raced`, `LostRaces.Harmless`.

## Main results

* `LostRaces.create_todo_race_harms` — losing the race loses the transaction.
* `LostRaces.invitation_account_race_harmless` — the same race for an account does no harm.
* `LostRaces.createTodo_refined` — without a race the two models of `create_todo` agree.
-/

namespace Rulefolio

namespace LostRaces

open UnitOfWork

/-! ## The two functions -/

/-- The clause by which `create_todo` looks for a todo. -/
def findTodo (todo : NotificationTodo) (db : Database) : Option NotificationTodo :=
  db.todos.find? fun t => Notifications.sameSource todo t && exitAllowsWrite none t.workspaceId db

/-- The new row of `create_todo`. The policy is checked before the unique indexes. -/
def todoObject (todo : NotificationTodo) : NewObject Database where
  refused db :=
    if !exitAllowsWrite none todo.workspaceId db then some .databaseError
    else if db.todos.any fun t => t.id == todo.id || Notifications.sameSource todo t then
      some .integrityError
    else none
  insert db := { db with todos := todo :: db.todos }

/-- `create_todo`, whose three statements meet three committed states. -/
def createTodo (todo : NotificationTodo) (atLookup atInsert atReread : Database) :
    Action Database (Uuid × Bool) := do
  match ← select atLookup (findTodo todo) with
  | some existing => return (existing.id, false)
  | none => do
    add (todoObject todo)
    tryExcept (do
      withNested atInsert (flush atInsert)
      return (todo.id, true)) fun
      | .integrityError => do
        match ← select atReread (findTodo todo) with
        | some existing => return (existing.id, false)
        | none => throw .integrityError
      | e => throw e

/-- The new row of `get_or_create_invitation_account`. -/
def accountObject (account : Account) : NewObject Database where
  refused db :=
    if db.accounts.any fun a => a.id == account.id || a.email == account.email then
      some .integrityError
    else none
  insert db := { db with accounts := account :: db.accounts }

/-- `get_or_create_invitation_account`, for an address that is normalised. Its `RuntimeError` is
that of the session. -/
def getOrCreateInvitationAccount (newId : Uuid) (email : String)
    (atLookup atInsert atReread : Database) : Action Database Account := do
  let find (db : Database) : Option Account := db.accounts.find? (·.email == email)
  match ← select atLookup find with
  | some account => return account
  | none =>
    let account : Account := ⟨newId, email, .pendingActivation⟩
    tryExcept (withNested atInsert (do
      add (accountObject account)
      flush atInsert
      return account)) fun
      | .integrityError => do
        match ← select atReread find with
        | some account => return account
        | none => throw .databaseError
      | e => throw e

/-! ## The race -/

variable {todo : NotificationTodo} {s : UnitOfWork Database}
  {atLookup atInsert atReread : Database}

/-- The lookup finds nothing, and at the insert there is a todo with the same source. -/
def Raced (todo : NotificationTodo) (s : UnitOfWork Database) (atLookup atInsert : Database) :
    Prop :=
  ∃ t, (select atLookup (findTodo todo)).outcome s = (.ok none, t) ∧
    ∃ rival ∈ (t.view atInsert).todos, Notifications.sameSource todo rival = true

/-- Every earlier write is still there, and can be committed. -/
def KeepsWrites (s t : UnitOfWork Database) : Prop :=
  t.active = true ∧ s.written ++ s.pending.map (·.insert) <+: t.written ++ t.pending.map (·.insert)

/-- The existing todo is returned, and the earlier writes are kept. -/
def Harmless (todo : NotificationTodo) (s : UnitOfWork Database)
    (atLookup atInsert atReread : Database) : Prop :=
  ∃ existing t, (createTodo todo atLookup atInsert atReread).outcome s =
      (.ok (existing, false), t) ∧
    (∃ row ∈ (t.view atReread).todos, row.id = existing ∧
      Notifications.sameSource todo row = true) ∧ KeepsWrites s t

theorem refused_of_rival {db : Database} {rival : NotificationTodo} (hrival : rival ∈ db.todos)
    (hsource : Notifications.sameSource todo rival = true) :
    ∃ e, (todoObject todo).refused db = some e := by
  rw [todoObject]
  dsimp only
  split
  · exact ⟨_, rfl⟩
  · rw [if_pos (List.any_eq_true.2 ⟨rival, hrival, by rw [hsource, Bool.or_true]⟩)]
    exact ⟨_, rfl⟩

/-- Who loses the race is left with an inactive session that has written nothing since the savepoint
around it, if there is one. -/
theorem createTodo_of_raced (atReread : Database) (h : Raced todo s atLookup atInsert) :
    ∃ e t, (createTodo todo atLookup atInsert atReread).outcome s = (.error e, t) ∧
      t.active = false ∧ t.pending = [] ∧ t.written = s.savepoints.headD [] := by
  obtain ⟨u, hlookup, rival, hrival, hsource⟩ := h
  obtain ⟨hflush, -⟩ := of_outcome_select hlookup
  obtain ⟨-, hactive, hpending, hsavepoints, -⟩ := of_outcome_flush hflush
  obtain ⟨e, he⟩ := refused_of_rival hrival hsource
  have hadd : (add (todoObject todo)).outcome u =
      (.ok (), { u with pending := [todoObject todo] }) := by
    show (Except.ok (), { u with pending := u.pending ++ [todoObject todo] }) = _
    rw [hpending, List.nil_append]
  have hnested := withNested_of_refused (s := { u with pending := [todoObject todo] }) atInsert
    (flush atInsert) hactive rfl he
  rw [createTodo, outcome_bind_ok hlookup]
  dsimp only
  rw [outcome_bind_ok hadd, outcome_tryExcept_error (outcome_bind_error hnested)]
  have hstate : ({ u with pending := [todoObject todo] } : UnitOfWork Database).undone.written =
      s.savepoints.headD [] := by
    rw [← hsavepoints]
    rfl
  cases e with
  | integrityError =>
    refine ⟨.pendingRollbackError, _, outcome_bind_error (outcome_select_inactive ?_), rfl, rfl,
      hstate⟩
    rfl
  | databaseError => exact ⟨_, _, rfl, rfl, rfl, hstate⟩
  | pendingRollbackError => exact ⟨_, _, rfl, rfl, rfl, hstate⟩

/-- **Losing the race is never harmless.** Whatever the transaction has written before, and whatever
the second look would find, `create_todo` raises, the session refuses to go on, and outside of
another savepoint nothing that was written is left. -/
theorem create_todo_race_harms (todo : NotificationTodo) (s : UnitOfWork Database)
    (atLookup atInsert atReread : Database) (h : Raced todo s atLookup atInsert) :
    ¬ Harmless todo s atLookup atInsert atReread ∧
      ∃ e t, (createTodo todo atLookup atInsert atReread).outcome s = (.error e, t) ∧
        t.active = false ∧ t.pending = [] ∧ t.written = s.savepoints.headD [] := by
  have hlost := createTodo_of_raced atReread h
  refine ⟨?_, hlost⟩
  rintro ⟨existing, t, houtcome, -⟩
  obtain ⟨e, t', herror, -⟩ := hlost
  rw [houtcome] at herror
  cases herror

/-- A workspace, and nothing else. -/
def oneWorkspace : Database :=
  { Database.empty with
    workspaces := [⟨2, "games", none, 7, 7, none, none, none, none, none⟩] }

/-- The todo about an issue that two calls create at once, each with its own identifier. -/
def issueTodo (id : Uuid) : NotificationTodo :=
  Notifications.todoRow id 7 2 (some 5) .issueOpened .issue 3 (.issueOpen 3 1) "too long" "go"

/-- The other call has committed. -/
def rivalCommitted : Database :=
  { oneWorkspace with todos := [issueTodo 31] }

/-- A transaction that has added a member to the workspace. -/
def memberAdded : UnitOfWork Database :=
  ⟨[], [fun db => { db with members := ⟨2, 8⟩ :: db.members }], [], true⟩

theorem memberAdded_raced : Raced (issueTodo 30) memberAdded oneWorkspace rivalCommitted :=
  ⟨memberAdded, rfl, issueTodo 31, by decide +kernel, by decide +kernel⟩

/-- The theorem at this race. -/
theorem create_todo_race_harms_memberAdded :
    ¬ Harmless (issueTodo 30) memberAdded oneWorkspace rivalCommitted rivalCommitted ∧
      ∃ e t, (createTodo (issueTodo 30) oneWorkspace rivalCommitted rivalCommitted).outcome
          memberAdded = (.error e, t) ∧
        t.active = false ∧ t.pending = [] ∧ t.written = memberAdded.savepoints.headD [] :=
  create_todo_race_harms (issueTodo 30) memberAdded _ _ _ memberAdded_raced

/-- The member is lost, although the second look could have found the todo. -/
theorem memberAdded_lost :
    Raced (issueTodo 30) memberAdded oneWorkspace rivalCommitted ∧
      ((findTodo (issueTodo 30) rivalCommitted).map (·.id)) = some 31 ∧
      ¬ Harmless (issueTodo 30) memberAdded oneWorkspace rivalCommitted rivalCommitted := by
  refine ⟨memberAdded_raced, by decide +kernel, ?_⟩
  rintro ⟨existing, t, houtcome, -⟩
  obtain ⟨e, t', herror, -⟩ := createTodo_of_raced rivalCommitted memberAdded_raced
  rw [houtcome] at herror
  cases herror

/-! ## The account of an invitation -/

/-- **The same race for an account does no harm.** Where the lookup finds none and another transaction
has committed one by the time of the insert, the second look returns it, and every earlier write is
kept. -/
theorem invitation_account_race_harmless (newId : Uuid) (email : String)
    {account rival : Account} {t : UnitOfWork Database}
    (hlookup : (select atLookup fun db : Database => db.accounts.find? (·.email == email)).outcome s =
      (.ok none, t))
    (hrival : rival ∈ (t.view atInsert).accounts) (hemail : rival.email = email)
    (hreread : (t.view atReread).accounts.find? (·.email == email) = some account) :
    (getOrCreateInvitationAccount newId email atLookup atInsert atReread).outcome s =
      (.ok account, t) ∧ KeepsWrites s t := by
  obtain ⟨hflush, -⟩ := of_outcome_select hlookup
  obtain ⟨-, hactive, hpending, -, hinsert⟩ := of_outcome_flush hflush
  have hrefused : (accountObject ⟨newId, email, .pendingActivation⟩).refused (t.view atInsert) =
      some .integrityError := by
    rw [accountObject]
    exact if_pos (List.any_eq_true.2 ⟨rival, hrival, by
      rw [beq_iff_eq.2 hemail, Bool.or_true]⟩)
  have hnested := withNested_add atInsert (⟨newId, email, .pendingActivation⟩ : Account)
    hactive hpending hrefused
  have hselect : (select atReread fun db : Database =>
      db.accounts.find? (·.email == email)).outcome t = (.ok (some account), t) := by
    obtain ⟨pending, written, savepoints, active⟩ := t
    obtain rfl : active = true := hactive
    obtain rfl : pending = [] := hpending
    rw [← hreread]
    exact outcome_bind_ok (outcome_flush_ok rfl rfl)
  constructor
  · rw [getOrCreateInvitationAccount, outcome_bind_ok hlookup]
    dsimp only
    rw [outcome_tryExcept_error hnested]
    exact outcome_bind_ok hselect
  · have hwritten : t.written ++ t.pending.map (·.insert) =
        s.written ++ s.pending.map (·.insert) := by
      rw [hpending, List.map_nil, List.append_nil, written_of_insertAll hinsert]
    exact ⟨hactive, hwritten ▸ List.prefix_rfl⟩

/-! ## Inside a transaction -/

/-- A session that has nothing to write yet. -/
def begun : UnitOfWork Database := ⟨[], [], [], true⟩

theorem lookup_begun (db : Database) :
    (select db (findTodo todo)).outcome begun = (.ok (findTodo todo db), begun) :=
  (outcome_bind_ok (outcome_flush_ok (s := begun) rfl rfl)).trans rfl

theorem createTodo_of_found {db : Database} {existing : NotificationTodo}
    (h : findTodo todo db = some existing) :
    (createTodo todo db db db).outcome begun = (.ok (existing.id, false), begun) := by
  rw [createTodo, outcome_bind_ok (lookup_begun db), h]
  rfl

theorem createTodo_of_admitted {db : Database} (hnone : findTodo todo db = none)
    (h : (todoObject todo).refused db = none) :
    (createTodo todo db db db).outcome begun =
      (.ok (todo.id, true), ⟨[], [(todoObject todo).insert], [], true⟩) := by
  have hinsert : insertAll db [] [todoObject todo] = .ok [(todoObject todo).insert] := by
    have hview : (todoObject todo).refused (onTop db []) = none := h
    rw [insertAll, hview]
    rfl
  have hnested : (withNested db (flush db)).outcome ⟨[todoObject todo], [], [], true⟩ =
      (.ok (), ⟨[], [(todoObject todo).insert], [], true⟩) :=
    (outcome_bind_ok (outcome_flush_ok (s := ⟨[todoObject todo], [], [], true⟩) rfl hinsert)).trans
      rfl
  have hadd : (add (todoObject todo)).outcome begun = (.ok (), ⟨[todoObject todo], [], [], true⟩) :=
    rfl
  rw [createTodo, outcome_bind_ok (lookup_begun db), hnone]
  dsimp only
  rw [outcome_bind_ok hadd]
  exact outcome_tryExcept_ok (outcome_bind_ok hnested)

theorem createTodo_of_refused {db : Database} {e : SessionError} (hnone : findTodo todo db = none)
    (h : (todoObject todo).refused db = some e) :
    ∃ e t, (createTodo todo db db db).outcome begun = (.error e, t) := by
  have hadd : (add (todoObject todo)).outcome begun = (.ok (), ⟨[todoObject todo], [], [], true⟩) :=
    rfl
  have hnested := withNested_of_refused (s := ⟨[todoObject todo], [], [], true⟩) db
    (flush db) rfl rfl h
  rw [createTodo, outcome_bind_ok (lookup_begun db), hnone]
  dsimp only
  rw [outcome_bind_ok hadd, outcome_tryExcept_error (outcome_bind_error hnested)]
  cases e with
  | integrityError => exact ⟨_, _, outcome_bind_error (outcome_select_inactive rfl)⟩
  | databaseError => exact ⟨_, _, rfl⟩
  | pendingRollbackError => exact ⟨_, _, rfl⟩

theorem refused_eq_none_iff {db : Database} : (todoObject todo).refused db = none ↔
    ((!db.todos.any fun t => t.id == todo.id || Notifications.sameSource todo t) &&
      exitAllowsWrite none todo.workspaceId db) = true := by
  rw [todoObject]
  dsimp only
  cases exitAllowsWrite none todo.workspaceId db with
  | false => simp
  | true =>
    cases db.todos.any fun t => t.id == todo.id || Notifications.sameSource todo t <;> simp

/-- **Without a race the two models agree.** On one committed state the program of a transaction
returns what `create_todo` returns in a session, with the same writes. -/
theorem createTodo_refined (todo : NotificationTodo) (db : Database)
    (Q : Uuid × Bool → Database → Prop) :
    (Notifications.createTodo todo).Returns (fun created _ w => Q created w) db db ↔
      ∃ created t, (createTodo todo db db db).outcome begun = (.ok created, t) ∧
        Q created (t.view db) := by
  rw [Notifications.createTodo]
  simp only [Tx.bind_eq, Tx.returns_bind, Tx.returns_selectForUpdate]
  cases hfind : findTodo todo db with
  | some existing =>
    have hprogram : (db.todos.find? fun t => Notifications.sameSource todo t &&
        exitAllowsWrite none t.workspaceId db) = some existing := hfind
    rw [hprogram, createTodo_of_found hfind]
    dsimp only
    rw [Tx.pure_eq, Tx.returns_pure]
    constructor
    · intro h
      exact ⟨_, _, rfl, h⟩
    · rintro ⟨created, t, houtcome, h⟩
      cases houtcome
      exact h
  | none =>
    have hprogram : (db.todos.find? fun t => Notifications.sameSource todo t &&
        exitAllowsWrite none t.workspaceId db) = none := hfind
    rw [hprogram]
    dsimp only
    rw [insertRow]
    simp only [Tx.returns_bind, Tx.returns_lockAll, Tx.returns_writeIf, Tx.pure_eq, Tx.returns_pure,
      ← refused_eq_none_iff]
    constructor
    · rintro ⟨hadmits, h⟩
      exact ⟨_, _, createTodo_of_admitted hfind hadmits, h⟩
    · rintro ⟨created, t, houtcome, h⟩
      cases hrefused : (todoObject todo).refused db with
      | none =>
        rw [createTodo_of_admitted hfind hrefused] at houtcome
        cases houtcome
        exact ⟨rfl, h⟩
      | some e =>
        obtain ⟨e', t', herror⟩ := createTodo_of_refused hfind hrefused
        rw [herror] at houtcome
        cases houtcome

end LostRaces

end Rulefolio
