import Rulefolio.Notifications.Recipients
import Rulefolio.Playtests.OpenTodos

/-!
# Todos of those who are invited

An account is shown its open todos, whichever workspace they are in. It can complete one, or have
its failed mail sent again, when it can see that workspace: as its owner or as a member. A
participant of a playtest who is neither is shown the invitation, and cannot do anything about it.

## Main definitions

* `listTodos` — what an account is shown.
* `Handled` — an open todo can be handled by its owner.

## Main results

* `handled_iff_belongs`.
* `invited_cannot_complete` — a participant who is not a member.
-/

namespace Rulefolio

namespace Playtests

open Notifications

variable {db : Database} {accountId : Uuid} {todo : NotificationTodo} {workspace : Workspace}

/-! ## The property -/

/-- The rows of `list_todos`, of which a request shows one page. -/
def listTodos (recipientId : Uuid) (status : TodoStatus) (db : Database) : List NotificationTodo :=
  db.todos.filter fun t => t.recipientAccountId == recipientId && t.status == status

/-- A call returns, having queued at most one mail, or raises a conflict and changes nothing. -/
def ReturnsOrConflicts (db : Database)
    (result : Database × Except ServiceError NotificationTodo) : Prop :=
  ((∃ todo, result.2 = .ok todo) ∧ (result.1 = db ∨
    ∃ r todos, result.1 = { db with todos := todos, outbox := r :: db.outbox })) ∨
  ∃ reason, result = (db, .error (.notificationTodoConflict reason))

/-- The owner of an open todo can complete it, which stops the mail that has not been sent, and can
ask for its failed mail to be sent again. -/
structure Handled (db : Database) (accountId : Uuid) (todo : NotificationTodo) : Prop where
  complete : ∀ now, (Recipient.completeTodo now accountId todo.id).exec db =
    (Recipient.completed now todo.id db, .ok ())
  retry : ∀ now newId operationKey, (∀ r ∈ db.outbox, r.id ≠ newId) → ReturnsOrConflicts db
    ((Recipient.retryFailedMail now newId accountId todo.id operationKey).exec db)

/-! ## When it holds -/

/-- What sending a mail again computes. -/
theorem resent_returnsOrConflicts (now : Timestamp) (newId : Uuid) (operationKey : String)
    (failed : MailOutbox) : ReturnsOrConflicts db
      (Recipient.outcome db todo (Recipient.resent db now newId todo operationKey failed)) := by
  rw [Recipient.resent]
  split
  · split
    · exact .inr ⟨_, rfl⟩
    · exact .inl ⟨⟨_, rfl⟩, .inr ⟨_, _, rfl⟩⟩
  · exact .inr ⟨_, rfl⟩

/-- **An open todo can be handled by its owner** exactly when the owner belongs to its workspace. -/
theorem handled_iff_belongs (hkeys : Recipient.UniqueKeys db)
    (htodo : todo ∈ listTodos accountId .opened db) (hworkspace : workspace ∈ db.workspaces)
    (hid : workspace.id = todo.workspaceId)
    (hexit : workspace.exitRequestedAt = none ∧ workspace.exitReadUntil = none) :
    Handled db accountId todo ↔ Recipient.Belongs db accountId workspace := by
  obtain ⟨hmem, hopen⟩ := List.mem_filter.1 htodo
  rw [Bool.and_eq_true, beq_iff_eq, beq_iff_eq] at hopen
  have hwrite : exitAllowsWrite none todo.workspaceId db = true :=
    List.any_eq_true.2 ⟨workspace, hworkspace, by simp [hid, hexit.1]⟩
  have hfind : Recipient.findTodo accountId todo.id db = some todo := by
    refine Table.find?_eq_some_of_unique hmem (by simp [hopen.1, hwrite]) fun t ht hp => ?_
    simp only [Bool.and_eq_true, beq_iff_eq] at hp
    exact hkeys.todo t ht todo hmem hp.1.1
  have hvisible : ∀ now,
      (Recipient.Belongs db accountId workspace →
        Recipient.visibleWorkspace now accountId todo.workspaceId db = some workspace) ∧
      (¬ Recipient.Belongs db accountId workspace →
        Recipient.visibleWorkspace now accountId todo.workspaceId db = none) := fun now =>
    hid ▸ Recipient.visibleWorkspace_eq hkeys now hworkspace hexit.2
  constructor
  · intro h
    by_contra hnot
    have hcomplete := h.complete 0
    rw [Recipient.completeTodo_exec hfind hopen.2, (hvisible 0).2 hnot] at hcomplete
    cases congrArg Prod.snd hcomplete
  · intro hbelongs
    refine ⟨fun now => ?_, fun now newId operationKey hfresh => ?_⟩
    · rw [Recipient.completeTodo_exec hfind hopen.2, (hvisible now).1 hbelongs]
      dsimp only
      rw [if_pos (by rw [hexit.1]; rfl)]
    · have hseen := (hvisible now).1 hbelongs
      have hrequested : workspace.exitRequestedAt.isNone = true := by rw [hexit.1]; rfl
      rw [Recipient.retryFailedMail_exec hkeys hfind hopen.2 hfresh, hseen]
      by_cases hretry : (Recipient.findRetry todo.id operationKey db).isSome = true
      · rw [if_pos hretry]
        exact .inl ⟨⟨_, rfl⟩, .inl rfl⟩
      rw [if_neg hretry]
      dsimp only
      rw [if_pos hrequested, Recipient.retryFailedMail_eq (Recipient.find?_of_findTodo hkeys hfind)
        hopen.2 (Option.not_isSome_iff_eq_none.1 hretry)
        (Recipient.writable_of_visible hkeys hseen hrequested)]
      split
      · exact .inr ⟨_, rfl⟩
      split
      · split
        · exact .inr ⟨_, rfl⟩
        · exact resent_returnsOrConflicts now newId operationKey _
      · exact .inr ⟨_, rfl⟩

/-! ### Who is invited to a playtest -/

/-- An account has a todo that is open, in a workspace without an exit request to which it belongs
or not. -/
def hasOpenTodo (accountId : Uuid) (belongs : Bool) (db : Database) : Bool :=
  decide ((∀ t ∈ db.todos, ∀ t' ∈ db.todos, t.id = t'.id → t = t') ∧
    ∀ w ∈ db.workspaces, ∀ w' ∈ db.workspaces, w.id = w'.id → w = w') &&
  (listTodos accountId .opened db).any fun todo => db.workspaces.any fun w =>
    w.id == todo.workspaceId && w.exitRequestedAt == none && w.exitReadUntil == none &&
      (w.ownerAccountId == accountId || db.members.any fun m =>
        m.workspaceId == w.id && m.accountId == accountId) == belongs

theorem hasOpenTodo_spec {belongs : Bool} (h : hasOpenTodo accountId belongs db = true) :
    Recipient.UniqueKeys db ∧ ∃ todo ∈ listTodos accountId .opened db,
      ∃ workspace ∈ db.workspaces, workspace.id = todo.workspaceId ∧
        (workspace.exitRequestedAt = none ∧ workspace.exitReadUntil = none) ∧
        (Recipient.Belongs db accountId workspace ↔ belongs = true) := by
  rw [hasOpenTodo, Bool.and_eq_true, decide_eq_true_eq, List.any_eq_true] at h
  obtain ⟨⟨htodos, hworkspaces⟩, todo, htodo, hany⟩ := h
  obtain ⟨workspace, hworkspace, hp⟩ := List.any_eq_true.1 hany
  simp only [Bool.and_eq_true, beq_iff_eq] at hp
  refine ⟨⟨htodos, hworkspaces⟩, todo, htodo, workspace, hworkspace, hp.1.1.1, ⟨hp.1.1.2, hp.1.2⟩,
    ?_⟩
  rw [← hp.2]
  simp [Recipient.Belongs]

/-- The maintainer of a work is a member, and is asked about an issue. -/
theorem handled_iff_belongs_maintainer :
    ∃ db, (todoSystem .withoutCipher some).Reachable db ∧
      ∃ todo ∈ listTodos 1 .opened db, Handled db 1 todo := by
  obtain ⟨db, hdb, hp⟩ := @todos_of_runs .withoutCipher some (fun _ _ => true)
    ((retestArranged.take 5).map .call) (hasOpenTodo 1 true) (by decide +kernel)
  obtain ⟨hkeys, todo, htodo, workspace, hworkspace, hid, hexit, hbelongs⟩ := hasOpenTodo_spec hp
  exact ⟨db, TransitionSystem.reachable_of_restrict hdb, todo, htodo,
    (handled_iff_belongs hkeys htodo hworkspace hid hexit).2 (hbelongs.2 rfl)⟩

/-- A participant is invited by address, and is shown the invitation. It cannot be completed. -/
theorem invited_cannot_complete :
    ∃ db, (todoSystem .withoutCipher some).Reachable db ∧
      (db.accounts.any fun a => a.id == 2 && a.status == .active) = true ∧
      ∃ todo ∈ listTodos 2 .opened db, (∃ workspace ∈ db.workspaces,
        workspace.id = todo.workspaceId ∧ workspace.exitRequestedAt = none) ∧
      (Recipient.completeTodo 9 2 todo.id).exec db = (db, .error .workspaceUnavailable) := by
  obtain ⟨db, hdb, hp⟩ := @todos_of_runs .withoutCipher some (fun _ _ => true)
    [.call (.elsewhere workOfOne), .call planOfOneSeat]
    (fun db => (db.accounts.any fun a => a.id == 2 && a.status == .active) &&
      (listTodos 2 .opened db).any fun todo =>
      (db.workspaces.any fun w => w.id == todo.workspaceId && w.exitRequestedAt == none) &&
        decide ((Recipient.completeTodo 9 2 todo.id).exec db = (db, .error .workspaceUnavailable)))
    (by decide +kernel)
  rw [Bool.and_eq_true] at hp
  obtain ⟨haccount, hany⟩ := hp
  obtain ⟨todo, htodo, hp⟩ := List.any_eq_true.1 hany
  rw [Bool.and_eq_true, List.any_eq_true, decide_eq_true_eq] at hp
  obtain ⟨⟨workspace, hworkspace, hw⟩, hexec⟩ := hp
  rw [Bool.and_eq_true, beq_iff_eq, beq_iff_eq] at hw
  exact ⟨db, TransitionSystem.reachable_of_restrict hdb, haccount, todo, htodo,
    ⟨workspace, hworkspace, hw⟩, hexec⟩

end Playtests

end Rulefolio
