import Rulefolio.Workspaces.Exit

/-!
# Runs of the calls on workspaces

What holds however many calls interleave. Every call commits only what its guarantee allows
(`program_safe`), so every reachable configuration satisfies the invariant, and the commits of its
history compose: what one of them leaves behind is still there at any later one (`Evolves`).

Three things follow. Workspaces stay governed. An invitation is accepted once, by an exchange that
brought its credential or asked for it by name, and an accepted one was accepted so. An exit is
granted once, to the owner, at the revision the owner knew, and ends with nobody left.

## Main definitions

* `Administered`, `InvitationsOnce`, `ExitsOnce`, `ExitsComplete`.

## Main results

* `workspaces_administered`, `invitations_accepted_once`, `exits_granted_once`, `exits_completed`.
-/

namespace Rulefolio

namespace Workspaces

open ReadCommitted

variable {settings : Settings} {normalizeEmail : String → Option String}
  {c : Config Database RowKey ServiceError Outcome Call}

/-! ## Every call is safe -/

theorem doing_safe {E : Environment Database RowKey} {call : Call} {t : Program Unit}
    {x : Point Database RowKey} (h : Guaranteed E call t x) :
    Guaranteed E call (Call.doing t) x :=
  Tx.Safe.bind h fun _ _ _ => Tx.Safe.pure trivial

theorem showing_safe {E : Environment Database RowKey} {call : Call} {t : Program WorkspaceData}
    {x : Point Database RowKey} (h : Guaranteed E call t x) :
    Guaranteed E call (Call.showing t) x :=
  Tx.Safe.bind h fun _ _ _ => Tx.Safe.pure trivial

/-- **Every call commits only what its guarantee allows.** -/
theorem program_safe (settings : Settings) (normalizeEmail : String → Option String) (call : Call)
    (db : Database) :
    Guaranteed concurrent call (Call.program settings normalizeEmail call) (Point.start db) := by
  have hE := respects_concurrent
  cases call with
  | createWorkspace =>
    exact showing_safe (createWorkspace_safe hE rfl rfl rfl rfl ..)
  | createInvitation =>
    exact doing_safe (createInvitation_safe hE rfl rfl rfl rfl ..)
  | revokeInvitation =>
    exact doing_safe (revokeInvitation_safe hE rfl rfl rfl rfl ..)
  | removeMember =>
    exact doing_safe (removeMember_safe hE rfl rfl rfl rfl ..)
  | expireOpenWorkspaceInvitationTodos =>
    exact doing_safe (expireOpenWorkspaceInvitationTodos_safe hE rfl rfl rfl rfl ..)
  | exchangeCurrentSessionInvitation =>
    exact showing_safe (exchangeCurrentSessionInvitation_safe hE ..)
  | exchangeInboxInvitation =>
    exact showing_safe (exchangeInboxInvitation_safe hE ..)
  | exchangeAccountActivationInvitation =>
    exact showing_safe (exchangeAccountActivationInvitation_safe hE ..)
  | requestWorkspaceExit =>
    exact showing_safe (requestWorkspaceExit_safe hE ..)
  | processNextDueWorkspaceExit =>
    exact Tx.Safe.bind (processNextDueWorkspaceExit_safe hE ..) fun _ _ _ => Tx.Safe.pure trivial
  | createWork =>
    exact doing_safe (createWork_safe hE rfl rfl rfl rfl ..)
  | updateWork =>
    exact doing_safe (updateWork_safe hE rfl rfl rfl rfl ..)
  | updateRuleMaterials =>
    exact doing_safe (updateRuleMaterials_safe hE rfl rfl rfl rfl ..)
  | setWorkAccess =>
    exact doing_safe (setWorkAccess_safe hE rfl rfl rfl rfl ..)
  | revokeWorkAccess =>
    exact doing_safe (revokeWorkAccess_safe hE rfl rfl rfl rfl ..)
  | elsewhere change =>
    exact doing_safe (elsewhere_safe hE rfl rfl rfl rfl change db)

/-- Every reachable configuration satisfies the invariant, and every commit is one that the
guarantee of its call allows. -/
theorem workspaces_sound (hc : (system settings normalizeEmail).Reachable c) :
    SafeConfig concurrent guarantee (fun _ _ _ => True) (fun _ _ _ => True) c :=
  sound closed_concurrent (by rintro _ rfl; exact ⟨wellFormed_empty, governed_empty⟩)
    (fun call db _ => program_safe settings normalizeEmail call db) hc

/-- The commits of a reachable configuration. -/
theorem commits_of_reachable (hc : (system settings normalizeEmail).Reachable c) :
    ∀ e ∈ c.history, WellFormed e.before ∧ ∃ H, Commit e.op H e.before e.after := by
  intro e he
  obtain ⟨hinv, n, H, -, hcommit⟩ := (workspaces_sound hc).history e he
  exact ⟨hinv.1, H, hcommit⟩

/-- What a commit leaves behind is still there. -/
theorem evolves_later (hc : (system settings normalizeEmail).Reachable c) :
    ∀ e ∈ c.history, Evolves e.after c.db := by
  obtain ⟨s₀, -, hlinked⟩ := (wellFormed_of_reachable hc).linked
  refine fun e he => hlinked.later Evolves.refl (fun _ _ _ h h' => h.trans h') (fun e' he' => ?_) he
  obtain ⟨-, H, hcommit⟩ := commits_of_reachable hc e' he'
  exact hcommit.evolves

/-- What a commit leaves behind is still there at any later one. -/
theorem evolves_between (hc : (system settings normalizeEmail).Reachable c) :
    c.history.Pairwise fun e e' => Evolves e'.after e.before := by
  obtain ⟨s₀, -, hlinked⟩ := (wellFormed_of_reachable hc).linked
  refine hlinked.pairwise Evolves.refl (fun _ _ _ h h' => h.trans h') fun e he => ?_
  obtain ⟨-, H, hcommit⟩ := commits_of_reachable hc e he
  exact hcommit.evolves

/-! ## Workspaces stay governed -/

/-- What it takes to govern the workspaces and works of a database. -/
structure Administered (db : Database) : Prop where
  /-- A work of a workspace that is not over has a maintainer. -/
  maintained : ∀ work ∈ db.works, ∀ w ∈ db.workspaces, w.id = work.workspaceId →
    w.exitCompletedAt = none → ∃ a ∈ db.accesses, a.workId = work.id ∧ a.role = .maintainer
  /-- Whoever has a role in a work is a member of the workspace of the work. -/
  members : ∀ a ∈ db.accesses, ∃ work ∈ db.works, work.id = a.workId ∧
    work.workspaceId = a.workspaceId ∧ ⟨a.workspaceId, a.accountId⟩ ∈ db.members
  /-- The owner of a workspace that is not over is a member. -/
  owned : ∀ w ∈ db.workspaces, w.exitCompletedAt = none → ⟨w.id, w.ownerAccountId⟩ ∈ db.members

theorem mem_works {workspaceId workId : Uuid} {db : Database} :
    workspaceId ∈ (rowsAt (.work workId) db).works ↔
      ∃ work ∈ db.works, work.id = workId ∧ work.workspaceId = workspaceId := by
  simp [rowsAt, Table.mem_rowsWith, workKey, and_assoc]

theorem Governed.administered {db : Database} (h : Governed db) : Administered db where
  maintained work hwork w hw hid hopen :=
    h.maintained work.id w hw (mem_works.2 ⟨work, hwork, rfl, hid.symm⟩) hopen
  members a ha := by
    obtain ⟨work, hwork, hid, hworkspace⟩ := mem_works.1 (h.placed a ha)
    exact ⟨work, hwork, hid, hworkspace, h.members a ha⟩
  owned := h.owned

/-- **Workspaces stay governed**, in whatever order any number of calls take their steps: two
maintainers who take each other's role at the same time, or a member who is given a role while being
removed, cannot undo it. -/
theorem workspaces_administered (hc : (system settings normalizeEmail).Reachable c) :
    Administered c.db :=
  (workspaces_sound hc).inv.2.administered

/-- Keys that differ from place to place. -/
def keysFrom (n : ℕ) : Uuids := fun path => n + path.headD 0

/-- Calls made one after the other on one connection, each with the number of steps it takes. -/
def inTurn (calls : List (Call × ℕ)) : List (Event Call) :=
  calls.flatMap fun (call, n) => .call 0 call :: advances 0 n ++ [.close 0]

/-- The owner `1` opens a workspace and invites a guest, who gets the key `20`, comes with the token
of the invitation, and creates a work that the owner is to maintain too. -/
def sharedWork : List (Event Call) :=
  inTurn [(.createWorkspace (keysFrom 10) 1 "Table" none, 6),
    (.createInvitation (keysFrom 20) 100 ⟨[7], 1000, [], []⟩ 1 10 "guest@example.org", 24),
    (.exchangeAccountActivationInvitation 200 false true [7] "key", 25),
    (.createWork (keysFrom 30) 20 10 ⟨"Game", "Text", "concept", "Fun", 2, 4, 60⟩, 10),
    (.setWorkAccess 300 20 10 30 1 .maintainer, 13)]

/-- The two maintainers take each other's role at the same time. -/
def mutualRevocation : List (Event Call) :=
  sharedWork ++ [.call 0 (.revokeWorkAccess 301 1 10 30 20),
    .call 1 (.revokeWorkAccess 302 20 10 30 1)] ++
      advances 0 7 ++ advances 1 4 ++ advances 0 8 ++ advances 1 6

/-- The second of them waits for the first, and is no maintainer any more. -/
theorem workspaces_administered_mutualRevocation :
    ∃ c, (system .withoutCipher some).run (.start .empty) mutualRevocation = some c ∧
      c.raised 1 = some .workManagementForbidden ∧
        c.db.accesses = [⟨30, 10, 1, .maintainer⟩] ∧ Administered c.db := by
  obtain ⟨c, hc, hfacts⟩ := (Option.any_eq_true _ _).1
    (show ((system .withoutCipher some).run (.start .empty) mutualRevocation).any (fun c =>
      decide (c.raised 1 = some .workManagementForbidden ∧
        c.db.accesses = [⟨30, 10, 1, .maintainer⟩])) = true by decide +kernel)
  obtain ⟨hraised, haccesses⟩ := of_decide_eq_true hfacts
  have hinit : (system .withoutCipher some).init (.start .empty) := init_start _ rfl
  exact ⟨c, hc, hraised, haccesses,
    workspaces_administered (TransitionSystem.Reachable.run (.initial hinit) hc)⟩

/-! ## Invitations -/

/-- **An invitation is accepted once.** -/
structure InvitationsOnce (c : Config Database RowKey ServiceError Outcome Call) : Prop where
  /-- An exchange that commits accepts an invitation, or makes nobody a member. -/
  exchanges : ∀ e ∈ c.history, e.op.exchange.isSome = true →
    (∃ i cr, Accepted e.op i cr e.before e.after) ∨ Declined e.before e.after
  /-- No two of them accept the same invitation or use the same credential. -/
  once : c.history.Pairwise fun e e' => ∀ i cr i' cr', Accepted e.op i cr e.before e.after →
    Accepted e'.op i' cr' e'.before e'.after → i.id ≠ i'.id ∧ cr.id ≠ cr'.id
  /-- An invitation that was accepted stays as the exchange left it. -/
  kept : ∀ e ∈ c.history, ∀ i cr, Accepted e.op i cr e.before e.after →
    ∃ now operation operationKey, e.op.exchange = some (operation, operationKey) ∧
      markAccepted now operation operationKey i ∈ c.db.invitations
  /-- An invitation that is accepted was accepted by an exchange. -/
  traced : ∀ i ∈ c.db.invitations, i.status = .accepted →
    ∃ e ∈ c.history, ∃ j cr now operation operationKey, Accepted e.op j cr e.before e.after ∧
      e.op.exchange = some (operation, operationKey) ∧
        i = markAccepted now operation operationKey j

/-- The invitation after it was accepted. -/
theorem Accepted.mem_after {call : Call} {i : WorkspaceInvitation} {cr : OneTimeCredential}
    {db db' : Database} (h : Accepted call i cr db db') :
    ∃ now operation operationKey, call.exchange = some (operation, operationKey) ∧
      markAccepted now operation operationKey i ∈ db'.invitations := by
  obtain ⟨now, operation, operationKey, hexchange, hrows⟩ := h.accepted
  have hmem : markAccepted now operation operationKey i
      ∈ (rowsAt (invitationKey i) db').invitations := by
    rw [hrows]
    exact List.mem_singleton_self _
  exact ⟨now, operation, operationKey, hexchange, (mem_invitations.1 hmem).1⟩

theorem Accepted.mem_before {call : Call} {i : WorkspaceInvitation} {cr : OneTimeCredential}
    {db db' : Database} (h : Accepted call i cr db db') : i ∈ db.invitations := by
  have hmem : i ∈ (rowsAt (invitationKey i) db).invitations := by
    rw [h.invitation]
    exact List.mem_singleton_self _
  exact (mem_invitations.1 hmem).1

/-- Two invitations with one key, or with the key of one credential, are one. -/
theorem WellFormed.invitation_id {db : Database} (hdb : WellFormed db) {i j : WorkspaceInvitation}
    (hi : i ∈ db.invitations) (hj : j ∈ db.invitations) (h : i.credentialId = j.credentialId) :
    i.id = j.id := by
  have hmem : ∀ k : WorkspaceInvitation, k ∈ db.invitations → k.credentialId = i.credentialId →
      k.id ∈ (rowsAt (invitationCredentialKey i) db).invitationIds := fun k hk hid =>
    List.mem_map_of_mem (Table.mem_rowsWith.2 ⟨hk, congrArg RowKey.invitationCredential hid⟩)
  have hrow := Table.eq_singleton_of_mem (hdb (invitationCredentialKey i)).invitationIds
    (hmem i hi rfl)
  have hother := hmem j hj h.symm
  rw [hrow, List.mem_singleton] at hother
  exact hother.symm

theorem accepted_once {call call' : Call} {i i' : WorkspaceInvitation}
    {cr cr' : OneTimeCredential} {db₀ db₁ db db' : Database}
    (h' : Accepted call' i' cr' db₀ db₁) (hevolves : Evolves db₁ db) (hdb : WellFormed db)
    (h : Accepted call i cr db db') : i.id ≠ i'.id ∧ cr.id ≠ cr'.id := by
  obtain ⟨now, operation, operationKey, -, hmem⟩ := h'.mem_after
  have hlater := hevolves.invitation _ hmem rfl
  have hne : i.id ≠ i'.id := by
    intro hid
    have hrow : markAccepted now operation operationKey i'
        ∈ (rowsAt (invitationKey i) db).invitations :=
      mem_invitations.2 ⟨hlater, congrArg RowKey.invitation hid.symm⟩
    rw [h.invitation, List.mem_singleton] at hrow
    have hactive := h.active
    rw [← hrow] at hactive
    cases hactive
  refine ⟨hne, fun hcredential => hne ?_⟩
  have hsame : i.credentialId = (markAccepted now operation operationKey i').credentialId :=
    h.credentialId.trans (hcredential.trans h'.credentialId.symm)
  have hid := hdb.invitation_id h.mem_before hlater hsame
  exact hid

/-- An invitation is accepted by an exchange only. -/
theorem Commit.accepts {call : Call} {H : Set (RowKey × RowLock)} {db db' : Database}
    (h : Commit call H db db') {i : WorkspaceInvitation} (hi : i ∈ db'.invitations)
    (hstatus : i.status = .accepted) (hnew : i ∉ db.invitations) :
    ∃ j cr now operation operationKey, Accepted call j cr db db' ∧
      call.exchange = some (operation, operationKey) ∧
        i = markAccepted now operation operationKey j := by
  have hexchanges : call.exchange.isSome = true := by
    have hstep := (h.steps (invitationKey i)).invitations
    have hbefore : i ∉ (rowsAt (invitationKey i) db).invitations := fun hmem =>
      hnew (mem_invitations.1 hmem).1
    have hafter : i ∈ (rowsAt (invitationKey i) db').invitations := mem_invitations.2 ⟨hi, rfl⟩
    generalize (rowsAt (invitationKey i) db).invitations = v at hstep hbefore
    generalize (rowsAt (invitationKey i) db').invitations = w at hstep hafter
    cases hstep with
    | stays => exact absurd hafter hbefore
    | created j hactive =>
      rw [List.mem_singleton.1 hafter, hactive] at hstatus
      cases hstatus
    | ended j status _ _ hended =>
      rw [List.mem_singleton.1 hafter] at hstatus
      rcases hended with hended | hended <;> rw [hended] at hstatus <;> cases hstatus
    | accepted j _ _ _ hcall => rw [hcall, Option.isSome_some]
  rcases h.exchange hexchanges with ⟨j, cr, haccepted⟩ | hdeclined
  · obtain ⟨now, operation, operationKey, hexchange, hrows⟩ := haccepted.accepted
    refine ⟨j, cr, now, operation, operationKey, haccepted, hexchange, ?_⟩
    by_cases hkey : invitationKey i = invitationKey j
    · have hmem : i ∈ (rowsAt (invitationKey j) db').invitations := mem_invitations.2 ⟨hi, hkey⟩
      rwa [hrows, List.mem_singleton] at hmem
    · have hmem : i ∈ (rowsAt (invitationKey i) db').invitations := mem_invitations.2 ⟨hi, rfl⟩
      rw [haccepted.others _ hkey nofun nofun] at hmem
      exact absurd (mem_invitations.1 hmem).1 hnew
  · have hmem := hdeclined.invitations (invitationKey i) i (mem_invitations.2 ⟨hi, rfl⟩) hstatus
    exact absurd (mem_invitations.1 hmem).1 hnew

/-- **Invitations are accepted once**, in whatever order any number of exchanges, revocations,
removals and exits take their steps. -/
theorem invitations_accepted_once (hc : (system settings normalizeEmail).Reachable c) :
    InvitationsOnce c where
  exchanges e he hexchange := by
    obtain ⟨-, H, hcommit⟩ := commits_of_reachable hc e he
    exact hcommit.exchange hexchange
  once := by
    refine (evolves_between hc).imp_of_mem fun {e e'} he _ hevolves i cr i' cr' h h' => ?_
    exact accepted_once h' hevolves (commits_of_reachable hc e he).1 h
  kept e he i cr h := by
    obtain ⟨now, operation, operationKey, hexchange, hmem⟩ := h.mem_after
    exact ⟨now, operation, operationKey, hexchange,
      (evolves_later hc e he).invitation _ hmem rfl⟩
  traced i hi hstatus := by
    obtain ⟨s₀, rfl, hlinked⟩ := (wellFormed_of_reachable hc).linked
    obtain ⟨e, he, hbefore, hafter⟩ := hlinked.exists_begins
      (P := fun db => i ∈ db.invitations) List.not_mem_nil hi
    obtain ⟨-, H, hcommit⟩ := commits_of_reachable hc e he
    exact ⟨e, he, hcommit.accepts hafter hstatus hbefore⟩

/-- The token of the guest's invitation comes a second time. -/
def secondExchange : List (Event Call) :=
  sharedWork ++ .call 0 (.exchangeAccountActivationInvitation 400 false true [7] "another") ::
    advances 0 15

theorem invitations_accepted_once_secondExchange :
    ∃ c, (system .withoutCipher some).run (.start .empty) secondExchange = some c ∧
      c.raised 0 = some .workspaceInvitationUnavailable ∧
        (c.db.invitations.map fun i => (i.id, i.acceptedOperationKey)) = [(22, some "key")] ∧
          InvitationsOnce c := by
  obtain ⟨c, hc, hfacts⟩ := (Option.any_eq_true _ _).1
    (show ((system .withoutCipher some).run (.start .empty) secondExchange).any (fun c =>
      decide (c.raised 0 = some .workspaceInvitationUnavailable ∧
        (c.db.invitations.map fun i => (i.id, i.acceptedOperationKey)) = [(22, some "key")])) = true
      by decide +kernel)
  obtain ⟨hraised, hinvitations⟩ := of_decide_eq_true hfacts
  have hinit : (system .withoutCipher some).init (.start .empty) := init_start _ rfl
  exact ⟨c, hc, hraised, hinvitations,
    invitations_accepted_once (TransitionSystem.Reachable.run (.initial hinit) hc)⟩

/-! ## Exits -/

/-- **An exit is granted once.** -/
structure ExitsOnce (c : Config Database RowKey ServiceError Outcome Call) : Prop where
  /-- A request that commits changes nothing, or it is granted: to the owner, whose password was
  checked, at the revision of the workspace and before the end of its window. -/
  requests : ∀ e ∈ c.history, e.op.requestsExit = true → Requested e.op e.before e.after
  /-- No two requests are granted for one workspace. -/
  once : c.history.Pairwise fun e e' => ∀ w now readUntil operationKey w' now' readUntil'
    operationKey', Granted e.op e.before e.after w now readUntil operationKey →
      Granted e'.op e'.before e'.after w' now' readUntil' operationKey' → w.id ≠ w'.id
  /-- What was granted is not changed or taken back, but for the end of the exit. -/
  kept : ∀ e ∈ c.history, ∀ w now readUntil operationKey,
    Granted e.op e.before e.after w now readUntil operationKey →
      ∃ v ∈ c.db.workspaces, SameExit (requestExit now readUntil w.ownerAccountId operationKey w) v
  /-- An exit that is under way was granted. -/
  traced : ∀ w ∈ c.db.workspaces, w.exitRequestedAt.isSome = true →
    ∃ e ∈ c.history, ∃ v now readUntil operationKey,
      Granted e.op e.before e.after v now readUntil operationKey ∧
        SameExit (requestExit now readUntil v.ownerAccountId operationKey v) w

/-- **An exit ends with nobody left.** -/
structure ExitsComplete (c : Config Database RowKey ServiceError Outcome Call) : Prop where
  /-- When the worker commits, nobody is left in the workspace and nobody has a role in it. -/
  emptied : ∀ e ∈ c.history, ∀ now pick, e.op = .processNextDueWorkspaceExit now pick →
    Emptied pick e.before e.after
  /-- A workspace that is over was ended by the worker after its window, and is as it left it. -/
  traced : ∀ w ∈ c.db.workspaces, ∀ now, w.exitCompletedAt = some now →
    ∃ e ∈ c.history, ∃ v ∈ e.before.workspaces,
      e.op = .processNextDueWorkspaceExit now v.id ∧ isDue now v = true ∧
        w = { v with exitCompletedAt := some now }
  /-- No two commits of the worker end one workspace. -/
  once : c.history.Pairwise fun e e' => ∀ now now' pick pick',
    e.op = .processNextDueWorkspaceExit now pick →
      e'.op = .processNextDueWorkspaceExit now' pick' → pick ≠ pick'

theorem WellFormed.workspace_eq {db : Database} (hdb : WellFormed db) {w v : Workspace}
    (hw : w ∈ db.workspaces) (hv : v ∈ db.workspaces) (hid : v.id = w.id) : v = w := by
  have hmem : v ∈ (rowsAt (workspaceKey w) db).workspaces :=
    mem_workspaces.2 ⟨hv, congrArg RowKey.workspace hid⟩
  rwa [hdb.workspace hw, List.mem_singleton] at hmem

/-- What becomes of a workspace, where there is one row with its key. -/
theorem Evolves.continues {db db' : Database} (h : Evolves db db') (hdb : WellFormed db')
    {w v : Workspace} (hw : w ∈ db.workspaces) (hv : v ∈ db'.workspaces) (hid : v.id = w.id) :
    Continues w v := by
  obtain ⟨w', hw', hcontinues⟩ := h.workspace w hw
  obtain rfl := hdb.workspace_eq hw' hv (hid.trans hcontinues.id.symm)
  exact hcontinues

/-- An exit comes from a request only. -/
theorem Commit.grants {call : Call} {H : Set (RowKey × RowLock)} {db db' : Database}
    (h : Commit call H db db') {w : Workspace} (hw : w ∈ db'.workspaces)
    (hexit : w.exitRequestedAt.isSome = true)
    (hnew : ∀ v ∈ db.workspaces, v.id = w.id → ¬ v.exitRequestedAt.isSome = true) :
    ∃ v now readUntil operationKey, Granted call db db' v now readUntil operationKey ∧
      w = requestExit now readUntil v.ownerAccountId operationKey v := by
  have hstep := (h.steps (workspaceKey w)).workspaces
  have hbefore : ∀ v ∈ (rowsAt (workspaceKey w) db).workspaces, v ∈ db.workspaces := fun v hv =>
    (mem_workspaces.1 hv).1
  have hafter : w ∈ (rowsAt (workspaceKey w) db').workspaces := mem_workspaces.2 ⟨hw, rfl⟩
  generalize (rowsAt (workspaceKey w) db).workspaces = rows at hstep hbefore
  generalize (rowsAt (workspaceKey w) db').workspaces = rows' at hstep hafter
  cases hstep with
  | stays => exact absurd hexit (hnew w (hbefore w hafter) rfl)
  | created v hnone =>
    rw [List.mem_singleton.1 hafter, hnone] at hexit
    cases hexit
  | requested v now readUntil verified actorId expectedRevision operationKey hcall hverified howner
      hrevision hwindow hnone =>
    subst hverified howner hrevision
    obtain rfl := List.mem_singleton.1 hafter
    exact ⟨v, now, readUntil, operationKey,
      ⟨hcall, hwindow, hnone, hbefore v (List.mem_singleton_self _), hw⟩, rfl⟩
  | completed v now _ hdue =>
    obtain rfl := List.mem_singleton.1 hafter
    exact absurd hexit (hnew v (hbefore v (List.mem_singleton_self _)) rfl)

/-- A workspace is ended by the worker only. -/
theorem Commit.completed {call : Call} {H : Set (RowKey × RowLock)} {db db' : Database}
    (h : Commit call H db db') {w : Workspace} (hw : w ∈ db'.workspaces)
    (hdone : w.exitCompletedAt.isSome = true)
    (hnew : ∀ v ∈ db.workspaces, v.id = w.id → ¬ v.exitCompletedAt.isSome = true) :
    ∃ v ∈ db.workspaces, ∃ now, call = .processNextDueWorkspaceExit now v.id ∧
      isDue now v = true ∧ w = { v with exitCompletedAt := some now } := by
  have hstep := (h.steps (workspaceKey w)).workspaces
  have hbefore : ∀ v ∈ (rowsAt (workspaceKey w) db).workspaces, v ∈ db.workspaces := fun v hv =>
    (mem_workspaces.1 hv).1
  have hafter : w ∈ (rowsAt (workspaceKey w) db').workspaces := mem_workspaces.2 ⟨hw, rfl⟩
  generalize (rowsAt (workspaceKey w) db).workspaces = rows at hstep hbefore
  generalize (rowsAt (workspaceKey w) db').workspaces = rows' at hstep hafter
  cases hstep with
  | stays => exact absurd hdone (hnew w (hbefore w hafter) rfl)
  | created v _ hnone =>
    rw [List.mem_singleton.1 hafter, hnone] at hdone
    cases hdone
  | requested v =>
    obtain rfl := List.mem_singleton.1 hafter
    exact absurd hdone (hnew v (hbefore v (List.mem_singleton_self _)) rfl)
  | completed v now hcall hdue =>
    exact ⟨v, hbefore v (List.mem_singleton_self _), now, hcall, hdue, List.mem_singleton.1 hafter⟩

/-- The commit that brought what a workspace has now. -/
theorem exists_commit_of_workspace (hc : (system settings normalizeEmail).Reachable c)
    {w : Workspace} (hw : w ∈ c.db.workspaces) (p : Workspace → Bool) (hp : p w = true) :
    ∃ e ∈ c.history, ∃ u ∈ e.after.workspaces, u.id = w.id ∧ p u = true ∧
      ∀ v ∈ e.before.workspaces, v.id = u.id → ¬ p v = true := by
  obtain ⟨s₀, rfl, hlinked⟩ := (wellFormed_of_reachable hc).linked
  obtain ⟨e, he, hbefore, u, hu, hid, hpu⟩ := hlinked.exists_begins
    (P := fun db => ∃ u ∈ db.workspaces, u.id = w.id ∧ p u = true)
    (fun ⟨_, hu, _⟩ => List.not_mem_nil hu) ⟨w, hw, rfl, hp⟩
  exact ⟨e, he, u, hu, hid, hpu, fun v hv hvid hpv => hbefore ⟨v, hv, hvid.trans hid, hpv⟩⟩

/-- **An exit is granted once**, to the owner and at the revision the owner knew, in whatever order
any number of requests take their steps; the others are answered from it. -/
theorem exits_granted_once (hc : (system settings normalizeEmail).Reachable c) : ExitsOnce c where
  requests e he hrequest := by
    obtain ⟨-, H, hcommit⟩ := commits_of_reachable hc e he
    exact hcommit.request hrequest
  once := by
    refine (evolves_between hc).imp_of_mem fun {e e'} he _ hevolves => ?_
    intro w _ _ _ w' now' readUntil' operationKey' h h' hid
    have hcontinues := hevolves.continues (commits_of_reachable hc e he).1 h'.after h.before hid
    have hsame : w = { requestExit now' readUntil' w'.ownerAccountId operationKey' w' with
        exitCompletedAt := w.exitCompletedAt } := hcontinues.exit rfl
    have hnone := h.exit
    rw [hsame] at hnone
    cases hnone
  kept e he w now readUntil operationKey h := by
    obtain ⟨v, hv, hcontinues⟩ := (evolves_later hc e he).workspace _ h.after
    exact ⟨v, hv, hcontinues.exit rfl⟩
  traced w hw hexit := by
    obtain ⟨e, he, u, hu, hid, hexit', hnew⟩ := exists_commit_of_workspace hc hw
      (·.exitRequestedAt.isSome) hexit
    obtain ⟨-, H, hcommit⟩ := commits_of_reachable hc e he
    obtain ⟨v, now, readUntil, operationKey, hgranted, rfl⟩ := hcommit.grants hu hexit' hnew
    have hcontinues := (evolves_later hc e he).continues (workspaces_sound hc).inv.1 hu hw hid.symm
    exact ⟨e, he, v, now, readUntil, operationKey, hgranted, hcontinues.exit rfl⟩

/-- The owner asks for the exit of the workspace twice, with two keys. -/
def secondRequest : List (Event Call) :=
  sharedWork ++ inTurn [(.requestWorkspaceExit 500 true 1 10 1 (some 600) "exit", 6)] ++
    .call 0 (.requestWorkspaceExit 501 true 1 10 1 (some 700) "again") :: advances 0 1

theorem exits_granted_once_secondRequest :
    ∃ c, (system .withoutCipher some).run (.start .empty) secondRequest = some c ∧
      c.raised 0 = some .workspaceExitInProgress ∧
        (c.db.workspaces.map fun w => (w.revision, w.exitReadUntil)) = [(2, some 600)] ∧
          ExitsOnce c := by
  obtain ⟨c, hc, hfacts⟩ := (Option.any_eq_true _ _).1
    (show ((system .withoutCipher some).run (.start .empty) secondRequest).any (fun c =>
      decide (c.raised 0 = some .workspaceExitInProgress ∧
        (c.db.workspaces.map fun w => (w.revision, w.exitReadUntil)) = [(2, some 600)])) = true
      by decide +kernel)
  obtain ⟨hraised, hworkspaces⟩ := of_decide_eq_true hfacts
  have hinit : (system .withoutCipher some).init (.start .empty) := init_start _ rfl
  exact ⟨c, hc, hraised, hworkspaces,
    exits_granted_once (TransitionSystem.Reachable.run (.initial hinit) hc)⟩

/-- **An exit ends with nobody left**: whatever was going on in the workspace, no membership and no
role survives the commit of the worker, and there is one such commit. -/
theorem exits_completed (hc : (system settings normalizeEmail).Reachable c) : ExitsComplete c where
  emptied e he now pick hop := by
    obtain ⟨-, H, hcommit⟩ := commits_of_reachable hc e he
    exact hcommit.exit pick (by rw [hop]; rfl)
  traced w hw now hdone := by
    obtain ⟨e, he, u, hu, hid, hdone', hnew⟩ := exists_commit_of_workspace hc hw
      (·.exitCompletedAt.isSome) (by rw [hdone]; rfl)
    obtain ⟨-, H, hcommit⟩ := commits_of_reachable hc e he
    obtain ⟨v, hv, now', hcall, hdue, rfl⟩ := hcommit.completed hu hdone' hnew
    have hcontinues := (evolves_later hc e he).continues (workspaces_sound hc).inv.1 hu hw hid.symm
    obtain rfl := hcontinues.ended (running_of_isDue hdue).1 rfl
    obtain rfl := Option.some.inj hdone
    exact ⟨e, he, v, hv, hcall, hdue, rfl⟩
  once := by
    refine (evolves_between hc).imp_of_mem fun {e e'} he he' hevolves => ?_
    rintro now now' pick _ hop hop' rfl
    obtain ⟨hinv, H, hcommit⟩ := commits_of_reachable hc e he
    obtain ⟨-, H', hcommit'⟩ := commits_of_reachable hc e' he'
    obtain ⟨w, hw, hid, hrunning⟩ := (hcommit.exit pick (by rw [hop]; rfl)).running
    obtain ⟨v, hv, hvid, hexit, hover⟩ := (hcommit'.exit pick (by rw [hop']; rfl)).ended
    obtain rfl := (hevolves.continues hinv hv hw (hid.trans hvid.symm)).ended hexit hover
    rw [hrunning] at hover
    cases hover

/-- The owner asks for the exit of the workspace, and the worker comes after the window. -/
def completedExit : List (Event Call) :=
  sharedWork ++ inTurn [(.requestWorkspaceExit 500 true 1 10 1 (some 600) "exit", 6),
    (.processNextDueWorkspaceExit 700 10, 33)]

theorem exits_completed_completedExit :
    ∃ c, (system .withoutCipher some).run (.start .empty) completedExit = some c ∧
      (c.db.workspaces.map (·.exitCompletedAt)) = [some 700] ∧
        c.db.members = [] ∧ c.db.accesses = [] ∧ ExitsComplete c := by
  obtain ⟨c, hc, hfacts⟩ := (Option.any_eq_true _ _).1
    (show ((system .withoutCipher some).run (.start .empty) completedExit).any (fun c =>
      decide ((c.db.workspaces.map (·.exitCompletedAt)) = [some 700] ∧
        c.db.members = [] ∧ c.db.accesses = [])) = true by decide +kernel)
  obtain ⟨hworkspaces, hmembers, haccesses⟩ := of_decide_eq_true hfacts
  have hinit : (system .withoutCipher some).init (.start .empty) := init_start _ rfl
  exact ⟨c, hc, hworkspaces, hmembers, haccesses,
    exits_completed (TransitionSystem.Reachable.run (.initial hinit) hc)⟩

end Workspaces

end Rulefolio
