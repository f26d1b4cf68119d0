import Rulefolio.Workspaces.Governance

/-!
# What a commit of a call on workspaces can be

The guarantee of the calls: a commit takes the rows with every key by a `RowsStep`, changes only
rows whose key it has locked, and, for the calls that are about one invitation or one exit, changes
nothing besides. From it follow the invariant of the database, that whoever holds a lock sees its
rows stay the same, and what never goes away, locked or not (`Evolves`).

`Stands` is where a call stands before its commit. The rules below are the statements of the
services: each goes on from a point where the call stands to another.

## Main definitions

* `Accepted`, `Declined` — the commits of an exchange.
* `Granted`, `Requested` — the commits of a request for an exit.
* `Commit`, `guarantee`, `WellFormed`, `Evolves`.
* `Respects`, `concurrent` — the environment the calls make for each other.
* `Stands` — where a call stands before its commit.

## Main results

* `Commit.wellFormed`, `Commit.evolves`, `respects_concurrent`.
* `Stands.insertRow_bind`, `Stands.updateRow_bind`, `Stands.write_bind` — the rules.
-/

namespace Rulefolio

namespace Workspaces

open ReadCommitted

/-! ## Commits -/

/-- The exchange accepts an invitation: the invitation is over, its credential is consumed, the
account is a member, and of the rows that `rowsAt` covers no other changes. The account itself, its
todo, the mails and the audit are not among them, and an exchange changes these too. -/
structure Accepted (call : Call) (i : WorkspaceInvitation) (c : OneTimeCredential)
    (db db' : Database) : Prop where
  exchanges : call.Exchanges i db
  active : i.status = .active
  invitation : (rowsAt (invitationKey i) db).invitations = [i]
  accepted : ∃ now operation operationKey, call.exchange = some (operation, operationKey) ∧
    (rowsAt (invitationKey i) db').invitations = [markAccepted now operation operationKey i]
  credentialId : i.credentialId = c.id
  usable : c.status = .active
  credential : (rowsAt (credentialKey c) db).credentials = [c]
  consumed : (rowsAt (credentialKey c) db').credentials = [{ c with status := .consumed }]
  absent : (rowsAt (.member i.workspaceId i.accountId) db).members = []
  member : (rowsAt (.member i.workspaceId i.accountId) db').members
    = [⟨i.workspaceId, i.accountId⟩]
  others : ∀ k, k ≠ invitationKey i → k ≠ credentialKey c →
    k ≠ .member i.workspaceId i.accountId → rowsAt k db' = rowsAt k db

/-- The exchange makes nobody a member and accepts nothing. -/
structure Declined (db db' : Database) : Prop where
  members : ∀ k, (rowsAt k db').members = (rowsAt k db).members
  invitations : ∀ k, ∀ i ∈ (rowsAt k db').invitations, i.status = .accepted →
    i ∈ (rowsAt k db).invitations

/-- The owner, whose password was checked, asks for an exit at the revision of the workspace, and
it is granted. -/
structure Granted (call : Call) (db db' : Database) (w : Workspace) (now readUntil : Timestamp)
    (operationKey : String) : Prop where
  request : call = .requestWorkspaceExit now true w.ownerAccountId w.id w.revision
    (some readUntil) operationKey
  window : now < readUntil
  exit : w.exitRequestedAt = none
  before : w ∈ db.workspaces
  after : requestExit now readUntil w.ownerAccountId operationKey w ∈ db'.workspaces

/-- A request for an exit changes nothing, or it is the one that is granted, and of the rows that
`rowsAt` covers no other changes. -/
inductive Requested (call : Call) : Database → Database → Prop
  | replayed (db : Database) : Requested call db db
  | granted (db db' : Database) (w : Workspace) (now readUntil : Timestamp) (operationKey : String)
      (hgranted : Granted call db db' w now readUntil operationKey)
      (hbefore : (rowsAt (workspaceKey w) db).workspaces = [w])
      (hafter : (rowsAt (workspaceKey w) db').workspaces
        = [requestExit now readUntil w.ownerAccountId operationKey w])
      (hothers : ∀ k, k ≠ workspaceKey w → rowsAt k db' = rowsAt k db) :
      Requested call db db'

/-- Whether a call is a request for an exit. -/
def Call.requestsExit : Call → Bool
  | requestWorkspaceExit .. => true
  | _ => false

/-- The workspace was not over and is, and nobody is left in it. -/
structure Emptied (workspaceId : Uuid) (db db' : Database) : Prop where
  running : ∃ w ∈ db.workspaces, w.id = workspaceId ∧ w.exitCompletedAt = none
  ended : ∃ w ∈ db'.workspaces, w.id = workspaceId ∧ w.exitRequestedAt.isSome = true ∧
    w.exitCompletedAt.isSome = true
  members : ∀ m ∈ db'.members, m.workspaceId ≠ workspaceId
  accesses : ∀ a ∈ db'.accesses, a.workspaceId ≠ workspaceId

theorem running_of_isDue {now : Timestamp} {w : Workspace} (h : isDue now w = true) :
    w.exitRequestedAt.isSome = true ∧ w.exitCompletedAt = none := by
  rw [isDue, Bool.and_eq_true, Bool.and_eq_true, Option.isNone_iff_eq_none] at h
  exact h.1

/-- The workspace whose exit a call completes, if it does. -/
def Call.completes : Call → Option Uuid
  | processNextDueWorkspaceExit _ pick => some pick
  | _ => none

/-- What a commit of a call does. -/
structure Commit (call : Call) (H : Set (RowKey × RowLock)) (db db' : Database) : Prop where
  steps : ∀ k, RowsStep call (rowsAt k db) (rowsAt k db')
  locked : ∀ k, rowsAt k db' ≠ rowsAt k db → (k, .update) ∈ H
  governs : Governs H db db'
  exchange : call.exchange.isSome = true →
    (∃ i c, Accepted call i c db db') ∨ Declined db db'
  request : call.requestsExit = true → Requested call db db'
  exit : ∀ workspaceId, call.completes = some workspaceId → Emptied workspaceId db db'

/-- A call commits at most once. -/
def guarantee (call : Call) : Tx.Guarantee Database RowKey :=
  fun commits H db db' => commits = 0 ∧ Commit call H db db'

/-- The invariant of the database: one row a key. -/
def WellFormed (db : Database) : Prop := ∀ k, (rowsAt k db).Single

theorem wellFormed_empty : WellFormed Database.empty := fun _ =>
  ⟨Nat.zero_le 1, Nat.zero_le 1, Nat.zero_le 1, Nat.zero_le 1, Nat.zero_le 1, Nat.zero_le 1,
    Nat.zero_le 1, Nat.zero_le 1⟩

theorem Commit.wellFormed {call : Call} {H : Set (RowKey × RowLock)} {db db' : Database}
    (h : Commit call H db db') (hdb : WellFormed db) : WellFormed db' := fun k =>
  (h.steps k).single (hdb k)

/-! ## What never goes away -/

/-- The workspace but for the end of its exit. -/
def SameExit (w w' : Workspace) : Prop :=
  w' = { w with exitCompletedAt := w'.exitCompletedAt }

theorem SameExit.trans {w w' w'' : Workspace} (h : SameExit w w') (h' : SameExit w' w'') :
    SameExit w w'' := by
  rw [SameExit] at h h' ⊢
  rw [h', h]

/-- What becomes of a workspace: it keeps its owner, and an exit once requested, and when it is over
nothing becomes of it. -/
structure Continues (w w' : Workspace) : Prop where
  id : w'.id = w.id
  owner : w'.ownerAccountId = w.ownerAccountId
  exit : w.exitRequestedAt.isSome = true → SameExit w w'
  ended : w.exitRequestedAt.isSome = true → w.exitCompletedAt.isSome = true → w' = w

theorem Continues.refl (w : Workspace) : Continues w w :=
  ⟨rfl, rfl, fun _ => rfl, fun _ _ => rfl⟩

theorem Continues.trans {w w' w'' : Workspace} (h : Continues w w') (h' : Continues w' w'') :
    Continues w w'' where
  id := h'.id.trans h.id
  owner := h'.owner.trans h.owner
  exit hexit := by
    have hsame := h.exit hexit
    refine hsame.trans (h'.exit ?_)
    rw [SameExit] at hsame
    rw [hsame]
    exact hexit
  ended hexit hover := by
    obtain rfl := h.ended hexit hover
    exact h'.ended hexit hover

/-- What every commit leaves as it is: invitations that were accepted, what credentials are for,
workspaces with their owners and exits, and where the works belong. -/
structure Evolves (db db' : Database) : Prop where
  invitation : ∀ i ∈ db.invitations, i.status = .accepted → i ∈ db'.invitations
  credential : ∀ tokenHash, ∀ c ∈ db.credentials, Identity.hasToken tokenHash c = true →
    ∃ d ∈ db'.credentials, Identity.hasToken tokenHash d = true ∧ d.id = c.id
  workspace : ∀ w ∈ db.workspaces, ∃ w' ∈ db'.workspaces, Continues w w'
  work : ∀ workId, ∀ workspaceId ∈ (rowsAt (.work workId) db).works,
    workspaceId ∈ (rowsAt (.work workId) db').works

theorem Evolves.refl (db : Database) : Evolves db db where
  invitation _ hi _ := hi
  credential _ c hc hhash := ⟨c, hc, hhash, rfl⟩
  workspace w hw := ⟨w, hw, .refl w⟩
  work _ _ hwork := hwork

theorem Evolves.trans {db db' db'' : Database} (h : Evolves db db') (h' : Evolves db' db'') :
    Evolves db db'' where
  invitation i hi hstatus := h'.invitation i (h.invitation i hi hstatus) hstatus
  credential tokenHash c hc hhash := by
    obtain ⟨d, hd, hdhash, hdid⟩ := h.credential tokenHash c hc hhash
    obtain ⟨e, he, hehash, heid⟩ := h'.credential tokenHash d hd hdhash
    exact ⟨e, he, hehash, heid.trans hdid⟩
  workspace w hw := by
    obtain ⟨w', hw', hcontinues⟩ := h.workspace w hw
    obtain ⟨w'', hw'', hcontinues'⟩ := h'.workspace w' hw'
    exact ⟨w'', hw'', hcontinues.trans hcontinues'⟩
  work workId workspaceId hwork := h'.work workId workspaceId (h.work workId workspaceId hwork)

theorem Insertion.mem {ρ : Type} {v w : List ρ} (h : Insertion v w) {r : ρ} (hr : r ∈ v) :
    r ∈ w := by
  cases h with
  | stays => exact hr
  | inserted => exact absurd hr List.not_mem_nil

theorem InvitationStep.mem_accepted {call : Call} {v w : List WorkspaceInvitation}
    (h : InvitationStep call v w) {i : WorkspaceInvitation} (hi : i ∈ v)
    (hstatus : i.status = .accepted) : i ∈ w := by
  cases h with
  | stays => exact hi
  | created => exact absurd hi List.not_mem_nil
  | ended j _ _ hactive =>
    rw [List.mem_singleton.1 hi, hactive] at hstatus
    cases hstatus
  | accepted j _ _ _ _ hactive =>
    rw [List.mem_singleton.1 hi, hactive] at hstatus
    cases hstatus

theorem CredentialStep.mem_keeps {call : Call} {v w : List OneTimeCredential}
    (h : CredentialStep call v w) {c : OneTimeCredential} (hc : c ∈ v) :
    ∃ status, { c with status := status } ∈ w := by
  cases h with
  | stays => exact ⟨c.status, hc⟩
  | issued => exact absurd hc List.not_mem_nil
  | revoked d =>
    rw [List.mem_singleton.1 hc]
    exact ⟨.revoked, List.mem_singleton_self _⟩
  | consumed d =>
    rw [List.mem_singleton.1 hc]
    exact ⟨.consumed, List.mem_singleton_self _⟩

theorem WorkspaceStep.mem_continues {call : Call} {v w : List Workspace}
    (h : WorkspaceStep call v w) {a : Workspace} (ha : a ∈ v) : ∃ b ∈ w, Continues a b := by
  cases h with
  | stays => exact ⟨a, ha, .refl a⟩
  | created => exact absurd ha List.not_mem_nil
  | requested b now readUntil _ actorId _ operationKey _ _ _ _ _ hnone =>
    rw [List.mem_singleton.1 ha]
    have hopen : ¬ b.exitRequestedAt.isSome = true := by simp [hnone]
    exact ⟨_, List.mem_singleton_self _, rfl, rfl, fun hexit => absurd hexit hopen,
      fun hexit => absurd hexit hopen⟩
  | completed b now _ hdue =>
    rw [List.mem_singleton.1 ha]
    have hrunning : ¬ b.exitCompletedAt.isSome = true := by simp [(running_of_isDue hdue).2]
    exact ⟨_, List.mem_singleton_self _, rfl, rfl, fun _ => rfl,
      fun _ hover => absurd hover hrunning⟩

theorem mem_invitations {i : WorkspaceInvitation} {db : Database} {k : RowKey} :
    i ∈ (rowsAt k db).invitations ↔ i ∈ db.invitations ∧ invitationKey i = k :=
  Table.mem_rowsWith

theorem mem_credentials {c : OneTimeCredential} {db : Database} {k : RowKey} :
    c ∈ (rowsAt k db).credentials ↔
      (c ∈ db.credentials ∧ Identity.isInvitationCredential c = true) ∧ credentialKey c = k := by
  rw [← List.mem_filter]
  exact Table.mem_rowsWith

theorem Commit.evolves {call : Call} {H : Set (RowKey × RowLock)} {db db' : Database}
    (h : Commit call H db db') : Evolves db db' where
  invitation i hi hstatus :=
    (mem_invitations.1 ((h.steps (invitationKey i)).invitations.mem_accepted
      (mem_invitations.2 ⟨hi, rfl⟩) hstatus)).1
  credential tokenHash c hc hhash := by
    have hpurpose : Identity.isInvitationCredential c = true := (Bool.and_eq_true_iff.1 hhash).1
    obtain ⟨status, hmem⟩ := (h.steps (credentialKey c)).credentials.mem_keeps
      (mem_credentials.2 ⟨⟨hc, hpurpose⟩, rfl⟩)
    exact ⟨_, (mem_credentials.1 hmem).1.1, hhash, rfl⟩
  workspace w hw := by
    obtain ⟨w', hmem, hcontinues⟩ :=
      (h.steps (workspaceKey w)).workspaces.mem_continues (mem_workspaces.2 ⟨hw, rfl⟩)
    exact ⟨w', (mem_workspaces.1 hmem).1, hcontinues⟩
  work workId _ hwork := (h.steps (.work workId)).works.mem hwork

/-! ## What comes into being only under locks -/

/-- No account becomes a member of the workspace. -/
def NoJoin (workspaceId : Uuid) (db db' : Database) : Prop :=
  ∀ m ∈ db'.members, m.workspaceId = workspaceId → m ∈ db.members

/-- The account is given no role in a work of the workspace. -/
def NoGrant (workspaceId accountId : Uuid) (db db' : Database) : Prop :=
  ∀ a ∈ db'.accesses, a.workspaceId = workspaceId → a.accountId = accountId → a ∈ db.accesses

theorem Governs.noJoin {H H' : Set (RowKey × RowLock)} {db db' : Database} (h : Governs H db db')
    (hc : Compatible H H') {workspaceId : Uuid} (hlock : (.workspace workspaceId, .update) ∈ H') :
    NoJoin workspaceId db db' := by
  rintro m hm rfl
  rcases h.joins m hm with hold | ⟨mode, hmode⟩
  · exact hold
  · exact absurd hmode (hc.symm.notMem hlock mode)

theorem Governs.noGrant {H H' : Set (RowKey × RowLock)} {db db' : Database} (h : Governs H db db')
    (hc : Compatible H H') {workspaceId accountId : Uuid}
    (hlock : (.member workspaceId accountId, .update) ∈ H') :
    NoGrant workspaceId accountId db db' := by
  rintro a ha rfl rfl
  rcases h.grants a ha with hold | ⟨-, hmode⟩
  · exact hold
  · exact absurd hmode (hc.symm.notMem hlock .update)

/-! ## The environment -/

/-- What a call relies on: whoever holds a lock sees its rows stay the same, nobody joins a
workspace it has locked or is given a role as a member it has locked, and what never goes away
stays. -/
structure Respects (E : Environment Database RowKey) : Prop where
  views : rowViews.Respected E
  wellFormed : ∀ {db}, E.Inv db → WellFormed db
  governed : ∀ {db}, E.Inv db → Governed db
  evolves : ∀ {H db db'}, E.Rely H db db' → Evolves db db'
  noJoin : ∀ {H db db'} workspaceId, E.Rely H db db' → (.workspace workspaceId, .update) ∈ H →
    NoJoin workspaceId db db'
  noGrant : ∀ {H db db'} workspaceId accountId, E.Rely H db db' →
    (.member workspaceId accountId, .update) ∈ H → NoGrant workspaceId accountId db db'

/-- The environment the calls make for each other. -/
abbrev concurrent : Environment Database RowKey :=
  environment (fun db => WellFormed db ∧ Governed db) guarantee

theorem closed_concurrent : Closed concurrent guarantee :=
  closed_environment fun _ _ _ _ _ hs hG => ⟨hG.2.wellFormed hs.1, hG.2.governs.keeps hs.2⟩

/-- **The calls respect each other's locks.** -/
theorem respects_concurrent : Respects concurrent where
  views := LockedViews.respected_environment fun _ _ _ _ _ hG => hG.2.locked
  wellFormed h := h.1
  governed h := h.2
  evolves hr := relates_of_rely Evolves.refl (fun _ _ _ h h' => h.trans h')
    (fun _ _ _ _ _ _ hG _ => hG.2.evolves) hr
  noJoin workspaceId hr hlock := relates_of_rely (R := NoJoin workspaceId)
    (fun _ _ hm _ => hm) (fun _ _ _ h h' m hm hid => h m (h' m hm hid) hid)
    (fun _ _ _ _ _ _ hG hc => hG.2.governs.noJoin hc hlock) hr
  noGrant workspaceId accountId hr hlock := relates_of_rely (R := NoGrant workspaceId accountId)
    (fun _ _ ha _ _ => ha)
    (fun _ _ _ h h' a ha hid haccount => h a (h' a ha hid haccount) hid haccount)
    (fun _ _ _ _ _ _ hG hc => hG.2.governs.noGrant hc hlock) hr

end Workspaces

end Rulefolio
