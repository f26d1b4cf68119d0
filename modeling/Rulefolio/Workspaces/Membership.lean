import Rulefolio.Access
import Rulefolio.Notifications.Todos

/-!
# `app.workspaces.service`: members, accesses and the writable check

The functions the other packages call: they read the rows of `workspaces`, `workspace_members` and
`work_accesses`, lock them, or change one of them.

## Main definitions

* `ensureWritable`, `ensureAuthorizedWritable` — the two writable checks.
* `workAccessRole`, `lockWorkMembers`, `lockWorkAccesses` — reads, without and with locks.
* `addWorkAccess`, `updateWorkAccessRole`, `deleteWorkAccess`.
-/

namespace Rulefolio

namespace Workspaces

/-! ## Reads -/

/-- `_load_visible_workspace`. -/
def loadVisibleWorkspace (workspaceId : Uuid) : Program Workspace := do
  let workspace ← Tx.read fun db : Database => db.workspaces.find? (·.id == workspaceId)
  Tx.require workspace .workspaceUnavailable

/-- `ensure_workspace_writable`. -/
def ensureWritable (workspaceId : Uuid) : Program Unit :=
  Tx.check (ensureWorkspaceWritable · workspaceId)

/-- `ensure_authorized_workspace_writable`. -/
def ensureAuthorizedWritable (workspaceId : Uuid) : Program Unit := do
  let allowed ← Tx.read (exitAllowsWrite none workspaceId)
  Tx.ensure allowed .workspaceExitInProgress

/-- `has_workspace_member`. -/
def hasWorkspaceMember (workspaceId accountId : Uuid) : Program Bool :=
  Tx.read fun db => db.members.any fun m =>
    m.workspaceId == workspaceId && m.accountId == accountId

/-- `work_access_role`. -/
def workAccessRole (workId accountId : Uuid) : Program (Option WorkRole) :=
  Tx.read fun db => (db.accesses.find? fun a =>
    a.workId == workId && a.accountId == accountId).map (·.role)

/-- `lock_work_members`: which of the accounts are members, with their rows locked. -/
def lockWorkMembers (workspaceId : Uuid) (accountIds : List Uuid) : Program (List Uuid) := do
  let members ← Tx.selectAllForUpdate (fun m => .member m.workspaceId m.accountId) fun db =>
    db.members.filter fun m => m.workspaceId == workspaceId && accountIds.contains m.accountId &&
      exitAllowsWrite none workspaceId db
  return members.map (·.accountId)

/-- `lock_work_accesses`. -/
def lockWorkAccesses (workId : Uuid) : Program (List WorkAccess) :=
  Tx.selectAllForUpdate (fun a => .access a.workId a.accountId) fun db =>
    db.accesses.filter fun a => a.workId == workId && exitAllowsWrite none a.workspaceId db

/-! ## Writes -/

/-- Whether the row of an account's access to a work is this one. -/
def isAccess (workId accountId : Uuid) (a : WorkAccess) : Bool :=
  a.workId == workId && a.accountId == accountId

/-- `add_work_access`, when its session is flushed. -/
def addWorkAccess (workId workspaceId accountId : Uuid) (role : WorkRole) : Program Unit :=
  insertRow [.access workId accountId] (fun db => !db.accesses.any (isAccess workId accountId))
    (exitAllowsWrite none workspaceId) fun db =>
      { db with accesses := ⟨workId, workspaceId, accountId, role⟩ :: db.accesses }

/-- `update_work_access_role`. The caller has the row locked. -/
def updateWorkAccessRole (workId accountId : Uuid) (role : WorkRole) : Program Unit :=
  Tx.write fun v db => { db with
    accesses := Table.update
      (fun a => isAccess workId accountId a && exitAllowsWrite none a.workspaceId v)
      (fun a => { a with role := role }) db.accesses }

/-- `delete_work_access`. The caller has the row locked. -/
def deleteWorkAccess (workId accountId : Uuid) : Program Unit :=
  Tx.write fun v db => { db with
    accesses := Table.delete
      (fun a => isAccess workId accountId a && exitAllowsWrite none a.workspaceId v)
      db.accesses }

/-! ## The reads change nothing -/

variable {F : Database → Database → Prop}

theorem loadVisibleWorkspace_within (hF : ∀ s, F s s) (workspaceId : Uuid) :
    (loadVisibleWorkspace workspaceId).Within F fun _ => True :=
  Tx.Within.read_bind hF fun _ => Tx.Within.require' _ _

theorem ensureWritable_within (hF : ∀ s, F s s) (workspaceId : Uuid) :
    (ensureWritable workspaceId).Within F fun _ => True :=
  Tx.Within.check hF _ fun _ _ _ => trivial

theorem ensureAuthorizedWritable_within (hF : ∀ s, F s s) (workspaceId : Uuid) :
    (ensureAuthorizedWritable workspaceId).Within F fun _ => True :=
  Tx.Within.read_bind hF fun _ => Tx.Within.ensure' _ _

theorem workAccessRole_within (hF : ∀ s, F s s) (workId accountId : Uuid) :
    (workAccessRole workId accountId).Within F fun _ => True :=
  Tx.Within.read hF _ fun _ => trivial

end Workspaces

end Rulefolio
