import Rulefolio.Library.LockedRows
import Rulefolio.Workspaces.Service

/-!
# Calls on workspaces, interleaved

Any number of service calls that create, join, govern and end workspaces, each on its own
connection, with the calls on works that change who may do what. The rest of the application is a
call that changes what these calls do not own (`keepGovernance`).

The tables are looked at through the rows with one key (`Database.rowsAt`): the rows a lock on that
key guards. What a commit can make of them is a relation between the rows before and after
(`RowsStep`), with one constructor for each way in which the services change a table.

## Main definitions

* `Call`, `Call.program`, `Outcome`.
* `Database.rowsAt`, `rowViews` — the rows with one key, guarded by its lock.
* `RowsStep` — what a commit makes of them.
-/

namespace Rulefolio

namespace Workspaces

/-! ## The calls -/

/-- What is kept of a change made elsewhere. Other packages issue credentials of their own. -/
def keepGovernance (db db' : Database) : Database :=
  { db' with
    workspaces := db.workspaces
    members := db.members
    invitations := db.invitations
    accesses := db.accesses
    works := db.works
    credentials := db.credentials.filter Identity.isInvitationCredential ++
      db'.credentials.filter (!Identity.isInvitationCredential ·) }

/-- One call of a service, with what it is given. -/
inductive Call
  | createWorkspace (uuids : Uuids) (actorId : Uuid) (name : String) (description : Option String)
  | createInvitation (uuids : Uuids) (now : Timestamp) (token : Token) (actorId workspaceId : Uuid)
      (email : String)
  | revokeInvitation (now : Timestamp) (actorId workspaceId invitationId : Uuid)
  | removeMember (now : Timestamp) (actorId workspaceId accountId : Uuid)
  | expireOpenWorkspaceInvitationTodos (now : Timestamp) (recipientId : Uuid)
  | exchangeCurrentSessionInvitation (now : Timestamp) (limited : Bool) (actorId : Uuid)
      (tokenHash : Bytes) (operationKey : String)
  | exchangeInboxInvitation (now : Timestamp) (actorId invitationId : Uuid) (operationKey : String)
  | exchangeAccountActivationInvitation (now : Timestamp) (limited validPassword : Bool)
      (tokenHash : Bytes) (operationKey : String)
  | requestWorkspaceExit (now : Timestamp) (verified : Bool) (actorId workspaceId : Uuid)
      (expectedRevision : ℤ) (readUntil : Option Timestamp) (operationKey : String)
  | processNextDueWorkspaceExit (now : Timestamp) (pick : Uuid)
  | createWork (uuids : Uuids) (actorId workspaceId : Uuid) (values : Works.WorkValues)
  | updateWork (actorId workspaceId workId : Uuid) (values : Works.WorkValues)
      (expectedRevision : ℤ)
  | updateRuleMaterials (actorId workspaceId workId : Uuid) (ruleName : String)
      (ruleDescription : Option String) (ruleContent : String) (materialFileIds : List Uuid)
      (expectedRevision : ℤ)
  | setWorkAccess (now : Timestamp) (actorId workspaceId workId accountId : Uuid) (role : WorkRole)
  | revokeWorkAccess (now : Timestamp) (actorId workspaceId workId accountId : Uuid)
  | elsewhere (change : Database → Database)

/-- What a call returns, as far as it is looked at. -/
inductive Outcome
  | done
  | workspace (data : WorkspaceData)
  | processed (completed : Bool)
  deriving DecidableEq, Repr

namespace Call

/-- Run a program whose value is not looked at. -/
def doing (t : Program Unit) : Program Outcome := t.bind fun _ => .pure .done

/-- Run a program that returns a workspace. -/
def showing (t : Program WorkspaceData) : Program Outcome := t.bind fun data =>
  .pure (.workspace data)

/-- The code of a call. -/
def program (settings : Settings) (normalizeEmail : String → Option String) :
    Call → Program Outcome
  | createWorkspace uuids actorId name description =>
    showing (Workspaces.createWorkspace uuids actorId name description)
  | createInvitation uuids now token actorId workspaceId email =>
    doing (Workspaces.createInvitation settings normalizeEmail uuids now token actorId workspaceId
      email)
  | revokeInvitation now actorId workspaceId invitationId =>
    doing (Workspaces.revokeInvitation now actorId workspaceId invitationId)
  | removeMember now actorId workspaceId accountId =>
    doing (Workspaces.removeMember now actorId workspaceId accountId)
  | expireOpenWorkspaceInvitationTodos now recipientId =>
    doing (Workspaces.expireOpenWorkspaceInvitationTodos now recipientId)
  | exchangeCurrentSessionInvitation now limited actorId tokenHash operationKey =>
    showing (Workspaces.exchangeCurrentSessionInvitation now limited actorId tokenHash
      operationKey)
  | exchangeInboxInvitation now actorId invitationId operationKey =>
    showing (Workspaces.exchangeInboxInvitation now actorId invitationId operationKey)
  | exchangeAccountActivationInvitation now limited validPassword tokenHash operationKey =>
    showing (Workspaces.exchangeAccountActivationInvitation now limited validPassword tokenHash
      operationKey)
  | requestWorkspaceExit now verified actorId workspaceId expectedRevision readUntil
      operationKey =>
    showing (Workspaces.requestWorkspaceExit now verified actorId workspaceId expectedRevision
      readUntil operationKey)
  | processNextDueWorkspaceExit now pick =>
    (Workspaces.processNextDueWorkspaceExit settings now pick).bind fun completed =>
      .pure (.processed completed)
  | createWork uuids actorId workspaceId values =>
    doing (Works.createWork uuids actorId workspaceId values)
  | updateWork actorId workspaceId workId values expectedRevision =>
    doing (Works.updateWork actorId workspaceId workId values expectedRevision)
  | updateRuleMaterials actorId workspaceId workId ruleName ruleDescription ruleContent
      materialFileIds expectedRevision =>
    doing (Works.updateRuleMaterials actorId workspaceId workId ruleName ruleDescription
      ruleContent materialFileIds expectedRevision)
  | setWorkAccess now actorId workspaceId workId accountId role =>
    doing (Works.setWorkAccess now actorId workspaceId workId accountId role)
  | revokeWorkAccess now actorId workspaceId workId accountId =>
    doing (Works.revokeWorkAccess now actorId workspaceId workId accountId)
  | elsewhere change => doing (Rulefolio.elsewhere keepGovernance change)

/-- The path and the operation key of an exchange. -/
def exchange : Call → Option (String × String)
  | exchangeCurrentSessionInvitation _ _ _ _ operationKey => some
    (currentSessionOperation, operationKey)
  | exchangeInboxInvitation _ _ _ operationKey => some (inboxOperation, operationKey)
  | exchangeAccountActivationInvitation _ _ _ _ operationKey => some
    (accountActivationOperation, operationKey)
  | _ => none

/-- Whether an exchange is of this invitation: by the token of its credential, or by its key. -/
def Exchanges (invitation : WorkspaceInvitation) (db : Database) : Call → Prop
  | exchangeCurrentSessionInvitation _ _ _ tokenHash _
  | exchangeAccountActivationInvitation _ _ _ tokenHash _ =>
    ∃ c ∈ db.credentials, Identity.hasToken tokenHash c = true ∧ c.id = invitation.credentialId
  | exchangeInboxInvitation _ actorId invitationId _ =>
    invitation.id = invitationId ∧ invitation.accountId = actorId
  | _ => False

/-- Whether a call may change who is a member, who may do what, or whether a workspace is open. -/
def governs : Call → Bool
  | createInvitation .. | revokeInvitation .. | expireOpenWorkspaceInvitationTodos ..
  | updateWork .. | updateRuleMaterials .. | elsewhere .. => false
  | _ => true

end Call

/-- Any number of calls, on a database that is empty at first. -/
def system (settings : Settings) (normalizeEmail : String → Option String) :
    TransitionSystem (ReadCommitted.Config Database RowKey ServiceError Outcome Call)
      (ReadCommitted.Event Call) :=
  ReadCommitted.system (· = Database.empty) (Call.program settings normalizeEmail)

/-! ## The rows with one key -/

/-- The key of a workspace's row. -/
def workspaceKey (w : Workspace) : RowKey := .workspace w.id

/-- The key of a membership. -/
def memberKey (m : WorkspaceMember) : RowKey := .member m.workspaceId m.accountId

/-- The key of an invitation. -/
def invitationKey (i : WorkspaceInvitation) : RowKey := .invitation i.id

/-- The key an invitation has in the unique index over credentials. -/
def invitationCredentialKey (i : WorkspaceInvitation) : RowKey :=
  .invitationCredential i.credentialId

/-- The key of a credential. -/
def credentialKey (c : OneTimeCredential) : RowKey := .credential c.id

/-- The key a credential has in the unique index over digests. -/
def credentialTokenKey (c : OneTimeCredential) : RowKey := .credentialToken c.tokenHash

/-- The key of an access. -/
def accessKey (a : WorkAccess) : RowKey := .access a.workId a.accountId

/-- The key of a work. -/
def workKey (w : Work) : RowKey := .work w.id

/-- Whether a key is one of a workspace, a member, an access or a work. -/
def isGovernance : RowKey → Bool
  | .workspace .. | .member .. | .access .. | .work .. => true
  | _ => false

/-- The rows a key guards. Of the two further indexes only the keys of the rows are looked at, and
of a work its workspace. -/
@[ext]
structure Rows where
  workspaces : List Workspace
  members : List WorkspaceMember
  invitations : List WorkspaceInvitation
  invitationIds : List Uuid
  credentials : List OneTimeCredential
  credentialIds : List Uuid
  accesses : List WorkAccess
  works : List Uuid
  deriving DecidableEq, Repr

/-- The rows with a key, of workspaces, their members and invitations, the credentials of these,
works and the roles in them. The other tables that the calls write are not covered. -/
def rowsAt (key : RowKey) (db : Database) : Rows where
  workspaces := Table.rowsWith workspaceKey key db.workspaces
  members := Table.rowsWith memberKey key db.members
  invitations := Table.rowsWith invitationKey key db.invitations
  invitationIds := (Table.rowsWith invitationCredentialKey key db.invitations).map (·.id)
  credentials := Table.rowsWith credentialKey key
    (db.credentials.filter Identity.isInvitationCredential)
  credentialIds := (Table.rowsWith credentialTokenKey key
    (db.credentials.filter Identity.isInvitationCredential)).map (·.id)
  accesses := Table.rowsWith accessKey key db.accesses
  works := (Table.rowsWith workKey key db.works).map (·.workspaceId)

/-- The rows with a key, guarded by its lock. -/
abbrev rowViews : LockedViews Database RowKey RowKey Rows := ⟨rowsAt, id⟩

/-! ## What a commit makes of them -/

/-- A workspace is created, its exit is requested, or its exit is completed. -/
inductive WorkspaceStep (call : Call) : List Workspace → List Workspace → Prop
  | stays (rows : List Workspace) : WorkspaceStep call rows rows
  | created (w : Workspace) (hexit : w.exitRequestedAt = none) (hdone : w.exitCompletedAt = none) :
      WorkspaceStep call [] [w]
  | requested (w : Workspace) (now readUntil : Timestamp) (verified : Bool) (actorId : Uuid)
      (expectedRevision : ℤ) (operationKey : String)
      (hcall : call = .requestWorkspaceExit now verified actorId w.id expectedRevision
        (some readUntil) operationKey)
      (hverified : verified = true) (howner : w.ownerAccountId = actorId)
      (hrevision : (w.revision : ℤ) = expectedRevision) (hwindow : now < readUntil)
      (hexit : w.exitRequestedAt = none) :
      WorkspaceStep call [w] [requestExit now readUntil actorId operationKey w]
  | completed (w : Workspace) (now : Timestamp)
      (hcall : call = .processNextDueWorkspaceExit now w.id)
      (hdue : isDue now w = true) :
      WorkspaceStep call [w] [{ w with exitCompletedAt := some now }]

/-- An invitation is created, ends without being accepted, or is accepted by an exchange. -/
inductive InvitationStep (call : Call) : List WorkspaceInvitation → List WorkspaceInvitation → Prop
  | stays (rows : List WorkspaceInvitation) : InvitationStep call rows rows
  | created (i : WorkspaceInvitation) (hactive : i.status = .active) : InvitationStep call [] [i]
  | ended (i : WorkspaceInvitation) (status : InvitationStatus) (revokedAt : Option Timestamp)
      (hactive : i.status = .active) (hended : status = .revoked ∨ status = .expired) :
      InvitationStep call [i] [{ i with status := status, revokedAt := revokedAt }]
  | accepted (i : WorkspaceInvitation) (now : Timestamp) (operation operationKey : String)
      (hcall : call.exchange = some (operation, operationKey)) (hactive : i.status = .active) :
      InvitationStep call [i] [markAccepted now operation operationKey i]

/-- A credential is issued, revoked, or consumed by an exchange. -/
inductive CredentialStep (call : Call) : List OneTimeCredential → List OneTimeCredential → Prop
  | stays (rows : List OneTimeCredential) : CredentialStep call rows rows
  | issued (c : OneTimeCredential) : CredentialStep call [] [c]
  | revoked (c : OneTimeCredential) (hactive : c.status = .active) :
      CredentialStep call [c] [{ c with status := .revoked }]
  | consumed (c : OneTimeCredential) (hcall : call.exchange.isSome) (hactive : c.status = .active) :
      CredentialStep call [c] [{ c with status := .consumed }]

/-- A key that is free is taken. -/
inductive Insertion {ρ : Type} : List ρ → List ρ → Prop
  | stays (rows : List ρ) : Insertion rows rows
  | inserted (r : ρ) : Insertion [] [r]

/-- A row comes, goes or is changed, and there is no second one. -/
inductive Replacement {ρ : Type} : List ρ → List ρ → Prop
  | stays (rows : List ρ) : Replacement rows rows
  | replaced (rows rows' : List ρ) (hsingle : rows'.length ≤ 1) : Replacement rows rows'

/-- What a commit of a call makes of the rows with one key. -/
structure RowsStep (call : Call) (v w : Rows) : Prop where
  workspaces : WorkspaceStep call v.workspaces w.workspaces
  members : Replacement v.members w.members
  invitations : InvitationStep call v.invitations w.invitations
  invitationIds : Insertion v.invitationIds w.invitationIds
  credentials : CredentialStep call v.credentials w.credentials
  credentialIds : Insertion v.credentialIds w.credentialIds
  accesses : Replacement v.accesses w.accesses
  works : Insertion v.works w.works

theorem RowsStep.refl (call : Call) (v : Rows) : RowsStep call v v :=
  ⟨.stays _, .stays _, .stays _, .stays _, .stays _, .stays _, .stays _, .stays _⟩

/-! ## One row a key -/

/-- No two rows have this key. -/
structure Rows.Single (v : Rows) : Prop where
  workspaces : v.workspaces.length ≤ 1
  members : v.members.length ≤ 1
  invitations : v.invitations.length ≤ 1
  invitationIds : v.invitationIds.length ≤ 1
  credentials : v.credentials.length ≤ 1
  credentialIds : v.credentialIds.length ≤ 1
  accesses : v.accesses.length ≤ 1
  works : v.works.length ≤ 1

theorem Insertion.length_le {ρ : Type} {v w : List ρ} (h : Insertion v w) (hv : v.length ≤ 1) :
    w.length ≤ 1 := by
  cases h with
  | stays => exact hv
  | inserted r => exact le_refl 1

theorem Replacement.length_le {ρ : Type} {v w : List ρ} (h : Replacement v w)
    (hv : v.length ≤ 1) : w.length ≤ 1 := by
  cases h with
  | stays => exact hv
  | replaced _ hsingle => exact hsingle

theorem WorkspaceStep.length_le {call : Call} {v w : List Workspace} (h : WorkspaceStep call v w)
    (hv : v.length ≤ 1) : w.length ≤ 1 := by
  cases h with
  | stays => exact hv
  | created => exact le_refl 1
  | requested => exact le_refl 1
  | completed => exact le_refl 1

theorem InvitationStep.length_le {call : Call} {v w : List WorkspaceInvitation}
    (h : InvitationStep call v w) (hv : v.length ≤ 1) : w.length ≤ 1 := by
  cases h with
  | stays => exact hv
  | created => exact le_refl 1
  | ended => exact le_refl 1
  | accepted => exact le_refl 1

theorem CredentialStep.length_le {call : Call} {v w : List OneTimeCredential}
    (h : CredentialStep call v w) (hv : v.length ≤ 1) : w.length ≤ 1 := by
  cases h with
  | stays => exact hv
  | issued => exact le_refl 1
  | revoked => exact le_refl 1
  | consumed => exact le_refl 1

theorem RowsStep.single {call : Call} {v w : Rows} (h : RowsStep call v w) (hv : v.Single) :
    w.Single where
  workspaces := h.workspaces.length_le hv.workspaces
  members := h.members.length_le hv.members
  invitations := h.invitations.length_le hv.invitations
  invitationIds := h.invitationIds.length_le hv.invitationIds
  credentials := h.credentials.length_le hv.credentials
  credentialIds := h.credentialIds.length_le hv.credentialIds
  accesses := h.accesses.length_le hv.accesses
  works := h.works.length_le hv.works

end Workspaces

end Rulefolio
