import Rulefolio.Identity.Service
import Rulefolio.Works.Service

/-!
# `app.workspaces.service`

Workspaces, their members and invitations, and their end. An invitation is a row of
`workspace_invitations` and a one-time credential; a mail and, for an account that is active, a
todo go with it. It is accepted on one of three paths, which differ in how they find it, in what
they check and in what a refusal leaves behind, and agree on what accepting is.

Inputs stand for what a call gets from elsewhere: clock readings, new keys, the digest of a token,
whether the rate limiter refuses (its table is left out) and whether a password is right. Where the
source commits the limiter's counter before it raises, the session commits all it has changed.

## Main definitions

* `createWorkspace`, `createInvitation`, `revokeInvitation`, `removeMember`.
* `expireInboxInvitation`, `expireOpenWorkspaceInvitationTodos`.
* `exchangeCurrentSessionInvitation`, `exchangeInboxInvitation`,
  `exchangeAccountActivationInvitation` — the three paths.
* `requestWorkspaceExit`, `processNextDueWorkspaceExit`.
-/

namespace Rulefolio

namespace Workspaces

/-! ## What the functions share -/

/-- `WorkspaceData.access_state`. -/
inductive AccessState
  | active
  | exiting
  deriving DecidableEq, Repr

/-- `WorkspaceData`. -/
structure WorkspaceData where
  id : Uuid
  name : String
  description : Option String
  isOwner : Bool
  revision : ℕ
  accessState : AccessState
  readUntil : Option Timestamp
  deriving DecidableEq, Repr

/-- `_workspace_data`. -/
def workspaceData (workspace : Workspace) (accountId : Uuid) : WorkspaceData where
  id := workspace.id
  name := workspace.name
  description := workspace.description
  isOwner := workspace.ownerAccountId == accountId
  revision := workspace.revision
  accessState := if workspace.exitRequestedAt.isSome then .exiting else .active
  readUntil := workspace.exitReadUntil

/-- What database errors become. -/
def retryable (e : ServiceError) : ServiceError :=
  if e = .sqlalchemyError then .workspaceOperationRetryable else e

/-- The policy `workspace_exit_read`: a workspace is not seen after its window. -/
def isVisible (now : Timestamp) (workspace : Workspace) : Bool :=
  workspace.exitReadUntil.all (now < ·)

/-- `_require_workspace_manager`. -/
def requireWorkspaceManager (workspaceId actorId : Uuid) : Program Workspace := do
  let workspace ← loadVisibleWorkspace workspaceId
  Tx.ensure (workspace.ownerAccountId == actorId) .workspaceManagementForbidden
  return workspace

/-- `ensure_workspace_writable` of a workspace the session has loaded: it is not read again. -/
def ensureLoadedWritable (workspace : Workspace) : Program Unit :=
  Tx.ensure workspace.exitRequestedAt.isNone .workspaceExitInProgress

/-- The `INSERT` of a membership. Its foreign key keeps the workspace from being locked. -/
def addMember (workspaceId accountId : Uuid) : Program Unit := do
  insertRow [.member workspaceId accountId]
    (fun db => !db.members.any fun m => m.workspaceId == workspaceId && m.accountId == accountId)
    (exitAllowsWrite none workspaceId) fun db =>
      { db with members := ⟨workspaceId, accountId⟩ :: db.members }
  Tx.lockAll .keyShare [.workspace workspaceId]

/-- `_invitation_status`. -/
def invitationStatus (invitation : WorkspaceInvitation) (credential : Option OneTimeCredential)
    (now : Timestamp) : InvitationStatus :=
  if invitation.status == .active &&
      credential.all (fun c => c.status != .active || c.expiresAt ≤ now) then .expired
  else invitation.status

/-- The `UPDATE` of an invitation the session has loaded. -/
def updateInvitation (maintenance : Option Uuid) (invitation : WorkspaceInvitation)
    (change : WorkspaceInvitation → WorkspaceInvitation) : Program Unit :=
  updateRow (fun db => db.invitations.any (·.id == invitation.id) &&
      exitAllowsWrite maintenance invitation.workspaceId db) fun db =>
    { db with invitations := Table.update (·.id == invitation.id) change db.invitations }

/-- `_lock_outboxes`. -/
def lockOutboxes (credentialIds : List Uuid) : Program (List MailOutbox) :=
  Tx.selectAllForUpdate (fun r : MailOutbox => .outbox r.id) fun db =>
    db.outbox.filter fun r => r.credentialId.any (credentialIds.contains ·)

/-- `_lock_credentials`. -/
def lockCredentials (credentialIds : List Uuid) : Program (List OneTimeCredential) :=
  Tx.selectAllForUpdate (fun c : OneTimeCredential => .credential c.id) fun db =>
    db.credentials.filter fun c => credentialIds.contains c.id

/-- `_lock_invitations`. -/
def lockInvitations (invitationIds : List Uuid) : Program (List WorkspaceInvitation) :=
  Tx.selectAllForUpdate (fun i : WorkspaceInvitation => .invitation i.id) fun db =>
    db.invitations.filter fun i => invitationIds.contains i.id &&
      exitAllowsWrite none i.workspaceId db

/-- `cancel_todo_by_source` of the todo about an invitation. -/
def cancelInvitationTodo (now : Timestamp) (invitation : WorkspaceInvitation) : Program Unit :=
  Notifications.endAll none now
    (.cancelTodoBySource invitation.accountId .workspaceInvitation (.id invitation.id))

/-! ## Invitations that have expired -/

/-- `invitation.status = "expired"`. -/
def markExpired (i : WorkspaceInvitation) : WorkspaceInvitation :=
  { i with status := .expired }

/-- `invitation.status = "revoked"; invitation.revoked_at = now`. -/
def markRevoked (now : Timestamp) (i : WorkspaceInvitation) : WorkspaceInvitation :=
  { i with status := .revoked, revokedAt := some now }

/-- `_expire_invitation`. -/
def expireInvitation (now : Timestamp) (invitation : WorkspaceInvitation)
    (credential : Option OneTimeCredential) : Program Bool :=
  if invitationStatus invitation credential now = .expired then do
    updateInvitation none invitation markExpired
    cancelInvitationTodo now invitation
    match credential with
    | none => return true
    | some credential => do
      Identity.revokeWorkspaceInvitationCredential credential.id
      Identity.clearEnvelopes [credential.id]
      return true
  else return false

/-- The `SELECT … FOR UPDATE` by which an invitation is found in the inbox. -/
def lockInboxInvitation (accountId invitationId : Uuid) : Program (Option WorkspaceInvitation) :=
  Tx.selectForUpdate (fun i : WorkspaceInvitation => .invitation i.id) fun db : Database =>
    db.invitations.find? fun i => i.id == invitationId && i.accountId == accountId &&
      exitAllowsWrite none i.workspaceId db

/-- `SELECT … FROM identity_one_time_credentials WHERE id = … FOR UPDATE`. -/
def lockCredential (credentialId : Uuid) : Program (Option OneTimeCredential) :=
  Tx.selectFirstForUpdate (fun c : OneTimeCredential => .credential c.id) fun db : Database =>
    db.credentials.filter (·.id == credentialId)

/-- `expire_inbox_invitation`. -/
def expireInboxInvitation (now : Timestamp) (accountId invitationId : Uuid) : Program Bool := do
  match ← lockInboxInvitation accountId invitationId with
  | none => return false
  | some invitation => do
    let _ ← lockOutboxes [invitation.credentialId]
    let credential ← lockCredential invitation.credentialId
    expireInvitation now invitation credential

/-- The loop of `_expire_open_workspace_invitation_todos`: whether anything has expired. -/
def expireInboxInvitations (now : Timestamp) (accountId : Uuid) : List Uuid → Program Bool
  | [] => return false
  | invitationId :: rest => do
    let expired ← expireInboxInvitation now accountId invitationId
    let others ← expireInboxInvitations now accountId rest
    return expired || others

/-- `notifications.service._expire_open_workspace_invitation_todos`, with which an inbox is
listed. -/
def expireOpenWorkspaceInvitationTodos (now : Timestamp) (recipientId : Uuid) : Program Unit := do
  let invitationIds ← Tx.read fun db : Database => (db.todos.filter fun t =>
    t.recipientAccountId == recipientId && t.kind == .workspaceInvitation &&
      t.status == .opened).map (·.targetId)
  let expired ← expireInboxInvitations now recipientId invitationIds
  if expired then Tx.commitNow else return ()

/-- The loop of `_expire_active_invitations` over the candidates: whether one is still active. -/
def expireCandidates (now : Timestamp) (workspaceId accountId : Uuid)
    (credentials : List OneTimeCredential) (invitations : List WorkspaceInvitation) :
    List (Uuid × Uuid) → Program Bool
  | [] => return false
  | (invitationId, credentialId) :: rest => do
    match invitations.find? fun i => i.id == invitationId && i.workspaceId == workspaceId &&
        i.accountId == accountId && i.credentialId == credentialId && i.status == .active with
    | none => expireCandidates now workspaceId accountId credentials invitations rest
    | some invitation => do
      let expired ← expireInvitation now invitation
        (credentials.find? (·.id == invitation.credentialId))
      let others ← expireCandidates now workspaceId accountId credentials invitations rest
      return !expired || others

/-- The active invitations of an account to a workspace, with their credentials. -/
def activeCandidates (workspaceId accountId : Uuid) : Program (List (Uuid × Uuid)) :=
  Tx.read fun db => (db.invitations.filter fun i => i.workspaceId == workspaceId &&
    i.accountId == accountId && i.status == .active).map fun i => (i.id, i.credentialId)

/-- `_expire_active_invitations`: whether an invitation is left. -/
def expireActiveInvitations (now : Timestamp) (workspaceId accountId : Uuid) : Program Bool := do
  let candidates ← activeCandidates workspaceId accountId
  let _ ← lockOutboxes (candidates.map (·.2))
  let credentials ← lockCredentials (candidates.map (·.2))
  let invitations ← lockInvitations (candidates.map (·.1))
  expireCandidates now workspaceId accountId credentials invitations candidates

/-! ## Creating -/

/-- `create_workspace`. -/
def createWorkspace (uuids : Uuids) (actorId : Uuid) (name : String) (description : Option String) :
    Program WorkspaceData := do
  let name := strip name
  let description := (description.map strip).filter (!·.isEmpty)
  Tx.ensure (!name.isEmpty) .valueError
  let workspace : Workspace :=
    ⟨uuids.here, name, description, actorId, 1, none, none, none, none, none⟩
  Tx.mapError retryable do
    insertRow [.workspace workspace.id] (fun db => !db.workspaces.any (·.id == workspace.id))
      (fun _ => true) fun db => { db with workspaces := workspace :: db.workspaces }
    addMember workspace.id actorId
    Tx.commitNow
    return workspaceData workspace actorId

/-- The `INSERT` of an invitation. -/
def addInvitation (invitation : WorkspaceInvitation) : Program Unit :=
  insertRow [.invitation invitation.id, .invitationCredential invitation.credentialId,
      .activeInvitation invitation.workspaceId invitation.accountId]
    (fun db => !db.invitations.any fun i => i.id == invitation.id ||
      i.credentialId == invitation.credentialId || (i.workspaceId == invitation.workspaceId &&
        i.accountId == invitation.accountId && i.status == .active))
    (exitAllowsWrite none invitation.workspaceId) fun db =>
      { db with invitations := invitation :: db.invitations }

/-- The todo `create_invitation` creates. -/
def invitationTodo (id : Uuid) (workspace : Workspace) (invitation : WorkspaceInvitation) :
    NotificationTodo :=
  Notifications.todoRow id invitation.accountId workspace.id none .workspaceInvitation
    .workspaceInvitation invitation.id (.id invitation.id) "加入工作空间邀请"
    ("工作空间：" ++ workspace.name)

/-- `create_todo` for an account that is active. -/
def todoForActive (uuids : Uuids) (account : Account) (workspace : Workspace)
    (invitation : WorkspaceInvitation) : Program (Option Uuid) :=
  if account.status = .active then do
    let (todoId, _) ← Notifications.createTodo (invitationTodo uuids.here workspace invitation)
    return some todoId
  else return none

/-- The one-time token `create_invitation` issues: its digest, the end of its life, and what the
cipher makes of it. -/
structure Token where
  hash : Bytes
  expiresAt : Timestamp
  nonce : Bytes
  ciphertext : Bytes
  deriving DecidableEq, Repr

/-- `create_invitation`. -/
def createInvitation (settings : Settings) (normalizeEmail : String → Option String)
    (uuids : Uuids) (now : Timestamp) (token : Token) (actorId workspaceId : Uuid)
    (email : String) : Program Unit :=
  Tx.mapError retryable do
    let workspace ← requireWorkspaceManager workspaceId actorId
    ensureLoadedWritable workspace
    let account ← Identity.getOrCreateInvitationAccount normalizeEmail (uuids.sub 0).here email
    Tx.ensure (account.status != .disabled) .invitationRecipientUnavailable
    let isMember ← hasWorkspaceMember workspace.id account.id
    Tx.ensure (!isMember) .workspaceMemberExists
    let active ← expireActiveInvitations now workspace.id account.id
    Tx.ensure (!active) .workspaceInvitationExists
    let credential ← Identity.issueWorkspaceInvitationCredential (uuids.sub 1).here token.hash
      token.expiresAt account
    let invitation : WorkspaceInvitation := ⟨(uuids.sub 2).here, workspace.id, account.id,
      credential.id, .active, none, none, none, none⟩
    addInvitation invitation
    let todoId ← todoForActive (uuids.sub 3) account workspace invitation
    Notifications.enqueueMail (Notifications.enqueueTokenMail settings (uuids.sub 4).here
      credential.id account.id .workspaceInvitation token.nonce token.ciphertext
      (some workspace.name) todoId now)
    Tx.commitNow

/-! ## Revoking -/

/-- One of the two branches by which `revoke_invitation` ends an invitation. -/
def endInvitation (now : Timestamp) (invitation : WorkspaceInvitation)
    (credential : OneTimeCredential) (change : WorkspaceInvitation → WorkspaceInvitation) :
    Program Unit := do
  updateInvitation none invitation change
  Identity.revokeWorkspaceInvitationCredential credential.id
  cancelInvitationTodo now invitation
  Identity.clearEnvelopes [credential.id]

/-- What `revoke_invitation` does to an invitation: nothing to one that is over. -/
def closeInvitation (now : Timestamp) (invitation : WorkspaceInvitation)
    (credential : OneTimeCredential) : Program Unit :=
  if invitationStatus invitation (some credential) now = .expired then
    endInvitation now invitation credential markExpired
  else if invitation.status = .active then
    endInvitation now invitation credential (markRevoked now)
  else return ()

/-- `revoke_invitation`. -/
def revokeInvitation (now : Timestamp) (actorId workspaceId invitationId : Uuid) : Program Unit :=
  Tx.mapError retryable do
    let workspace ← requireWorkspaceManager workspaceId actorId
    ensureLoadedWritable workspace
    let candidate ← Tx.read fun db : Database => db.invitations.find? fun i =>
      i.workspaceId == workspace.id && i.id == invitationId
    let candidate ← Tx.require candidate .workspaceInvitationUnavailable
    let _ ← lockOutboxes [candidate.credentialId]
    let credentials ← lockCredentials [candidate.credentialId]
    let invitations ← lockInvitations [candidate.id]
    let invitation ← Tx.require invitations.head? .workspaceInvitationUnavailable
    let credential ← Tx.require credentials.head? .workspaceInvitationUnavailable
    Tx.ensure (invitation.workspaceId == workspace.id && invitation.credentialId == credential.id)
      .workspaceInvitationUnavailable
    closeInvitation now invitation credential
    let account ← Tx.read fun db : Database => db.accounts.find? (·.id == invitation.accountId)
    Tx.ensure account.isSome .workspaceInvitationUnavailable
    Tx.commitNow

/-- The `SELECT … FOR UPDATE` of every access to a work that `remove_member` sees. -/
def lockManagedAccesses (workspaceId workId : Uuid) : Program (List WorkAccess) :=
  Tx.selectAllForUpdate (fun a : WorkAccess => .access a.workId a.accountId) fun db =>
    db.accesses.filter fun a => a.workId == workId && a.workspaceId == workspaceId &&
      exitAllowsWrite none a.workspaceId db

/-- One turn of the loop of `remove_member` over the works. -/
def revokeManagedAccess (now : Timestamp) (workspaceId accountId workId : Uuid) : Program Unit := do
  let accesses ← lockManagedAccesses workspaceId workId
  match accesses.find? (·.accountId == accountId) with
  | none => return ()
  | some access => do
    Tx.ensure (!(access.role == .maintainer && Works.maintainers accesses == 1))
      .workspaceMemberLastMaintainerRequired
    Notifications.endAll none now (.deleteWorkAccessTodos accountId workId)
    deleteWorkAccess workId accountId

/-- The loop of `remove_member` over the candidates, and the envelopes it clears after it. -/
def revokeCandidates (now : Timestamp) (workspaceId accountId : Uuid)
    (credentials : List OneTimeCredential) (invitations : List WorkspaceInvitation) :
    List (Uuid × Uuid) → List Uuid → Program Unit
  | [], revoked => Identity.clearEnvelopes revoked
  | (invitationId, credentialId) :: rest, revoked => do
    match invitations.find? fun i => i.id == invitationId && i.workspaceId == workspaceId &&
        i.accountId == accountId && i.credentialId == credentialId && i.status == .active with
    | none => revokeCandidates now workspaceId accountId credentials invitations rest revoked
    | some invitation => do
      updateInvitation none invitation (markRevoked now)
      cancelInvitationTodo now invitation
      match credentials.find? (·.id == invitation.credentialId) with
      | none => revokeCandidates now workspaceId accountId credentials invitations rest revoked
      | some credential => do
        Identity.revokeWorkspaceInvitationCredential credential.id
        revokeCandidates now workspaceId accountId credentials invitations rest
          (revoked ++ [credential.id])

/-- `remove_member`. The policies of `work_accesses` show it the accesses of its workspace. -/
def removeMember (now : Timestamp) (actorId workspaceId accountId : Uuid) : Program Unit :=
  Tx.mapError retryable do
    let workspace ← requireWorkspaceManager workspaceId actorId
    ensureLoadedWritable workspace
    Tx.ensure (accountId != workspace.ownerAccountId) .workspaceOwnerCannotBeRemoved
    let member ← Tx.selectForUpdate
      (fun m : WorkspaceMember => .member m.workspaceId m.accountId) fun db : Database =>
        db.members.find? fun m => m.workspaceId == workspace.id && m.accountId == accountId &&
          exitAllowsWrite none workspace.id db
    Tx.ensure member.isSome .workspaceMemberUnavailable
    let workIds ← Tx.read fun db : Database => (db.accesses.filter fun a =>
      a.accountId == accountId && a.workspaceId == workspace.id).map (·.workId)
    Tx.forEach workIds (revokeManagedAccess now workspace.id accountId)
    let candidates ← activeCandidates workspace.id accountId
    let _ ← lockOutboxes (candidates.map (·.2))
    let credentials ← lockCredentials (candidates.map (·.2))
    let invitations ← lockInvitations (candidates.map (·.1))
    revokeCandidates now workspace.id accountId credentials invitations candidates []
    Tx.write fun v db => { db with
      members := Table.delete (fun m => m.workspaceId == workspace.id &&
        m.accountId == accountId && exitAllowsWrite none workspace.id v) db.members }
    Tx.commitNow

/-! ## Accepting an invitation -/

/-- `CURRENT_SESSION_OPERATION`. -/
def currentSessionOperation : String := "current_session"

/-- The operation of `exchange_inbox_invitation`. -/
def inboxOperation : String := "inbox"

/-- `ACCOUNT_ACTIVATION_OPERATION`. -/
def accountActivationOperation : String := "account_activation"

/-- `_record_unavailable`, and what else raises after it has committed. -/
def refuse {α : Type} (e : ServiceError) : Program α := do
  Tx.commitNow
  Tx.raise e

/-- Raise by `refuse` unless the condition holds. -/
def ensureRecorded (b : Bool) (e : ServiceError) : Program Unit :=
  if b then return () else refuse e

/-- The value, or `_record_unavailable`. -/
def requireRecorded {α : Type} : Option α → Program α
  | some a => return a
  | none => refuse .workspaceInvitationUnavailable

/-- `_lock_invitation_for_exchange`, and the refusal of a token it finds nothing for. -/
def lockInvitationForExchange (tokenHash : Bytes) :
    Program (OneTimeCredential × WorkspaceInvitation) := do
  let credentialId ← Identity.findWorkspaceInvitationCredentialId tokenHash
  let credentialId ← Tx.require credentialId .workspaceInvitationUnavailable
  let _ ← lockOutboxes [credentialId]
  let credential ← Identity.lockWorkspaceInvitationCredential tokenHash
  let credential ← Tx.require credential .workspaceInvitationUnavailable
  let invitation ← Tx.selectFirstForUpdate (fun i : WorkspaceInvitation => .invitation i.id)
    fun db : Database => db.invitations.filter fun i =>
      i.credentialId == credential.id && exitAllowsWrite none i.workspaceId db
  let invitation ← Tx.require invitation .workspaceInvitationUnavailable
  return (credential, invitation)

/-- `_is_exchange_available`. -/
def isExchangeAvailable (credential : OneTimeCredential) (invitation : WorkspaceInvitation)
    (now : Timestamp) : Bool :=
  credential.status == .active && now < credential.expiresAt && invitation.status == .active

/-- Whether an accepted invitation was accepted by this very call before. -/
def replays (invitation : WorkspaceInvitation) (operation operationKey : String) : Bool :=
  invitation.acceptedOperation == some operation &&
    invitation.acceptedOperationKey == some operationKey

/-- `session.get(Workspace, …)`. -/
def getWorkspace (now : Timestamp) (workspaceId : Uuid) : Program (Option Workspace) :=
  Tx.read fun db => db.workspaces.find? fun w => w.id == workspaceId && isVisible now w

/-- The values of `invitation.status = "accepted"` and the three assignments after it. -/
def markAccepted (now : Timestamp) (operation operationKey : String) (i : WorkspaceInvitation) :
    WorkspaceInvitation :=
  { i with
    status := .accepted
    acceptedAt := some now
    acceptedOperationKey := some operationKey
    acceptedOperation := some operation }

/-- What accepting an invitation is, on every path: a membership, what the path does `meanwhile`,
the invitation and its credential. A credential that cannot be consumed rolls all of it back. -/
def accept (now : Timestamp) (operation operationKey : String) (credential : OneTimeCredential)
    (invitation : WorkspaceInvitation) (accountId : Uuid) (meanwhile : Program Unit) :
    Program Unit := do
  addMember invitation.workspaceId accountId
  meanwhile
  updateInvitation none invitation (markAccepted now operation operationKey)
  let consumed ← Identity.consumeWorkspaceInvitationCredential now credential.id
  Tx.ensure consumed .workspaceInvitationUnavailable

/-- `complete_todo_by_source` and `clear_outbox_envelopes`, with which two of the paths end. -/
def settle (now : Timestamp) (credential : OneTimeCredential) (invitation : WorkspaceInvitation)
    (accountId : Uuid) : Program Unit := do
  Notifications.endAll none now
    (.completeTodoBySource accountId .workspaceInvitation (.id invitation.id))
  Identity.clearEnvelopes [credential.id]

/-- The refusal of an invitation that cannot be exchanged on the paths with a token. One that has
expired is marked so first, and nothing else is done about it. -/
def refuseUnavailable (now : Timestamp) (credential : OneTimeCredential)
    (invitation : WorkspaceInvitation) : Program Unit :=
  if isExchangeAvailable credential invitation now then return ()
  else if invitationStatus invitation (some credential) now = .expired then do
    updateInvitation none invitation markExpired
    refuse .workspaceInvitationUnavailable
  else refuse .workspaceInvitationUnavailable

/-- `exchange_current_session_invitation`. -/
def exchangeCurrentSessionInvitation (now : Timestamp) (limited : Bool) (actorId : Uuid)
    (tokenHash : Bytes) (operationKey : String) : Program WorkspaceData :=
  Tx.mapError retryable do
    let (credential, invitation) ← lockInvitationForExchange tokenHash
    ensureRecorded (!limited) .workspaceInvitationRateLimited
    ensureRecorded (invitation.accountId == actorId) .workspaceInvitationAccountMismatch
    let workspace ← getWorkspace now invitation.workspaceId
    let workspace ← requireRecorded workspace
    ensureLoadedWritable workspace
    if invitation.status = .accepted then do
      ensureRecorded (replays invitation currentSessionOperation operationKey)
        .workspaceInvitationUnavailable
      Tx.commitNow
      return workspaceData workspace actorId
    else do
      refuseUnavailable now credential invitation
      let isMember ← hasWorkspaceMember invitation.workspaceId actorId
      ensureRecorded (!isMember) .workspaceInvitationUnavailable
      accept now currentSessionOperation operationKey credential invitation actorId (return ())
      settle now credential invitation actorId
      Tx.commitNow
      return workspaceData workspace actorId

/-- `exchange_inbox_invitation`. -/
def exchangeInboxInvitation (now : Timestamp) (actorId invitationId : Uuid)
    (operationKey : String) : Program WorkspaceData :=
  Tx.mapError retryable do
    let invitation ← lockInboxInvitation actorId invitationId
    let invitation ← Tx.require invitation .workspaceInvitationUnavailable
    let credential ← lockCredential invitation.credentialId
    let credential ← Tx.require credential .workspaceInvitationUnavailable
    let workspace ← getWorkspace now invitation.workspaceId
    let workspace ← Tx.require workspace .workspaceInvitationUnavailable
    ensureLoadedWritable workspace
    if invitation.status = .accepted then do
      Tx.ensure (replays invitation inboxOperation operationKey) .workspaceInvitationUnavailable
      Tx.commitNow
      return workspaceData workspace actorId
    else if isExchangeAvailable credential invitation now then do
      let isMember ← hasWorkspaceMember invitation.workspaceId actorId
      Tx.ensure (!isMember) .workspaceInvitationUnavailable
      accept now inboxOperation operationKey credential invitation actorId (return ())
      settle now credential invitation actorId
      Tx.commitNow
      return workspaceData workspace actorId
    else do
      let expired ← expireInvitation now invitation (some credential)
      if expired then refuse .workspaceInvitationUnavailable
      else Tx.raise .workspaceInvitationUnavailable

/-- `exchange_account_activation_invitation`. -/
def exchangeAccountActivationInvitation (now : Timestamp) (limited validPassword : Bool)
    (tokenHash : Bytes) (operationKey : String) : Program WorkspaceData := do
  Tx.ensure validPassword .valueError
  Tx.mapError retryable do
    let (credential, invitation) ← lockInvitationForExchange tokenHash
    ensureRecorded (!limited) .workspaceInvitationRateLimited
    let account ← Identity.lockAccount invitation.accountId
    let workspace ← getWorkspace now invitation.workspaceId
    let account ← requireRecorded account
    let workspace ← requireRecorded workspace
    if invitation.status = .accepted then do
      ensureRecorded (replays invitation accountActivationOperation operationKey)
        .workspaceInvitationUnavailable
      Tx.commitNow
      return workspaceData workspace invitation.accountId
    else do
      refuseUnavailable now credential invitation
      ensureRecorded (account.status == .pendingActivation) .workspaceInvitationUnavailable
      let isMember ← hasWorkspaceMember invitation.workspaceId account.id
      ensureRecorded (!isMember) .workspaceInvitationUnavailable
      accept now accountActivationOperation operationKey credential invitation account.id
        (Identity.activateInvitedAccount account.id)
      Tx.commitNow
      return workspaceData workspace account.id

/-! ## The end of a workspace -/

/-- The answer to a request for an exit that is under way. -/
def replayExit (workspace : Workspace) (actorId : Uuid) (operationKey : String) :
    Program WorkspaceData := do
  Tx.ensure (workspace.exitRequestedByAccountId == some actorId &&
    workspace.exitOperationKey == some operationKey) .workspaceExitInProgress
  Tx.commitNow
  return workspaceData workspace actorId

/-- The workspace with an exit requested. -/
def requestExit (now readUntil : Timestamp) (actorId : Uuid) (operationKey : String)
    (w : Workspace) : Workspace :=
  { w with
    exitRequestedAt := some now
    exitReadUntil := some readUntil
    exitRequestedByAccountId := some actorId
    exitOperationKey := some operationKey
    revision := w.revision + 1 }

/-- What is checked of a request before anything is read. `readUntil` is `none` where the
`datetime` has no time zone. -/
def validExitRequest (expectedRevision : ℤ) (readUntil : Option Timestamp)
    (operationKey : String) : Bool :=
  0 < expectedRevision && readUntil.isSome && !operationKey.isEmpty && operationKey.length ≤ 128

/-- `request_workspace_exit`. The row that is locked is one the policy
`workspace_exit_request_update` shows. The `CHECK` constraint of the table refuses a key of blanks
only. -/
def requestWorkspaceExit (now : Timestamp) (verified : Bool) (actorId workspaceId : Uuid)
    (expectedRevision : ℤ) (readUntil : Option Timestamp) (operationKey : String) :
    Program WorkspaceData :=
  Tx.mapError retryable do
    Tx.ensure (validExitRequest expectedRevision readUntil operationKey) .workspaceExitInvalid
    let readUntil ← Tx.require readUntil .workspaceExitInvalid
    let workspace ← getWorkspace now workspaceId
    let workspace ← Tx.require workspace .workspaceUnavailable
    Tx.ensure (workspace.ownerAccountId == actorId && verified)
      .workspaceExitReauthenticationFailed
    if workspace.exitRequestedAt.isSome then replayExit workspace actorId operationKey
    else do
      let locked ← Tx.selectForUpdate (fun w : Workspace => .workspace w.id) fun db : Database =>
        db.workspaces.find? fun w => w.id == workspaceId && isVisible now w &&
          w.ownerAccountId == actorId && w.exitRequestedAt.isNone
      match locked with
      | none => do
        let workspace ← getWorkspace now workspaceId
        let workspace ← Tx.require workspace .workspaceUnavailable
        replayExit workspace actorId operationKey
      | some workspace =>
        if workspace.exitRequestedAt.isSome then replayExit workspace actorId operationKey
        else do
          Tx.ensure ((workspace.revision : ℤ) == expectedRevision) .workspaceRevisionConflict
          Tx.ensure (now < readUntil) .workspaceExitInvalid
          updateRow (fun db => db.workspaces.any (fun w => w.id == workspace.id &&
              w.exitRequestedAt.isNone) && operationKey.toList.any (· != ' ')) fun db =>
            { db with
              workspaces := Table.update (·.id == workspace.id)
                (requestExit now readUntil actorId operationKey) db.workspaces }
          Tx.commitNow
          return workspaceData (requestExit now readUntil actorId operationKey workspace) actorId

/-- Whether the exit of a workspace is to be processed. -/
def isDue (now : Timestamp) (w : Workspace) : Bool :=
  w.exitRequestedAt.isSome && w.exitCompletedAt.isNone && w.exitReadUntil.any (· ≤ now)

/-- One turn of the loop of `process_next_due_workspace_exit` over the invitations. -/
def revokeForExit (now : Timestamp) (workspaceId : Uuid) (credentials : List OneTimeCredential)
    (invitation : WorkspaceInvitation) : Program Unit := do
  updateInvitation (some workspaceId) invitation (markRevoked now)
  match credentials.find? (·.id == invitation.credentialId) with
  | none => return ()
  | some credential => Identity.revokeWorkspaceInvitationCredential credential.id

/-- `DELETE FROM work_accesses WHERE workspace_id = …`, which locks the rows it deletes. -/
def deleteWorkspaceAccesses (workspaceId : Uuid) : Program Unit := do
  let found ← Tx.selectAllForUpdate (fun a : WorkAccess => .access a.workId a.accountId)
    fun db : Database => db.accesses.filter (·.workspaceId == workspaceId)
  Tx.write fun _ db => { db with accesses := Table.delete (found.contains ·) db.accesses }

/-- `DELETE FROM workspace_members WHERE workspace_id = …`, which locks the rows it deletes. -/
def deleteWorkspaceMembers (workspaceId : Uuid) : Program Unit := do
  let found ← Tx.selectAllForUpdate
    (fun m : WorkspaceMember => .member m.workspaceId m.accountId) fun db : Database =>
      db.members.filter (·.workspaceId == workspaceId)
  Tx.write fun _ db => { db with members := Table.delete (found.contains ·) db.members }

/-- `process_next_due_workspace_exit`: whether an exit was completed. `FOR UPDATE SKIP LOCKED`
takes the first due workspace that is not locked; here it is any due workspace, `pick`, and one
that is locked is waited for. -/
def processNextDueWorkspaceExit (settings : Settings) (now : Timestamp) (pick : Uuid) :
    Program Bool :=
  Tx.mapError retryable do
    let stage ← Tx.read (·.recoveryStage)
    if dispatcherAllowed settings stage then do
      let workspace ← Tx.selectForUpdate (fun w : Workspace => .workspace w.id)
        fun db : Database => db.workspaces.find? fun w => w.id == pick && isDue now w
      match workspace with
      | none => return false
      | some workspace => do
        let _ ← Tx.selectAllForUpdate
          (fun m : WorkspaceMember => .member m.workspaceId m.accountId)
          fun db : Database => db.members.filter (·.workspaceId == workspace.id)
        let _ ← Tx.selectAllForUpdate (fun a : WorkAccess => .access a.workId a.accountId)
          fun db : Database => db.accesses.filter (·.workspaceId == workspace.id)
        let invitations ← Tx.selectAllForUpdate
          (fun i : WorkspaceInvitation => .invitation i.id) fun db : Database =>
            db.invitations.filter fun i => i.workspaceId == workspace.id && i.status == .active
        let credentialIds := invitations.map (·.credentialId)
        let credentials ← lockCredentials credentialIds
        let _ ← lockOutboxes credentialIds
        Tx.forEach invitations (revokeForExit now workspace.id credentials)
        Identity.clearEnvelopes credentialIds
        Notifications.endAll (some workspace.id) now (.cancelWorkspaceTodos workspace.id)
        deleteWorkspaceAccesses workspace.id
        deleteWorkspaceMembers workspace.id
        updateRow (·.workspaces.any (·.id == workspace.id)) fun db =>
          { db with
            workspaces := Table.update (·.id == workspace.id)
              (fun w => { w with exitCompletedAt := some now }) db.workspaces }
        Tx.commitNow
        return true
    else return false

end Workspaces

end Rulefolio
