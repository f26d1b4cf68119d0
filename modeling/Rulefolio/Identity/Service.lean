import Rulefolio.Notifications.Transactions

/-!
# `app.identity.service`: accounts and credentials of an invitation

What the workspaces service calls: the account an invitation is for, and the one-time credential
its token stands for. A token is given by its digest, which is all the database has of it. What
checks or changes a password or a login session leaves no trace in the tables of this model.

## Main definitions

* `getOrCreateInvitationAccount`, `lockAccount`, `activateInvitedAccount`.
* `issueWorkspaceInvitationCredential`, `consumeWorkspaceInvitationCredential`,
  `revokeWorkspaceInvitationCredential` — the life of a credential.
* `findWorkspaceInvitationCredentialId`, `lockWorkspaceInvitationCredential` — by its digest.
-/

namespace Rulefolio

namespace Identity

/-! ## Accounts -/

/-- `get_or_create_invitation_account`. The second look is the one after the unique index was
found taken. -/
def getOrCreateInvitationAccount (normalizeEmail : String → Option String) (newId : Uuid)
    (email : String) : Program Account := do
  let email ← Tx.require (normalizeEmail email) .valueError
  let find := fun db : Database => db.accounts.find? (·.email == email)
  match ← Tx.selectForUpdate (fun a : Account => .account a.id) find with
  | some account => return account
  | none => do
    Tx.lockAll .update [.accountEmail email]
    match ← Tx.selectForUpdate (fun a : Account => .account a.id) find with
    | some account => return account
    | none => do
      let account : Account := ⟨newId, email, .pendingActivation⟩
      insertRow [.account newId] (fun db => !db.accounts.any (·.id == newId)) (fun _ => true)
        fun db => { db with accounts := account :: db.accounts }
      return account

/-- `lock_account`. -/
def lockAccount (accountId : Uuid) : Program (Option Account) :=
  Tx.selectForUpdate (fun a : Account => .account a.id) fun db : Database =>
    db.accounts.find? (·.id == accountId)

/-! ## Credentials -/

/-- The credentials of invitations. -/
def isInvitationCredential (c : OneTimeCredential) : Bool :=
  c.purpose == .workspaceInvitation

/-- `issue_workspace_invitation_credential`. -/
def issueWorkspaceInvitationCredential (newId : Uuid) (tokenHash : Bytes) (expiresAt : Timestamp)
    (account : Account) : Program OneTimeCredential := do
  let credential : OneTimeCredential :=
    ⟨newId, account.id, .workspaceInvitation, tokenHash, .active, expiresAt⟩
  insertRow [.credential newId, .credentialToken tokenHash]
    (fun db => !db.credentials.any fun c => c.id == newId || c.tokenHash == tokenHash)
    (fun _ => true) fun db => { db with credentials := credential :: db.credentials }
  return credential

/-- The credential of an invitation with this digest. -/
def hasToken (tokenHash : Bytes) (c : OneTimeCredential) : Bool :=
  isInvitationCredential c && c.tokenHash == tokenHash

/-- `find_workspace_invitation_credential_id`. -/
def findWorkspaceInvitationCredentialId (tokenHash : Bytes) : Program (Option Uuid) :=
  Tx.read fun db => (db.credentials.find? (hasToken tokenHash)).map (·.id)

/-- `lock_workspace_invitation_credential`. -/
def lockWorkspaceInvitationCredential (tokenHash : Bytes) : Program (Option OneTimeCredential) :=
  Tx.selectFirstForUpdate (fun c : OneTimeCredential => .credential c.id) fun db : Database =>
    db.credentials.filter (hasToken tokenHash)

/-- The `WHERE` clause of `consume_workspace_invitation_credential`. -/
def consumes (now : Timestamp) (credentialId : Uuid) (c : OneTimeCredential) : Bool :=
  c.id == credentialId && isInvitationCredential c && c.status == .active && now < c.expiresAt

/-- `consume_workspace_invitation_credential`: whether there was one row to change. -/
def consumeWorkspaceInvitationCredential (now : Timestamp) (credentialId : Uuid) : Program Bool :=
  .stmt (fun _ db => { db with
      credentials := Table.update (consumes now credentialId)
        (fun c => { c with status := .consumed }) db.credentials })
    fun db => .pure (db.credentials.countP (consumes now credentialId) == 1)

/-- The `WHERE` clause of `revoke_workspace_invitation_credential`. -/
def revokes (credentialId : Uuid) (c : OneTimeCredential) : Bool :=
  c.id == credentialId && isInvitationCredential c && c.status == .active

/-- `revoke_workspace_invitation_credential`. No caller looks at what it returns. -/
def revokeWorkspaceInvitationCredential (credentialId : Uuid) : Program Unit :=
  Tx.write fun _ db => { db with
    credentials := Table.update (revokes credentialId) (fun c => { c with status := .revoked })
      db.credentials }

/-- `clear_outbox_envelopes`. -/
def clearEnvelopes (credentialIds : List Uuid) : Program Unit :=
  Tx.write fun _ db => { db with
    outbox := Notifications.clearOutboxEnvelopes credentialIds db.outbox }

/-- `_revoke_credentials`. The rows written back by their keys are rows of the purpose. -/
def revokeCredentials (accountId : Uuid) (purpose : MailPurpose) : Program (List Uuid) := do
  let credentials ← Tx.selectAllForUpdate (fun c : OneTimeCredential => .credential c.id)
    fun db : Database => db.credentials.filter fun c =>
      c.accountId == accountId && c.purpose == purpose && c.status == .active
  Tx.forEach credentials fun credential =>
    updateRow (·.credentials.any (·.id == credential.id)) fun db => { db with
      credentials := Table.update (fun c => c.id == credential.id && c.purpose == purpose)
        (fun c => { c with status := .revoked }) db.credentials }
  return credentials.map (·.id)

/-- `activate_invited_account`. The caller has the account locked and has looked at its status. -/
def activateInvitedAccount (accountId : Uuid) : Program Unit := do
  updateRow (·.accounts.any (·.id == accountId)) fun db => { db with
    accounts := Table.update (·.id == accountId) (fun a => { a with status := .active })
      db.accounts }
  let credentialIds ← revokeCredentials accountId .accountActivation
  clearEnvelopes credentialIds

end Identity

end Rulefolio
