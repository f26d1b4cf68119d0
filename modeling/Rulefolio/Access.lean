import Rulefolio.Errors
import Rulefolio.Library.RelyGuarantee
import Rulefolio.Library.Table
import Rulefolio.Models

/-!
# Rows, locks and the policies of a workspace in exit

The services are modelled as programs (`Program`) over the tables of `Database`. This module fixes
what their row locks are taken on and what the row-level security of the tables adds to their
statements.

Row-level security decides who sees what. A policy compares a row with settings of the
transaction, and the functions modelled here set the scope of the work, session, todo or invitation
they are about before they read (`app.access.context`). What they ask for are rows of that scope,
all of which its policies show, so here a query sees every row it asks for. Three kinds of policies
decide more than that, and are modelled where they do:

* the restrictive policies that a workspace in exit puts on its rows, for everything that writes or
  locks (`exitAllowsWrite`), evaluated on the state the statement sees;
* `workspace_read`, which hides a workspace from the recipient of a todo who is not in it
  (`Workspaces.workspaceRead`);
* the policies of issues and their retests, for the one query that runs without a scope
  (`Issues.Scope`).

When the time for reading a workspace in exit is over, a plain `SELECT` still finds its rows here,
and the policies would hide them (`exitAllowsRead`). No call writes in such a workspace, so this
concerns what calls show there and by which error they fail.

An `INSERT` that a policy refuses raises. An `UPDATE` or `DELETE` does not see rows that a policy
hides. The session of SQLAlchemy raises when an object it wants to write is not there. A bulk
`DELETE` that is followed by such a write raises here at once.

## Main definitions

* `RowKey`, `Program`.
* `exitAllowsRead`, `exitAllowsWrite` and the variants for rows below a work, a session or an issue.
* `insertRow`, `updateRow` — statements with their policy.
-/

namespace Rulefolio

/-- What a row lock can be taken on. A row is named by its primary key, or by a unique key where
the code looks it up by that. Three keys that name no row stand for locks the database takes
otherwise: the entry of a unique index, and the advisory locks of a work's files and of a
submission's references. -/
inductive RowKey
  | account (id : Uuid)
  | accountEmail (email : String)
  | credential (id : Uuid)
  | credentialToken (tokenHash : Bytes)
  | workspace (id : Uuid)
  | member (workspaceId accountId : Uuid)
  | invitation (id : Uuid)
  | invitationCredential (credentialId : Uuid)
  | activeInvitation (workspaceId accountId : Uuid)
  | access (workId accountId : Uuid)
  | work (id : Uuid)
  | workFiles (workId : Uuid)
  | file (id : Uuid)
  | plan (id : Uuid)
  | session (id : Uuid)
  | participant (id : Uuid)
  | observation (id : Uuid)
  | feedbackItem (id : Uuid)
  | feedbackSubmission (id : Uuid)
  | feedbackLink (submissionId : Uuid)
  | issue (id : Uuid)
  | retestLink (id : Uuid)
  | evidenceLink (id : Uuid)
  | todo (id : Uuid)
  | todoSource (recipientId : Uuid) (kind : TodoKind) (sourceKey : SourceKey)
  | outbox (id : Uuid)
  deriving DecidableEq, Repr

/-- The code of a service function. -/
abbrev Program := Tx Database RowKey ServiceError

/-- A number the database takes as an `integer`. Any other is an error of the statement. -/
def fitsInteger (n : ℤ) : Bool :=
  -2147483648 ≤ n && n < 2147483648

/-- The keys `uuid4` hands out, named by where in the call they are asked for. No two of them are
assumed to differ, nor to differ from a key in use: a primary key that exists already makes the
`INSERT` raise. -/
abbrev Uuids := List ℕ → Uuid

/-- The keys for a part of a call. -/
def Uuids.sub (uuids : Uuids) (k : ℕ) : Uuids := fun path => uuids (k :: path)

/-- The key asked for at a place of its own. -/
def Uuids.here (uuids : Uuids) : Uuid := uuids []

/-! ## Workspaces in exit -/

/-- `workspace_exit_allows_write`. `maintenance` is the workspace whose exit the session processes,
if it is the processor. -/
def exitAllowsWrite (maintenance : Option Uuid) (workspaceId : Uuid) (db : Database) : Bool :=
  db.workspaces.any fun workspace => workspace.id == workspaceId &&
    (workspace.exitRequestedAt.isNone || maintenance == some workspaceId)

/-- `workspace_exit_allows_read`, where `recovery` is `recovery_maintenance`. -/
def exitAllowsRead (maintenance : Option Uuid) (recovery : Bool) (now : Timestamp)
    (workspaceId : Uuid) (db : Database) : Bool :=
  db.workspaces.any fun workspace => workspace.id == workspaceId &&
    (workspace.exitReadUntil.all (now < ·) || maintenance == some workspaceId || recovery)

/-- `workspace_exit_allows_work_write`. -/
def exitAllowsWorkWrite (workId : Uuid) (db : Database) : Bool :=
  db.works.any fun work => work.id == workId && exitAllowsWrite none work.workspaceId db

/-- `workspace_exit_allows_session_write`. -/
def exitAllowsSessionWrite (sessionId : Uuid) (db : Database) : Bool :=
  db.sessions.any fun item => item.id == sessionId && exitAllowsWrite none item.workspaceId db

/-- `workspace_exit_allows_issue_write`. -/
def exitAllowsIssueWrite (issueId : Uuid) (db : Database) : Bool :=
  db.issues.any fun issue => issue.id == issueId && exitAllowsWrite none issue.workspaceId db

/-! ## Statements -/

/-- `INSERT`: wait for the entries of the unique indexes, and raise if one is taken or a policy
refuses the row. -/
def insertRow (keys : List RowKey) (absent admits : Database → Bool)
    (insert : Database → Database) : Program Unit :=
  (Tx.lockAll .update keys).bind fun _ =>
    Tx.writeIf (fun db => absent db && admits db) .sqlalchemyError fun _ => insert

/-- The `INSERT`s of `session.add_all`, none for an empty list. -/
def insertRows {ρ : Type} (rows : List ρ) (admits : Database → Bool)
    (insert : List ρ → Database → Database) : Program Unit :=
  if rows.isEmpty then .pure () else insertRow [] (fun _ => true) admits (insert rows)

/-- The `UPDATE` or `DELETE` by which a session writes back one object. -/
def updateRow (admits : Database → Bool) (change : Database → Database) : Program Unit :=
  Tx.writeIf admits .sqlalchemyError fun _ => change

/-- A transaction of some other part of the application: any change that `keep` confines. -/
def elsewhere (keep : Database → Database → Database) (change : Database → Database) :
    Program Unit :=
  (Tx.write fun _ db => keep db (change db)).bind fun _ => Tx.commitNow

/-! ## What they change -/

variable {F : Database → Database → Prop}

theorem insertRow_within (hF : ∀ s, F s s) {insert : Database → Database}
    (h : ∀ s, F s (insert s)) (keys : List RowKey) (absent admits : Database → Bool) :
    (insertRow keys absent admits insert).Within F fun _ => True :=
  (Tx.Within.lockAll _ _).andThen fun _ => Tx.Within.writeIf hF (fun _ s => h s) _ _

theorem insertRows_within {ρ : Type} (hF : ∀ s, F s s) {insert : List ρ → Database → Database}
    (h : ∀ rows s, F s (insert rows s)) (rows : List ρ) (admits : Database → Bool) :
    (insertRows rows admits insert).Within F fun _ => True := by
  rw [insertRows]
  split
  · exact Tx.Within.pure trivial
  · exact insertRow_within hF (h rows) _ _ _

theorem updateRow_within (hF : ∀ s, F s s) {change : Database → Database}
    (h : ∀ s, F s (change s)) (admits : Database → Bool) :
    (updateRow admits change).Within F fun _ => True :=
  Tx.Within.writeIf hF (fun _ s => h s) _ _

end Rulefolio
