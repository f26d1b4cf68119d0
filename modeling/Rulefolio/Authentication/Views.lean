import Rulefolio.Authentication.Service
import Rulefolio.Library.SingleView

/-!
# What belongs to an account, and what belongs to a request

The rows of one account (itself, its password, its sessions and its credentials) are written only
by a call that has the account locked. What one recovery request has led to (its row, the
credentials and the mails issued for it) is written only by a call that has its row locked. These
are two families of views of the same store.

`AccountStep` is what a commit may make of an account. The properties of accounts are read off from
it: a credential that is spent stays spent, a session that is revoked stays revoked, and a new
session is granted on the current password. Each statement of the service is such a step, and steps
compose.

## Main definitions

* `AccountRows`, `accountViews`, `AccountOk`, `AccountStep`.
* `JobRows`, `jobViews`, `JobOk`, `JobStep`.
-/

namespace Rulefolio

namespace Authentication

/-! ## Accounts -/

/-- The rows of one account. -/
structure AccountRows where
  accounts : List Account
  passwords : List PasswordCredential
  sessions : List SessionRecord
  credentials : List OneTimeCredential
  deriving DecidableEq, Repr

/-- The rows of an account, guarded by its lock. -/
def accountViews : LockedViews Store RowKey Uuid AccountRows where
  view a db :=
    { accounts := Table.rowsWith (·.id) a db.accounts
      passwords := Table.rowsWith (·.accountId) a db.passwords
      sessions := Table.rowsWith (·.accountId) a db.sessions
      credentials := Table.rowsWith (·.accountId) a db.credentials }
  lock := .account

variable {a : Uuid}

theorem view_accounts_self {f : Account → Account} (hf : ∀ r, (f r).id = r.id) (db : Store) :
    accountViews.view a { db with accounts := Table.update (·.id == a) f db.accounts } =
      { accountViews.view a db with accounts := (accountViews.view a db).accounts.map f } := by
  simp only [accountViews, Table.rowsWith_update_all hf]

theorem view_accounts_other {f : Account → Account} (hf : ∀ r, (f r).id = r.id) {j : Uuid}
    (hj : j ≠ a) (db : Store) :
    accountViews.view j { db with accounts := Table.update (·.id == a) f db.accounts } =
      accountViews.view j db := by
  simp only [accountViews, Table.rowsWith_update_other (q := fun _ => true) hf
    (fun _ => (Bool.and_true _).symm) hj]

theorem view_passwords_self {f : PasswordCredential → PasswordCredential}
    (hf : ∀ r, (f r).accountId = r.accountId) (db : Store) :
    accountViews.view a { db with passwords := Table.update (·.accountId == a) f db.passwords } =
      { accountViews.view a db with passwords := (accountViews.view a db).passwords.map f } := by
  simp only [accountViews, Table.rowsWith_update_all hf]

theorem view_passwords_other {f : PasswordCredential → PasswordCredential}
    (hf : ∀ r, (f r).accountId = r.accountId) {j : Uuid} (hj : j ≠ a) (db : Store) :
    accountViews.view j { db with passwords := Table.update (·.accountId == a) f db.passwords } =
      accountViews.view j db := by
  simp only [accountViews, Table.rowsWith_update_other (q := fun _ => true) hf
    (fun _ => (Bool.and_true _).symm) hj]

theorem view_sessions_self {p q : SessionRecord → Bool} {f : SessionRecord → SessionRecord}
    (hf : ∀ r, (f r).accountId = r.accountId) (hp : ∀ r, p r = (r.accountId == a && q r))
    (db : Store) : accountViews.view a { db with sessions := Table.update p f db.sessions } =
      { accountViews.view a db with
        sessions := Table.update q f (accountViews.view a db).sessions } := by
  simp only [accountViews, Table.rowsWith_update_own hf hp]

theorem view_sessions_other {p q : SessionRecord → Bool} {f : SessionRecord → SessionRecord}
    (hf : ∀ r, (f r).accountId = r.accountId) (hp : ∀ r, p r = (r.accountId == a && q r))
    {j : Uuid} (hj : j ≠ a) (db : Store) :
    accountViews.view j { db with sessions := Table.update p f db.sessions } =
      accountViews.view j db := by
  simp only [accountViews, Table.rowsWith_update_other hf hp hj]

theorem view_credentials_self {p q : OneTimeCredential → Bool}
    {f : OneTimeCredential → OneTimeCredential} (hf : ∀ r, (f r).accountId = r.accountId)
    (hp : ∀ r, p r = (r.accountId == a && q r)) (db : Store) :
    accountViews.view a { db with credentials := Table.update p f db.credentials } =
      { accountViews.view a db with
        credentials := Table.update q f (accountViews.view a db).credentials } := by
  simp only [accountViews, Table.rowsWith_update_own hf hp]

theorem view_credentials_other {p q : OneTimeCredential → Bool}
    {f : OneTimeCredential → OneTimeCredential} (hf : ∀ r, (f r).accountId = r.accountId)
    (hp : ∀ r, p r = (r.accountId == a && q r)) {j : Uuid} (hj : j ≠ a) (db : Store) :
    accountViews.view j { db with credentials := Table.update p f db.credentials } =
      accountViews.view j db := by
  simp only [accountViews, Table.rowsWith_update_other hf hp hj]

theorem view_passwords_cons_self (r : PasswordCredential) (hr : r.accountId = a) (db : Store) :
    accountViews.view a { db with passwords := r :: db.passwords } =
      { accountViews.view a db with passwords := r :: (accountViews.view a db).passwords } := by
  simp only [accountViews, Table.rowsWith_cons hr]

theorem view_passwords_cons_other (r : PasswordCredential) (hr : r.accountId = a) {j : Uuid}
    (hj : j ≠ a) (db : Store) : accountViews.view j { db with passwords :=
      r :: db.passwords } = accountViews.view j db := by
  have hne : r.accountId ≠ j := fun h => hj (h.symm.trans hr)
  simp only [accountViews, Table.rowsWith_cons_of_ne hne]

theorem view_sessions_cons_self (r : SessionRecord) (hr : r.accountId = a) (db : Store) :
    accountViews.view a { db with sessions := r :: db.sessions } =
      { accountViews.view a db with sessions := r :: (accountViews.view a db).sessions } := by
  simp only [accountViews, Table.rowsWith_cons hr]

theorem view_sessions_cons_other (r : SessionRecord) (hr : r.accountId = a) {j : Uuid}
    (hj : j ≠ a) (db : Store) : accountViews.view j { db with sessions :=
      r :: db.sessions } = accountViews.view j db := by
  have hne : r.accountId ≠ j := fun h => hj (h.symm.trans hr)
  simp only [accountViews, Table.rowsWith_cons_of_ne hne]

theorem view_credentials_cons_self (r : OneTimeCredential) (hr : r.accountId = a) (db : Store) :
    accountViews.view a { db with credentials := r :: db.credentials } =
      { accountViews.view a db with credentials := r :: (accountViews.view a db).credentials } := by
  simp only [accountViews, Table.rowsWith_cons hr]

theorem view_credentials_cons_other (r : OneTimeCredential) (hr : r.accountId = a) {j : Uuid}
    (hj : j ≠ a) (db : Store) : accountViews.view j { db with credentials :=
      r :: db.credentials } = accountViews.view j db := by
  have hne : r.accountId ≠ j := fun h => hj (h.symm.trans hr)
  simp only [accountViews, Table.rowsWith_cons_of_ne hne]

theorem view_accounts_cons_self (r : Account) (hr : r.id = a) (db : Store) :
    accountViews.view a { db with accounts := r :: db.accounts } =
      { accountViews.view a db with accounts := r :: (accountViews.view a db).accounts } := by
  simp only [accountViews, Table.rowsWith_cons hr]

theorem view_accounts_cons_other (r : Account) (hr : r.id = a) {j : Uuid} (hj : j ≠ a)
    (db : Store) : accountViews.view j { db with accounts :=
      r :: db.accounts } = accountViews.view j db := by
  have hne : r.id ≠ j := fun h => hj (h.symm.trans hr)
  simp only [accountViews, Table.rowsWith_cons_of_ne hne]

namespace AccountRows

/-- How often the password has been set. -/
def version (v : AccountRows) : ℕ :=
  (v.passwords.head?.map (·.version)).getD 0

/-- A password is set. -/
def setPassword (a : Uuid) (passwordHash : String) (v : AccountRows) : AccountRows :=
  { v with
    passwords := match v.passwords with
      | [] => [⟨a, passwordHash, 1⟩]
      | _ => v.passwords.map fun p =>
        { p with passwordHash := passwordHash, version := v.version + 1 } }

/-- The hash of the password is renewed. -/
def rehash (passwordHash : String) (v : AccountRows) : AccountRows :=
  { v with passwords := v.passwords.map fun p => { p with passwordHash := passwordHash } }

/-- The status is written. -/
def setStatus (status : AccountStatus) (v : AccountRows) : AccountRows :=
  { v with accounts := v.accounts.map fun a => { a with status := status } }

/-- The sessions are revoked. -/
def revokeSessions (now : Timestamp) (reason : String) (v : AccountRows) : AccountRows :=
  { v with
    sessions := Table.update (·.revokedAt.isNone)
      (fun s => { s with revokedAt := some now, revokeReason := some reason }) v.sessions }

/-- A session is added. -/
def addSession (record : SessionRecord) (v : AccountRows) : AccountRows :=
  { v with sessions := record :: v.sessions }

/-- Some credentials are revoked. -/
def revoke (now : Timestamp) (ids : List Uuid) (v : AccountRows) : AccountRows :=
  { v with
    credentials := Table.update (fun c => ids.contains c.id)
      (fun c => { c with status := .revoked, revokedAt := some now }) v.credentials }

/-- The credentials for a purpose that can be used. -/
def active (purpose : MailPurpose) (v : AccountRows) : List OneTimeCredential :=
  v.credentials.filter fun c => c.purpose == purpose && c.status == .active

/-- A credential is added. -/
def addCredential (row : OneTimeCredential) (v : AccountRows) : AccountRows :=
  { v with credentials := row :: v.credentials }

/-- The `UPDATE` that consumes a credential hits this row. -/
def isConsumed (now : Timestamp) (id : Uuid) (c : OneTimeCredential) : Bool :=
  c.id == id && c.status == .active && now < c.expiresAt

theorem id_of_isConsumed {now : Timestamp} {id : Uuid} {c : OneTimeCredential}
    (h : isConsumed now id c = true) : c.id = id := by
  rw [isConsumed, Bool.and_assoc, Bool.and_eq_true, beq_iff_eq] at h
  exact h.1

/-- A credential is consumed. -/
def consume (now : Timestamp) (id : Uuid) (v : AccountRows) : AccountRows :=
  { v with
    credentials := Table.update (isConsumed now id)
      (fun c => { c with status := .consumed, consumedAt := some now }) v.credentials }

end AccountRows

/-- The purposes of which an account has at most one credential that can be used. -/
def isUnique (purpose : MailPurpose) : Prop :=
  purpose = .accountActivation ∨ purpose = .passwordRecovery

/-- What holds of the rows of an account. -/
structure AccountOk (v : AccountRows) : Prop where
  sessionIds : (v.sessions.map (·.id)).Nodup
  credentialIds : (v.credentials.map (·.id)).Nodup
  unique : ∀ purpose, isUnique purpose → (v.active purpose).length ≤ 1
  granted : ∀ s ∈ v.sessions, s.passwordVersion ≤ v.version

/-- **What a commit may make of an account.** -/
structure AccountStep (v w : AccountRows) : Prop where
  ok : AccountOk v → AccountOk w
  version : v.version ≤ w.version
  sessionIds : v.sessions.map (·.id) <:+ w.sessions.map (·.id)
  /-- A session is an old one, and valid only if it was, or a new one, granted on a password not
  older than the one before the commit. -/
  session : ∀ s' ∈ w.sessions, (∃ s ∈ v.sessions, s.id = s'.id ∧
      s.passwordVersion = s'.passwordVersion ∧ (s'.revokedAt = none → s.revokedAt = none)) ∨
    (s'.id ∉ v.sessions.map (·.id) ∧ v.version ≤ s'.passwordVersion)
  credentialIds : v.credentials.map (·.id) <:+ w.credentials.map (·.id)
  /-- A credential is an old one, and can be used only if it could, or a new one. -/
  credential : ∀ c' ∈ w.credentials, (∃ c ∈ v.credentials, c.id = c'.id ∧
      c.purpose = c'.purpose ∧ c.tokenHash = c'.tokenHash ∧
      (c'.status = .active → c.status = .active)) ∨ c'.id ∉ v.credentials.map (·.id)

namespace AccountStep

variable {u v w : AccountRows}

theorem refl (v : AccountRows) : AccountStep v v where
  ok := id
  version := le_rfl
  sessionIds := List.suffix_refl _
  session s hs := .inl ⟨s, hs, rfl, rfl, id⟩
  credentialIds := List.suffix_refl _
  credential c hc := .inl ⟨c, hc, rfl, rfl, rfl, id⟩

theorem trans (h : AccountStep u v) (h' : AccountStep v w) : AccountStep u w where
  ok := h'.ok ∘ h.ok
  version := h.version.trans h'.version
  sessionIds := h.sessionIds.trans h'.sessionIds
  session s'' hs'' := by
    rcases h'.session s'' hs'' with ⟨s', hs', hid', hversion', hvalid'⟩ | ⟨hnew, hversion⟩
    · rcases h.session s' hs' with ⟨s, hs, hid, hversion, hvalid⟩ | ⟨hnew, hversion⟩
      · exact .inl ⟨s, hs, hid.trans hid', hversion.trans hversion', hvalid ∘ hvalid'⟩
      · exact .inr ⟨hid' ▸ hnew, hversion' ▸ hversion⟩
    · exact .inr ⟨fun hold => hnew (h.sessionIds.subset hold), h.version.trans hversion⟩
  credentialIds := h.credentialIds.trans h'.credentialIds
  credential c'' hc'' := by
    rcases h'.credential c'' hc'' with ⟨c', hc', hid', hpurpose', htoken', hactive'⟩ | hnew
    · rcases h.credential c' hc' with ⟨c, hc, hid, hpurpose, htoken, hactive⟩ | hnew
      · exact .inl ⟨c, hc, hid.trans hid', hpurpose.trans hpurpose', htoken.trans htoken',
          hactive ∘ hactive'⟩
      · exact .inr (hid' ▸ hnew)
    · exact .inr fun hold => hnew (h.credentialIds.subset hold)

/-- A change of the sessions by which some are revoked. -/
theorem of_sessions {p : SessionRecord → Bool} {f : SessionRecord → SessionRecord}
    (hid : ∀ s, (f s).id = s.id) (hversion : ∀ s, (f s).passwordVersion = s.passwordVersion)
    (hvalid : ∀ s, (f s).revokedAt = none → s.revokedAt = none) (v : AccountRows) :
    AccountStep v { v with sessions := Table.update p f v.sessions } := by
  have hids : (Table.update p f v.sessions).map (·.id) = v.sessions.map (·.id) :=
    Table.map_update v.sessions fun s _ => hid s
  have hmem : ∀ s' ∈ Table.update p f v.sessions, ∃ s ∈ v.sessions, s.id = s'.id ∧
      s.passwordVersion = s'.passwordVersion ∧ (s'.revokedAt = none → s.revokedAt = none) := by
    intro s' hs'
    obtain ⟨s, hs, rfl⟩ := List.mem_map.1 hs'
    refine ⟨s, hs, ?_⟩
    split
    · exact ⟨(hid s).symm, (hversion s).symm, hvalid s⟩
    · exact ⟨rfl, rfl, id⟩
  refine ⟨fun hv => ⟨?_, hv.credentialIds, hv.unique, fun s' hs' => ?_⟩, le_rfl, ?_,
    fun s' hs' => .inl (hmem s' hs'), List.suffix_refl _,
      fun c hc => .inl ⟨c, hc, rfl, rfl, rfl, id⟩⟩
  · show ((Table.update p f v.sessions).map (·.id)).Nodup
    rw [hids]
    exact hv.sessionIds
  · obtain ⟨s, hs, -, hsame, -⟩ := hmem s' hs'
    rw [← hsame]
    exact hv.granted s hs
  · show v.sessions.map (·.id) <:+ (Table.update p f v.sessions).map (·.id)
    exact ⟨[], hids.symm⟩

/-- A change of the credentials by which some are spent. -/
theorem of_credentials {p : OneTimeCredential → Bool}
    {f : OneTimeCredential → OneTimeCredential} (hid : ∀ c, (f c).id = c.id)
    (hpurpose : ∀ c, (f c).purpose = c.purpose) (htoken : ∀ c, (f c).tokenHash = c.tokenHash)
    (hspent : ∀ c, (f c).status ≠ .active) (v : AccountRows) :
    AccountStep v { v with credentials := Table.update p f v.credentials } := by
  have hids : (Table.update p f v.credentials).map (·.id) = v.credentials.map (·.id) :=
    Table.map_update v.credentials fun c _ => hid c
  refine ⟨fun hv => ⟨hv.sessionIds, ?_, fun purpose hpurpose' => ?_, hv.granted⟩, le_rfl,
    List.suffix_refl _, fun s hs => .inl ⟨s, hs, rfl, rfl, id⟩, ?_, fun c' hc' => ?_⟩
  · show ((Table.update p f v.credentials).map (·.id)).Nodup
    rw [hids]
    exact hv.credentialIds
  · refine le_trans ?_ (hv.unique purpose hpurpose')
    rw [AccountRows.active, AccountRows.active, ← List.countP_eq_length_filter,
      ← List.countP_eq_length_filter, Table.update, List.countP_map]
    refine List.countP_mono_left fun c _ hc => ?_
    simp only [Function.comp_apply] at hc
    split at hc
    · simp [hspent c] at hc
    · exact hc
  · show v.credentials.map (·.id) <:+ (Table.update p f v.credentials).map (·.id)
    exact ⟨[], hids.symm⟩
  · obtain ⟨c, hc, rfl⟩ := List.mem_map.1 hc'
    refine .inl ⟨c, hc, ?_⟩
    split
    · exact ⟨(hid c).symm, (hpurpose c).symm, (htoken c).symm, fun h => absurd h (hspent c)⟩
    · exact ⟨rfl, rfl, rfl, id⟩

/-- A change of the account row and of the password by which no version is lost. -/
theorem of_passwords {accounts : List Account} {passwords : List PasswordCredential}
    (hversion : v.version ≤ ({ v with passwords := passwords } : AccountRows).version) :
    AccountStep v { v with accounts := accounts, passwords := passwords } where
  ok hv := ⟨hv.sessionIds, hv.credentialIds, hv.unique,
    fun s hs => (hv.granted s hs).trans hversion⟩
  version := hversion
  sessionIds := List.suffix_refl _
  session s hs := .inl ⟨s, hs, rfl, rfl, id⟩
  credentialIds := List.suffix_refl _
  credential c hc := .inl ⟨c, hc, rfl, rfl, rfl, id⟩

end AccountStep

namespace AccountRows

variable {v : AccountRows}

theorem version_map {f : PasswordCredential → PasswordCredential} {n : ℕ}
    (hf : ∀ p, (f p).version = n) (hne : v.passwords ≠ []) :
    ({ v with passwords := v.passwords.map f } : AccountRows).version = n := by
  obtain ⟨p, ps, hps⟩ := List.exists_cons_of_ne_nil hne
  simp [version, hps, hf]

@[simp] theorem version_setPassword (a : Uuid) (passwordHash : String) :
    (v.setPassword a passwordHash).version = v.version + 1 := by
  unfold setPassword
  split
  · rename_i hnil
    simp [version, hnil]
  · rename_i hne
    exact version_map (fun _ => rfl) fun hnil => hne hnil

theorem version_rehash (passwordHash : String) : (v.rehash passwordHash).version = v.version := by
  cases hps : v.passwords with
  | nil => simp [rehash, version, hps]
  | cons p ps => simp [rehash, version, hps]

theorem step_setPassword (a : Uuid) (passwordHash : String) :
    AccountStep v (v.setPassword a passwordHash) :=
  .of_passwords (by
    have h := version_setPassword (v := v) a passwordHash
    exact (Nat.le_succ _).trans h.ge)

theorem step_rehash (passwordHash : String) : AccountStep v (v.rehash passwordHash) :=
  .of_passwords (version_rehash passwordHash).ge

theorem step_setStatus (status : AccountStatus) : AccountStep v (v.setStatus status) :=
  .of_passwords le_rfl

theorem step_revokeSessions (now : Timestamp) (reason : String) :
    AccountStep v (v.revokeSessions now reason) := by
  refine AccountStep.of_sessions ?_ ?_ ?_ v
  · exact fun _ => rfl
  · exact fun _ => rfl
  · intro s h
    nomatch h

theorem step_revoke (now : Timestamp) (ids : List Uuid) : AccountStep v (v.revoke now ids) := by
  refine AccountStep.of_credentials ?_ ?_ ?_ ?_ v
  · exact fun _ => rfl
  · exact fun _ => rfl
  · exact fun _ => rfl
  · intro c h
    nomatch h

@[simp] theorem credentialIds_revoke (now : Timestamp) (ids : List Uuid) :
    (v.revoke now ids).credentials.map (·.id) = v.credentials.map (·.id) :=
  Table.map_update v.credentials fun _ _ => rfl

/-- When those that can be used are revoked, none can. -/
theorem active_revoke (now : Timestamp) (purpose : MailPurpose) :
    (v.revoke now ((v.active purpose).map (·.id))).active purpose = [] := by
  refine List.filter_eq_nil_iff.2 fun c' hc' => ?_
  obtain ⟨c, hc, rfl⟩ := List.mem_map.1 hc'
  split
  · simp
  · rename_i hids
    intro hactive
    refine hids ?_
    rw [List.contains_iff_mem]
    exact List.mem_map_of_mem (List.mem_filter.2 ⟨hc, hactive⟩)

theorem step_consume (now : Timestamp) (id : Uuid) : AccountStep v (v.consume now id) := by
  refine AccountStep.of_credentials ?_ ?_ ?_ ?_ v
  · exact fun _ => rfl
  · exact fun _ => rfl
  · exact fun _ => rfl
  · intro c h
    nomatch h

theorem step_addSession {record : SessionRecord} (hnew : record.id ∉ v.sessions.map (·.id))
    (hversion : record.passwordVersion = v.version) : AccountStep v (v.addSession record) where
  ok hv := ⟨List.nodup_cons.2 ⟨hnew, hv.sessionIds⟩, hv.credentialIds, hv.unique, by
    intro s hs
    rcases List.mem_cons.1 hs with rfl | hs
    · exact hversion.le
    · exact hv.granted s hs⟩
  version := le_rfl
  sessionIds := List.suffix_cons _ _
  session s hs := by
    rcases List.mem_cons.1 hs with rfl | hs
    · exact .inr ⟨hnew, hversion.ge⟩
    · exact .inl ⟨s, hs, rfl, rfl, id⟩
  credentialIds := List.suffix_refl _
  credential c hc := .inl ⟨c, hc, rfl, rfl, rfl, id⟩

theorem step_addCredential {row : OneTimeCredential}
    (hnew : row.id ∉ v.credentials.map (·.id)) (hnone : v.active row.purpose = []) :
    AccountStep v (v.addCredential row) where
  ok hv := by
    refine ⟨hv.sessionIds, List.nodup_cons.2 ⟨hnew, hv.credentialIds⟩, fun purpose hpurpose => ?_,
      hv.granted⟩
    have hcons : (v.addCredential row).active purpose =
        if row.purpose == purpose && row.status == .active then row :: v.active purpose
        else v.active purpose := List.filter_cons
    rw [hcons]
    split
    · rename_i hrow
      rw [Bool.and_eq_true, beq_iff_eq] at hrow
      rw [← hrow.1, hnone]
      exact le_rfl
    · exact hv.unique purpose hpurpose
  version := le_rfl
  sessionIds := List.suffix_refl _
  session s hs := .inl ⟨s, hs, rfl, rfl, id⟩
  credentialIds := List.suffix_cons _ _
  credential c hc := by
    rcases List.mem_cons.1 hc with rfl | hc
    · exact .inr hnew
    · exact .inl ⟨c, hc, rfl, rfl, rfl, id⟩

end AccountRows

/-! ## Recovery requests -/

/-- What one recovery request has led to. -/
structure JobRows where
  jobs : List RecoveryRequestJob
  /-- The credentials issued for it. -/
  credentials : List Uuid
  /-- The mails written for it. -/
  mails : List Uuid
  deriving DecidableEq, Repr

/-- What a recovery request has led to, guarded by the lock of its row. -/
def jobViews : LockedViews Store RowKey Uuid JobRows where
  view j db :=
    { jobs := Table.rowsWith (·.id) j db.jobs
      credentials := (db.credentials.filter (·.issuedFor == some j)).map (·.id)
      mails := (db.outbox.filter (·.issuedFor == some j)).map (·.id) }
  lock := .job

/-- A job that is over. -/
def RecoveryRequestJob.isOver (j : RecoveryRequestJob) : Prop :=
  j.status = .completed ∨ j.status = .failed

theorem RecoveryRequestJob.not_isOver {j : RecoveryRequestJob}
    (h : j.status = .pending ∨ j.status = .processing) : ¬ j.isOver := by
  rcases h with h | h <;> simp [isOver, h]

/-- What holds of a recovery request and of what was issued for it. -/
structure JobOk (v : JobRows) : Prop where
  one : v.jobs.length ≤ 1
  /-- A job that is over holds nothing of the email. -/
  cleared : ∀ j ∈ v.jobs, j.isOver →
    j.emailCiphertext = none ∧ j.emailNonce = none ∧ j.keyVersion = none
  credentials : v.credentials.length ≤ 1
  mails : v.mails.length ≤ 1
  /-- Something has been issued only for a job that is over. -/
  issued : v.credentials ≠ [] ∨ v.mails ≠ [] → ∃ j ∈ v.jobs, j.isOver

/-- What a commit may make of a recovery request. -/
structure JobStep (v w : JobRows) : Prop where
  ok : JobOk v → JobOk w
  /-- A job that is over stays as it is. -/
  ended : JobOk v → ∀ j ∈ v.jobs, j.isOver → w = v

theorem JobStep.refl (v : JobRows) : JobStep v v := ⟨id, fun _ _ _ _ => rfl⟩

theorem JobOk.not_issued {v : JobRows} (hv : JobOk v) {job : RecoveryRequestJob}
    (hjob : job ∈ v.jobs) (hopen : ¬ job.isOver) : ¬ (v.credentials ≠ [] ∨ v.mails ≠ []) := by
  intro hissued
  obtain ⟨j, hj, hover⟩ := hv.issued hissued
  rw [Table.eq_singleton_of_mem hv.one hjob, List.mem_singleton] at hj
  exact hopen (hj ▸ hover)

/-- A job that is not over has led to nothing yet. -/
theorem JobOk.of_open {v : JobRows} (hv : JobOk v) {job : RecoveryRequestJob}
    (hjob : job ∈ v.jobs) (hopen : ¬ job.isOver) :
    v.jobs = [job] ∧ v.credentials = [] ∧ v.mails = [] := by
  have hnone := hv.not_issued hjob hopen
  rw [not_or, not_ne_iff, not_ne_iff] at hnone
  exact ⟨Table.eq_singleton_of_mem hv.one hjob, hnone⟩

/-- A job that is not over is written. Something has been issued for it only if it is over then,
and nothing of the email is left. -/
theorem JobStep.of_open {v w : JobRows} {job : RecoveryRequestJob} (hjob : job ∈ v.jobs)
    (hopen : ¬ job.isOver) (job' : RecoveryRequestJob) (hw : JobOk v → w.jobs = [job'])
    (hcleared : job'.isOver →
      job'.emailCiphertext = none ∧ job'.emailNonce = none ∧ job'.keyVersion = none)
    (hissued : JobOk v → w.credentials.length ≤ 1 ∧ w.mails.length ≤ 1 ∧
      (w.credentials ≠ [] ∨ w.mails ≠ [] → job'.isOver)) : JobStep v w where
  ok hv := by
    obtain ⟨hcredentials, hmails, hover⟩ := hissued hv
    refine ⟨?_, fun j hj => ?_, hcredentials, hmails, fun h => ⟨job', ?_, hover h⟩⟩
    · rw [hw hv]
      exact le_rfl
    · rw [hw hv, List.mem_singleton] at hj
      rw [hj]
      exact hcleared
    · rw [hw hv]
      exact List.mem_singleton_self _
  ended hv j hj hover := by
    rw [(hv.of_open hjob hopen).1, List.mem_singleton] at hj
    exact absurd (hj ▸ hover) hopen

end Authentication

end Rulefolio
