import Rulefolio.Authentication.System

/-!
# The statements of `app.identity`, on an account and on a request

What a call that has locked an account makes of the rows of the account, statement by statement,
and which parts of the service leave accounts or requests alone. The calls are then followed in
`Authentication.Accounts` and `Authentication.Jobs`.

## Main results

* `lockAccount_bind` — whoever has locked an account knows its rows.
* `setPassword_bind`, `revokeSessions_bind`, `revokeCredentials_bind`, `createSession_bind`,
  `createOneTimeCredential_bind`.
-/

namespace Rulefolio

namespace Authentication

open ReadCommitted

variable {settings : IdentitySettings} {E : Environment Store RowKey}
  {G : Tx.Guarantee Store RowKey} {α : Type} {Q : α → Point Store RowKey → Prop}
  {X : IdentityError → Point Store RowKey → Prop} {x : Point Store RowKey}

/-! ## Reading under a lock -/

theorem lockRow_within {F : Store → Store → Prop} (hF : ∀ s, F s s) {ρ : Type}
    (table : Store → List ρ) (key : ρ → RowKey) (where_ : ρ → Bool) :
    (lockRow table key where_).Within F fun o => ∀ r ∈ o, where_ r = true := by
  refine Tx.Within.read_bind hF fun v => ?_
  cases (table v).find? where_ with
  | none => exact Tx.Within.pure nofun
  | some row =>
    refine Tx.Within.andThen (Tx.Within.lockAll _ _) fun _ => Tx.Within.read hF _ fun w r hr => ?_
    have h := List.find?_some hr
    rw [Bool.and_eq_true] at h
    exact h.2

/-- **Whoever has locked an account knows its rows.** -/
theorem lockAccount_bind (hV : accountViews.Respected E) (h : accountViews.Clean E x)
    {where_ : Account → Bool} {f : Option Account → Program α}
    (hnone : ∀ y, accountViews.Clean E y → (f none).Safe E G Q X y)
    (hsome : ∀ account y, accountViews.Holds E account.id (accountViews.view account.id y.db)
        (accountViews.view account.id y.db) y → E.Inv y.db → E.Rely x.locks x.db y.db →
      where_ account = true → (f (some account)).Safe E G Q X y) :
    ((lockAccount where_).bind f).Safe E G Q X x := by
  rw [lockAccount, lockRow, Tx.bind_eq, Tx.bind_assoc]
  refine Tx.Safe.read_bind fun s _ hr => ?_
  have hs := h.later subset_rfl hr
  cases (x.pending s).accounts.find? where_ with
  | none => exact hnone _ hs
  | some row =>
    dsimp only
    rw [Tx.bind_eq, Tx.bind_assoc]
    refine Tx.Safe.lockAll_bind fun H t hH hkeys hrt => ?_
    have ht := hs.later hH hrt
    refine Tx.Safe.read_bind fun u hui hru => ?_
    have hu := ht.later subset_rfl hru
    cases hfound : List.find? (fun r : Account => RowKey.account r.id == RowKey.account row.id &&
        where_ r) (x.pending u).accounts with
    | none => exact hnone _ hu
    | some account =>
      have hmatch := List.find?_some hfound
      rw [Bool.and_eq_true, beq_iff_eq] at hmatch
      have hlock : (accountViews.lock account.id, RowLock.update) ∈ H := by
        show (RowKey.account account.id, RowLock.update) ∈ H
        rw [hmatch.1]
        exact hkeys _ (List.mem_singleton_self _)
      exact hsome account _ (hu.holds hV hlock) hui
        (E.trans hr (E.trans hrt (E.anti hH hru))) hmatch.2

/-- A credential that is found by its token belongs to its account. -/
theorem lockCredential_bind (h : accountViews.Clean E x) {where_ : OneTimeCredential → Bool}
    {f : Option OneTimeCredential → Program α}
    (hnone : ∀ y, accountViews.Clean E y → (f none).Safe E G Q X y)
    (hsome : ∀ credential y, accountViews.Clean E y → E.Inv y.db → where_ credential = true →
      credential ∈ (accountViews.view credential.accountId y.db).credentials →
        (f (some credential)).Safe E G Q X y) :
    ((lockRow (·.credentials) (fun c => .credential c.id) where_).bind f).Safe E G Q X x := by
  rw [lockRow, Tx.bind_eq, Tx.bind_assoc]
  refine Tx.Safe.read_bind fun s _ hr => ?_
  have hs := h.later subset_rfl hr
  cases (x.pending s).credentials.find? where_ with
  | none => exact hnone _ hs
  | some row =>
    dsimp only
    rw [Tx.bind_eq, Tx.bind_assoc]
    refine Tx.Safe.lockAll_bind fun H t hH _ hrt => ?_
    have ht := hs.later hH hrt
    refine Tx.Safe.read_bind fun u hui hru => ?_
    have hu := ht.later subset_rfl hru
    cases hfound : List.find? (fun r : OneTimeCredential =>
        RowKey.credential r.id == RowKey.credential row.id && where_ r)
          (x.pending u).credentials with
    | none => exact hnone _ hu
    | some credential =>
      have hmatch := List.find?_some hfound
      rw [Bool.and_eq_true] at hmatch
      refine hsome credential _ hu hui hmatch.2 ?_
      rw [← h u hui (E.trans hr (E.trans hrt (E.anti hH hru))) credential.accountId]
      exact Table.mem_rowsWith.2 ⟨List.mem_of_find?_eq_some hfound, rfl⟩

/-! ## What leaves the accounts alone -/

section Same

/-- The change leaves the tables of the accounts alone. -/
theorem accounts_same {δ : Store → Store} (h : ∀ db, (δ db).accounts = db.accounts ∧
    (δ db).passwords = db.passwords ∧ (δ db).sessions = db.sessions ∧
      (δ db).credentials = db.credentials) (db : Store) : accountViews.Same db (δ db) := by
  intro a
  obtain ⟨haccounts, hpasswords, hsessions, hcredentials⟩ := h db
  simp only [accountViews, haccounts, hpasswords, hsessions, hcredentials]

/-- The two families of views. What only the limiter changes, neither of them shows. -/
structure Unseen (db db' : Store) : Prop where
  accounts : accountViews.Same db db'
  jobs : jobViews.Same db db'

theorem Unseen.refl (db : Store) : Unseen db db := ⟨.refl db, .refl db⟩

theorem unseen_attempts (attempts : List AttemptRecord) (db : Store) :
    Unseen db { db with attempts := attempts } :=
  ⟨fun _ => rfl, fun _ => rfl⟩

theorem insertRow_within {F : Store → Store → Prop} (hF : ∀ s, F s s) (keys : List RowKey)
    (isFree : Store → Bool) {δ : Store → Store} (hδ : ∀ s, F s (δ s)) :
    (insertRow keys isFree δ).Within F fun _ => True :=
  Tx.Within.andThen (Tx.Within.lockAll _ _) fun _ => Tx.Within.writeIf hF (fun _ => hδ) _ _

theorem onlyIf_within {F : Store → Store → Prop} {statement : Program Unit}
    (h : statement.Within F fun _ => True) (b : Bool) :
    (onlyIf b statement).Within F fun _ => True := by
  cases b with
  | true => exact h
  | false => exact Tx.Within.pure trivial

theorem lockAttempt_unseen (purpose : AttemptPurpose) (subject : Bytes) :
    (lockAttempt purpose subject).Within Unseen fun _ => True :=
  (lockRow_within Unseen.refl _ _ _).mono (fun _ _ h => h) fun _ _ => trivial

theorem putAttempt_unseen (record : AttemptRecord) :
    (putAttempt record).Within Unseen fun _ => True :=
  Tx.Within.write fun _ db => unseen_attempts _ db

theorem attemptRetryAfter_unseen (now : Timestamp) (purpose : AttemptPurpose) (subject : Bytes)
    (maximum : ℕ) :
    (attemptRetryAfter settings now purpose subject maximum).Within Unseen fun _ => True := by
  refine Tx.Within.andThen (lockAttempt_unseen purpose subject) fun found => ?_
  cases found with
  | none => exact Tx.Within.pure trivial
  | some record =>
    dsimp only
    split
    · exact Tx.Within.pure trivial
    · exact Tx.Within.pure trivial
    · exact Tx.Within.andThen (putAttempt_unseen _) fun _ => Tx.Within.pure trivial

theorem recordAttempt_unseen (now : Timestamp) (purpose : AttemptPurpose) (subject : Bytes) :
    (recordAttempt settings now purpose subject).Within Unseen fun _ => True := by
  refine Tx.Within.andThen (lockAttempt_unseen purpose subject) fun found => ?_
  cases found with
  | none => exact insertRow_within Unseen.refl _ _ fun db => unseen_attempts _ db
  | some record => exact putAttempt_unseen _

theorem clearAttempt_unseen (purpose : AttemptPurpose) (subject : Bytes) :
    (clearAttempt purpose subject).Within Unseen fun _ => True := by
  refine Tx.Within.read_bind Unseen.refl fun db => ?_
  split
  · exact Tx.Within.pure trivial
  · exact Tx.Within.andThen (Tx.Within.lockAll _ _) fun _ =>
      Tx.Within.write fun _ db => unseen_attempts _ db

theorem refuseAbove_unseen (now : Timestamp) (purpose : AttemptPurpose) (subject : Bytes)
    (maximum : ℕ) : (refuseAbove settings now purpose subject maximum).Changes Unseen := by
  refine Tx.Changes.bind (attemptRetryAfter_unseen now purpose subject maximum).changes
    fun retryAfter => ?_
  cases retryAfter with
  | none => exact Tx.Changes.pure _
  | some seconds => exact Tx.Changes.bind Tx.Changes.commitNow fun _ => Tx.Changes.raise _

theorem failAttempt_unseen (now : Timestamp) (purpose : AttemptPurpose) (subject : Bytes)
    (e : IdentityError) :
    (failAttempt settings now purpose subject e : Program α).Changes Unseen :=
  Tx.Changes.bind (recordAttempt_unseen now purpose subject).changes fun _ =>
    Tx.Changes.bind Tx.Changes.commitNow fun _ => Tx.Changes.raise _

theorem clearOutboxEnvelopes_accounts (ids : List Uuid) :
    (clearOutboxEnvelopes ids).Within accountViews.Same fun _ => True :=
  Tx.Within.write fun _ => accounts_same fun _ => ⟨rfl, rfl, rfl, rfl⟩

end Same

/-! ## Statements on an account -/

section Account

variable {a : Uuid} {v w : AccountRows}

/-- A statement on the rows of an account. -/
theorem insertRow_bind (hV : accountViews.Respected E) (h : accountViews.Holds E a v w x)
    {keys : List RowKey} {isFree : Store → Bool} {δ : Store → Store}
    {g : AccountRows → AccountRows}
    (hself : ∀ db, accountViews.view a (δ db) = g (accountViews.view a db))
    (hothers : ∀ db j, j ≠ a → accountViews.view j (δ db) = accountViews.view j db)
    (hX : ∀ e y, X e y) {P : Prop}
    (hP : ∀ db, isFree db = true → accountViews.view a db = w → P) {f : Unit → Program α}
    (hf : ∀ y, P → accountViews.Holds E a v (g w) y → (f ()).Safe E G Q X y) :
    ((insertRow keys isFree δ).bind f).Safe E G Q X x := by
  rw [insertRow, Tx.bind_eq, Tx.bind_assoc]
  exact h.lockAll_bind hV fun y hy => hy.writeIf_bind hV hself hothers hX hP hf

theorem setStatus_bind (hV : accountViews.Respected E) (h : accountViews.Holds E a v w x)
    (status : AccountStatus) {f : Unit → Program α}
    (hf : ∀ y, accountViews.Holds E a v (w.setStatus status) y → (f ()).Safe E G Q X y) :
    ((setStatus a status).bind f).Safe E G Q X x := by
  refine h.write_bind hV (g := AccountRows.setStatus status) (fun _ db => ?_) (fun _ db j hj => ?_)
    hf
  · exact view_accounts_self (by intro r; rfl) db
  · exact view_accounts_other (by intro r; rfl) hj db

theorem rehash_bind (hV : accountViews.Respected E) (h : accountViews.Holds E a v w x)
    (passwordHash : String) {f : Unit → Program α}
    (hf : ∀ y, accountViews.Holds E a v (w.rehash passwordHash) y → (f ()).Safe E G Q X y) :
    ((rehash a passwordHash).bind f).Safe E G Q X x := by
  refine h.write_bind hV (g := AccountRows.rehash passwordHash) (fun _ db => ?_)
    (fun _ db j hj => ?_) hf
  · exact view_passwords_self (by intro r; rfl) db
  · exact view_passwords_other (by intro r; rfl) hj db

theorem revokeSessions_bind (hV : accountViews.Respected E) (h : accountViews.Holds E a v w x)
    (now : Timestamp) (reason : String) {f : Unit → Program α}
    (hf : ∀ y, accountViews.Holds E a v (w.revokeSessions now reason) y →
      (f ()).Safe E G Q X y) :
    ((revokeSessions now a reason).bind f).Safe E G Q X x := by
  refine h.write_bind hV (g := AccountRows.revokeSessions now reason) (fun _ db => ?_)
    (fun _ db j hj => ?_) hf
  · exact view_sessions_self (by intro r; rfl) (by intro r; rfl) db
  · exact view_sessions_other (by intro r; rfl) (by intro r; rfl) hj db

/-- The credentials that are selected are those that could be used, and all of them. -/
theorem revokeCredentials_bind (hV : accountViews.Respected E)
    (h : accountViews.Holds E a v w x) (now : Timestamp) (purpose : MailPurpose)
    {f : List Uuid → Program α}
    (hf : ∀ y, accountViews.Holds E a v (w.revoke now ((w.active purpose).map (·.id))) y →
      (f ((w.active purpose).map (·.id))).Safe E G Q X y) :
    ((revokeCredentials now a purpose).bind f).Safe E G Q X x := by
  rw [revokeCredentials, Tx.bind_eq, Tx.bind_assoc]
  refine h.selectAllForUpdate_bind hV (g := AccountRows.active purpose) (fun db => ?_)
    fun y hy => ?_
  · rw [AccountRows.active]
    show _ = (Table.rowsWith _ a db.credentials).filter _
    rw [Table.rowsWith, List.filter_filter]
    refine List.filter_congr fun c _ => ?_
    rw [isActiveCredential]
    ac_rfl
  · rw [Tx.bind_eq, Tx.bind_assoc]
    refine hy.write_bind hV (g := AccountRows.revoke now ((w.active purpose).map (·.id)))
      (fun _ db => ?_) (fun _ db j hj => ?_) hf
    · exact view_credentials_self (by intro r; rfl) (by intro r; rfl) db
    · exact view_credentials_other (by intro r; rfl) (by intro r; rfl) hj db

theorem findPassword_eq (db : Store) :
    findPassword a db = (accountViews.view a db).passwords.head? :=
  (List.head?_filter ..).symm

theorem findPassword_bind (hV : accountViews.Respected E) (h : accountViews.Holds E a v w x)
    {f : Option PasswordCredential → Program α}
    (hf : ∀ y, accountViews.Holds E a v w y → (f w.passwords.head?).Safe E G Q X y) :
    ((Tx.read (findPassword a)).bind f).Safe E G Q X x := by
  refine h.read_bind hV fun s _ hw hy _ => ?_
  rw [findPassword_eq, hw]
  exact hf _ hy

theorem setPassword_bind (hV : accountViews.Respected E) (h : accountViews.Holds E a v w x)
    (passwordHash : String) (hX : ∀ e y, X e y) {f : ℕ → Program α}
    (hf : ∀ y, accountViews.Holds E a v (w.setPassword a passwordHash) y →
      (f (w.version + 1)).Safe E G Q X y) :
    ((setPassword a passwordHash).bind f).Safe E G Q X x := by
  rw [setPassword, Tx.bind_eq, Tx.bind_assoc]
  refine findPassword_bind hV h fun y hy => ?_
  cases hps : w.passwords with
  | nil =>
    have hset : w.setPassword a passwordHash = { w with passwords := [⟨a, passwordHash, 1⟩] } := by
      simp only [AccountRows.setPassword, hps]
    have hversion : w.version = 0 := by simp [AccountRows.version, hps]
    rw [hset, hversion] at hf
    dsimp only [List.head?_nil]
    rw [Tx.bind_eq, Tx.bind_assoc]
    refine insertRow_bind hV hy (P := True)
      (g := fun u => { u with passwords := ⟨a, passwordHash, 1⟩ :: u.passwords })
      (fun db => ?_) (fun db j hj => ?_) hX (fun _ _ _ => trivial) fun z _ hz => ?_
    · exact view_passwords_cons_self ⟨a, passwordHash, 1⟩ rfl db
    · exact view_passwords_cons_other ⟨a, passwordHash, 1⟩ rfl hj db
    · rw [hps] at hz
      exact hf z hz
  | cons p ps =>
    have hversion : w.version = p.version := by simp [AccountRows.version, hps]
    have hset : w.setPassword a passwordHash = { w with passwords := w.passwords.map fun q =>
        { q with passwordHash := passwordHash, version := p.version + 1 } } := by
      simp only [AccountRows.setPassword, hversion, hps]
    rw [hset, hversion] at hf
    dsimp only [List.head?_cons]
    rw [Tx.bind_eq, Tx.bind_assoc]
    refine hy.write_bind hV (g := fun u => { u with passwords := u.passwords.map fun q =>
      { q with passwordHash := passwordHash, version := p.version + 1 } })
      (fun _ db => ?_) (fun _ db j hj => ?_) fun z hz => hf z hz
    · exact view_passwords_self (by intro r; rfl) db
    · exact view_passwords_other (by intro r; rfl) hj db

theorem createSession_bind (hV : accountViews.Respected E) (h : accountViews.Holds E a v w x)
    (new : NewSession) (passwordVersion : ℕ) (hX : ∀ e y, X e y) {f : Unit → Program α}
    (hf : ∀ y, new.id ∉ w.sessions.map (·.id) →
      accountViews.Holds E a v (w.addSession (new.row settings a passwordVersion)) y →
        (f ()).Safe E G Q X y) :
    ((createSession settings new a passwordVersion).bind f).Safe E G Q X x := by
  rw [createSession]
  refine insertRow_bind hV h (g := AccountRows.addSession (new.row settings a passwordVersion))
    (P := new.id ∉ w.sessions.map (·.id)) (fun db => ?_) (fun db j hj => ?_) hX
    (fun db hfree hw hmem => ?_) hf
  · exact view_sessions_cons_self (new.row settings a passwordVersion) rfl db
  · exact view_sessions_cons_other (new.row settings a passwordVersion) rfl hj db
  · rw [← hw] at hmem
    obtain ⟨s, hs, hid⟩ := List.mem_map.1 hmem
    have htaken := List.any_eq_false.1 ((Bool.not_eq_true' _).mp hfree) s
      (Table.mem_rowsWith.1 hs).1
    exact htaken (by simp [hid, NewSession.row])

/-- What `_create_one_time_credential` makes of an account. -/
theorem createOneTimeCredential_bind (hV : accountViews.Respected E)
    (h : accountViews.Holds E a v w x) (new : NewCredential) (purpose : MailPurpose)
    (issuedFor : Option Uuid) (hX : ∀ e y, X e y) {f : Unit → Program α}
    (hf : ∀ u y, AccountStep w u → accountViews.Holds E a v u y → (f ()).Safe E G Q X y) :
    ((createOneTimeCredential settings new a purpose issuedFor).bind f).Safe E G Q X x := by
  rw [createOneTimeCredential, Tx.bind_eq, Tx.bind_assoc]
  refine revokeCredentials_bind hV h new.now purpose fun y hy => ?_
  rw [Tx.bind_eq, Tx.bind_assoc]
  refine hy.within_bind hV hX (clearOutboxEnvelopes_accounts _) fun _ z _ hz _ => ?_
  dsimp only
  rw [Tx.bind_eq, Tx.bind_assoc]
  refine insertRow_bind hV hz
    (g := AccountRows.addCredential (new.row settings a purpose issuedFor))
    (P := new.id ∉ w.credentials.map (·.id)) (fun db => ?_) (fun db j hj => ?_) hX
    (fun db hfree hw hmem => ?_) fun u hnew hu => ?_
  · exact view_credentials_cons_self (new.row settings a purpose issuedFor) rfl db
  · exact view_credentials_cons_other (new.row settings a purpose issuedFor) rfl hj db
  · rw [← AccountRows.credentialIds_revoke new.now ((w.active purpose).map (·.id)), ← hw] at hmem
    obtain ⟨c, hc, hid⟩ := List.mem_map.1 hmem
    have htaken := List.any_eq_false.1 ((Bool.not_eq_true' _).mp hfree) c
      (Table.mem_rowsWith.1 hc).1
    exact htaken (by simp [hid, NewCredential.row])
  · have hspent : (w.revoke new.now ((w.active purpose).map (·.id))).active
        (new.row settings a purpose issuedFor).purpose = [] := AccountRows.active_revoke _ _
    have hfresh : (new.row settings a purpose issuedFor).id ∉
        (w.revoke new.now ((w.active purpose).map (·.id))).credentials.map (·.id) := by
      rw [AccountRows.credentialIds_revoke]
      exact hnew
    have hstep := (AccountRows.step_revoke new.now ((w.active purpose).map (·.id))).trans
      (AccountRows.step_addCredential hfresh hspent)
    have hmail : (insertRow [.outbox new.mailId] (fun db => !db.outbox.any (·.id == new.mailId))
        fun db => { db with outbox := new.mail settings a purpose issuedFor :: db.outbox }).Within
          accountViews.Same fun _ => True :=
      insertRow_within LockedViews.Same.refl _ _ fun db => fun _ => rfl
    exact hu.within_bind hV hX hmail fun _ t _ ht _ => hf _ t hstep ht

end Account

end Authentication

end Rulefolio
