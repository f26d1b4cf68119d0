import Rulefolio.Authentication.Parts

/-!
# What the calls do to an account

Every call of `app.identity` is followed on the one account it has locked. At each of its commits
the account has changed by a step; at the commit of an exchange that gets so far, the credential
has been used up.

## Main results

* `login_accounts`, `exchange_accounts`, `provisionAccount_accounts`, `requestRecovery_accounts`,
  `recoverStale_accounts`, `processNext_accounts`.
* `prog_accounts` — every call.
-/

namespace Rulefolio

namespace Authentication

open ReadCommitted

variable {settings : IdentitySettings} {x : Point Store RowKey} {a : Uuid} {v w : AccountRows}

/-- What a commit of a call does to the accounts. -/
def accountGuarantee (settings : IdentitySettings) (call : Call) : Tx.Guarantee Store RowKey :=
  fun _ H db db' => accountViews.Commits AccountStep H db db' ∧ Effect settings call db db'

theorem effect_of_same (settings : IdentitySettings) (call : Call) {db db' : Store}
    (h : accountViews.Same db db') : Effect settings call db db' := by
  cases call with
  | exchange => exact .inl h
  | _ => trivial

/-- A call that is followed on the accounts. -/
def Follows (settings : IdentitySettings) (call : Call) (t : Program Unit)
    (x : Point Store RowKey) : Prop :=
  t.Safe (identityEnvironment settings) (accountGuarantee settings call) (fun _ _ => True)
    (fun _ _ => True) x

variable {call : Call}

/-- A program that leaves the accounts alone, after which the call goes on. -/
theorem follows_changes_bind {α : Type} (h : accountViews.Clean (identityEnvironment settings) x)
    {t : Program α} (ht : t.Changes accountViews.Same) {f : α → Program Unit}
    (hf : ∀ b y, accountViews.Clean (identityEnvironment settings) y →
      Follows settings call (f b) y) : Follows settings call (t.bind f) x :=
  h.changes_bind AccountStep.refl ht
    (fun _ _ _ _ hc hsame => ⟨hc, effect_of_same settings call hsame⟩) (fun _ _ => trivial) hf

theorem follows_changes (h : accountViews.Clean (identityEnvironment settings) x)
    {t : Program Unit} (ht : t.Changes accountViews.Same) : Follows settings call t x := by
  have hsafe : Follows settings call (t.bind Tx.pure) x := by
    refine follows_changes_bind h ht fun _ y _ => ?_
    rw [Follows, Tx.Safe]
    trivial
  rwa [Tx.bind_pure] at hsafe

theorem Unseen.accounts_changes {α : Type} {t : Program α} (h : t.Changes Unseen) :
    t.Changes accountViews.Same :=
  h.mono fun _ _ hu => hu.accounts

theorem Unseen.accounts_within {α : Type} {t : Program α} {P : α → Prop}
    (h : t.Within Unseen P) : t.Within accountViews.Same P :=
  h.mono (fun _ _ hu => hu.accounts) fun _ hp => hp

/-- The last commit of a call whose commits may be any steps. -/
theorem follows_commit (heffect : ∀ db db', Effect settings call db db')
    (h : accountViews.Holds (identityEnvironment settings) a v w x) (hstep : AccountStep v w) :
    Follows settings call Tx.commitNow x := by
  rw [Follows, ← Tx.bind_pure Tx.commitNow]
  refine h.commit_bind (accounts_respected settings) AccountStep.refl hstep
    (fun _ _ db db' hc _ _ => ⟨hc, heffect db db'⟩) fun _ _ => ?_
  rw [Tx.Safe]
  trivial

/-! ## Logging in -/

theorem eligible_eq_some {account account' : Account} {o : Option PasswordCredential}
    {credential : PasswordCredential}
    (h : eligible (some account) o = some (account', credential)) :
    account' = account ∧ o = some credential := by
  cases o with
  | none => nomatch h
  | some c =>
    rw [eligible] at h
    split at h
    · obtain ⟨rfl, rfl⟩ := Prod.mk.inj (Option.some.inj h)
      exact ⟨rfl, rfl⟩
    · nomatch h

/-- The session is granted, on the password that was verified. -/
theorem grant_follows {new : NewSession} {subject : Bytes} {n : ℕ}
    (heffect : ∀ db db', Effect settings call db db')
    (h : accountViews.Holds (identityEnvironment settings) a v w x) (hstep : AccountStep v w)
    (hn : n = w.version) : Follows settings call (do
      clearAttempt .login subject
      createSession settings new a n
      Tx.commitNow) x := by
  have hV : accountViews.Respected (identityEnvironment settings) := accounts_respected settings
  refine h.within_bind hV (fun _ _ => trivial)
    (Unseen.accounts_within (clearAttempt_unseen .login subject)) fun _ y _ hy _ => ?_
  refine createSession_bind hV hy new n (fun _ _ => trivial) fun z hnew hz => ?_
  exact follows_commit heffect hz (hstep.trans (AccountRows.step_addSession hnew hn))

theorem login_accounts (email password : String) (salt : Bytes) (new : NewSession)
    (failedAt : Timestamp) (db : Store) :
    Follows settings (.login email password salt new failedAt)
      (login settings email password salt new failedAt) (Point.start db) := by
  have hV : accountViews.Respected (identityEnvironment settings) := accounts_respected settings
  have heffect : ∀ db db', Effect settings (.login email password salt new failedAt) db db' :=
    fun _ _ => trivial
  refine Tx.Safe.require_bind (fun _ => trivial) fun email' _ => ?_
  refine follows_changes_bind (LockedViews.clean_start db)
    (Unseen.accounts_changes (refuseAbove_unseen ..)) fun _ y hy => ?_
  refine lockAccount_bind hV hy (fun z hz => ?_) fun account z hz hzi _ _ => ?_
  · exact follows_changes hz (Unseen.accounts_changes (failAttempt_unseen ..))
  · refine findPassword_bind hV hz fun u hu => ?_
    split
    · exact follows_changes (hu.clean hV) (Unseen.accounts_changes (failAttempt_unseen ..))
    · rename_i account' credential heligible
      obtain ⟨rfl, hcredential⟩ := eligible_eq_some heligible
      have hversion : credential.version =
          (accountViews.view account'.id z.db).version := by
        rw [AccountRows.version, hcredential]
        rfl
      split
      · -- the hash may be renewed first, which leaves the version alone
        cases settings.hasher.checkNeedsRehash credential.passwordHash with
        | false => exact grant_follows heffect hu (.refl _) hversion
        | true =>
          refine rehash_bind hV hu _ fun t ht => ?_
          exact grant_follows heffect ht (AccountRows.step_rehash _)
            (hversion.trans (AccountRows.version_rehash _).symm)
      · exact follows_changes (hu.clean hV) (Unseen.accounts_changes (failAttempt_unseen ..))

/-! ## Exchanging a token -/

/-- The `UPDATE` hits the credential if it can still be used. -/
theorem consumeCredential_bind (hok : AccountOk w) {now : Timestamp}
    {credential : OneTimeCredential} {f : Bool → Program Unit}
    (h : accountViews.Holds (identityEnvironment settings) credential.accountId v w x)
    (hmiss : ∀ y, accountViews.Holds (identityEnvironment settings) credential.accountId v w y →
      Follows settings call (f false) y)
    (hhit' : ∀ c y, c ∈ w.credentials → AccountRows.isConsumed now credential.id c = true →
      accountViews.Holds (identityEnvironment settings) credential.accountId v
        (w.consume now credential.id) y → Follows settings call (f true) y) :
    Follows settings call ((consumeCredential now credential).bind f) x := by
  have hV : accountViews.Respected (identityEnvironment settings) := accounts_respected settings
  have hconsumes : ∀ c : OneTimeCredential, consumes now credential c =
      (c.accountId == credential.accountId && AccountRows.isConsumed now credential.id c) := by
    intro c
    rw [consumes, AccountRows.isConsumed]
    ac_rfl
  have hcount : ∀ db : Store, accountViews.view credential.accountId db = w →
      db.credentials.countP (consumes now credential) =
        w.credentials.countP (AccountRows.isConsumed now credential.id) := by
    rintro db rfl
    show _ = (Table.rowsWith _ _ db.credentials).countP _
    rw [Table.rowsWith, List.countP_filter]
    refine List.countP_congr fun c _ => ?_
    rw [hconsumes, Bool.and_comm]
  refine Tx.Safe.stmt_bind fun s hs hr => ?_
  have hconsumed := h.write hV (z := w.consume now credential.id)
    (δ := fun db => { db with
      credentials := Table.update (consumes now credential)
        (fun c => { c with status := .consumed, consumedAt := some now }) db.credentials })
    (fun t _ _ hw => hw ▸ view_credentials_self (by intro r; rfl) hconsumes _)
    (fun t _ _ j hj => view_credentials_other (by intro r; rfl) hconsumes hj _) hr
  rw [Tx.pure_bind, hcount _ (h.sees s hs hr), List.countP_eq_length_filter]
  cases hhits : w.credentials.filter (AccountRows.isConsumed now credential.id) with
  | nil =>
    have hsame : w.consume now credential.id = w := by
      have hrows : Table.update (AccountRows.isConsumed now credential.id)
          (fun c => { c with status := .consumed, consumedAt := some now }) w.credentials =
            w.credentials := by
        refine (List.map_congr_left fun c hc => ?_).trans (List.map_id _)
        rw [if_neg (List.filter_eq_nil_iff.1 hhits c hc)]
        rfl
      rw [AccountRows.consume, hrows]
    rw [hsame] at hconsumed
    exact hmiss _ hconsumed
  | cons c rest =>
    have hc : c ∈ w.credentials.filter (AccountRows.isConsumed now credential.id) :=
      hhits ▸ List.mem_cons_self
    obtain ⟨hmem, hhit⟩ := List.mem_filter.1 hc
    have hrest : rest = [] := by
      -- identifiers are unique, so there is one row to hit
      refine List.eq_nil_iff_forall_not_mem.2 fun c' hc' => ?_
      have hnodup := hok.credentialIds.sublist
        ((List.filter_sublist (p := AccountRows.isConsumed now credential.id)).map (·.id))
      rw [hhits, List.map_cons, List.nodup_cons] at hnodup
      have hmem' : c' ∈ w.credentials.filter (AccountRows.isConsumed now credential.id) :=
        hhits ▸ List.mem_cons_of_mem _ hc'
      have hid' := AccountRows.id_of_isConsumed (List.mem_filter.1 hmem').2
      refine hnodup.1 (List.mem_map.2 ⟨c', hc', hid'.trans ?_⟩)
      exact (AccountRows.id_of_isConsumed hhit).symm
    rw [hrest]
    exact hhit' c _ hmem hhit hconsumed

theorem onlyIf_bind {b : Bool} {statement : Program Unit} {f : Unit → Program Unit}
    (htrue : b = true → Follows settings call (statement.bind f) x)
    (hfalse : b = false → Follows settings call (f ()) x) :
    Follows settings call ((onlyIf b statement).bind f) x := by
  cases b with
  | true => exact htrue rfl
  | false => exact hfalse rfl

/-- What an exchange has done to the account before it grants the session. -/
structure Spent (settings : IdentitySettings) (token : String) (purpose : MailPurpose) (id : Uuid)
    (v w : AccountRows) : Prop where
  step : AccountStep v w
  version : w.version = v.version + 1
  before : ∃ c ∈ v.credentials, c.id = id ∧ c.purpose = purpose ∧
    c.tokenHash = settings.tokenHash token ∧ c.status = .active
  after : ∀ c ∈ w.credentials, c.id = id → c.status = .consumed

/-- What a recovery has cut off. -/
def CutOff (w : AccountRows) : Prop :=
  (∀ s ∈ w.sessions, s.revokedAt ≠ none) ∧ w.active .passwordRecovery = []

theorem revokedAt_revokeSessions (now : Timestamp) (reason : String) :
    ∀ s ∈ (w.revokeSessions now reason).sessions, s.revokedAt ≠ none := by
  intro s' hs'
  obtain ⟨s, -, rfl⟩ := List.mem_map.1 hs'
  split
  · exact Option.some_ne_none _
  · rename_i hrevoked
    rwa [Option.isNone_iff_eq_none] at hrevoked

/-- The other credentials are revoked, and the one that was consumed stays consumed. -/
theorem consumed_revoke {id : Uuid} (h : ∀ c ∈ w.credentials, c.id = id → c.status = .consumed)
    (now : Timestamp) (purpose : MailPurpose) :
    ∀ c ∈ (w.revoke now ((w.active purpose).map (·.id))).credentials, c.id = id →
      c.status = .consumed := by
  intro c' hc' hid
  obtain ⟨c, hc, rfl⟩ := List.mem_map.1 hc'
  split at hid
  · rename_i hrevoked
    obtain ⟨c₂, hc₂, hsame⟩ := List.mem_map.1 (List.contains_iff_mem.1 hrevoked)
    obtain ⟨hmem, hactive⟩ := List.mem_filter.1 hc₂
    have hconsumed := h c₂ hmem (hsame.trans hid)
    rw [hconsumed] at hactive
    simp at hactive
  · rename_i hkept
    rw [if_neg hkept]
    exact h c hc hid

variable {token password : String} {purpose : MailPurpose} {salt : Bytes} {new : NewSession}
  {failedAt : Timestamp} {subject : Bytes} {credential : OneTimeCredential} {id : Uuid}

theorem Spent.exchanged (h : Spent settings token purpose id v w)
    (hcut : purpose = .passwordRecovery → CutOff w) (n : ℕ) (hn : n = v.version + 1) :
    Exchanged settings token purpose id v (w.addSession (new.row settings a n)) where
  before := h.before
  after := h.after
  version := by
    show v.version < w.version
    rw [h.version]
    exact Nat.lt_succ_self _
  sessions hpurpose s hs hvalid := by
    rcases List.mem_cons.1 hs with rfl | hs
    · show v.version < n
      omega
    · exact absurd hvalid ((hcut hpurpose).1 s hs)
  credentials hpurpose := (hcut hpurpose).2

/-- The session is granted, on the password that was set. -/
theorem grantExchanged_follows
    (h : accountViews.Holds (identityEnvironment settings) a v w x)
    (hspent : Spent settings token purpose id v w)
    (hcut : purpose = .passwordRecovery → CutOff w) :
    Follows settings (.exchange token purpose password salt new failedAt) (do
      createSession settings new a (v.version + 1)
      clearAttempt (.exchange purpose) subject
      Tx.commitNow) x := by
  have hV : accountViews.Respected (identityEnvironment settings) := accounts_respected settings
  refine createSession_bind hV h new _ (fun _ _ => trivial) fun y hnew hy => ?_
  refine hy.within_bind hV (fun _ _ => trivial)
    (Unseen.accounts_within (clearAttempt_unseen (.exchange purpose) subject)) fun _ z _ hz _ => ?_
  have hadded : AccountStep w (w.addSession (new.row settings a (v.version + 1))) :=
    AccountRows.step_addSession hnew hspent.version.symm
  have hstep := hspent.step.trans hadded
  rw [← Tx.bind_pure Tx.commitNow]
  refine hz.commit_bind hV AccountStep.refl hstep (fun _ _ db db' hc hbefore hafter => ?_)
    fun _ _ => ?_
  · refine ⟨hc, .inr ⟨a, id, ?_⟩⟩
    rw [hbefore, hafter]
    exact hspent.exchanged hcut _ rfl
  · rw [Tx.Safe]
    trivial

/-- **The rest of a successful exchange**, from the account with the credential consumed. -/
theorem finishExchange_follows
    (h : accountViews.Holds (identityEnvironment settings) credential.accountId v
      (v.consume new.now credential.id) x)
    (hbefore : ∃ c ∈ v.credentials, c.id = credential.id ∧ c.purpose = purpose ∧
      c.tokenHash = settings.tokenHash token ∧ c.status = .active)
    (hafter : ∀ c ∈ (v.consume new.now credential.id).credentials, c.id = credential.id →
      c.status = .consumed) :
    Follows settings (.exchange token purpose password salt new failedAt)
      (finishExchange settings purpose subject password salt new credential) x := by
  have hV : accountViews.Respected (identityEnvironment settings) := accounts_respected settings
  -- the password is set, and the account activated
  refine setPassword_bind hV h _ (fun _ _ => trivial) fun y hy => ?_
  have hset : Spent settings token purpose credential.id v
      ((v.consume new.now credential.id).setPassword credential.accountId
        (settings.hasher.hash salt password)) :=
    ⟨(AccountRows.step_consume _ _).trans (AccountRows.step_setPassword _ _),
      AccountRows.version_setPassword _ _, hbefore, hafter⟩
  suffices hrest : ∀ w z, Spent settings token purpose credential.id v w →
      accountViews.Holds (identityEnvironment settings) credential.accountId v w z →
      Follows settings (.exchange token purpose password salt new failedAt) (do
        clearOutboxEnvelopes [credential.id]
        onlyIf (purpose = .passwordRecovery) (cutOff new.now credential.accountId)
        createSession settings new credential.accountId (v.version + 1)
        clearAttempt (.exchange purpose) subject
        Tx.commitNow) z by
    refine onlyIf_bind (fun _ => ?_) fun _ => hrest _ _ hset hy
    refine setStatus_bind hV hy _ fun z hz => hrest _ _ ?_ hz
    exact ⟨hset.step.trans (AccountRows.step_setStatus _), hset.version, hbefore, hafter⟩
  clear hset hy h y
  intro w z hspent hz
  refine hz.within_bind hV (fun _ _ => trivial) (clearOutboxEnvelopes_accounts _)
    fun _ t _ ht _ => ?_
  -- a recovery cuts off the sessions and the other credentials
  refine onlyIf_bind (fun _ => ?_) fun hno => ?_
  · rw [cutOff, Tx.bind_eq, Tx.bind_assoc]
    refine revokeSessions_bind hV ht _ _ fun u hu => ?_
    rw [Tx.bind_eq, Tx.bind_assoc]
    refine revokeCredentials_bind hV hu _ _ fun u' hu' => ?_
    refine hu'.within_bind hV (fun _ _ => trivial) (clearOutboxEnvelopes_accounts _)
      fun _ t' _ ht' _ => ?_
    refine grantExchanged_follows ht' ⟨?_, hspent.version, hbefore, ?_⟩ fun _ => ⟨?_, ?_⟩
    · exact (hspent.step.trans (AccountRows.step_revokeSessions _ _)).trans
        (AccountRows.step_revoke _ _)
    · exact consumed_revoke hspent.after _ _
    · exact revokedAt_revokeSessions _ _
    · exact AccountRows.active_revoke _ _
  · exact grantExchanged_follows ht hspent fun hpurpose => absurd hpurpose (of_decide_eq_false hno)

/-- What the others do to an account are steps. -/
theorem steps_of_rely {H : Set (RowKey × RowLock)} {db db' : Store}
    (h : (identityEnvironment settings).Rely H db db') (a : Uuid) :
    AccountStep (accountViews.view a db) (accountViews.view a db') :=
  relates_of_rely
    (R := fun db db' => AccountStep (accountViews.view a db) (accountViews.view a db'))
    (fun _ => .refl _) (fun _ _ _ => AccountStep.trans)
    (fun _ _ _ _ _ _ hG _ => hG.1.1.step a) h

/-- The credential that is hit is the one that was found by its token. -/
theorem found_of_hit (hv : AccountOk v) (hstep : AccountStep v w)
    (hfound : credential ∈ v.credentials) {c : OneTimeCredential} (hc : c ∈ w.credentials)
    (hid : c.id = credential.id) :
    c.purpose = credential.purpose ∧ c.tokenHash = credential.tokenHash := by
  rcases hstep.credential c hc with ⟨c₀, hc₀, hid₀, hpurpose, htoken, -⟩ | hnew
  · have hsame : c₀ = credential :=
      List.inj_on_of_nodup_map hv.credentialIds hc₀ hfound (hid₀.trans hid)
    rw [← hpurpose, ← htoken, hsame]
    exact ⟨rfl, rfl⟩
  · rw [hid] at hnew
    exact absurd (List.mem_map_of_mem hfound) hnew

theorem linkUnavailable_unseen :
    (linkUnavailable settings failedAt purpose subject).Changes Unseen :=
  failAttempt_unseen ..

theorem exchange_accounts (token : String) (purpose : MailPurpose) (password : String)
    (salt : Bytes) (new : NewSession) (failedAt : Timestamp) (db : Store) :
    Follows settings (.exchange token purpose password salt new failedAt)
      (exchangeOneTimeCredential settings token purpose password salt new failedAt)
      (Point.start db) := by
  have hV : accountViews.Respected (identityEnvironment settings) := accounts_respected settings
  have hmissed : ∀ y, accountViews.Clean (identityEnvironment settings) y →
      Follows settings (.exchange token purpose password salt new failedAt)
        (linkUnavailable settings failedAt purpose (settings.attemptSubject token)) y :=
    fun y hy => follows_changes hy (Unseen.accounts_changes linkUnavailable_unseen)
  refine Tx.Safe.ensure_bind (fun _ => trivial) fun _ => ?_
  refine follows_changes_bind (LockedViews.clean_start db)
    (Unseen.accounts_changes (refuseAbove_unseen ..)) fun _ y hy => ?_
  refine lockCredential_bind hy hmissed fun credential z hz hzi htoken hfound => ?_
  dsimp only
  split
  · refine lockAccount_bind hV hz hmissed fun account u hu hui hr haccount => ?_
    dsimp only
    have hid : account.id = credential.accountId := beq_iff_eq.1 haccount
    rw [hid] at hu
    split
    · refine consumeCredential_bind (hui.1 _) hu (fun t ht => hmissed t (ht.clean hV))
        fun c t hc hhit ht => ?_
      have hcid := AccountRows.id_of_isConsumed hhit
      have hsame := found_of_hit (hzi.1 _) (steps_of_rely hr _) hfound hc hcid
      rw [hasToken, Bool.and_eq_true, beq_iff_eq, beq_iff_eq] at htoken
      refine finishExchange_follows ht
        ⟨c, hc, hcid, hsame.1.trans htoken.1, hsame.2.trans htoken.2, ?_⟩ fun c' hc' hid' => ?_
      · rw [AccountRows.isConsumed, Bool.and_eq_true, Bool.and_eq_true, beq_iff_eq,
          beq_iff_eq] at hhit
        exact hhit.1.2
      · obtain ⟨c₀, hc₀, rfl⟩ := List.mem_map.1 hc'
        split at hid'
        · rename_i hhit₀
          rw [if_pos hhit₀]
        · rename_i hmiss₀
          have hunique : c₀ = c :=
            List.inj_on_of_nodup_map (hui.1 _).credentialIds hc₀ hc (hid'.trans hcid.symm)
          rw [hunique] at hmiss₀
          exact absurd hhit hmiss₀
    · exact hmissed _ (hu.clean hV)
  · exact hmissed _ hz

/-! ## Issuing credentials -/

theorem provisionAccount_accounts (email : String) (newId : Uuid) (new : NewCredential)
    (db : Store) : Follows settings (.provisionAccount email newId new)
      (provisionAccount settings email newId new) (Point.start db) := by
  have hV : accountViews.Respected (identityEnvironment settings) := accounts_respected settings
  have heffect : ∀ db db', Effect settings (.provisionAccount email newId new) db db' :=
    fun _ _ => trivial
  refine Tx.Safe.require_bind (fun _ => trivial) fun email' _ => ?_
  refine lockAccount_bind hV (LockedViews.clean_start db) (fun y hy => ?_)
    fun account y hy _ _ _ => ?_
  · -- a new account
    dsimp only
    rw [insertRow, Tx.bind_eq, Tx.bind_eq, Tx.bind_assoc]
    refine Tx.Safe.lockAll_bind fun H s hH hkeys hr => ?_
    have hlock : (accountViews.lock newId, RowLock.update) ∈ H := hkeys _ List.mem_cons_self
    have hs := (hy.later hH hr).holds hV hlock
    refine hs.writeIf_bind hV (P := True)
      (g := fun v => { v with accounts := ⟨newId, email', .pendingActivation⟩ :: v.accounts })
      (fun db => ?_) (fun db j hj => ?_) (fun _ _ => trivial) (fun _ _ _ => trivial)
      fun z _ hz => ?_
    · exact view_accounts_cons_self ⟨newId, email', .pendingActivation⟩ rfl db
    · exact view_accounts_cons_other ⟨newId, email', .pendingActivation⟩ rfl hj db
    · refine createOneTimeCredential_bind hV hz new _ none (fun _ _ => trivial)
        fun u t hstep ht => ?_
      exact follows_commit heffect ht ((AccountStep.of_passwords le_rfl).trans hstep)
  · -- an account that is not active yet, or not any more
    refine Tx.Safe.ensure_bind (fun _ => trivial) fun _ => ?_
    refine setStatus_bind hV hy _ fun z hz => ?_
    refine revokeSessions_bind hV hz _ _ fun u hu => ?_
    refine revokeCredentials_bind hV hu _ _ fun u' hu' => ?_
    refine hu'.within_bind hV (fun _ _ => trivial) (clearOutboxEnvelopes_accounts _)
      fun _ t _ ht _ => ?_
    refine createOneTimeCredential_bind hV ht new _ none (fun _ _ => trivial)
      fun u'' t' hstep ht' => ?_
    refine follows_commit heffect ht' (AccountStep.trans ?_ hstep)
    exact ((AccountRows.step_setStatus _).trans (AccountRows.step_revokeSessions _ _)).trans
      (AccountRows.step_revoke _ _)

/-! ## Recovery requests -/

theorem requestRecovery_accounts (email : String) (new : NewJob) (db : Store) :
    Follows settings (.requestRecovery email new) (requestRecovery settings email new)
      (Point.start db) := by
  refine Tx.Safe.require_bind (fun _ => trivial) fun email' _ => ?_
  refine follows_changes (LockedViews.clean_start db) ?_
  refine Tx.Changes.bind (Unseen.accounts_changes (refuseAbove_unseen ..)) fun _ => ?_
  refine Tx.Changes.bind (Unseen.accounts_changes (recordAttempt_unseen ..).changes) fun _ => ?_
  refine Tx.Changes.bind (insertRow_within LockedViews.Same.refl _ _ fun db => ?_).changes
    fun _ => Tx.Changes.commitNow
  exact fun _ => rfl

theorem recoverStale_accounts (stage : RecoveryStage) (now : Timestamp) (locked : List Uuid)
    (db : Store) : Follows settings (.recoverStaleRecoveryRequestJobs stage now locked)
      (recoverStaleRecoveryRequestJobs settings stage now locked) (Point.start db) := by
  refine follows_changes (LockedViews.clean_start db) ?_
  rw [recoverStaleRecoveryRequestJobs]
  split
  · refine Tx.Changes.bind (Tx.Within.selectAllForUpdate LockedViews.Same.refl _ _).changes
      fun jobs => ?_
    exact Tx.Changes.bind (Tx.Within.write fun _ _ _ => rfl).changes fun _ =>
      Tx.Changes.commitNow
  · exact Tx.Changes.pure _

theorem claim_accounts (now : Timestamp) (locked : List Uuid) (claimId : Uuid) :
    (claimRecoveryRequestJob now locked claimId).Changes accountViews.Same := by
  refine Tx.Changes.bind (Tx.Within.read (P := fun _ => True) LockedViews.Same.refl _
      fun _ => trivial).changes
    fun next => ?_
  cases next with
  | none => exact Tx.Changes.pure _
  | some next =>
    refine Tx.Changes.bind (Tx.Within.lockAll _ _).changes fun _ => ?_
    refine Tx.Changes.bind (Tx.Within.read (P := fun _ => True) LockedViews.Same.refl _
      fun _ => trivial).changes
      fun job => ?_
    cases job with
    | none => exact Tx.Changes.pure _
    | some job =>
      exact Tx.Changes.bind (Tx.Within.write fun _ _ _ => rfl).changes fun _ =>
        Tx.Changes.bind Tx.Changes.commitNow fun _ => Tx.Changes.pure _

theorem finish_accounts (now : Timestamp) (jobId claimId : Uuid) (status : JobStatus) :
    (finishRecoveryRequestJob now jobId claimId status).Changes accountViews.Same :=
  Tx.Changes.bind (Tx.Within.write fun _ _ _ => rfl).changes fun _ =>
    Tx.Changes.commitNow

theorem processNext_accounts (stage : RecoveryStage) (now : Timestamp) (locked : List Uuid)
    (claimId : Uuid) (new : NewCredential) (db : Store) :
    Follows settings (.processNextRecoveryRequest stage now locked claimId new)
      (processNextRecoveryRequest settings stage now locked claimId new) (Point.start db) := by
  have hV : accountViews.Respected (identityEnvironment settings) := accounts_respected settings
  have heffect : ∀ db db', Effect settings
      (.processNextRecoveryRequest stage now locked claimId new) db db' := fun _ _ => trivial
  have hpure : ∀ y, Follows settings (.processNextRecoveryRequest stage now locked claimId new)
      (Tx.pure ()) y := fun y => by
    rw [Follows, Tx.Safe]
    trivial
  rw [processNextRecoveryRequest]
  split
  · refine follows_changes_bind (LockedViews.clean_start db) (claim_accounts now locked claimId)
      fun claimed y hy => ?_
    cases claimed with
    | none => exact hpure y
    | some jobId =>
      refine follows_changes_bind hy (lockRow_within LockedViews.Same.refl _ _ _).changes
        fun found z hz => ?_
      cases found with
      | none => exact hpure z
      | some job =>
        dsimp only
        split
        · exact follows_changes hz (finish_accounts ..)
        · refine lockAccount_bind hV hz (fun u hu => ?_) fun account u hu _ _ _ => ?_
          · exact follows_changes hu (finish_accounts ..)
          · refine findPassword_bind hV hu fun t ht => ?_
            cases heligible : eligible (some account)
              (accountViews.view account.id u.db).passwords.head? with
            | none => exact follows_changes (ht.clean hV) (finish_accounts ..)
            | some found =>
              obtain ⟨account', credential⟩ := found
              obtain ⟨rfl, -⟩ := eligible_eq_some heligible
              refine createOneTimeCredential_bind hV ht new _ _ (fun _ _ => trivial)
                fun w t' hstep ht' => ?_
              rw [finishRecoveryRequestJob, Tx.bind_eq]
              refine ht'.within_bind hV (P := fun _ => True) (fun _ _ => trivial) ?_
                fun _ t'' _ ht'' _ => follows_commit heffect ht'' hstep
              exact Tx.Within.write fun _ _ _ => rfl
  · exact hpure _

/-- **Every call** changes the accounts by steps, and an exchange uses its credential up. -/
theorem prog_accounts (settings : IdentitySettings) (call : Call) (db : Store) :
    Follows settings call (prog settings call) (Point.start db) := by
  cases call with
  | login => exact login_accounts ..
  | exchange => exact exchange_accounts ..
  | provisionAccount => exact provisionAccount_accounts ..
  | requestRecovery => exact requestRecovery_accounts ..
  | recoverStaleRecoveryRequestJobs => exact recoverStale_accounts ..
  | processNextRecoveryRequest => exact processNext_accounts ..

end Authentication

end Rulefolio
