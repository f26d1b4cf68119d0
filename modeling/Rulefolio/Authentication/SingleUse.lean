import Rulefolio.Authentication.Accounts
import Rulefolio.Authentication.Jobs

/-!
# Credentials are used once, and a recovery cuts off the old password

The two arguments about the calls, on the accounts and on the requests, make one about the whole
system. Along a history the steps of an account compose: a credential that is spent stays spent,
so the second of two exchanges of one credential finds it consumed; and a session that is valid
after a recovery was granted on a later password, because a login has the account locked from
before it reads the password until its session is committed.

## Main definitions

* `SingleUse`.

## Main results

* `identity_sound`, `credentials_single_use`.
-/

namespace Rulefolio

namespace Authentication

open ReadCommitted

variable {settings : IdentitySettings} {c : Config Store RowKey IdentityError Unit Call}

/-- Every reachable configuration satisfies the invariant, and every commit is one that the
guarantee of its call allows. -/
theorem identity_sound (hc : (identitySystem settings).Reachable c) :
    SafeConfig (identityEnvironment settings) (guarantee settings) (fun _ _ _ => True)
      (fun _ _ _ => True) c := by
  refine sound (identity_closed settings) (fun _ hs => hs) (fun call db _ => ?_) hc
  exact ((prog_accounts settings call db).and (prog_jobs settings call db)).mono
    (fun _ _ _ => trivial) fun _ _ _ => trivial

/-- The commits of a reachable configuration, as steps of every account. -/
theorem accountSteps (hc : (identitySystem settings).Reachable c) :
    ∀ e ∈ c.history, ∀ a, AccountStep (accountViews.view a e.before)
      (accountViews.view a e.after) := by
  intro e he a
  obtain ⟨-, n, H, hG⟩ := (identity_sound hc).history e he
  exact hG.1.1.step a

/-! ## Using a credential -/

/-- The commit of an exchange that uses this credential of this account. -/
def Uses (settings : IdentitySettings) (a id : Uuid) (e : Commit Store Call) : Prop :=
  ∃ token purpose password salt new failedAt,
    e.op = .exchange token purpose password salt new failedAt ∧
      Exchanged settings token purpose id (accountViews.view a e.before)
        (accountViews.view a e.after)

/-- No credential of the account with this identifier can be used. -/
def IsSpent (a id : Uuid) (db : Store) : Prop :=
  id ∈ (accountViews.view a db).credentials.map (·.id) ∧
    ∀ c ∈ (accountViews.view a db).credentials, c.id = id → c.status ≠ .active

theorem AccountStep.spent {a id : Uuid} {db db' : Store}
    (h : AccountStep (accountViews.view a db) (accountViews.view a db'))
    (hspent : IsSpent a id db) : IsSpent a id db' := by
  refine ⟨h.credentialIds.subset hspent.1, fun c' hc' hid hactive => ?_⟩
  rcases h.credential c' hc' with ⟨c, hc, hsame, -, -, hstatus⟩ | hnew
  · exact hspent.2 c hc (hsame.trans hid) (hstatus hactive)
  · exact hnew (hid ▸ hspent.1)

theorem Uses.spent {a id : Uuid} {e : Commit Store Call}
    (hstep : AccountStep (accountViews.view a e.before) (accountViews.view a e.after))
    (h : Uses settings a id e) : IsSpent a id e.after := by
  obtain ⟨_, _, _, _, _, _, _, hexchanged⟩ := h
  obtain ⟨c, hc, rfl, -⟩ := hexchanged.before
  refine ⟨hstep.credentialIds.subset (List.mem_map_of_mem hc), fun c' hc' hid hactive => ?_⟩
  rw [hexchanged.after c' hc' hid] at hactive
  nomatch hactive

theorem Uses.not_spent {a id : Uuid} {e : Commit Store Call} (h : Uses settings a id e) :
    ¬ IsSpent a id e.before := by
  obtain ⟨_, _, _, _, _, _, _, hexchanged⟩ := h
  obtain ⟨c, hc, hid, -, -, hactive⟩ := hexchanged.before
  exact fun hspent => hspent.2 c hc hid hactive

/-! ## The properties -/

/-- **Credentials are used once, and a recovery cuts off the old password.** -/
structure SingleUse (settings : IdentitySettings)
    (c : Config Store RowKey IdentityError Unit Call) : Prop where
  /-- An exchange that commits more than a counted attempt uses a credential. -/
  uses : ∀ e ∈ c.history, ∀ token purpose password salt new failedAt,
    e.op = .exchange token purpose password salt new failedAt →
      accountViews.Same e.before e.after ∨ ∃ a id, Uses settings a id e
  /-- No two exchanges use the same one. -/
  once : c.history.Pairwise fun e e' => ∀ a id, ¬ (Uses settings a id e ∧ Uses settings a id e')
  /-- An account has at most one activation and one recovery credential that can be used. -/
  unique : ∀ a purpose, isUnique purpose →
    (c.db.credentials.filter (isActiveCredential a purpose)).length ≤ 1
  /-- After a recovery a session is valid only if it was not there before and was granted on a
  later password than the one before. -/
  sessions : ∀ e ∈ c.history, ∀ token password salt new failedAt,
    e.op = .recoverPassword token password salt new failedAt →
      ∀ a id, Uses settings a id e → ∀ s ∈ c.db.sessions, s.accountId = a → s.revokedAt = none →
        s.id ∉ (accountViews.view a e.before).sessions.map (·.id) ∧
          (accountViews.view a e.before).version < s.passwordVersion
  /-- No recovery credential that was there when the recovery was committed can be used after. -/
  credentials : ∀ e ∈ c.history, ∀ token password salt new failedAt,
    e.op = .recoverPassword token password salt new failedAt →
      ∀ a id, Uses settings a id e → ∀ cr ∈ c.db.credentials, cr.accountId = a →
        cr.purpose = .passwordRecovery →
          cr.id ∈ (accountViews.view a e.after).credentials.map (·.id) → cr.status ≠ .active

/-- What a recovery leaves is what any later state has of it. -/
theorem cutOff_later {v w z : AccountRows} {token : String} {id : Uuid} (hv : AccountOk v)
    (hstep : AccountStep v w) (hlater : AccountStep w z)
    (h : Exchanged settings token .passwordRecovery id v w) :
    (∀ s ∈ z.sessions, s.revokedAt = none →
      s.id ∉ v.sessions.map (·.id) ∧ v.version < s.passwordVersion) ∧
    ∀ c ∈ z.credentials, c.purpose = .passwordRecovery →
      c.id ∈ w.credentials.map (·.id) → c.status ≠ .active := by
  refine ⟨fun s'' hs'' hvalid => ?_, fun c'' hc'' hpurpose hold hactive => ?_⟩
  · rcases hlater.session s'' hs'' with ⟨s', hs', hid', hversion', hvalid'⟩ | ⟨hnew, hversion⟩
    · have hafter := h.sessions rfl s' hs' (hvalid' hvalid)
      rw [← hid', ← hversion']
      refine ⟨fun hbefore => ?_, hafter⟩
      rcases hstep.session s' hs' with ⟨s, hs, -, hversion, -⟩ | ⟨hnew, -⟩
      · have hgranted := hv.granted s hs
        omega
      · exact hnew hbefore
    · exact ⟨fun hbefore => hnew (hstep.sessionIds.subset hbefore), h.version.trans_le hversion⟩
  · rcases hlater.credential c'' hc'' with ⟨c', hc', -, hpurpose', -, hactive'⟩ | hnew
    · have hnone := h.credentials rfl
      have hmem : c' ∈ w.active .passwordRecovery :=
        List.mem_filter.2 ⟨hc', by simp [hpurpose'.trans hpurpose, hactive' hactive]⟩
      rw [hnone] at hmem
      cases hmem
    · exact hnew hold

/-- The recovery that is meant when a commit of a recovery uses a credential. -/
theorem Uses.recovery {a id : Uuid} {e : Commit Store Call} {token password : String}
    {salt : Bytes} {new : NewSession} {failedAt : Timestamp} (h : Uses settings a id e)
    (hop : e.op = .recoverPassword token password salt new failedAt) :
    Exchanged settings token .passwordRecovery id (accountViews.view a e.before)
      (accountViews.view a e.after) := by
  obtain ⟨_, _, _, _, _, _, hop', hexchanged⟩ := h
  obtain ⟨rfl, rfl, -⟩ := Call.exchange.inj (hop'.symm.trans hop)
  exact hexchanged

/-- **Credentials are single-use and a recovery cuts off the old password**, in whatever order any
number of logins, exchanges, provisionings and workers take their steps. -/
theorem credentials_single_use (settings : IdentitySettings)
    {c : Config Store RowKey IdentityError Unit Call}
    (hc : (identitySystem settings).Reachable c) : SingleUse settings c := by
  have hsound := identity_sound hc
  have hsteps := accountSteps hc
  obtain ⟨s₀, -, hlinked⟩ := (wellFormed_of_reachable hc).linked
  have hlater : ∀ e ∈ c.history, ∀ a, AccountStep (accountViews.view a e.after)
      (accountViews.view a c.db) := fun e he a =>
    hlinked.later
      (R := fun db db' => AccountStep (accountViews.view a db) (accountViews.view a db'))
      (fun _ => .refl _) (fun _ _ _ => AccountStep.trans) (fun e he => hsteps e he a) he
  refine ⟨?_, ?_, ?_, ?_, ?_⟩
  · intro e he token purpose password salt new failedAt hop
    obtain ⟨-, n, H, hG⟩ := hsound.history e he
    have heffect := hG.1.2
    rw [hop] at heffect
    rcases heffect with hsame | ⟨a, id, hexchanged⟩
    · exact .inl hsame
    · exact .inr ⟨a, id, token, purpose, password, salt, new, failedAt, hop, hexchanged⟩
  · have hpairs := hlinked.pairwise
      (R := fun db db' => ∀ a id, IsSpent a id db → IsSpent a id db')
      (fun _ _ _ h => h) (fun _ _ _ h h' a id hs => h' a id (h a id hs))
      fun e he a id hs => (hsteps e he a).spent hs
    refine hpairs.imp_of_mem ?_
    intro e e' _ he' hkept a id hboth
    exact hboth.1.not_spent (hkept a id (hboth.2.spent (hsteps e' he' a)))
  · intro a purpose hpurpose
    have hunique := (hsound.inv.1 a).unique purpose hpurpose
    refine le_trans (le_of_eq ?_) hunique
    show _ = ((Table.rowsWith _ a c.db.credentials).filter _).length
    rw [Table.rowsWith, List.filter_filter]
    refine congrArg List.length (List.filter_congr fun cr _ => ?_)
    rw [isActiveCredential]
    ac_rfl
  · intro e he token password salt new failedAt hop a id huses s hs ha hvalid
    have hok := ((hsound.history e he).1).1 a
    exact (cutOff_later hok (hsteps e he a) (hlater e he a) (huses.recovery hop)).1 s
      (Table.mem_rowsWith.2 ⟨hs, ha⟩) hvalid
  · intro e he token password salt new failedAt hop a id huses cr hcr ha hpurpose hold
    have hok := ((hsound.history e he).1).1 a
    exact (cutOff_later hok (hsteps e he a) (hlater e he a) (huses.recovery hop)).2 cr
      (Table.mem_rowsWith.2 ⟨hcr, ha⟩) hpurpose hold

/-! ## A run -/

theorem one_le_five : 1 ≤ 5 := by decide

/-- Settings under which a run can be followed by eye: a hash is the password itself, the digest of
a token its characters, and no mail is sealed. -/
def plainSettings : IdentitySettings where
  mail := .withoutCipher
  normalizeEmail := some
  attemptSubject _ := []
  tokenHash token := token.toList.map fun ch => UInt8.ofNat ch.toNat
  hasher := ⟨fun _ password => password, fun hash password => hash == password, fun _ => false⟩
  decryptEmail _ _ _ := some "maker@example.org"
  passwordMinLength := 1
  passwordMaxLength := 64
  sessionTtlHours := 8
  oneTimeTokenTtlMinutes := 30
  authAttemptWindowMinutes := 15
  loginMaxAttempts := 5
  recoveryRequestMaxAttempts := 3
  recoveryExchangeMaxAttempts := 5
  recoveryJobStaleMinutes := 5
  one_le_loginMaxAttempts := one_le_five
  one_le_authAttemptWindowMinutes := by decide

/-- Calls made one after the other on one connection, each with the number of steps it takes. -/
def inTurn (calls : List (Call × ℕ)) : List (Event Call) :=
  calls.flatMap fun (call, n) => .call 0 call :: advances 0 n ++ [.close 0]

/-- An account is provisioned and activated, its owner asks for a recovery, the worker writes the
mail, the owner logs in once more with the old password and then recovers. -/
def recoveredAccount : List (Event Call) :=
  inTurn [(.provisionAccount "maker@example.org" 1 ⟨10, "a", 20, [], [], 100⟩, 14),
    (.activate "a" "one" [] ⟨30, "s", 101⟩ 102, 18),
    (.requestRecovery "maker@example.org" ⟨40, [], [], 103⟩, 7),
    (.processNextRecoveryRequest .opened 104 [] 50 ⟨11, "r", 21, [], [], 105⟩, 23),
    (.login "maker@example.org" "one" [] ⟨31, "t", 106⟩ 107, 10),
    (.recoverPassword "r" "two" [] ⟨32, "u", 108⟩ 109, 21)]

theorem storeOk_empty : StoreOk .empty := by
  refine ⟨fun a => ⟨.nil, .nil, fun _ _ => Nat.zero_le _, ?_⟩, fun j => ⟨Nat.zero_le _, ?_,
    Nat.zero_le _, Nat.zero_le _, ?_⟩⟩
  · intro s hs
    cases hs
  · intro job hjob
    cases hjob
  · rintro (h | h)
    · exact absurd rfl h
    · exact absurd rfl h

theorem credentials_single_use_recoveredAccount :
    ∃ c, (identitySystem plainSettings).run (.start .empty) recoveredAccount = some c ∧
      (c.db.sessions.map fun s => (s.id, s.revokedAt.isSome)) =
          [(32, false), (31, true), (30, true)] ∧
        (c.db.credentials.map fun cr => (cr.id, cr.status)) = [(11, .consumed), (10, .consumed)] ∧
          SingleUse plainSettings c := by
  obtain ⟨c, hc, hfacts⟩ := (Option.any_eq_true _ _).1
    (show ((identitySystem plainSettings).run (.start .empty) recoveredAccount).any (fun c =>
      decide ((c.db.sessions.map fun s => (s.id, s.revokedAt.isSome)) =
          [(32, false), (31, true), (30, true)] ∧
        (c.db.credentials.map fun cr => (cr.id, cr.status)) =
          [(11, .consumed), (10, .consumed)])) = true by decide +kernel)
  obtain ⟨hsessions, hcredentials⟩ := of_decide_eq_true hfacts
  have hinit : (identitySystem plainSettings).init (.start .empty) := init_start _ storeOk_empty
  exact ⟨c, hc, hsessions, hcredentials,
    credentials_single_use plainSettings (TransitionSystem.Reachable.run (.initial hinit) hc)⟩

end Authentication

end Rulefolio
