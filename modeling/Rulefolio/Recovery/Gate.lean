import Rulefolio.Notifications.Steps
import Rulefolio.Recovery.Service

/-!
# The recovery gate

The commands of the operators and the mail system in one transition system. A session-level
advisory lock admits one command at a time (`locked_recovery_session`). A command is one
transaction, except `confirm_restricted_access`: it commits the confirmation, verifies in a second
transaction, and records a failure in a third. The mail system, and everything else, goes on
between them; an operator's process may die between them too, which releases the lock.

A commit that fails leaves everything as it was. Whatever else may go wrong in a verification (a
query, the storage, the commit) is part of the label.

No session without the maintenance scope may write `recovery_state`, so the steps of the mail
system leave the stage alone.

## Main definitions

* `OperatorPhase`, `GateSystem`, `GateEvent`, `gateSystem`.
* `Began`, `ConfirmedAccess`, `Verified`, `Opened`, `StartsSmtp` — what a step may be.

## Main results

* `gate_never_opens_early`.
-/

namespace Rulefolio

namespace Recovery

/-! ## The system -/

/-- Where the command that holds the lock is. -/
inductive OperatorPhase
  /-- Nobody holds the lock. -/
  | idle
  /-- `confirm_restricted_access` is about to verify. -/
  | verifying (manifest : RecoveryManifest)
  /-- The verification has failed and has been rolled back. -/
  | failing (manifest : RecoveryManifest)
  deriving DecidableEq, Repr

/-- The whole state. The stage is also a column of `Database`, where the mail system reads it. -/
structure GateSystem where
  mail : Notifications.MailSystem
  row : RecoveryState
  phase : OperatorPhase

/-- Write the row. -/
def GateSystem.put (s : GateSystem) (row : RecoveryState) : GateSystem :=
  { s with
    mail.db.recoveryStage := row.stage
    row := row }

/-- What can happen, with every choice it involves. `commits` says whether the commit works. -/
inductive GateEvent
  | recover (frozen : Bool) (manifest : RecoveryManifest) (request : Request) (commits : Bool)
  | confirmRestrictedAccess (frozen : Bool) (now : Timestamp) (manifest : RecoveryManifest)
      (request : Request) (commits : Bool)
  /-- `_verify_and_open`; `raises` is an exception anywhere in it. -/
  | verifyAndOpen (surroundings : Surroundings) (now : Timestamp) (raises commits : Bool)
  | recordFailure (commits : Bool)
  | openDispatcher (frozen : Bool) (recoveryId : String) (request : Request) (commits : Bool)
  | operatorDies
  | mail (e : Notifications.Event)

/-- What `recover` commits besides the row. It waits for the mails it suppresses. -/
def GateSystem.cutOff (s : GateSystem) : Option GateSystem :=
  (s.mail.statement Notifications.suppressesInRecovery
    Notifications.suppressForRestrictedRecovery).map fun mail =>
      { s with mail := { mail with db := restrict mail.db } }

/-- The effect of an event. -/
def gateStep (sha256 : Bytes → Bytes) (settings : Settings) (s : GateSystem) :
    GateEvent → Option GateSystem
  | .recover frozen manifest request commits =>
    if s.phase ≠ .idle then none
    else
      match recover frozen manifest request s.row with
      | .error _ => some s
      | .ok row => if commits then s.cutOff.map (·.put row) else some s
  | .confirmRestrictedAccess frozen now manifest request commits =>
    if s.phase ≠ .idle then none
    else
      match confirmAccess frozen now manifest request s.row with
      | .error _ => some s
      | .ok row =>
        if commits || s.row.restrictedAccessConfirmedAt.isSome then
          some { s.put row with phase := .verifying manifest }
        else some s
  | .verifyAndOpen surroundings now raises commits =>
    match s.phase with
    | .verifying manifest =>
      match verifyAndOpen sha256 surroundings now manifest s.mail.db s.row with
      | .ok row =>
        if commits && !raises then some { s.put row with phase := .idle }
        else some { s with phase := .failing manifest }
      | .error _ => some { s with phase := .failing manifest }
    | _ => none
  | .recordFailure commits =>
    match s.phase with
    | .failing manifest =>
      if commits then
        some { s.put (recordFailure manifest.recoveryId s.row) with phase := .idle }
      else some { s with phase := .idle }
    | _ => none
  | .openDispatcher frozen recoveryId request commits =>
    if s.phase ≠ .idle then none
    else
      match openGate frozen recoveryId request s.row with
      | .error _ => some s
      | .ok row => if commits then some (s.put row) else some s
  | .operatorDies => some { s with phase := .idle }
  | .mail e =>
    (Notifications.step settings s.mail e).map fun mail =>
      { s with mail := { mail with db := { mail.db with recoveryStage := s.row.stage } } }

/-- **The gate and what it holds back**, from the state the migration leaves. -/
def gateSystem (sha256 : Bytes → Bytes) (settings : Settings) :
    TransitionSystem GateSystem GateEvent where
  init s := s.row = .initial ∧ s.phase = .idle ∧ s.mail.db.recoveryStage = .opened ∧
    (Notifications.mailSystem settings).init s.mail
  step := gateStep sha256 settings

/-! ## What the transactions do to the row -/

/-- The manifests are of one recovery: the same identifier and the same digest. -/
def RecoveryManifest.Same (manifest manifest' : RecoveryManifest) : Prop :=
  manifest'.recoveryId = manifest.recoveryId ∧ manifest'.rawSha256 = manifest.rawSha256

theorem isOf_iff {state : RecoveryState} {manifest : RecoveryManifest} :
    state.isOf manifest = true ↔ state.recoveryId = some manifest.recoveryId ∧
      state.manifestSha256 = some manifest.rawSha256 := by
  simp [RecoveryState.isOf]

/-- One row is of one recovery. -/
theorem same_of_isOf {state : RecoveryState} {manifest manifest' : RecoveryManifest}
    (h : state.isOf manifest = true) (h' : state.isOf manifest' = true) :
    manifest.Same manifest' := by
  rw [isOf_iff] at h h'
  exact ⟨Option.some.inj (h'.1.symm.trans h.1), Option.some.inj (h'.2.symm.trans h.2)⟩

variable {frozen : Bool} {now : Timestamp} {manifest : RecoveryManifest} {request : Request}
  {recoveryId : String} {state row : RecoveryState}

theorem recover_eq_ok (h : recover frozen manifest request state = .ok row) :
    (state.stage = .recovering ∧ row = state) ∨ (state.stage = .opened ∧
      row.stage = .recovering ∧ row.isOf manifest = true ∧
        row.restrictedAccessConfirmedAt = none) := by
  obtain ⟨-, -, h⟩ := of_bind_eq_ok h
  obtain ⟨-, -, h⟩ := of_bind_eq_ok h
  obtain ⟨request', -, h⟩ := of_bind_eq_ok h
  unfold beginRecovery at h
  split at h
  · nomatch h
  · rename_i hstage
    split at h
    · exact .inl ⟨hstage, (Except.ok.inj h).symm⟩
    · nomatch h
  · rename_i hstage
    split at h
    · nomatch h
    · obtain rfl := Except.ok.inj h
      exact .inr ⟨hstage, rfl, isOf_iff.2 ⟨rfl, rfl⟩, rfl⟩

theorem confirmAccess_eq_ok (h : confirmAccess frozen now manifest request state = .ok row) :
    state.stage = .recovering ∧ state.isOf manifest = true ∧ row = { state with
      restrictedAccessConfirmedAt := some (state.restrictedAccessConfirmedAt.getD now) } := by
  obtain ⟨-, -, h⟩ := of_bind_eq_ok h
  obtain ⟨-, -, h⟩ := of_bind_eq_ok h
  obtain ⟨-, -, h⟩ := of_bind_eq_ok h
  obtain ⟨_, hstate, h⟩ := of_bind_eq_ok h
  have hchecked := demand_eq_ok hstate
  simp only [Bool.and_eq_true, beq_iff_eq] at hchecked
  exact ⟨hchecked.1.1, hchecked.1.2, (Except.ok.inj h).symm⟩

/-- There is one mode of authorisation, so a verification has a confirmation before it. -/
theorem verifyAndOpen_eq_ok {sha256 : Bytes → Bytes} {surroundings : Surroundings} {db : Database}
    (h : verifyAndOpen sha256 surroundings now manifest db state = .ok row) :
    state.stage = .recovering ∧ state.isOf manifest = true ∧
      state.restrictedAccessConfirmedAt ≠ none ∧ row = { state with
        stage := .apiOpen
        verifiedAt := some now } := by
  obtain ⟨_, hstate, h⟩ := of_bind_eq_ok h
  obtain ⟨-, -, h⟩ := of_bind_eq_ok h
  obtain ⟨-, -, h⟩ := of_bind_eq_ok h
  have hchecked := demand_eq_ok hstate
  simp only [Bool.and_eq_true, beq_iff_eq] at hchecked
  obtain ⟨⟨⟨hstage, hof⟩, hmode⟩, hconfirmed⟩ := hchecked
  refine ⟨hstage, hof, fun hnone => ?_, (Except.ok.inj h).symm⟩
  obtain ⟨mode, hmode⟩ := Option.isSome_iff_exists.1 hmode
  cases mode
  rw [hmode, hnone] at hconfirmed
  nomatch hconfirmed

theorem openGate_eq_ok (h : openGate frozen recoveryId request state = .ok row) :
    state.stage = .apiOpen ∧ state.recoveryId = some recoveryId ∧
      row = { state with stage := .opened } := by
  obtain ⟨-, -, h⟩ := of_bind_eq_ok h
  obtain ⟨-, -, h⟩ := of_bind_eq_ok h
  obtain ⟨-, -, h⟩ := of_bind_eq_ok h
  obtain ⟨_, hstate, h⟩ := of_bind_eq_ok h
  have hchecked := demand_eq_ok hstate
  simp only [Bool.and_eq_true, beq_iff_eq] at hchecked
  exact ⟨hchecked.1, hchecked.2, (Except.ok.inj h).symm⟩

theorem recordFailure_eq (h : state.stage = .recovering) :
    recordFailure recoveryId state = state := by
  rw [recordFailure]
  split
  · rw [← h]
  · rfl

/-! ## What a step may be -/

/-- `recover` has begun for a manifest: it has closed an open gate. -/
def Began (manifest : RecoveryManifest) (s : GateSystem) (e : GateEvent) (s' : GateSystem) :
    Prop :=
  (∃ frozen request commits, e = .recover frozen manifest request commits) ∧
    s.row.stage = .opened ∧ s'.row.stage = .recovering

/-- Restricted access was confirmed for this recovery, where it was not before. -/
def ConfirmedAccess (manifest : RecoveryManifest) (s : GateSystem) (e : GateEvent)
    (s' : GateSystem) : Prop :=
  (∃ frozen now manifest' request commits, manifest.Same manifest' ∧
    e = .confirmRestrictedAccess frozen now manifest' request commits) ∧
    s.row.restrictedAccessConfirmedAt = none ∧ s'.row.restrictedAccessConfirmedAt ≠ none

/-- A verification of this recovery succeeded. -/
def Verified (sha256 : Bytes → Bytes) (manifest : RecoveryManifest) (s : GateSystem)
    (e : GateEvent) (s' : GateSystem) : Prop :=
  ∃ surroundings now manifest', manifest.Same manifest' ∧ s.phase = .verifying manifest' ∧
    e = .verifyAndOpen surroundings now false true ∧
    verifyAndOpen sha256 surroundings now manifest' s.mail.db s.row = .ok s'.row

/-- `open_dispatcher` was called with the identifier of this recovery, and opened the gate. -/
def Opened (manifest : RecoveryManifest) (s : GateSystem) (e : GateEvent) (s' : GateSystem) :
    Prop :=
  (∃ frozen request commits, e = .openDispatcher frozen manifest.recoveryId request commits) ∧
    s.row.stage = .apiOpen ∧ s'.row.stage = .opened

/-- A `_start_smtp` succeeds. -/
def StartsSmtp (s s' : GateSystem) : Prop :=
  ∃ i claim message, s.mail.dispatchers i = .ready claim message ∧
    s'.mail.dispatchers i = .sending claim message

/-- A verification fails, for whatever reason. -/
def FailsToVerify (s : GateSystem) (e : GateEvent) (s' : GateSystem) : Prop :=
  ∃ surroundings now raises commits manifest, s.phase = .verifying manifest ∧
    e = .verifyAndOpen surroundings now raises commits ∧ s'.phase = .failing manifest

/-! ## What a step does -/

/-- The possible effects of an event on the row and on the command in progress. -/
inductive GateStep (sha256 : Bytes → Bytes) (s : GateSystem) (e : GateEvent) (s' : GateSystem) :
    Prop
  /-- The row stays, and so does the command, or it ends. -/
  | keeps (row : s'.row = s.row) (phase : s'.phase = s.phase ∨ s'.phase = .idle)
  | began (manifest : RecoveryManifest) (began : Began manifest s e s')
      (row : s'.row.isOf manifest = true ∧ s'.row.restrictedAccessConfirmedAt = none)
      (phase : s'.phase = .idle)
  | confirmed (frozen : Bool) (now : Timestamp) (manifest : RecoveryManifest) (request : Request)
      (commits : Bool) (he : e = .confirmRestrictedAccess frozen now manifest request commits)
      (stage : s.row.stage = .recovering) (isOf : s.row.isOf manifest = true)
      (row : s'.row = { s.row with
        restrictedAccessConfirmedAt := some (s.row.restrictedAccessConfirmedAt.getD now) })
      (phase : s'.phase = .verifying manifest)
  | verified (surroundings : Surroundings) (now : Timestamp) (manifest : RecoveryManifest)
      (he : e = .verifyAndOpen surroundings now false true)
      (verifying : s.phase = .verifying manifest)
      (row : verifyAndOpen sha256 surroundings now manifest s.mail.db s.row = .ok s'.row)
      (phase : s'.phase = .idle)
  | failed (manifest : RecoveryManifest) (verifying : s.phase = .verifying manifest)
      (row : s'.row = s.row) (phase : s'.phase = .failing manifest)
  | recorded (manifest : RecoveryManifest) (failing : s.phase = .failing manifest)
      (row : s'.row = recordFailure manifest.recoveryId s.row) (phase : s'.phase = .idle)
  | opened (frozen : Bool) (recoveryId : String) (request : Request) (commits : Bool)
      (he : e = .openDispatcher frozen recoveryId request commits)
      (row : openGate frozen recoveryId request s.row = .ok s'.row) (phase : s'.phase = .idle)

theorem gateStep_spec {sha256 : Bytes → Bytes} {settings : Settings} {s s' : GateSystem}
    {e : GateEvent} (h : gateStep sha256 settings s e = some s') : GateStep sha256 s e s' := by
  cases e with
  | recover frozen manifest request commits =>
    rw [gateStep] at h
    split at h
    · nomatch h
    · rename_i hidle
      have hphase : s.phase = .idle := by simpa using hidle
      split at h
      · obtain rfl := Option.some.inj h
        exact .keeps rfl (.inl rfl)
      · rename_i row hrow
        split at h
        · obtain ⟨t, ht, rfl⟩ := Option.map_eq_some_iff.1 h
          obtain ⟨mail, -, rfl⟩ := Option.map_eq_some_iff.1 ht
          rcases recover_eq_ok hrow with ⟨-, rfl⟩ | ⟨hopen, hstage, hof, hconfirmed⟩
          · exact .keeps rfl (.inl rfl)
          · exact .began manifest ⟨⟨frozen, request, commits, rfl⟩, hopen, hstage⟩
              ⟨hof, hconfirmed⟩ hphase
        · obtain rfl := Option.some.inj h
          exact .keeps rfl (.inl rfl)
  | confirmRestrictedAccess frozen now manifest request commits =>
    rw [gateStep] at h
    split at h
    · nomatch h
    · split at h
      · obtain rfl := Option.some.inj h
        exact .keeps rfl (.inl rfl)
      · rename_i row hrow
        obtain ⟨hstage, hof, rfl⟩ := confirmAccess_eq_ok hrow
        split at h
        · obtain rfl := Option.some.inj h
          exact .confirmed frozen now manifest request commits rfl hstage hof rfl rfl
        · obtain rfl := Option.some.inj h
          exact .keeps rfl (.inl rfl)
  | verifyAndOpen surroundings now raises commits =>
    rw [gateStep] at h
    split at h
    · rename_i manifest hphase
      split at h
      · rename_i row hrow
        split at h
        · rename_i hcommits
          simp only [Bool.and_eq_true, Bool.not_eq_true'] at hcommits
          obtain ⟨rfl, rfl⟩ := hcommits
          obtain rfl := Option.some.inj h
          exact .verified surroundings now manifest rfl hphase hrow rfl
        · obtain rfl := Option.some.inj h
          exact .failed manifest hphase rfl rfl
      · obtain rfl := Option.some.inj h
        exact .failed manifest hphase rfl rfl
    · nomatch h
  | recordFailure commits =>
    rw [gateStep] at h
    split at h
    · rename_i manifest hphase
      split at h
      · obtain rfl := Option.some.inj h
        exact .recorded manifest hphase rfl rfl
      · obtain rfl := Option.some.inj h
        exact .keeps rfl (.inr rfl)
    · nomatch h
  | openDispatcher frozen recoveryId request commits =>
    rw [gateStep] at h
    split at h
    · nomatch h
    · rename_i hidle
      have hphase : s.phase = .idle := by simpa using hidle
      split at h
      · obtain rfl := Option.some.inj h
        exact .keeps rfl (.inl rfl)
      · rename_i row hrow
        split at h
        · obtain rfl := Option.some.inj h
          exact .opened frozen recoveryId request commits rfl hrow hphase
        · obtain rfl := Option.some.inj h
          exact .keeps rfl (.inl rfl)
  | operatorDies =>
    obtain rfl := Option.some.inj h
    exact .keeps rfl (.inr rfl)
  | mail e =>
    obtain ⟨mail, -, rfl⟩ := Option.map_eq_some_iff.1 h
    exact .keeps rfl (.inl rfl)

/-! ## The invariant -/

/-- The mail system reads the stage of the row, and a command between two transactions is about a
recovery that is under way and confirmed. -/
structure GateInv (s : GateSystem) : Prop where
  stage : s.mail.db.recoveryStage = s.row.stage
  command : ∀ manifest, s.phase = .verifying manifest ∨ s.phase = .failing manifest →
    s.row.stage = .recovering

/-- A command rewrites the stage where the mail system reads it, and leaves the dispatchers
alone. -/
theorem mail_of_gateStep {sha256 : Bytes → Bytes} {settings : Settings}
    {s s' : GateSystem} {e : GateEvent} (hstage : s.mail.db.recoveryStage = s.row.stage)
    (h : gateStep sha256 settings s e = some s') :
    s'.mail.db.recoveryStage = s'.row.stage ∧ (s'.mail.dispatchers = s.mail.dispatchers ∨
      ∃ e' mail, Notifications.step settings s.mail e' = some mail ∧
        mail.dispatchers = s'.mail.dispatchers) := by
  cases e with
  | mail e =>
    obtain ⟨mail, hmail, rfl⟩ := Option.map_eq_some_iff.1 h
    exact ⟨rfl, .inr ⟨e, mail, hmail, rfl⟩⟩
  | recover frozen manifest request commits =>
    rw [gateStep] at h
    split at h
    · nomatch h
    · split at h
      · obtain rfl := Option.some.inj h
        exact ⟨hstage, .inl rfl⟩
      · split at h
        · obtain ⟨t, ht, rfl⟩ := Option.map_eq_some_iff.1 h
          obtain ⟨mail, hmail, rfl⟩ := Option.map_eq_some_iff.1 ht
          rw [Notifications.statement_eq_some hmail]
          exact ⟨rfl, .inl rfl⟩
        · obtain rfl := Option.some.inj h
          exact ⟨hstage, .inl rfl⟩
  | confirmRestrictedAccess frozen now manifest request commits =>
    rw [gateStep] at h
    split at h
    · nomatch h
    · split at h
      · obtain rfl := Option.some.inj h
        exact ⟨hstage, .inl rfl⟩
      · split at h
        · obtain rfl := Option.some.inj h
          exact ⟨rfl, .inl rfl⟩
        · obtain rfl := Option.some.inj h
          exact ⟨hstage, .inl rfl⟩
  | verifyAndOpen surroundings now raises commits =>
    rw [gateStep] at h
    split at h
    · split at h
      · split at h
        · obtain rfl := Option.some.inj h
          exact ⟨rfl, .inl rfl⟩
        · obtain rfl := Option.some.inj h
          exact ⟨hstage, .inl rfl⟩
      · obtain rfl := Option.some.inj h
        exact ⟨hstage, .inl rfl⟩
    · nomatch h
  | recordFailure commits =>
    rw [gateStep] at h
    split at h
    · split at h
      · obtain rfl := Option.some.inj h
        exact ⟨rfl, .inl rfl⟩
      · obtain rfl := Option.some.inj h
        exact ⟨hstage, .inl rfl⟩
    · nomatch h
  | openDispatcher frozen recoveryId request commits =>
    rw [gateStep] at h
    split at h
    · nomatch h
    · split at h
      · obtain rfl := Option.some.inj h
        exact ⟨hstage, .inl rfl⟩
      · split at h
        · obtain rfl := Option.some.inj h
          exact ⟨rfl, .inl rfl⟩
        · obtain rfl := Option.some.inj h
          exact ⟨hstage, .inl rfl⟩
  | operatorDies =>
    obtain rfl := Option.some.inj h
    exact ⟨hstage, .inl rfl⟩

theorem gateInv_inductive (sha256 : Bytes → Bytes) (settings : Settings) :
    (gateSystem sha256 settings).Inductive GateInv where
  init s hs := by
    obtain ⟨hrow, hphase, hstage, -⟩ := hs
    refine ⟨by rw [hstage, hrow]; rfl, fun manifest hmanifest => ?_⟩
    rw [hphase] at hmanifest
    rcases hmanifest with h | h <;> nomatch h
  step s e s' hs h := by
    refine ⟨(mail_of_gateStep hs.stage h).1, fun manifest hmanifest => ?_⟩
    cases gateStep_spec h with
    | keeps row phase =>
      rw [row]
      rcases phase with hsame | hidle
      · exact hs.command manifest (hsame ▸ hmanifest)
      · rw [hidle] at hmanifest
        rcases hmanifest with h | h <;> nomatch h
    | began _ _ _ phase =>
      rw [phase] at hmanifest
      rcases hmanifest with h | h <;> nomatch h
    | confirmed _ _ _ _ _ _ stage _ row _ =>
      rw [row]
      exact stage
    | verified _ _ _ _ _ _ phase =>
      rw [phase] at hmanifest
      rcases hmanifest with h | h <;> nomatch h
    | failed manifest' verifying row _ =>
      rw [row]
      exact hs.command manifest' (.inl verifying)
    | recorded _ _ _ phase =>
      rw [phase] at hmanifest
      rcases hmanifest with h | h <;> nomatch h
    | opened _ _ _ _ _ _ phase =>
      rw [phase] at hmanifest
      rcases hmanifest with h | h <;> nomatch h

/-! ## The order of the stages -/

/-- How far the recovery of a manifest is, given the steps that are still ahead of it. -/
inductive Ahead (sha256 : Bytes → Bytes) (manifest : RecoveryManifest) :
    List (GateSystem → GateEvent → GateSystem → Prop) → GateSystem → Prop
  | confirm {s : GateSystem} (stage : s.row.stage = .recovering)
      (isOf : s.row.isOf manifest = true) (confirmed : s.row.restrictedAccessConfirmedAt = none) :
      Ahead sha256 manifest [ConfirmedAccess manifest, Verified sha256 manifest, Opened manifest] s
  | verify {s : GateSystem} (stage : s.row.stage = .recovering)
      (isOf : s.row.isOf manifest = true) :
      Ahead sha256 manifest [Verified sha256 manifest, Opened manifest] s
  | openGate {s : GateSystem} (stage : s.row.stage = .apiOpen)
      (isOf : s.row.isOf manifest = true) : Ahead sha256 manifest [Opened manifest] s
  | done {s : GateSystem} : Ahead sha256 manifest [] s

variable {sha256 : Bytes → Bytes} {settings : Settings} {s s' : GateSystem} {e : GateEvent}
  {es : List GateEvent}

/-- While the gate is closing the row changes by a confirmation or by a verification only. -/
theorem recovering_step (h : GateStep sha256 s e s')
    (hstage : s.row.stage = .recovering) (hof : s.row.isOf manifest = true) :
    s'.row = s.row ∨ ConfirmedAccess manifest s e s' ∧ s'.row.stage = .recovering ∧
        s'.row.isOf manifest = true ∨
      (∃ now, s'.row = { s.row with
        restrictedAccessConfirmedAt := some (s.row.restrictedAccessConfirmedAt.getD now) }) ∧
        s.row.restrictedAccessConfirmedAt ≠ none ∨
      Verified sha256 manifest s e s' ∧ s.row.restrictedAccessConfirmedAt ≠ none ∧
        s'.row.stage = .apiOpen ∧ s'.row.isOf manifest = true := by
  cases h with
  | keeps row _ => exact .inl row
  | began manifest' began _ _ =>
    have hopen := began.2.1
    rw [hstage] at hopen
    nomatch hopen
  | confirmed frozen now manifest' request commits he _ isOf row _ =>
    by_cases hconfirmed : s.row.restrictedAccessConfirmedAt = none
    · refine .inr (.inl ⟨⟨⟨frozen, now, manifest', request, commits, same_of_isOf hof isOf, he⟩,
        hconfirmed, ?_⟩, ?_, ?_⟩)
      · rw [row]
        exact Option.some_ne_none _
      · rw [row]
        exact hstage
      · rw [row]
        exact hof
    · exact .inr (.inr (.inl ⟨⟨now, row⟩, hconfirmed⟩))
  | verified surroundings now manifest' he verifying row _ =>
    obtain ⟨-, hof', hconfirmed, hrow⟩ := verifyAndOpen_eq_ok row
    refine .inr (.inr (.inr ⟨⟨surroundings, now, manifest', same_of_isOf hof hof', verifying, he,
      row⟩, hconfirmed, ?_, ?_⟩))
    · rw [hrow]
    · rw [hrow]
      exact hof
  | failed _ _ row _ => exact .inl row
  | recorded manifest' failing row _ =>
    rw [recordFailure_eq hstage] at row
    exact .inl row
  | opened _ _ _ _ _ row _ =>
    obtain ⟨hopen, -, -⟩ := openGate_eq_ok row
    rw [hstage] at hopen
    nomatch hopen

/-- While the API is open and the gate is closed the row changes by `open_dispatcher` only. -/
theorem apiOpen_step (hs : GateInv s) (h : GateStep sha256 s e s')
    (hstage : s.row.stage = .apiOpen) (hof : s.row.isOf manifest = true) :
    s'.row = s.row ∨ Opened manifest s e s' := by
  cases h with
  | keeps row _ => exact .inl row
  | began manifest' began _ _ =>
    have hopen := began.2.1
    rw [hstage] at hopen
    nomatch hopen
  | confirmed _ _ _ _ _ _ stage _ _ _ =>
    rw [hstage] at stage
    nomatch stage
  | verified _ _ _ _ _ row _ =>
    obtain ⟨stage, -, -⟩ := verifyAndOpen_eq_ok row
    rw [hstage] at stage
    nomatch stage
  | failed _ _ row _ => exact .inl row
  | recorded manifest' failing _ _ =>
    have stage := hs.command manifest' (.inr failing)
    rw [hstage] at stage
    nomatch stage
  | opened frozen recoveryId request commits he row _ =>
    obtain ⟨-, hid, hrow⟩ := openGate_eq_ok row
    have hsame : recoveryId = manifest.recoveryId :=
      Option.some.inj (hid.symm.trans (isOf_iff.1 hof).1)
    exact .inr ⟨⟨frozen, request, commits, hsame ▸ he⟩, hstage, by rw [hrow]⟩

/-- A step leaves what is ahead of a recovery ahead of it, or is the first of it. -/
theorem ahead_step {P : GateSystem → GateEvent → GateSystem → Prop}
    {Ps : List (GateSystem → GateEvent → GateSystem → Prop)} (hs : GateInv s)
    (hat : Ahead sha256 manifest (P :: Ps) s) (h : gateStep sha256 settings s e = some s') :
    Ahead sha256 manifest (P :: Ps) s' ∨ (P s e s' ∧ Ahead sha256 manifest Ps s') := by
  have hspec := gateStep_spec h
  cases hat with
  | confirm stage isOf confirmed =>
    rcases recovering_step hspec stage isOf with hrow | ⟨hstep, hstage, hof⟩ | ⟨-, hne⟩ |
        ⟨-, hne, -⟩
    · exact .inl (.confirm (hrow ▸ stage) (hrow ▸ isOf) (hrow ▸ confirmed))
    · exact .inr ⟨hstep, .verify hstage hof⟩
    · exact absurd confirmed hne
    · exact absurd confirmed hne
  | verify stage isOf =>
    rcases recovering_step hspec stage isOf with hrow | ⟨-, hstage, hof⟩ | ⟨⟨now, hrow⟩, -⟩ |
        ⟨hstep, -, hstage, hof⟩
    · exact .inl (.verify (hrow ▸ stage) (hrow ▸ isOf))
    · exact .inl (.verify hstage hof)
    · refine .inl (.verify ?_ ?_)
      · rw [hrow]
        exact stage
      · rw [hrow]
        exact isOf
    · exact .inr ⟨hstep, .openGate hstage hof⟩
  | openGate stage isOf =>
    rcases apiOpen_step hs hspec stage isOf with hrow | hstep
    · exact .inl (.openGate (hrow ▸ stage) (hrow ▸ isOf))
    · exact .inr ⟨hstep, .done⟩

theorem not_opened_of_ahead {P : GateSystem → GateEvent → GateSystem → Prop}
    {Ps : List (GateSystem → GateEvent → GateSystem → Prop)}
    (hat : Ahead sha256 manifest (P :: Ps) s) : s.row.stage ≠ .opened := by
  cases hat with
  | confirm stage | verify stage | openGate stage =>
    rw [stage]
    decide

/-- A recovery that has begun has everything ahead of it. -/
theorem ahead_of_began (hs : GateInv s) (h : gateStep sha256 settings s e = some s')
    (hbegan : Began manifest s e s') : Ahead sha256 manifest
      [ConfirmedAccess manifest, Verified sha256 manifest, Opened manifest] s' := by
  obtain ⟨⟨frozen, request, commits, rfl⟩, hopen, hstage⟩ := hbegan
  cases gateStep_spec h with
  | keeps row _ =>
    rw [row, hopen] at hstage
    nomatch hstage
  | began manifest' began row _ =>
    obtain ⟨_, _, _, he⟩ := began.1
    obtain ⟨-, rfl, -⟩ := GateEvent.recover.inj he
    exact .confirm hstage row.1 row.2
  | confirmed _ _ _ _ _ he => nomatch he
  | verified _ _ _ he => nomatch he
  | failed _ verifying _ _ =>
    have hrecovering := hs.command _ (.inl verifying)
    rw [hopen] at hrecovering
    nomatch hrecovering
  | recorded _ failing _ _ =>
    have hrecovering := hs.command _ (.inr failing)
    rw [hopen] at hrecovering
    nomatch hrecovering
  | opened _ _ _ _ he => nomatch he

/-! ## The mail -/

/-- A `_start_smtp` that hits a row has read an open gate. -/
theorem recoveryStage_of_startSmtp {db : Database} {claim : Notifications.DispatchClaim}
    (h : (Notifications.startSmtp db now claim).2 = true) : db.recoveryStage = .opened := by
  obtain ⟨r, -, hr⟩ := List.any_eq_true.1 h
  simp only [Notifications.canStart, Notifications.smtpMayStart, Bool.and_eq_true,
    beq_iff_eq] at hr
  exact hr.2.1.1.1

/-- A step of the mail system that enters `_send` has read an open gate. -/
theorem recoveryStage_of_sending {mail mail' : Notifications.MailSystem}
    {e : Notifications.Event} (h : Notifications.step settings mail e = some mail') {i : ℕ}
    {claim : Notifications.DispatchClaim} {message : Notifications.Message}
    (hready : mail.dispatchers i = .ready claim message)
    (hsending : mail'.dispatchers i = .sending claim message) :
    mail.db.recoveryStage = .opened := by
  have hquiet : mail'.dispatchers ≠ mail.dispatchers := by
    intro heq
    rw [heq, hready] at hsending
    nomatch hsending
  cases Notifications.step_spec h with
  | @dispatcher j action mail'' pc he hact =>
    by_cases hij : i = j
    · subst hij
      have hpc : pc = .sending claim message := by
        rw [← hsending]
        exact (Notifications.MailSystem.setPc_self mail'' i pc).symm
      rw [hready, hpc] at hact
      cases hact with
      | start hit => exact recoveryStage_of_startSmtp hit
    · rw [Notifications.MailSystem.setPc_ne mail'' pc hij, hact.dispatchers, hready] at hsending
      nomatch hsending
  | _ => exact absurd rfl hquiet

/-- The commands leave the dispatchers alone. -/
theorem recoveryStage_of_startsSmtp (hs : GateInv s)
    (h : gateStep sha256 settings s e = some s') (hstarts : StartsSmtp s s') :
    s.row.stage = .opened := by
  obtain ⟨i, claim, message, hready, hsending⟩ := hstarts
  rw [← hs.stage]
  rcases (mail_of_gateStep hs.stage h).2 with hsame | ⟨e', mail, hmail, hdispatchers⟩
  · rw [hsame, hready] at hsending
    nomatch hsending
  · exact recoveryStage_of_sending hmail hready (hdispatchers ▸ hsending)

/-! ## The gate -/

/-- A failed verification has left the row as it was, and a recorded one too. -/
theorem recovering_of_failing (hs : GateInv s) (h : gateStep sha256 settings s e = some s')
    (hfails : FailsToVerify s e s') : s'.row.stage = .recovering := by
  obtain ⟨_, _, _, _, manifest, -, -, hfailing⟩ := hfails
  exact ((gateInv_inductive sha256 settings).step s e s' hs h).command manifest (.inr hfailing)

/-- **The gate never opens early.** Once `recover` has begun for a manifest, every run that reaches
an open gate passes a confirmation of restricted access for that recovery, a verification of that
recovery that succeeds, and an `open_dispatcher` with its identifier, in this order. No step enters
`_send` unless the gate is open. A failed verification leaves the stage `recovering`, whatever
failed, and so does recording it. -/
theorem gate_never_opens_early (sha256 : Bytes → Bytes) (settings : Settings) {s : GateSystem}
    (hs : (gateSystem sha256 settings).Reachable s) :
    (∀ manifest e t es s', gateStep sha256 settings s e = some t → Began manifest s e t →
      (gateSystem sha256 settings).run t es = some s' → s'.row.stage = .opened →
      (gateSystem sha256 settings).Passes t es s'
        [ConfirmedAccess manifest, Verified sha256 manifest, Opened manifest]) ∧
    (∀ e s', gateStep sha256 settings s e = some s' → s.row.stage ≠ .opened →
      ¬ StartsSmtp s s') ∧
    (∀ e s', gateStep sha256 settings s e = some s' → FailsToVerify s e s' →
      s'.row.stage = .recovering) ∧
    (∀ commits s' manifest, gateStep sha256 settings s (.recordFailure commits) = some s' →
      s.phase = .failing manifest → s'.row.stage = .recovering) := by
  have hinductive := gateInv_inductive sha256 settings
  have hinv : GateInv s := hinductive.of_reachable hs
  refine ⟨?_, ?_, ?_, ?_⟩
  · intro manifest e t es s' hstep hbegan hrun hopen
    exact TransitionSystem.passes_of_stages hinductive (fun P Ps s e s' => ahead_step)
      (fun P Ps s _ => not_opened_of_ahead) (hinductive.step s e t hinv hstep)
      (ahead_of_began hinv hstep hbegan) hrun hopen
  · intro e s' hstep hclosed hstarts
    exact hclosed (recoveryStage_of_startsSmtp hinv hstep hstarts)
  · intro e s' hstep hfails
    exact recovering_of_failing hinv hstep hfails
  · intro commits s' manifest hstep hfailing
    have hstage := hinv.command manifest (.inr hfailing)
    rw [gateStep, hfailing] at hstep
    dsimp only at hstep
    split at hstep
    · obtain rfl := Option.some.inj hstep
      show (recordFailure manifest.recoveryId s.row).stage = .recovering
      rw [recordFailure_eq hstage]
      exact hstage
    · obtain rfl := Option.some.inj hstep
      exact hstage

/-- A database without rows. -/
def untouched : GateSystem where
  mail := .initial .empty
  row := .initial
  phase := .idle

/-- The manifest of a backup without objects. -/
def emptyManifest : RecoveryManifest := ⟨"r1", 10, [1, 2], []⟩

/-- The rest of its recovery, in which the first verification fails. -/
def recovered : List GateEvent :=
  [.confirmRestrictedAccess true 20 emptyManifest ⟨"operator", "restore"⟩ true,
    .verifyAndOpen ⟨true, true, ⟨none, fun _ => none⟩⟩ 21 false true, .recordFailure true,
    .confirmRestrictedAccess true 30 emptyManifest ⟨"operator", "restore"⟩ true,
    .verifyAndOpen ⟨true, true, ⟨some [], fun _ => none⟩⟩ 31 false true,
    .openDispatcher false "r1" ⟨"operator", "restore"⟩ true]

theorem gate_never_opens_early_recovered :
    ∃ t s', Began emptyManifest untouched (.recover true emptyManifest ⟨"operator", "restore"⟩ true)
        t ∧ s'.row.stage = .opened ∧ (gateSystem id .withoutCipher).Passes t recovered s'
          [ConfirmedAccess emptyManifest, Verified id emptyManifest, Opened emptyManifest] := by
  have hinit : (gateSystem id .withoutCipher).init untouched :=
    ⟨rfl, rfl, rfl, Notifications.MailSystem.initial_init .withoutCipher .empty⟩
  obtain ⟨t, ht, hrest⟩ := (Option.any_eq_true _ _).1
    (show (gateStep id .withoutCipher untouched
      (.recover true emptyManifest ⟨"operator", "restore"⟩ true)).any (fun t =>
        t.row.stage == .recovering && ((gateSystem id .withoutCipher).run t recovered).any
          (·.row.stage == .opened)) = true by decide +kernel)
  rw [Bool.and_eq_true, beq_iff_eq] at hrest
  obtain ⟨s', hrun, hopen⟩ := (Option.any_eq_true _ _).1 hrest.2
  have hbegan : Began emptyManifest untouched
      (.recover true emptyManifest ⟨"operator", "restore"⟩ true) t :=
    ⟨⟨true, _, true, rfl⟩, rfl, hrest.1⟩
  exact ⟨t, s', hbegan, beq_iff_eq.1 hopen,
    (gate_never_opens_early id .withoutCipher (.initial hinit)).1 emptyManifest _ t recovered s' ht
      hbegan hrun (beq_iff_eq.1 hopen)⟩

end Recovery

end Rulefolio
