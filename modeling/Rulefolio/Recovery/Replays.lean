import Rulefolio.Library.History
import Rulefolio.Recovery.Gate

/-!
# Replayed recoveries

`_begin_recovery` refuses the identifier that is stored in the row of `recovery_state`, and that is
the identifier of the last recovery. A recovery that was completed before the last one can be begun
again.

## Main definitions

* `completed` — the identifiers of the recoveries that `open_dispatcher` has ended, in order.
* `Replays` — a call of `recover` that is accepted with such an identifier.
* `Overtaken` — a call with the identifier of a recovery that another one has followed.

## Main results

* `recovery_never_replayed_iff`.
-/

namespace Rulefolio

namespace Recovery

/-! ## Completed recoveries -/

/-- The identifier of the recovery that a step has completed. -/
def completes (s : GateSystem) (e : GateEvent) (s' : GateSystem) : List String :=
  match e with
  | .openDispatcher _ recoveryId _ _ =>
    if s.row.stage = .apiOpen ∧ s'.row.stage = .opened then [recoveryId] else []
  | _ => []

/-- The record of the completed recoveries. -/
def completed (done : List String) (s : GateSystem) (e : GateEvent) (s' : GateSystem) :
    List String :=
  done ++ completes s e s'

/-- The identifier of the manifest that a call of `recover` is accepted with. -/
def acceptedBy (s : GateSystem) : GateEvent → Option String
  | .recover frozen manifest request _ =>
    match recover frozen manifest request s.row with
    | .ok _ => some manifest.recoveryId
    | .error _ => none
  | _ => none

/-- The event is a call of `recover` that is accepted for a completed recovery. -/
def Replays (done : List String) (s : GateSystem) (e : GateEvent) : Prop :=
  ∃ recoveryId ∈ done, acceptedBy s e = some recoveryId

/-- What `recover` checks of its arguments. -/
def requireArguments (frozen : Bool) (manifest : RecoveryManifest) (request : Request) :
    Except RecoveryFailed Request := do
  demand frozen "deployment_freeze" []
  let _ ← requireRecoveryId manifest.recoveryId
  request.require

/-- The identifier of a call of `recover` with valid arguments. -/
def askedBy : GateEvent → Option String
  | .recover frozen manifest request _ =>
    match requireArguments frozen manifest request with
    | .ok _ => some manifest.recoveryId
    | .error _ => none
  | _ => none

/-- The event is a valid call of `recover` while the gate is open, for a completed recovery that is
not the last one. -/
def Overtaken (done : List String) (s : GateSystem) (e : GateEvent) : Prop :=
  s.row.stage = .opened ∧
    ∃ recoveryId ∈ done, askedBy e = some recoveryId ∧ done.getLast? ≠ some recoveryId

/-! ## The invariant -/

/-- While the gate is open the row has the identifier of the last recovery. While it is closed it
has an identifier of none that was completed. -/
structure NewlyBegun (done : List String) (s : GateSystem) : Prop where
  gate : GateInv s
  opened : s.row.stage = .opened → s.row.recoveryId = done.getLast?
  closed : s.row.stage ≠ .opened → ∃ r, s.row.recoveryId = some r ∧ r ∉ done

variable {sha256 : Bytes → Bytes} {settings : Settings} {s s' : GateSystem} {e : GateEvent}
  {done : List String}

theorem recover_eq_bind (frozen : Bool) (manifest : RecoveryManifest) (request : Request)
    (state : RecoveryState) :
    recover frozen manifest request state = (do
      let request ← requireArguments frozen manifest request
      beginRecovery manifest request.operator state) := by
  rw [recover, requireArguments]
  cases demand frozen "deployment_freeze" [] with
  | error e => rfl
  | ok u =>
    cases requireRecoveryId manifest.recoveryId with
    | error e => rfl
    | ok r => rfl

/-- A call is accepted if its arguments are valid and the row admits the recovery. -/
theorem acceptedBy_eq_some {recoveryId : String} :
    acceptedBy s e = some recoveryId ↔ ∃ frozen manifest request commits request',
      e = .recover frozen manifest request commits ∧ manifest.recoveryId = recoveryId ∧
        requireArguments frozen manifest request = .ok request' ∧
        ∃ row, beginRecovery manifest request'.operator s.row = .ok row := by
  constructor
  · intro h
    cases e with
    | recover frozen manifest request commits =>
      rw [acceptedBy] at h
      split at h
      · rename_i row hrow
        rw [recover_eq_bind] at hrow
        obtain ⟨request', hrequest, hrow⟩ := of_bind_eq_ok hrow
        exact ⟨frozen, manifest, request, commits, request', rfl, Option.some.inj h, hrequest, row,
          hrow⟩
      · cases h
    | _ => cases h
  · rintro ⟨frozen, manifest, request, commits, request', rfl, rfl, hrequest, row, hrow⟩
    rw [acceptedBy, recover_eq_bind, hrequest]
    show (match beginRecovery manifest request'.operator s.row with
      | .ok _ => some manifest.recoveryId
      | .error _ => none) = _
    rw [hrow]

/-- Under the invariant the replays are the calls that another recovery has overtaken. -/
theorem replays_iff (h : NewlyBegun done s) : Replays done s e ↔ Overtaken done s e := by
  constructor
  · rintro ⟨recoveryId, hdone, haccepted⟩
    obtain ⟨frozen, manifest, request, commits, request', rfl, rfl, hrequest, row, hrow⟩ :=
      acceptedBy_eq_some.1 haccepted
    unfold beginRecovery at hrow
    split at hrow
    · cases hrow
    · rename_i hstage
      split at hrow
      · rename_i hof
        rw [Bool.and_eq_true, isOf_iff] at hof
        obtain ⟨r, hr, hnot⟩ := h.closed (by rw [hstage]; decide)
        rw [hof.1.1] at hr
        exact absurd (Option.some.inj hr ▸ hdone) hnot
      · cases hrow
    · rename_i hstage
      split at hrow
      · cases hrow
      · rename_i hother
        refine ⟨hstage, manifest.recoveryId, hdone, ?_, ?_⟩
        · rw [askedBy, hrequest]
        · rw [← h.opened hstage]
          exact fun hsame => hother (beq_iff_eq.2 hsame)
  · rintro ⟨hstage, recoveryId, hdone, hasked, hlast⟩
    refine ⟨recoveryId, hdone, acceptedBy_eq_some.2 ?_⟩
    cases e with
    | recover frozen manifest request commits =>
      rw [askedBy] at hasked
      split at hasked
      · rename_i request' hrequest
        obtain rfl := Option.some.inj hasked
        refine ⟨frozen, manifest, request, commits, request', rfl, rfl, hrequest, ?_⟩
        rw [beginRecovery, hstage]
        dsimp only
        rw [h.opened hstage, if_neg (by rwa [beq_iff_eq])]
        exact ⟨_, rfl⟩
      · cases hasked
    | _ => cases hasked

theorem completes_eq_nil (h : s'.row.stage = s.row.stage) : completes s e s' = [] := by
  cases e with
  | openDispatcher frozen recoveryId request commits =>
    rw [completes, if_neg]
    rintro ⟨hapi, hopen⟩
    rw [h, hapi] at hopen
    cases hopen
  | _ => rfl

/-- A step that leaves the stage and the identifier alone keeps the invariant. -/
theorem NewlyBegun.same (h : NewlyBegun done s) (hgate : GateInv s')
    (hstage : s'.row.stage = s.row.stage) (hid : s'.row.recoveryId = s.row.recoveryId) :
    NewlyBegun (completed done s e s') s' := by
  rw [completed, completes_eq_nil hstage, List.append_nil]
  refine ⟨hgate, fun hopen => ?_, fun hclosed => ?_⟩
  · rw [hid]
    exact h.opened (hstage ▸ hopen)
  · rw [hid]
    exact h.closed (hstage ▸ hclosed)

/-- A step keeps the invariant, unless it is a replay. -/
theorem NewlyBegun.step (h : NewlyBegun done s) (hnot : ¬ Overtaken done s e)
    (hstep : gateStep sha256 settings s e = some s') :
    NewlyBegun (completed done s e s') s' := by
  have hgate : GateInv s' := (gateInv_inductive sha256 settings).step s e s' h.gate hstep
  cases gateStep_spec hstep with
  | keeps row _ => exact h.same hgate (by rw [row]) (by rw [row])
  | began manifest began row _ =>
    obtain ⟨⟨frozen, request, commits, rfl⟩, hopen, hclosing⟩ := began
    refine ⟨hgate, fun hopen' => ?_, fun _ => ⟨manifest.recoveryId, (isOf_iff.1 row.1).1, ?_⟩⟩
    · rw [hclosing] at hopen'
      cases hopen'
    · rw [completed, show completes s _ s' = [] from rfl, List.append_nil]
      intro hdone
      refine hnot ((replays_iff h).1 ⟨manifest.recoveryId, hdone, ?_⟩)
      rw [acceptedBy]
      cases hrow : recover frozen manifest request s.row with
      | ok row => rfl
      | error failed =>
        -- A refused call leaves the row as it was, and the gate open.
        rw [gateStep] at hstep
        split at hstep
        · cases hstep
        · rw [hrow] at hstep
          obtain rfl := Option.some.inj hstep
          rw [hopen] at hclosing
          cases hclosing
  | confirmed _ _ _ _ _ _ _ _ row _ => exact h.same hgate (by rw [row]) (by rw [row])
  | verified surroundings now manifest he _ row _ =>
    obtain ⟨hstage, -, -, hrow⟩ := verifyAndOpen_eq_ok row
    subst he
    refine ⟨hgate, fun hopen => ?_, fun _ => ?_⟩
    · rw [hrow] at hopen
      cases hopen
    · rw [completed, show completes s _ s' = [] from rfl, List.append_nil, hrow]
      exact h.closed (by rw [hstage]; decide)
  | failed _ _ row _ => exact h.same hgate (by rw [row]) (by rw [row])
  | recorded manifest failing row _ =>
    rw [recordFailure_eq (h.gate.command manifest (.inr failing))] at row
    exact h.same hgate (by rw [row]) (by rw [row])
  | opened frozen recoveryId request commits he row _ =>
    obtain ⟨hstage, hid, hrow⟩ := openGate_eq_ok row
    subst he
    refine ⟨hgate, fun _ => ?_, fun hclosed => absurd (by rw [hrow]) hclosed⟩
    rw [completed, completes, if_pos ⟨hstage, by rw [hrow]⟩, List.getLast?_append,
      List.getLast?_singleton, hrow]
    exact hid

/-! ## The runs -/

/-- **When no recovery is replayed.** In a run from the state the migration leaves, no call of
`recover` is accepted for a recovery that was completed before it, if and only if no valid call of
`recover` is made while the gate is open for a completed recovery other than the last one. -/
theorem recovery_never_replayed_iff (sha256 : Bytes → Bytes) (settings : Settings)
    {s₀ : GateSystem} (h₀ : (gateSystem sha256 settings).init s₀) (es : List GateEvent) :
    (gateSystem sha256 settings).Along completed (fun done s e => ¬ Replays done s e) [] s₀ es ↔
      (gateSystem sha256 settings).Along completed (fun done s e => ¬ Overtaken done s e) [] s₀
        es := by
  have hinit : NewlyBegun [] s₀ := by
    refine ⟨(gateInv_inductive sha256 settings).init s₀ h₀, fun _ => ?_, fun hclosed => ?_⟩
    · rw [h₀.1]
      rfl
    · rw [h₀.1] at hclosed
      exact absurd rfl hclosed
  exact TransitionSystem.along_iff (I := NewlyBegun) (fun done s e h => not_congr (replays_iff h))
    (fun done s e s' h hnot hstep => h.step hnot hstep) hinit

/-- A recovery, from its beginning to its end. -/
def recoveryOf (manifest : RecoveryManifest) : List GateEvent :=
  [.recover true manifest ⟨"operator", "restore"⟩ true,
    .confirmRestrictedAccess true 20 manifest ⟨"operator", "restore"⟩ true,
    .verifyAndOpen ⟨true, true, ⟨some [], fun _ => none⟩⟩ 31 false true,
    .openDispatcher false manifest.recoveryId ⟨"operator", "restore"⟩ true]

/-- The manifest of a later backup. -/
def laterManifest : RecoveryManifest := ⟨"r2", 50, [3, 4], []⟩

/-- The first recovery again. -/
def beginAgain : GateEvent := .recover true emptyManifest ⟨"operator", "restore"⟩ true

theorem untouched_init : (gateSystem id .withoutCipher).init untouched :=
  ⟨rfl, rfl, rfl, Notifications.MailSystem.initial_init .withoutCipher .empty⟩

/-- The theorem at a run of two recoveries. -/
theorem recovery_never_replayed_iff_twoRecoveries :
    (gateSystem id .withoutCipher).Along completed (fun done s e => ¬ Replays done s e) []
        untouched (recoveryOf emptyManifest ++ recoveryOf laterManifest) ↔
      (gateSystem id .withoutCipher).Along completed (fun done s e => ¬ Overtaken done s e) []
        untouched (recoveryOf emptyManifest ++ recoveryOf laterManifest) :=
  recovery_never_replayed_iff id .withoutCipher untouched_init _

/-- After another recovery the first one is accepted again. -/
theorem recovery_replayed :
    (gateSystem id .withoutCipher).init untouched ∧
      ¬ (gateSystem id .withoutCipher).Along completed (fun done s e => ¬ Replays done s e) []
        untouched (recoveryOf emptyManifest ++ recoveryOf laterManifest ++ [beginAgain]) := by
  refine ⟨untouched_init, fun halong => ?_⟩
  obtain ⟨t, hrun, hagain⟩ := (Option.any_eq_true _ _).1
    (show ((gateSystem id .withoutCipher).run untouched
      (recoveryOf emptyManifest ++ recoveryOf laterManifest)).any (fun t =>
        decide (acceptedBy t beginAgain = some "r1")) = true by decide +kernel)
  refine halong _ beginAgain [] t rfl hrun ⟨"r1", ?_, of_decide_eq_true hagain⟩
  exact of_decide_eq_true (show decide ("r1" ∈ (gateSystem id .withoutCipher).history completed []
    untouched (recoveryOf emptyManifest ++ recoveryOf laterManifest)) = true by decide +kernel)

end Recovery

end Rulefolio
