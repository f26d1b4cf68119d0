import Mathlib.Data.List.Pairwise
import Rulefolio.Notifications.DispatchInvariant

/-!
# No mail is sent twice

Of one outbox row there is never more than one attempt in flight, no attempt follows one that was
accepted or whose outcome nobody knows, and the number of attempts is bounded by the setting.

All three are read off the invariant. The second is a statement about the future of a state, so
it is proved as a relation between the two ends of a run (`Final`), which a single step keeps
because it either leaves the attempts alone, ends the attempt of the dispatcher that takes it, or
starts one on a row whose attempts have all failed (`step_attempts`).

## Main definitions

* `AttemptOutcome.final` — accepted, or unknown.

## Main results

* `step_attempts` — what one step does to the attempts.
* `no_double_send` — the three guarantees.
-/

namespace Rulefolio

namespace Notifications

/-! ## What becomes of the attempts -/

/-- One step leaves the attempts alone, ends one that is in flight, or starts one. -/
theorem step_attempts {settings : Settings} {s s' : MailSystem} {e : Event}
    (hs : SystemStep settings s e s') :
    s'.attempts = s.attempts ∨
      (∃ i claim message outcome, (s.dispatchers i).phase = .sending claim message ∧
        s'.attempts = closeAttempt claim.claimId outcome s.attempts) ∨
      ∃ i claim message now, (s.dispatchers i).phase = .before claim ∧
        (startSmtp s.db now claim).2 = true ∧
        s'.attempts = Attempt.started claim message :: s.attempts := by
  cases hs with
  | @dispatcher i action s' pc he h =>
    generalize hphase : (s.dispatchers i).phase = phase at h
    generalize pc.phase = phase' at h
    cases h with
    | read | stop _ | claim _ _ | requeue _ _ => exact Or.inl rfl
    | start hit => exact Or.inr (Or.inr ⟨i, _, _, _, hphase, hit, rfl⟩)
    | sent => exact Or.inr (Or.inl ⟨i, _, _, _, hphase, rfl⟩)
    | crash => exact Or.inr (Or.inl ⟨i, _, _, _, hphase, rfl⟩)
  | _ => exact Or.inl rfl

theorem Inv.started_mem {settings : Settings} {s : MailSystem} (h : Inv settings s) {i : ℕ}
    {claim : DispatchClaim} {message : Message} (hpc :
      (s.dispatchers i).phase = .sending claim message) :
    Attempt.started claim message ∈ s.attempts := by
  have := (h.phases i).agrees
  rw [hpc] at this
  exact this

/-- A row has at most one attempt that did not fail. -/
theorem Inv.eq_of_not_failed {settings : Settings} {s : MailSystem} (h : Inv settings s)
    {a b : Attempt} (ha : a ∈ s.attempts) (hb : b ∈ s.attempts) (hab : a.outboxId = b.outboxId)
    (hfa : a.outcome ≠ .failed) (hfb : b.outcome ≠ .failed) : a = b := by
  by_contra hne
  have hpair : s.attempts.Pairwise fun a b =>
      a.outboxId = b.outboxId → a.outcome = .failed ∨ b.outcome = .failed :=
    h.settled.imp fun hp he => Or.inr (hp he)
  have : Std.Symm fun a b : Attempt =>
      a.outboxId = b.outboxId → a.outcome = .failed ∨ b.outcome = .failed :=
    ⟨fun _ _ h he => (h he.symm).symm⟩
  exact (hpair.forall ha hb hne hab).elim hfa hfb

/-- Nothing may follow the attempt: it was accepted, or nobody knows whether it was. -/
def AttemptOutcome.final : AttemptOutcome → Bool
  | .accepted | .unknown | .crashed => true
  | .inFlight | .failed => false

/-- Two states of a run: what is final in the first stays, and nothing was started after it. -/
def Final (s s' : MailSystem) : Prop :=
  ∀ a ∈ s.attempts, a.outcome.final = true →
    a ∈ s'.attempts ∧ starts s'.attempts a.outboxId = starts s.attempts a.outboxId

theorem Final.refl (s : MailSystem) : Final s s := fun _ ha _ => ⟨ha, rfl⟩

theorem Final.trans {s t u : MailSystem} (h : Final s t) (h' : Final t u) : Final s u := by
  intro a ha hf
  obtain ⟨hat, hst⟩ := h a ha hf
  obtain ⟨hau, htu⟩ := h' a hat hf
  exact ⟨hau, htu.trans hst⟩

theorem Inv.final {settings : Settings} {s s' : MailSystem} {e : Event} (h : Inv settings s)
    (hs : SystemStep settings s e s') : Final s s' := by
  intro a ha hf
  rcases step_attempts hs with he | ⟨i, claim, message, outcome, hpc, he⟩ |
    ⟨i, claim, message, now, hpc, hhit, he⟩
  · rw [he]
    exact ⟨ha, rfl⟩
  · -- The attempt that ends was in flight, so it is another one.
    have hne : a.claimId ≠ claim.claimId := fun hac => by
      rw [List.inj_on_of_nodup_map h.attemptClaims ha (h.started_mem hpc) hac] at hf
      cases hf
    rw [he, starts_closeAttempt]
    exact ⟨(mem_closeAttempt ..).2 (Or.inr ⟨ha, hne⟩), rfl⟩
  · -- The row of the new attempt has no final one.
    have hsettled := (h.step hs).settled
    rw [he] at hsettled
    have hne : claim.outboxId ≠ a.outboxId := fun hao => by
      rw [(List.pairwise_cons.1 hsettled).1 a ha hao] at hf
      cases hf
    rw [he, starts_cons]
    exact ⟨List.mem_cons_of_mem _ ha, by simp [Attempt.started, hne]⟩

/-- **No mail is sent twice.** In every reachable state: two dispatchers inside `_send` work on
different rows; an attempt that was accepted, or whose outcome is unknown because the connection
broke or the dispatcher died, is the last one of its row for ever; and a row has at most
`mail_max_attempts` attempts. -/
theorem no_double_send (settings : Settings) {s : MailSystem}
    (h : (mailSystem settings).Reachable s) :
    (∀ i j c d m n, s.dispatchers i = .sending c m → s.dispatchers j = .sending d n →
      c.outboxId = d.outboxId → i = j) ∧
    (∀ a ∈ s.attempts, a.outcome.final = true → ∀ es s',
      (mailSystem settings).run s es = some s' →
        starts s'.attempts a.outboxId = starts s.attempts a.outboxId) ∧
    ∀ o, starts s.attempts o ≤ settings.mailMaxAttempts := by
  have hI := mailSystem_inv settings
  have hs := hI.of_reachable h
  refine ⟨fun i j c d m n hi hj hcd => ?_, fun a ha hf es s' hr => ?_, fun o => ?_⟩
  · have hsame : Attempt.started c m = Attempt.started d n :=
      hs.eq_of_not_failed (hs.started_mem (by rw [hi]; rfl)) (hs.started_mem (by rw [hj]; rfl)) hcd
        (by simp [Attempt.started]) (by simp [Attempt.started])
    exact hs.distinct i j c d (by rw [hi]; rfl) (by rw [hj]; rfl)
      (congrArg Attempt.claimId hsame)
  · have hfinal : Final s s' :=
      hI.relates Final.refl (fun _ _ _ => Final.trans) (fun _ _ _ h hs => h.final (step_spec hs))
        hs hr
    exact (hfinal a ha hf).2
  · by_cases ho : o ∈ s.db.outbox.map (·.id)
    · obtain ⟨r, hr, rfl⟩ := List.mem_map.1 ho
      exact (hs.rows r hr).bounded
    · have hnone : starts s.attempts o = 0 :=
        List.countP_eq_zero.2 fun a ha => by
          have : a.outboxId ≠ o := fun he => ho (he ▸ hs.attemptRow a ha)
          simpa using this
      omega

/-- One business mail to an active account, sent by the first dispatcher while a second one
waits for work. -/
def sentOnce : List Event :=
  let go (i now claimId : ℕ) : Event := .dispatcher i (.advance now [] claimId)
  [.enqueue 10 1 issueMail,
    go 0 20 100, go 1 20 101, go 0 20 100, go 0 20 100, go 0 20 100, go 0 20 100, go 0 20 100,
    go 0 20 100, .dispatcher 0 (.smtp .returned)]

/-- The recipient's account is active. -/
def oneRecipient : Database :=
  { Database.empty with accounts := [⟨7, "maker@example.org", .active⟩] }

/-- The state after it, before the outcome is recorded. -/
def sentOnceState : MailSystem :=
  ((mailSystem .withoutCipher).run (.initial oneRecipient) sentOnce).getD
    (.initial oneRecipient)

/-- What happens meanwhile: stale recovery runs, and the second dispatcher looks for work. -/
def meanwhile : List Event :=
  [.recoverStale .opened 1000 [], .dispatcher 1 (.advance 1000 [] 101)]

/-- The accepted attempt stays the only one. -/
theorem no_double_send_sentOnce :
    ∃ s', (mailSystem .withoutCipher).run sentOnceState meanwhile = some s' ∧
      starts s'.attempts 1 = 1 := by
  have h := no_double_send .withoutCipher (s := sentOnceState)
    ⟨.initial oneRecipient, sentOnce, MailSystem.initial_init .withoutCipher _, rfl⟩
  refine ⟨_, rfl, (h.2.1 ⟨1, 100, ⟨"maker@example.org", "subject", "body"⟩, .accepted⟩
    (by decide) rfl meanwhile _ rfl).trans ?_⟩
  decide

end Notifications

end Rulefolio
