import Rulefolio.Notifications.Steps

/-!
# The invariant of dispatching

Every dispatcher decides alone whether it may call SMTP, from what a guarded `UPDATE` of one row
told it. The invariant says why these decisions do not conflict.

Say that a row is *burnt* by an attempt that did not fail explicitly. A burnt row has left the
queue for good, or it is still `sending` under the claim of that very attempt (`RowInv.burnt`).
Putting a row back into the queue takes `_mark_failed` with that claim, and the dispatcher that
holds it knows that its attempt failed (`Phase.Agrees`). Everything else that writes the outbox is
quiet.

The bound on the attempts is carried by two inequalities: a row has at most as many attempts as
claims (`RowInv.counted`), and `_mark_failed` compares the claim's own number with the setting.

## Main definitions

* `Phase.Agrees` — what a dispatcher knows about the attempts under its claim.
* `RowInv`, `PhaseInv`, `Inv` — the invariant, for a row, for a dispatcher and for the state.

## Main results

* `Inv.claim`, `Inv.start`, `Inv.close`, `Inv.markFailed`, `Inv.enqueue` — the steps that are not
  quiet.
* `mailSystem_inv` — the invariant is inductive.
-/

namespace Rulefolio

namespace Notifications

/-! ## The invariant -/

/-- How many attempts of a row were started. -/
def starts (attempts : List Attempt) (outboxId : Uuid) : ℕ :=
  attempts.countP (·.outboxId == outboxId)

/-- What a dispatcher knows about the attempts under its claim: there is none before
`_start_smtp`, then one in flight, then one with the outcome it is about to record. -/
def Phase.Agrees (attempts : List Attempt) : Phase → Prop
  | .idle => True
  | .before claim => ∀ a ∈ attempts, a.claimId ≠ claim.claimId
  | .sending claim message => Attempt.started claim message ∈ attempts
  | .sent claim outcome =>
    ∀ a ∈ attempts, a.claimId = claim.claimId → a.outcome = outcome.attemptOutcome

/-- What holds of every row of the outbox. -/
structure RowInv (settings : Settings) (issued : List Uuid) (attempts : List Attempt)
    (r : MailOutbox) : Prop where
  issued : ∀ c, r.claimId = some c → c ∈ issued
  /-- A row with an attempt that did not fail is out of the queue, or still sending under the
  claim of that attempt. -/
  burnt : ∀ a ∈ attempts, a.outboxId = r.id → a.outcome ≠ .failed →
    r.unstarted = false ∧ (r.status = .sending → r.claimId = some a.claimId)
  bounded : starts attempts r.id ≤ settings.mailMaxAttempts
  queued : r.unstarted = true → starts attempts r.id < settings.mailMaxAttempts
  counted : starts attempts r.id ≤ r.attemptCount
  claimed : r.status = .sending → r.unstarted = true → starts attempts r.id < r.attemptCount

/-- What holds of every dispatcher. -/
structure PhaseInv (issued : List Uuid) (attempts : List Attempt) (outbox : List MailOutbox)
    (phase : Phase) : Prop where
  issued : ∀ c, phase.claim? = some c → c.claimId ∈ issued
  /-- Its claim names the row and the row's attempt count, as long as the row still has it. -/
  owns : ∀ c, phase.claim? = some c → ∀ r ∈ outbox, r.claimId = some c.claimId →
    r.id = c.outboxId ∧ r.attemptCount = c.attemptCount
  agrees : phase.Agrees attempts

/-- The invariant of the mail system. -/
structure Inv (settings : Settings) (s : MailSystem) : Prop where
  nodup : (s.db.outbox.map (·.id)).Nodup
  rows : ∀ r ∈ s.db.outbox, RowInv settings s.issued s.attempts r
  phases : ∀ i, PhaseInv s.issued s.attempts s.db.outbox (s.dispatchers i).phase
  /-- No two live dispatchers work for one claim. -/
  distinct : ∀ i j c d, (s.dispatchers i).phase.claim? = some c →
    (s.dispatchers j).phase.claim? = some d →
    c.claimId = d.claimId → i = j
  attemptIssued : ∀ a ∈ s.attempts, a.claimId ∈ s.issued
  attemptRow : ∀ a ∈ s.attempts, a.outboxId ∈ s.db.outbox.map (·.id)
  attemptClaims : (s.attempts.map (·.claimId)).Nodup
  /-- When an attempt was started, every earlier attempt of the row had failed. -/
  settled : s.attempts.Pairwise fun later earlier =>
    later.outboxId = earlier.outboxId → earlier.outcome = .failed

/-! ### Steps that do not start an attempt -/

theorem RowInv.quiet {settings : Settings} {issued : List Uuid} {attempts : List Attempt}
    {r r' : MailOutbox} (h : RowInv settings issued attempts r) (hq : Quiet r r') :
    RowInv settings issued attempts r' where
  issued c hc := h.issued c (hq.claimId c hc)
  burnt a ha ho hf := by
    obtain ⟨hu, hs⟩ := h.burnt a ha (ho.trans hq.id) hf
    refine ⟨?_, fun hs' => ?_⟩
    · by_contra hu'
      exact absurd (hq.unstarted (by simpa using hu')) (by simp [hu])
    · obtain ⟨hsr, hc⟩ := hq.sending hs'
      exact hc.trans (hs hsr)
  bounded := hq.id ▸ h.bounded
  queued hu := hq.id ▸ h.queued (hq.unstarted hu)
  counted := by rw [hq.id, hq.attemptCount]; exact h.counted
  claimed hs hu := by
    rw [hq.id, hq.attemptCount]
    exact h.claimed (hq.sending hs).1 (hq.unstarted hu)

theorem PhaseInv.quiet {issued : List Uuid} {attempts : List Attempt} {t t' : List MailOutbox}
    {phase : Phase} (h : PhaseInv issued attempts t phase) (hq : QuietUpdate t t') :
    PhaseInv issued attempts t' phase where
  issued := h.issued
  owns c hc r' hr' hrc := by
    obtain ⟨r, hr, hrr⟩ := hq.exists_of_mem hr'
    rw [hrr.id, hrr.attemptCount]
    exact h.owns c hc r hr (hrr.claimId _ hrc)
  agrees := h.agrees

/-- A quiet statement keeps the invariant, whatever it does to other tables. -/
theorem Inv.quiet {settings : Settings} {s s' : MailSystem} (h : Inv settings s)
    (hq : QuietUpdate s.db.outbox s'.db.outbox) (ha : s'.attempts = s.attempts)
    (hi : s'.issued = s.issued) (hd : s'.dispatchers = s.dispatchers) : Inv settings s' where
  nodup := hq.map_id ▸ h.nodup
  rows r' hr' := by
    obtain ⟨r, hr, hrr⟩ := hq.exists_of_mem hr'
    rw [ha, hi]
    exact (h.rows r hr).quiet hrr
  phases i := by
    rw [ha, hi, hd]
    exact (h.phases i).quiet hq
  distinct := hd ▸ h.distinct
  attemptIssued := by rw [ha, hi]; exact h.attemptIssued
  attemptRow := by rw [ha, hq.map_id]; exact h.attemptRow
  attemptClaims := ha ▸ h.attemptClaims
  settled := ha ▸ h.settled

/-- Claims stay distinct when a dispatcher keeps or drops its claim, or takes one that no other
dispatcher has. -/
theorem distinct_setPc {s : MailSystem} {i : ℕ} {pc : Pc}
    (h : ∀ i j c d, (s.dispatchers i).phase.claim? = some c →
      (s.dispatchers j).phase.claim? = some d →
      c.claimId = d.claimId → i = j)
    (hpc : ∀ c, pc.phase.claim? = some c → ∀ j d, (s.dispatchers j).phase.claim? = some d →
      c.claimId = d.claimId → i = j) :
    ∀ j k c d, ((s.setPc i pc).dispatchers j).phase.claim? = some c →
      ((s.setPc i pc).dispatchers k).phase.claim? = some d → c.claimId = d.claimId → j = k := by
  intro j k c d hc hd hcd
  by_cases hj : j = i <;> by_cases hk : k = i
  · rw [hj, hk]
  · subst hj
    rw [MailSystem.setPc_self] at hc
    rw [MailSystem.setPc_ne s pc hk] at hd
    exact hpc c hc k d hd hcd
  · subst hk
    rw [MailSystem.setPc_self] at hd
    rw [MailSystem.setPc_ne s pc hj] at hc
    exact (hpc d hd j c hc hcd.symm).symm
  · rw [MailSystem.setPc_ne s pc hj] at hc
    rw [MailSystem.setPc_ne s pc hk] at hd
    exact h j k c d hc hd hcd

/-- A dispatcher goes on under the claim it has, or gives it up. -/
theorem Inv.setPc {settings : Settings} {s : MailSystem} (h : Inv settings s) (i : ℕ) {pc : Pc}
    (hc : ∀ c, pc.phase.claim? = some c → (s.dispatchers i).phase.claim? = some c)
    (ha : pc.phase.Agrees s.attempts) : Inv settings (s.setPc i pc) where
  nodup := h.nodup
  rows := h.rows
  phases j := by
    by_cases hj : j = i
    · subst hj
      rw [MailSystem.setPc_self]
      exact ⟨fun c hpc => (h.phases j).issued c (hc c hpc),
        fun c hpc => (h.phases j).owns c (hc c hpc), ha⟩
    · rw [MailSystem.setPc_ne s pc hj]
      exact h.phases j
  distinct := distinct_setPc h.distinct fun c hpc j d hd hcd =>
    h.distinct i j c d (hc c hpc) hd hcd
  attemptIssued := h.attemptIssued
  attemptRow := h.attemptRow
  attemptClaims := h.attemptClaims
  settled := h.settled

/-! ### New rows -/

theorem Inv.enqueue {settings : Settings} {s s' : MailSystem} (h : Inv settings s)
    {r : MailOutbox} (hfresh : r.id ∉ s.db.outbox.map (·.id)) (hr : Enqueued r)
    (ho : s'.db.outbox = r :: s.db.outbox) (ha : s'.attempts = s.attempts)
    (hi : s'.issued = s.issued) (hd : s'.dispatchers = s.dispatchers) : Inv settings s' := by
  have hnone : ∀ a ∈ s.attempts, a.outboxId ≠ r.id := fun a ham he =>
    hfresh (he ▸ h.attemptRow a ham)
  have hstarts : starts s.attempts r.id = 0 := by
    simpa [starts, List.countP_eq_zero] using hnone
  have hpos := settings.one_le_mailMaxAttempts
  refine ⟨?_, ?_, ?_, hd ▸ h.distinct, by rw [ha, hi]; exact h.attemptIssued, ?_,
    ha ▸ h.attemptClaims, ha ▸ h.settled⟩
  · rw [ho, List.map_cons, List.nodup_cons]
    exact ⟨hfresh, h.nodup⟩
  · intro q hq
    rw [ha, hi]
    rcases List.mem_cons.1 (ho ▸ hq) with rfl | hq
    · exact
        { issued := fun c hc => by simp [hr.claimId] at hc
          burnt := fun a ham he => absurd he (hnone a ham)
          bounded := by omega
          queued := fun _ => by omega
          counted := by omega
          claimed := fun hs => by simp [hr.status] at hs }
    · exact h.rows q hq
  · intro i
    rw [ha, hi, hd]
    refine ⟨(h.phases i).issued, fun c hc q hq hqc => ?_, (h.phases i).agrees⟩
    rcases List.mem_cons.1 (ho ▸ hq) with rfl | hq
    · simp [hr.claimId] at hqc
    · exact (h.phases i).owns c hc q hq hqc
  · intro a ham
    rw [ho, List.map_cons]
    exact List.mem_cons_of_mem _ (h.attemptRow a (ha ▸ ham))

/-! ### Claiming a row -/

/-- What `_claim_next` returns names a due row, and that row is the one it changes. -/
theorem claimNext_spec {now : Timestamp} {locked : List Uuid} {claimId : Uuid}
    {t t' : List MailOutbox} {claim : DispatchClaim}
    (h : claimNext now locked claimId t = some (claim, t')) :
    ∃ r ∈ t, isDue now locked r = true ∧ claim = ⟨r.id, claimId, r.attemptCount + 1⟩ ∧
      t' = Table.update (·.id == r.id) (claimRow claimId now) t := by
  obtain ⟨r, hr, he⟩ := Option.map_eq_some_iff.1 h
  have hmem := List.mem_filter.1 (List.argmin_mem hr)
  cases he
  exact ⟨r, hmem.1, hmem.2, rfl, rfl⟩

theorem Inv.row_unique {settings : Settings} {s : MailSystem} (h : Inv settings s)
    {r q : MailOutbox} (hr : r ∈ s.db.outbox) (hq : q ∈ s.db.outbox) (hid : q.id = r.id) :
    q = r :=
  List.inj_on_of_nodup_map h.nodup hq hr hid

theorem RowInv.mono_issued {settings : Settings} {issued : List Uuid} {attempts : List Attempt}
    {r : MailOutbox} (h : RowInv settings issued attempts r) (c : Uuid) :
    RowInv settings (c :: issued) attempts r :=
  { h with issued := fun d hd => List.mem_cons_of_mem _ (h.issued d hd) }

theorem Inv.claim {settings : Settings} {s : MailSystem} (h : Inv settings s) (i : ℕ)
    {now : Timestamp} {locked : List Uuid} {claimId : Uuid} {claim : DispatchClaim}
    {outbox : List MailOutbox} (hfresh : claimId ∉ s.issued)
    (hc : claimNext now locked claimId s.db.outbox = some (claim, outbox)) {pc : Pc}
    (hpc' : pc.phase = .before claim) :
    Inv settings ({ s with db.outbox := outbox, issued := claimId :: s.issued }.setPc i pc) := by
  obtain ⟨r, hr, hdue, rfl, rfl⟩ := claimNext_spec hc
  have hpending : r.status = .pending := by
    simp only [isDue, Bool.and_eq_true, beq_iff_eq] at hdue
    exact hdue.1.1
  have hqueued : r.unstarted = true := by simp [MailOutbox.unstarted, hpending]
  have hmem : ∀ q ∈ Table.update (·.id == r.id) (claimRow claimId now) s.db.outbox,
      q = claimRow claimId now r ∨ q ∈ s.db.outbox := by
    intro q hq
    rcases Table.mem_update.1 hq with ⟨q₀, hq₀, hid, rfl⟩ | ⟨hq, -⟩
    · rw [h.row_unique hr hq₀ (by simpa using hid)]
      exact Or.inl rfl
    · exact Or.inr hq
  have hids : (Table.update (·.id == r.id) (claimRow claimId now) s.db.outbox).map (·.id) =
      s.db.outbox.map (·.id) := Table.map_update _ fun _ _ => rfl
  refine ⟨?_, ?_, ?_, ?_, ?_, ?_, h.attemptClaims, h.settled⟩
  · exact hids ▸ h.nodup
  · intro q hq
    rcases hmem q hq with rfl | hq
    · have hrow := h.rows r hr
      exact
        { issued := fun c hc => by simp_all [claimRow, MailSystem.setPc]
          burnt := fun a ha ho hf => by
            have := (hrow.burnt a ha ho hf).1
            simp [hqueued] at this
          bounded := hrow.bounded
          queued := fun _ => hrow.queued hqueued
          counted := Nat.le_succ_of_le hrow.counted
          claimed := fun _ _ => Nat.lt_succ_of_le hrow.counted }
    · exact (h.rows q hq).mono_issued claimId
  · intro j
    by_cases hj : j = i
    · subst hj
      rw [MailSystem.setPc_self, hpc']
      refine ⟨fun c hc => ?_, fun c hc q hq hqc => ?_, fun a ha he => ?_⟩
      · cases hc
        exact List.mem_cons_self
      · cases hc
        rcases hmem q hq with rfl | hq
        · exact ⟨rfl, rfl⟩
        · exact absurd ((h.rows q hq).issued _ hqc) hfresh
      · have he : a.claimId = claimId := he
        exact hfresh (he ▸ h.attemptIssued a ha)
    · rw [MailSystem.setPc_ne _ _ hj]
      refine ⟨fun c hc => List.mem_cons_of_mem _ ((h.phases j).issued c hc),
        fun c hc q hq hqc => ?_, (h.phases j).agrees⟩
      rcases hmem q hq with rfl | hq
      · have : claimId = c.claimId := by simpa [claimRow] using hqc
        exact absurd (this ▸ (h.phases j).issued c hc) hfresh
      · exact (h.phases j).owns c hc q hq hqc
  · refine distinct_setPc h.distinct fun c hc j d hd hcd => ?_
    rw [hpc'] at hc
    cases hc
    have hcd : claimId = d.claimId := hcd
    exact absurd (hcd ▸ (h.phases j).issued d hd) hfresh
  · exact fun a ha => List.mem_cons_of_mem _ (h.attemptIssued a ha)
  · exact fun a ha => hids ▸ h.attemptRow a ha

/-! ### Recording an explicit failure -/

theorem mem_updateClaim {claim : DispatchClaim} {values : MailOutbox → MailOutbox}
    {t : List MailOutbox} {q : MailOutbox} (hq : q ∈ (updateClaim claim values t).1) :
    (∃ r ∈ t, holds claim r = true ∧ q = { values r with claimId := none }) ∨
      (q ∈ t ∧ holds claim q = false) :=
  Table.mem_update.1 hq

theorem holds_iff {claim : DispatchClaim} {r : MailOutbox} :
    holds claim r = true ↔
      r.id = claim.outboxId ∧ r.status = .sending ∧ r.claimId = some claim.claimId := by
  simp [holds, and_assoc]

/-- The one way back into the queue after SMTP was called: the dispatcher that holds the claim
knows that its attempt failed, so no attempt of the row is left that might have succeeded. -/
theorem Inv.markFailed {settings : Settings} {s s' : MailSystem} (h : Inv settings s) (i : ℕ)
    {now : Timestamp} {claim : DispatchClaim}
    (hpc : (s.dispatchers i).phase = .sent claim .smtpException)
    (hn : claim.attemptCount < settings.mailMaxAttempts)
    (ho : s'.db.outbox = (markFailed settings now claim s.db.outbox).1)
    (ha : s'.attempts = s.attempts) (hi : s'.issued = s.issued)
    (hd : s'.dispatchers = s.dispatchers) : Inv settings s' := by
  have hids : s'.db.outbox.map (·.id) = s.db.outbox.map (·.id) := by
    rw [ho]
    exact Table.map_update _ fun r _ => by simp [hn]
  have hmine : (s.dispatchers i).phase.claim? = some claim := by rw [hpc]; rfl
  have hfailed : ∀ a ∈ s.attempts, a.claimId = claim.claimId → a.outcome = .failed := by
    have := (h.phases i).agrees
    rw [hpc] at this
    exact this
  refine ⟨hids ▸ h.nodup, fun q hq => ?_, fun j => ?_, hd ▸ h.distinct,
    by rw [ha, hi]; exact h.attemptIssued, by rw [ha, hids]; exact h.attemptRow,
    ha ▸ h.attemptClaims, ha ▸ h.settled⟩
  · rw [ha, hi]
    rcases mem_updateClaim (ho ▸ hq) with ⟨r, hr, hold, rfl⟩ | ⟨hq, -⟩
    · have hrow := h.rows r hr
      obtain ⟨-, hs, hrc⟩ := holds_iff.1 hold
      obtain ⟨-, hcount⟩ := (h.phases i).owns claim hmine r hr hrc
      have hlt : starts s.attempts r.id < settings.mailMaxAttempts :=
        calc starts s.attempts r.id ≤ r.attemptCount := hrow.counted
          _ = claim.attemptCount := hcount
          _ < settings.mailMaxAttempts := hn
      simp only [hn, if_true]
      exact
        { issued := by simp
          burnt := fun a ham hao hf => by
            have hac : r.claimId = some a.claimId := (hrow.burnt a ham hao hf).2 hs
            have : a.claimId = claim.claimId := Option.some.inj (hac.symm.trans hrc)
            exact absurd (hfailed a ham this) hf
          bounded := hrow.bounded
          queued := fun _ => hlt
          counted := hrow.counted
          claimed := by simp }
    · exact h.rows q hq
  · rw [ha, hi, hd]
    refine ⟨(h.phases j).issued, fun c hc q hq hqc => ?_, (h.phases j).agrees⟩
    rcases mem_updateClaim (ho ▸ hq) with ⟨r, -, -, rfl⟩ | ⟨hq, -⟩
    · simp at hqc
    · exact (h.phases j).owns c hc q hq hqc

/-! ### Starting an attempt -/

theorem Phase.Agrees.cons {phase : Phase} {attempts : List Attempt} {a : Attempt}
    (h : phase.Agrees attempts) (hne : ∀ d, phase.claim? = some d → d.claimId ≠ a.claimId) :
    phase.Agrees (a :: attempts) := by
  cases phase with
  | idle => trivial
  | before claim =>
    intro b hb
    rcases List.mem_cons.1 hb with rfl | hb
    · exact (hne claim rfl).symm
    · exact h b hb
  | sending claim message => exact List.mem_cons_of_mem _ h
  | sent claim outcome =>
    intro b hb hbc
    rcases List.mem_cons.1 hb with rfl | hb
    · exact absurd hbc.symm (hne claim rfl)
    · exact h b hb hbc

theorem canStart_iff {db : Database} {now : Timestamp} {claim : DispatchClaim}
    {r : MailOutbox} :
    canStart db now claim r = true ↔
      holds claim r = true ∧ r.smtpStartedAt = none ∧ smtpMayStart db now r = true := by
  simp [canStart, and_assoc]

theorem starts_cons (a : Attempt) (attempts : List Attempt) (o : Uuid) :
    starts (a :: attempts) o = starts attempts o + if a.outboxId = o then 1 else 0 := by
  simp [starts, List.countP_cons]

/-- A successful `_start_smtp`. The row it hits is in the queue, so every earlier attempt of it
has failed, and there is room for one more. -/
theorem Inv.start {settings : Settings} {s : MailSystem} (h : Inv settings s) (i : ℕ)
    {now : Timestamp} {claim : DispatchClaim} {message : Message}
    {pc : Pc} (hpc : (s.dispatchers i).phase = .before claim)
    (hpc' : pc.phase = .sending claim message)
    (hhit : (startSmtp s.db now claim).2 = true) :
    Inv settings ({ s with
      db.outbox := (startSmtp s.db now claim).1,
      attempts := Attempt.started claim message :: s.attempts }.setPc i pc) := by
  have hmine : (s.dispatchers i).phase.claim? = some claim := by rw [hpc]; rfl
  have hnone : ∀ a ∈ s.attempts, a.claimId ≠ claim.claimId := by
    have := (h.phases i).agrees
    rw [hpc] at this
    exact this
  obtain ⟨r, hr, hcan⟩ := List.any_eq_true.1 hhit
  obtain ⟨hold, hsmtp, -⟩ := canStart_iff.1 hcan
  obtain ⟨hid, hs, hrc⟩ := holds_iff.1 hold
  have hrow := h.rows r hr
  have hqueued : r.unstarted = true := by simp [MailOutbox.unstarted, hs, hsmtp]
  have hids : (startSmtp s.db now claim).1.map (·.id) = s.db.outbox.map (·.id) :=
    Table.map_update _ fun _ _ => rfl
  -- The statement hits exactly the row of the claim.
  have hmem : ∀ q ∈ (startSmtp s.db now claim).1,
      q = { r with smtpStartedAt := some now } ∨ (q ∈ s.db.outbox ∧ q.id ≠ claim.outboxId) := by
    intro q hq
    rcases Table.mem_update.1 hq with ⟨q₀, hq₀, hq₀c, rfl⟩ | ⟨hq, hnot⟩
    · have : q₀ = r :=
        h.row_unique hr hq₀ ((holds_iff.1 (canStart_iff.1 hq₀c).1).1.trans hid.symm)
      exact Or.inl (by rw [this])
    · refine Or.inr ⟨hq, fun he => ?_⟩
      have : q = r := h.row_unique hr hq (he.trans hid.symm)
      rw [this, hcan] at hnot
      cases hnot
  have hprev : ∀ a ∈ s.attempts, a.outboxId = claim.outboxId → a.outcome = .failed := by
    intro a ham hao
    by_contra hf
    have := (hrow.burnt a ham (hao.trans hid.symm) hf).1
    simp [hqueued] at this
  refine ⟨hids ▸ h.nodup, fun q hq => ?_, fun j => ?_, ?_, ?_, ?_, ?_, ?_⟩
  · rcases hmem q hq with rfl | ⟨hq, hne⟩
    · have hlt := hrow.queued hqueued
      have hltc := hrow.claimed hs hqueued
      have hstarts : starts (Attempt.started claim message :: s.attempts)
          r.id = starts s.attempts r.id + 1 := by
        rw [starts_cons]
        simp [Attempt.started, hid]
      exact
        { issued := fun c hc => hrow.issued c hc
          burnt := fun a ham hao hf => by
            refine ⟨by simp [MailOutbox.unstarted, hs], fun _ => ?_⟩
            rcases List.mem_cons.1 ham with rfl | ham
            · exact hrc
            · exact absurd (hprev a ham (hao.trans hid)) hf
          bounded := hstarts ▸ hlt
          queued := fun hu => by simp [MailOutbox.unstarted, hs] at hu
          counted := hstarts ▸ hltc
          claimed := fun _ hu => by simp [MailOutbox.unstarted, hs] at hu }
    · have hq' := h.rows q hq
      have hstarts : starts (Attempt.started claim message :: s.attempts)
          q.id = starts s.attempts q.id := by
        rw [starts_cons]
        simp [Attempt.started, Ne.symm hne]
      exact
        { issued := hq'.issued
          burnt := fun a ham hao hf => by
            rcases List.mem_cons.1 ham with rfl | ham
            · exact absurd hao.symm hne
            · exact hq'.burnt a ham hao hf
          bounded := hstarts ▸ hq'.bounded
          queued := fun hu => hstarts ▸ hq'.queued hu
          counted := hstarts ▸ hq'.counted
          claimed := fun hs hu => hstarts ▸ hq'.claimed hs hu }
  · have howns : ∀ c, (s.dispatchers j).phase.claim? = some c → ∀ q ∈ (startSmtp s.db now claim).1,
        q.claimId = some c.claimId → q.id = c.outboxId ∧ q.attemptCount = c.attemptCount := by
      intro c hc q hq hqc
      rcases hmem q hq with rfl | ⟨hq, -⟩
      · exact (h.phases j).owns c hc r hr hqc
      · exact (h.phases j).owns c hc q hq hqc
    by_cases hj : j = i
    · subst hj
      rw [MailSystem.setPc_self, hpc']
      exact ⟨fun c hc => (h.phases j).issued c (hmine.trans hc),
        fun c hc => howns c (hmine.trans hc), List.mem_cons_self⟩
    · rw [MailSystem.setPc_ne _ _ hj]
      exact ⟨(h.phases j).issued, howns, (h.phases j).agrees.cons fun d hd he =>
        hj (h.distinct j i d claim hd hmine he)⟩
  · refine distinct_setPc h.distinct fun c hc j d hd hcd => ?_
    rw [hpc'] at hc
    exact h.distinct i j c d (hmine.trans hc) hd hcd
  · intro a ham
    rcases List.mem_cons.1 ham with rfl | ham
    · exact (h.phases i).issued claim hmine
    · exact h.attemptIssued a ham
  · intro a ham
    change a.outboxId ∈ (startSmtp s.db now claim).1.map (·.id)
    rw [hids]
    rcases List.mem_cons.1 ham with rfl | ham
    · exact List.mem_map.2 ⟨r, hr, hid⟩
    · exact h.attemptRow a ham
  · refine List.nodup_cons.2 ⟨fun hm => ?_, h.attemptClaims⟩
    obtain ⟨a, ham, hac⟩ := List.mem_map.1 hm
    exact hnone a ham hac
  · exact List.pairwise_cons.2 ⟨fun a ham he => hprev a ham he.symm, h.settled⟩

/-! ### Ending an attempt -/

section Close

variable (claimId : Uuid) (outcome : AttemptOutcome) (attempts : List Attempt)

theorem mem_closeAttempt {a : Attempt} :
    a ∈ closeAttempt claimId outcome attempts ↔
      (∃ b ∈ attempts, b.claimId = claimId ∧ a = { b with outcome := outcome }) ∨
        (a ∈ attempts ∧ a.claimId ≠ claimId) := by
  simp [closeAttempt, Table.mem_update]

theorem map_claimId_closeAttempt :
    (closeAttempt claimId outcome attempts).map (·.claimId) = attempts.map (·.claimId) :=
  Table.map_update _ fun _ _ => rfl

theorem starts_closeAttempt (o : Uuid) :
    starts (closeAttempt claimId outcome attempts) o = starts attempts o := by
  have : (closeAttempt claimId outcome attempts).map (·.outboxId) = attempts.map (·.outboxId) :=
    Table.map_update _ fun _ _ => rfl
  calc starts (closeAttempt claimId outcome attempts) o
      = ((closeAttempt claimId outcome attempts).map (·.outboxId)).count o := by
        rw [List.count, List.countP_map]; rfl
    _ = (attempts.map (·.outboxId)).count o := by rw [this]
    _ = starts attempts o := by rw [List.count, List.countP_map]; rfl

variable {claimId outcome attempts}

theorem Phase.Agrees.close {phase : Phase} (h : phase.Agrees attempts)
    (hne : ∀ d, phase.claim? = some d → d.claimId ≠ claimId) :
    phase.Agrees (closeAttempt claimId outcome attempts) := by
  cases phase with
  | idle => trivial
  | before claim =>
    intro a ha
    rcases (mem_closeAttempt ..).1 ha with ⟨b, hb, -, rfl⟩ | ⟨ha, -⟩
    · exact h b hb
    · exact h a ha
  | sending claim message => exact (mem_closeAttempt ..).2 (Or.inr ⟨h, hne claim rfl⟩)
  | sent claim _ =>
    intro a ha hac
    rcases (mem_closeAttempt ..).1 ha with ⟨b, -, hb, rfl⟩ | ⟨ha, -⟩
    · exact absurd (hac.symm.trans hb) (hne claim rfl)
    · exact h a ha hac

end Close

/-- `_send` returned, or the dispatcher died during it. -/
theorem Inv.close {settings : Settings} {s : MailSystem} (h : Inv settings s) (i : ℕ)
    {claim : DispatchClaim} {message : Message} {outcome : AttemptOutcome} {pc : Pc}
    (hpc : (s.dispatchers i).phase = .sending claim message)
    (hc : ∀ c, pc.phase.claim? = some c → c = claim)
    (hagrees : pc.phase.Agrees (closeAttempt claim.claimId outcome s.attempts)) :
    Inv settings ({ s with attempts := closeAttempt claim.claimId outcome s.attempts }.setPc i
      pc) := by
  have hmine : (s.dispatchers i).phase.claim? = some claim := by rw [hpc]; rfl
  have hin : Attempt.started claim message ∈ s.attempts := by
    have := (h.phases i).agrees
    rw [hpc] at this
    exact this
  have hflight : ∀ a ∈ s.attempts, a.claimId = claim.claimId → a.outcome = .inFlight := by
    intro a ha hac
    rw [List.inj_on_of_nodup_map h.attemptClaims ha hin hac]
    rfl
  have hkeep : ∀ c, pc.phase.claim? = some c → (s.dispatchers i).phase.claim? = some c :=
    fun c hpc' =>
    (hc c hpc').symm ▸ hmine
  refine ⟨h.nodup, fun r hr => ?_, fun j => ?_, ?_, ?_, ?_, ?_, ?_⟩
  · have hrow := h.rows r hr
    have hstarts := starts_closeAttempt claim.claimId outcome s.attempts r.id
    exact
      { issued := hrow.issued
        burnt := fun a ham hao hf => by
          rcases (mem_closeAttempt ..).1 ham with ⟨b, hb, hbc, rfl⟩ | ⟨ham, -⟩
          · exact hrow.burnt b hb hao (by simp [hflight b hb hbc])
          · exact hrow.burnt a ham hao hf
        bounded := hstarts.symm ▸ hrow.bounded
        queued := fun hu => hstarts.symm ▸ hrow.queued hu
        counted := hstarts.symm ▸ hrow.counted
        claimed := fun hs hu => hstarts.symm ▸ hrow.claimed hs hu }
  · by_cases hj : j = i
    · subst hj
      rw [MailSystem.setPc_self]
      exact ⟨fun c hpc' => (h.phases j).issued c (hkeep c hpc'),
        fun c hpc' => (h.phases j).owns c (hkeep c hpc'), hagrees⟩
    · rw [MailSystem.setPc_ne _ _ hj]
      exact ⟨(h.phases j).issued, (h.phases j).owns, (h.phases j).agrees.close fun d hd he =>
        hj (h.distinct j i d claim hd hmine he)⟩
  · exact distinct_setPc h.distinct fun c hpc' j d hd hcd =>
      h.distinct i j c d (hkeep c hpc') hd hcd
  · intro a ham
    rcases (mem_closeAttempt ..).1 ham with ⟨b, hb, -, rfl⟩ | ⟨ham, -⟩
    · exact h.attemptIssued b hb
    · exact h.attemptIssued a ham
  · intro a ham
    rcases (mem_closeAttempt ..).1 ham with ⟨b, hb, -, rfl⟩ | ⟨ham, -⟩
    · exact h.attemptRow b hb
    · exact h.attemptRow a ham
  · exact (map_claimId_closeAttempt ..).symm ▸ h.attemptClaims
  · refine List.pairwise_map.2 (h.settled.imp_of_mem fun {later earlier} _ he hp => ?_)
    have hids : ∀ a : Attempt, (if a.claimId == claim.claimId then { a with outcome := outcome }
        else a).outboxId = a.outboxId := fun a => by split <;> rfl
    intro hids'
    rw [hids, hids] at hids'
    have hf := hp hids'
    have hne : earlier.claimId ≠ claim.claimId := fun hec => by
      rw [hflight earlier he hec] at hf
      cases hf
    simpa [hne] using hf

/-! ## Every step keeps the invariant -/

theorem Inv.act {settings : Settings} {s s' : MailSystem} {pc : Pc} {action : Action}
    (h : Inv settings s) (i : ℕ) (hs : ActStep settings s action
      (s.dispatchers i).phase s' pc.phase) :
    Inv settings (s'.setPc i pc) := by
  generalize hphase : (s.dispatchers i).phase = phase at hs
  generalize hphase' : pc.phase = phase' at hs
  cases hs with
  | read =>
    refine h.setPc i (fun c hc => ?_) ?_
    · rw [hphase, ← hphase']
      exact hc
    · rw [hphase', ← hphase]
      exact (h.phases i).agrees
  | @stop _ outbox hk =>
    have hq : Inv settings { s with db.outbox := outbox } := h.quiet hk.quiet rfl rfl rfl
    refine hq.setPc i (fun c hc => ?_) ?_
    · rw [hphase'] at hc
      cases hc
    · rw [hphase']
      trivial
  | claim fresh hc => exact h.claim i fresh hc hphase'
  | start hit => exact h.start i hphase hphase' hit
  | sent =>
    refine h.close i hphase (fun c hc => ?_) ?_
    · rw [hphase'] at hc
      exact (Option.some.inj hc).symm
    · rw [hphase']
      intro a ha hac
      rcases (mem_closeAttempt ..).1 ha with ⟨b, -, -, rfl⟩ | ⟨-, hne⟩
      · rfl
      · exact absurd hac hne
  | crash =>
    refine h.close i hphase (fun c hc => ?_) ?_
    · rw [hphase'] at hc
      cases hc
    · rw [hphase']
      trivial
  | @requeue now _ _ claim _ spare =>
    have hq : Inv settings
        { s with db.outbox := (Notifications.markFailed settings now claim s.db.outbox).1 } :=
      h.markFailed i hphase spare rfl rfl rfl rfl
    refine hq.setPc i (fun c hc => ?_) ?_
    · rw [hphase'] at hc
      cases hc
    · rw [hphase']
      trivial

theorem Inv.step {settings : Settings} {s s' : MailSystem} {e : Event} (h : Inv settings s)
    (hs : SystemStep settings s e s') : Inv settings s' := by
  cases hs with
  | dispatcher _ hact => exact h.act _ hact
  | statement hk => exact h.quiet hk.quiet rfl rfl rfl
  | connect | rollback _ | endTodos _ _ | stopMail _ _ | refused | other _ =>
    exact h.quiet (QuietUpdate.refl _) rfl rfl rfl
  | commit => exact h.quiet (EndingTransaction.publish_quiet _ s.db) rfl rfl rfl
  | createTodo _ fresh hr _ | enqueue fresh hr _ | retry fresh hr _ _ =>
    exact h.enqueue (not_mem_of_freshOutbox fresh) hr rfl rfl rfl rfl

theorem mailSystem_inv (settings : Settings) :
    (mailSystem settings).Inductive (Inv settings) where
  init s hs := by
    obtain ⟨-, ho, hd, -, ha, -, -⟩ := hs
    refine ⟨by simp [ho], by simp [ho], fun i => ?_, ?_, by simp [ha], by simp [ha], by simp [ha],
      by simp [ha]⟩
    · rw [hd]
      exact ⟨fun c hc => (by cases hc), fun c hc => (by cases hc), trivial⟩
    · intro i j c d hc
      rw [hd] at hc
      cases hc
  step _ _ _ h hs := h.step (step_spec hs)

end Notifications

end Rulefolio
