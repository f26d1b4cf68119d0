import Rulefolio.Authentication.Parts
import Rulefolio.Library.LockedRows

/-!
# What the calls do to a recovery request

Every call of `app.identity` is followed on the one request it has locked; the stale reset, which
locks many, is followed on all of them. A request that is over is left alone, and a worker issues a
credential for a request in the commit that ends it.

## Main results

* `prog_jobs` — every call changes the requests by steps.
-/

namespace Rulefolio

namespace Authentication

open ReadCommitted

variable {settings : IdentitySettings} {x : Point Store RowKey} {j : Uuid} {v w : JobRows}

/-- What a commit does to the requests. -/
def jobGuarantee : Tx.Guarantee Store RowKey :=
  fun _ H db db' => jobViews.Commits JobStep H db db'

/-- A call that is followed on the requests. -/
def FollowsJobs {α : Type} (settings : IdentitySettings) (Q : α → Point Store RowKey → Prop)
    (t : Program α) (x : Point Store RowKey) : Prop :=
  t.Safe (identityEnvironment settings) jobGuarantee Q (fun _ _ => True) x

theorem followsJobs_changes {α : Type} (h : jobViews.Clean (identityEnvironment settings) x)
    {t : Program α} (ht : t.Changes jobViews.Same) :
    FollowsJobs settings (fun _ y => jobViews.Clean (identityEnvironment settings) y) t x :=
  (h.changes JobStep.refl ht).weaken fun _ _ _ _ hc => hc.1

/-! ## What leaves the requests alone -/

/-- The credentials of a request are told by columns that the update keeps. -/
theorem jobs_credentials {p : OneTimeCredential → Bool} {f : OneTimeCredential → OneTimeCredential}
    (hid : ∀ c, (f c).id = c.id) (hissued : ∀ c, (f c).issuedFor = c.issuedFor) (db : Store) :
    jobViews.Same db { db with credentials := Table.update p f db.credentials } := by
  intro k
  simp only [jobViews]
  rw [Table.filter_update_comm db.credentials fun c _ => by rw [hissued c],
    Table.map_update _ fun c _ => hid c]

theorem jobs_outbox {p : TokenMail → Bool} {f : TokenMail → TokenMail}
    (hid : ∀ r, (f r).id = r.id) (hissued : ∀ r, (f r).issuedFor = r.issuedFor) (db : Store) :
    jobViews.Same db { db with outbox := Table.update p f db.outbox } := by
  intro k
  simp only [jobViews]
  rw [Table.filter_update_comm db.outbox fun r _ => by rw [hissued r],
    Table.map_update _ fun r _ => hid r]

theorem Unseen.jobs_changes {α : Type} {t : Program α} (h : t.Changes Unseen) :
    t.Changes jobViews.Same :=
  h.mono fun _ _ hu => hu.jobs

theorem Unseen.jobs_within {α : Type} {t : Program α} {P : α → Prop} (h : t.Within Unseen P) :
    t.Within jobViews.Same P :=
  h.mono (fun _ _ hu => hu.jobs) fun _ hp => hp

theorem setStatus_jobs (a : Uuid) (status : AccountStatus) :
    (setStatus a status).Within jobViews.Same fun _ => True :=
  Tx.Within.write fun _ _ _ => rfl

theorem rehash_jobs (a : Uuid) (passwordHash : String) :
    (rehash a passwordHash).Within jobViews.Same fun _ => True :=
  Tx.Within.write fun _ _ _ => rfl

theorem revokeSessions_jobs (now : Timestamp) (a : Uuid) (reason : String) :
    (revokeSessions now a reason).Within jobViews.Same fun _ => True :=
  Tx.Within.write fun _ _ _ => rfl

theorem passwordOf_jobs (account : Option Account) :
    (passwordOf account).Within jobViews.Same fun _ => True := by
  cases account with
  | none => exact Tx.Within.pure trivial
  | some account => exact Tx.Within.read LockedViews.Same.refl _ fun _ => trivial

theorem clearOutboxEnvelopes_jobs (ids : List Uuid) :
    (clearOutboxEnvelopes ids).Within jobViews.Same fun _ => True :=
  Tx.Within.write fun _ => jobs_outbox (fun _ => rfl) fun _ => rfl

theorem revokeCredentials_jobs (now : Timestamp) (a : Uuid) (purpose : MailPurpose) :
    (revokeCredentials now a purpose).Within jobViews.Same fun _ => True := by
  refine Tx.Within.andThen (Tx.Within.selectAllForUpdate LockedViews.Same.refl _ _)
    fun credentials => ?_
  refine Tx.Within.andThen (Tx.Within.write fun _ => ?_) fun _ => Tx.Within.pure trivial
  exact jobs_credentials (by intro c; rfl) (by intro c; rfl)

theorem setPassword_jobs (a : Uuid) (passwordHash : String) :
    (setPassword a passwordHash).Within jobViews.Same fun _ => True := by
  refine Tx.Within.read_bind LockedViews.Same.refl fun db => ?_
  split
  · refine Tx.Within.andThen (insertRow_within LockedViews.Same.refl _ _ ?_) fun _ =>
      Tx.Within.pure trivial
    exact fun _ _ => rfl
  · refine Tx.Within.andThen (Tx.Within.write ?_) fun _ => Tx.Within.pure trivial
    exact fun _ _ _ => rfl

theorem createSession_jobs (new : NewSession) (a : Uuid) (n : ℕ) :
    (createSession settings new a n).Within jobViews.Same fun _ => True := by
  refine insertRow_within LockedViews.Same.refl _ _ ?_
  exact fun _ _ => rfl

/-- A credential that is not issued for a request. -/
theorem createOneTimeCredential_jobs (new : NewCredential) (a : Uuid) (purpose : MailPurpose) :
    (createOneTimeCredential settings new a purpose none).Within jobViews.Same fun _ => True := by
  refine Tx.Within.andThen (revokeCredentials_jobs _ _ _) fun _ => ?_
  refine Tx.Within.andThen (clearOutboxEnvelopes_jobs _) fun _ => ?_
  refine Tx.Within.andThen (insertRow_within LockedViews.Same.refl _ _ fun db => ?_) fun _ => ?_
  · exact fun _ => rfl
  · exact insertRow_within LockedViews.Same.refl _ _ fun db => fun _ => rfl

theorem cutOff_jobs (now : Timestamp) (a : Uuid) :
    (cutOff now a).Within jobViews.Same fun _ => True :=
  Tx.Within.andThen (revokeSessions_jobs _ _ _) fun _ =>
    Tx.Within.andThen (revokeCredentials_jobs _ _ _) fun _ => clearOutboxEnvelopes_jobs _

theorem login_jobs (email password : String) (salt : Bytes) (new : NewSession)
    (failedAt : Timestamp) :
    (login settings email password salt new failedAt).Changes jobViews.Same := by
  refine Tx.Changes.bind (Tx.Within.require' _ _).changes fun email' => ?_
  refine Tx.Changes.bind (Unseen.jobs_changes (refuseAbove_unseen ..)) fun _ => ?_
  refine Tx.Changes.bind (lockRow_within LockedViews.Same.refl _ _ _).changes fun account => ?_
  refine Tx.Changes.bind (passwordOf_jobs account).changes fun credential => ?_
  split
  · exact Unseen.jobs_changes (failAttempt_unseen ..)
  · split
    · refine Tx.Changes.bind (onlyIf_within (rehash_jobs _ _) _).changes fun _ => ?_
      refine Tx.Changes.bind (Unseen.jobs_within (clearAttempt_unseen _ _)).changes fun _ => ?_
      exact Tx.Changes.bind (createSession_jobs new _ _).changes fun _ => Tx.Changes.commitNow
    · exact Unseen.jobs_changes (failAttempt_unseen ..)

theorem finishExchange_jobs (purpose : MailPurpose) (subject : Bytes) (password : String)
    (salt : Bytes) (new : NewSession) (credential : OneTimeCredential) :
    (finishExchange settings purpose subject password salt new credential).Changes
      jobViews.Same := by
  refine Tx.Changes.bind (setPassword_jobs _ _).changes fun _ => ?_
  refine Tx.Changes.bind (onlyIf_within (setStatus_jobs _ _) _).changes fun _ => ?_
  refine Tx.Changes.bind (clearOutboxEnvelopes_jobs _).changes fun _ => ?_
  refine Tx.Changes.bind (onlyIf_within (cutOff_jobs _ _) _).changes fun _ => ?_
  refine Tx.Changes.bind (createSession_jobs _ _ _).changes fun _ => ?_
  exact Tx.Changes.bind (Unseen.jobs_within (clearAttempt_unseen _ _)).changes fun _ =>
    Tx.Changes.commitNow

theorem exchange_jobs (token : String) (purpose : MailPurpose) (password : String) (salt : Bytes)
    (new : NewSession) (failedAt : Timestamp) :
    (exchangeOneTimeCredential settings token purpose password salt new failedAt).Changes
      jobViews.Same := by
  have hmissed : (linkUnavailable settings failedAt purpose
      (settings.attemptSubject token)).Changes jobViews.Same :=
    Unseen.jobs_changes (failAttempt_unseen ..)
  refine Tx.Changes.bind (Tx.Within.ensure' _ _).changes fun _ => ?_
  refine Tx.Changes.bind (Unseen.jobs_changes (refuseAbove_unseen ..)) fun _ => ?_
  refine Tx.Changes.bind (lockRow_within LockedViews.Same.refl _ _ _).changes fun found => ?_
  cases found with
  | none => exact hmissed
  | some credential =>
    dsimp only
    split
    · refine Tx.Changes.bind (lockRow_within LockedViews.Same.refl _ _ _).changes
        fun account => ?_
      cases account with
      | none => exact hmissed
      | some account =>
        dsimp only
        split
        · refine Tx.Changes.bind (t := consumeCredential _ _) ⟨fun _ => ?_, fun _ => trivial⟩
            fun consumed => ?_
          · exact jobs_credentials (by intro c; rfl) (by intro c; rfl)
          · cases consumed with
            | true => exact finishExchange_jobs ..
            | false => exact hmissed
        · exact hmissed
    · exact hmissed

theorem provisionAccount_jobs (email : String) (newId : Uuid) (new : NewCredential) :
    (provisionAccount settings email newId new).Changes jobViews.Same := by
  refine Tx.Changes.bind (Tx.Within.require' _ _).changes fun email' => ?_
  refine Tx.Changes.bind (lockRow_within LockedViews.Same.refl _ _ _).changes fun account => ?_
  cases account with
  | none =>
    refine Tx.Changes.bind (insertRow_within LockedViews.Same.refl _ _ ?_).changes fun _ => ?_
    · exact fun _ _ => rfl
    exact Tx.Changes.bind (createOneTimeCredential_jobs new _ _).changes fun _ =>
      Tx.Changes.commitNow
  | some account =>
    refine Tx.Changes.bind (Tx.Within.ensure' _ _).changes fun _ => ?_
    refine Tx.Changes.bind (setStatus_jobs _ _).changes fun _ => ?_
    refine Tx.Changes.bind (revokeSessions_jobs _ _ _).changes fun _ => ?_
    refine Tx.Changes.bind (revokeCredentials_jobs _ _ _).changes fun _ => ?_
    refine Tx.Changes.bind (clearOutboxEnvelopes_jobs _).changes fun _ => ?_
    exact Tx.Changes.bind (createOneTimeCredential_jobs new _ _).changes fun _ =>
      Tx.Changes.commitNow

/-! ## Rows of the requests -/

theorem view_updateJob_self {f : RecoveryRequestJob → RecoveryRequestJob}
    (hf : ∀ r, (f r).id = r.id) (db : Store) :
    jobViews.view j (updateJob j f db) =
      { jobViews.view j db with jobs := (jobViews.view j db).jobs.map f } := by
  simp only [jobViews, updateJob, Table.rowsWith_update_all hf]

theorem view_updateJob_other {f : RecoveryRequestJob → RecoveryRequestJob}
    (hf : ∀ r, (f r).id = r.id) {k : Uuid} (hk : k ≠ j) (db : Store) :
    jobViews.view k (updateJob j f db) = jobViews.view k db := by
  simp only [jobViews, updateJob, Table.rowsWith_update_other (q := fun _ => true) hf
    (fun _ => (Bool.and_true _).symm) hk]

/-- **Whoever has locked a request knows it.** -/
theorem lockJob_bind {Q : Unit → Point Store RowKey → Prop}
    (h : jobViews.Clean (identityEnvironment settings) x) {where_ : RecoveryRequestJob → Bool}
    {f : Option RecoveryRequestJob → Program Unit}
    (hnone : ∀ y, jobViews.Clean (identityEnvironment settings) y →
      FollowsJobs settings Q (f none) y)
    (hsome : ∀ job y, jobViews.Holds (identityEnvironment settings) job.id
        (jobViews.view job.id y.db) (jobViews.view job.id y.db) y →
      job ∈ (jobViews.view job.id y.db).jobs → where_ job = true →
        FollowsJobs settings Q (f (some job)) y) :
    FollowsJobs settings Q ((lockRow (·.jobs) (fun r => .job r.id) where_).bind f) x := by
  rw [FollowsJobs, lockRow, Tx.bind_eq, Tx.bind_assoc]
  refine Tx.Safe.read_bind fun s _ hr => ?_
  have hs := h.later subset_rfl hr
  cases (x.pending s).jobs.find? where_ with
  | none => exact hnone _ hs
  | some row =>
    dsimp only
    rw [Tx.bind_eq, Tx.bind_assoc]
    refine Tx.Safe.lockAll_bind fun H t hH hkeys hrt => ?_
    have ht := hs.later hH hrt
    refine Tx.Safe.read_bind fun u hui hru => ?_
    have hu := ht.later subset_rfl hru
    cases hfound : List.find? (fun r : RecoveryRequestJob => RowKey.job r.id == RowKey.job row.id &&
        where_ r) (x.pending u).jobs with
    | none => exact hnone _ hu
    | some job =>
      have hmatch := List.find?_some hfound
      rw [Bool.and_eq_true, beq_iff_eq] at hmatch
      have hlock : (jobViews.lock job.id, RowLock.update) ∈ H := by
        show (RowKey.job job.id, RowLock.update) ∈ H
        rw [hmatch.1]
        exact hkeys _ (List.mem_singleton_self _)
      refine hsome job _ (hu.holds (jobs_respected settings) hlock) ?_ hmatch.2
      have hsame := h u hui ((identityEnvironment settings).trans hr
        ((identityEnvironment settings).trans hrt ((identityEnvironment settings).anti hH hru)))
      rw [← hsame job.id]
      exact Table.mem_rowsWith.2 ⟨List.mem_of_find?_eq_some hfound, rfl⟩

/-- The last commit of a call that has changed one request. -/
theorem followsJobs_commit (h : jobViews.Holds (identityEnvironment settings) j v w x)
    (hstep : JobStep v w) : FollowsJobs settings (fun _ _ => True) Tx.commitNow x := by
  rw [FollowsJobs, ← Tx.bind_pure Tx.commitNow]
  refine h.commit_bind (jobs_respected settings) JobStep.refl hstep
    (fun _ _ _ _ hc _ _ => hc) fun _ _ => ?_
  rw [Tx.Safe]
  trivial

/-! ## Requests, claims and resets -/

theorem requestRecovery_jobs (email : String) (new : NewJob) (db : Store) :
    FollowsJobs settings (fun _ _ => True) (requestRecovery settings email new)
      (Point.start db) := by
  have hV : jobViews.Respected (identityEnvironment settings) := jobs_respected settings
  refine Tx.Safe.require_bind (fun _ => trivial) fun email' _ => ?_
  refine (LockedViews.clean_start db).changes_bind JobStep.refl
    (Unseen.jobs_changes (refuseAbove_unseen ..)) (fun _ _ _ _ hc _ => hc) (fun _ _ => trivial)
    fun _ y hy => ?_
  refine hy.within_bind (fun _ _ => trivial) (Unseen.jobs_within (recordAttempt_unseen ..))
    fun _ z _ hz _ => ?_
  rw [insertRow, Tx.bind_eq, Tx.bind_eq, Tx.bind_assoc]
  refine Tx.Safe.lockAll_bind fun H s hH hkeys hr => ?_
  have hs := (hz.later hH hr).holds hV (k := new.id) (hkeys _ (List.mem_singleton_self _))
  refine hs.writeIf_bind hV (P := (jobViews.view new.id s).jobs = [])
    (g := fun v => { v with jobs := new.row settings :: v.jobs }) (fun db => ?_)
    (fun db k hk => ?_) (fun _ _ => trivial) (fun db hfree hw => ?_) fun u hnone hu => ?_
  · have hrows : Table.rowsWith (·.id) new.id (new.row settings :: db.jobs) =
        new.row settings :: Table.rowsWith (·.id) new.id db.jobs := Table.rowsWith_cons rfl _
    simp only [jobViews, hrows]
  · have hrows : Table.rowsWith (·.id) k (new.row settings :: db.jobs) =
        Table.rowsWith (·.id) k db.jobs :=
      Table.rowsWith_cons_of_ne (show (new.row settings).id ≠ k from hk.symm) _
    simp only [jobViews, hrows]
  · rw [← hw]
    refine Table.rowsWith_eq_nil fun j hj hid => ?_
    exact List.any_eq_false.1 ((Bool.not_eq_true' _).mp hfree) j hj (by simp [hid])
  · refine followsJobs_commit hu ⟨fun hv => ?_, fun hv j hj => ?_⟩
    · have hnothing : ¬ ((jobViews.view new.id s).credentials ≠ [] ∨
          (jobViews.view new.id s).mails ≠ []) := by
        intro hissued
        obtain ⟨j, hj, -⟩ := hv.issued hissued
        rw [hnone] at hj
        cases hj
      refine ⟨?_, fun j hj hover => ?_, hv.credentials, hv.mails, fun h => absurd h hnothing⟩
      · show (new.row settings :: (jobViews.view new.id s).jobs).length ≤ 1
        rw [hnone]
        exact le_rfl
      · rcases List.mem_cons.1 hj with rfl | hj
        · exact absurd hover (RecoveryRequestJob.not_isOver (.inl rfl))
        · rw [hnone] at hj
          cases hj
    · rw [hnone] at hj
      cases hj

/-- A claim is a commit of its own. -/
theorem claim_jobs (now : Timestamp) (locked : List Uuid) (claimId : Uuid) (db : Store) :
    FollowsJobs settings (fun _ y => jobViews.Clean (identityEnvironment settings) y)
      (claimRecoveryRequestJob now locked claimId) (Point.start db) := by
  have hV : jobViews.Respected (identityEnvironment settings) := jobs_respected settings
  have hstart : jobViews.Clean (identityEnvironment settings) (Point.start db) :=
    LockedViews.clean_start db
  have hpure : ∀ (o : Option Uuid) y, jobViews.Clean (identityEnvironment settings) y →
      FollowsJobs settings (fun _ y => jobViews.Clean (identityEnvironment settings) y)
        (Tx.pure o) y := fun o y hy => by
    rw [FollowsJobs, Tx.Safe]
    exact hy
  refine Tx.Safe.read_bind fun s _ hr => ?_
  have hs := hstart.later subset_rfl hr
  split
  · exact hpure _ _ hs
  · rename_i next _
    refine Tx.Safe.lockAll_bind fun H t hH hkeys hrt => ?_
    have ht := (hs.later hH hrt).holds hV (k := next.id) (hkeys _ (List.mem_singleton_self _))
    refine ht.read_bind hV fun u hui hw hu hru => ?_
    dsimp only
    split
    · exact hpure _ _ (hu.clean hV)
    · rename_i job hfound
      have hmatch := List.find?_some hfound
      rw [Bool.and_eq_true, beq_iff_eq, beq_iff_eq] at hmatch
      have hjob : job ∈ (jobViews.view next.id t).jobs := by
        rw [← hw]
        exact Table.mem_rowsWith.2 ⟨List.mem_of_find?_eq_some hfound, hmatch.1⟩
      rw [hmatch.1]
      refine hu.write_bind hV (g := fun v => { v with jobs := v.jobs.map fun j => { j with
          status := .processing
          claimId := some claimId
          processingStartedAt := some now } }) (fun _ db => ?_) (fun _ db k hk => ?_)
        fun y hy => ?_
      · exact view_updateJob_self (by intro r; rfl) db
      · exact view_updateJob_other (by intro r; rfl) hk db
      · have hopen : ¬ job.isOver := RecoveryRequestJob.not_isOver (.inl hmatch.2)
        refine hy.commit_bind hV JobStep.refl (JobStep.of_open hjob hopen { job with
          status := .processing
          claimId := some claimId
          processingStartedAt := some now } (fun hv => ?_) (fun hover => ?_)
          fun hv => ?_) (fun _ _ _ _ hc _ _ => hc) fun z hz => hpure _ z hz
        · show List.map _ (jobViews.view next.id t).jobs = _
          rw [(hv.of_open hjob hopen).1]
          rfl
        · exact absurd hover (RecoveryRequestJob.not_isOver (.inr rfl))
        · exact ⟨hv.credentials, hv.mails, fun h => absurd h (hv.not_issued hjob hopen)⟩

theorem acts_resetJobs (ids : List Uuid) : jobViews.Acts { k | k ∈ ids } fun db =>
    { db with jobs := Table.update (fun j => ids.contains j.id) resetJob db.jobs } := by
  have htouches : Table.Touches (·.id) { k | k ∈ ids }
      (Table.update (fun j : RecoveryRequestJob => ids.contains j.id) resetJob) :=
    Table.touches_update (fun _ _ => rfl) fun _ hr => List.contains_iff_mem.1 hr
  refine ⟨fun s k hk => ?_, fun s t k hst => ?_⟩
  · simp only [jobViews, htouches.only s.jobs k hk]
  · have hjobs := congrArg JobRows.jobs hst
    have hcredentials := congrArg JobRows.credentials hst
    have hmails := congrArg JobRows.mails hst
    simp only [jobViews] at hjobs hcredentials hmails ⊢
    rw [htouches.pointwise s.jobs t.jobs k hjobs, hcredentials, hmails]

/-- A request that is being worked on is reset. -/
theorem step_resetJobs {ids : List Uuid} {db : Store} {job : RecoveryRequestJob}
    (hjob : job ∈ (jobViews.view job.id db).jobs) (hstatus : job.status = .processing)
    (hids : job.id ∈ ids) : JobStep (jobViews.view job.id db) (jobViews.view job.id
      { db with jobs := Table.update (fun j => ids.contains j.id) resetJob db.jobs }) := by
  have hopen : ¬ job.isOver := RecoveryRequestJob.not_isOver (.inr hstatus)
  refine JobStep.of_open hjob hopen (resetJob job) (fun hv => ?_) (fun hover => ?_)
    fun hv => ?_
  · have hrow : Table.rowsWith (·.id) job.id db.jobs = [job] := (hv.of_open hjob hopen).1
    simp only [jobViews]
    have hrows := Table.rowsWith_update (p := fun j => ids.contains j.id) (f := resetJob)
      (fun r _ => rfl : ∀ r, ids.contains r.id = true → (resetJob r).id = r.id) job.id db.jobs
    rw [hrows, hrow]
    simp [Table.update, hids]
  · exact absurd hover (RecoveryRequestJob.not_isOver (.inl rfl))
  · exact ⟨hv.credentials, hv.mails, fun h => absurd h (hv.not_issued hjob hopen)⟩

theorem recoverStale_jobs (stage : RecoveryStage) (now : Timestamp) (locked : List Uuid)
    (db : Store) : FollowsJobs settings (fun _ _ => True)
      (recoverStaleRecoveryRequestJobs settings stage now locked) (Point.start db) := by
  have hV : jobViews.Respected (identityEnvironment settings) := jobs_respected settings
  have hrefl : ∀ (_ : Uuid) (v : JobRows), JobStep v v := fun _ => JobStep.refl
  have hpure : ∀ y, FollowsJobs settings (fun _ _ => True) (Tx.pure ()) y := fun y => by
    rw [FollowsJobs, Tx.Safe]
    trivial
  rw [recoverStaleRecoveryRequestJobs]
  split
  · have hstart : jobViews.Tracks (fun _ => JobStep) ∅ (Point.start db) :=
      LockedViews.tracks_of_id hrefl rfl
    refine Tx.Safe.selectAllForUpdate_bind fun H s found hH hsi hr hsub hkeys => ?_
    have hs := hstart.later hV hrefl hH hr
    refine hs.write_bind hV hrefl (fun _ => acts_resetJobs (found.map (·.id)))
      (fun k hk => ?_) (fun t hti hrt k hk _ => ?_) fun y _ hy _ _ => ?_
    · obtain ⟨job, hjob, rfl⟩ := List.mem_map.1 hk
      exact hkeys job hjob
    · -- the row was stale when it was read, and has been locked since
      obtain ⟨job, hjob, rfl⟩ := List.mem_map.1 hk
      have hsame : jobViews.view job.id t = jobViews.view job.id s := hV hrt (hkeys job hjob)
      obtain ⟨hmem, hstale⟩ := List.mem_filter.1 (hsub.subset hjob)
      rw [Bool.and_eq_true, isStale, Bool.and_eq_true, beq_iff_eq] at hstale
      refine step_resetJobs ?_ hstale.1.1 hk
      rw [hsame]
      exact Table.mem_rowsWith.2 ⟨hmem, rfl⟩
    · rw [← Tx.bind_pure Tx.commitNow]
      refine Tx.Safe.commitNow_bind fun t _ hrt => ⟨?_, hpure _⟩
      obtain ⟨hsteps, hlocked⟩ := hy.commits hV hrefl hrt
      exact ⟨hsteps, hlocked⟩
  · exact hpure _

/-! ## Working off the queue -/

/-- `_create_one_time_credential` for a request that is held. -/
theorem issueFor_bind {Q : Unit → Point Store RowKey → Prop} (new : NewCredential) (a : Uuid)
    (purpose : MailPurpose) (h : jobViews.Holds (identityEnvironment settings) j v w x)
    {f : Unit → Program Unit}
    (hf : ∀ y, jobViews.Holds (identityEnvironment settings) j v
        { w with credentials := new.id :: w.credentials, mails := new.mailId :: w.mails } y →
      FollowsJobs settings Q (f ()) y) :
    FollowsJobs settings Q
      ((createOneTimeCredential settings new a purpose (some j)).bind f) x := by
  have hV : jobViews.Respected (identityEnvironment settings) := jobs_respected settings
  have hX : ∀ (_ : IdentityError) (_ : Point Store RowKey), True := fun _ _ => trivial
  have hother : ∀ {k : Uuid}, k ≠ j → (some j == some k) = false := fun hk =>
    beq_eq_false_iff_ne.2 fun h => hk (Option.some.inj h).symm
  rw [createOneTimeCredential, Tx.bind_eq, Tx.bind_assoc]
  refine h.within_bind hV hX (revokeCredentials_jobs _ _ _) fun revoked y _ hy _ => ?_
  rw [Tx.bind_eq, Tx.bind_assoc]
  refine hy.within_bind hV hX (clearOutboxEnvelopes_jobs _) fun _ z _ hz _ => ?_
  dsimp only
  rw [Tx.bind_eq, Tx.bind_assoc, insertRow, Tx.bind_eq, Tx.bind_assoc]
  refine hz.lockAll_bind hV fun u hu => ?_
  refine hu.writeIf_bind hV (P := True)
    (g := fun v => { v with credentials := new.id :: v.credentials }) (fun db => ?_)
    (fun db k hk => ?_) hX (fun _ _ _ => trivial) fun t _ ht => ?_
  · simp [jobViews, NewCredential.row]
  · simp [jobViews, NewCredential.row, hother hk]
  rw [insertRow, Tx.bind_eq, Tx.bind_assoc]
  refine ht.lockAll_bind hV fun u' hu' => ?_
  refine hu'.writeIf_bind hV (P := True) (g := fun v => { v with mails := new.mailId :: v.mails })
    (fun db => ?_) (fun db k hk => ?_) hX (fun _ _ _ => trivial) fun t' _ ht' => hf t' ht'
  · simp [jobViews, NewCredential.mail, Notifications.enqueueTokenMail]
  · simp [jobViews, NewCredential.mail, hother hk]

/-- What the last statement makes of the job. -/
def finishedJob (now : Timestamp) (status : JobStatus) (j : RecoveryRequestJob) :
    RecoveryRequestJob :=
  { j with
    status := status
    claimId := none
    emailCiphertext := none
    emailNonce := none
    keyVersion := none
    completedAt := some now }

/-- The request is ended in the commit that publishes what was issued for it. -/
theorem finish_follows {job : RecoveryRequestJob} {claimId : Uuid} {now : Timestamp}
    {status : JobStatus} (h : jobViews.Holds (identityEnvironment settings) job.id v w x)
    (hjob : job ∈ v.jobs) (hholds : holdsJob job.id claimId job = true) (hjobs : w.jobs = v.jobs)
    (hstatus : status = .completed ∨ status = .failed)
    (hissued : JobOk v → w.credentials.length ≤ 1 ∧ w.mails.length ≤ 1) :
    FollowsJobs settings (fun _ _ => True)
      (finishRecoveryRequestJob now job.id claimId status) x := by
  have hV : jobViews.Respected (identityEnvironment settings) := jobs_respected settings
  have hheld : job.status = .processing ∧ job.claimId = some claimId := by
    rw [holdsJob, Bool.and_eq_true, Bool.and_eq_true, beq_iff_eq, beq_iff_eq, beq_iff_eq] at hholds
    exact ⟨hholds.1.2, hholds.2⟩
  have hopen : ¬ job.isOver := RecoveryRequestJob.not_isOver (.inr hheld.1)
  have hp : ∀ r, holdsJob job.id claimId r =
      (r.id == job.id && (r.status == .processing && r.claimId == some claimId)) :=
    fun r => Bool.and_assoc _ _ _
  refine h.write_bind hV (g := fun u => { u with
      jobs := Table.update (fun r => r.status == .processing && r.claimId == some claimId)
        (finishedJob now status) u.jobs }) (fun _ db => ?_) (fun _ db k hk => ?_) fun y hy => ?_
  · have hrows := Table.rowsWith_update_own (f := finishedJob now status)
      (fun r : RecoveryRequestJob => (rfl : (finishedJob now status r).id = r.id)) hp db.jobs
    simp only [jobViews]
    exact congrArg (fun rows => (⟨rows, _, _⟩ : JobRows)) hrows
  · have hrows := Table.rowsWith_update_other (f := finishedJob now status)
      (fun r : RecoveryRequestJob => (rfl : (finishedJob now status r).id = r.id)) hp hk db.jobs
    simp only [jobViews]
    exact congrArg (fun rows => (⟨rows, _, _⟩ : JobRows)) hrows
  · refine followsJobs_commit hy (JobStep.of_open hjob hopen (finishedJob now status job)
      (fun hv => ?_) (fun _ => ⟨rfl, rfl, rfl⟩) fun hv => ?_)
    · show Table.update _ _ w.jobs = _
      rw [hjobs, (hv.of_open hjob hopen).1]
      simp [Table.update, hheld.1, hheld.2]
    · obtain ⟨hcredentials, hmails⟩ := hissued hv
      exact ⟨hcredentials, hmails, fun _ => hstatus⟩

theorem processNext_jobs (stage : RecoveryStage) (now : Timestamp) (locked : List Uuid)
    (claimId : Uuid) (new : NewCredential) (db : Store) :
    FollowsJobs settings (fun _ _ => True)
      (processNextRecoveryRequest settings stage now locked claimId new) (Point.start db) := by
  have hV : jobViews.Respected (identityEnvironment settings) := jobs_respected settings
  have hX : ∀ (_ : IdentityError) (_ : Point Store RowKey), True := fun _ _ => trivial
  have hpure : ∀ y, FollowsJobs settings (fun _ _ => True) (Tx.pure ()) y := fun y => by
    rw [FollowsJobs, Tx.Safe]
    trivial
  rw [processNextRecoveryRequest]
  split
  · refine (claim_jobs now locked claimId db).bind fun claimed y hy => ?_
    cases claimed with
    | none => exact hpure y
    | some jobId =>
      refine lockJob_bind hy (fun z _ => hpure z) fun job z hz hjob hholds => ?_
      have hid : job.id = jobId := by
        rw [holdsJob, Bool.and_assoc, Bool.and_eq_true, beq_iff_eq] at hholds
        exact hholds.1
      subst hid
      dsimp only
      split
      · exact finish_follows hz hjob hholds rfl (.inr rfl) fun hv => ⟨hv.credentials, hv.mails⟩
      · refine hz.within_bind hV hX (lockRow_within LockedViews.Same.refl _ _ _)
          fun account u _ hu _ => ?_
        refine hu.within_bind hV hX (passwordOf_jobs account) fun credential t _ ht _ => ?_
        cases eligible account credential with
        | none =>
          exact finish_follows ht hjob hholds rfl (.inl rfl) fun hv => ⟨hv.credentials, hv.mails⟩
        | some found =>
          refine issueFor_bind new found.1.id _ ht fun t' ht' => ?_
          refine finish_follows ht' hjob hholds rfl (.inl rfl) fun hv => ?_
          have hopen : ¬ job.isOver := by
            rw [holdsJob, Bool.and_eq_true, Bool.and_eq_true, beq_iff_eq, beq_iff_eq] at hholds
            exact RecoveryRequestJob.not_isOver (.inr hholds.1.2)
          obtain ⟨-, hcredentials, hmails⟩ := hv.of_open hjob hopen
          rw [hcredentials, hmails]
          exact ⟨le_rfl, le_rfl⟩
  · exact hpure _

/-- **Every call** changes the requests by steps. -/
theorem prog_jobs (settings : IdentitySettings) (call : Call) (db : Store) :
    FollowsJobs settings (fun _ _ => True) (prog settings call) (Point.start db) := by
  have hchanges : ∀ {t : Program Unit}, t.Changes jobViews.Same →
      FollowsJobs settings (fun _ _ => True) t (Point.start db) := fun ht =>
    (followsJobs_changes (LockedViews.clean_start db) ht).mono (fun _ _ _ => trivial) fun _ _ h => h
  cases call with
  | login => exact hchanges (login_jobs ..)
  | exchange => exact hchanges (exchange_jobs ..)
  | provisionAccount => exact hchanges (provisionAccount_jobs ..)
  | requestRecovery => exact requestRecovery_jobs ..
  | recoverStaleRecoveryRequestJobs => exact recoverStale_jobs ..
  | processNextRecoveryRequest => exact processNext_jobs ..

end Authentication

end Rulefolio
