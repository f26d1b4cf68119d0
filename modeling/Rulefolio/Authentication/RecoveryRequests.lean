import Rulefolio.Authentication.SingleUse

/-!
# A recovery request yields at most one mail

The claim of a request, the work on it and the reset of a stale claim are separate transactions, so
several workers can hold one request in turn, and any of them can stop anywhere. What decides is
the row of the request: the credential, the mail and the completion are committed together under
its lock, with the claim checked again. So whatever is issued for a request is issued by the commit
that ends it, and a request that has ended stays as it is.

## Main definitions

* `IsOver`, `Issues`, `AtMostOneMail`.

## Main results

* `over_stays` — along any run, a request that is over stays as it is.
* `recovery_request_yields_at_most_one`.
-/

namespace Rulefolio

namespace Authentication

open ReadCommitted

variable {settings : IdentitySettings} {c c' : Config Store RowKey IdentityError Unit Call}
  {j : Uuid}

/-- The request is completed or failed. -/
def IsOver (j : Uuid) (db : Store) : Prop :=
  ∃ job ∈ (jobViews.view j db).jobs, job.isOver

/-- A commit by which there is a credential or a mail for the request that was not there before. -/
def Issues (j : Uuid) (e : Commit Store Call) : Prop :=
  (∃ id ∈ (jobViews.view j e.after).credentials, id ∉ (jobViews.view j e.before).credentials) ∨
    ∃ id ∈ (jobViews.view j e.after).mails, id ∉ (jobViews.view j e.before).mails

/-- From the first store to the second, the requests that are over stay as they are. -/
def KeepsOver (db db' : Store) : Prop :=
  ∀ j, IsOver j db → jobViews.view j db' = jobViews.view j db

theorem KeepsOver.refl (db : Store) : KeepsOver db db := fun _ _ => rfl

theorem KeepsOver.trans {db db' db'' : Store} (h : KeepsOver db db') (h' : KeepsOver db' db'') :
    KeepsOver db db'' := by
  intro j hover
  have hfirst := h j hover
  have hover' : IsOver j db' := by
    rw [IsOver, hfirst]
    exact hover
  exact (h' j hover').trans hfirst

/-- Every commit of a reachable configuration keeps what is over, and leaves what it issues for a
request that is over. -/
theorem jobSteps (hc : (identitySystem settings).Reachable c) :
    ∀ e ∈ c.history, (∀ j, JobOk (jobViews.view j e.before)) ∧
      ∀ j, JobStep (jobViews.view j e.before) (jobViews.view j e.after) := by
  intro e he
  obtain ⟨hbefore, n, H, hG⟩ := (identity_sound hc).history e he
  exact ⟨hbefore.2, hG.2.step⟩

theorem keepsOver_of_commit (hc : (identitySystem settings).Reachable c) {e : Commit Store Call}
    (he : e ∈ c.history) : KeepsOver e.before e.after := by
  rintro j ⟨job, hjob, hover⟩
  obtain ⟨hok, hstep⟩ := jobSteps hc e he
  exact (hstep j).ended (hok j) job hjob hover

theorem Issues.isOver {e : Commit Store Call} (hok : JobOk (jobViews.view j e.after))
    (h : Issues j e) : IsOver j e.after := by
  refine hok.issued ?_
  rcases h with ⟨id, hid, -⟩ | ⟨id, hid, -⟩
  · exact .inl (List.ne_nil_of_mem hid)
  · exact .inr (List.ne_nil_of_mem hid)

theorem Issues.not_over {e : Commit Store Call} (hkeeps : KeepsOver e.before e.after)
    (h : Issues j e) : ¬ IsOver j e.before := by
  intro hover
  have hsame := hkeeps j hover
  rcases h with ⟨id, hid, hnew⟩ | ⟨id, hid, hnew⟩
  · rw [hsame] at hid
    exact hnew hid
  · rw [hsame] at hid
    exact hnew hid

/-- **A request that is over stays as it is**, with all that was issued for it, whatever the
workers do and wherever they stop. -/
theorem over_stays (hc : (identitySystem settings).Reachable c) {es : List (Event Call)}
    (hrun : (identitySystem settings).run c es = some c') : KeepsOver c.db c'.db := by
  have hinductive : (identitySystem settings).Inductive (identitySystem settings).Reachable :=
    ⟨fun s hs => .initial hs, fun s e s' hs hstep => hs.step hstep⟩
  refine hinductive.relates (R := fun c c' => KeepsOver c.db c'.db) (fun c => .refl c.db)
    (fun _ _ _ => KeepsOver.trans) (fun c e c' hc hstep => ?_) hc hrun
  show KeepsOver c.db c'.db
  rcases (takes_of_step hstep).db_eq with hsame | ⟨commit, hhistory, hbefore, hafter⟩
  · rw [hsame]
    exact .refl c.db
  · rw [← hbefore, ← hafter]
    refine keepsOver_of_commit (hc.step hstep) ?_
    rw [hhistory]
    exact List.mem_cons_self

/-- **Every recovery request yields at most one mail.** -/
structure AtMostOneMail (c : Config Store RowKey IdentityError Unit Call) : Prop where
  /-- There is at most one credential for a request, and at most one mail. -/
  credentials : ∀ j, (c.db.credentials.filter (·.issuedFor == some j)).length ≤ 1
  mails : ∀ j, (c.db.outbox.filter (·.issuedFor == some j)).length ≤ 1
  /-- No two commits issue something for the same request. -/
  issues : c.history.Pairwise fun e e' => ∀ j, ¬ (Issues j e ∧ Issues j e')
  /-- A request that is over holds nothing of the email. -/
  cleared : ∀ job ∈ c.db.jobs, job.isOver →
    job.emailCiphertext = none ∧ job.emailNonce = none ∧ job.keyVersion = none

theorem atMostOneMail (hc : (identitySystem settings).Reachable c) : AtMostOneMail c := by
  have hok := (identity_sound hc).inv.2
  obtain ⟨s₀, -, hlinked⟩ := (wellFormed_of_reachable hc).linked
  refine ⟨fun j => ?_, fun j => ?_, ?_, fun job hjob => ?_⟩
  · have h := (hok j).credentials
    simp only [jobViews, List.length_map] at h
    exact h
  · have h := (hok j).mails
    simp only [jobViews, List.length_map] at h
    exact h
  · have hpairs := hlinked.pairwise KeepsOver.refl (fun _ _ _ => KeepsOver.trans)
      fun e he => keepsOver_of_commit hc he
    refine hpairs.imp_of_mem ?_
    intro e e' he he' hkept j hboth
    obtain ⟨hbefore, hstep⟩ := jobSteps hc e' he'
    have hover : IsOver j e'.after := hboth.2.isOver ((hstep j).ok (hbefore j))
    have hover' : IsOver j e.before := by
      rw [IsOver, hkept j hover]
      exact hover
    exact hboth.1.not_over (keepsOver_of_commit hc he) hover'
  · exact (hok job.id).cleared job (Table.mem_rowsWith.2 ⟨hjob, rfl⟩)

/-- **Each recovery request yields at most one recovery mail**, and one that has ended stays as it
is, for good. -/
theorem recovery_request_yields_at_most_one (settings : IdentitySettings)
    {c c' : Config Store RowKey IdentityError Unit Call} {es : List (Event Call)}
    (hc : (identitySystem settings).Reachable c)
    (hrun : (identitySystem settings).run c es = some c') :
    AtMostOneMail c' ∧ ∀ j, IsOver j c.db → jobViews.view j c'.db = jobViews.view j c.db :=
  ⟨atMostOneMail (hc.run hrun), over_stays hc hrun⟩

/-- A worker claims the request of an account and is held up. -/
def heldUpWorker : List (Event Call) :=
  inTurn [(.provisionAccount "maker@example.org" 1 ⟨10, "a", 20, [], [], 100⟩, 14),
    (.activate "a" "one" [] ⟨30, "s", 101⟩ 102, 18),
    (.requestRecovery "maker@example.org" ⟨40, [], [], 103⟩, 7)] ++
  .call 1 (.processNextRecoveryRequest .opened 104 [] 50 ⟨11, "r", 21, [], [], 105⟩) ::
    advances 1 5

/-- Its claim is reset and a second worker ends the request. Then the first one goes on. -/
def secondWorker : List (Event Call) :=
  inTurn [(.recoverStaleRecoveryRequestJobs .opened 1000 [], 5),
    (.processNextRecoveryRequest .opened 1001 [] 51 ⟨12, "q", 22, [], [], 1002⟩, 23)]

theorem recovery_request_yields_at_most_one_heldUp :
    ∃ c c', (identitySystem plainSettings).run (.start .empty) heldUpWorker = some c ∧
      (identitySystem plainSettings).run c (secondWorker ++ advances 1 1) = some c' ∧
      c'.db.jobs.map (·.status) = [.completed] ∧
      (AtMostOneMail c' ∧ ∀ j, IsOver j c.db → jobViews.view j c'.db = jobViews.view j c.db) := by
  obtain ⟨c, hc, hrest⟩ := (Option.any_eq_true _ _).1
    (show ((identitySystem plainSettings).run (.start .empty) heldUpWorker).any (fun c =>
      ((identitySystem plainSettings).run c (secondWorker ++ advances 1 1)).any fun c' =>
        decide (c'.db.jobs.map (·.status) = [.completed])) = true by decide +kernel)
  obtain ⟨c', hc', hstatus⟩ := (Option.any_eq_true _ _).1 hrest
  have hinit : (identitySystem plainSettings).init (.start .empty) := init_start _ storeOk_empty
  exact ⟨c, c', hc, hc', of_decide_eq_true hstatus, recovery_request_yields_at_most_one
    plainSettings (TransitionSystem.Reachable.run (.initial hinit) hc) hc'⟩

end Authentication

end Rulefolio
