import Rulefolio.Playtests.Generations
import Rulefolio.Playtests.LinkedFeedback

/-!
# What a conclusion rests on

`save_retest_conclusion` looks at the session of the retest, at its result and at the evidence of
the issue, and at nothing of this ever again. What becomes of it is up to the other calls: a session
stays started, a result can be saved once more without the material, and a reference can be taken
from the issue. So the conclusion keeps its result in every run without the second, and its
evidence in every run in which the third leaves a reference to the session of the retest.

## Main definitions

* `IsCurrent` — the conclusion `_current_conclusion` finds.
* `ResultsRecorded`, `EvidenceKept` — what it rests on.
* `keepsResult`, `keepsEvidence` — the conditions on a call.

## Main results

* `results_recorded`, `evidence_kept`.
-/

namespace Rulefolio

namespace Issues

/-- The retest is the one whose conclusion the issue has. -/
structure IsCurrent (db : Database) (issue : Issue) (link : IssueRetestLink) : Prop where
  mem : link ∈ retests issue.id db
  generation : link.adjustmentGeneration = issue.adjustmentGeneration
  conclusion : link.conclusion.isSome

/-- A reference leads to an observation of the session, or to feedback submitted in it. -/
def comesFrom (sessionId : Uuid) (db : Database) (link : IssueEvidenceLink) : Bool :=
  (db.observations.any fun o => link.observationId == some o.id && o.sessionId == sessionId) ||
    db.feedbackSubmissions.any fun s => link.feedbackSubmissionId == some s.id &&
      s.status == .submitted && s.sessionId == sessionId

end Issues

namespace Playtests

open ReadCommitted Issues

variable {settings : Settings} {normalizeEmail : String → Option String}

/-! ## Saving a conclusion -/

/-- The tables a conclusion rests on, and those it is written to, are left alone. -/
structure Bystands (db db' : Database) : Prop where
  sessions : db'.sessions = db.sessions
  retestLinks : db'.retestLinks = db.retestLinks
  evidenceLinks : db'.evidenceLinks = db.evidenceLinks
  observations : db'.observations = db.observations
  submissions : db'.feedbackSubmissions = db.feedbackSubmissions

namespace Bystands

theorem refl (db : Database) : Bystands db db := ⟨rfl, rfl, rfl, rfl, rfl⟩

theorem trans (db db' db'' : Database) (h : Bystands db db') (h' : Bystands db' db'') :
    Bystands db db'' :=
  ⟨h'.sessions.trans h.sessions, h'.retestLinks.trans h.retestLinks,
    h'.evidenceLinks.trans h.evidenceLinks, h'.observations.trans h.observations,
    h'.submissions.trans h.submissions⟩

end Bystands

theorem frame_bystands : Frame Bystands fun _ => True := by
  intro db db' h
  cases h with
  | ended now todoId verdict => cases verdict <;> exact ⟨rfl, rfl, rfl, rfl, rfl⟩
  | _ => exact ⟨rfl, rfl, rfl, rfl, rfl⟩

/-- What `save_retest_conclusion` leaves of a database: a new conclusion, which rests on the result
of its session and on evidence from it, and no other new one. -/
structure ConcludesIn (db : Database) (issueId : Uuid) (conclusion : RetestConclusion)
    (db' : Database) : Prop where
  sessions : db'.sessions = db.sessions
  evidenceLinks : db'.evidenceLinks = db.evidenceLinks
  observations : db'.observations = db.observations
  submissions : db'.feedbackSubmissions = db.feedbackSubmissions
  concluded : ∀ l ∈ db'.retestLinks, l.conclusion.isSome → l ∈ db.retestLinks ∨
    l.issueId = issueId ∧ l.conclusion = some conclusion ∧
      (∃ s ∈ db.sessions, s.id = l.sessionId ∧ s.status = .started ∧
        s.actualMaterialRecorded = true) ∧
      (conclusion ≠ .insufficientEvidence →
        ∃ e ∈ db.evidenceLinks, e.issueId = issueId ∧ comesFrom l.sessionId db e = true)

section Leads

variable {α : Type} {R : Database → Prop} {Q : α → Database → Prop} {db w : Database}

/-- The frame rule, from the state in which the call began. -/
theorem Bystands.bind {β : Type} (h : Bystands db w) {P : β → Prop} {t : Program β}
    (ht : t.Within Bystands P) {f : β → Program α}
    (hf : ∀ b v, P b → Bystands db v → (f b).Leads R Q v) : (t.bind f).Leads R Q w :=
  ht.leads_bind Bystands.refl Bystands.trans fun b v hb hv => hf b v hb (h.trans _ _ _ hv)

theorem sourceSession_comesFrom {e : IssueEvidenceLink} {r : Evidence.IssueEvidenceReference}
    {n : Uuid} (hr : Issues.reference e = some r) (h : Evidence.sourceSession r w = some n) :
    comesFrom n w e = true := by
  cases r with
  | observation sourceId =>
    obtain ⟨o, ho, rfl⟩ := Option.map_eq_some_iff.1 h
    have hid := List.find?_some ho
    rw [beq_iff_eq] at hid
    have he : e.observationId = some o.id := by
      rw [Issues.reference] at hr
      split at hr <;> simp_all
    refine Bool.or_eq_true_iff.2 (.inl (List.any_eq_true.2 ⟨o, List.mem_of_find?_eq_some ho, ?_⟩))
    simp [he]
  | feedbackSubmission sourceId =>
    obtain ⟨s, hs, rfl⟩ := Option.map_eq_some_iff.1 h
    have hfound := List.find?_some hs
    rw [Bool.and_eq_true, beq_iff_eq] at hfound
    have he : e.feedbackSubmissionId = some s.id := by
      rw [Issues.reference] at hr
      split at hr <;> simp_all
    refine Bool.or_eq_true_iff.2 (.inr (List.any_eq_true.2 ⟨s, List.mem_of_find?_eq_some hs, ?_⟩))
    simp [he, hfound.2]

/-- Every reference of an issue stands in one of its links. -/
theorem exists_reference {links : List IssueEvidenceLink}
    {references : List Evidence.IssueEvidenceReference}
    (h : links.mapM reference = some references) {r : Evidence.IssueEvidenceReference}
    (hr : r ∈ references) : ∃ e ∈ links, reference e = some r := by
  induction links generalizing references with
  | nil =>
    rw [List.mapM_nil] at h
    cases h
    cases hr
  | cons e links ih =>
    rw [List.mapM_cons, Option.bind_eq_bind, Option.bind_eq_some_iff] at h
    obtain ⟨r₀, hr₀, h⟩ := h
    rw [Option.bind_eq_bind, Option.bind_eq_some_iff] at h
    obtain ⟨rest, hrest, h⟩ := h
    cases h
    rcases List.mem_cons.1 hr with rfl | hr
    · exact ⟨e, List.mem_cons_self, hr₀⟩
    · obtain ⟨e', he', href⟩ := ih hrest hr
      exact ⟨e', List.mem_cons_of_mem _ he', href⟩

/-- `has_issue_evidence_from_session`: what it returns. -/
theorem hasIssueEvidence_leads (n : Uuid) (references : List Evidence.IssueEvidenceReference) :
    (Evidence.hasIssueEvidenceFromSession n references : Program Bool).Leads R
      (fun found v => v = w ∧ (found = true →
        ∃ r ∈ references, Evidence.sourceSession r w = some n)) w := by
  induction references with
  | nil => exact Tx.Leads.pure ⟨rfl, fun h => by cases h⟩
  | cons reference rest ih =>
    rw [Evidence.hasIssueEvidenceFromSession]
    refine Tx.Leads.read_bind ?_
    split
    · rename_i hsource
      exact Tx.Leads.pure ⟨rfl, fun _ => ⟨reference, List.mem_cons_self, beq_iff_eq.1 hsource⟩⟩
    · refine ih.mono (fun _ h => h) fun found v hv => ⟨hv.1, fun hfound => ?_⟩
      obtain ⟨r, hr, hsource⟩ := hv.2 hfound
      exact ⟨r, List.mem_cons_of_mem _ hr, hsource⟩

/-- The `UPDATE` of links. -/
theorem writeLinks_leads (k : Uuid) (ids : List Uuid)
    (change : IssueRetestLink → IssueRetestLink) :
    (writeLinks k ids change).Leads R (fun _ v => v = { w with
      retestLinks := Table.update (fun l => ids.contains l.id) change w.retestLinks }) w := by
  rw [writeLinks]
  split
  · rename_i hempty
    refine Tx.Leads.pure ?_
    have hsame : Table.update (fun l => ids.contains l.id) change w.retestLinks =
        w.retestLinks := by
      rw [List.isEmpty_iff.1 hempty, Table.update]
      exact (List.map_congr_left fun l _ => by simp).trans (List.map_id _)
    rw [hsame]
  · rw [updateRow, ← Tx.bind_pure (Tx.writeIf _ _ _)]
    exact Tx.Leads.writeIf_bind fun _ => Tx.Leads.pure rfl

theorem Bystands.concludesIn (h : Bystands db w) (hids : (linkIds db).Nodup)
    {retest : IssueRetestLink} (hretest : retest ∈ db.retestLinks) {item : PlaytestSession}
    (hitem : item ∈ db.sessions) (hsession : item.id = retest.sessionId)
    (hstatus : item.status = .started) (hrecorded : item.actualMaterialRecorded = true)
    {conclusion : RetestConclusion}
    (hevidence : conclusion ≠ .insufficientEvidence →
      ∃ e ∈ db.evidenceLinks, e.issueId = retest.issueId ∧ comesFrom retest.sessionId db e = true)
    (reason : String) (cleared : List Uuid) (issues : List Issue) :
    ConcludesIn db retest.issueId conclusion { w with
      issues := issues
      retestLinks := Table.update (fun l => [retest.id].contains l.id)
        (fun l => { l with conclusion := some conclusion, conclusionReason := some reason })
        (Table.update (fun l => cleared.contains l.id) clearConclusion w.retestLinks) } := by
  refine ⟨h.sessions, h.evidenceLinks, h.observations, h.submissions, fun l hl hconclusion => ?_⟩
  -- A row that was cleared on the way has the key, issue and session it had.
  have hbefore : ∀ l₁ ∈ Table.update (fun l => cleared.contains l.id) clearConclusion w.retestLinks,
      ∃ l₀ ∈ db.retestLinks, l₀.id = l₁.id ∧ l₀.issueId = l₁.issueId ∧
        l₀.sessionId = l₁.sessionId ∧ (l₁.conclusion.isSome → l₁ = l₀) := by
    intro l₁ hl₁
    rw [h.retestLinks] at hl₁
    rcases Table.mem_update.1 hl₁ with ⟨l₀, hl₀, -, rfl⟩ | ⟨hl₀, -⟩
    · exact ⟨l₀, hl₀, rfl, rfl, rfl, fun h => by cases h⟩
    · exact ⟨l₁, hl₀, rfl, rfl, rfl, fun _ => rfl⟩
  rcases Table.mem_update.1 hl with ⟨l₁, hl₁, hid, rfl⟩ | ⟨hl₁, -⟩
  · obtain ⟨l₀, hl₀, hid₀, hissue₀, hsession₀, -⟩ := hbefore l₁ hl₁
    have hid₁ : l₁.id = retest.id := by simpa using hid
    obtain rfl := List.inj_on_of_nodup_map hids hl₀ hretest (hid₀.trans hid₁)
    refine .inr ⟨hissue₀.symm, rfl, ⟨item, hitem, hsession.trans hsession₀, hstatus, hrecorded⟩, ?_⟩
    rw [hsession₀] at hevidence
    exact hevidence
  · obtain ⟨l₀, hl₀, -, -, -, hsame⟩ := hbefore l hl₁
    exact .inl (hsame hconclusion ▸ hl₀)

/-- **What `save_retest_conclusion` leaves behind.** -/
theorem saveRetestConclusion_leads (hids : (linkIds db).Nodup)
    (actorId workspaceId workId issueId retestId : Uuid) (conclusion : RetestConclusion)
    (reason : String) (status : IssueStatus) (expectedRevision : ℤ) :
    (saveRetestConclusion actorId workspaceId workId issueId retestId conclusion reason status
      expectedRevision).Leads (ConcludesIn db issueId conclusion) (fun _ _ => True) db := by
  rw [saveRetestConclusion]
  simp -zeta only [Tx.bind_eq, Tx.pure_eq]
  refine Tx.Leads.mapError ?_
  refine (Bystands.refl db).bind (keeps_require _ _) fun reason v _ hv => ?_
  refine hv.bind (keeps_ensure _ _) fun _ v _ hv => ?_
  refine hv.bind (keeps_requireIssueManagement frame_bystands _ _ _) fun _ v _ hv => ?_
  refine hv.bind (loadIssue_within frame_bystands _) fun issue v hid hv => ?_
  subst hid
  refine hv.bind (keeps_ensure _ _) fun _ v _ hv => ?_
  refine Tx.Leads.selectForUpdate_bind ?_
  refine Tx.Leads.require_bind fun retest hretest => ?_
  have hfound := List.find?_some hretest
  simp only [Bool.and_eq_true, beq_iff_eq] at hfound
  have hretest := List.mem_of_find?_eq_some hretest
  rw [hv.retestLinks] at hretest
  refine Tx.Leads.ensure_bind fun _ => Tx.Leads.read_bind ?_
  refine Tx.Leads.require_bind fun item hitem => ?_
  have hitemFound := List.find?_some hitem
  simp only [Bool.and_eq_true, beq_iff_eq] at hitemFound
  have hitem := List.mem_of_find?_eq_some hitem
  rw [hv.sessions] at hitem
  refine Tx.Leads.ensure_bind fun hresult => ?_
  rw [Bool.and_eq_true, beq_iff_eq] at hresult
  extract_lets change rest
  have hrest : (conclusion ≠ .insufficientEvidence → ∃ e ∈ db.evidenceLinks,
      e.issueId = retest.issueId ∧ comesFrom retest.sessionId db e = true) →
      ∀ v, Bystands db v → (rest ()).Leads (ConcludesIn db issue.id conclusion)
        (fun _ _ => True) v := by
    intro hevidence v hv
    refine Tx.Leads.selectAllForUpdate_bind ?_
    refine (writeLinks_leads _ _ _).bind fun _ u hu => ?_
    subst hu
    refine Tx.Leads.writeIf_bind fun _ => ?_
    refine (writeLinks_leads _ _ _).bind fun _ u hu => ?_
    subst hu
    refine Tx.Leads.commitNow_bind ?_ ?_
    · rw [← hfound.2]
      exact hv.concludesIn hids hretest hitem hitemFound.1.1 hresult.1 hresult.2 hevidence _ _ _
    · exact (((keeps_currentConclusion frame_bystands _).bind fun _ => keeps_pure _).leads
        Bystands.refl Bystands.trans).mono (fun _ h => h) fun _ _ _ => trivial
  split
  · refine Tx.Leads.bind (P := fun references u => u = v ∧ ∀ r ∈ references,
        ∃ e ∈ v.evidenceLinks, e.issueId = issue.id ∧ reference e = some r) ?_
      fun references u hu => ?_
    · refine Tx.Leads.read_bind ?_
      rw [← Tx.bind_pure (Tx.require _ _)]
      refine Tx.Leads.require_bind fun references hreferences => Tx.Leads.pure ⟨rfl, fun r hr => ?_⟩
      obtain ⟨e, he, href⟩ := exists_reference hreferences hr
      rw [List.mem_filter, beq_iff_eq] at he
      exact ⟨e, he.1, he.2, href⟩
    obtain ⟨rfl, hreferences⟩ := hu
    refine Tx.Leads.bind (hasIssueEvidence_leads _ _) fun found u hu => ?_
    obtain ⟨rfl, hfoundSource⟩ := hu
    refine Tx.Leads.ensure_bind fun hsome => hrest (fun _ => ?_) _ hv
    obtain ⟨r, hr, hsource⟩ := hfoundSource hsome
    obtain ⟨e, he, hissue, href⟩ := hreferences r hr
    refine ⟨e, hv.evidenceLinks ▸ he, hissue.trans hfound.2.symm, ?_⟩
    have hcomes := sourceSession_comesFrom href hsource
    rw [comesFrom, hv.observations, hv.submissions, hitemFound.1.1] at hcomes
    exact hcomes
  · rename_i hnot
    exact hrest (fun h => absurd h hnot) _ hv

end Leads

/-! ## The other calls -/

/-- What a call does to that on which a conclusion rests. -/
structure Preserves (call : Call) (db db' : Database) : Prop where
  concluded : call.concludes = false → ∀ l ∈ db'.retestLinks, l.conclusion.isSome →
    ∃ l₀ ∈ db.retestLinks, l₀.issueId = l.issueId ∧ l₀.sessionId = l.sessionId ∧
      l₀.conclusion = l.conclusion
  recorded : ∀ n, call.records ≠ some (n, false) →
    (∃ s ∈ db.sessions, s.id = n ∧ s.actualMaterialRecorded = true) →
    ∃ s ∈ db'.sessions, s.id = n ∧ s.actualMaterialRecorded = true
  evidence : ∀ e ∈ db.evidenceLinks, call.unlinks ≠ some e.id → e ∈ db'.evidenceLinks
  observations : ∀ o ∈ db.observations, ∃ o' ∈ db'.observations, o'.id = o.id ∧
    o'.sessionId = o.sessionId
  submissions : ∀ s ∈ db.feedbackSubmissions, ∃ s' ∈ db'.feedbackSubmissions, s'.id = s.id ∧
    s'.sessionId = s.sessionId

namespace Preserves

variable {call : Call}

theorem refl (db : Database) : Preserves call db db where
  concluded _ l hl _ := ⟨l, hl, rfl, rfl, rfl⟩
  recorded _ _ h := h
  evidence _ he _ := he
  observations o ho := ⟨o, ho, rfl, rfl⟩
  submissions s hs := ⟨s, hs, rfl, rfl⟩

theorem trans (db db' db'' : Database) (h : Preserves call db db')
    (h' : Preserves call db' db'') : Preserves call db db'' where
  concluded hcall l hl hc := by
    obtain ⟨l', hl', hi', hs', hc'⟩ := h'.concluded hcall l hl hc
    obtain ⟨l₀, hl₀, hi₀, hs₀, hc₀⟩ := h.concluded hcall l' hl' (hc' ▸ hc)
    exact ⟨l₀, hl₀, hi₀.trans hi', hs₀.trans hs', hc₀.trans hc'⟩
  recorded n hn hs := h'.recorded n hn (h.recorded n hn hs)
  evidence e he hn := h'.evidence e (h.evidence e he hn) hn
  observations o ho := by
    obtain ⟨o₁, ho₁, hid₁, hs₁⟩ := h.observations o ho
    obtain ⟨o₂, ho₂, hid₂, hs₂⟩ := h'.observations o₁ ho₁
    exact ⟨o₂, ho₂, hid₂.trans hid₁, hs₂.trans hs₁⟩
  submissions s hs := by
    obtain ⟨s₁, hs₁, hid₁, hn₁⟩ := h.submissions s hs
    obtain ⟨s₂, hs₂, hid₂, hn₂⟩ := h'.submissions s₁ hs₁
    exact ⟨s₂, hs₂, hid₂.trans hid₁, hn₂.trans hn₁⟩

theorem of_bystands {db db' : Database} (h : Bystands db db') : Preserves call db db' where
  concluded _ l hl _ := ⟨l, h.retestLinks ▸ hl, rfl, rfl, rfl⟩
  recorded _ _ hs := h.sessions ▸ hs
  evidence _ he _ := h.evidenceLinks ▸ he
  observations o ho := ⟨o, h.observations ▸ ho, rfl, rfl⟩
  submissions s hs := ⟨s, h.submissions ▸ hs, rfl, rfl⟩

/-- A change of sessions. -/
theorem of_sessions {db : Database} {sessions : List PlaytestSession}
    (h : ∀ n, call.records ≠ some (n, false) →
      (∃ s ∈ db.sessions, s.id = n ∧ s.actualMaterialRecorded = true) →
      ∃ s ∈ sessions, s.id = n ∧ s.actualMaterialRecorded = true) :
    Preserves call db { db with sessions := sessions } :=
  { (refl db : Preserves call db db) with recorded := h }

/-- An edit that leaves alone what was recorded, of whatever sessions. -/
theorem of_edit {db : Database} (p : PlaytestSession → Bool)
    {change : PlaytestSession → PlaytestSession}
    (h : ∀ s, (change s).id = s.id ∧
      ((change s).actualMaterialRecorded = true ∨
        (change s).actualMaterialRecorded = s.actualMaterialRecorded ∨
          ∃ n, call.records = some (n, false) ∧ p s = (s.id == n))) :
    Preserves call db { db with sessions := Table.update p change db.sessions } := by
  refine of_sessions ?_
  rintro _ hn ⟨s, hs, rfl, hrecorded⟩
  by_cases hp : p s = true
  · refine ⟨change s, Table.mem_update.2 (.inl ⟨s, hs, hp, rfl⟩), (h s).1, ?_⟩
    rcases (h s).2 with htrue | hsame | ⟨n, hrecords, hpn⟩
    · exact htrue
    · exact hsame.trans hrecorded
    · rw [hpn, beq_iff_eq] at hp
      exact absurd (hp ▸ hrecords) hn
  · exact ⟨s, Table.mem_update.2 (.inr ⟨hs, by simpa using hp⟩), rfl, hrecorded⟩

/-- A change of retests that makes no conclusion. -/
theorem of_links {db : Database} {links : List IssueRetestLink}
    (h : call.concludes = false → ∀ l ∈ links, l.conclusion.isSome → l ∈ db.retestLinks) :
    Preserves call db { db with retestLinks := links } :=
  { (refl db : Preserves call db db) with
    concluded := fun hcall l hl hc => ⟨l, h hcall l hl hc, rfl, rfl, rfl⟩ }

end Preserves

theorem bystands_of_aside {K : TodoKind → Prop} {db db' : Database} (h : Aside K db db') :
    Bystands db db' := by
  cases h with
  | ended now todoId verdict => cases verdict <;> exact ⟨rfl, rfl, rfl, rfl, rfl⟩
  | _ => exact ⟨rfl, rfl, rfl, rfl, rfl⟩

theorem Change.preserves {call : Call} {db db' : Database} (h : Change call db db') :
    Preserves call db db' := by
  cases h with
  | aside h => exact .of_bystands (bystands_of_aside h)
  | sessionCreated s hstatus =>
    refine .of_sessions ?_
    rintro n - ⟨t, ht, hid, hrecorded⟩
    exact ⟨t, List.mem_cons_of_mem _ ht, hid, hrecorded⟩
  | sessionEdited n change h => exact .of_edit _ fun s => ⟨(h s).1, .inr (.inl (h s).2.2.2)⟩
  | sessionStarted => exact .of_edit _ fun s => ⟨rfl, .inr (.inl rfl)⟩
  | sessionCancelled => exact .of_edit _ fun s => ⟨rfl, .inr (.inl rfl)⟩
  | resultRecorded n draft hcall revision =>
    refine .of_edit _ fun s => ⟨rfl, ?_⟩
    cases hmaterial : draft.actualMaterial.isSome with
    | true => exact .inl hmaterial
    | false => exact .inr (.inr ⟨n, hmaterial ▸ hcall, rfl⟩)
  | observed o =>
    exact { (Preserves.refl db : Preserves call db db) with
      observations := fun o ho => ⟨o, List.mem_cons_of_mem _ ho, rfl, rfl⟩ }
  | observationEdited p change h =>
    refine { (Preserves.refl db : Preserves call db db) with observations := fun o ho => ?_ }
    by_cases hp : p o = true
    · exact ⟨change o, Table.mem_update.2 (.inl ⟨o, ho, hp, rfl⟩), (h o).1, (h o).2⟩
    · exact ⟨o, Table.mem_update.2 (.inr ⟨ho, by simpa using hp⟩), rfl, rfl⟩
  | submissionCreated _ s =>
    exact { (Preserves.refl db : Preserves call db db) with
      submissions := fun s hs => ⟨s, List.mem_cons_of_mem _ hs, rfl, rfl⟩ }
  | submissionRewritten _ id change h =>
    refine { (Preserves.refl db : Preserves call db db) with submissions := fun s hs => ?_ }
    by_cases hid : (s.id == id) = true
    · exact ⟨change s, Table.mem_update.2 (.inl ⟨s, hs, hid, rfl⟩), (h s).1, (h s).2⟩
    · exact ⟨s, Table.mem_update.2 (.inr ⟨hs, by simpa using hid⟩), rfl, rfl⟩
  | retestBound _ link hconclusion =>
    refine .of_links fun _ l hl hc => ?_
    rcases List.mem_cons.1 hl with rfl | hl
    · rw [hconclusion] at hc
      cases hc
    · exact hl
  | conclusionsCleared _ p =>
    refine .of_links fun _ l hl hc => ?_
    rcases Table.mem_update.1 hl with ⟨l₀, -, -, rfl⟩ | ⟨hl, -⟩
    · cases hc
    · exact hl
  | concluded hcall p change h => exact .of_links fun hnot => by rw [hcall] at hnot; cases hnot
  | linked _ link =>
    exact { (Preserves.refl db : Preserves call db db) with
      evidence := fun e he _ => List.mem_cons_of_mem _ he }
  | unlinked linkId hcall =>
    refine { (Preserves.refl db : Preserves call db db) with evidence := fun e he hne => ?_ }
    refine Table.mem_delete.2 ⟨he, beq_false_of_ne fun hid => hne ?_⟩
    rw [hcall, hid]
  | _ => exact .of_bystands ⟨rfl, rfl, rfl, rfl, rfl⟩

theorem preserves_exec (call : Call) (db : Database) :
    Preserves call db ((call.program settings normalizeEmail).exec db).1 :=
  ((Call.changes settings normalizeEmail call).mono fun _ _ h => h.preserves).exec Preserves.refl
    Preserves.trans db

variable {db : Database}

theorem linkIds_nodup (h : (sequentially settings normalizeEmail).Reachable db) :
    (linkIds db).Nodup := by
  obtain ⟨c, hc, rfl⟩ := interleaved_of_sequentially h
  exact (retests_of_reachable hc).ids

theorem linksSubmitted_of_sequentially (h : (sequentially settings normalizeEmail).Reachable db) :
    LinksSubmitted db := by
  obtain ⟨c, hc, rfl⟩ := interleaved_of_sequentially h
  exact linksSubmitted_of_reachable hc

/-- What `save_retest_conclusion` leaves, or what there was. -/
theorem concludes_exec (hids : (linkIds db).Nodup)
    (actorId workspaceId workId issueId retestId : Uuid) (conclusion : RetestConclusion)
    (reason : String) (status : IssueStatus) (expectedRevision : ℤ) :
    (((Call.saveRetestConclusion actorId workspaceId workId issueId retestId conclusion reason
        status expectedRevision).program settings normalizeEmail).exec db).1 = db ∨
      ConcludesIn db issueId conclusion (((Call.saveRetestConclusion actorId workspaceId workId
        issueId retestId conclusion reason status expectedRevision).program settings
          normalizeEmail).exec db).1 :=
  (saveRetestConclusion_leads hids _ _ _ _ _ _ _ _ _).exec

/-! ## The recorded result -/

/-- The retest of a conclusion was started, and what was played with is recorded. -/
def HasResult (db : Database) (link : IssueRetestLink) : Prop :=
  ∃ s ∈ db.sessions, s.id = link.sessionId ∧ s.status = .started ∧
    s.actualMaterialRecorded = true

/-- The conclusion every issue has keeps its result. -/
def ResultsRecorded (db : Database) : Prop :=
  ∀ issue ∈ db.issues, ∀ link, IsCurrent db issue link → HasResult db link

/-- The call does not save a result without the material of a session that was concluded upon. -/
def keepsResult (db : Database) : Call → Bool
  | .saveResult _ _ _ sessionId _ draft => draft.actualMaterial.isSome ||
    !db.retestLinks.any fun l => l.sessionId == sessionId && l.conclusion.isSome
  | _ => true

theorem records_of_keepsResult {call : Call} (h : keepsResult db call = true)
    {link : IssueRetestLink} (hlink : link ∈ db.retestLinks) (hc : link.conclusion.isSome) :
    call.records ≠ some (link.sessionId, false) := by
  intro hrecords
  cases call with
  | saveResult _ _ _ sessionId _ draft =>
    simp only [Call.records, Option.some.injEq, Prod.mk.injEq] at hrecords
    rw [keepsResult, hrecords.2, Bool.false_or, Bool.not_eq_true', List.any_eq_false] at h
    exact h link hlink (by simp [hrecords.1, hc])
  | _ => cases hrecords

theorem hasResult_exec {call : Call} (hdb : WellFormed db) {link : IssueRetestLink}
    (hrecords : call.records ≠ some (link.sessionId, false)) (h : HasResult db link) :
    HasResult ((call.program settings normalizeEmail).exec db).1 link := by
  obtain ⟨s, hs, hid, hstatus, hrecorded⟩ := h
  obtain ⟨s', hs', hid', hrecorded'⟩ :=
    (@preserves_exec settings normalizeEmail call db).recorded _ hrecords ⟨s, hs, hid, hrecorded⟩
  have hrows : (db.record link.sessionId).rows = [s] := by
    obtain ⟨t, ht⟩ := List.length_eq_one_iff.1 (le_antisymm (hdb.session link.sessionId).unique
      (List.length_pos_of_mem (List.mem_filter.2 ⟨hs, beq_iff_eq.2 hid⟩)))
    have hmem : s ∈ (db.record link.sessionId).rows := List.mem_filter.2 ⟨hs, beq_iff_eq.2 hid⟩
    rw [ht, List.mem_singleton] at hmem
    rw [ht, hmem]
  obtain ⟨t, ht, htstatus⟩ :=
    @started_of_exec settings normalizeEmail _ hdb call _ ⟨s, hrows, hstatus⟩
  have hmem : s' ∈ (((call.program settings normalizeEmail).exec db).1.record
      link.sessionId).rows := List.mem_filter.2 ⟨hs', beq_iff_eq.2 hid'⟩
  rw [ht, List.mem_singleton] at hmem
  exact ⟨s', hs', hid', hmem ▸ htstatus, hrecorded'⟩

/-- **A conclusion keeps its result** in every run in which no result is saved without the material
of a session that was concluded upon. -/
theorem results_recorded
    (h : ((sequentially settings normalizeEmail).restrict keepsResult).Reachable db) :
    ResultsRecorded db := by
  suffices H : ∀ link ∈ db.retestLinks, link.conclusion.isSome → HasResult db link by
    intro issue _ link hlink
    exact H link (List.mem_filter.1 hlink.mem).1 hlink.conclusion
  refine restricted_induction (I := fun db => ∀ link ∈ db.retestLinks, link.conclusion.isSome →
    HasResult db link) (fun link hlink => by cases hlink) (fun db call hdb hok hI => ?_) h
  have hkept : ∀ link ∈ db.retestLinks, link.conclusion.isSome →
      HasResult ((call.program settings normalizeEmail).exec db).1 link := fun link hlink hc =>
    hasResult_exec (wellFormed_of_sequentially hdb) (records_of_keepsResult hok hlink hc)
      (hI link hlink hc)
  by_cases hconcludes : call.concludes = false
  · intro link hlink hc
    obtain ⟨l₀, hl₀, -, hsession, hconclusion⟩ :=
      (preserves_exec call db).concluded hconcludes link hlink hc
    have hresult := hkept l₀ hl₀ (hconclusion ▸ hc)
    rwa [HasResult, hsession] at hresult
  · cases call <;> simp only [Call.concludes, not_true_eq_false] at hconcludes
    rcases concludes_exec (linkIds_nodup hdb) _ _ _ _ _ _ _ _ _ with hsame | hconcludes
    · rw [hsame]
      exact hI
    · intro link hlink hc
      rcases hconcludes.concluded link hlink hc with hold | ⟨-, -, hresult, -⟩
      · exact hkept link hold hc
      · rwa [HasResult, hconcludes.sessions]

/-- The result is saved once more, without the material. -/
def resultWithdrawn : List Call :=
  retestConcluded ++
    [.saveResult 1 10 20 retestSession 4 ⟨some 0, none, none, none, [], none⟩]

theorem resultWithdrawn_runs :
    ((sequentially .withoutCipher some).run .empty resultWithdrawn).any fun db =>
      db.issues.map (fun i => (i.id, i.adjustmentGeneration)) = [(slowIssue, 1)] ∧
        db.retestLinks.map (fun l => (l.issueId, l.sessionId, l.adjustmentGeneration,
          l.conclusion)) = [(slowIssue, retestSession, 1, some .verified)] ∧
        db.sessions.all fun s => s.id != retestSession || !s.actualMaterialRecorded := by
  decide +kernel

/-- The conclusion stays, and its result is gone. -/
theorem result_withdrawn :
    ∃ db, (sequentially .withoutCipher some).Reachable db ∧ ¬ResultsRecorded db := by
  obtain ⟨db, hdb, hfacts⟩ := reachable_of_runs resultWithdrawn_runs
  simp only [decide_eq_true_eq] at hfacts
  obtain ⟨hissues, hlinks, hsessions⟩ := hfacts
  obtain ⟨issue, hissue, hi⟩ := List.mem_map.1 (hissues ▸ List.mem_singleton_self _)
  obtain ⟨l, hl, hlink⟩ := List.mem_map.1 (hlinks ▸ List.mem_singleton_self _)
  simp only [Prod.mk.injEq] at hi hlink
  obtain ⟨hlissue, hlsession, hlgeneration, hlconclusion⟩ := hlink
  refine ⟨db, hdb, fun h => ?_⟩
  have hcurrent : IsCurrent db issue l := by
    refine ⟨List.mem_filter.2 ⟨hl, ?_⟩, ?_, ?_⟩
    · rw [hlissue, hi.1, beq_self_eq_true]
    · rw [hlgeneration, hi.2]
    · rw [hlconclusion]
      rfl
  obtain ⟨s, hs, hid, -, hrecorded⟩ := h issue hissue l hcurrent
  have hnot := List.all_eq_true.1 hsessions s hs
  simp [hid, hlsession, hrecorded] at hnot

theorem retestConcluded_keepsResult :
    (((sequentially .withoutCipher some).restrict keepsResult).run .empty retestConcluded).any
      fun db => db.retestLinks.map (·.conclusion) = [some .verified] := by
  decide +kernel

/-- The theorem on the run that ends with a conclusion. -/
theorem results_recorded_concluded :
    ∃ db, ((sequentially .withoutCipher some).restrict keepsResult).Reachable db ∧
      db.retestLinks.map (·.conclusion) = [some .verified] ∧ ResultsRecorded db := by
  obtain ⟨db, hdb, hfacts⟩ := (Option.any_eq_true _ _).1 retestConcluded_keepsResult
  have hreach : ((sequentially .withoutCipher some).restrict keepsResult).Reachable db :=
    ⟨.empty, retestConcluded, rfl, hdb⟩
  exact ⟨db, hreach, by simpa using hfacts, results_recorded hreach⟩

/-! ## The evidence -/

/-- The issue refers to something from the session of the retest. -/
def HasEvidence (db : Database) (link : IssueRetestLink) : Prop :=
  ∃ e ∈ db.evidenceLinks, e.issueId = link.issueId ∧ comesFrom link.sessionId db e = true

/-- A conclusion that needs evidence. -/
def restsOnEvidence (link : IssueRetestLink) : Bool :=
  link.conclusion.isSome && link.conclusion != some .insufficientEvidence

/-- The conclusion every issue has keeps its evidence. -/
def EvidenceKept (db : Database) : Prop :=
  ∀ issue ∈ db.issues, ∀ link, IsCurrent db issue link →
    link.conclusion ≠ some .insufficientEvidence → HasEvidence db link

/-- The call does not take away the last reference to the session of a conclusion. -/
def keepsEvidence (db : Database) : Call → Bool
  | .removeIssueEvidence _ _ _ _ linkId _ => db.retestLinks.all fun l => !restsOnEvidence l ||
    db.evidenceLinks.any fun e => e.issueId == l.issueId && e.id != linkId &&
      comesFrom l.sessionId db e
  | _ => true

theorem unlinks_of_keepsEvidence {call : Call} (h : keepsEvidence db call = true)
    {link : IssueRetestLink} (hlink : link ∈ db.retestLinks) (hrests : restsOnEvidence link = true)
    (hevidence : HasEvidence db link) :
    ∃ e ∈ db.evidenceLinks, call.unlinks ≠ some e.id ∧ e.issueId = link.issueId ∧
      comesFrom link.sessionId db e = true := by
  cases call with
  | removeIssueEvidence _ _ _ _ linkId _ =>
    have hlink := List.all_eq_true.1 h link hlink
    rw [hrests, Bool.not_true, Bool.false_or, List.any_eq_true] at hlink
    obtain ⟨e, he, hkept⟩ := hlink
    simp only [Bool.and_eq_true, beq_iff_eq, bne_iff_ne] at hkept
    refine ⟨e, he, fun hid => hkept.1.2 ?_, hkept.1.1, hkept.2⟩
    exact (Option.some.inj hid).symm
  | _ =>
    obtain ⟨e, he, hissue, hcomes⟩ := hevidence
    exact ⟨e, he, nofun, hissue, hcomes⟩

/-- Where a reference leads to does not change. Feedback stays submitted because it is linked. -/
theorem Preserves.comesFrom {call : Call} {db' : Database} (h : Preserves call db db')
    (hdb' : LinksSubmitted db') {e : IssueEvidenceLink} (he : e ∈ db'.evidenceLinks) {n : Uuid}
    (hcomes : comesFrom n db e = true) : comesFrom n db' e = true := by
  rw [Issues.comesFrom, Bool.or_eq_true, List.any_eq_true, List.any_eq_true] at hcomes ⊢
  rcases hcomes with ⟨o, ho, hfrom⟩ | ⟨s, hs, hfrom⟩
  · simp only [Bool.and_eq_true, beq_iff_eq] at hfrom
    obtain ⟨o', ho', hid, hsession⟩ := h.observations o ho
    exact .inl ⟨o', ho', by simp [hfrom.1, hfrom.2, hid, hsession]⟩
  · simp only [Bool.and_eq_true, beq_iff_eq] at hfrom
    obtain ⟨s', hs', hid, hsession⟩ := h.submissions s hs
    have hlinked : Linked s'.id db' := ⟨e, he, by rw [hfrom.1.1, hid]⟩
    exact .inr ⟨s', hs', by simp [hfrom.1.1, hfrom.2, hid, hsession, hdb'.status hs' hlinked]⟩

/-- **A conclusion keeps its evidence** in every run in which the last reference to its session is
not taken away. -/
theorem evidence_kept
    (h : ((sequentially settings normalizeEmail).restrict keepsEvidence).Reachable db) :
    EvidenceKept db := by
  suffices H : ∀ link ∈ db.retestLinks, restsOnEvidence link = true → HasEvidence db link by
    intro issue _ link hlink hneeds
    refine H link (List.mem_filter.1 hlink.mem).1 ?_
    rw [restsOnEvidence, hlink.conclusion, Bool.true_and, bne_iff_ne]
    exact hneeds
  refine restricted_induction (I := fun db => ∀ link ∈ db.retestLinks, restsOnEvidence link = true →
    HasEvidence db link) (fun link hlink => by cases hlink) (fun db call hdb hok hI => ?_) h
  have hpreserves := @preserves_exec settings normalizeEmail call db
  have hdb' : LinksSubmitted ((call.program settings normalizeEmail).exec db).1 :=
    linksSubmitted_of_sequentially (hdb.step (e := call) rfl)
  have hkept : ∀ link ∈ db.retestLinks, restsOnEvidence link = true →
      HasEvidence ((call.program settings normalizeEmail).exec db).1 link := by
    intro link hlink hrests
    obtain ⟨e, he, hunlinks, hissue, hcomes⟩ :=
      unlinks_of_keepsEvidence hok hlink hrests (hI link hlink hrests)
    have he' := hpreserves.evidence e he hunlinks
    exact ⟨e, he', hissue, hpreserves.comesFrom hdb' he' hcomes⟩
  intro link hlink hrests
  have hc : link.conclusion.isSome := (Bool.and_eq_true_iff.1 hrests).1
  by_cases hconcludes : call.concludes = false
  · obtain ⟨l₀, hl₀, hissue, hsession, hconclusion⟩ :=
      hpreserves.concluded hconcludes link hlink hc
    have hevidence := hkept l₀ hl₀ (by rwa [restsOnEvidence, hconclusion])
    rwa [HasEvidence, hissue, hsession] at hevidence
  · cases call <;> simp only [Call.concludes, not_true_eq_false] at hconcludes
    rcases concludes_exec (linkIds_nodup hdb) _ _ _ _ _ _ _ _ _ with hsame | hconcludes
    · rw [hsame] at hlink ⊢
      exact hI link hlink hrests
    · rcases hconcludes.concluded link hlink hc with hold | ⟨hissue, hconclusion, -, hevidence⟩
      · exact hkept link hold hrests
      · rw [restsOnEvidence, hconclusion, Option.isSome_some, Bool.true_and, bne_iff_ne] at hrests
        obtain ⟨e, he, hlissue, hcomes⟩ := hevidence fun hnone => hrests (congrArg some hnone)
        refine ⟨e, hconcludes.evidenceLinks ▸ he, hlissue.trans hissue.symm, ?_⟩
        rwa [Issues.comesFrom, hconcludes.observations, hconcludes.submissions]

/-- The reference to the session of the retest is taken away. -/
def evidenceWithdrawn : List Call :=
  retestConcluded ++ [.removeIssueEvidence 1 10 20 slowIssue 700001 5]

theorem evidenceWithdrawn_runs :
    ((sequentially .withoutCipher some).run .empty evidenceWithdrawn).any fun db =>
      db.issues.map (fun i => (i.id, i.adjustmentGeneration)) = [(slowIssue, 1)] ∧
        db.retestLinks.map (fun l => (l.issueId, l.sessionId, l.adjustmentGeneration,
          l.conclusion)) = [(slowIssue, retestSession, 1, some .verified)] ∧
        db.evidenceLinks.all fun e => !comesFrom retestSession db e := by
  decide +kernel

/-- The conclusion stays, and its evidence is gone. -/
theorem evidence_withdrawn :
    ∃ db, (sequentially .withoutCipher some).Reachable db ∧ ¬EvidenceKept db := by
  obtain ⟨db, hdb, hfacts⟩ := reachable_of_runs evidenceWithdrawn_runs
  simp only [decide_eq_true_eq] at hfacts
  obtain ⟨hissues, hlinks, hevidence⟩ := hfacts
  obtain ⟨issue, hissue, hi⟩ := List.mem_map.1 (hissues ▸ List.mem_singleton_self _)
  obtain ⟨l, hl, hlink⟩ := List.mem_map.1 (hlinks ▸ List.mem_singleton_self _)
  simp only [Prod.mk.injEq] at hi hlink
  obtain ⟨hlissue, hlsession, hlgeneration, hlconclusion⟩ := hlink
  refine ⟨db, hdb, fun h => ?_⟩
  have hcurrent : IsCurrent db issue l := by
    refine ⟨List.mem_filter.2 ⟨hl, ?_⟩, ?_, ?_⟩
    · rw [hlissue, hi.1, beq_self_eq_true]
    · rw [hlgeneration, hi.2]
    · rw [hlconclusion]
      rfl
  obtain ⟨e, he, -, hcomes⟩ := h issue hissue l hcurrent (by rw [hlconclusion]; decide)
  have hnot := List.all_eq_true.1 hevidence e he
  rw [hlsession] at hcomes
  simp [hcomes] at hnot

theorem retestConcluded_keepsEvidence :
    (((sequentially .withoutCipher some).restrict keepsEvidence).run .empty retestConcluded).any
      fun db => db.retestLinks.map (·.conclusion) = [some .verified] := by
  decide +kernel

/-- The theorem on the run that ends with a conclusion. -/
theorem evidence_kept_concluded :
    ∃ db, ((sequentially .withoutCipher some).restrict keepsEvidence).Reachable db ∧
      db.retestLinks.map (·.conclusion) = [some .verified] ∧ EvidenceKept db := by
  obtain ⟨db, hdb, hfacts⟩ := (Option.any_eq_true _ _).1 retestConcluded_keepsEvidence
  have hreach : ((sequentially .withoutCipher some).restrict keepsEvidence).Reachable db :=
    ⟨.empty, retestConcluded, rfl, hdb⟩
  exact ⟨db, hreach, by simpa using hfacts, evidence_kept hreach⟩

end Playtests

end Rulefolio
