import Rulefolio.Exports.Archive
import Rulefolio.Playtests.Sequential

/-!
# Feedback in an export

Feedback can be given to every session that is not cancelled, before it has started as after. The
export reads the feedback of the sessions that have results, which are those that were started. The
feedback of a session that is only scheduled is in no export.

## Main definitions

* `FeedbackComplete` — the export holds what `read_feedback` returns.

## Main results

* `export_holds_feedback_iff` — when it does.
* `scheduled_feedback_left_out` — a run in which it does not.
-/

namespace Rulefolio

namespace Exports

open Playtests (SessionData IsSessionData)

variable {sha256 : Bytes → Bytes} {times : Times} {turns : ℕ} {now : Timestamp} {db : Database}
  {opened : Uuid → World} {actorId workspaceId workId : Uuid}

/-- What `data.json` of an archive encodes. -/
def WorkExport.data? (e : WorkExport) : Option ExportData :=
  e.entries.findSome? fun entry =>
    match entry.content with
    | .data data => if entry.name = "data.json".toList then some data else none
    | _ => none

/-- The feedback in `data.json`, each with the key of its session. -/
def WorkExport.feedback (e : WorkExport) : List (Uuid × Playtests.ManagedFeedbackData) :=
  ((e.data?.bind (·.manager)).map (·.feedback)).getD []

/-- Whatever `read_feedback` returns to the actor, for a session of the work that is not cancelled,
is in `data.json` under the key of the session: every item, and every submission with its answers. -/
def FeedbackComplete (db : Database) (actorId workspaceId workId : Uuid) (e : WorkExport) : Prop :=
  ∀ s ∈ db.sessions, s.workspaceId = workspaceId → s.workId = workId → s.status ≠ .cancelled →
    ∀ found, snapshot db (Playtests.readFeedback actorId workspaceId workId s.id) = .ok found →
      (∀ item ∈ found.feedback.items, ∃ entry ∈ e.feedback, entry.1 = s.id ∧
        item ∈ entry.2.feedback.items) ∧
      ∀ submission ∈ found.feedback.submissions, ∃ entry ∈ e.feedback, entry.1 = s.id ∧
        submission ∈ entry.2.feedback.submissions

/-- In this session nothing is asked, and nothing has been submitted. -/
def HasNoFeedback (db : Database) (n : Uuid) : Prop :=
  Evidence.feedbackItems n db = [] ∧ Evidence.submittedFeedback n db = []

instance (n : Uuid) : Decidable (HasNoFeedback db n) :=
  inferInstanceAs (Decidable (_ ∧ _))

/-! ## What the export holds -/

theorem data?_of_entries {e : WorkExport} {stored : List Stored} {manifest : Manifest}
    {exported : ExportData}
    (h : e.entries = stored.map Stored.entry ++ [⟨"manifest.json".toList, .manifest manifest⟩,
      ⟨"data.json".toList, .data exported⟩]) : e.data? = some exported := by
  rw [WorkExport.data?, h, List.findSome?_append, List.findSome?_eq_none_iff.2]
  · rfl
  · intro entry hentry
    obtain ⟨p, -, rfl⟩ := List.mem_map.1 hentry
    rfl

/-- The role the work is read with is the one the check of the playtests looks at. -/
theorem manages_of_readWork {work : Work} {role : WorkRole}
    (hmanages : Playtests.ManagesPlaytests actorId workspaceId workId db)
    (h : (Works.readWork actorId workspaceId workId).Returns (fun a _ _ => a = (work, role)) db db) :
    managesPlaytests role = true := by
  obtain ⟨found, hfound, hrole⟩ := hmanages
  simp only [Works.readWork, Works.loadVisibleWork, Workspaces.workAccessRole, Tx.bind_eq,
    Tx.returns_bind, Tx.returns_read, Tx.returns_require, Tx.pure_eq, Tx.returns_pure] at h
  obtain ⟨work', hwork', role', hrole', heq⟩ := h
  cases heq
  rw [hfound] at hwork'
  cases hwork'
  rw [hrole'] at hrole
  simpa [managesPlaytests] using hrole

/-- What the export has visited, for a manager. -/
theorem visited_of_export {e : WorkExport}
    (hmanages : Playtests.ManagesPlaytests actorId workspaceId workId db)
    (h : (buildWorkExport sha256 times turns now db opened actorId workspaceId workId).Returns e) :
    ∃ visited data, Gathered db actorId workspaceId workId visited data ∧
      Visits db (Playtests.orderedPlans times workspaceId workId db) visited ∧
        e.feedback = data.feedback := by
  obtain ⟨exported, hcollect, hwrite⟩ := returns_buildWorkExport h
  obtain ⟨hwork, -, hmanager⟩ := returns_collect hcollect
  obtain ⟨stored, -, -, hentries⟩ := writeArchive_eq_ok hwrite
  obtain ⟨data, hdata, hreturns⟩ :=
    managerPart_of_manages (manages_of_readWork hmanages hwork) hmanager
  obtain ⟨visited, hgathered, hvisits⟩ := collected hreturns
  refine ⟨visited, data, hgathered, hvisits, ?_⟩
  rw [WorkExport.feedback, data?_of_entries hentries, Option.bind_some, hdata]
  rfl

/-! ## One session -/

/-- What `read_feedback` returns for a session that is there. -/
theorem readFeedback_iff (hkeyed : Keyed db) {s : PlaytestSession} (hs : s ∈ db.sessions)
    {found : Playtests.ManagedFeedbackData} :
    snapshot db (Playtests.readFeedback actorId s.workspaceId s.workId s.id) = .ok found ↔
      Playtests.ManagesPlaytests actorId s.workspaceId s.workId db ∧ s.status ≠ .cancelled ∧
        ∃ d, IsSessionData db s d ∧
          (⟨d, s.actualMaterialRecorded, Evidence.listFeedback s.id db⟩ :
            Playtests.ManagedFeedbackData) = found := by
  rw [snapshot, Tx.exec_eq_ok_iff, Playtests.returns_readFeedback, findSession_of_mem hkeyed hs]
  refine and_congr_right fun _ => ⟨?_, fun h => ⟨s, rfl, h⟩⟩
  rintro ⟨item, hitem, h⟩
  cases hitem
  exact h

/-- What the export leaves out there is not. -/
theorem hasNoFeedback_of_complete (hkeyed : Keyed db) {e : WorkExport}
    (hmanages : Playtests.ManagesPlaytests actorId workspaceId workId db)
    (h : (buildWorkExport sha256 times turns now db opened actorId workspaceId workId).Returns e)
    (hcomplete : FeedbackComplete db actorId workspaceId workId e) {s : PlaytestSession}
    (hs : s ∈ db.sessions) (hworkspace : s.workspaceId = workspaceId) (hwork : s.workId = workId)
    (hscheduled : s.status = .scheduled) : HasNoFeedback db s.id := by
  obtain ⟨visited, data, hgathered, hvisits, hfeedback⟩ := visited_of_export hmanages h
  obtain ⟨d, hd, rfl⟩ := hvisits.of_work hkeyed hs hworkspace hwork
  subst hworkspace hwork
  -- The plan was read, so the feedback of the session can be.
  have hfound : snapshot db (Playtests.readFeedback actorId d.item.workspaceId d.item.workId
      d.item.id) = .ok ⟨d, d.item.actualMaterialRecorded, Evidence.listFeedback d.item.id db⟩ :=
    (readFeedback_iff hkeyed hs).2
      ⟨hmanages, by rw [hscheduled]; decide, d, hvisits.read d hd, rfl⟩
  obtain ⟨hitems, hsubmissions⟩ :=
    hcomplete d.item hs rfl rfl (by rw [hscheduled]; decide) _ hfound
  have hnone : ∀ entry ∈ e.feedback, entry.1 ≠ d.item.id := by
    intro entry hentry hid
    rw [hfeedback] at hentry
    obtain ⟨d', hd', hid', hstarted⟩ := hgathered.feedbackSource entry hentry
    have hsame : d'.item = d.item :=
      List.inj_on_of_nodup_map hkeyed.sessions (hvisits.source d' hd').1 hs (hid'.trans hid)
    rw [hsame, hscheduled] at hstarted
    cases hstarted
  constructor
  · refine List.eq_nil_iff_forall_not_mem.2 fun item hitem => ?_
    obtain ⟨entry, hentry, hid, -⟩ := hitems item hitem
    exact hnone entry hentry hid
  · refine List.eq_nil_iff_forall_not_mem.2 fun submission hsubmission => ?_
    obtain ⟨entry, hentry, hid, -⟩ := hsubmissions submission hsubmission
    exact hnone entry hentry hid

/-- The feedback of a session that was started is in the export as `read_feedback` returns it. -/
theorem complete_of_hasNoFeedback (hkeyed : Keyed db) {e : WorkExport}
    (hmanages : Playtests.ManagesPlaytests actorId workspaceId workId db)
    (h : (buildWorkExport sha256 times turns now db opened actorId workspaceId workId).Returns e)
    (hscheduled : ∀ s ∈ db.sessions, s.workspaceId = workspaceId → s.workId = workId →
      s.status = .scheduled → HasNoFeedback db s.id) :
    FeedbackComplete db actorId workspaceId workId e := by
  obtain ⟨visited, data, hgathered, hvisits, hfeedback⟩ := visited_of_export hmanages h
  intro s hs hworkspace hwork hstatus found hfound
  subst hworkspace hwork
  obtain ⟨-, -, d, -, rfl⟩ := (readFeedback_iff hkeyed hs).1 hfound
  cases hstate : s.status with
  | cancelled => exact absurd hstate hstatus
  | scheduled =>
    obtain ⟨hitems, hsubmissions⟩ := hscheduled s hs rfl rfl hstate
    constructor
    · intro item hitem
      rw [Evidence.listFeedback, hitems] at hitem
      cases hitem
    · intro submission hsubmission
      rw [Evidence.listFeedback, hsubmissions] at hsubmission
      cases hsubmission
  | started =>
    obtain ⟨d', hd', rfl⟩ := hvisits.of_work hkeyed hs rfl rfl
    obtain ⟨result, feedback, hstarted, -, hentry⟩ := hgathered.started d' hd' hstate
    obtain ⟨-, -, d'', -, heq⟩ :=
      (readFeedback_iff hkeyed hs).1 (Tx.exec_eq_ok_iff.2 hstarted.feedback)
    have hsame : feedback.feedback = Evidence.listFeedback d'.item.id db := by rw [← heq]
    rw [hfeedback]
    exact ⟨fun item hitem => ⟨_, hentry, rfl, hsame ▸ hitem⟩,
      fun submission hsubmission => ⟨_, hentry, rfl, hsame ▸ hsubmission⟩⟩

/-- **What an export holds of the feedback.** An export that is returned to a maintainer or organizer
holds all feedback the actor may read if and only if no feedback belongs to a session of the work
that is only scheduled. -/
theorem export_holds_feedback_iff (hkeyed : Keyed db) {e : WorkExport}
    (hmanages : Playtests.ManagesPlaytests actorId workspaceId workId db)
    (h : (buildWorkExport sha256 times turns now db opened actorId workspaceId workId).Returns e) :
    FeedbackComplete db actorId workspaceId workId e ↔
      ∀ s ∈ db.sessions, s.workspaceId = workspaceId → s.workId = workId → s.status = .scheduled →
        HasNoFeedback db s.id :=
  ⟨fun hcomplete _ => hasNoFeedback_of_complete hkeyed hmanages h hcomplete,
    complete_of_hasNoFeedback hkeyed hmanages h⟩

/-! ## Feedback before the start -/

instance : Decidable (Keyed db) :=
  decidable_of_iff ((db.sessions.map (·.id)).Nodup ∧ ∀ s ∈ db.sessions, ∃ p ∈ db.plans,
      p.id = s.planId ∧ p.workspaceId = s.workspaceId ∧ p.workId = s.workId)
    ⟨fun h => ⟨h.1, h.2⟩, fun h => ⟨h.sessions, h.plan⟩⟩

/-- A question is asked of the players of a session, and an answer is handed in on paper, before the
session has started. -/
def askedBeforeStart : List Playtests.Call :=
  [.elsewhere fun db => { Playtests.workOfOne db with files := [emptyFile 30 "board"] },
    Playtests.planOfOneSeat,
    .createFeedbackItem (Playtests.keysFrom 2100) 1 10 20 Playtests.sessionOfOneSeat "item"
      ⟨.shortText, "how?", []⟩,
    .createFeedbackSubmission (Playtests.keysFrom 2200) 9 1 10 20 Playtests.sessionOfOneSeat "key"
      ⟨.paperRecord, none, .submitted, [⟨210001, some "fun", none, none⟩]⟩]

/-- The maintainer's export of the work of that run. -/
def exportOf (db : Database) : Outcome WorkExport :=
  buildWorkExport (fun _ => emptyDigest) noTimes 2 9 db (fun _ => emptyObjects db) 1 10 20

/-- The state of that run, and what is asked for of it below. -/
def AskedBeforeStart (db : Database) : Prop :=
  Keyed db ∧ ((exportOf db).run.any fun answer => answer.toBool) = true ∧
    ((db.works.find? fun x => x.id == 20 && x.workspaceId == 10).any fun work =>
      (db.accesses.find? fun a => a.workId == work.id && a.accountId == 1).map (·.role) ==
        some .maintainer) = true ∧
    db.sessions.map (fun s => (s.id, s.workspaceId, s.workId, s.status)) =
      [(Playtests.sessionOfOneSeat, 10, 20, .scheduled)] ∧
    (Evidence.submittedFeedback Playtests.sessionOfOneSeat db).length = 1

instance : Decidable (AskedBeforeStart db) :=
  inferInstanceAs (Decidable (_ ∧ _))

theorem askedBeforeStart_runs :
    ((Playtests.sequentially .withoutCipher some).run .empty askedBeforeStart).any
      (fun db => decide (AskedBeforeStart db)) = true := by
  decide +kernel

theorem askedBeforeStart_reached :
    ∃ c, (Playtests.system .withoutCipher some).Reachable c ∧ AskedBeforeStart c.db := by
  obtain ⟨db, hdb, hasked⟩ := Playtests.reachable_of_runs askedBeforeStart_runs
  obtain ⟨c, hc, rfl⟩ := Playtests.interleaved_of_sequentially hdb
  exact ⟨c, hc, of_decide_eq_true hasked⟩

theorem AskedBeforeStart.exported (h : AskedBeforeStart db) : ∃ e, (exportOf db).Returns e := by
  obtain ⟨answer, hanswer, hok⟩ := (Option.any_eq_true _ _).1 h.2.1
  cases answer with
  | error _ => cases hok
  | ok e => exact ⟨e, hanswer⟩

theorem AskedBeforeStart.manages (h : AskedBeforeStart db) :
    Playtests.ManagesPlaytests 1 10 20 db := by
  obtain ⟨work, hwork, hrole⟩ := (Option.any_eq_true _ _).1 h.2.2.1
  exact ⟨work, hwork, by rw [hrole]; rfl⟩

/-- The one session has not started, and there is a submission in it. -/
theorem AskedBeforeStart.scheduled (h : AskedBeforeStart db) : ∃ s ∈ db.sessions,
    s.workspaceId = 10 ∧ s.workId = 20 ∧ s.status = .scheduled ∧ ¬HasNoFeedback db s.id := by
  obtain ⟨-, -, -, hsessions, hlength⟩ := h
  have hmem : (Playtests.sessionOfOneSeat, 10, 20, SessionStatus.scheduled) ∈
      db.sessions.map (fun s => (s.id, s.workspaceId, s.workId, s.status)) := by
    rw [hsessions]
    exact List.mem_singleton_self _
  obtain ⟨s, hs, heq⟩ := List.mem_map.1 hmem
  obtain ⟨hid, hworkspace, hwork, hstatus⟩ :
      s.id = Playtests.sessionOfOneSeat ∧ s.workspaceId = 10 ∧ s.workId = 20 ∧
        s.status = .scheduled := by
    simpa using heq
  refine ⟨s, hs, hworkspace, hwork, hstatus, ?_⟩
  rintro ⟨-, hnone⟩
  rw [hid] at hnone
  rw [hnone] at hlength
  cases hlength

/-- The export of a reached state leaves out feedback that `read_feedback` returns. -/
theorem scheduled_feedback_left_out :
    ∃ c e, (Playtests.system .withoutCipher some).Reachable c ∧
      Playtests.ManagesPlaytests 1 10 20 c.db ∧ (exportOf c.db).Returns e ∧
        ¬FeedbackComplete c.db 1 10 20 e := by
  obtain ⟨c, hc, hasked⟩ := askedBeforeStart_reached
  obtain ⟨e, he⟩ := hasked.exported
  obtain ⟨s, hs, hworkspace, hwork, hstatus, hsome⟩ := hasked.scheduled
  refine ⟨c, e, hc, hasked.manages, he, fun hcomplete => hsome ?_⟩
  exact hasNoFeedback_of_complete hasked.1 hasked.manages he hcomplete hs hworkspace hwork hstatus

/-- The theorem on the export of that state. -/
theorem export_holds_feedback_iff_askedBeforeStart :
    ∃ c e, (Playtests.system .withoutCipher some).Reachable c ∧ (exportOf c.db).Returns e ∧
      (FeedbackComplete c.db 1 10 20 e ↔ ∀ s ∈ c.db.sessions, s.workspaceId = 10 → s.workId = 20 →
        s.status = .scheduled → HasNoFeedback c.db s.id) := by
  obtain ⟨c, hc, hasked⟩ := askedBeforeStart_reached
  obtain ⟨e, he⟩ := hasked.exported
  exact ⟨c, e, hc, he, export_holds_feedback_iff hasked.1 hasked.manages he⟩

end Exports

end Rulefolio
