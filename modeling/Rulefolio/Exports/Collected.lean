import Rulefolio.Exports.Reading

/-!
# What a manager's part of an export holds

The loop over the plans visits sessions. `Gathered` says what the accumulator owes to the sessions
that were visited, for the feedback as for the materials; one turn of the loop keeps it. At the end
every session of the work has been visited, since every session belongs to a plan of its work.

## Main definitions

* `Gathered` — the invariant of the loops.
* `Keyed` — what the keys of the schema promise.

## Main results

* `collected` — what `_append_manager_data` returns.
-/

namespace Rulefolio

namespace Exports

open Playtests (MaterialData SessionData IsMaterial IsSessionData IsActualMaterial)

variable {db : Database} {actorId workspaceId workId : Uuid}

/-! ## Dictionaries -/

/-- The identifiers under which a dictionary holds materials. -/
def ids (materials : List MaterialData) : List Uuid :=
  materials.map (·.id)

theorem any_id_iff {materials : List MaterialData} {n : Uuid} :
    materials.any (·.id == n) = true ↔ n ∈ ids materials := by
  simp [ids, List.any_eq_true]

theorem ids_setDefault (materials : List MaterialData) (m : MaterialData) :
    ids (setDefault materials m) =
      if m.id ∈ ids materials then ids materials else ids materials ++ [m.id] := by
  rw [setDefault]
  by_cases hmem : m.id ∈ ids materials
  · rw [if_pos (any_id_iff.2 hmem), if_pos hmem]
  · rw [if_neg (fun hany => hmem (any_id_iff.1 hany)), if_neg hmem]
    exact List.map_append

theorem mem_ids_foldl {materials new : List MaterialData} {n : Uuid} :
    n ∈ ids (new.foldl setDefault materials) ↔ n ∈ ids materials ∨ n ∈ ids new := by
  induction new generalizing materials with
  | nil => simp [ids]
  | cons m new ih =>
    rw [List.foldl_cons, ih, ids_setDefault]
    split
    · rename_i hmem
      constructor
      · rintro (h | h)
        · exact .inl h
        · exact .inr (List.mem_cons_of_mem _ h)
      · rintro (h | h)
        · exact .inl h
        · rcases List.mem_cons.1 h with rfl | h
          · exact .inl hmem
          · exact .inr h
    · rw [List.mem_append, List.mem_singleton, or_assoc,
        show ids (m :: new) = m.id :: ids new from rfl, List.mem_cons]

theorem nodup_foldl {materials new : List MaterialData} (h : (ids materials).Nodup) :
    (ids (new.foldl setDefault materials)).Nodup := by
  induction new generalizing materials with
  | nil => exact h
  | cons m new ih =>
    refine ih ?_
    rw [ids_setDefault]
    split
    · exact h
    · rename_i hmem
      exact List.nodup_append.2 ⟨h, List.nodup_singleton _, fun a ha b hb hab => by
        rw [List.mem_singleton.1 hb] at hab
        exact hmem (hab ▸ ha)⟩

theorem mem_of_mem_foldl {materials new : List MaterialData} {m : MaterialData}
    (h : m ∈ new.foldl setDefault materials) : m ∈ materials ∨ m ∈ new := by
  induction new generalizing materials with
  | nil => exact .inl h
  | cons m' new ih =>
    rcases ih h with h | h
    · rw [setDefault] at h
      split at h
      · exact .inl h
      · rcases List.mem_append.1 h with h | h
        · exact .inl h
        · exact .inr (List.mem_singleton.1 h ▸ List.mem_cons_self)
    · exact .inr (List.mem_cons_of_mem _ h)

/-! ## One session -/

/-- What `read_result` and `read_feedback` return for a session that was started. -/
structure Started (db : Database) (actorId workspaceId workId : Uuid) (d : SessionData)
    (result : Playtests.ResultData) (feedback : Playtests.ManagedFeedbackData) : Prop where
  status : d.item.status = .started
  result : (Playtests.readResult actorId workspaceId workId d.item.id).Returns
    (fun a _ _ => a = result) db db
  feedback : (Playtests.readFeedback actorId workspaceId workId d.item.id).Returns
    (fun a _ _ => a = feedback) db db

/-- What the accumulator owes to the sessions that were visited. -/
structure Gathered (db : Database) (actorId workspaceId workId : Uuid) (visited : List SessionData)
    (data : ManagerData) : Prop where
  keys : (ids data.materials).Nodup
  planned : ∀ d ∈ visited, ∀ m ∈ d.materials, m.id ∈ ids data.materials
  started : ∀ d ∈ visited, d.item.status = .started → ∃ result feedback,
    Started db actorId workspaceId workId d result feedback ∧
      (∀ m ∈ result.actualMaterial.getD [], m.id ∈ ids data.materials) ∧
        (d.item.id, feedback) ∈ data.feedback
  source : ∀ m ∈ data.materials, ∃ d ∈ visited, m ∈ d.materials ∨
    ∃ result feedback, Started db actorId workspaceId workId d result feedback ∧
      m ∈ result.actualMaterial.getD []
  feedbackSource : ∀ entry ∈ data.feedback, ∃ d ∈ visited, d.item.id = entry.1 ∧
    d.item.status = .started

theorem gathered_empty (plans : List PlanData) :
    Gathered db actorId workspaceId workId [] ⟨plans, [], [], []⟩ where
  keys := List.nodup_nil
  planned d hd := by cases hd
  started d hd := by cases hd
  source m hm := by cases hm
  feedbackSource entry hentry := by cases hentry

/-- One turn of the loop visits one session more. -/
theorem Gathered.appendSessionData {visited : List SessionData} {data data' : ManagerData}
    {d : SessionData} (h : Gathered db actorId workspaceId workId visited data)
    (hstep : (appendSessionData db actorId workspaceId workId data d).Returns data') :
    Gathered db actorId workspaceId workId (visited ++ [d]) data' := by
  have hkept : ∀ {m : MaterialData} {new : List MaterialData}, m.id ∈ ids data.materials →
      m.id ∈ ids (new.foldl setDefault data.materials) := fun hm => mem_ids_foldl.2 (.inl hm)
  rw [Exports.appendSessionData] at hstep
  dsimp only at hstep
  split at hstep
  · rename_i hstatus
    rw [bne_iff_ne] at hstatus
    rw [Outcome.returns_pure] at hstep
    subst hstep
    refine ⟨nodup_foldl h.keys, fun e he m hm => ?_, fun e he hstarted => ?_, fun m hm => ?_,
      fun entry hentry => ?_⟩
    · rcases List.mem_append.1 he with he | he
      · exact hkept (h.planned e he m hm)
      · rw [List.mem_singleton.1 he] at hm
        exact mem_ids_foldl.2 (.inr (List.mem_map_of_mem hm))
    · rcases List.mem_append.1 he with he | he
      · obtain ⟨result, feedback, hfound, hactual, hentry⟩ := h.started e he hstarted
        exact ⟨result, feedback, hfound, fun m hm => hkept (hactual m hm), hentry⟩
      · rw [List.mem_singleton.1 he] at hstarted
        exact absurd hstarted hstatus
    · rcases mem_of_mem_foldl hm with hm | hm
      · obtain ⟨e, he, hsource⟩ := h.source m hm
        exact ⟨e, List.mem_append_left _ he, hsource⟩
      · exact ⟨d, by simp, .inl hm⟩
    · obtain ⟨e, he, hfound⟩ := h.feedbackSource entry hentry
      exact ⟨e, List.mem_append_left _ he, hfound⟩
  · rename_i hstatus
    rw [bne_iff_ne, not_not] at hstatus
    simp only [Outcome.returns_bind, returns_ask, Outcome.returns_pure] at hstep
    obtain ⟨result, hresult, feedback, hfeedback, rfl⟩ := hstep
    have hstarted : Started db actorId workspaceId workId d result feedback :=
      ⟨hstatus, hresult, hfeedback⟩
    have hkept' : ∀ {m : MaterialData}, m.id ∈ ids data.materials →
        m.id ∈ ids ((result.actualMaterial.getD []).foldl setDefault
          (d.materials.foldl setDefault data.materials)) := fun hm =>
      mem_ids_foldl.2 (.inl (hkept hm))
    refine ⟨nodup_foldl (nodup_foldl h.keys), fun e he m hm => ?_, fun e he he' => ?_,
      fun m hm => ?_, fun entry hentry => ?_⟩
    · rcases List.mem_append.1 he with he | he
      · exact hkept' (h.planned e he m hm)
      · rw [List.mem_singleton.1 he] at hm
        exact mem_ids_foldl.2 (.inl (mem_ids_foldl.2 (.inr (List.mem_map_of_mem hm))))
    · rcases List.mem_append.1 he with he | he
      · obtain ⟨result', feedback', hfound, hactual, hentry⟩ := h.started e he he'
        exact ⟨result', feedback', hfound, fun m hm => hkept' (hactual m hm),
          List.mem_append_left _ hentry⟩
      · rw [List.mem_singleton.1 he]
        exact ⟨result, feedback, hstarted,
          fun m hm => mem_ids_foldl.2 (.inr (List.mem_map_of_mem hm)), by simp⟩
    · rcases mem_of_mem_foldl hm with hm | hm
      · rcases mem_of_mem_foldl hm with hm | hm
        · obtain ⟨e, he, hsource⟩ := h.source m hm
          exact ⟨e, List.mem_append_left _ he, hsource⟩
        · exact ⟨d, by simp, .inl hm⟩
      · exact ⟨d, by simp, .inr ⟨result, feedback, hstarted, hm⟩⟩
    · rcases List.mem_append.1 hentry with hentry | hentry
      · obtain ⟨e, he, hfound⟩ := h.feedbackSource entry hentry
        exact ⟨e, List.mem_append_left _ he, hfound⟩
      · rw [List.mem_singleton.1 hentry]
        exact ⟨d, by simp, rfl, hstatus⟩

/-- The plans of the accumulator play no part. -/
theorem Gathered.withPlans {visited : List SessionData} {data : ManagerData}
    (h : Gathered db actorId workspaceId workId visited data) (plans : List PlanData) :
    Gathered db actorId workspaceId workId visited { data with plans } :=
  ⟨h.keys, h.planned, h.started, h.source, h.feedbackSource⟩

/-! ## The loops -/

theorem Gathered.appendSessions {visited sessions : List SessionData} {data data' : ManagerData}
    (h : Gathered db actorId workspaceId workId visited data)
    (hloop : (appendSessions db actorId workspaceId workId data sessions).Returns data') :
    Gathered db actorId workspaceId workId (visited ++ sessions) data' := by
  induction sessions generalizing visited data with
  | nil =>
    rw [Exports.appendSessions, Outcome.returns_pure] at hloop
    rw [List.append_nil]
    exact hloop ▸ h
  | cons d sessions ih =>
    rw [Exports.appendSessions, Outcome.returns_bind] at hloop
    obtain ⟨next, hstep, hloop⟩ := hloop
    have hall := ih (h.appendSessionData hstep) hloop
    rwa [List.append_assoc, List.singleton_append] at hall

/-- The sessions that were visited are those of the plans, as they are read. -/
structure Visits (db : Database) (plans : List PlaytestPlan) (visited : List SessionData) : Prop where
  complete : ∀ plan ∈ plans, ∀ item ∈ db.sessions, item.planId = plan.id →
    ∃ d ∈ visited, d.item = item
  read : ∀ d ∈ visited, IsSessionData db d.item d
  source : ∀ d ∈ visited, d.item ∈ db.sessions ∧ ∃ plan ∈ plans, d.item.planId = plan.id

theorem visits_nil : Visits db [] [] where
  complete plan hplan := by cases hplan
  read d hd := by cases hd
  source d hd := by cases hd

/-- Reading one plan visits its sessions. -/
theorem Visits.append {plans : List PlaytestPlan} {visited sessions : List SessionData}
    {plan : PlaytestPlan} (h : Visits db plans visited)
    (hread : List.Forall₂ (IsSessionData db) (db.sessions.filter (·.planId == plan.id)) sessions) :
    Visits db (plans ++ [plan]) (visited ++ sessions) := by
  refine ⟨fun p hp item hitem hplan => ?_, fun d hd => ?_, fun d hd => ?_⟩
  · rcases List.mem_append.1 hp with hp | hp
    · obtain ⟨d, hd, heq⟩ := h.complete p hp item hitem hplan
      exact ⟨d, List.mem_append_left _ hd, heq⟩
    · rw [List.mem_singleton.1 hp] at hplan
      have hmem : item ∈ db.sessions.filter (·.planId == plan.id) :=
        List.mem_filter.2 ⟨hitem, by simpa using hplan⟩
      obtain ⟨d, hd, hdata⟩ := (Table.forall₂_mem hread).1 item hmem
      exact ⟨d, List.mem_append_right _ hd, hdata.item_eq⟩
  · rcases List.mem_append.1 hd with hd | hd
    · exact h.read d hd
    · obtain ⟨item, -, hdata⟩ := (Table.forall₂_mem hread).2 d hd
      exact hdata.item_eq ▸ hdata
  · rcases List.mem_append.1 hd with hd | hd
    · obtain ⟨hmem, p, hp, hplan⟩ := h.source d hd
      exact ⟨hmem, p, List.mem_append_left _ hp, hplan⟩
    · obtain ⟨item, hitem, hdata⟩ := (Table.forall₂_mem hread).2 d hd
      obtain ⟨hmem, hplan⟩ := List.mem_filter.1 hitem
      rw [hdata.item_eq]
      exact ⟨hmem, plan, by simp, by simpa using hplan⟩

theorem Gathered.appendPlans {plans : List PlaytestPlan} {visited : List SessionData}
    {summaries : List Playtests.PlanSummaryData} {data data' : ManagerData}
    (h : Gathered db actorId workspaceId workId visited data) (hvisits : Visits db plans visited)
    (hloop : (appendPlans db actorId workspaceId workId data summaries).Returns data') :
    ∃ visited', Gathered db actorId workspaceId workId visited' data' ∧
      Visits db (plans ++ summaries.map (·.plan)) visited' := by
  induction summaries generalizing plans visited data with
  | nil =>
    rw [Exports.appendPlans, Outcome.returns_pure] at hloop
    exact ⟨visited, hloop ▸ h, by rwa [List.map_nil, List.append_nil]⟩
  | cons summary summaries ih =>
    simp only [Exports.appendPlans, Outcome.returns_bind, returns_ask] at hloop
    obtain ⟨sessions, hsessions, next, hnext, hloop⟩ := hloop
    obtain ⟨-, plan, hplan, read, hread, rfl⟩ := (Playtests.returns_readPlan _ _ _ _).1 hsessions
    have hid : plan.id = summary.plan.id := by
      have hfound := List.find?_some hplan
      simp only [Bool.and_eq_true, beq_iff_eq] at hfound
      exact hfound.1.1
    rw [hid] at hread
    obtain ⟨visited', hgathered, hvisited⟩ :=
      ih ((h.withPlans _).appendSessions hnext) (hvisits.append hread) hloop
    exact ⟨visited', hgathered, by
      rwa [List.append_assoc, List.singleton_append] at hvisited⟩

/-! ## The whole part -/

/-- What the keys of the schema promise: `id` is the primary key of a session, and a session refers
to a plan of its own work. -/
structure Keyed (db : Database) : Prop where
  sessions : (db.sessions.map (·.id)).Nodup
  plan : ∀ s ∈ db.sessions, ∃ p ∈ db.plans, p.id = s.planId ∧ p.workspaceId = s.workspaceId ∧
    p.workId = s.workId

/-- Every session of the work is visited. -/
theorem Visits.of_work {visited : List SessionData} {times : Times} (hkeyed : Keyed db)
    (h : Visits db (Playtests.orderedPlans times workspaceId workId db) visited)
    {item : PlaytestSession} (hitem : item ∈ db.sessions) (hworkspace : item.workspaceId = workspaceId)
    (hwork : item.workId = workId) : ∃ d ∈ visited, d.item = item := by
  obtain ⟨plan, hplan, hid, hscope, hscope'⟩ := hkeyed.plan item hitem
  have hmem : plan ∈ Playtests.orderedPlans times workspaceId workId db := by
    rw [Playtests.orderedPlans, List.mem_insertionSort, List.mem_filter]
    exact ⟨hplan, by simp [hscope, hscope', hworkspace, hwork]⟩
  exact h.complete plan hmem item hitem hid.symm

/-- What `_append_manager_data` returns. -/
theorem collected {times : Times} {turns : ℕ} {data : ManagerData}
    (h : (appendManagerData times turns db actorId workspaceId workId).Returns data) :
    ∃ visited, Gathered db actorId workspaceId workId visited data ∧
      Visits db (Playtests.orderedPlans times workspaceId workId db) visited := by
  rw [appendManagerData, Outcome.returns_bind] at h
  obtain ⟨plans, hplans, h⟩ := h
  obtain ⟨visited, hgathered, hvisits⟩ := (gathered_empty []).appendPlans visits_nil h
  rw [List.nil_append, returns_askPages_listPlans hplans] at hvisits
  exact ⟨visited, hgathered, hvisits⟩

/-! ## The export -/

/-- What is read in the snapshot, part by part. -/
theorem returns_collect {times : Times} {turns : ℕ} {data : ExportData}
    (h : (collect times turns db actorId workspaceId workId).Returns data) :
    (Works.readWork actorId workspaceId workId).Returns
        (fun a _ _ => a = (data.work, data.ownRole)) db db ∧
      (Works.readRuleMaterials actorId workspaceId workId).Returns
        (fun a _ _ => a = data.currentRule) db db ∧
      (managerPart times turns db actorId workspaceId workId data.ownRole).Returns data.manager := by
  simp only [collect, Outcome.returns_bind, returns_ask, Outcome.returns_pure] at h
  obtain ⟨⟨work, role⟩, hwork, rule, hrule, manager, hmanager, issues, -, rfl⟩ := h
  exact ⟨hwork, hrule, hmanager⟩

/-- For managers there is a part for managers. -/
theorem managerPart_of_manages {times : Times} {turns : ℕ} {role : WorkRole}
    {manager : Option ManagerData} (hrole : managesPlaytests role = true)
    (h : (managerPart times turns db actorId workspaceId workId role).Returns manager) :
    ∃ data, manager = some data ∧
      (appendManagerData times turns db actorId workspaceId workId).Returns data := by
  rw [managerPart, if_pos hrole, Outcome.returns_map] at h
  obtain ⟨data, hdata, rfl⟩ := h
  exact ⟨data, rfl, hdata⟩

end Exports

end Rulefolio
