import Rulefolio.Exports.Service

/-!
# What the readers of an export return

For each service function the export calls, when it returns and what. A session is read in three
ways (in its plan, with its result, with its feedback), and each of them reads its materials, so all
of them say the same of it.

## Main definitions

* `IsMaterial`, `IsSessionData` — what is read of a file and of a session.

## Main results

* `returns_readPlan`, `returns_readResult`, `returns_readFeedback`.
* `Outcome.returns_bind` — the rule for sequencing.
-/

namespace Rulefolio

namespace Playtests

variable {s w : Database}

/-! ## Materials -/

/-- What is read for a row that names a file and its digest. -/
def IsMaterial (w : Database) (row : Uuid × Bytes) (m : MaterialData) : Prop :=
  ∃ file, Files.findReadyMaterial row.1 w = some file ∧ file.sha256 = row.2 ∧
    m = ⟨file.id, file.displayName, file.detectedContentType, file.sizeBytes, row.2⟩

theorem IsMaterial.id_eq {row : Uuid × Bytes} {m : MaterialData} (h : IsMaterial w row m) :
    m.id = row.1 := by
  obtain ⟨file, hfile, -, rfl⟩ := h
  have hfound := List.find?_some hfile
  simp only [Bool.and_eq_true, beq_iff_eq] at hfound
  exact hfound.1.1

theorem returns_readMaterial {Q : MaterialData → Database → Database → Prop} (row : Uuid × Bytes) :
    (readMaterial row.1 row.2).Returns Q s w ↔ ∃ m, IsMaterial w row m ∧ Q m s w := by
  simp only [readMaterial, Tx.bind_eq, Tx.returns_bind, Tx.returns_read, Tx.returns_require,
    Tx.returns_ensure, beq_iff_eq, Tx.pure_eq, Tx.returns_pure, IsMaterial]
  constructor
  · rintro ⟨file, hfile, hsha, hQ⟩
    exact ⟨_, ⟨file, hfile, hsha, rfl⟩, hQ⟩
  · rintro ⟨m, ⟨file, hfile, hsha, rfl⟩, hQ⟩
    exact ⟨file, hfile, hsha, hQ⟩

theorem returns_readMaterials {Q : List MaterialData → Database → Database → Prop}
    (rows : List (Uuid × Bytes)) :
    (readMaterials rows).Returns Q s w ↔ ∃ ms, List.Forall₂ (IsMaterial w) rows ms ∧ Q ms s w := by
  induction rows generalizing Q with
  | nil => simp [readMaterials]
  | cons row rows ih =>
    obtain ⟨fileId, sha256⟩ := row
    rw [readMaterials, Tx.bind_eq, Tx.returns_bind, returns_readMaterial (fileId, sha256)]
    simp only [Tx.bind_eq, Tx.returns_bind, ih, Tx.pure_eq, Tx.returns_pure,
      List.forall₂_cons_left_iff]
    constructor
    · rintro ⟨m, hm, ms, hms, hQ⟩
      exact ⟨_, ⟨m, ms, hm, hms, rfl⟩, hQ⟩
    · rintro ⟨_, ⟨m, ms, hm, hms, rfl⟩, hQ⟩
      exact ⟨m, hm, ms, hms, hQ⟩

/-! ## Sessions -/

/-- What was recorded as played with. -/
def recordedMaterials (item : PlaytestSession) (db : Database) : List (Uuid × Bytes) :=
  (db.actualMaterials.filter (·.sessionId == item.id)).map fun m => (m.fileId, m.sha256)

/-- What is read of a session. -/
def IsSessionData (w : Database) (item : PlaytestSession) (d : SessionData) : Prop :=
  ∃ ms, List.Forall₂ (IsMaterial w) (plannedMaterials item w) ms ∧
    d = ⟨item, confirmedCount item.id w, ms, participants item.id w⟩

theorem IsSessionData.item_eq {item : PlaytestSession} {d : SessionData}
    (h : IsSessionData w item d) : d.item = item := by
  obtain ⟨ms, -, rfl⟩ := h
  rfl

theorem IsSessionData.materials {item : PlaytestSession} {d : SessionData}
    (h : IsSessionData w item d) :
    List.Forall₂ (IsMaterial w) (plannedMaterials item w) d.materials := by
  obtain ⟨ms, hms, rfl⟩ := h
  exact hms

theorem returns_sessionData {Q : SessionData → Database → Database → Prop}
    (item : PlaytestSession) :
    (sessionData item).Returns Q s w ↔ ∃ d, IsSessionData w item d ∧ Q d s w := by
  simp only [sessionData, materials, Tx.bind_eq, Tx.returns_bind, Tx.returns_read,
    returns_readMaterials, Tx.pure_eq, Tx.returns_pure, IsSessionData]
  constructor
  · rintro ⟨ms, hms, hQ⟩
    exact ⟨_, ⟨ms, hms, rfl⟩, hQ⟩
  · rintro ⟨_, ⟨ms, hms, rfl⟩, hQ⟩
    exact ⟨ms, hms, hQ⟩

theorem returns_sessionDatas {Q : List SessionData → Database → Database → Prop}
    (items : List PlaytestSession) :
    (sessionDatas items).Returns Q s w ↔
      ∃ ds, List.Forall₂ (IsSessionData w) items ds ∧ Q ds s w := by
  induction items generalizing Q with
  | nil => simp [sessionDatas]
  | cons item items ih =>
    rw [sessionDatas, Tx.bind_eq, Tx.returns_bind, returns_sessionData]
    simp only [Tx.bind_eq, Tx.returns_bind, ih, Tx.pure_eq, Tx.returns_pure,
      List.forall₂_cons_left_iff]
    constructor
    · rintro ⟨d, hd, ds, hds, hQ⟩
      exact ⟨_, ⟨d, ds, hd, hds, rfl⟩, hQ⟩
    · rintro ⟨_, ⟨d, ds, hd, hds, rfl⟩, hQ⟩
      exact ⟨d, hd, ds, hds, hQ⟩

theorem returns_readPlan {Q : List SessionData → Database → Database → Prop}
    (actorId workspaceId workId planId : Uuid) :
    (readPlan actorId workspaceId workId planId).Returns Q s w ↔
      ManagesPlaytests actorId workspaceId workId w ∧
        ∃ plan, w.plans.find? (fun p => p.id == planId && p.workspaceId == workspaceId &&
          p.workId == workId) = some plan ∧
        ∃ ds, List.Forall₂ (IsSessionData w) (w.sessions.filter (·.planId == plan.id)) ds ∧
          Q ds s w := by
  rw [readPlan, Tx.returns_mapError, Tx.bind_eq, Tx.returns_bind, returns_requireManagement]
  simp only [Tx.bind_eq, Tx.returns_bind, Tx.returns_read, Tx.returns_require, returns_sessionDatas]

theorem returns_readFeedback {Q : ManagedFeedbackData → Database → Database → Prop}
    (actorId workspaceId workId sessionId : Uuid) :
    (readFeedback actorId workspaceId workId sessionId).Returns Q s w ↔
      ManagesPlaytests actorId workspaceId workId w ∧
        ∃ item, findSession workspaceId workId sessionId w = some item ∧ item.status ≠ .cancelled ∧
        ∃ d, IsSessionData w item d ∧
          Q ⟨d, item.actualMaterialRecorded, Evidence.listFeedback item.id w⟩ s w := by
  rw [readFeedback, Tx.returns_mapError, Tx.bind_eq, Tx.returns_bind, returns_requireManagement]
  simp only [Tx.bind_eq, Tx.returns_bind, Tx.returns_read, Tx.returns_require, Tx.returns_ensure,
    bne_iff_ne, returns_sessionData, Tx.pure_eq, Tx.returns_pure]

/-- What `_actual_materials` reads of a session. -/
def IsActualMaterial (w : Database) (item : PlaytestSession) (m : Option (List MaterialData)) :
    Prop :=
  if item.actualMaterialRecorded then
    ∃ ms, List.Forall₂ (IsMaterial w) (recordedMaterials item w) ms ∧ m = some ms
  else m = none

/-- `read_result` returns what it reads of the materials that were played with. -/
theorem readResult_returns {Q : ResultData → Database → Database → Prop}
    {actorId workspaceId workId sessionId : Uuid}
    (h : (readResult actorId workspaceId workId sessionId).Returns Q s w) :
    ∃ item, findSession workspaceId workId sessionId w = some item ∧
      ∃ data, IsActualMaterial w item data.actualMaterial ∧ Q data s w := by
  rw [readResult, Tx.returns_mapError, Tx.bind_eq, Tx.returns_bind, returns_requireManagement] at h
  simp only [Tx.bind_eq, Tx.returns_bind, Tx.returns_read, Tx.returns_require, requireStarted,
    Tx.returns_ensure, Tx.pure_eq, Tx.returns_pure, returns_sessionData, actualMaterials] at h
  obtain ⟨-, item, hitem, -, d, -, h⟩ := h
  refine ⟨item, hitem, ?_⟩
  cases hrecorded : item.actualMaterialRecorded with
  | false =>
    rw [hrecorded] at h
    exact ⟨_, by rw [IsActualMaterial, hrecorded]; rfl, h⟩
  | true =>
    rw [hrecorded] at h
    simp only [Bool.not_true, Bool.false_eq_true, if_false, Tx.returns_bind, Tx.returns_require,
      Tx.returns_read, returns_readMaterials, Tx.returns_pure] at h
    obtain ⟨_, _, _, _, ms, hms, hQ⟩ := h
    exact ⟨_, by rw [IsActualMaterial, hrecorded]; exact ⟨ms, hms, rfl⟩, hQ⟩

/-! ## Plans -/

/-- `_session_data` of the next session changes nothing. -/
theorem planSummary_reads (plan : PlaytestPlan) :
    (planSummary plan).Within Eq fun summary => summary.plan = plan := by
  refine Tx.Within.read_bind (fun _ => rfl) fun _ => Tx.Within.read_bind (fun _ => rfl) fun db => ?_
  cases nextSession plan.id db with
  | none => exact Tx.Within.pure rfl
  | some item =>
    have hsession : (sessionSummary item).Within Eq fun _ => True :=
      Tx.Within.read_bind (fun _ => rfl) fun _ => (materials_reads _).andThen fun _ =>
        Tx.Within.pure trivial
    exact hsession.bind fun data _ => Tx.Within.pure rfl

theorem planSummaries_reads (plans : List PlaytestPlan) :
    (planSummaries plans).Within Eq fun summaries => summaries.map (·.plan) = plans := by
  induction plans with
  | nil => exact Tx.Within.pure rfl
  | cons plan plans ih =>
    refine (planSummary_reads plan).bind fun summary hsummary =>
      ih.bind fun summaries hsummaries => Tx.Within.pure ?_
    rw [List.map_cons, hsummary, hsummaries]

theorem returns_pageOf {ρ : Type} {Q : List ρ → Database → Database → Prop} (e : ServiceError)
    (rows : Database → List ρ) (page size : ℕ) :
    (pageOf e rows page size).Returns Q s w ↔
      (fitsInteger ((page - 1) * size : ℕ) && fitsInteger size) = true ∧
        Q (((rows w).drop ((page - 1) * size)).take size) s w := by
  rw [pageOf, Tx.bind_eq, Tx.returns_bind, Tx.returns_read, Tx.bind_eq, Tx.returns_bind,
    Tx.returns_ensure, Tx.pure_eq, Tx.returns_pure]

/-- A page of plans is a page of the plans in their order, with the number of all of them. -/
theorem returns_listPlans {times : Times} {actorId workspaceId workId : Uuid} {page size : ℕ}
    {answer : List PlanSummaryData × ℤ}
    (h : (listPlans times actorId workspaceId workId page size).Returns
      (fun a _ _ => a = answer) s w) :
    answer.1.map (·.plan) =
        ((orderedPlans times workspaceId workId w).drop ((page - 1) * size)).take size ∧
      answer.2 = ((orderedPlans times workspaceId workId w).length : ℤ) := by
  rw [listPlans, Tx.returns_mapError, Tx.bind_eq, Tx.returns_bind, returns_requireManagement,
    Tx.bind_eq, Tx.returns_bind, Tx.returns_read, Tx.bind_eq, Tx.returns_bind, returns_pageOf,
    Tx.bind_eq, Tx.returns_bind] at h
  obtain ⟨-, -, h⟩ := h
  obtain ⟨summaries, hsummaries, -, h⟩ := (planSummaries_reads _).returns_iff.1 h
  have hanswer : (summaries, ((w.plans.countP fun p =>
      p.workspaceId == workspaceId && p.workId == workId : ℕ) : ℤ)) = answer := h
  rw [← hanswer]
  refine ⟨hsummaries, ?_⟩
  rw [orderedPlans, List.length_insertionSort, List.countP_eq_length_filter]

end Playtests

/-! ## Outcomes -/

namespace Exports

variable {α β : Type} {db : Database}

theorem Outcome.returns_pure {a b : α} : Outcome.Returns (pure a : Outcome α) b ↔ a = b := by
  constructor
  · intro h
    cases h
    rfl
  · rintro rfl
    rfl

/-- The rule for sequencing. -/
theorem Outcome.returns_bind {x : Outcome α} {f : α → Outcome β} {b : β} :
    Outcome.Returns (x >>= f) b ↔ ∃ a, x.Returns a ∧ (f a).Returns b := by
  constructor
  · intro h
    cases hx : x.run with
    | none =>
      have hbind : (x >>= f).run = none := by
        rw [ExceptT.run_bind, hx]
        rfl
      have hsome : (x >>= f).run = some (.ok b) := h
      rw [hbind] at hsome
      cases hsome
    | some answer =>
      cases answer with
      | error e =>
        have hbind : (x >>= f).run = some (.error e) := by
          rw [ExceptT.run_bind, hx]
          rfl
        have hsome : (x >>= f).run = some (.ok b) := h
        rw [hbind] at hsome
        cases hsome
      | ok a =>
        have hbind : (x >>= f).run = (f a).run := by
          rw [ExceptT.run_bind, hx]
          rfl
        exact ⟨a, hx, hbind.symm.trans h⟩
  · rintro ⟨a, hx, hf⟩
    cases hx
    exact hf

theorem Outcome.returns_map {x : Outcome α} {f : α → β} {b : β} :
    Outcome.Returns (f <$> x) b ↔ ∃ a, x.Returns a ∧ f a = b := by
  rw [← bind_pure_comp, Outcome.returns_bind]
  simp only [Outcome.returns_pure]

theorem returns_ask {t : Program α} {a : α} :
    (ask db t).Returns a ↔ t.Returns (fun b _ _ => b = a) db db := by
  rw [← Tx.exec_eq_ok_iff]
  show some (((t.exec db).2).mapError exportError) = some (.ok a) ↔ _
  cases (t.exec db).2 with
  | error e => simp [Except.mapError]
  | ok b => simp [Except.mapError]

/-! ## Pages of one list -/

/-- Pages that are slices of one list, seen through `g`, make up the list. -/
theorem map_of_allPages {ε γ : Type} {fetch : Fetch ε α} {g : α → γ} {xs : List γ}
    (hfetch : ∀ page items total, fetch page pageSize = .ok (items, total) →
      items.map g = (xs.drop ((page - 1) * pageSize)).take pageSize ∧ total = (xs.length : ℤ))
    {turns : ℕ} {result : List α} (h : allPages fetch turns = some (.ok result)) :
    result.map g = xs := by
  have hgathered : ∀ {page : ℕ} {gathered : List α}, Gathers fetch page gathered →
      1 ≤ page ∧ gathered.map g = xs.take ((page - 1) * pageSize) := by
    intro page gathered hgathers
    induction hgathers with
    | start => exact ⟨le_rfl, by simp⟩
    | @next page gathered items total _ hpage _ _ ih =>
      obtain ⟨hle, ih⟩ := ih
      obtain ⟨k, rfl⟩ := Nat.exists_eq_add_of_le' hle
      refine ⟨by omega, ?_⟩
      rw [List.map_append, ih, (hfetch _ _ _ hpage).1, Nat.add_sub_cancel, take_append_page,
        Nat.add_sub_cancel]
  obtain ⟨last, gathered, items, hgathers, hlast, rfl⟩ := gathers_of_allPagesFrom .start h
  obtain ⟨hle, htake⟩ := hgathered hgathers
  obtain ⟨k, rfl⟩ := Nat.exists_eq_add_of_le' hle
  obtain ⟨hitems, hlength⟩ := hfetch _ _ _ hlast
  have hmap : (gathered ++ items).map g = xs.take ((k + 1) * pageSize) := by
    rw [List.map_append, htake, hitems, Nat.add_sub_cancel, take_append_page]
  rw [hmap, List.take_of_length_le]
  have hcount := congrArg List.length hmap
  rw [List.length_map, List.length_take] at hcount
  have hcast : (gathered ++ items).length = xs.length := by exact_mod_cast hlength
  omega

/-- The plans that `_all_pages` collects are the plans of the work. -/
theorem returns_askPages_listPlans {times : Times} {turns : ℕ} {actorId workspaceId workId : Uuid}
    {plans : List Playtests.PlanSummaryData}
    (h : (askPages turns db (Playtests.listPlans times actorId workspaceId workId)).Returns plans) :
    plans.map (·.plan) = Playtests.orderedPlans times workspaceId workId db := by
  have hpages : allPages (fun page size =>
      snapshot db (Playtests.listPlans times actorId workspaceId workId page size)) turns =
        some (.ok plans) := by
    have hsome : (allPages (fun page size =>
        snapshot db (Playtests.listPlans times actorId workspaceId workId page size)) turns).map
          (fun answer => answer.mapError pagesError) = some (.ok plans) := h
    obtain ⟨answer, hanswer, hok⟩ := Option.map_eq_some_iff.1 hsome
    cases answer with
    | error e => cases hok
    | ok found =>
      cases hok
      exact hanswer
  refine map_of_allPages (fun page items total hfetch => ?_) hpages
  exact Playtests.returns_listPlans (Tx.exec_eq_ok_iff.1 hfetch)

end Exports

end Rulefolio
