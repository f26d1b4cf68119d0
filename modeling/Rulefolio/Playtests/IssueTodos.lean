import Rulefolio.Playtests.OpenTodos

/-!
# Todos about issues

`update_issue` settles the todos that ask to act on an issue when it closes the issue;
`save_retest_conclusion` may close an issue as well and settles none. So a closed issue asks nobody
to act as long as no retest is concluded, with the issue closed, while somebody is asked.

## Main definitions

* `asks` — the todos that ask to act on an issue.
* `ClosedAskNobody` — the property.
* `closesUnasked` — the operations that keep it.
* `Asked` — the invariant: whoever is asked is asked about an open issue.

## Main results

* `closed_ask_nobody` — the runs in which it holds.
* `closed_issue_asks` — it does not hold in every run.
-/

namespace Rulefolio

namespace Playtests

open Notifications

variable {settings : Settings} {normalizeEmail : String → Option String} {db w : Database}

/-! ## The property -/

/-- The kinds of todos that ask to act on an issue. -/
def requestKinds : List TodoKind := [.issueOpened, .retestArrangementNeeded]

/-- The todo is open and asks to act on an issue. -/
def asks (t : NotificationTodo) : Bool :=
  t.status == .opened && requestKinds.contains t.kind

/-- No closed issue has an open `issue_opened` or `retest_arrangement_needed` todo. -/
def ClosedAskNobody (db : Database) : Prop :=
  ∀ issue ∈ db.issues, issue.status = .closed → ∀ t ∈ db.todos, asks t = true →
    t.targetId ≠ issue.id

/-- The operation does not conclude a retest and close the issue while somebody is asked to act on
it. -/
def closesUnasked (db : Database) : Operation → Bool
  | .call (.saveRetestConclusion _ _ _ issueId _ _ _ .closed _) =>
    !db.todos.any fun t => asks t && t.targetId == issueId
  | _ => true

theorem opened_of_asks {t : NotificationTodo} (h : asks t = true) : t.status = .opened := by
  rw [asks, Bool.and_eq_true] at h
  exact beq_iff_eq.1 h.1

theorem kind_of_asks {t : NotificationTodo} (h : asks t = true) :
    t.kind = .issueOpened ∨ t.kind = .retestArrangementNeeded := by
  rw [asks, Bool.and_eq_true] at h
  simpa [requestKinds] using h.2

/-! ## The invariant -/

/-- There is an open issue with this identifier in this workspace. -/
def OpenIssue (issueId workspaceId : Uuid) (db : Database) : Prop :=
  ∃ issue ∈ db.issues, issue.id = issueId ∧ issue.workspaceId = workspaceId ∧
    issue.status = .opened

/-- Whoever is asked to act is asked about an open issue of the workspace, those excepted whose
todo satisfies `P`. -/
def Asked (P : NotificationTodo → Prop) (db : Database) : Prop :=
  ∀ t ∈ db.todos, asks t = true →
    t.targetKind = .issue ∧ (P t ∨ OpenIssue t.targetId t.workspaceId db)

variable {P : NotificationTodo → Prop}

theorem Asked.fewer (h : Asked P w) {v : Database} (hv : Fewer w v) : Asked P v := by
  intro t ht hasks
  obtain ⟨htarget, hP⟩ := h t (hv.mem ht (opened_of_asks hasks)) hasks
  refine ⟨htarget, hP.imp_right fun hopen => ?_⟩
  rw [hv.rest]
  exact hopen

/-- Somebody is asked about an open issue. -/
theorem Asked.cons (h : Asked P w) {todo : NotificationTodo}
    (htodo : asks todo = true → todo.targetKind = .issue ∧
      OpenIssue todo.targetId todo.workspaceId w) :
    Asked P { w with todos := todo :: w.todos } := by
  intro t ht hasks
  rcases List.mem_cons.1 ht with rfl | ht
  · exact ⟨(htodo hasks).1, .inr (htodo hasks).2⟩
  · exact h t ht hasks

/-- Notifications of other kinds. -/
theorem Asked.aside (h : Asked P w) {v : Database}
    (hv : Aside (fun kind => kind ∉ requestKinds) w v) : Asked P v := by
  cases hv with
  | ended now todoId verdict => exact h.fewer (fewer_apply now todoId w verdict)
  | created todo hkind =>
    refine h.cons fun hasks => absurd ?_ hkind
    rw [asks, Bool.and_eq_true] at hasks
    exact List.contains_iff_mem.1 hasks.2
  | _ => exact h

theorem Aside.issues {K : TodoKind → Prop} {v : Database} (h : Aside K w v) :
    v.issues = w.issues := by
  cases h with
  | ended now todoId verdict => cases verdict <;> rfl
  | _ => rfl

theorem Aside.workspaces {K : TodoKind → Prop} {v : Database} (h : Aside K w v) :
    v.workspaces = w.workspaces := by
  cases h with
  | ended now todoId verdict => cases verdict <;> rfl
  | _ => rfl

theorem unchanged_requireIssueManagement (actorId workspaceId workId : Uuid) :
    (Issues.requireManagement actorId workspaceId workId).Within (fun s s' => s' = s)
      fun _ => True := by
  refine Tx.Within.andThen (Workspaces.ensureWritable_within (F := fun s s' => s' = s)
    (fun _ => rfl) _) fun _ => ?_
  exact Tx.Within.andThen (Works.requireManager_within (F := fun s s' => s' = s)
    (fun _ => rfl) _ _ _).mapError fun _ => Tx.Within.pure trivial

/-! ## Notifying about an issue -/

section Leads

variable {R : Database → Prop}

/-- Somebody is asked only about an open issue, and this one is open. -/
structure Requested (issue : Issue) (db : Database) : Prop where
  asked : Asked (fun _ => False) db
  row : OpenIssue issue.id issue.workspaceId db

theorem Requested.fewer {issue : Issue} (h : Requested issue w) {v : Database} (hv : Fewer w v) :
    Requested issue v :=
  ⟨h.asked.fewer hv, by rw [hv.rest]; exact h.row⟩

theorem Requested.notify {issue : Issue} (h : Requested issue w) (uuids : Uuids)
    (now : Timestamp) (notice : Issues.MaintainerNotice) (except : Option Uuid) :
    (Issues.notifyMaintainers uuids now issue notice except).Leads R (fun _ => Requested issue)
      w := by
  refine Issues.notifyMaintainers_leads h uuids now issue notice except
    (fun _ _ hI => ⟨hI.asked, hI.row⟩) fun db todo hI _ hworkspace _ htarget hid => ?_
  exact ⟨hI.asked.cons fun _ => ⟨htarget, by rw [hid, hworkspace]; exact hI.row⟩, hI.row⟩

/-- The todos when the issue is open after the update. -/
theorem Requested.updateTodos {issue : Issue} (h : Requested issue w)
    (hopened : issue.status = .opened) (uuids : Uuids) (now : Timestamp)
    (wasOpen adjustmentChanged : Bool) :
    (Issues.updateTodos uuids now issue wasOpen adjustmentChanged).Leads R
      (fun _ => Asked fun _ => False) w := by
  rw [Issues.updateTodos, if_neg (by rw [hopened]; decide)]
  simp -zeta only [Tx.bind_eq, Tx.pure_eq]
  extract_lets rest₁ rest₂
  have hrest₁ : ∀ v, Requested issue v →
      (rest₁ ()).Leads R (fun _ => Asked fun _ => False) v := by
    intro v hv
    dsimp only [rest₁]
    split
    · exact (hv.notify _ _ _ _).mono (fun _ => id) fun _ _ hu => hu.asked
    · exact hv.asked
  have hrest₂ : ∀ v, Requested issue v →
      (rest₂ ()).Leads R (fun _ => Asked fun _ => False) v := by
    intro v hv
    dsimp only [rest₂]
    split
    · exact (endAll_leads _ _ _).bind fun _ u hu => hrest₁ u (hv.fewer hu.1)
    · exact hrest₁ v hv
  split
  · exact (h.notify _ _ _ _).bind fun _ v hv => hrest₂ v hv
  · exact hrest₂ w h

/-- The todos when the issue is closed after the update: all that ask to act on it are ended. -/
theorem updateTodos_closed (issue : Issue) (hclosed : issue.status = .closed)
    (hvisible : exitAllowsWrite none issue.workspaceId w = true)
    (h : Asked (fun t => t.targetId = issue.id ∧ t.workspaceId = issue.workspaceId) w)
    (uuids : Uuids) (now : Timestamp) (wasOpen adjustmentChanged : Bool) :
    (Issues.updateTodos uuids now issue wasOpen adjustmentChanged).Leads R
      (fun _ => Asked fun _ => False) w := by
  rw [Issues.updateTodos, if_pos hclosed]
  refine (endAll_leads _ _ _).bind fun _ v hv => ?_
  refine (endAll_leads _ _ _).mono (fun _ => id) fun _ u hu => ?_
  intro t ht hasks
  have hopen := opened_of_asks hasks
  have htv : t ∈ v.todos := hu.1.mem ht hopen
  obtain ⟨htarget, hP⟩ := h t (hv.1.mem htv hopen) hasks
  refine ⟨htarget, .inr ?_⟩
  rcases hP with ⟨hid, hworkspace⟩ | hopenIssue
  · have hvisible' : exitAllowsWrite none t.workspaceId v = true := by
      rw [hv.1.rest, hworkspace]
      exact hvisible
    rcases kind_of_asks hasks with hkind | hkind
    · have hhidden := hv.2 t htv hopen (by simp [Ending.selects, htarget, hid, hopen, hkind])
      rw [hworkspace, hvisible] at hhidden
      cases hhidden
    · have hhidden := hu.2 t ht hopen (by simp [Ending.selects, htarget, hid, hopen, hkind])
      rw [hvisible'] at hhidden
      cases hhidden
  · rw [hu.1.rest, hv.1.rest]
    exact hopenIssue

/-! ## Operations that notify -/

/-- `create_issue`. -/
theorem createIssue_asked (h : Asked (fun _ => False) w) (uuids : Uuids) (now : Timestamp)
    (actorId workspaceId workId : Uuid) (operationKey description : String)
    (decision : IssueDecision) (reason : String) (status : IssueStatus)
    (references : List Evidence.IssueEvidenceReference) :
    (Issues.createIssue uuids now actorId workspaceId workId operationKey description decision
      reason status references).Leads (Asked fun _ => False) (fun _ _ => True) w := by
  rw [Issues.createIssue]
  simp -zeta only [Tx.bind_eq, Tx.pure_eq]
  refine Tx.Leads.mapError ?_
  refine Tx.Leads.require_bind fun texts _ => Tx.Leads.ensure_bind fun _ => ?_
  refine (unchanged_requireIssueManagement _ _ _).unchanged_bind fun _ _ => ?_
  rw [Issues.lockWorkForCreation]
  refine Tx.Leads.bind (P := fun _ v => v = w) ?_ fun _ v hv => ?_
  · exact Tx.Leads.selectForUpdate_bind (Tx.Leads.require_bind fun _ _ => Tx.Leads.pure rfl)
  subst hv
  refine Tx.Leads.read_bind ?_
  have hany : ∀ db db', Aside (fun _ => True) db db' → (fun _ _ => True : Database → Database →
    Prop) db db' := fun _ _ _ => trivial
  split
  · refine Tx.Within.leads_any ((keeps_referencesForIssue hany _).bind fun _ => ?_) _
    exact (keeps_ensure _ _).bind fun _ => (keeps_currentConclusion hany _).bind fun _ =>
      keeps_pure _
  · extract_lets issue rest
    refine Tx.Within.kept_bind (I := Asked fun _ => False)
      (keeps_validateIssueEvidenceSources (fun _ _ haside hdb => hdb.aside haside) _ _ _) h
      fun _ v _ h => ?_
    rw [insertRow, Tx.bind_assoc]
    refine Tx.Leads.lockAll_bind (Tx.Leads.writeIf_bind fun _ => ?_)
    -- From here on the new issue is there, with the status it is given.
    let J : Database → Prop := fun db => Asked (fun _ => False) db ∧
      (status = .opened → OpenIssue issue.id issue.workspaceId db)
    have hJ : Frame (fun db db' => J db → J db') (fun kind => kind ∉ requestKinds) := by
      intro db db' haside hdb
      refine ⟨hdb.1.aside haside, fun hopened => ?_⟩
      rw [OpenIssue, haside.issues]
      exact hdb.2 hopened
    have hrest : ∀ v, Asked (fun _ => False) v →
        (rest ()).Leads (Asked fun _ => False) (fun _ _ => True) v := by
      intro v hv
      refine Tx.Leads.commitNow_bind hv ?_
      exact Tx.Within.leads_any ((keeps_currentConclusion hany _).bind fun _ => keeps_pure _) _
    refine Tx.Within.kept_bind (I := J) (keeps_addLinks hJ _ _ _ fun _ _ _ hdb => hdb) ⟨?_, ?_⟩
      fun _ v _ hv => ?_
    · intro t ht hasks
      obtain ⟨htarget, hfalse | ⟨i, hi, hplace⟩⟩ := h t ht hasks
      · exact hfalse.elim
      · exact ⟨htarget, .inr ⟨i, List.mem_cons_of_mem _ hi, hplace⟩⟩
    · exact fun hopened => ⟨issue, List.mem_cons_self, rfl, rfl, hopened⟩
    · split
      · rename_i hopened
        exact (Requested.notify ⟨hv.1, hv.2 hopened⟩ _ _ _ _).bind fun _ u hu => hrest u hu.asked
      · exact hrest v hv.1

/-- `update_issue`. -/
theorem updateIssue_asked (hdb : WellFormed w) (h : Asked (fun _ => False) w) (uuids : Uuids)
    (now : Timestamp) (actorId workspaceId workId issueId : Uuid) (description : String)
    (decision : IssueDecision) (reason : String) (adjustmentNote : Option String)
    (status : IssueStatus) (expectedRevision : ℤ) :
    (Issues.updateIssue uuids now actorId workspaceId workId issueId description decision reason
      adjustmentNote status expectedRevision).Leads (Asked fun _ => False) (fun _ _ => True) w := by
  rw [Issues.updateIssue]
  simp -zeta only [Tx.bind_eq, Tx.pure_eq]
  refine Tx.Leads.mapError ?_
  refine Tx.Leads.require_bind fun texts _ => Tx.Leads.require_bind fun note _ => ?_
  refine Tx.Leads.ensure_bind fun _ => ?_
  refine (unchanged_requireIssueManagement _ _ _).unchanged_bind fun _ _ => ?_
  rw [Issues.loadIssue, Tx.bind_eq, Tx.bind_assoc]
  refine Tx.Leads.selectForUpdate_bind (Tx.Leads.require_bind fun issue hissue => ?_)
  have hmem := List.mem_of_find?_eq_some hissue
  have hfound := List.find?_some hissue
  rw [Bool.and_eq_true, beq_iff_eq] at hfound
  refine Tx.Leads.ensure_bind fun _ => ?_
  extract_lets adjustmentChanged change rest
  rw [Issues.writeIssue]
  refine Tx.Leads.writeIf_bind fun _ => ?_
  have hany : ∀ db db', Aside (fun _ => True) db db' → (fun _ _ => True : Database → Database →
    Prop) db db' := fun _ _ _ => trivial
  -- After the row is written: who is asked about it, and where.
  let J : Database → Prop := fun db =>
    (status = .opened → Requested (change issue) db) ∧
    (status = .closed → exitAllowsWrite none issue.workspaceId db = true ∧
      Asked (fun t => t.targetId = issue.id ∧ t.workspaceId = issue.workspaceId) db)
  have hrest : ∀ v, J v → (rest ()).Leads (Asked fun _ => False) (fun _ _ => True) v := by
    intro v hv
    refine Tx.Leads.bind (P := fun _ => Asked fun _ => False) ?_ fun _ u hu => ?_
    · cases hstatus : status with
      | opened => exact (hv.1 hstatus).updateTodos hstatus _ _ _ _
      | closed =>
        exact updateTodos_closed (change issue) hstatus (hv.2 hstatus).1 (hv.2 hstatus).2
          _ _ _ _
    · refine Tx.Leads.commitNow_bind hu ?_
      exact Tx.Within.leads_any ((keeps_currentConclusion hany _).bind fun _ => keeps_pure _) _
  have hJ : Frame (fun db db' => J db → J db') (fun kind => kind ∉ requestKinds) := by
    intro db db' haside hJ
    refine ⟨fun hopened => ⟨(hJ.1 hopened).asked.aside haside, ?_⟩, fun hclosed => ⟨?_, ?_⟩⟩
    · rw [OpenIssue, haside.issues]
      exact (hJ.1 hopened).row
    · rw [exitAllowsWrite, haside.workspaces]
      exact (hJ.2 hclosed).1
    · exact (hJ.2 hclosed).2.aside haside
  have hrow : change issue ∈ Table.update (·.id == issue.id) change w.issues :=
    Table.mem_update.2 (.inl ⟨issue, hmem, beq_self_eq_true _, rfl⟩)
  have hw : J { w with issues := Table.update (·.id == issue.id) change w.issues } := by
    refine ⟨fun hopened => ⟨fun t ht hasks => ?_, change issue, hrow, rfl, rfl, hopened⟩,
      fun _ => ⟨hfound.2, fun t ht hasks => ?_⟩⟩
    · obtain ⟨htarget, hfalse | ⟨i, hi, hid, hworkspace, hstatus⟩⟩ := h t ht hasks
      · exact hfalse.elim
      · refine ⟨htarget, .inr ?_⟩
        by_cases hne : (i.id == issue.id) = true
        · exact ⟨change i, Table.mem_update.2 (.inl ⟨i, hi, hne, rfl⟩), hid, hworkspace, hopened⟩
        · exact ⟨i, Table.mem_update.2 (.inr ⟨hi, Bool.of_not_eq_true hne⟩), hid, hworkspace,
            hstatus⟩
    · obtain ⟨htarget, hfalse | ⟨i, hi, hid, hworkspace, hstatus⟩⟩ := h t ht hasks
      · exact hfalse.elim
      · refine ⟨htarget, ?_⟩
        by_cases hne : (i.id == issue.id) = true
        · have heq : i = issue := Table.eq_of_filter_le_one (hdb.issue issue.id) hi hmem hne
            (beq_self_eq_true _)
          exact .inl ⟨by rw [← hid, heq], by rw [← hworkspace, heq]⟩
        · exact .inr ⟨i, Table.mem_update.2 (.inr ⟨hi, Bool.of_not_eq_true hne⟩), hid, hworkspace,
            hstatus⟩
  split
  · refine Tx.Within.kept_bind (keeps_selectAllForUpdate hJ _ _) hw fun links v _ hv => ?_
    refine Tx.Within.kept_bind (P := fun _ => True) (I := J) ?_ hv fun _ v _ hv => hrest v hv
    rw [Issues.writeLinks]
    split
    · exact keeps_pure _
    · refine keeps_updateRow hJ ?_ _
      exact fun _ hdb => ⟨fun hopened => ⟨(hdb.1 hopened).asked, (hdb.1 hopened).row⟩, hdb.2⟩
  · exact hrest _ hw

end Leads

/-! ## The other operations -/

/-- Nobody is asked about an issue the call closes. -/
def Unasked (call : Call) (db : Database) : Prop :=
  ∀ k, call.decides = some (k, .closed) → ∀ t ∈ db.todos, asks t = true → t.targetId ≠ k

theorem Unasked.of_subset {call : Call} (h : Unasked call w) {v : Database}
    (hv : ∀ t ∈ v.todos, asks t = true → t ∈ w.todos) : Unasked call v :=
  fun k hk t ht hasks => h k hk t (hv t ht hasks) hasks

/-- An edit of an issue that does not close an issue somebody is asked about. -/
theorem Asked.issueEdited {call : Call} (h : Asked (fun _ => False) w) (hcall : Unasked call w)
    {k : Uuid} {change : Issue → Issue}
    (hplace : ∀ i, (change i).id = i.id ∧ (change i).workspaceId = i.workspaceId)
    (hstatus : ∀ i, (change i).status = i.status ∨ call.decides = some (k, (change i).status)) :
    Asked (fun _ => False) { w with issues := Table.update (·.id == k) change w.issues } := by
  intro t ht hasks
  obtain ⟨htarget, hfalse | ⟨i, hi, hid, hworkspace, hopened⟩⟩ := h t ht hasks
  · exact hfalse.elim
  refine ⟨htarget, .inr ?_⟩
  by_cases hne : (i.id == k) = true
  · refine ⟨change i, Table.mem_update.2 (.inl ⟨i, hi, hne, rfl⟩), (hplace i).1.trans hid,
      (hplace i).2.trans hworkspace, ?_⟩
    rcases hstatus i with hsame | hdecides
    · rw [hsame, hopened]
    · cases hchanged : (change i).status with
      | opened => rfl
      | closed =>
        rw [hchanged] at hdecides
        exact absurd (hid.symm.trans (beq_iff_eq.1 hne)) (hcall k hdecides t ht hasks)
  · exact ⟨i, Table.mem_update.2 (.inr ⟨hi, Bool.of_not_eq_true hne⟩), hid, hworkspace, hopened⟩

/-- No change of a call that creates no such todo breaks the invariant. -/
theorem Change.asked {call : Call} (hkinds : ∀ kind ∈ call.notifies, kind ∉ requestKinds)
    (hspares : ∀ change, call = .elsewhere change → ∀ db, (change db).todos = db.todos)
    {db db' : Database} (h : Change call db db')
    (hdb : Asked (fun _ => False) db ∧ Unasked call db) :
    Asked (fun _ => False) db' ∧ Unasked call db' := by
  obtain ⟨hasked, hcall⟩ := hdb
  cases h with
  | aside h =>
    cases h with
    | ended now todoId verdict =>
      have hfewer := fewer_apply now todoId db verdict
      exact ⟨hasked.fewer hfewer,
        hcall.of_subset fun t ht hasks => hfewer.mem ht (opened_of_asks hasks)⟩
    | created todo hkind =>
      have hnot : asks todo ≠ true := fun hasks => by
        rw [asks, Bool.and_eq_true] at hasks
        exact hkinds _ hkind (List.contains_iff_mem.1 hasks.2)
      refine ⟨hasked.cons fun hasks => absurd hasks hnot, hcall.of_subset fun t ht hasks => ?_⟩
      rcases List.mem_cons.1 ht with rfl | ht
      · exact absurd hasks hnot
      · exact ht
    | _ => exact ⟨hasked, hcall⟩
  | issueCreated _ issue =>
    refine ⟨fun t ht hasks => ?_, hcall⟩
    obtain ⟨htarget, hfalse | ⟨i, hi, hplace⟩⟩ := hasked t ht hasks
    · exact hfalse.elim
    · exact ⟨htarget, .inr ⟨i, List.mem_cons_of_mem _ hi, hplace⟩⟩
  | issueEdited _ k change hplace _ _ hstatus =>
    exact ⟨hasked.issueEdited hcall hplace hstatus, hcall⟩
  | elsewhere change helsewhere =>
    have htodos := hspares change helsewhere db
    constructor
    · intro t ht hasks
      exact hasked t (htodos ▸ ht) hasks
    · exact hcall.of_subset fun t ht _ => htodos ▸ ht
  | _ => exact ⟨hasked, hcall⟩

/-! ## Every operation -/

theorem unasked_of_closesUnasked {c : Call} (h : closesUnasked db (.call c) = true)
    (hupdate : ∀ uuids now actorId workspaceId workId issueId description decision reason note
      status revision, c ≠ .updateIssue uuids now actorId workspaceId workId issueId description
        decision reason note status revision) : Unasked c.sparesTodos db := by
  intro k hk t ht hasks hid
  cases c with
  | updateIssue => exact hupdate _ _ _ _ _ _ _ _ _ _ _ _ rfl
  | saveRetestConclusion actorId workspaceId workId issueId retestId conclusion reason status =>
    cases hk
    rw [closesUnasked, Bool.not_eq_true', List.any_eq_false] at h
    exact h t ht (by rw [hasks, hid, beq_self_eq_true]; rfl)
  | _ => cases hk

theorem asked_exec (op : Operation) (hdb : WellFormed db) (hop : closesUnasked db op = true)
    (h : Asked (fun _ => False) db) :
    Asked (fun _ => False) ((op.program settings normalizeEmail).exec db).1 := by
  have hleads : ∀ t : Program Unit, t.Leads (Asked fun _ => False) (fun _ _ => True) db →
      Asked (fun _ => False) (t.exec db).1 := by
    intro t ht
    rcases ht.exec with hsame | hasked
    · rwa [hsame]
    · exact hasked
  cases op with
  | completeTodo now recipientId todoId =>
    exact h.fewer (completeTodo_exec now recipientId todoId db)
  | call c =>
    have hchange : (∀ kind ∈ c.sparesTodos.notifies, kind ∉ requestKinds) →
        Unasked c.sparesTodos db →
        Asked (fun _ => False) ((c.sparesTodos.program settings normalizeEmail).exec db).1 := by
      intro hkinds hunasked
      have hsteps := (Call.changes settings normalizeEmail c.sparesTodos).mono
        (G := fun s s' => (Asked (fun _ => False) s ∧ Unasked c.sparesTodos s) →
          Asked (fun _ => False) s' ∧ Unasked c.sparesTodos s')
        fun _ _ hchange => hchange.asked hkinds fun _ => Call.sparesTodos_elsewhere
      exact (hsteps.exec (fun _ => id) (fun _ _ _ hst htu hs => htu (hst hs)) db ⟨h, hunasked⟩).1
    cases c with
    | createIssue => exact hleads _ (createIssue_asked h _ _ _ _ _ _ _ _ _ _ _)
    | updateIssue => exact hleads _ (updateIssue_asked hdb h _ _ _ _ _ _ _ _ _ _ _ _)
    | _ =>
      exact hchange (by simp [Call.sparesTodos, Call.notifies, requestKinds])
        (unasked_of_closesUnasked hop fun _ _ _ _ _ _ _ _ _ _ _ _ heq => by cases heq)

/-! ## Runs -/

/-- **A closed issue asks nobody to act** in every run in which no retest is concluded, with the
issue closed, while somebody is asked to act on it. -/
theorem closed_ask_nobody
    (h : ((todoSystem settings normalizeEmail).restrict closesUnasked).Reachable db) :
    ClosedAskNobody db := by
  obtain ⟨hdb, hasked⟩ := todo_induction (I := Asked fun _ => False)
    (fun t ht => absurd ht List.not_mem_nil) (fun db op hdb hop h => asked_exec op hdb hop h) h
  intro issue hissue hclosed t ht hasks hid
  obtain ⟨-, hfalse | ⟨i, hi, hiid, -, hopened⟩⟩ := hasked t ht hasks
  · exact hfalse
  · have heq : i = issue := Table.eq_of_filter_le_one (hdb.issue issue.id) hi hissue
      (beq_iff_eq.2 (hiid.trans hid)) (beq_self_eq_true _)
    rw [heq, hclosed] at hopened
    cases hopened

/-- The issue of a retest is reported, adjusted and tested again, and the retest concluded. -/
def conclusionOperations (status : IssueStatus) : List Operation :=
  (retestConcluded.dropLast ++
    [Call.saveRetestConclusion 1 10 20 slowIssue retestLink .verified "fast" status 4]).map .call

theorem closed_ask_nobody_concluded :
    ∃ db, ClosedAskNobody db ∧ db.issues.any (·.status == .closed) = true ∧ db.todos ≠ [] := by
  obtain ⟨db, hdb, hp⟩ := @todos_of_runs .withoutCipher some closesUnasked
    (conclusionOperations .opened ++ [.call (.updateIssue (keysFrom 8000) 9 1 10 20 slowIssue
      "slow" .modify "long" (some "fewer stones") .closed 5)])
    (fun db => db.issues.any (·.status == .closed) && !db.todos.isEmpty) (by decide +kernel)
  rw [Bool.and_eq_true, Bool.not_eq_true', List.isEmpty_eq_false_iff] at hp
  exact ⟨db, closed_ask_nobody hdb, hp⟩

/-- A retest is concluded and its issue closed. The maintainers are still asked to deal with the
issue. -/
theorem closed_issue_asks :
    ¬ ∀ db, (todoSystem .withoutCipher some).Reachable db → ClosedAskNobody db := by
  intro h
  obtain ⟨db, hdb, hp⟩ := @todos_of_runs .withoutCipher some (fun _ _ => true)
    (conclusionOperations .closed) (fun db => db.issues.any fun issue => issue.status == .closed &&
      db.todos.any fun t => asks t && t.targetId == issue.id) (by decide +kernel)
  obtain ⟨issue, hissue, hany⟩ := List.any_eq_true.1 hp
  rw [Bool.and_eq_true, beq_iff_eq, List.any_eq_true] at hany
  obtain ⟨hclosed, t, ht, hasks⟩ := hany
  rw [Bool.and_eq_true, beq_iff_eq] at hasks
  exact h db (TransitionSystem.reachable_of_restrict hdb) issue hissue hclosed t ht hasks.1 hasks.2

end Playtests

end Rulefolio
