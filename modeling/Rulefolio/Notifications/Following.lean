import Rulefolio.Library.Sequential
import Rulefolio.Playtests.Frames

/-!
# Notifications, followed on one state

What the functions on todos do when no other transaction runs. Ending todos never adds to those
that are open, and ends all that are selected and visible. A todo is created only where no visible
todo has its source, so a loop that notifies keeps an invariant that survives such a todo.

## Main definitions

* `Fewer` — todos were ended, and nothing else but mails has changed.
* `Fresh` — no visible todo has the source of this one.

## Main results

* `endAll_leads` — after the loop none of the selected todos is open.
* `notify_leads`, `notifyMaintainers_leads`, `notifyParticipants_leads` — an invariant is kept.
-/

namespace Rulefolio

namespace Notifications

variable {R : Database → Prop} {w : Database}

/-! ## Ending todos -/

/-- Some todos were ended and their mail was stopped. -/
structure Fewer (db db' : Database) : Prop where
  rest : db' = { db with todos := db'.todos, outbox := db'.outbox }
  todos : ∀ p : NotificationTodo → Bool, (∀ t, p t = true → t.status = .opened) →
    db'.todos.countP p ≤ db.todos.countP p

namespace Fewer

theorem refl (db : Database) : Fewer db db := ⟨rfl, fun _ _ => le_rfl⟩

theorem trans (db db' db'' : Database) (h : Fewer db db') (h' : Fewer db' db'') :
    Fewer db db'' where
  rest := by rw [h'.rest, h.rest]
  todos p hp := (h'.todos p hp).trans (h.todos p hp)

/-- What is open was open before. -/
theorem mem {db db' : Database} (h : Fewer db db') {t : NotificationTodo} (ht : t ∈ db'.todos)
    (hopen : t.status = .opened) : t ∈ db.todos := by
  have hcount := h.todos (· == t) fun u hu => by rw [beq_iff_eq.1 hu, hopen]
  have hpos : 0 < db'.todos.countP (· == t) := List.countP_pos_iff.2 ⟨t, ht, beq_self_eq_true t⟩
  obtain ⟨u, hu, hut⟩ := List.countP_pos_iff.1 (hpos.trans_le hcount)
  rwa [← beq_iff_eq.1 hut]

/-- What has no open todo gets none. -/
theorem countP_eq_zero {db db' : Database} (h : Fewer db db') {p : NotificationTodo → Bool}
    (hp : ∀ t, p t = true → t.status = .opened) (hzero : db.todos.countP p = 0) :
    db'.todos.countP p = 0 :=
  Nat.le_zero.1 (hzero ▸ h.todos p hp)

end Fewer

/-- An open todo with this identifier. -/
def openWithId (todoId : Uuid) (t : NotificationTodo) : Bool :=
  t.id == todoId && t.status == .opened

theorem status_of_openWithId {todoId : Uuid} {t : NotificationTodo}
    (h : openWithId todoId t = true) : t.status = .opened := by
  rw [openWithId, Bool.and_eq_true] at h
  exact beq_iff_eq.1 h.2

theorem countP_endTodo_le {status : TodoStatus} (hstatus : status ≠ .opened) (now : Timestamp)
    (todoId : Uuid) {p : NotificationTodo → Bool} (hp : ∀ t, p t = true → t.status = .opened)
    (todos : List NotificationTodo) :
    (endTodo status now todoId todos).countP p ≤ todos.countP p := by
  rw [endTodo, Table.update, List.countP_map]
  refine List.countP_mono_left fun t _ ht => ?_
  simp only [Function.comp_apply] at ht
  split at ht
  · exact absurd (hp _ ht) hstatus
  · exact ht

theorem countP_openWithId_endTodo {status : TodoStatus} (hstatus : status ≠ .opened)
    (now : Timestamp) (todoId : Uuid) (todos : List NotificationTodo) :
    (endTodo status now todoId todos).countP (openWithId todoId) = 0 := by
  refine List.countP_eq_zero.2 fun t ht hopen => ?_
  rcases Table.mem_update.1 ht with ⟨t₀, -, -, rfl⟩ | ⟨-, hid⟩
  · exact hstatus (status_of_openWithId hopen)
  · rw [openWithId, hid] at hopen
    cases hopen

theorem fewer_apply (now : Timestamp) (todoId : Uuid) (db : Database) (verdict : Verdict) :
    Fewer db (verdict.apply now todoId db) := by
  cases verdict with
  | completed => exact ⟨rfl, fun p hp => countP_endTodo_le (by decide) now todoId hp _⟩
  | cancelled => exact ⟨rfl, fun p hp => countP_endTodo_le (by decide) now todoId hp _⟩
  | deleted => exact ⟨rfl, fun p _ => List.filter_sublist.countP_le⟩

theorem countP_openWithId_apply (now : Timestamp) (todoId : Uuid) (db : Database)
    (verdict : Verdict) : (verdict.apply now todoId db).todos.countP (openWithId todoId) = 0 := by
  cases verdict with
  | completed => exact countP_openWithId_endTodo (by decide) now todoId _
  | cancelled => exact countP_openWithId_endTodo (by decide) now todoId _
  | deleted =>
    refine List.countP_eq_zero.2 fun t ht hopen => ?_
    rw [openWithId, (Table.mem_delete.1 ht).2] at hopen
    cases hopen

/-- One turn of the loop. -/
theorem endSelected_leads (maintenance : Option Uuid) (now : Timestamp) (verdict : Verdict)
    (todo : NotificationTodo) :
    (endSelected maintenance now verdict todo).Leads R
      (fun _ v => Fewer w v ∧ v.todos.countP (openWithId todo.id) = 0) w := by
  have hstop : ∀ v : Database, Fewer v { v with outbox := stopTodoMail todo.id v.outbox } :=
    fun v => ⟨rfl, fun _ _ => le_rfl⟩
  -- The mail is stopped after the todo was written, except where the todo is deleted.
  have hback : ∀ u : Verdict, u ≠ .deleted →
      ((updateRow (fun db => db.todos.any (·.id == todo.id) &&
          exitAllowsWrite maintenance todo.workspaceId db)
        (fun db => u.apply now todo.id db)).bind fun _ =>
          Tx.write fun _ db => { db with outbox := stopTodoMail todo.id db.outbox } :
        Program Unit).Leads R
        (fun _ v => Fewer w v ∧ v.todos.countP (openWithId todo.id) = 0) w := by
    intro u _
    refine Tx.Leads.writeIf_bind fun _ => ?_
    exact ⟨(fewer_apply now todo.id w u).trans _ _ _ (hstop _),
      countP_openWithId_apply now todo.id w u⟩
  cases verdict with
  | completed => exact hback .completed (by decide)
  | cancelled => exact hback .cancelled (by decide)
  | deleted =>
    refine Tx.Leads.write_bind ?_
    rw [updateRow, ← Tx.bind_pure (Tx.writeIf _ _ _)]
    refine Tx.Leads.writeIf_bind fun _ => ?_
    exact ⟨(hstop w).trans _ _ _ (fewer_apply now todo.id _ .deleted),
      countP_openWithId_apply now todo.id _ .deleted⟩

/-- **After the loop none of the selected todos is open**, where they are visible. -/
theorem endAll_leads (maintenance : Option Uuid) (now : Timestamp) (ending : Ending) :
    (endAll maintenance now ending).Leads R
      (fun _ v => Fewer w v ∧ ∀ t ∈ v.todos, t.status = .opened → ending.selects t = true →
        exitAllowsWrite maintenance t.workspaceId w = false) w := by
  rw [endAll]
  refine Tx.Leads.selectAllForUpdate_bind ?_
  refine (Tx.Leads.forEach_all (I := Fewer w)
    (D := fun todo v => v.todos.countP (openWithId todo.id) = 0) (.refl w)
    fun todo _ v hv => ?_).mono
      (fun _ => id) fun _ v hv => ⟨hv.1, fun t ht hopen hselects => ?_⟩
  · refine (endSelected_leads maintenance now ending.verdict todo).mono (fun _ => id)
      fun _ u hu => ?_
    exact ⟨hv.trans _ _ _ hu.1, hu.2,
      fun _ hzero => hu.1.countP_eq_zero (fun _ => status_of_openWithId) hzero⟩
  · by_contra hvisible
    have hselected : t ∈ w.todos.filter fun t =>
        ending.selects t && exitAllowsWrite maintenance t.workspaceId w :=
      List.mem_filter.2 ⟨hv.1.mem ht hopen, by rw [hselects, Bool.of_not_eq_false hvisible]; rfl⟩
    refine (List.countP_pos_iff.2 ⟨t, ht, ?_⟩).ne' (hv.2 t hselected)
    rw [openWithId, hopen, beq_self_eq_true]
    rfl

/-- Every statement of the loop ends todos or stops mail. -/
theorem endSelected_fewer (maintenance : Option Uuid) (now : Timestamp) (verdict : Verdict)
    (todo : NotificationTodo) :
    (endSelected maintenance now verdict todo).Within Fewer fun _ => True := by
  have hstop : (Tx.write fun _ db => { db with outbox := stopTodoMail todo.id db.outbox } :
      Program Unit).Within Fewer fun _ => True :=
  Tx.Within.write fun _ _ => ⟨rfl, fun _ _ => le_rfl⟩
  have hback : ∀ v : Verdict, (updateRow
      (fun db => db.todos.any (·.id == todo.id) &&
        exitAllowsWrite maintenance todo.workspaceId db)
      (fun db => v.apply now todo.id db)).Within Fewer fun _ => True := fun v =>
    updateRow_within Fewer.refl (fun db => fewer_apply now todo.id db v) _
  cases verdict with
  | completed => exact (hback _).andThen fun _ => hstop
  | cancelled => exact (hback _).andThen fun _ => hstop
  | deleted => exact hstop.andThen fun _ => hback _

/-- `complete_todo` ends todos and stops mail. -/
theorem completeTodo_fewer (now : Timestamp) (recipientId todoId : Uuid) :
    (completeTodo now recipientId todoId).Steps Fewer := by
  rw [completeTodo]
  refine Tx.Steps.after (Tx.Within.selectForUpdate (P := fun _ => True) Fewer.refl _ _ trivial
    fun _ => trivial) fun todo _ => ?_
  refine Tx.Steps.after (Tx.Within.require' _ _) fun todo _ => ?_
  refine Tx.Steps.after (Tx.Within.ensure' _ _) fun _ _ => ?_
  refine Tx.Steps.after (Workspaces.ensureWritable_within Fewer.refl _) fun _ _ => ?_
  split
  · exact Tx.Steps.after (endSelected_fewer _ _ _ _) fun _ _ => Tx.Steps.commitNow_bind trivial
  · exact Tx.Steps.commitNow_bind trivial

/-! ## Creating todos -/

/-- The todo may be created: its workspace takes writes, and no visible todo has its source. -/
structure Fresh (todo : NotificationTodo) (db : Database) : Prop where
  admitted : exitAllowsWrite none todo.workspaceId db = true
  unused : ∀ t ∈ db.todos, exitAllowsWrite none t.workspaceId db = true →
    sameSource todo t = false

theorem createTodo_leads (todo : NotificationTodo) :
    (createTodo todo).Leads R
      (fun created v => (created.2 = false ∧ v = w ∧ ∃ t ∈ w.todos, sameSource todo t = true) ∨
        (created.2 = true ∧ Fresh todo w ∧ v = { w with todos := todo :: w.todos })) w := by
  rw [createTodo]
  refine Tx.Leads.selectForUpdate_bind ?_
  cases hfound : w.todos.find? fun t =>
      sameSource todo t && exitAllowsWrite none t.workspaceId w with
  | some existing =>
    have hsource := List.find?_some hfound
    rw [Bool.and_eq_true] at hsource
    exact .inl ⟨rfl, rfl, existing, List.mem_of_find?_eq_some hfound, hsource.1⟩
  | none =>
    show ((insertRow _ _ _ _).bind _).Leads _ _ _
    rw [insertRow, Tx.bind_assoc]
    refine Tx.Leads.lockAll_bind (Tx.Leads.writeIf_bind fun hadmits => .inr ⟨rfl, ⟨?_, ?_⟩, rfl⟩)
    · exact (Bool.and_eq_true_iff.1 hadmits).2
    · intro t ht _
      have hnone := (Bool.and_eq_true_iff.1 hadmits).1
      rw [Bool.not_eq_true', List.any_eq_false] at hnone
      exact Bool.of_not_eq_true fun hsource => hnone t ht (by rw [hsource, Bool.or_true])

/-- **What a notification does**: nothing where a todo has its source, and otherwise it adds the
todo, and a mail. -/
theorem notify_cases (uuids : Uuids) (todo : Uuid → NotificationTodo)
    (mail : (id todoId : Uuid) → MailOutbox) :
    (notify uuids todo mail).Leads R
      (fun _ v => (v = w ∧ ∃ t ∈ w.todos, sameSource (todo (uuids.sub 0).here) t = true) ∨
        (Fresh (todo (uuids.sub 0).here) w ∧ ∃ outbox, v = { w with
          todos := todo (uuids.sub 0).here :: w.todos, outbox := outbox })) w := by
  rw [notify]
  refine (createTodo_leads (todo (uuids.sub 0).here)).bind fun created v hv => ?_
  obtain ⟨todoId, created⟩ := created
  rcases hv with ⟨rfl, rfl, hsource⟩ | ⟨rfl, hfresh, rfl⟩
  · exact .inl ⟨rfl, hsource⟩
  · show ((insertRow _ _ _ _).bind _).Leads _ _ _
    rw [insertRow, Tx.bind_assoc]
    refine Tx.Leads.lockAll_bind (Tx.Leads.writeIf_bind fun _ => ?_)
    exact .inr ⟨hfresh, _, rfl⟩

/-- **A notification keeps an invariant** that mails do not touch and that a fresh todo keeps. -/
theorem notify_leads {I : Database → Prop} (hw : I w) (uuids : Uuids)
    (todo : Uuid → NotificationTodo) (mail : (id todoId : Uuid) → MailOutbox)
    (hmail : ∀ db outbox, I db → I { db with outbox := outbox })
    (htodo : ∀ id, Fresh (todo id) w → I { w with todos := todo id :: w.todos }) :
    (notify uuids todo mail).Leads R (fun _ => I) w := by
  refine (notify_cases uuids todo mail).mono (fun _ => id) fun _ v hv => ?_
  rcases hv with ⟨rfl, -⟩ | ⟨hfresh, outbox, rfl⟩
  · exact hw
  · exact hmail _ outbox (htodo _ hfresh)

end Notifications

/-! ## The loops of the services -/

open Notifications

variable {R : Database → Prop} {w : Database} {I : Database → Prop}

/-- The loop over the maintainers of a work. -/
theorem Issues.notifyMaintainers_leads (hw : I w) (uuids : Uuids) (now : Timestamp) (issue : Issue)
    (notice : MaintainerNotice) (except : Option Uuid)
    (hmail : ∀ db outbox, I db → I { db with outbox := outbox })
    (htodo : ∀ db todo, I db → Fresh todo db → todo.workspaceId = issue.workspaceId →
      todo.kind = notice.kind → todo.targetKind = .issue → todo.targetId = issue.id →
      I { db with todos := todo :: db.todos }) :
    (notifyMaintainers uuids now issue notice except).Leads R (fun _ => I) w := by
  rw [notifyMaintainers]
  refine Tx.Leads.read_bind (Tx.Leads.forEach hw fun account _ v hv => ?_)
  dsimp only
  split
  · refine (notify_leads hv _ _ _ hmail fun id hfresh => ?_).bind fun _ u hu => hu
    exact htodo v _ hv hfresh rfl rfl rfl rfl
  · exact hv

/-- The loop over the participants of a session. -/
theorem Playtests.notifyParticipants_leads (hw : I w) (settings : Settings) (uuids : Uuids)
    (now : Timestamp) (item : PlaytestSession) (purpose : MailPurpose)
    (hmail : ∀ db outbox, I db → I { db with outbox := outbox })
    (hnotified : ∀ db participants, I db → I { db with participants := participants })
    (htodo : ∀ db todo participantId, I db → Fresh todo db → todo.status = .opened →
      todo.workspaceId = item.workspaceId → todo.targetKind = .playtestSession →
      todo.targetId = item.id →
      (∃ summary, todoDetails item purpose participantId =
        some (todo.kind, todo.sourceKey, summary)) → I { db with todos := todo :: db.todos }) :
    (notifyParticipants settings uuids now item purpose).Leads R (fun _ => I) w := by
  rw [notifyParticipants]
  refine Tx.Leads.read_bind (Tx.Leads.require_bind fun content _ => ?_)
  refine Tx.Leads.forEach hw fun participant _ v hv => ?_
  dsimp only
  rw [notifyParticipant]
  refine Tx.Leads.require_bind fun details hdetails => ?_
  refine (notify_leads hv _ _ _ hmail fun id hfresh => ?_).bind fun outboxId u hu => ?_
  · exact htodo v _ participant.1.id hv hfresh rfl rfl rfl rfl ⟨details.2.2, hdetails⟩
  · cases outboxId with
    | some outboxId =>
      show (Tx.writeIf _ _ _ : Program Unit).Leads _ _ _
      rw [← Tx.bind_pure (Tx.writeIf _ _ _)]
      exact Tx.Leads.writeIf_bind fun _ => hnotified u _ hu
    | none => exact hu

end Rulefolio
