import Rulefolio.Playtests.IssueTodos

/-!
# Asking for a retest

`update_issue` asks the maintainers of a work to arrange a retest when it reopens an issue that has
an adjustment, or changes the adjustment. It creates a todo for each of them, unless there is one
for this adjustment already. A new adjustment is a new source, for which there is none. When an
issue is reopened with the adjustment it had, the todo may be there and have ended, and then nobody
is asked.

## Main definitions

* `asksRetest` — the todos that ask an account to arrange a retest of the current adjustment.
* `RetestRequested` — every maintainer is asked.
* `Sourced` — the invariant: the source of such a todo is an adjustment its issue has had.

## Main results

* `reopened_asks_retest` — when the maintainers are asked.
* `reopened_asks_nobody` — they are not asked every time.
-/

namespace Rulefolio

namespace Playtests

open Notifications

variable {settings : Settings} {normalizeEmail : String → Option String} {db w v : Database}
  {R : Database → Prop} {issue : Issue}

/-! ## The property -/

/-- The todo asks an account to arrange a retest of the issue's current adjustment. -/
def asksRetest (issue : Issue) (accountId : Uuid) (t : NotificationTodo) : Bool :=
  t.recipientAccountId == accountId && t.kind == .retestArrangementNeeded &&
    t.targetKind == .issue && t.targetId == issue.id &&
    t.sourceKey == .adjustment issue.id issue.adjustmentGeneration

/-- Every current maintainer of the work has such a todo, and it is open. -/
def RetestRequested (issue : Issue) (db : Database) : Prop :=
  ∀ accountId ∈ Workspaces.currentWorkMaintainerIds db issue.workId,
    ∃ t ∈ db.todos, asksRetest issue accountId t = true ∧ t.status = .opened

/-- A current maintainer who has had such a todo has an open one. -/
def RetestUnsettled (issue : Issue) (db : Database) : Prop :=
  ∀ accountId ∈ Workspaces.currentWorkMaintainerIds db issue.workId,
    (∃ t ∈ db.todos, asksRetest issue accountId t = true) →
      ∃ t ∈ db.todos, asksRetest issue accountId t = true ∧ t.status = .opened

/-! ## The invariant -/

/-- The source of a todo that asks for a retest is an adjustment its issue has had. -/
def Sourced (db : Database) : Prop :=
  ∀ t ∈ db.todos, t.kind = .retestArrangementNeeded → t.targetKind = .issue ∧
    ∃ i ∈ db.issues, i.id = t.targetId ∧ i.workspaceId = t.workspaceId ∧
      ∃ n ≤ i.adjustmentGeneration, t.sourceKey = .adjustment i.id n

/-- What ending a todo leaves of the todos. -/
theorem mem_todos_apply {now : Timestamp} {todoId : Uuid} {verdict : Verdict}
    {t : NotificationTodo} (ht : t ∈ (verdict.apply now todoId db).todos) :
    ∃ u ∈ db.todos, ∃ status resolvedAt,
      t = { u with status := status, resolvedAt := resolvedAt } := by
  have hended : ∀ status, t ∈ endTodo status now todoId db.todos → ∃ u ∈ db.todos,
      ∃ status resolvedAt, t = { u with status := status, resolvedAt := resolvedAt } := by
    intro status ht
    rcases Table.mem_update.1 ht with ⟨u, hu, -, rfl⟩ | ⟨hu, -⟩
    · exact ⟨u, hu, _, _, rfl⟩
    · exact ⟨t, hu, t.status, t.resolvedAt, rfl⟩
  cases verdict with
  | completed => exact hended _ ht
  | cancelled => exact hended _ ht
  | deleted => exact ⟨t, (Table.mem_delete.1 ht).1, t.status, t.resolvedAt, rfl⟩

/-- Todos of other kinds come, and any may end. -/
theorem Sourced.todos (h : Sourced w) (hissues : v.issues = w.issues)
    (htodos : ∀ t ∈ v.todos, t.kind = .retestArrangementNeeded → ∃ u ∈ w.todos,
      ∃ status resolvedAt, t = { u with status := status, resolvedAt := resolvedAt }) :
    Sourced v := by
  intro t ht hkind
  obtain ⟨u, hu, status, resolvedAt, rfl⟩ := htodos t ht hkind
  rw [hissues]
  exact h u hu hkind

theorem Sourced.aside (h : Sourced w) (hv : Aside (· ≠ .retestArrangementNeeded) w v) :
    Sourced v := by
  cases hv with
  | ended now todoId verdict =>
    exact h.todos (by cases verdict <;> rfl) fun t ht _ => mem_todos_apply ht
  | created todo hkind =>
    refine h.todos rfl fun t ht hneeded => ?_
    rcases List.mem_cons.1 ht with rfl | ht
    · exact absurd hneeded hkind
    · exact ⟨t, ht, t.status, t.resolvedAt, rfl⟩
  | _ => exact h

/-- An edit by which an issue is not taken back to an earlier adjustment. -/
theorem Sourced.edited (h : Sourced w) {k : Uuid} {change : Issue → Issue}
    (hplace : ∀ i, (change i).id = i.id ∧ (change i).workspaceId = i.workspaceId)
    (hgeneration : ∀ i ∈ w.issues, i.id = k →
      i.adjustmentGeneration ≤ (change i).adjustmentGeneration) :
    Sourced { w with issues := Table.update (·.id == k) change w.issues } := by
  intro t ht hkind
  obtain ⟨htarget, i, hi, hid, hworkspace, n, hn, hsource⟩ := h t ht hkind
  refine ⟨htarget, ?_⟩
  by_cases hk : (i.id == k) = true
  · refine ⟨change i, Table.mem_update.2 (.inl ⟨i, hi, hk, rfl⟩), (hplace i).1.trans hid,
      (hplace i).2.trans hworkspace, n, hn.trans (hgeneration i hi (beq_iff_eq.1 hk)), ?_⟩
    rw [hsource, (hplace i).1]
  · exact ⟨i, Table.mem_update.2 (.inr ⟨hi, Bool.of_not_eq_true hk⟩), hid, hworkspace, n, hn,
      hsource⟩

/-- No change of a call that neither asks for a retest nor begins an adjustment breaks the
invariant. -/
theorem Change.sourced {call : Call} (hkinds : .retestArrangementNeeded ∉ call.notifies)
    (hadjusts : call.adjusts = false)
    (hspares : ∀ change, call = .elsewhere change → ∀ db, (change db).todos = db.todos)
    {db db' : Database} (h : Change call db db') (hdb : Sourced db) : Sourced db' := by
  cases h with
  | aside h =>
    cases h with
    | ended now todoId verdict => exact hdb.aside (.ended now todoId verdict)
    | created todo hkind => exact hdb.aside (.created todo fun heq => hkinds (heq ▸ hkind))
    | _ => exact hdb
  | issueCreated _ issue =>
    intro t ht hkind
    obtain ⟨htarget, i, hi, hplace⟩ := hdb t ht hkind
    exact ⟨htarget, i, List.mem_cons_of_mem _ hi, hplace⟩
  | issueEdited _ k change hplace _ hgeneration _ =>
    refine hdb.edited hplace fun i _ _ => ?_
    rcases hgeneration i with hsame | hcall
    · exact hsame.ge
    · rw [hadjusts] at hcall
      cases hcall
  | elsewhere change helsewhere =>
    have htodos := hspares change helsewhere db
    intro t ht hkind
    exact hdb t (htodos ▸ ht) hkind
  | _ => exact hdb

/-! ## Asking the maintainers -/

/-- The todo of a maintainer. -/
def retestTodo (issue : Issue) (id accountId : Uuid) : NotificationTodo :=
  todoRow id accountId issue.workspaceId (some issue.workId) .retestArrangementNeeded .issue
    issue.id (.adjustment issue.id issue.adjustmentGeneration) "需要安排针对性复测"
    (Issues.contextLabel issue)

theorem sameSource_retestTodo {id accountId : Uuid} {t : NotificationTodo} :
    sameSource (retestTodo issue id accountId) t = true ↔ t.recipientAccountId = accountId ∧
      t.kind = .retestArrangementNeeded ∧
      t.sourceKey = .adjustment issue.id issue.adjustmentGeneration := by
  simp only [sameSource, retestTodo, todoRow, Bool.and_eq_true, beq_iff_eq, and_assoc]

theorem asksRetest_iff {accountId : Uuid} {t : NotificationTodo} :
    asksRetest issue accountId t = true ↔ t.recipientAccountId = accountId ∧
      t.kind = .retestArrangementNeeded ∧ t.targetKind = .issue ∧ t.targetId = issue.id ∧
      t.sourceKey = .adjustment issue.id issue.adjustmentGeneration := by
  simp only [asksRetest, Bool.and_eq_true, beq_iff_eq, and_assoc]

theorem asksRetest_retestTodo (id accountId : Uuid) :
    asksRetest issue accountId (retestTodo issue id accountId) = true :=
  asksRetest_iff.2 ⟨rfl, rfl, rfl, rfl, rfl⟩

/-- Some maintainers were asked: who had a todo of this source, got none. -/
structure Asking (issue : Issue) (w v : Database) : Prop where
  rest : v = { w with todos := v.todos, outbox := v.outbox }
  old : ∀ t ∈ w.todos, t ∈ v.todos
  new : ∀ t ∈ v.todos, t ∈ w.todos ∨ ∃ id accountId, t = retestTodo issue id accountId ∧
    ∀ u ∈ w.todos, exitAllowsWrite none u.workspaceId w = true → sameSource t u = false

theorem Asking.refl (issue : Issue) (w : Database) : Asking issue w w :=
  ⟨rfl, fun _ => id, fun _ => .inl⟩

/-- One more is asked. -/
theorem Asking.cons (h : Asking issue w v) {id accountId : Uuid}
    (hfresh : Fresh (retestTodo issue id accountId) v) (outbox : List MailOutbox) :
    Asking issue w
      { v with todos := retestTodo issue id accountId :: v.todos, outbox := outbox } where
  rest := by rw [h.rest]
  old t ht := List.mem_cons_of_mem _ (h.old t ht)
  new t ht := by
    rcases List.mem_cons.1 ht with rfl | ht
    · refine .inr ⟨id, accountId, rfl, fun u hu hvisible => ?_⟩
      refine hfresh.unused u (h.old u hu) ?_
      rw [h.rest]
      exact hvisible
    · exact h.new t ht

/-- **After the loop every maintainer has had a todo.** -/
theorem notifyRetestNeeded_leads (uuids : Uuids) (now : Timestamp) (issue : Issue) :
    (Issues.notifyRetestNeeded uuids now issue).Leads R
      (fun _ v => Asking issue w v ∧
        ∀ accountId ∈ Workspaces.currentWorkMaintainerIds w issue.workId,
          ∃ t ∈ v.todos, sameSource (retestTodo issue issue.id accountId) t = true) w := by
  rw [Issues.notifyRetestNeeded, Issues.notifyMaintainers]
  refine Tx.Leads.read_bind ?_
  refine (Tx.Leads.forEach_all (I := Asking issue w)
    (D := fun (account : Uuid × ℕ) u =>
      ∃ t ∈ u.todos, sameSource (retestTodo issue issue.id account.1) t = true)
    (.refl issue w) fun account _ u hu => ?_).mono (fun _ => id) fun _ u hu => ?_
  · obtain ⟨accountId, k⟩ := account
    dsimp only
    rw [if_pos (by simp)]
    refine (notify_cases _ (fun id => retestTodo issue id accountId) _).bind fun _ x hx => ?_
    rcases hx with ⟨rfl, hsource⟩ | ⟨hfresh, outbox, rfl⟩
    · exact ⟨hu, hsource, fun _ => id⟩
    · refine ⟨hu.cons hfresh outbox, ⟨_, List.mem_cons_self, ?_⟩, ?_⟩
      · exact sameSource_retestTodo.2 ⟨rfl, rfl, rfl⟩
      · rintro account ⟨t, ht, hsource⟩
        exact ⟨t, List.mem_cons_of_mem _ ht, hsource⟩
  · refine ⟨hu.1, fun accountId haccount => ?_⟩
    obtain ⟨k, hk, hget⟩ := List.getElem_of_mem haccount
    refine hu.2 (accountId, k) (List.mem_iff_getElem?.2 ⟨k, ?_⟩)
    rw [List.getElem?_zipIdx, List.getElem?_eq_getElem hk, hget]
    simp

/-! ## `update_issue` -/

/-- The issues have been rewritten, and maybe todos about other matters. -/
structure Written (issues : List Issue) (w v : Database) : Prop where
  sourced : Sourced v
  issues : v.issues = issues
  accesses : v.accesses = w.accesses
  workspaces : v.workspaces = w.workspaces

theorem Aside.accesses {K : TodoKind → Prop} (h : Aside K w v) : v.accesses = w.accesses := by
  cases h with
  | ended now todoId verdict => cases verdict <;> rfl
  | _ => rfl

variable {issues : List Issue}

theorem frame_written (issues : List Issue) (w : Database) :
    Frame (fun db db' => Written issues w db → Written issues w db')
      (· ≠ .retestArrangementNeeded) :=
  fun _ _ haside h => ⟨h.sourced.aside haside, haside.issues.trans h.issues,
    haside.accesses.trans h.accesses, haside.workspaces.trans h.workspaces⟩

/-- The todos that ask for a retest. -/
def retestTodos (db : Database) : List NotificationTodo :=
  db.todos.filter (·.kind == .retestArrangementNeeded)

theorem mem_retestTodos {t : NotificationTodo} (ht : t ∈ db.todos)
    (hkind : t.kind = .retestArrangementNeeded) : t ∈ retestTodos db :=
  List.mem_filter.2 ⟨ht, beq_iff_eq.2 hkind⟩

/-- The todos before the maintainers are asked about the issue that `issue` becomes: a new
adjustment has none, and those of the present one are as they were. -/
structure Before (issue issue' : Issue) (changed : Bool) (w u : Database) : Prop where
  begun : changed = true → ∀ t ∈ u.todos, t.kind = .retestArrangementNeeded →
    t.sourceKey ≠ .adjustment issue'.id issue'.adjustmentGeneration
  kept : changed = false → retestTodos u = retestTodos w

/-- **Who is asked** once the loop is over. -/
theorem requested_iff {issue' : Issue} {changed : Bool} {u : Database} (hsourced : Sourced w)
    (hunique : ∀ i ∈ w.issues, i.id = issue.id → i = issue)
    (hvisible : exitAllowsWrite none issue.workspaceId w = true) (hid : issue'.id = issue.id)
    (hwork : issue'.workId = issue.workId)
    (hgeneration : changed = false → issue'.adjustmentGeneration = issue.adjustmentGeneration)
    (hwritten : Written issues w u) (hbefore : Before issue issue' changed w u)
    (hasking : Asking issue' u v)
    (hall : ∀ accountId ∈ Workspaces.currentWorkMaintainerIds u issue'.workId,
      ∃ t ∈ v.todos, sameSource (retestTodo issue' issue'.id accountId) t = true) :
    RetestRequested issue' v ↔ changed = true ∨ RetestUnsettled issue w := by
  have hmaintainers : ∀ x : Database, x.accesses = w.accesses →
      Workspaces.currentWorkMaintainerIds x issue'.workId =
        Workspaces.currentWorkMaintainerIds w issue.workId := by
    intro x hx
    rw [Workspaces.currentWorkMaintainerIds, Workspaces.currentWorkMaintainerIds, hx, hwork]
  have hu := hmaintainers u hwritten.accesses
  have hv := hmaintainers v (by rw [hasking.rest]; exact hwritten.accesses)
  have hsame : changed = false → asksRetest issue' = asksRetest issue := by
    intro hchanged
    funext accountId t
    rw [asksRetest, asksRetest, hid, hgeneration hchanged]
  rw [RetestRequested, hv]
  constructor
  · intro hrequested
    by_cases hchanged : changed = true
    · exact .inl hchanged
    rw [Bool.not_eq_true] at hchanged
    refine .inr fun accountId haccount ⟨t₀, ht₀, hasks₀⟩ => ?_
    obtain ⟨t, ht, hasks, hopened⟩ := hrequested accountId haccount
    rcases hasking.new t ht with hold | ⟨id, accountId', rfl, hnone⟩
    · have hkind := (asksRetest_iff.1 hasks).2.1
      have hmem : t ∈ retestTodos w := hbefore.kept hchanged ▸ mem_retestTodos hold hkind
      exact ⟨t, (List.mem_filter.1 hmem).1, hsame hchanged ▸ hasks, hopened⟩
    · exfalso
      -- The maintainer has had a todo, so the loop has not created one.
      obtain ⟨hrecipient, hkind, -, htarget, hsource⟩ := asksRetest_iff.1 hasks₀
      have hmem : t₀ ∈ retestTodos u := (hbefore.kept hchanged).symm ▸ mem_retestTodos ht₀ hkind
      obtain ⟨-, i, hi, hiid, hworkspace, -⟩ := hsourced t₀ ht₀ hkind
      have hplace : t₀.workspaceId = issue.workspaceId := by
        rw [← hworkspace, hunique i hi (hiid.trans htarget)]
      have hnot := hnone t₀ (List.mem_filter.1 hmem).1 (by
        rw [exitAllowsWrite, hwritten.workspaces, hplace]
        exact hvisible)
      have hrecipient' : accountId' = accountId := (asksRetest_iff.1 hasks).1
      rw [sameSource_retestTodo.2 ⟨hrecipient.trans hrecipient'.symm, hkind, by
        rw [hsource, hid, hgeneration hchanged]⟩] at hnot
      cases hnot
  · intro hcondition accountId haccount
    obtain ⟨t, ht, hsource⟩ := hall accountId (hu ▸ haccount)
    obtain ⟨hrecipient, hkind, hkey⟩ := sameSource_retestTodo.1 hsource
    rcases hasking.new t ht with hold | ⟨id, accountId', rfl, -⟩
    · rcases hcondition with hchanged | hunsettled
      · exact absurd hkey (hbefore.begun hchanged t hold hkind)
      by_cases hchanged : changed = true
      · exact absurd hkey (hbefore.begun hchanged t hold hkind)
      rw [Bool.not_eq_true] at hchanged
      have hkept := hbefore.kept hchanged
      have hmem : t ∈ w.todos :=
        (List.mem_filter.1 (hkept ▸ mem_retestTodos hold hkind : t ∈ retestTodos w)).1
      obtain ⟨htarget, i, -, hiid, -, n, -, hkey'⟩ := hsourced t hmem hkind
      have htargetId : t.targetId = issue'.id := by
        rw [hkey'] at hkey
        rw [← hiid]
        exact (SourceKey.adjustment.inj hkey).1
      have hasks : asksRetest issue' accountId t = true :=
        asksRetest_iff.2 ⟨hrecipient, hkind, htarget, htargetId, hkey⟩
      obtain ⟨t', ht', hasks', hopened⟩ := hunsettled accountId haccount
        ⟨t, hmem, hsame hchanged ▸ hasks⟩
      have hmem' : t' ∈ retestTodos u :=
        hkept.symm ▸ mem_retestTodos ht' (asksRetest_iff.1 hasks').2.1
      exact ⟨t', hasking.old t' (List.mem_filter.1 hmem').1, (hsame hchanged).symm ▸ hasks',
        hopened⟩
    · obtain rfl : accountId' = accountId := hrecipient
      exact ⟨_, ht, asksRetest_retestTodo id accountId', rfl⟩

/-- Asking about an issue that is there. -/
theorem Asking.sourced (h : Asking issue w v) (hw : Sourced w) (hissue : issue ∈ w.issues) :
    Sourced v := by
  intro t ht hkind
  rw [h.rest]
  rcases h.new t ht with hold | ⟨id, accountId, rfl, -⟩
  · exact hw t hold hkind
  · exact ⟨rfl, issue, hissue, rfl, rfl, issue.adjustmentGeneration, le_rfl, rfl⟩

theorem Asking.written (h : Asking issue w v) {w₀ : Database} (hw : Written issues w₀ w)
    (hissue : issue ∈ issues) : Written issues w₀ v where
  sourced := h.sourced hw.sourced (hw.issues ▸ hissue)
  issues := by rw [h.rest]; exact hw.issues
  accesses := by rw [h.rest]; exact hw.accesses
  workspaces := by rw [h.rest]; exact hw.workspaces

/-- What `update_issue` does about the todos once the issue `issue` has become `issue'`. -/
structure Answered (issues : List Issue) (issue issue' : Issue) (wasOpen changed : Bool)
    (w v : Database) : Prop where
  written : Written issues w v
  requested : issue'.status = .opened → issue'.adjustmentNote.isSome →
    (changed = true ∨ wasOpen = false) →
    (RetestRequested issue' v ↔ changed = true ∨ RetestUnsettled issue w)

/-- **The todos after the issue was rewritten.** -/
theorem updateTodos_asks {issue' : Issue} {wasOpen changed : Bool} (hsourced : Sourced w)
    (hunique : ∀ i ∈ w.issues, i.id = issue.id → i = issue)
    (hvisible : exitAllowsWrite none issue.workspaceId w = true) (hid : issue'.id = issue.id)
    (hwork : issue'.workId = issue.workId)
    (hgeneration : issue'.adjustmentGeneration =
      if changed then issue.adjustmentGeneration + 1 else issue.adjustmentGeneration)
    (hissue' : issue' ∈ issues) (hv : Written issues w v) (htodos : v.todos = w.todos)
    (uuids : Uuids) (now : Timestamp) :
    (Issues.updateTodos uuids now issue' wasOpen changed).Leads R
      (fun _ => Answered issues issue issue' wasOpen changed w) v := by
  have hF := frame_written issues w
  rw [Issues.updateTodos]
  split
  · rename_i hclosed
    refine Tx.Within.kept_bind (I := Written issues w) (keeps_endAll hF _ _ _) hv fun _ x _ hx => ?_
    refine (Tx.Within.kept (I := Written issues w) (keeps_endAll hF _ _ _) hx).mono (fun _ => id)
      fun _ y hy => ⟨hy.2, fun hopened => ?_⟩
    rw [hclosed] at hopened
    cases hopened
  simp -zeta only [Tx.bind_eq, Tx.pure_eq]
  extract_lets rest₁ rest₂
  -- A todo of a later adjustment than the issue has had would have no issue.
  have hlater : changed = true → ∀ t ∈ w.todos, t.kind = .retestArrangementNeeded →
      t.sourceKey ≠ .adjustment issue'.id issue'.adjustmentGeneration := by
    intro hchanged t ht hkind hkey
    obtain ⟨-, i, hi, -, -, n, hn, hkey'⟩ := hsourced t ht hkind
    rw [hkey', hid, hgeneration, if_pos hchanged] at hkey
    obtain ⟨hiid, hn'⟩ := SourceKey.adjustment.inj hkey
    rw [hunique i hi hiid] at hn
    omega
  have hrest₁ : ∀ x, Written issues w x → Before issue issue' changed w x →
      (rest₁ ()).Leads R (fun _ => Answered issues issue issue' wasOpen changed w) x := by
    intro x hx hbefore
    dsimp only [rest₁]
    split
    · refine (notifyRetestNeeded_leads _ _ issue').mono (fun _ => id) fun _ y hy => ?_
      refine ⟨hy.1.written hx hissue', fun _ _ _ => ?_⟩
      refine requested_iff hsourced hunique hvisible hid hwork (fun hchanged => ?_) hx hbefore
        hy.1 hy.2
      rw [hgeneration, hchanged]
      rfl
    · rename_i hnot
      refine ⟨hx, fun _ hnote hcase => absurd ?_ hnot⟩
      rcases hcase with hchanged | hreopened
      · simp [hnote, hchanged]
      · simp [hnote, hreopened]
  have hrest₂ : ∀ x, Written issues w x → retestTodos x = retestTodos w →
      (rest₂ ()).Leads R (fun _ => Answered issues issue issue' wasOpen changed w) x := by
    intro x hx hkept
    dsimp only [rest₂]
    have hnone : changed = true → ∀ t ∈ x.todos, t.kind = .retestArrangementNeeded →
        t.sourceKey ≠ .adjustment issue'.id issue'.adjustmentGeneration := by
      intro hchanged t ht hkind
      have hmem : t ∈ retestTodos w := hkept ▸ mem_retestTodos ht hkind
      exact hlater hchanged t (List.mem_filter.1 hmem).1 hkind
    split
    · rename_i hchanged
      let I : Database → Prop := fun y => Written issues w y ∧ ∀ t ∈ y.todos,
        t.kind = .retestArrangementNeeded →
          t.sourceKey ≠ .adjustment issue'.id issue'.adjustmentGeneration
      have hI : Frame (fun db db' => I db → I db') (· ≠ .retestArrangementNeeded) := by
        intro db db' haside hdb
        refine ⟨hF db db' haside hdb.1, ?_⟩
        cases haside with
        | ended now todoId verdict =>
          intro t ht hkind
          obtain ⟨u, hu, status, resolvedAt, rfl⟩ := mem_todos_apply ht
          exact hdb.2 u hu hkind
        | created todo hother =>
          intro t ht hkind
          rcases List.mem_cons.1 ht with rfl | ht
          · exact absurd hkind hother
          · exact hdb.2 t ht hkind
        | _ => exact hdb.2
      refine Tx.Within.kept_bind (I := I) (keeps_endAll hI _ _ _) ⟨hx, hnone hchanged⟩
        fun _ y _ hy => hrest₁ y hy.1 ⟨fun _ => hy.2, fun hnot => ?_⟩
      rw [hchanged] at hnot
      cases hnot
    · exact hrest₁ x hx ⟨hnone, fun _ => hkept⟩
  have hkept : retestTodos v = retestTodos w := by
    rw [retestTodos, retestTodos, htodos]
  split
  · refine (Issues.notifyMaintainers_leads
      (I := fun x => Written issues w x ∧ retestTodos x = retestTodos w) ⟨hv, hkept⟩ _ _ _ _ _
      (fun db outbox h => ⟨hF _ _ (.mails fun _ => outbox) h.1, h.2⟩)
      fun db todo hdb _ _ hkind _ _ => ?_).bind fun _ x hx => hrest₂ x hx.1 hx.2
    have hother : todo.kind ≠ .retestArrangementNeeded := by
      rw [hkind]
      exact TodoKind.noConfusion
    refine ⟨hF _ _ (.created todo hother) hdb.1, ?_⟩
    rw [← hdb.2, retestTodos, retestTodos]
    exact List.filter_cons_of_neg (by simpa using hother)
  · exact hrest₂ v hv hkept

/-- What `update_issue` commits. -/
def Reworked (issueId : Uuid) (adjustmentNote : Option String) (w v : Database) : Prop :=
  Sourced v ∧ ∃ issue ∈ w.issues, issue.id = issueId ∧ ∃ note issue' wasOpen,
    optionalText 4000 adjustmentNote = some note ∧ issue'.adjustmentNote = note ∧
    (wasOpen = false ↔ issue.status = .closed) ∧ (∀ i ∈ v.issues, i.id = issueId → i = issue') ∧
    Answered v.issues issue issue' wasOpen (note != issue.adjustmentNote) w v

theorem updateIssue_asks (hdb : WellFormed w) (hsourced : Sourced w) (uuids : Uuids)
    (now : Timestamp) (actorId workspaceId workId issueId : Uuid) (description : String)
    (decision : IssueDecision) (reason : String) (adjustmentNote : Option String)
    (status : IssueStatus) (expectedRevision : ℤ) :
    (Issues.updateIssue uuids now actorId workspaceId workId issueId description decision reason
      adjustmentNote status expectedRevision).Leads (Reworked issueId adjustmentNote w)
      (fun _ _ => True) w := by
  rw [Issues.updateIssue]
  simp -zeta only [Tx.bind_eq, Tx.pure_eq]
  refine Tx.Leads.mapError ?_
  refine Tx.Leads.require_bind fun texts _ => Tx.Leads.require_bind fun note hnote => ?_
  refine Tx.Leads.ensure_bind fun _ => ?_
  refine (unchanged_requireIssueManagement _ _ _).unchanged_bind fun _ _ => ?_
  rw [Issues.loadIssue, Tx.bind_eq, Tx.bind_assoc]
  refine Tx.Leads.selectForUpdate_bind (Tx.Leads.require_bind fun issue hissue => ?_)
  have hmem := List.mem_of_find?_eq_some hissue
  have hfound := List.find?_some hissue
  rw [Bool.and_eq_true, beq_iff_eq] at hfound
  have hunique : ∀ i ∈ w.issues, i.id = issue.id → i = issue := fun i hi hid =>
    Table.eq_of_filter_le_one (hdb.issue issue.id) hi hmem (beq_iff_eq.2 hid)
      (beq_self_eq_true _)
  refine Tx.Leads.ensure_bind fun _ => ?_
  extract_lets adjustmentChanged change rest
  rw [Issues.writeIssue]
  refine Tx.Leads.writeIf_bind fun _ => ?_
  have hplace : ∀ i, (change i).id = i.id ∧ (change i).workspaceId = i.workspaceId :=
    fun _ => ⟨rfl, rfl⟩
  let issues := Table.update (·.id == issue.id) change w.issues
  have hrow : change issue ∈ issues :=
    Table.mem_update.2 (.inl ⟨issue, hmem, beq_self_eq_true _, rfl⟩)
  have hone : ∀ i ∈ issues, i.id = issueId → i = change issue := by
    intro i hi hid
    rcases Table.mem_update.1 hi with ⟨i₀, hi₀, hk, rfl⟩ | ⟨hi, hk⟩
    · rw [hunique i₀ hi₀ (beq_iff_eq.1 hk)]
    · rw [beq_eq_false_iff_ne] at hk
      exact absurd (hid.trans hfound.1.symm) hk
  have hwritten : Written issues w { w with issues := issues } := by
    refine ⟨hsourced.edited hplace fun i hi hid => ?_, rfl, rfl, rfl⟩
    rw [hunique i hi hid]
    show issue.adjustmentGeneration ≤ if adjustmentChanged then _ else issue.adjustmentGeneration
    split <;> omega
  have hrest : ∀ v, Written issues w v → v.todos = w.todos →
      (rest ()).Leads (Reworked issueId adjustmentNote w) (fun _ _ => True) v := by
    intro v hv htodos
    have hid : (change issue).id = issue.id := rfl
    refine (updateTodos_asks hsourced hunique hfound.2 hid rfl rfl hrow hv htodos
      _ _).bind fun _ u hu => ?_
    refine Tx.Leads.commitNow_bind ⟨hu.written.sourced, issue, hmem, hfound.1, note, change issue,
      issue.status == .opened, hnote, rfl, ?_, ?_, ?_⟩ ?_
    · cases issue.status <;> simp
    · rw [hu.written.issues]
      exact hone
    · rw [hu.written.issues]
      exact hu
    · have hany : ∀ db db', Aside (fun _ => True) db db' → (fun _ _ => True : Database →
        Database → Prop) db db' := fun _ _ _ => trivial
      exact Tx.Within.leads_any ((keeps_currentConclusion hany _).bind fun _ => keeps_pure _) _
  split
  · refine Tx.Leads.selectAllForUpdate_bind ?_
    rw [Issues.writeLinks]
    split
    · exact hrest _ hwritten rfl
    · exact Tx.Leads.writeIf_bind fun _ => hrest _
        ⟨hwritten.sourced, hwritten.issues, hwritten.accesses, hwritten.workspaces⟩ rfl
  · exact hrest _ hwritten rfl

/-! ## Every operation -/

/-- Every statement of `complete_todo` makes a change of the shared parts. -/
theorem steps_completeTodo {F : Database → Database → Prop} {K : TodoKind → Prop}
    (hF : Frame F K) (now : Timestamp) (recipientId todoId : Uuid) :
    (Notifications.completeTodo now recipientId todoId).Steps F := by
  rw [Notifications.completeTodo]
  refine Tx.Steps.after (keeps_selectForUpdate hF _ _) fun todo _ => ?_
  refine Tx.Steps.after (keeps_require _ _) fun todo _ => ?_
  refine Tx.Steps.after (keeps_ensure _ _) fun _ _ => ?_
  refine Tx.Steps.after (Workspaces.ensureWritable_within hF.refl _) fun _ _ => ?_
  split
  · exact Tx.Steps.after (keeps_endSelected hF _ _ _ _) fun _ _ => Tx.Steps.commitNow_bind trivial
  · exact Tx.Steps.commitNow_bind trivial

theorem sourced_exec (op : Operation) (hdb : WellFormed db) (h : Sourced db) :
    Sourced ((op.program settings normalizeEmail).exec db).1 := by
  have hsteps : ∀ t : Program Unit, t.Steps (fun s s' => Sourced s → Sourced s') →
      Sourced (t.exec db).1 := fun t ht =>
    ht.exec (fun _ => id) (fun _ _ _ hst htu hs => htu (hst hs)) db h
  cases op with
  | completeTodo now recipientId todoId =>
    exact hsteps _ (steps_completeTodo (fun _ _ haside hs => hs.aside haside) _ _ _)
  | call c =>
    have hchange : .retestArrangementNeeded ∉ c.sparesTodos.notifies →
        c.sparesTodos.adjusts = false →
        Sourced ((c.sparesTodos.program settings normalizeEmail).exec db).1 :=
      fun hkinds hadjusts => hsteps _ ((Call.changes settings normalizeEmail c.sparesTodos).mono
        fun _ _ hchange => hchange.sourced hkinds hadjusts fun _ => Call.sparesTodos_elsewhere)
    cases c with
    | updateIssue uuids now actorId workspaceId workId issueId description decision reason note
        status revision =>
      have hleads := updateIssue_asks hdb h uuids now actorId workspaceId workId issueId description
        decision reason note status revision
      rcases hleads.exec with hsame | hreworked
      · exact (congrArg Sourced hsame).mpr h
      · exact hreworked.1
    | _ => exact hchange (by simp [Call.sparesTodos, Call.notifies]) rfl

theorem sourced_of_reachable (h : (todoSystem settings normalizeEmail).Reachable db) :
    WellFormed db ∧ Sourced db :=
  todo_induction (I := Sourced) (fun _ ht => absurd ht List.not_mem_nil)
    (fun _ op hdb _ hI => sourced_exec op hdb hI) (TransitionSystem.restrict_of_reachable h)

/-! ## The result -/

/-- **Reopening an issue, or changing its adjustment, asks every maintainer for a retest** exactly
when the adjustment changes, or no maintainer's todo for the present one has ended. -/
theorem reopened_asks_retest {db' : Database}
    (h : (todoSystem settings normalizeEmail).Reachable db) {uuids : Uuids} {now : Timestamp}
    {actorId workspaceId workId issueId : Uuid} {description : String} {decision : IssueDecision}
    {reason : String} {adjustmentNote : Option String} {status : IssueStatus}
    {expectedRevision : ℤ}
    (hcall : (Issues.updateIssue uuids now actorId workspaceId workId issueId description decision
      reason adjustmentNote status expectedRevision).exec db = (db', .ok ()))
    {issue issue' : Issue} (hissue : issue ∈ db.issues) (hid : issue.id = issueId)
    (hissue' : issue' ∈ db'.issues) (hid' : issue'.id = issueId)
    (hopened : issue'.status = .opened) (hnote : issue'.adjustmentNote.isSome)
    (hcase : issue'.adjustmentNote ≠ issue.adjustmentNote ∨ issue.status = .closed) :
    RetestRequested issue' db' ↔
      optionalText 4000 adjustmentNote ≠ some issue.adjustmentNote ∨ RetestUnsettled issue db := by
  obtain ⟨hdb, hsourced⟩ := sourced_of_reachable h
  have hunique : ∀ i ∈ db.issues, i.id = issueId → i = issue := fun i hi hiid =>
    Table.eq_of_filter_le_one (hdb.issue issueId) hi hissue (beq_iff_eq.2 hiid)
      (beq_iff_eq.2 hid)
  have hexec := (updateIssue_asks hdb hsourced uuids now actorId workspaceId workId issueId
    description decision reason adjustmentNote status expectedRevision).exec
  rw [hcall] at hexec
  rcases hexec with hsame | ⟨-, issue₀, hissue₀, hid₀, note, issue₁, wasOpen, hnote₀, hnote₁,
    hwasOpen, hone, hanswered⟩
  · obtain rfl : db' = db := hsame
    rw [hunique issue' hissue' hid'] at hcase hopened
    rcases hcase with hnote | hclosed
    · exact absurd rfl hnote
    · rw [hclosed] at hopened
      cases hopened
  obtain rfl := hunique issue₀ hissue₀ hid₀
  obtain rfl := hone issue' hissue' hid'
  have hchanged : (note != issue₀.adjustmentNote) = true ↔ note ≠ issue₀.adjustmentNote :=
    bne_iff_ne
  rw [hanswered.requested hopened hnote (hcase.imp (by rw [hnote₁]; exact hchanged.2) hwasOpen.2),
    hchanged, hnote₀, Ne, Ne, Option.some.injEq]

/-! ### An issue that is adjusted, closed and reopened -/

/-- The issue of the run is given its adjustment, and a status. -/
def slowAdjusted (key : Uuid) (status : IssueStatus) (expectedRevision : ℤ) : Call :=
  .updateIssue (keysFrom key) 9 1 10 20 slowIssue "slow" .modify "long" (some "fewer stones")
    status expectedRevision

/-- An issue that is open and has an adjustment is what `t` makes of one that was closed or had
another adjustment. -/
def reopens (t : Program Unit) (p : Issue → Issue → Database → Bool) (db : Database) : Bool :=
  (t.exec db).2.toBool && db.issues.any fun i => (t.exec db).1.issues.any fun i' =>
    i.id == slowIssue && i'.id == slowIssue && i'.status == .opened && i'.adjustmentNote.isSome &&
      (i'.adjustmentNote != i.adjustmentNote || i.status == .closed) && p i i' (t.exec db).1

theorem reopens_spec {t : Program Unit} {p : Issue → Issue → Database → Bool}
    (h : reopens t p db = true) :
    ∃ db', t.exec db = (db', .ok ()) ∧ ∃ i ∈ db.issues, ∃ i' ∈ db'.issues, i.id = slowIssue ∧
      i'.id = slowIssue ∧ i'.status = .opened ∧ i'.adjustmentNote.isSome = true ∧
      (i'.adjustmentNote ≠ i.adjustmentNote ∨ i.status = .closed) ∧ p i i' db' = true := by
  rw [reopens, Bool.and_eq_true, List.any_eq_true] at h
  obtain ⟨hok, i, hi, hany⟩ := h
  obtain ⟨i', hi', hp⟩ := List.any_eq_true.1 hany
  simp only [Bool.and_eq_true, Bool.or_eq_true, beq_iff_eq, bne_iff_ne] at hp
  obtain ⟨⟨⟨⟨⟨hid, hid'⟩, hopened⟩, hnote⟩, hcase⟩, hp⟩ := hp
  refine ⟨(t.exec db).1, Prod.ext rfl ?_, i, hi, i', hi', hid, hid', hopened, hnote, hcase, hp⟩
  cases hresult : (t.exec db).2 with
  | ok _ => rfl
  | error e =>
    rw [hresult] at hok
    cases hok

theorem reopened_asks_retest_adjusted :
    ∃ db issue, RetestRequested issue db ∧
      1 ∈ Workspaces.currentWorkMaintainerIds db issue.workId := by
  obtain ⟨db, hdb, hp⟩ := @todos_of_runs .withoutCipher some (fun _ _ => true)
    ((retestArranged.take 5).map .call)
    (reopens ((slowAdjusted 4000 .opened 1).program .withoutCipher some) fun i i' db' =>
      optionalText 4000 (some "fewer stones") != some i.adjustmentNote &&
        (Workspaces.currentWorkMaintainerIds db' i'.workId).contains 1) (by decide +kernel)
  obtain ⟨db', hexec, i, hi, i', hi', hid, hid', hopened, hnote, hcase, hp⟩ := reopens_spec hp
  rw [Bool.and_eq_true, bne_iff_ne, List.contains_iff_mem] at hp
  exact ⟨db', i', (reopened_asks_retest (TransitionSystem.reachable_of_restrict hdb) hexec hi hid
    hi' hid' hopened hnote hcase).2 (.inl hp.1), hp.2⟩

/-- An issue is closed and reopened. Its maintainer's todo was cancelled, and there is no other. -/
theorem reopened_asks_nobody :
    ∃ db db' issue issue', (todoSystem .withoutCipher some).Reachable db ∧
      ((slowAdjusted 8000 .opened 3).program .withoutCipher some).exec db = (db', .ok ()) ∧
      issue ∈ db.issues ∧ issue.id = slowIssue ∧ issue' ∈ db'.issues ∧ issue'.id = slowIssue ∧
      issue'.status = .opened ∧ issue'.adjustmentNote.isSome = true ∧
      (issue'.adjustmentNote ≠ issue.adjustmentNote ∨ issue.status = .closed) ∧
      ¬ RetestRequested issue' db' := by
  obtain ⟨db, hdb, hp⟩ := @todos_of_runs .withoutCipher some (fun _ _ => true)
    ((retestArranged.take 5 ++ [slowAdjusted 4000 .opened 1, slowAdjusted 7000 .closed 2]).map
      .call)
    (reopens ((slowAdjusted 8000 .opened 3).program .withoutCipher some) fun _ i' db' =>
      (Workspaces.currentWorkMaintainerIds db' i'.workId).contains 1 &&
        !db'.todos.any fun t => asksRetest i' 1 t && t.status == .opened) (by decide +kernel)
  obtain ⟨db', hexec, i, hi, i', hi', hid, hid', hopened, hnote, hcase, hp⟩ := reopens_spec hp
  rw [Bool.and_eq_true, List.contains_iff_mem, Bool.not_eq_true', List.any_eq_false] at hp
  refine ⟨db, db', i, i', TransitionSystem.reachable_of_restrict hdb, hexec, hi, hid, hi', hid',
    hopened, hnote, hcase, fun hrequested => ?_⟩
  obtain ⟨t, ht, hasks, hstatus⟩ := hrequested 1 hp.1
  exact hp.2 t ht (by rw [hasks, hstatus]; rfl)

end Playtests

end Rulefolio
