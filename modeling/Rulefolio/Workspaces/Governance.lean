import Rulefolio.Workspaces.Effects

/-!
# Who is a member and who may do what

`Governed` is the invariant by which a workspace and its works stay governed: a work has a
maintainer, whoever has a role in a work is a member of its workspace, and the owner of a workspace
is a member. It speaks of the rows of four tables, so no lock on one row protects it. What a commit
must do for it is `Governs`: keep it, if it held when the commit was made, and let the others know
under which locks memberships and accesses come into being.

## Main definitions

* `Governed` — the invariant.
* `Governs` — what a commit does about it.

## Main results

* `Governs.of_changes`, `Governs.of_workspace`, `Governs.of_join`, … — how the calls keep it.
* `Governs.of_unchanged` — a commit that leaves the four tables alone.
-/

namespace Rulefolio

namespace Workspaces

/-- A work of a workspace that is not over has a maintainer, every role is one of a member, and the
owner of a workspace that is not over is a member. -/
structure Governed (db : Database) : Prop where
  maintained : ∀ workId, ∀ w ∈ db.workspaces, w.id ∈ (rowsAt (.work workId) db).works →
    w.exitCompletedAt = none → ∃ a ∈ db.accesses, a.workId = workId ∧ a.role = .maintainer
  members : ∀ a ∈ db.accesses, ⟨a.workspaceId, a.accountId⟩ ∈ db.members
  placed : ∀ a ∈ db.accesses, a.workspaceId ∈ (rowsAt (.work a.workId) db).works
  housed : ∀ workId, ∀ workspaceId ∈ (rowsAt (.work workId) db).works,
    ∃ w ∈ db.workspaces, w.id = workspaceId
  owned : ∀ w ∈ db.workspaces, w.exitCompletedAt = none → ⟨w.id, w.ownerAccountId⟩ ∈ db.members

theorem governed_empty : Governed Database.empty where
  maintained _ _ hw := absurd hw List.not_mem_nil
  members _ ha := absurd ha List.not_mem_nil
  placed _ ha := absurd ha List.not_mem_nil
  housed _ _ hw := absurd hw List.not_mem_nil
  owned _ hw := absurd hw List.not_mem_nil

/-- What a commit under the locks `H` does about who is a member and who may do what. -/
structure Governs (H : Set (RowKey × RowLock)) (db db' : Database) : Prop where
  /-- Whoever makes a member has the workspace locked. -/
  joins : ∀ m ∈ db'.members, m ∈ db.members ∨ ∃ mode, (.workspace m.workspaceId, mode) ∈ H
  /-- Whoever gives a member a role has the membership locked. -/
  grants : ∀ a ∈ db'.accesses, a ∈ db.accesses ∨ (⟨a.workspaceId, a.accountId⟩ ∈ db.members ∧
    (.member a.workspaceId a.accountId, .update) ∈ H)
  keeps : Governed db → Governed db'

/-! ## Rows and tables -/

variable {db db' : Database}

theorem mem_members {m : WorkspaceMember} {k : RowKey} :
    m ∈ (rowsAt k db).members ↔ m ∈ db.members ∧ memberKey m = k :=
  Table.mem_rowsWith

theorem mem_accesses {a : WorkAccess} {k : RowKey} :
    a ∈ (rowsAt k db).accesses ↔ a ∈ db.accesses ∧ accessKey a = k :=
  Table.mem_rowsWith

theorem mem_workspaces {w : Workspace} {k : RowKey} :
    w ∈ (rowsAt k db).workspaces ↔ w ∈ db.workspaces ∧ workspaceKey w = k :=
  Table.mem_rowsWith

/-- A row of a table is there if it is there under its key. -/
theorem mem_members_iff (db : Database) {m : WorkspaceMember} :
    m ∈ db.members ↔ m ∈ (rowsAt (memberKey m) db).members :=
  ⟨fun h => mem_members.2 ⟨h, rfl⟩, fun h => (mem_members.1 h).1⟩

theorem mem_accesses_iff (db : Database) {a : WorkAccess} :
    a ∈ db.accesses ↔ a ∈ (rowsAt (accessKey a) db).accesses :=
  ⟨fun h => mem_accesses.2 ⟨h, rfl⟩, fun h => (mem_accesses.1 h).1⟩

theorem mem_workspaces_iff (db : Database) {w : Workspace} :
    w ∈ db.workspaces ↔ w ∈ (rowsAt (workspaceKey w) db).workspaces :=
  ⟨fun h => mem_workspaces.2 ⟨h, rfl⟩, fun h => (mem_workspaces.1 h).1⟩

section Outside

variable {K : Set RowKey}

/-- A row whose key is not among those changed. -/
theorem members_outside (h : rowViews.Outside K db db') {m : WorkspaceMember}
    (hk : memberKey m ∉ K) : m ∈ db'.members ↔ m ∈ db.members := by
  have hrows : rowsAt (memberKey m) db' = rowsAt (memberKey m) db := h _ hk
  rw [mem_members_iff db', mem_members_iff db, hrows]

theorem accesses_outside (h : rowViews.Outside K db db') {a : WorkAccess}
    (hk : accessKey a ∉ K) : a ∈ db'.accesses ↔ a ∈ db.accesses := by
  have hrows : rowsAt (accessKey a) db' = rowsAt (accessKey a) db := h _ hk
  rw [mem_accesses_iff db', mem_accesses_iff db, hrows]

theorem workspaces_outside (h : rowViews.Outside K db db') {w : Workspace}
    (hk : workspaceKey w ∉ K) : w ∈ db'.workspaces ↔ w ∈ db.workspaces := by
  have hrows : rowsAt (workspaceKey w) db' = rowsAt (workspaceKey w) db := h _ hk
  rw [mem_workspaces_iff db', mem_workspaces_iff db, hrows]

theorem works_outside (h : rowViews.Outside K db db') {workId : Uuid}
    (hk : RowKey.work workId ∉ K) :
    (rowsAt (.work workId) db').works = (rowsAt (.work workId) db).works :=
  congrArg Rows.works (h _ hk)

end Outside

/-! ## How the calls keep it -/

variable {H : Set (RowKey × RowLock)} {K : Set RowKey}

/-- Accesses are changed and members leave. -/
theorem Governs.of_changes (hworkspaces : ∀ w, w ∈ db'.workspaces ↔ w ∈ db.workspaces)
    (hworks : ∀ workId, (rowsAt (.work workId) db').works = (rowsAt (.work workId) db).works)
    (hmembers : ∀ m ∈ db'.members, m ∈ db.members)
    (hgrants : ∀ a ∈ db'.accesses, a ∈ db.accesses ∨
      (⟨a.workspaceId, a.accountId⟩ ∈ db.members ∧
        (.member a.workspaceId a.accountId, .update) ∈ H) ∧
      a.workspaceId ∈ (rowsAt (.work a.workId) db).works)
    (hmaintained : Governed db → ∀ a ∈ db.accesses, a.role = .maintainer →
      ∃ b ∈ db'.accesses, b.workId = a.workId ∧ b.role = .maintainer)
    (hcovered : Governed db → ∀ a ∈ db'.accesses, ⟨a.workspaceId, a.accountId⟩ ∈ db'.members)
    (howned : Governed db → ∀ w ∈ db.workspaces, w.exitCompletedAt = none →
      ⟨w.id, w.ownerAccountId⟩ ∈ db'.members) : Governs H db db' where
  joins m hm := .inl (hmembers m hm)
  grants a ha := (hgrants a ha).imp id And.left
  keeps hdb := by
    refine ⟨fun workId w hw hwork hopen => ?_, hcovered hdb, fun a ha => ?_,
      fun workId workspaceId hwork => ?_, fun w hw hopen => ?_⟩
    · rw [hworks] at hwork
      obtain ⟨a, ha, hid, hrole⟩ := hdb.maintained workId w ((hworkspaces w).1 hw) hwork hopen
      obtain ⟨b, hb, hbid, hbrole⟩ := hmaintained hdb a ha hrole
      exact ⟨b, hb, hbid.trans hid, hbrole⟩
    · rw [hworks]
      rcases hgrants a ha with hold | ⟨-, hplaced⟩
      · exact hdb.placed a hold
      · exact hplaced
    · rw [hworks] at hwork
      obtain ⟨w, hw, hid⟩ := hdb.housed workId workspaceId hwork
      exact ⟨w, (hworkspaces w).2 hw, hid⟩
    · exact howned hdb w ((hworkspaces w).1 hw) hopen

/-- A workspace is created, with its owner as a member. -/
theorem Governs.of_workspace {w : Workspace}
    (h : rowViews.Outside ({workspaceKey w} ∪ {.member w.id w.ownerAccountId}) db db')
    (hbefore : (rowsAt (workspaceKey w) db).workspaces = [])
    (hafter : (rowsAt (workspaceKey w) db').workspaces = [w])
    (habsent : (rowsAt (.member w.id w.ownerAccountId) db).members = [])
    (hmember : (rowsAt (.member w.id w.ownerAccountId) db').members
      = [⟨w.id, w.ownerAccountId⟩])
    (hlock : (.workspace w.id, .keyShare) ∈ H) : Governs H db db' := by
  have hmembers : ∀ m, m ∈ db'.members ↔ m ∈ db.members ∨ m = ⟨w.id, w.ownerAccountId⟩ := by
    intro m
    by_cases hm : memberKey m = .member w.id w.ownerAccountId
    · rw [mem_members_iff db', mem_members_iff db, hm, hmember, habsent]
      simp
    · rw [members_outside h fun hmem => hmem.elim nofun hm]
      refine ⟨.inl, fun hor => hor.resolve_right fun heq => hm ?_⟩
      rw [heq]
      rfl
  have hworkspaces : ∀ v, v ∈ db'.workspaces ↔ v ∈ db.workspaces ∨ v = w := by
    intro v
    by_cases hv : workspaceKey v = workspaceKey w
    · rw [mem_workspaces_iff db', mem_workspaces_iff db, hv, hafter, hbefore]
      simp
    · rw [workspaces_outside h (by simp [hv]; simp [workspaceKey])]
      refine ⟨.inl, fun hor => hor.resolve_right fun heq => hv (congrArg _ heq)⟩
  have haccesses : ∀ a, a ∈ db'.accesses ↔ a ∈ db.accesses := fun a =>
    accesses_outside h (by simp [accessKey, workspaceKey])
  have hworks : ∀ workId, (rowsAt (.work workId) db').works = (rowsAt (.work workId) db).works :=
    fun workId => works_outside h (by simp [workspaceKey])
  refine ⟨fun m hm => ?_, fun a ha => .inl ((haccesses a).1 ha),
    fun hdb => ⟨fun workId v hv hwork hopen => ?_, fun a ha => ?_, fun a ha => ?_,
      fun workId workspaceId hwork => ?_, fun v hv hopen => ?_⟩⟩
  · rcases (hmembers m).1 hm with hold | rfl
    · exact .inl hold
    · exact .inr ⟨.keyShare, hlock⟩
  · rw [hworks] at hwork
    rcases (hworkspaces v).1 hv with hold | rfl
    · obtain ⟨a, ha, hrole⟩ := hdb.maintained workId v hold hwork hopen
      exact ⟨a, (haccesses a).2 ha, hrole⟩
    · -- a work does not come before its workspace
      obtain ⟨u, hu, hid⟩ := hdb.housed workId _ hwork
      have hmem : u ∈ (rowsAt (workspaceKey v) db).workspaces :=
        mem_workspaces.2 ⟨hu, congrArg RowKey.workspace hid⟩
      rw [hbefore] at hmem
      cases hmem
  · exact (hmembers _).2 (.inl (hdb.members a ((haccesses a).1 ha)))
  · rw [hworks]
    exact hdb.placed a ((haccesses a).1 ha)
  · rw [hworks] at hwork
    obtain ⟨v, hv, hid⟩ := hdb.housed workId workspaceId hwork
    exact ⟨v, (hworkspaces v).2 (.inl hv), hid⟩
  · rcases (hworkspaces v).1 hv with hold | rfl
    · exact (hmembers _).2 (.inl (hdb.owned v hold hopen))
    · exact (hmembers _).2 (.inr rfl)

/-- An account joins a workspace. -/
theorem Governs.of_join {workspaceId accountId : Uuid}
    (h : rowViews.Outside K db db')
    (hK : ∀ k ∈ K, isGovernance k = true → k = .member workspaceId accountId)
    (habsent : (rowsAt (.member workspaceId accountId) db).members = [])
    (hmember : (rowsAt (.member workspaceId accountId) db').members = [⟨workspaceId, accountId⟩])
    (hlock : (.workspace workspaceId, .keyShare) ∈ H) : Governs H db db' := by
  have hmembers : ∀ m, m ∈ db'.members ↔ m ∈ db.members ∨ m = ⟨workspaceId, accountId⟩ := by
    intro m
    by_cases hm : memberKey m = .member workspaceId accountId
    · rw [mem_members_iff db', mem_members_iff db, hm, hmember, habsent]
      simp
    · rw [members_outside h fun hmem => hm (hK _ hmem rfl)]
      refine ⟨.inl, fun hor => hor.resolve_right fun heq => hm ?_⟩
      rw [heq]
      rfl
  have hworkspaces : ∀ v, v ∈ db'.workspaces ↔ v ∈ db.workspaces := fun v =>
    workspaces_outside h fun hmem => nomatch hK _ hmem rfl
  have haccesses : ∀ a, a ∈ db'.accesses ↔ a ∈ db.accesses := fun a =>
    accesses_outside h fun hmem => nomatch hK _ hmem rfl
  have hworks : ∀ workId, (rowsAt (.work workId) db').works = (rowsAt (.work workId) db).works :=
    fun workId => works_outside h fun hmem => nomatch hK _ hmem rfl
  refine ⟨fun m hm => ?_, fun a ha => .inl ((haccesses a).1 ha),
    fun hdb => ⟨fun workId v hv hwork hopen => ?_, fun a ha => ?_, fun a ha => ?_,
      fun workId workspaceId hwork => ?_, fun v hv hopen => ?_⟩⟩
  · rcases (hmembers m).1 hm with hold | rfl
    · exact .inl hold
    · exact .inr ⟨.keyShare, hlock⟩
  · rw [hworks] at hwork
    obtain ⟨a, ha, hrole⟩ := hdb.maintained workId v ((hworkspaces v).1 hv) hwork hopen
    exact ⟨a, (haccesses a).2 ha, hrole⟩
  · exact (hmembers _).2 (.inl (hdb.members a ((haccesses a).1 ha)))
  · rw [hworks]
    exact hdb.placed a ((haccesses a).1 ha)
  · rw [hworks] at hwork
    obtain ⟨v, hv, hid⟩ := hdb.housed workId workspaceId hwork
    exact ⟨v, (hworkspaces v).2 hv, hid⟩
  · exact (hmembers _).2 (.inl (hdb.owned v ((hworkspaces v).1 hv) hopen))

/-- A work is created, with a member as its maintainer. -/
theorem Governs.of_work (workId workspaceId accountId : Uuid)
    (h : rowViews.Outside ({.work workId} ∪ {.access workId accountId}) db db')
    (hhoused : ∃ w ∈ db.workspaces, w.id = workspaceId)
    (hbefore : (rowsAt (.work workId) db).works = [])
    (hafter : (rowsAt (.work workId) db').works = [workspaceId])
    (hmember : ⟨workspaceId, accountId⟩ ∈ db.members)
    (hlock : (.member workspaceId accountId, .update) ∈ H)
    (haccess : (rowsAt (.access workId accountId) db').accesses
      = [⟨workId, workspaceId, accountId, .maintainer⟩]) : Governs H db db' := by
  have hmembers : ∀ m, m ∈ db'.members ↔ m ∈ db.members := by
    intro m
    refine members_outside h fun hmem => ?_
    rcases hmem with hmem | hmem <;> nomatch hmem
  have hworkspaces : ∀ w, w ∈ db'.workspaces ↔ w ∈ db.workspaces := by
    intro w
    refine workspaces_outside h fun hmem => ?_
    rcases hmem with hmem | hmem <;> nomatch hmem
  have hother : ∀ a : WorkAccess, accessKey a ≠ .access workId accountId →
      accessKey a ∉ ({.work workId} ∪ {.access workId accountId} : Set RowKey) := by
    intro a hk hmem
    rcases hmem with hmem | hmem
    · nomatch hmem
    · exact hk hmem
  have hnew : (⟨workId, workspaceId, accountId, .maintainer⟩ : WorkAccess) ∈ db'.accesses := by
    refine (mem_accesses (k := .access workId accountId)).1 ?_ |>.1
    rw [haccess]
    exact List.mem_singleton_self _
  have haccesses : ∀ a ∈ db'.accesses, (a ∈ db.accesses ∧ accessKey a ≠ .access workId accountId) ∨
      a = ⟨workId, workspaceId, accountId, .maintainer⟩ := by
    intro a ha
    by_cases hk : accessKey a = .access workId accountId
    · have hmem : a ∈ (rowsAt (.access workId accountId) db').accesses := mem_accesses.2 ⟨ha, hk⟩
      rw [haccess] at hmem
      exact .inr (List.mem_singleton.1 hmem)
    · exact .inl ⟨(accesses_outside h (hother a hk)).1 ha, hk⟩
  have hkept : ∀ a ∈ db.accesses, a.workId ≠ workId → a ∈ db'.accesses := by
    intro a ha hid
    refine (accesses_outside h (hother a fun hk => ?_)).2 ha
    exact hid (RowKey.access.inj hk).1
  have hworks : ∀ id ≠ workId, (rowsAt (.work id) db').works = (rowsAt (.work id) db).works := by
    intro id hid
    refine works_outside h fun hmem => ?_
    rcases hmem with hk | hk
    · exact hid (RowKey.work.inj hk)
    · nomatch hk
  refine ⟨fun m hm => .inl ((hmembers m).1 hm), fun a ha => ?_,
    fun hdb => ⟨fun id w hw hwork hopen => ?_, fun a ha => ?_, fun a ha => ?_,
      fun id wid hwork => ?_, fun w hw hopen => ?_⟩⟩
  · rcases haccesses a ha with ⟨hold, -⟩ | rfl
    · exact .inl hold
    · exact .inr ⟨hmember, hlock⟩
  · by_cases hid : id = workId
    · exact ⟨_, hnew, hid.symm, rfl⟩
    · rw [hworks id hid] at hwork
      obtain ⟨a, ha, haid, hrole⟩ := hdb.maintained id w ((hworkspaces w).1 hw) hwork hopen
      exact ⟨a, hkept a ha (haid.symm ▸ hid), haid, hrole⟩
  · rw [hmembers]
    rcases haccesses a ha with ⟨hold, -⟩ | rfl
    · exact hdb.members a hold
    · exact hmember
  · rcases haccesses a ha with ⟨hold, -⟩ | rfl
    · have hplaced := hdb.placed a hold
      have hid : a.workId ≠ workId := by
        intro hid
        rw [hid, hbefore] at hplaced
        cases hplaced
      rw [hworks _ hid]
      exact hplaced
    · rw [hafter]
      exact List.mem_singleton_self _
  · by_cases hid : id = workId
    · rw [hid, hafter, List.mem_singleton] at hwork
      obtain ⟨w, hw, hwid⟩ := hhoused
      exact ⟨w, (hworkspaces w).2 hw, hwid.trans hwork.symm⟩
    · rw [hworks id hid] at hwork
      obtain ⟨w, hw, hwid⟩ := hdb.housed id wid hwork
      exact ⟨w, (hworkspaces w).2 hw, hwid⟩
  · exact (hmembers _).2 (hdb.owned w ((hworkspaces w).1 hw) hopen)

/-- A workspace is changed in what does not say who governs it. -/
theorem Governs.of_replaced {w w' : Workspace} (h : rowViews.Outside {workspaceKey w} db db')
    (hbefore : (rowsAt (workspaceKey w) db).workspaces = [w])
    (hafter : (rowsAt (workspaceKey w) db').workspaces = [w']) (hid : w'.id = w.id)
    (howner : w'.ownerAccountId = w.ownerAccountId)
    (hdone : w'.exitCompletedAt = w.exitCompletedAt) : Governs H db db' := by
  have hmembers : ∀ m, m ∈ db'.members ↔ m ∈ db.members := fun m => members_outside h nofun
  have haccesses : ∀ a, a ∈ db'.accesses ↔ a ∈ db.accesses := fun a => accesses_outside h nofun
  have hworks : ∀ workId, (rowsAt (.work workId) db').works = (rowsAt (.work workId) db).works :=
    fun workId => works_outside h nofun
  have hw : w ∈ db.workspaces := by
    have hmem : w ∈ (rowsAt (workspaceKey w) db).workspaces := by
      rw [hbefore]
      exact List.mem_singleton_self _
    exact (mem_workspaces.1 hmem).1
  have hw' : w' ∈ db'.workspaces := by
    have hmem : w' ∈ (rowsAt (workspaceKey w) db').workspaces := by
      rw [hafter]
      exact List.mem_singleton_self _
    exact (mem_workspaces.1 hmem).1
  have hof : ∀ v ∈ db'.workspaces, ∃ u ∈ db.workspaces, u.id = v.id ∧
      u.ownerAccountId = v.ownerAccountId ∧ u.exitCompletedAt = v.exitCompletedAt := by
    intro v hv
    by_cases hk : workspaceKey v = workspaceKey w
    · have hmem : v ∈ (rowsAt (workspaceKey w) db').workspaces := mem_workspaces.2 ⟨hv, hk⟩
      rw [hafter, List.mem_singleton] at hmem
      subst hmem
      exact ⟨w, hw, hid.symm, howner.symm, hdone.symm⟩
    · exact ⟨v, (workspaces_outside h hk).1 hv, rfl, rfl, rfl⟩
  refine ⟨fun m hm => .inl ((hmembers m).1 hm), fun a ha => .inl ((haccesses a).1 ha),
    fun hdb => ⟨fun workId v hv hwork hopen => ?_, fun a ha => ?_, fun a ha => ?_,
      fun workId wid hwork => ?_, fun v hv hopen => ?_⟩⟩
  · rw [hworks] at hwork
    obtain ⟨u, hu, huid, -, hudone⟩ := hof v hv
    obtain ⟨a, ha, hrole⟩ := hdb.maintained workId u hu (huid ▸ hwork) (hudone.trans hopen)
    exact ⟨a, (haccesses a).2 ha, hrole⟩
  · exact (hmembers _).2 (hdb.members a ((haccesses a).1 ha))
  · rw [hworks]
    exact hdb.placed a ((haccesses a).1 ha)
  · rw [hworks] at hwork
    obtain ⟨v, hv, hvid⟩ := hdb.housed workId wid hwork
    by_cases hk : workspaceKey v = workspaceKey w
    · exact ⟨w', hw', hid.trans ((RowKey.workspace.inj hk).symm.trans hvid)⟩
    · exact ⟨v, (workspaces_outside h hk).2 hv, hvid⟩
  · obtain ⟨u, hu, huid, huowner, hudone⟩ := hof v hv
    have howned := hdb.owned u hu (hudone.trans hopen)
    rw [huid, huowner] at howned
    exact (hmembers _).2 howned

/-- The exit of a workspace is completed: nobody is left in it. -/
theorem Governs.of_exit (w w' : Workspace) (hid : w'.id = w.id)
    (hdone : w'.exitCompletedAt.isSome = true)
    (hbefore : ∀ v ∈ db.workspaces, v.id ≠ w.id → v ∈ db'.workspaces)
    (hafter : ∀ v ∈ db'.workspaces, v ∈ db.workspaces ∧ v.id ≠ w.id ∨ v = w')
    (hw' : w' ∈ db'.workspaces)
    (hworks : ∀ workId, (rowsAt (.work workId) db').works = (rowsAt (.work workId) db).works)
    (hsingle : ∀ workId, (rowsAt (.work workId) db).works.length ≤ 1)
    (hmembers : ∀ m, m ∈ db'.members → m ∈ db.members)
    (hmembers' : ∀ m ∈ db.members, m.workspaceId ≠ w.id → m ∈ db'.members)
    (haccesses : ∀ a ∈ db'.accesses, a ∈ db.accesses ∧ a.workspaceId ≠ w.id)
    (haccesses' : ∀ a ∈ db.accesses, a.workspaceId ≠ w.id → a ∈ db'.accesses) :
    Governs H db db' := by
  refine ⟨fun m hm => .inl (hmembers m hm), fun a ha => .inl (haccesses a ha).1,
    fun hdb => ⟨fun workId v hv hwork hopen => ?_, fun a ha => ?_, fun a ha => ?_,
      fun workId wid hwork => ?_, fun v hv hopen => ?_⟩⟩
  · rcases hafter v hv with ⟨hold, hne⟩ | rfl
    · rw [hworks] at hwork
      obtain ⟨a, ha, haid, hrole⟩ := hdb.maintained workId v hold hwork hopen
      have hplaced := hdb.placed a ha
      rw [haid, Table.eq_singleton_of_mem (hsingle workId) hwork] at hplaced
      exact ⟨a, haccesses' a ha (List.mem_singleton.1 hplaced ▸ hne), haid, hrole⟩
    · rw [hopen] at hdone
      cases hdone
  · obtain ⟨hold, hne⟩ := haccesses a ha
    exact hmembers' _ (hdb.members a hold) hne
  · rw [hworks]
    exact hdb.placed a (haccesses a ha).1
  · rw [hworks] at hwork
    obtain ⟨v, hv, hvid⟩ := hdb.housed workId wid hwork
    by_cases hne : v.id = w.id
    · exact ⟨w', hw', hid.trans (hne.symm.trans hvid)⟩
    · exact ⟨v, hbefore v hv hne, hvid⟩
  · rcases hafter v hv with ⟨hold, hne⟩ | rfl
    · exact hmembers' _ (hdb.owned v hold hopen) hne
    · rw [hopen] at hdone
      cases hdone

/-- One access is given, changed or taken, to a member that is locked. -/
theorem Governs.of_access (workId workspaceId accountId : Uuid)
    (h : rowViews.Outside {.access workId accountId} db db')
    (hmember : ⟨workspaceId, accountId⟩ ∈ db.members)
    (hlock : (.member workspaceId accountId, .update) ∈ H)
    (hplaced : workspaceId ∈ (rowsAt (.work workId) db).works)
    (hrows : ∀ a ∈ (rowsAt (.access workId accountId) db').accesses, a.workspaceId = workspaceId)
    (hmaintained : ∀ a ∈ (rowsAt (.access workId accountId) db).accesses, a.role = .maintainer →
      (∃ b ∈ (rowsAt (.access workId accountId) db').accesses, b.role = .maintainer) ∨
        ∃ b ∈ db.accesses, b.workId = workId ∧ b.accountId ≠ accountId ∧ b.role = .maintainer) :
    Governs H db db' := by
  have hworkspaces : ∀ w, w ∈ db'.workspaces ↔ w ∈ db.workspaces := fun w =>
    workspaces_outside h nofun
  have hmembers : ∀ m, m ∈ db'.members ↔ m ∈ db.members := fun m => members_outside h nofun
  have hworks : ∀ id, (rowsAt (.work id) db').works = (rowsAt (.work id) db).works := fun id =>
    works_outside h nofun
  have hother : ∀ a : WorkAccess, accessKey a ≠ .access workId accountId →
      (a ∈ db'.accesses ↔ a ∈ db.accesses) := fun a hk => accesses_outside h hk
  -- an access with the key is one of the member
  have hself : ∀ a ∈ db'.accesses, accessKey a = .access workId accountId →
      (⟨a.workspaceId, a.accountId⟩ : WorkspaceMember) = ⟨workspaceId, accountId⟩ ∧
        a.workId = workId := by
    intro a ha hk
    obtain ⟨hwork, haccount⟩ := RowKey.access.inj hk
    rw [hrows a (mem_accesses.2 ⟨ha, hk⟩), haccount]
    exact ⟨rfl, hwork⟩
  refine .of_changes hworkspaces hworks (fun m hm => (hmembers m).1 hm) (fun a ha => ?_)
    (fun hdb a ha hrole => ?_) (fun hdb a ha => ?_)
    fun hdb w hw hopen => (hmembers _).2 (hdb.owned w hw hopen)
  · by_cases hk : accessKey a = .access workId accountId
    · obtain ⟨heq, hwork⟩ := hself a ha hk
      obtain ⟨hworkspace, haccount⟩ := WorkspaceMember.mk.inj heq
      rw [hworkspace, haccount, hwork]
      exact .inr ⟨⟨hmember, hlock⟩, hplaced⟩
    · exact .inl ((hother a hk).1 ha)
  · by_cases hk : accessKey a = .access workId accountId
    · have hwork := (RowKey.access.inj hk).1
      rcases hmaintained a (mem_accesses.2 ⟨ha, hk⟩) hrole with
        ⟨b, hb, hbrole⟩ | ⟨b, hb, hid, hne, hbrole⟩
      · obtain ⟨hb, hbk⟩ := mem_accesses.1 hb
        exact ⟨b, hb, (RowKey.access.inj hbk).1.trans hwork.symm, hbrole⟩
      · refine ⟨b, (hother b fun hbk => hne (RowKey.access.inj hbk).2).2 hb, ?_, hbrole⟩
        exact hid.trans hwork.symm
    · exact ⟨a, (hother a hk).2 ha, rfl, hrole⟩
  · by_cases hk : accessKey a = .access workId accountId
    · rw [(hself a ha hk).1]
      exact (hmembers _).2 hmember
    · exact (hmembers _).2 (hdb.members a ((hother a hk).1 ha))

/-- A commit that leaves the four tables alone. -/
theorem Governs.of_unchanged (h : ∀ k, isGovernance k = true → rowsAt k db' = rowsAt k db) :
    Governs H db db' := by
  have hmembers : ∀ m, m ∈ db'.members ↔ m ∈ db.members := fun m => by
    rw [mem_members_iff db', mem_members_iff db, h _ rfl]
  have haccesses : ∀ a, a ∈ db'.accesses ↔ a ∈ db.accesses := fun a => by
    rw [mem_accesses_iff db', mem_accesses_iff db, h _ rfl]
  have hworkspaces : ∀ w, w ∈ db'.workspaces ↔ w ∈ db.workspaces := fun w => by
    rw [mem_workspaces_iff db', mem_workspaces_iff db, h _ rfl]
  refine .of_changes hworkspaces (fun workId => congrArg Rows.works (h _ rfl))
    (fun m hm => (hmembers m).1 hm) (fun a ha => .inl ((haccesses a).1 ha))
    (fun _ a ha hrole => ⟨a, (haccesses a).2 ha, rfl, hrole⟩) (fun hdb a ha => ?_)
    fun hdb w hw hopen => (hmembers _).2 (hdb.owned w hw hopen)
  exact (hmembers _).2 (hdb.members a ((haccesses a).1 ha))

end Workspaces

end Rulefolio
