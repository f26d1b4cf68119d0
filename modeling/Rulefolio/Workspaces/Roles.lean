import Rulefolio.Workspaces.Exchanges

/-!
# The calls that create, and the calls that give roles

A work is never left without a maintainer, although whether it has one depends on rows that no
single lock guards. The calls that change a role lock every access to the work first, and the
memberships of the accounts concerned before that. What they decide on is then what they find at
their commit: an account that is locked as a member stays one, and of two maintainers that are
locked one is still there.

## Main definitions

* `Manages` — what `_prepare_manager_write` has found and locked.

## Main results

* `exists_other_maintainer` — two maintainers of a work are two accounts.
* `createWorkspace_safe`, `createWork_safe`, `setWorkAccess_safe`, `revokeWorkAccess_safe`.
* `updateWork_safe`, `updateRuleMaterials_safe`, `elsewhere_safe`.
-/

namespace Rulefolio

namespace Workspaces

open LockedViews ReadCommitted

variable {α β : Type} {E : Environment Database RowKey} {call : Call} {K : Set RowKey}
  {x y : Point Database RowKey} {Q : α → Point Database RowKey → Prop}

/-! ## Rows found under a lock -/

/-- The tables as the call sees them have one row a key. -/
theorem Stands.wellFormed_pending (h : Stands call K x) (hinv : WellFormed x.db) :
    WellFormed (x.pending x.db) := fun k => (h.steps k).single (hinv k)

theorem Stands.member_known (h : Stands call K x) (hinv : WellFormed x.db) {m : WorkspaceMember}
    (hk : memberKey m ∉ K) (hlock : (memberKey m, .update) ∈ x.locks)
    (hm : m ∈ (x.pending x.db).members) :
    rowViews.Known (memberKey m) Rows.members [m] x := by
  have hmem : m ∈ (rowsAt (memberKey m) (x.pending x.db)).members := mem_members.2 ⟨hm, rfl⟩
  have hsame : rowsAt (memberKey m) (x.pending x.db) = rowsAt (memberKey m) x.db :=
    h.toTracks.unchanged hk x.db
  rw [hsame] at hmem
  exact ⟨hlock, Table.eq_singleton_of_mem (hinv _).members hmem⟩

theorem Stands.access_known (h : Stands call K x) (hinv : WellFormed x.db) {a : WorkAccess}
    (hk : accessKey a ∉ K) (hlock : (accessKey a, .update) ∈ x.locks)
    (ha : a ∈ (x.pending x.db).accesses) :
    rowViews.Known (accessKey a) Rows.accesses [a] x := by
  have hmem : a ∈ (rowsAt (accessKey a) (x.pending x.db)).accesses := mem_accesses.2 ⟨ha, rfl⟩
  have hsame : rowsAt (accessKey a) (x.pending x.db) = rowsAt (accessKey a) x.db :=
    h.toTracks.unchanged hk x.db
  rw [hsame] at hmem
  exact ⟨hlock, Table.eq_singleton_of_mem (hinv _).accesses hmem⟩

/-- `lock_work_members`. -/
theorem Stands.lockWorkMembers_bind (hE : Respects E) (h : Stands call K x)
    {workspaceId : Uuid} (hK : ∀ id, RowKey.member workspaceId id ∉ K) (accountIds : List Uuid)
    {f : List Uuid → Program α}
    (hf : ∀ memberIds y, Stands call K y → Tx.Extends E rowViews.Same x y →
      (∀ id ∈ memberIds,
        rowViews.Known (.member workspaceId id) Rows.members [⟨workspaceId, id⟩] y) →
      (f memberIds).Safe E (guarantee call) Q (fun _ _ => True) y) :
    ((lockWorkMembers workspaceId accountIds).bind f).Safe E (guarantee call) Q (fun _ _ => True)
      x := by
  rw [lockWorkMembers]
  simp only [Tx.bind_eq, Tx.pure_eq, Tx.bind_assoc, Tx.pure_bind]
  refine h.selectAll_bind hE fun members y hy hxy hinv hpending hsub hlocks => ?_
  refine hf _ y hy hxy fun id hid => ?_
  obtain ⟨m, hm, rfl⟩ := List.mem_map.1 hid
  obtain ⟨hmem, hcond⟩ := List.mem_filter.1 (hsub.subset hm)
  simp only [Bool.and_eq_true, beq_iff_eq] at hcond
  obtain rfl := hcond.1.1
  rw [← hpending] at hmem
  exact hy.member_known (hE.wellFormed hinv) (hK m.accountId) (hlocks m hm) hmem

/-! ## Who maintains a work -/

theorem WellFormed.nodup_accesses {db : Database} (h : WellFormed db) :
    (db.accesses.map accessKey).Nodup := by
  refine List.nodup_iff_count_le_one.2 fun k => ?_
  have hsingle : (Table.rowsWith accessKey k db.accesses).length ≤ 1 := (h k).accesses
  rw [List.count, List.countP_map, List.countP_eq_length_filter]
  refine le_trans (le_of_eq ?_) hsingle
  rw [Table.rowsWith]
  congr 1

/-- The accesses to one work are of different accounts. -/
theorem WellFormed.nodup_accountIds {db : Database} (h : WellFormed db)
    {accesses : List WorkAccess} (hsub : accesses.Sublist db.accesses) {workId : Uuid}
    (hwork : ∀ a ∈ accesses, a.workId = workId) : (accesses.map (·.accountId)).Nodup := by
  have hkeys : (accesses.map accessKey).Nodup := (hsub.map accessKey).nodup h.nodup_accesses
  have heq : accesses.map accessKey = (accesses.map (·.accountId)).map (RowKey.access workId) := by
    rw [List.map_map]
    refine List.map_congr_left fun a ha => ?_
    rw [accessKey, hwork a ha]
    rfl
  rw [heq] at hkeys
  exact hkeys.of_map

/-- **Two maintainers of a work are two accounts.** -/
theorem exists_other_maintainer {accesses : List WorkAccess}
    (hdistinct : (accesses.map (·.accountId)).Nodup) (hcount : 1 < Works.maintainers accesses)
    (accountId : Uuid) : ∃ b ∈ accesses, b.role = .maintainer ∧ b.accountId ≠ accountId := by
  rw [Works.maintainers, List.countP_eq_length_filter] at hcount
  have hnodup : ((accesses.filter (·.role == .maintainer)).map (·.accountId)).Nodup :=
    (List.filter_sublist.map _).nodup hdistinct
  match hlist : accesses.filter (·.role == .maintainer) with
  | [] =>
    rw [hlist] at hcount
    cases hcount
  | [_] =>
    rw [hlist] at hcount
    exact absurd hcount (lt_irrefl 1)
  | a :: b :: _ =>
    have hmem : ∀ c ∈ [a, b], c ∈ accesses ∧ c.role = .maintainer := by
      intro c hc
      have hfilter : c ∈ accesses.filter (·.role == .maintainer) := by
        rw [hlist]
        simp only [List.mem_cons, List.not_mem_nil, or_false] at hc
        rcases hc with rfl | rfl <;> simp
      obtain ⟨hc, hrole⟩ := List.mem_filter.1 hfilter
      exact ⟨hc, eq_of_beq hrole⟩
    rw [hlist] at hnodup
    have hne : a.accountId ≠ b.accountId := by
      intro heq
      simp [heq] at hnodup
    by_cases ha : a.accountId = accountId
    · obtain ⟨hb, hrole⟩ := hmem b (by simp)
      exact ⟨b, hb, hrole, fun heq => hne (ha.trans heq.symm)⟩
    · obtain ⟨hmem, hrole⟩ := hmem a (by simp)
      exact ⟨a, hmem, hrole, ha⟩

/-- What a manager's write has found and locked: the work in its workspace, its accesses, and the
membership of the account it is about. -/
structure Manages (target : Option Uuid) (work : Work) (accesses : List WorkAccess)
    (x : Point Database RowKey) : Prop where
  placed : work.workspaceId ∈ (rowsAt (.work work.id) x.db).works
  known : ∀ a ∈ accesses, a.workId = work.id ∧ rowViews.Known (accessKey a) Rows.accesses [a] x
  distinct : (accesses.map (·.accountId)).Nodup
  member : ∀ id, target = some id →
    rowViews.Known (.member work.workspaceId id) Rows.members [⟨work.workspaceId, id⟩] x

theorem Manages.later (hE : Respects E) {target : Option Uuid} {work : Work}
    {accesses : List WorkAccess} (h : Manages target work accesses x)
    {F : Database → Database → Prop} (hy : Tx.Extends E F x y) :
    Manages target work accesses y where
  placed := (hE.evolves hy.rely).work work.id work.workspaceId h.placed
  known a ha := ⟨(h.known a ha).1, (h.known a ha).2.extends_ hE.views hy⟩
  distinct := h.distinct
  member id hid := (h.member id hid).extends_ hE.views hy

/-- `_prepare_manager_write`. -/
theorem Stands.prepareManagerWrite_bind (hE : Respects E) (h : Stands call ∅ x)
    (workspaceId workId actorId : Uuid) (target : Option Uuid)
    {f : Work × List WorkAccess → Program α}
    (hf : ∀ work accesses y, Stands call ∅ y → Manages target work accesses y →
      (f (work, accesses)).Safe E (guarantee call) Q (fun _ _ => True) y) :
    ((Works.prepareManagerWrite workspaceId workId actorId target).bind f).Safe E (guarantee call)
      Q (fun _ _ => True) x := by
  rw [Works.prepareManagerWrite, Works.requireManager, Works.loadVisibleWork]
  simp only [Tx.bind_eq, Tx.pure_eq, Tx.bind_assoc, Tx.pure_bind]
  refine h.within_bind hE (fun _ _ => trivial) (ensureWritable_within Same.refl _)
    fun _ x₁ _ hx₁ _ => ?_
  refine hx₁.read_bind hE fun x₂ hx₂ _ _ hpending => ?_
  refine Tx.Safe.require_bind (fun _ => trivial) fun work hwork => ?_
  rw [← hpending] at hwork
  have hplaced : work.workspaceId ∈ (rowsAt (.work work.id) x₂.db).works := by
    have hsame : rowsAt (.work work.id) (x₂.pending x₂.db) = rowsAt (.work work.id) x₂.db :=
      hx₂.toTracks.unchanged (Set.notMem_empty _) x₂.db
    rw [← hsame]
    exact List.mem_map_of_mem
      (Table.mem_rowsWith.2 ⟨List.mem_of_find?_eq_some hwork, rfl⟩)
  refine hx₂.within_bind hE (fun _ _ => trivial) (workAccessRole_within Same.refl _ _)
    fun role x₃ _ hx₃ hx₂x₃ => ?_
  refine Tx.Safe.ensure_bind (fun _ => trivial) fun _ => ?_
  refine hx₃.lockWorkMembers_bind hE (fun _ => Set.notMem_empty _) _
    fun memberIds x₄ hx₄ hx₃x₄ hmembers => ?_
  refine Tx.Safe.ensure_bind (fun _ => trivial) fun _ => ?_
  refine Tx.Safe.ensure_bind (fun _ => trivial) fun htarget => ?_
  rw [lockWorkAccesses]
  refine hx₄.selectAll_bind hE fun accesses y hy hx₄y hinv hpending' hsub hlocks => ?_
  refine Tx.Safe.ensure_bind (fun _ => trivial) fun _ => ?_
  rw [← hpending'] at hsub
  have hworkId : ∀ a ∈ accesses, a ∈ (y.pending y.db).accesses ∧ a.workId = work.id := by
    intro a ha
    obtain ⟨hmem, hcond⟩ := List.mem_filter.1 (hsub.subset ha)
    simp only [Bool.and_eq_true, beq_iff_eq] at hcond
    exact ⟨hmem, hcond.1⟩
  have hx₂y := (hx₂x₃.trans Same.trans hx₃x₄).trans Same.trans hx₄y
  refine hf work accesses y hy ⟨?_, fun a ha => ⟨(hworkId a ha).2, ?_⟩, ?_, fun id hid => ?_⟩
  · exact (hE.evolves hx₂y.rely).work work.id work.workspaceId hplaced
  · exact hy.access_known (hE.wellFormed hinv) (Set.notMem_empty _) (hlocks a ha) (hworkId a ha).1
  · exact (hy.wellFormed_pending (hE.wellFormed hinv)).nodup_accountIds
      (hsub.trans List.filter_sublist) fun a ha => (hworkId a ha).2
  · rw [hid] at htarget
    exact (hmembers id (by simpa using htarget)).extends_ hE.views hx₄y

/-! ## The statements on one access -/

/-- `add_work_access`. -/
theorem Stands.addAccess_bind (hE : Respects E) (h : Stands call K x)
    (hgoverns : call.governs = true) (a : WorkAccess) (hk : accessKey a ∉ K)
    {f : Unit → Program α}
    (hf : ∀ y, Stands call (K ∪ {accessKey a}) y →
      Tx.Extends E (rowViews.Outside {accessKey a}) x y →
      rowViews.Row (accessKey a) Rows.accesses [] [a] y →
      (f ()).Safe E (guarantee call) Q (fun _ _ => True) y) :
    ((addWorkAccess a.workId a.workspaceId a.accountId a.role).bind f).Safe E (guarantee call) Q
      (fun _ _ => True) x := by
  have hacts : rowViews.Acts {accessKey a} fun db => { db with accesses := a :: db.accesses } :=
    acts_accesses (Table.touches_cons a)
  rw [addWorkAccess]
  refine h.insertRow_bind hE (fun _ _ => trivial) hacts (.inl hgoverns)
    (fun k hk => List.mem_singleton.2 hk) ?_ fun y hy hxy hpending _ hlocks habsent _ => ?_
  · rintro _ rfl v db habsent hstep
    exact hstep.addAccess habsent
  · have hbefore : (rowsAt (accessKey a) (x.pending y.db)).accesses = [] := by
      refine Table.rowsWith_eq_nil fun b hb hkey => ?_
      obtain ⟨hwork, haccount⟩ := RowKey.access.inj hkey
      simp [isAccess] at habsent
      exact habsent b hb hwork haccount
    refine hf y hy hxy ⟨hlocks _ List.mem_cons_self, ?_, ?_⟩
    · exact (congrArg Rows.accesses (h.toTracks.unchanged hk y.db)).symm.trans hbefore
    · rw [hpending]
      show Table.rowsWith accessKey (accessKey a) (a :: (x.pending y.db).accesses) = [a]
      rw [Table.rowsWith_cons_self]
      exact congrArg (a :: ·) hbefore

theorem isAccess_key {workId accountId : Uuid} {a : WorkAccess} {b : Bool}
    (h : (isAccess workId accountId a && b) = true) : accessKey a = .access workId accountId := by
  simp only [isAccess, Bool.and_eq_true, beq_iff_eq] at h
  rw [accessKey, h.1.1, h.1.2]

/-- `update_work_access_role`. -/
theorem Stands.setAccess_bind (hE : Respects E) (h : Stands call K x)
    (hgoverns : call.governs = true) {a : WorkAccess} {v : List WorkAccess}
    (hrow : rowViews.Row (accessKey a) Rows.accesses v [a] x) (role : WorkRole)
    {f : Unit → Program α}
    (hf : ∀ r y, Stands call (K ∪ {accessKey a}) y →
      Tx.Extends E (rowViews.Outside {accessKey a}) x y → r = a.role ∨ r = role →
      rowViews.Row (accessKey a) Rows.accesses v [{ a with role := r }] y →
      (f ()).Safe E (guarantee call) Q (fun _ _ => True) y) :
    ((updateWorkAccessRole a.workId a.accountId role).bind f).Safe E (guarantee call) Q
      (fun _ _ => True) x := by
  rw [updateWorkAccessRole]
  refine h.write_bind hE (N := {accessKey a}) (fun w => ?_) (.inl hgoverns) ?_ ?_
    fun y hy hxy hpending _ => ?_
  · exact acts_accesses (Table.touches_update (fun _ _ => rfl) fun b hb => isAccess_key hb)
  · rintro _ rfl
    exact hrow.lock
  · rintro s hs _ _ rfl hstep
    exact hstep.setAccesses (hE.wellFormed hs _) _ role
  · let open_ := exitAllowsWrite none a.workspaceId (x.pending y.db)
    refine hf (if open_ then role else a.role) y hy hxy ?_
      (hrow.write hE.views h.acts hxy hpending fun t ht => ?_)
    · cases open_
      · exact .inl rfl
      · exact .inr rfl
    · have hrows : Table.rowsWith accessKey (accessKey a) t.accesses = [a] := ht
      have hkey : ∀ (p : WorkAccess → Bool) (b : WorkAccess), p b = true →
          accessKey { b with role := role } = accessKey b := fun _ _ _ => rfl
      refine (Table.rowsWith_update (hkey _) _ t.accesses).trans ?_
      rw [hrows, Table.update_cons, Table.update_nil]
      have hself : isAccess a.workId a.accountId a = true := by simp [isAccess]
      by_cases hopen : exitAllowsWrite none a.workspaceId (x.pending y.db) = true
      · simp [hself, open_, hopen]
      · simp [open_, hopen]

/-- `delete_work_access`. An exit that is requested meanwhile keeps the row. -/
theorem Stands.deleteAccess_bind (hE : Respects E) (h : Stands call K x)
    (hgoverns : call.governs = true) {a : WorkAccess} {v : List WorkAccess}
    (hrow : rowViews.Row (accessKey a) Rows.accesses v [a] x) {f : Unit → Program α}
    (hf : ∀ w y, Stands call (K ∪ {accessKey a}) y →
      Tx.Extends E (rowViews.Outside {accessKey a}) x y →
      w = [] ∨ w = [a] ∧ exitAllowsWrite none a.workspaceId (x.pending y.db) = false →
      rowViews.Row (accessKey a) Rows.accesses v w y →
      (f ()).Safe E (guarantee call) Q (fun _ _ => True) y) :
    ((deleteWorkAccess a.workId a.accountId).bind f).Safe E (guarantee call) Q
      (fun _ _ => True) x := by
  rw [deleteWorkAccess]
  refine h.write_bind hE (N := {accessKey a}) (fun w => ?_) (.inl hgoverns) ?_ ?_
    fun y hy hxy hpending _ => ?_
  · exact acts_accesses (Table.touches_delete fun b hb => isAccess_key hb)
  · rintro _ rfl
    exact hrow.lock
  · rintro s hs _ _ rfl hstep
    exact hstep.deleteAccesses (hE.wellFormed hs _) _
  · have hself : isAccess a.workId a.accountId a = true := by simp [isAccess]
    have hdelete : ∀ t : Database, (rowsAt (accessKey a) t).accesses = [a] →
        Table.rowsWith accessKey (accessKey a) (Table.delete (fun b =>
          isAccess a.workId a.accountId b && exitAllowsWrite none b.workspaceId (x.pending y.db))
            t.accesses)
          = if exitAllowsWrite none a.workspaceId (x.pending y.db) then [] else [a] := by
      intro t ht
      have hrows : Table.rowsWith accessKey (accessKey a) t.accesses = [a] := ht
      rw [Table.rowsWith_delete, hrows]
      by_cases hopen : exitAllowsWrite none a.workspaceId (x.pending y.db) = true
      · simp [Table.delete, hself, hopen]
      · simp [Table.delete, hopen]
    refine hf _ y hy hxy ?_ (hrow.write hE.views h.acts hxy hpending hdelete)
    by_cases hopen : exitAllowsWrite none a.workspaceId (x.pending y.db) = true
    · rw [if_pos hopen]
      exact .inl rfl
    · rw [if_neg hopen]
      exact .inr ⟨rfl, Bool.not_eq_true _ ▸ hopen⟩

/-! ## The calls that create -/

section Calls

variable (hE : Respects E) (hplain : call.exchange = none) (hrequest : call.requestsExit = false)
  (hstays : call.completes = none)

include hE hplain hrequest hstays

theorem createWorkspace_safe (hgoverns : call.governs = true) (uuids : Uuids) (actorId : Uuid)
    (name : String) (description : Option String) (db : Database) :
    Guaranteed E call (createWorkspace uuids actorId name description) (Point.start db) := by
  refine Tx.Safe.ensure_bind (fun _ => trivial) fun _ => ?_
  refine Tx.Safe.mapError ?_
  let w : Workspace := ⟨uuids.here, strip name, (description.map strip).filter (!·.isEmpty),
    actorId, 1, none, none, none, none, none⟩
  have hacts : rowViews.Acts {workspaceKey w} fun db =>
      { db with workspaces := w :: db.workspaces } := acts_workspaces (Table.touches_cons w)
  refine (stands_start call db).insertRow_bind hE (fun _ _ => trivial) hacts (.inl hgoverns)
    (fun k hk => List.mem_singleton.2 hk) ?_ fun x hx hxx hpending _ hlocks habsent _ => ?_
  · rintro _ rfl v db habsent hstep
    exact hstep.addWorkspace habsent rfl rfl
  have hbefore : Table.rowsWith workspaceKey (workspaceKey w) x.db.workspaces = [] := by
    refine Table.rowsWith_eq_nil fun a ha hkey => ?_
    have hid : a.id = w.id := RowKey.workspace.inj hkey
    have hnone : ∀ a ∈ x.db.workspaces, a.id ≠ w.id := by simpa [Point.start] using habsent
    exact hnone a ha hid
  have hrow : rowViews.Row (workspaceKey w) Rows.workspaces [] [w] x := by
    refine ⟨hlocks _ List.mem_cons_self, hbefore, ?_⟩
    rw [hpending]
    show Table.rowsWith workspaceKey (workspaceKey w) (w :: x.db.workspaces) = [w]
    rw [Table.rowsWith_cons_self, hbefore]
  refine hx.addMember_bind hE (fun _ _ => trivial) hgoverns (by simp [workspaceKey])
    fun y hy hxy hmember hshare => ?_
  have hrow' := hrow.extends_ hE.views hx.acts hxy (by simp [workspaceKey])
  refine hy.commitNow_bind hE hplain hrequest hstays (fun s _ hr => ?_)
    fun _ => Tx.Safe.pure trivial
  have hworkspace := hrow'.later hE.views hy.acts subset_rfl hr
  have hjoined := hmember.later hE.views hy.acts subset_rfl hr
  refine Governs.of_workspace (w := w) ?_ hworkspace.committed hworkspace.sees hjoined.committed
    hjoined.sees hshare
  have hout : rowViews.Outside (∅ ∪ {workspaceKey w} ∪ {.member w.id actorId}) s (y.pending s) :=
    hy.acts.only s
  rwa [Set.empty_union] at hout

theorem createWork_safe (hgoverns : call.governs = true) (uuids : Uuids)
    (actorId workspaceId : Uuid) (values : Works.WorkValues) (db : Database) :
    Guaranteed E call (Works.createWork uuids actorId workspaceId values) (Point.start db) := by
  refine Tx.Safe.mapError ?_
  refine Tx.Safe.ensure_bind (fun _ => trivial) fun _ => ?_
  have hrequire : (Works.requireWorkspaceMember workspaceId actorId).Within rowViews.Same
      fun _ => True :=
    (ensureWritable_within Same.refl _).andThen fun _ =>
      (hasWorkspaceMember_same _ _).andThen fun _ => Tx.Within.ensure' _ _
  refine (stands_start call db).within_bind hE (fun _ _ => trivial) hrequire
    fun _ x _ hx _ => ?_
  let work := values.toWork uuids.here workspaceId
  refine hx.insertRow_bind hE (fun _ _ => trivial) (acts_addWork work) (.inl hgoverns)
    (fun k hk => List.mem_singleton.2 hk) ?_
    fun x₁ hx₁ hxx₁ hpending hinv hlocks habsent hadmits => ?_
  · rintro _ rfl v db habsent hstep
    exact hstep.addWork habsent
  -- the work is new, and its workspace is there
  have hsame : ∀ k, rowsAt k (x.pending x₁.db) = rowsAt k x₁.db := fun k =>
    hx.toTracks.unchanged (Set.notMem_empty k) x₁.db
  have hbefore : Table.rowsWith workKey (workKey work) (x.pending x₁.db).works = [] := by
    refine Table.rowsWith_eq_nil fun a ha hkey => ?_
    have hid : a.id = work.id := RowKey.work.inj hkey
    have hnone : ∀ a ∈ (x.pending x₁.db).works, a.id ≠ work.id := by simpa using habsent
    exact hnone a ha hid
  have hrow : rowViews.Row (workKey work) Rows.works [] [workspaceId] x₁ := by
    refine ⟨hlocks _ List.mem_cons_self, ?_, ?_⟩
    · exact (congrArg Rows.works (hsame (workKey work))).symm.trans (congrArg (List.map _) hbefore)
    · rw [hpending]
      show (Table.rowsWith workKey (workKey work) (work :: (x.pending x₁.db).works)).map _ = _
      rw [Table.rowsWith_cons_self, hbefore]
      rfl
  have hhoused : ∃ w ∈ x₁.db.workspaces, w.id = workspaceId := by
    obtain ⟨w, hw, hcond⟩ := List.any_eq_true.1 hadmits
    have hid : w.id = workspaceId := eq_of_beq (Bool.and_eq_true_iff.1 hcond).1
    rw [mem_workspaces_iff, hsame, ← mem_workspaces_iff] at hw
    exact ⟨w, hw, hid⟩
  refine hx₁.lockWorkMembers_bind hE (by simp [workKey]) _ fun memberIds x₂ hx₂ hx₁x₂ hmembers => ?_
  refine Tx.Safe.ensure_bind (fun _ => trivial) fun hmember => ?_
  have hknown := hmembers actorId (by simpa using hmember)
  have hrow₂ := hrow.same hE.views hx₁.acts hx₁x₂
  refine hx₂.addAccess_bind hE hgoverns ⟨work.id, workspaceId, actorId, .maintainer⟩
    (by simp [workKey, accessKey]) fun y hy hx₂y haccess => ?_
  have hrow' := hrow₂.extends_ hE.views hx₂.acts hx₂y (by simp [workKey, accessKey])
  have hknown' := hknown.extends_ hE.views hx₂y
  rw [← Tx.bind_pure Tx.commitNow]
  refine hy.commitNow_bind hE hplain hrequest hstays (fun s _ hr => ?_)
    fun _ => Tx.Safe.pure trivial
  have hwork := hrow'.later hE.views hy.acts subset_rfl hr
  have hgiven := haccess.later hE.views hy.acts subset_rfl hr
  have hjoined : (rowsAt (.member workspaceId actorId) s).members = [⟨workspaceId, actorId⟩] :=
    (congrArg Rows.members (hE.views hr hknown'.lock)).trans hknown'.committed
  refine Governs.of_work work.id workspaceId actorId ?_ ?_ hwork.committed hwork.sees ?_
    hknown'.lock hgiven.sees
  · have hout : rowViews.Outside (∅ ∪ {workKey work} ∪ {.access work.id actorId}) s
        (y.pending s) := hy.acts.only s
    rwa [Set.empty_union] at hout
  · obtain ⟨w, hw, hid⟩ := hhoused
    obtain ⟨w', hw', hcontinues⟩ := (hE.evolves (E.trans hx₁x₂.rely
      (E.anti hx₁x₂.locks (E.trans hx₂y.rely (E.anti hx₂y.locks hr))))).workspace w hw
    exact ⟨w', hw', hcontinues.id.trans hid⟩
  · have hmem : (⟨workspaceId, actorId⟩ : WorkspaceMember)
        ∈ (rowsAt (.member workspaceId actorId) s).members := by
      rw [hjoined]
      exact List.mem_singleton_self _
    exact (mem_members.1 hmem).1

/-! ## The calls that give and take roles -/

omit hplain hrequest hstays in
/-- What the commit of a change of one access does. -/
theorem governs_of_access {workId accountId : Uuid} {work : Work} {accesses : List WorkAccess}
    {v w : List WorkAccess} (hy : Stands call (∅ ∪ {.access workId accountId}) y)
    (hmanages : Manages (some accountId) work accesses y) (hid : work.id = workId)
    (hrow : rowViews.Row (.access workId accountId) Rows.accesses v w y)
    (hworkspace : ∀ a ∈ w, a.workspaceId = work.workspaceId)
    (hmaintained : ∀ a ∈ v, a.role = .maintainer →
      (∃ b ∈ w, b.role = .maintainer) ∨ 1 < Works.maintainers accesses)
    {s : Database} (hr : E.Rely y.locks y.db s) : Governs y.locks s (y.pending s) := by
  subst hid
  have hrow' := hrow.later hE.views hy.acts subset_rfl hr
  have hmember := hmanages.member accountId rfl
  have hjoined : (rowsAt (.member work.workspaceId accountId) s).members
      = [⟨work.workspaceId, accountId⟩] :=
    (congrArg Rows.members (hE.views hr hmember.lock)).trans hmember.committed
  have hmem : (⟨work.workspaceId, accountId⟩ : WorkspaceMember)
      ∈ (rowsAt (.member work.workspaceId accountId) s).members := by
    rw [hjoined]
    exact List.mem_singleton_self _
  have hcommitted : (rowsAt (.access work.id accountId) s).accesses = v := hrow'.committed
  have hsees : (rowsAt (.access work.id accountId) (y.pending s)).accesses = w := hrow'.sees
  refine .of_access work.id work.workspaceId accountId ?_ (mem_members.1 hmem).1 hmember.lock
    ((hE.evolves hr).work _ _ hmanages.placed) ?_ ?_
  · have hout := hy.acts.only s
    rwa [Set.empty_union] at hout
  · rw [hsees]
    exact hworkspace
  · rw [hcommitted, hsees]
    intro a ha hrole
    refine (hmaintained a ha hrole).imp id fun hcount => ?_
    obtain ⟨b, hb, hbrole, hne⟩ := exists_other_maintainer hmanages.distinct hcount accountId
    obtain ⟨hbwork, hbknown⟩ := hmanages.known b hb
    have hbrows : (rowsAt (accessKey b) s).accesses = [b] :=
      (congrArg Rows.accesses (hE.views hr hbknown.lock)).trans hbknown.committed
    have hbmem : b ∈ (rowsAt (accessKey b) s).accesses := by
      rw [hbrows]
      exact List.mem_singleton_self _
    exact ⟨b, (mem_accesses.1 hbmem).1, hbwork, hne, hbrole⟩

omit hE hplain hrequest hstays in
/-- An access that `_prepare_manager_write` has found is one of the account. -/
theorem Manages.row (hx : Stands call ∅ x) {target : Option Uuid} {work : Work}
    {accesses : List WorkAccess} (h : Manages target work accesses x) {accountId : Uuid}
    {a : WorkAccess} (hfind : accesses.find? (·.accountId == accountId) = some a) :
    a ∈ accesses ∧ a.workId = work.id ∧ a.accountId = accountId ∧
      rowViews.Row (accessKey a) Rows.accesses [a] [a] x := by
  have hmem := List.mem_of_find?_eq_some hfind
  have haccount : a.accountId = accountId := by simpa using List.find?_some hfind
  obtain ⟨hwork, hknown⟩ := h.known a hmem
  refine ⟨hmem, hwork, haccount, hknown.lock, hknown.committed, ?_⟩
  exact (congrArg Rows.accesses (hx.toTracks.unchanged (Set.notMem_empty _) x.db)).trans
    hknown.committed

omit hplain hrequest hstays in
/-- An access to a work is one in the workspace of the work. -/
theorem Manages.workspaceId {target : Option Uuid} {work : Work} {accesses : List WorkAccess}
    (h : Manages target work accesses y) {a : WorkAccess} (ha : a ∈ accesses) {s : Database}
    (hs : E.Inv s) (hr : E.Rely y.locks y.db s) : a.workspaceId = work.workspaceId := by
  obtain ⟨hwork, hknown⟩ := h.known a ha
  have hrows : (rowsAt (accessKey a) s).accesses = [a] :=
    (congrArg Rows.accesses (hE.views hr hknown.lock)).trans hknown.committed
  have hmem : a ∈ (rowsAt (accessKey a) s).accesses := by
    rw [hrows]
    exact List.mem_singleton_self _
  have hplaced := (hE.governed hs).placed a (mem_accesses.1 hmem).1
  have hworks := (hE.evolves hr).work _ _ h.placed
  rw [hwork, Table.eq_singleton_of_mem (hE.wellFormed hs (.work work.id)).works hworks] at hplaced
  exact List.mem_singleton.1 hplaced

omit hE hplain hrequest hstays in
/-- A maintainer who is not the only one. -/
theorem lt_maintainers {accesses : List WorkAccess} {a : WorkAccess} (ha : a ∈ accesses)
    (hrole : a.role = .maintainer) (hother : Works.maintainers accesses ≠ 1) :
    1 < Works.maintainers accesses := by
  have hpos : 0 < Works.maintainers accesses :=
    List.countP_pos_iff.2 ⟨a, ha, by rw [hrole]; rfl⟩
  omega

theorem setWorkAccess_safe (hgoverns : call.governs = true) (now : Timestamp)
    (actorId workspaceId workId accountId : Uuid) (role : WorkRole) (db : Database) :
    Guaranteed E call (Works.setWorkAccess now actorId workspaceId workId accountId role)
      (Point.start db) := by
  refine Tx.Safe.mapError ?_
  refine (stands_start call db).prepareManagerWrite_bind hE _ _ _ _
    fun work accesses x hx hmanages => ?_
  dsimp only
  cases hfind : accesses.find? (·.accountId == accountId) with
  | none =>
    refine hx.addAccess_bind hE hgoverns ⟨work.id, work.workspaceId, accountId, role⟩
      (Set.notMem_empty _) fun y hy hxy hrow => ?_
    rw [← Tx.bind_pure Tx.commitNow]
    refine hy.commitNow_bind hE hplain hrequest hstays (fun s _ hr => ?_)
      fun _ => Tx.Safe.pure trivial
    refine governs_of_access hE hy (hmanages.later hE hxy) rfl hrow ?_ nofun hr
    intro a ha
    rw [List.mem_singleton.1 ha]
  | some a =>
    obtain ⟨hmem, hwork, rfl, hrow⟩ := hmanages.row hx hfind
    refine Tx.Safe.ensure_bind (fun _ => trivial) fun hlast => ?_
    have hsame : Guaranteed E call Tx.commitNow x := by
      rw [← Tx.bind_pure Tx.commitNow]
      exact hx.commitNow_bind hE hplain hrequest hstays (fun s _ _ => .of_unchanged fun k _ =>
        hx.toTracks.unchanged (Set.notMem_empty k) s) fun _ => Tx.Safe.pure trivial
    have hchanges : ∀ z, Stands call ∅ z → Tx.Extends E rowViews.Same x z →
        Guaranteed E call ((updateWorkAccessRole work.id a.accountId role).bind fun _ =>
          Tx.commitNow) z := by
      intro z hz hxz
      rw [← hwork, ← Tx.bind_pure Tx.commitNow]
      refine hz.setAccess_bind hE hgoverns (hrow.same hE.views hx.acts hxz) role
        fun r y hy hzy hr hset => ?_
      have hmanages' := (hmanages.later hE hxz).later hE hzy
      refine hy.commitNow_bind hE hplain hrequest hstays (fun s hs hrely => ?_)
        fun _ => Tx.Safe.pure trivial
      refine governs_of_access hE hy hmanages' hwork.symm hset ?_ ?_ hrely
      · intro b hb
        rw [List.mem_singleton.1 hb]
        show a.workspaceId = work.workspaceId
        exact hmanages'.workspaceId hE hmem hs hrely
      · intro b hb hrole
        obtain rfl := List.mem_singleton.1 hb
        by_cases hkeeps : r = .maintainer
        · exact .inl ⟨_, List.mem_singleton_self _, hkeeps⟩
        · -- the role is taken from a maintainer, so there is another
          have hrole' : role ≠ .maintainer := by
            rintro rfl
            rcases hr with heq | heq
            · exact hkeeps (heq.trans hrole)
            · exact hkeeps heq
          refine .inr (lt_maintainers hmem hrole fun hone => ?_)
          simp [hrole, hrole', hone] at hlast
    split
    · split
      · exact hx.within_bind hE (fun _ _ => trivial) (endAll_same _ _ _)
          fun _ z _ hz hxz => hchanges z hz hxz
      · exact hchanges x hx (.refl Same.refl x)
    · exact hsame

theorem revokeWorkAccess_safe (hgoverns : call.governs = true) (now : Timestamp)
    (actorId workspaceId workId accountId : Uuid) (db : Database) :
    Guaranteed E call (Works.revokeWorkAccess now actorId workspaceId workId accountId)
      (Point.start db) := by
  refine Tx.Safe.mapError ?_
  refine (stands_start call db).prepareManagerWrite_bind hE _ _ _ _
    fun work accesses x hx hmanages => ?_
  dsimp only
  refine Tx.Safe.require_bind (fun _ => trivial) fun a hfind => ?_
  obtain ⟨hmem, hwork, rfl, hrow⟩ := hmanages.row hx hfind
  refine Tx.Safe.ensure_bind (fun _ => trivial) fun hlast => ?_
  refine hx.within_bind hE (fun _ _ => trivial) (endAll_same _ _ _) fun _ z _ hz hxz => ?_
  show ((deleteWorkAccess work.id a.accountId).bind fun _ => Tx.commitNow).Safe _ _ _ _ _
  rw [← hwork, ← Tx.bind_pure Tx.commitNow]
  refine hz.deleteAccess_bind hE hgoverns (hrow.same hE.views hx.acts hxz)
    fun w y hy hzy hw hset => ?_
  have hmanages' := (hmanages.later hE hxz).later hE hzy
  refine hy.commitNow_bind hE hplain hrequest hstays (fun s hs hrely => ?_)
    fun _ => Tx.Safe.pure trivial
  refine governs_of_access hE hy hmanages' hwork.symm hset ?_ ?_ hrely
  · intro b hb
    rcases hw with rfl | ⟨rfl, -⟩
    · cases hb
    · rw [List.mem_singleton.1 hb]
      exact hmanages'.workspaceId hE hmem hs hrely
  · intro b hb hrole
    obtain rfl := List.mem_singleton.1 hb
    refine .inr (lt_maintainers hmem hrole fun hone => ?_)
    simp [hrole, hone] at hlast

/-! ## The calls that govern nothing -/

omit hplain hrequest hstays hE in
theorem updateRevision_same {change : Work → Work} (hid : ∀ w, (change w).id = w.id)
    (hworkspace : ∀ w, (change w).workspaceId = w.workspaceId) (workId : Uuid)
    (expectedRevision : ℤ) :
    (Works.updateRevision workId expectedRevision change).Within rowViews.Same fun _ => True := by
  refine (Tx.Within.lockAll _ _).andThen fun _ => ?_
  refine Tx.Within.writeIf Same.refl (fun _ s => ?_) _ _
  exact same_updateWork (f := fun w => { change w with revision := w.revision + 1 }) hid
    hworkspace s

theorem updateWork_safe (hquiet : call.governs = false) (actorId workspaceId workId : Uuid)
    (values : Works.WorkValues) (expectedRevision : ℤ) (db : Database) :
    Guaranteed E call (Works.updateWork actorId workspaceId workId values expectedRevision)
      (Point.start db) := by
  refine Tx.Safe.mapError ?_
  refine Tx.Safe.ensure_bind (fun _ => trivial) fun _ => ?_
  refine (stands_start call db).prepareManagerWrite_bind hE _ _ _ _ fun work accesses x hx _ => ?_
  dsimp only
  refine hx.within_bind hE (fun _ _ => trivial)
    (updateRevision_same ?_ ?_ _ _) fun _ y _ hy _ => ?_
  · exact fun _ => rfl
  · exact fun _ => rfl
  rw [← Tx.bind_pure Tx.commitNow]
  exact hy.commitNow_bind hE hplain hrequest hstays (fun s _ _ => hy.governs hquiet s)
    fun _ => Tx.Safe.pure trivial

theorem updateRuleMaterials_safe (hquiet : call.governs = false)
    (actorId workspaceId workId : Uuid) (ruleName : String) (ruleDescription : Option String)
    (ruleContent : String) (materialFileIds : List Uuid) (expectedRevision : ℤ) (db : Database) :
    Guaranteed E call (Works.updateRuleMaterials actorId workspaceId workId ruleName
      ruleDescription ruleContent materialFileIds expectedRevision) (Point.start db) := by
  have hselected : ∀ workspaceId workId fileIds,
      (Works.selectedReadyMaterials workspaceId workId fileIds).Within rowViews.Same
        fun _ => True := by
    intro workspaceId workId fileIds
    rw [Works.selectedReadyMaterials]
    split
    · exact Tx.Within.pure trivial
    · exact Tx.Within.read Same.refl _ fun _ => trivial
  refine Tx.Safe.mapError ?_
  refine Tx.Safe.ensure_bind (fun _ => trivial) fun _ => ?_
  refine (stands_start call db).prepareManagerWrite_bind hE _ _ _ _ fun work accesses x hx _ => ?_
  dsimp only
  refine hx.within_bind hE (fun _ _ => trivial) (hselected _ _ _) fun selected x₁ _ hx₁ _ => ?_
  refine Tx.Safe.ensure_bind (fun _ => trivial) fun _ => ?_
  refine hx₁.within_bind hE (fun _ _ => trivial)
    (updateRevision_same ?_ ?_ _ _) fun _ x₂ _ hx₂ _ => ?_
  · exact fun _ => rfl
  · exact fun _ => rfl
  refine hx₂.within_bind (P := fun _ => True) hE (fun _ _ => trivial)
    (Tx.Within.write ?_) fun _ x₃ _ hx₃ _ => ?_
  · exact fun _ _ _ => rfl
  refine hx₃.within_bind hE (fun _ _ => trivial) (insertRows_within Same.refl ?_ _ _)
    fun _ y _ hy _ => ?_
  · exact fun _ _ _ => rfl
  rw [← Tx.bind_pure Tx.commitNow]
  exact hy.commitNow_bind hE hplain hrequest hstays (fun s _ _ => hy.governs hquiet s)
    fun _ => Tx.Safe.pure trivial

theorem elsewhere_safe (hquiet : call.governs = false) (change : Database → Database)
    (db : Database) :
    Guaranteed E call (Rulefolio.elsewhere keepGovernance change) (Point.start db) := by
  refine (stands_start call db).within_bind (P := fun _ => True) hE (fun _ _ => trivial)
    (Tx.Within.write fun _ s => same_keepGovernance s (change s)) fun _ y _ hy _ => ?_
  rw [← Tx.bind_pure Tx.commitNow]
  exact hy.commitNow_bind hE hplain hrequest hstays (fun s _ _ => hy.governs hquiet s)
    fun _ => Tx.Safe.pure trivial

end Calls

end Workspaces

end Rulefolio
