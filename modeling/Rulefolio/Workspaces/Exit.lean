import Rulefolio.Workspaces.Removal

/-!
# The end of a workspace

An exit is requested by the owner and granted once; every later request is answered from the first.
Once the window is over a worker completes it. It holds the row of the workspace, so nobody joins,
and the rows of all members, so nobody is given a role. What it reads and deletes is therefore all
there is.

## Main definitions

* `Closing` — what the worker holds.

## Main results

* `requestWorkspaceExit_safe`, `processNextDueWorkspaceExit_safe`.
-/

namespace Rulefolio

namespace Workspaces

open LockedViews ReadCommitted

variable {α β : Type} {E : Environment Database RowKey} {call : Call} {K K' : Set RowKey}
  {x y : Point Database RowKey} {Q : α → Point Database RowKey → Prop}

/-! ## The request -/

/-- A request for an exit that is under way. -/
theorem replayExit_safe (hE : Respects E) (h : Stands call ∅ x) (hpending : x.pending = id)
    (hplain : call.exchange = none) (hstays : call.completes = none) (workspace : Workspace)
    (actorId : Uuid) (operationKey : String) :
    Guaranteed E call (replayExit workspace actorId operationKey) x := by
  refine Tx.Safe.ensure_bind (fun _ => trivial) fun _ => ?_
  refine Tx.Safe.commitNow_bind fun s _ hr => ⟨h.commits hE hr ?_ (fun hsome => ?_) (fun _ => ?_)
    fun _ hsome => ?_, Tx.Safe.pure trivial⟩
  · exact .of_unchanged fun k _ => h.toTracks.unchanged (Set.notMem_empty k) s
  · rw [hplain] at hsome
    cases hsome
  · rw [hpending]
    exact .replayed s
  · rw [hstays] at hsome
    cases hsome

theorem requestWorkspaceExit_safe (hE : Respects E) (now : Timestamp) (verified : Bool)
    (actorId workspaceId : Uuid) (expectedRevision : ℤ) (readUntil : Option Timestamp)
    (operationKey : String) (db : Database) :
    Guaranteed E (.requestWorkspaceExit now verified actorId workspaceId expectedRevision readUntil
      operationKey) (requestWorkspaceExit now verified actorId workspaceId expectedRevision
      readUntil operationKey) (Point.start db) := by
  refine Tx.Safe.mapError ?_
  refine Tx.Safe.ensure_bind (fun _ => trivial) fun _ => ?_
  refine Tx.Safe.require_bind (fun _ => trivial) fun window hwindow => ?_
  subst hwindow
  refine (stands_start _ db).read_bind hE fun x hx _ _ hpending => ?_
  refine Tx.Safe.require_bind (fun _ => trivial) fun workspace _ => ?_
  refine Tx.Safe.ensure_bind (fun _ => trivial) fun hreauthenticated => ?_
  split
  · exact replayExit_safe hE hx hpending rfl rfl _ _ _
  have hfind : ∀ (db : Database) (w : Workspace), db.workspaces.find? (fun w =>
      w.id == workspaceId && isVisible now w && w.ownerAccountId == actorId &&
        w.exitRequestedAt.isNone) = some w →
      w.id = workspaceId ∧ w.ownerAccountId = actorId ∧ w.exitRequestedAt = none := by
    intro db w hw
    have hcond := List.find?_some hw
    simp only [Bool.and_eq_true, beq_iff_eq, Option.isNone_iff_eq_none] at hcond
    exact ⟨hcond.1.1.1, hcond.1.2, hcond.2⟩
  refine hx.selectForUpdate_bind hE (l := .workspace workspaceId)
    (fun db w hw => congrArg RowKey.workspace (hfind db w hw).1)
    fun found y hy _ hinv hpending' hfound => ?_
  have hid : y.pending = id := hpending'.trans hpending
  cases found with
  | none =>
    refine hy.read_bind hE fun z hz _ _ hpending'' => ?_
    refine Tx.Safe.require_bind (fun _ => trivial) fun workspace _ => ?_
    exact replayExit_safe hE hz (hpending''.trans hid) rfl rfl _ _ _
  | some w =>
    obtain ⟨hw, hlock⟩ := hfound w rfl
    obtain ⟨rfl, rfl, hexit⟩ := hfind _ w hw
    have hknown : rowViews.Known (workspaceKey w) Rows.workspaces [w] y := by
      rw [hpending] at hw
      exact ⟨hlock, (hE.wellFormed hinv).workspace (List.mem_of_find?_eq_some hw)⟩
    dsimp only
    split
    · exact replayExit_safe hE hy hid rfl rfl _ _ _
    refine Tx.Safe.ensure_bind (fun _ => trivial) fun hrevision => ?_
    refine Tx.Safe.ensure_bind (fun _ => trivial) fun hwindow => ?_
    have hkeeps : ∀ v : Workspace, (requestExit now window w.ownerAccountId operationKey v).id
        = v.id := fun _ => rfl
    have hrows : ∀ s, E.Rely y.locks y.db s → (rowsAt (.workspace w.id) s).workspaces = [w] :=
      fun s hr => (congrArg Rows.workspaces (hE.views hr hlock)).trans hknown.committed
    refine hy.updateRow_bind hE (fun _ _ => trivial) (acts_updateWorkspace hkeeps w.id)
      (.inl rfl) ?_ ?_ fun z hz hyz hpending'' _ => ?_
    · rintro _ rfl
      exact hlock
    · rintro s - hr _ rfl hstep
      rw [hid] at hstep ⊢
      refine { hstep with workspaces := ?_ }
      rw [workspaces_update hkeeps]
      show WorkspaceStep _ (rowsAt (.workspace w.id) s).workspaces
        ((rowsAt (.workspace w.id) s).workspaces.map _)
      rw [hrows s hr, List.map_singleton]
      exact .requested w now window verified w.ownerAccountId expectedRevision operationKey rfl
        (Bool.and_eq_true_iff.1 hreauthenticated).2 rfl (eq_of_beq hrevision)
        (of_decide_eq_true hwindow) hexit
    have hknown' := hknown.extends_ hE.views hyz
    refine Tx.Safe.commitNow_bind fun s _ hr => ⟨hz.commits hE hr ?_ nofun (fun _ => ?_) nofun,
      Tx.Safe.pure trivial⟩
    all_goals
      have hbefore : (rowsAt (workspaceKey w) s).workspaces = [w] :=
        (congrArg Rows.workspaces (hE.views hr hknown'.lock)).trans hknown'.committed
      have hafter : (rowsAt (workspaceKey w) (z.pending s)).workspaces
          = [requestExit now window w.ownerAccountId operationKey w] := by
        rw [hpending'', hid]
        refine (workspaces_update hkeeps w.id s).trans ?_
        rw [show (rowsAt (.workspace w.id) s).workspaces = [w] from hbefore, List.map_singleton]
    · have hout := hz.acts.only s
      rw [Set.empty_union] at hout
      exact .of_replaced (w := w) hout hbefore hafter rfl rfl rfl
    · have hcall : Call.requestWorkspaceExit now verified w.ownerAccountId w.id expectedRevision
          (some window) operationKey = .requestWorkspaceExit now true w.ownerAccountId w.id
            w.revision (some window) operationKey := by
        rw [(Bool.and_eq_true_iff.1 hreauthenticated).2, eq_of_beq hrevision]
      have hgranted : Granted _ s (z.pending s) w now window operationKey :=
        ⟨hcall, of_decide_eq_true hwindow, hexit,
          (mem_workspaces.1 (hbefore ▸ List.mem_singleton_self w)).1,
          (mem_workspaces.1 (hafter ▸ List.mem_singleton_self _)).1⟩
      refine .granted s _ w now window operationKey hgranted hbefore hafter
        fun k hk => hz.acts.only s k ?_
      rw [Set.empty_union]
      exact hk

/-! ## What the worker holds -/

/-- The worker holds the workspace and every member of it. -/
structure Closing (call : Call) (w : Workspace) (K : Set RowKey) (x : Point Database RowKey) :
    Prop where
  stands : Stands call K x
  workspace : rowViews.Known (workspaceKey w) Rows.workspaces [w] x
  members : ∀ m ∈ x.db.members, m.workspaceId = w.id → (memberKey m, .update) ∈ x.locks

namespace Closing

variable {w : Workspace}

theorem extends_ (hE : Respects E) (h : Closing call w K x) (hy : Stands call K' y)
    {F : Database → Database → Prop} (hxy : Tx.Extends E F x y) : Closing call w K' y where
  stands := hy
  workspace := h.workspace.extends_ hE.views hxy
  members m hm hid := hxy.locks
    (h.members m (hE.noJoin w.id hxy.rely h.workspace.lock m hm hid) hid)

/-- A member there is now was there when the worker looked. -/
theorem member_before (hE : Respects E) (h : Closing call w K x) {s s' : Database}
    (hr' : E.Rely x.locks s s') {m : WorkspaceMember} (hm : m ∈ s'.members)
    (hid : m.workspaceId = w.id) : m ∈ s.members :=
  hE.noJoin w.id hr' h.workspace.lock m hm hid

/-- An access there is now was there when the worker looked. -/
theorem access_before (hE : Respects E) (h : Closing call w K x) {s s' : Database}
    (hr : E.Rely x.locks x.db s) (hr' : E.Rely x.locks s s') (hs' : E.Inv s') {a : WorkAccess}
    (ha : a ∈ s'.accesses) (hid : a.workspaceId = w.id) : a ∈ s.accesses := by
  have hmember := (hE.governed hs').members a ha
  have hlock := h.members _ (h.member_before hE (E.trans hr hr') hmember hid) hid
  exact hE.noGrant a.workspaceId a.accountId hr' hlock a ha rfl rfl

/-- `DELETE FROM work_accesses WHERE workspace_id = …` leaves none. -/
theorem deleteAccesses_bind (hE : Respects E) (hgoverns : call.governs = true)
    (h : Closing call w K x) (hK : ∀ workId accountId, RowKey.access workId accountId ∉ K)
    {f : Unit → Program α}
    (hf : ∀ (found : List WorkAccess) y,
      Closing call w (K ∪ { k | ∃ a ∈ found, accessKey a = k }) y →
      y.pending = (fun db => { db with
        accesses := Table.delete (found.contains ·) db.accesses }) ∘ x.pending →
      (∀ a ∈ found, a.workspaceId = w.id) →
      (∀ s, E.Inv s → E.Rely y.locks y.db s → ∀ a ∈ s.accesses, a.workspaceId = w.id →
        a ∈ found) → (f ()).Safe E (guarantee call) Q (fun _ _ => True) y) :
    ((deleteWorkspaceAccesses w.id).bind f).Safe E (guarantee call) Q (fun _ _ => True) x := by
  rw [deleteWorkspaceAccesses]
  simp only [Tx.bind_eq, Tx.bind_assoc]
  refine h.stands.selectEvery_bind hE
    fun s₀ found y hy hxy _ hr₀ _ hr hpending hsub hlocks hevery => ?_
  have hsame : ∀ s (a : WorkAccess), a ∈ (x.pending s).accesses ↔ a ∈ s.accesses := fun s a =>
    accesses_outside (h.stands.acts.only s) (hK _ _)
  refine hy.write_bind hE (N := { k | ∃ a ∈ found, accessKey a = k }) (fun _ => ?_)
    (.inl hgoverns) ?_ ?_ fun z hz hyz hpending' _ => ?_
  · refine acts_accesses (Table.touches_delete fun a ha => ?_)
    exact ⟨a, by simpa using ha, rfl⟩
  · rintro _ ⟨a, ha, rfl⟩
    exact hlocks a ha
  · rintro s hs _ _ - hstep
    exact hstep.deleteAccesses (hE.wellFormed hs _) _
  · refine hf found z ((h.extends_ hE hy hxy).extends_ hE hz hyz) (hpending ▸ hpending')
      (fun a ha => ?_) fun s hs hrs a ha hid => ?_
    · exact eq_of_beq (List.mem_filter.1 (hsub.subset ha)).2
    · have hys : E.Rely x.locks y.db s :=
        E.trans (E.anti hxy.locks hyz.rely) (E.anti (hxy.locks.trans hyz.locks) hrs)
      have hlater := h.access_before hE hxy.rely hys hs ha hid
      have hfirst := h.access_before hE hr₀ (E.trans hr hys) hs ha hid
      exact hevery a (List.mem_filter.2 ⟨(hsame _ a).2 hlater, by simp [hid]⟩)
        (List.mem_filter.2 ⟨(hsame _ a).2 hfirst, by simp [hid]⟩)

/-- `DELETE FROM workspace_members WHERE workspace_id = …` leaves none. -/
theorem deleteMembers_bind (hE : Respects E) (hgoverns : call.governs = true)
    (h : Closing call w K x) (hK : ∀ workspaceId accountId, RowKey.member workspaceId accountId ∉ K)
    {f : Unit → Program α}
    (hf : ∀ (found : List WorkspaceMember) y,
      Closing call w (K ∪ { k | ∃ m ∈ found, memberKey m = k }) y →
      y.pending = (fun db => { db with
        members := Table.delete (found.contains ·) db.members }) ∘ x.pending →
      Tx.Extends E (fun _ _ => True) x y → (∀ m ∈ found, m.workspaceId = w.id) →
      (∀ s, E.Inv s → E.Rely y.locks y.db s → ∀ m ∈ s.members, m.workspaceId = w.id →
        m ∈ found) → (f ()).Safe E (guarantee call) Q (fun _ _ => True) y) :
    ((deleteWorkspaceMembers w.id).bind f).Safe E (guarantee call) Q (fun _ _ => True) x := by
  rw [deleteWorkspaceMembers]
  simp only [Tx.bind_eq, Tx.bind_assoc]
  refine h.stands.selectEvery_bind hE
    fun s₀ found y hy hxy _ hr₀ _ hr hpending hsub hlocks hevery => ?_
  have hsame : ∀ s (m : WorkspaceMember), m ∈ (x.pending s).members ↔ m ∈ s.members := fun s m =>
    members_outside (h.stands.acts.only s) (hK _ _)
  refine hy.write_bind hE (N := { k | ∃ m ∈ found, memberKey m = k }) (fun _ => ?_)
    (.inl hgoverns) ?_ ?_ fun z hz hyz hpending' _ => ?_
  · refine acts_members (Table.touches_delete fun m hm => ?_)
    exact ⟨m, by simpa using hm, rfl⟩
  · rintro _ ⟨m, hm, rfl⟩
    exact hlocks m hm
  · rintro s hs _ _ - hstep
    exact hstep.deleteMembers (hE.wellFormed hs _) _
  · refine hf found z ((h.extends_ hE hy hxy).extends_ hE hz hyz) (hpending ▸ hpending')
      ⟨hyz.commits.trans hxy.commits, hxy.locks.trans hyz.locks, fun _ => trivial,
        E.trans hxy.rely (E.anti hxy.locks hyz.rely)⟩
      (fun m hm => ?_) fun s hs hrs m hm hid => ?_
    · exact eq_of_beq (List.mem_filter.1 (hsub.subset hm)).2
    · have hys : E.Rely x.locks y.db s :=
        E.trans (E.anti hxy.locks hyz.rely) (E.anti (hxy.locks.trans hyz.locks) hrs)
      have hlater := h.member_before hE hys hm hid
      have hfirst := h.member_before hE (E.trans hr hys) hm hid
      exact hevery m (List.mem_filter.2 ⟨(hsame _ m).2 hlater, by simp [hid]⟩)
        (List.mem_filter.2 ⟨(hsame _ m).2 hfirst, by simp [hid]⟩)

end Closing

/-! ## The worker -/

/-- What the commit of the worker does. `p` is what it had done before it deleted anything. -/
theorem Closing.governs (hE : Respects E) {w : Workspace} {now : Timestamp}
    {p : Database → Database} {accesses : List WorkAccess} {members : List WorkspaceMember}
    (h : Closing call w K x) (hp : ∀ s, rowViews.Outside K' s (p s))
    (hK' : ∀ k ∈ K', isGovernance k = false)
    (hpending : x.pending = (fun db => { db with
        workspaces := Table.update (·.id == w.id)
          (fun w => { w with exitCompletedAt := some now }) db.workspaces
        members := Table.delete (members.contains ·) db.members
        accesses := Table.delete (accesses.contains ·) db.accesses }) ∘ p)
    (haccess : ∀ a ∈ accesses, a.workspaceId = w.id)
    (hmember : ∀ m ∈ members, m.workspaceId = w.id) (hexit : w.exitRequestedAt.isSome = true)
    (hrunning : w.exitCompletedAt = none) {s : Database} (hs : E.Inv s)
    (hr : E.Rely x.locks x.db s)
    (haccesses : ∀ a ∈ s.accesses, a.workspaceId = w.id → a ∈ accesses)
    (hmembers : ∀ m ∈ s.members, m.workspaceId = w.id → m ∈ members)
    {H : Set (RowKey × RowLock)} :
    Governs H s (x.pending s) ∧ Emptied w.id s (x.pending s) := by
  have hout : ∀ k, isGovernance k = true → k ∉ K' := fun k hk hmem => by
    rw [hK' k hmem] at hk
    cases hk
  have hsameA : ∀ a, a ∈ (p s).accesses ↔ a ∈ s.accesses := fun a =>
    accesses_outside (hp s) (hout _ rfl)
  have hsameM : ∀ m, m ∈ (p s).members ↔ m ∈ s.members := fun m =>
    members_outside (hp s) (hout _ rfl)
  have hsameW : ∀ v, v ∈ (p s).workspaces ↔ v ∈ s.workspaces := fun v =>
    workspaces_outside (hp s) (hout _ rfl)
  have hrows : (rowsAt (workspaceKey w) s).workspaces = [w] :=
    (congrArg Rows.workspaces (hE.views hr h.workspace.lock)).trans h.workspace.committed
  have hw : w ∈ s.workspaces := by
    have hmem : w ∈ (rowsAt (workspaceKey w) s).workspaces := by
      rw [hrows]
      exact List.mem_singleton_self _
    exact (mem_workspaces.1 hmem).1
  have honly : ∀ v ∈ s.workspaces, v.id = w.id → v = w := by
    intro v hv hid
    have hmem : v ∈ (rowsAt (workspaceKey w) s).workspaces :=
      mem_workspaces.2 ⟨hv, congrArg RowKey.workspace hid⟩
    rw [hrows] at hmem
    exact List.mem_singleton.1 hmem
  let w' : Workspace := { w with exitCompletedAt := some now }
  have hworkspaces : ∀ v, v ∈ (x.pending s).workspaces ↔
      v ∈ s.workspaces ∧ v.id ≠ w.id ∨ v = w' := by
    intro v
    rw [hpending]
    show v ∈ Table.update _ _ (p s).workspaces ↔ _
    rw [Table.mem_update]
    constructor
    · rintro (⟨u, hu, hid, rfl⟩ | ⟨hv, hid⟩)
      · obtain rfl := honly u ((hsameW u).1 hu) (eq_of_beq hid)
        exact .inr rfl
      · exact .inl ⟨(hsameW v).1 hv, by simpa using hid⟩
    · rintro (⟨hv, hid⟩ | rfl)
      · exact .inr ⟨(hsameW v).2 hv, by simpa using hid⟩
      · exact .inl ⟨w, (hsameW w).2 hw, by simp, rfl⟩
  have hmem : ∀ m, m ∈ (x.pending s).members ↔ m ∈ s.members ∧ m ∉ members := by
    intro m
    rw [hpending]
    show m ∈ Table.delete _ (p s).members ↔ _
    rw [Table.mem_delete, hsameM]
    simp
  have hacc : ∀ a, a ∈ (x.pending s).accesses ↔ a ∈ s.accesses ∧ a ∉ accesses := by
    intro a
    rw [hpending]
    show a ∈ Table.delete _ (p s).accesses ↔ _
    rw [Table.mem_delete, hsameA]
    simp
  have hworks : ∀ workId, (rowsAt (.work workId) (x.pending s)).works
      = (rowsAt (.work workId) s).works := by
    intro workId
    rw [hpending]
    exact works_outside (hp s) (hout _ rfl)
  refine ⟨.of_exit w w' rfl rfl (fun v hv hne => (hworkspaces v).2 (.inl ⟨hv, hne⟩))
    (fun v hv => (hworkspaces v).1 hv) ((hworkspaces w').2 (.inr rfl)) hworks
    (fun workId => (hE.wellFormed hs _).works) (fun m hm => ((hmem m).1 hm).1)
    (fun m hm hne => (hmem m).2 ⟨hm, fun hin => hne (hmember m hin)⟩) (fun a ha => ?_)
    fun a ha hne => (hacc a).2 ⟨ha, fun hin => hne (haccess a hin)⟩, ⟨w, hw, rfl, hrunning⟩,
    ⟨w', (hworkspaces w').2 (.inr rfl), rfl, hexit, rfl⟩, fun m hm hid => ?_,
    fun a ha hid => ?_⟩
  · obtain ⟨hold, hnot⟩ := (hacc a).1 ha
    exact ⟨hold, fun hid => hnot (haccesses a hold hid)⟩
  · obtain ⟨hold, hnot⟩ := (hmem m).1 hm
    exact hnot (hmembers m hold hid)
  · obtain ⟨hold, hnot⟩ := (hacc a).1 ha
    exact hnot (haccesses a hold hid)

/-- The loop of the worker over the invitations. -/
theorem revokeForExit_follows (hE : Respects E) (hplain : call.exchange = none)
    (h : Stands call K x) (now : Timestamp) (workspaceId : Uuid)
    {credentials : List OneTimeCredential} {invitations : List WorkspaceInvitation}
    (hopen : ∀ i ∈ invitations, i.status = .active ∧ HoldsOpen i x)
    (hlocks : ∀ c ∈ credentials, (credentialKey c, .update) ∈ x.locks) :
    (Tx.forEach invitations (revokeForExit now workspaceId credentials)).Safe E (guarantee call)
      (fun _ y => ∃ K', Stands call (K ∪ K') y ∧ Tx.Extends E (rowViews.Outside K') x y ∧
        ∀ k ∈ K', isGovernance k = false) (fun _ _ => True) x := by
  refine Tx.Safe.forEach_mem (I := fun y => ∃ K', Stands call (K ∪ K') y ∧
    Tx.Extends E (rowViews.Outside K') x y ∧ ∀ k ∈ K', isGovernance k = false) ?_ ?_
  · refine ⟨∅, ?_, .refl Outside.refl x, fun _ hk => hk.elim⟩
    rwa [Set.union_empty]
  · rintro i hi y ⟨K', hy, hxy, hK'⟩
    obtain ⟨hactive, hholds⟩ := hopen i hi
    rw [revokeForExit]
    refine hy.endInvitation_bind hE (fun _ _ => trivial)
      (hy.mayEnd_of_open hE hplain (hholds.later hE hxy) (ends_markRevoked now) (.inl hactive))
      fun z hz hyz _ => ?_
    have hxz := extends_union hxy hyz
    have hkeys : ∀ k ∈ K' ∪ {invitationKey i}, isGovernance k = false := by
      rintro k (hk | rfl)
      · exact hK' k hk
      · rfl
    rw [Set.union_assoc] at hz
    split
    · exact Tx.Safe.pure ⟨_, hz, hxz, hkeys⟩
    · rename_i c hc
      have hlock := hxz.locks (hlocks c (List.mem_of_find?_eq_some hc))
      rw [← Tx.bind_pure (Identity.revokeWorkspaceInvitationCredential _)]
      refine hz.revokeCredential_bind hE hlock fun u hu hzu => Tx.Safe.pure ⟨_, ?_,
        extends_union hxz hzu, ?_⟩
      · rwa [Set.union_assoc] at hu
      · rintro k (hk | rfl)
        · exact hkeys k hk
        · rfl

theorem processNextDueWorkspaceExit_safe (hE : Respects E) (settings : Settings) (now : Timestamp)
    (pick : Uuid) (db : Database) :
    Guaranteed E (.processNextDueWorkspaceExit now pick)
      (processNextDueWorkspaceExit settings now pick) (Point.start db) := by
  refine Tx.Safe.mapError ?_
  refine (stands_start _ db).read_bind hE fun x hx _ _ _ => ?_
  split
  swap
  · exact Tx.Safe.pure trivial
  have hfind : ∀ (db : Database) (w : Workspace),
      db.workspaces.find? (fun w => w.id == pick && isDue now w) = some w →
        w.id = pick ∧ isDue now w = true := by
    intro db w hw
    have hcond := List.find?_some hw
    rw [Bool.and_eq_true, beq_iff_eq] at hcond
    exact hcond
  refine hx.selectForUpdate_bind hE (l := .workspace pick)
    (fun db w hw => congrArg RowKey.workspace (hfind db w hw).1)
    fun found x₁ hx₁ _ hinv₁ hpending₁ hfound => ?_
  cases found with
  | none => exact Tx.Safe.pure trivial
  | some w =>
    obtain ⟨hw, hlock⟩ := hfound w rfl
    obtain ⟨rfl, hdue⟩ := hfind _ w hw
    have hnothing : ∀ {z : Point Database RowKey} (s : Database),
        Stands (.processNextDueWorkspaceExit now w.id) ∅ z → ∀ k, rowsAt k (z.pending s)
          = rowsAt k s := fun s hz k => hz.toTracks.unchanged (Set.notMem_empty k) s
    have hknown : rowViews.Known (workspaceKey w) Rows.workspaces [w] x₁ := by
      rw [← hpending₁] at hw
      have hmem := List.mem_of_find?_eq_some hw
      rw [mem_workspaces_iff, hnothing _ hx₁, ← mem_workspaces_iff] at hmem
      exact ⟨hlock, (hE.wellFormed hinv₁).workspace hmem⟩
    -- every member of the workspace is locked
    refine hx₁.selectEvery_bind hE fun s₀ found x₂ hx₂ hx₁x₂ _ hr₀ _ hr _ hsub hlocks hevery => ?_
    have hclosing : Closing (.processNextDueWorkspaceExit now w.id) w ∅ x₂ := by
      refine ⟨hx₂, hknown.extends_ hE.views hx₁x₂, fun m hm hid => hlocks m ?_⟩
      have hsame : ∀ s, m ∈ (x₁.pending s).members ↔ m ∈ s.members := fun s =>
        members_outside (hx₁.acts.only s) (Set.notMem_empty _)
      have hfirst := hE.noJoin w.id hr hknown.lock m hm hid
      exact hevery m (List.mem_filter.2 ⟨(hsame _).2 hm, by simp [hid]⟩)
        (List.mem_filter.2 ⟨(hsame _).2 hfirst, by simp [hid]⟩)
    refine hx₂.selectAll_bind hE fun _ x₃ hx₃ hx₂x₃ _ _ _ _ => ?_
    refine hx₃.selectAll_bind hE fun invitations x₄ hx₄ hx₃x₄ hinv₄ hpending₄ hsub₄ hlocks₄ => ?_
    have hopen : ∀ i ∈ invitations, i.status = .active ∧ HoldsOpen i x₄ := by
      intro i hi
      obtain ⟨hmem, hcond⟩ := List.mem_filter.1 (hsub₄.subset hi)
      simp only [Bool.and_eq_true, beq_iff_eq] at hcond
      rw [← hpending₄] at hmem
      refine ⟨hcond.2, hx₄.holdsOpen (hE.wellFormed hinv₄) (Set.notMem_empty _) (hlocks₄ i hi) hmem
        (by rw [hcond.2]; exact nofun)⟩
    refine hx₄.selectAll_bind hE fun credentials x₅ hx₅ hx₄x₅ _ _ _ hlocks₅ => ?_
    refine hx₅.within_bind hE (fun _ _ => trivial) (lockOutboxes_same _)
      fun _ x₆ _ hx₆ hx₅x₆ => ?_
    refine Tx.Safe.bind (revokeForExit_follows hE rfl hx₆ now w.id (fun i hi => ⟨(hopen i hi).1,
      ((hopen i hi).2.later hE hx₄x₅).later hE hx₅x₆⟩) fun c hc => hx₅x₆.locks (hlocks₅ c hc)) ?_
    rintro _ x₇ ⟨K', hx₇, hx₆x₇, hK'⟩
    rw [Set.empty_union] at hx₇
    refine hx₇.within_bind hE (fun _ _ => trivial) (clearEnvelopes_same _) fun _ x₈ _ hx₈ hx₇x₈ => ?_
    refine hx₈.within_bind hE (fun _ _ => trivial) (endAll_same _ _ _) fun _ x₉ _ hx₉ hx₈x₉ => ?_
    have hclosing₉ := (((((((hclosing.extends_ hE hx₃ hx₂x₃).extends_ hE hx₄ hx₃x₄).extends_ hE hx₅
      hx₄x₅).extends_ hE hx₆ hx₅x₆).extends_ hE hx₇ hx₆x₇).extends_ hE hx₈ hx₇x₈).extends_ hE hx₉
      hx₈x₉)
    have hgov : ∀ k, isGovernance k = true → k ∉ K' := fun k hk hmem => by
      rw [hK' k hmem] at hk
      cases hk
    refine hclosing₉.deleteAccesses_bind hE rfl (fun _ _ => hgov _ rfl)
      fun accesses y hy hpendingy haccess haccesses => ?_
    refine hy.deleteMembers_bind hE rfl (fun _ _ hk => ?_)
      fun members z hz hpendingz hyz hmember hmembers => ?_
    · rcases hk with hk | ⟨a, -, heq⟩
      · exact hgov _ rfl hk
      · cases heq
    have hkeeps : ∀ v : Workspace, ({ v with exitCompletedAt := some now } : Workspace).id = v.id :=
      fun _ => rfl
    refine hz.stands.updateRow_bind hE (fun _ _ => trivial) (acts_updateWorkspace hkeeps w.id)
      (.inl rfl) ?_ ?_ fun u hu hzu hpendingu _ => ?_
    · rintro _ rfl
      exact hz.workspace.lock
    · rintro s - hr _ rfl hstep
      have hcommitted : (rowsAt (.workspace w.id) s).workspaces = [w] :=
        (congrArg Rows.workspaces (hE.views hr hz.workspace.lock)).trans hz.workspace.committed
      have hpending : (rowsAt (.workspace w.id) (z.pending s)).workspaces = [w] := by
        rw [hpendingz, hpendingy]
        have hsame : rowsAt (.workspace w.id) (x₉.pending s) = rowsAt (.workspace w.id) s :=
          hx₉.toTracks.unchanged (hgov _ rfl) s
        exact (congrArg Rows.workspaces hsame).trans hcommitted
      refine { hstep with workspaces := ?_ }
      rw [workspaces_update hkeeps]
      show WorkspaceStep _ (rowsAt (.workspace w.id) s).workspaces
        ((rowsAt (.workspace w.id) (z.pending s)).workspaces.map _)
      rw [hcommitted, hpending, List.map_singleton]
      exact .completed w now rfl hdue
    have hclosingu := hz.extends_ hE hu hzu
    have ⟨hexit, hrunning⟩ := running_of_isDue hdue
    refine Tx.Safe.commitNow_bind fun s hs hr => ?_
    have hzs : E.Rely z.locks z.db s := E.trans hzu.rely (E.anti hzu.locks hr)
    have hys : E.Rely y.locks y.db s := E.trans hyz.rely (E.anti hyz.locks hzs)
    obtain ⟨hgoverns, hemptied⟩ := hclosingu.governs hE (p := x₉.pending)
      (fun s => hx₉.acts.only s) hK' (by rw [hpendingu, hpendingz, hpendingy]; rfl) haccess hmember
      hexit hrunning hs hr (haccesses s hs hys) (hmembers s hs hzs)
    refine ⟨hu.commits hE hr hgoverns nofun nofun fun workspaceId hid => ?_, Tx.Safe.pure trivial⟩
    cases hid
    exact hemptied

end Workspaces

end Rulefolio
