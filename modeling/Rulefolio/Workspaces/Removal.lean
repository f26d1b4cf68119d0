import Rulefolio.Workspaces.Roles

/-!
# Removing a member

`remove_member` takes every role of an account in the works of a workspace, one work after the
other, and then the membership. From the moment it has the membership locked nobody gives the
account a role, so the works it has read are all there are. A work whose accesses it does not see is
one of a workspace whose exit has been requested meanwhile, and then the membership stays as well.

## Main definitions

* `Exiting` — the exit of a workspace has been requested.
* `Leaving` — what the call has done so far, kept by every turn of its loop.

## Main results

* `Leaving.revokes` — one turn.
* `removeMember_safe`.
-/

namespace Rulefolio

namespace Workspaces

open LockedViews ReadCommitted

variable {α β : Type} {E : Environment Database RowKey} {call : Call} {K K' : Set RowKey}
  {x y : Point Database RowKey} {Q : α → Point Database RowKey → Prop}

/-! ## Whether an exit has been requested -/

/-- The exit of the workspace has been requested. -/
def Exiting (workspaceId : Uuid) (db : Database) : Prop :=
  ∃ w ∈ db.workspaces, w.id = workspaceId ∧ w.exitRequestedAt.isSome = true

/-- A request is not withdrawn. -/
theorem Exiting.later {workspaceId : Uuid} {db db' : Database} (h : Exiting workspaceId db)
    (hevolves : Evolves db db') : Exiting workspaceId db' := by
  obtain ⟨w, hw, hid, hexit⟩ := h
  obtain ⟨w', hw', hcontinues⟩ := hevolves.workspace w hw
  refine ⟨w', hw', hcontinues.id.trans hid, ?_⟩
  have hsame := hcontinues.exit hexit
  rw [SameExit] at hsame
  rw [hsame]
  exact hexit

/-- A workspace that is there and does not allow a write is exiting. -/
theorem exiting_of_closed {w : Workspace} {db : Database} (hw : w ∈ db.workspaces)
    (h : exitAllowsWrite none w.id db = false) : Exiting w.id db := by
  refine ⟨w, hw, rfl, ?_⟩
  rw [exitAllowsWrite, List.any_eq_false] at h
  have hnot := h w hw
  cases hexit : w.exitRequestedAt with
  | none => simp [hexit] at hnot
  | some => rfl

/-- An exiting workspace allows no write. -/
theorem closed_of_exiting {workspaceId : Uuid} {db : Database} (hdb : WellFormed db)
    (h : Exiting workspaceId db) : exitAllowsWrite none workspaceId db = false := by
  obtain ⟨w, hw, rfl, hexit⟩ := h
  rw [exitAllowsWrite, List.any_eq_false]
  intro v hv hcond
  obtain ⟨hid, hallows⟩ := Bool.and_eq_true_iff.1 hcond
  have hmem : v ∈ (rowsAt (workspaceKey w) db).workspaces :=
    mem_workspaces.2 ⟨hv, congrArg RowKey.workspace (eq_of_beq hid)⟩
  rw [hdb.workspace hw, List.mem_singleton] at hmem
  subst hmem
  cases hrequested : v.exitRequestedAt with
  | none => simp [hrequested] at hexit
  | some => simp [hrequested] at hallows

theorem exitAllowsWrite_outside {db db' : Database} (h : rowViews.Outside K db db')
    {workspaceId : Uuid} (hk : RowKey.workspace workspaceId ∉ K) (maintenance : Option Uuid) :
    exitAllowsWrite maintenance workspaceId db' = exitAllowsWrite maintenance workspaceId db := by
  have hmem : ∀ w : Workspace, w.id = workspaceId →
      (w ∈ db'.workspaces ↔ w ∈ db.workspaces) := by
    rintro w rfl
    exact workspaces_outside h hk
  rw [Bool.eq_iff_iff, exitAllowsWrite, exitAllowsWrite, List.any_eq_true, List.any_eq_true]
  refine exists_congr fun w => and_congr_left fun hcond => hmem w ?_
  exact eq_of_beq (Bool.and_eq_true_iff.1 hcond).1

/-- What the call makes of rows depends on these rows alone. -/
theorem Stands.rows_eq (h : Stands call K x) {k : RowKey} {s : Database}
    (hsame : rowsAt k s = rowsAt k x.db) : rowsAt k (x.pending s) = rowsAt k (x.pending x.db) :=
  h.acts.pointwise s x.db k hsame

/-! ## What the call has done so far -/

/-- What the call has done so far: it has the membership locked, has read in which works the account
has a role, and has taken the role in those of `gone`. -/
structure Leaving (call : Call) (w : Workspace) (accountId : Uuid) (works gone : List Uuid)
    (K : Set RowKey) (x : Point Database RowKey) : Prop where
  stands : Stands call K x
  keys : ∀ k ∈ K, isGovernance k = true → ∃ workId ∈ gone, k = .access workId accountId
  lock : (.member w.id accountId, .update) ∈ x.locks
  workspace : ∃ v ∈ x.db.workspaces, Continues w v
  every : ∀ a ∈ x.db.accesses, a.workspaceId = w.id → a.accountId = accountId → a.workId ∈ works
  shrinks : ∀ a ∈ (x.pending x.db).accesses, a ∈ x.db.accesses
  gone : ∀ workId ∈ gone, Exiting w.id x.db ∨ ∀ a ∈ (x.pending x.db).accesses,
    accessKey a = .access workId accountId → a.workspaceId ≠ w.id
  maintained : ∀ workId, .access workId accountId ∈ K →
    ∀ a ∈ (rowsAt (.access workId accountId) x.db).accesses, a.role = .maintainer →
      ∃ b : WorkAccess, b.workId = workId ∧ b.accountId ≠ accountId ∧ b.role = .maintainer ∧
        rowViews.Known (accessKey b) Rows.accesses [b] x

namespace Leaving

variable {w : Workspace} {accountId : Uuid} {works gone : List Uuid}

/-- An access of the account that the call sees later is one it has seen before. -/
theorem access_before (hE : Respects E) (h : Leaving call w accountId works gone K x)
    {s : Database} (hr : E.Rely x.locks x.db s) {a : WorkAccess}
    (ha : a ∈ (x.pending s).accesses) (hworkspace : a.workspaceId = w.id)
    (haccount : a.accountId = accountId) : a ∈ (x.pending x.db).accesses := by
  by_cases hk : accessKey a ∈ K
  · have hsame : rowsAt (accessKey a) s = rowsAt (accessKey a) x.db :=
      hE.views hr (h.stands.locked _ hk)
    rw [mem_accesses_iff, h.stands.rows_eq hsame] at ha
    exact (mem_accesses.1 ha).1
  · rw [accesses_outside (h.stands.acts.only s) hk] at ha
    rw [accesses_outside (h.stands.acts.only x.db) hk]
    exact hE.noGrant w.id accountId hr h.lock a ha hworkspace haccount

/-- Time passes, and nothing is done about members and accesses. -/
theorem extends_ (hE : Respects E) (h : Leaving call w accountId works gone K x)
    (hy : Stands call (K ∪ K') y) (hxy : Tx.Extends E (rowViews.Outside K') x y)
    (hK' : ∀ k ∈ K', isGovernance k = false) : Leaving call w accountId works gone (K ∪ K') y := by
  have hout : ∀ k, isGovernance k = true → k ∉ K' := fun k hk hmem => by
    rw [hK' k hmem] at hk
    cases hk
  have haccesses : ∀ a : WorkAccess,
      a ∈ (y.pending y.db).accesses ↔ a ∈ (x.pending y.db).accesses := fun a =>
    accesses_outside (hxy.pending y.db) (hout _ rfl)
  refine ⟨hy, fun k hk hgovernance => ?_, hxy.locks h.lock, ?_, fun a ha hworkspace haccount => ?_,
    fun a ha => ?_, fun workId hgone => ?_, fun workId hk a ha hrole => ?_⟩
  · rcases hk with hk | hk
    · exact h.keys k hk hgovernance
    · exact absurd hk (hout k hgovernance)
  · obtain ⟨v, hv, hcontinues⟩ := h.workspace
    obtain ⟨v', hv', hcontinues'⟩ := (hE.evolves hxy.rely).workspace v hv
    exact ⟨v', hv', hcontinues.trans hcontinues'⟩
  · have hold := hE.noGrant w.id accountId hxy.rely h.lock a ha hworkspace haccount
    exact h.every a hold hworkspace haccount
  · rw [haccesses] at ha
    by_cases hk : accessKey a ∈ K
    · have hsame : rowsAt (accessKey a) y.db = rowsAt (accessKey a) x.db :=
        hE.views hxy.rely (h.stands.locked _ hk)
      rw [mem_accesses_iff, h.stands.rows_eq hsame, ← mem_accesses_iff] at ha
      rw [mem_accesses_iff, hsame, ← mem_accesses_iff]
      exact h.shrinks a ha
    · rwa [accesses_outside (h.stands.acts.only y.db) hk] at ha
  · refine (h.gone workId hgone).imp (fun hexit => hexit.later (hE.evolves hxy.rely)) ?_
    intro hnone a ha hkey hworkspace
    rw [haccesses] at ha
    have haccount := (RowKey.access.inj hkey).2
    exact hnone a (h.access_before hE hxy.rely ha hworkspace haccount) hkey hworkspace
  · rcases hk with hk | hk
    · have hsame : rowsAt (.access workId accountId) y.db = rowsAt (.access workId accountId) x.db :=
        hE.views hxy.rely (h.stands.locked _ hk)
      rw [hsame] at ha
      obtain ⟨b, hwork, hne, hbrole, hknown⟩ := h.maintained workId hk a ha hrole
      exact ⟨b, hwork, hne, hbrole, hknown.extends_ hE.views hxy⟩
    · exact absurd hk (hout _ rfl)

theorem same (hE : Respects E) (h : Leaving call w accountId works gone K x)
    (hxy : Tx.Extends E rowViews.Same x y) : Leaving call w accountId works gone K y := by
  have hy : Stands call (K ∪ ∅) y := by
    rw [Set.union_empty]
    exact h.stands.extends_ hE hxy
  have hextends := h.extends_ hE hy (hxy.mono fun _ _ => Outside.of_same) fun _ hk => hk.elim
  rwa [Set.union_empty] at hextends

/-- The call does not touch the workspace. -/
theorem allows_iff (h : Leaving call w accountId works gone K x) (s : Database) :
    exitAllowsWrite none w.id (x.pending s) = exitAllowsWrite none w.id s := by
  refine exitAllowsWrite_outside (h.stands.acts.only s) (fun hk => ?_) none
  obtain ⟨workId, -, heq⟩ := h.keys _ hk rfl
  cases heq

/-- In a state where no exit has been requested the workspace allows writes. -/
theorem allows (h : Leaving call w accountId works gone K x) {s : Database}
    (hworkspace : ∃ v ∈ s.workspaces, Continues w v) (hexit : ¬ Exiting w.id s) :
    exitAllowsWrite none w.id (x.pending s) = true := by
  obtain ⟨v, hv, hcontinues⟩ := hworkspace
  rw [h.allows_iff]
  by_contra hclosed
  refine hexit ?_
  rw [← hcontinues.id] at hclosed ⊢
  exact exiting_of_closed hv (Bool.not_eq_true _ ▸ hclosed)

/-- A work whose accesses show none of the account. -/
theorem gone_of_absent (hE : Respects E) (h : Leaving call w accountId works gone K x)
    {s₀ : Database} (hr₀ : E.Rely x.locks x.db s₀) (hr : E.Rely x.locks s₀ y.db)
    (hxy : Tx.Extends E rowViews.Same x y) (hpending : y.pending = x.pending) {workId : Uuid}
    (hnew : workId ∉ gone) (habsent : ∀ a : WorkAccess, a.accountId = accountId →
      a.workId = workId → a.workspaceId = w.id → a ∈ (x.pending y.db).accesses →
      exitAllowsWrite none w.id (x.pending y.db) = true → a ∈ (x.pending s₀).accesses →
      exitAllowsWrite none w.id (x.pending s₀) = true → False) :
    Exiting w.id y.db ∨ ∀ a ∈ (y.pending y.db).accesses,
      accessKey a = .access workId accountId → a.workspaceId ≠ w.id := by
  by_cases hexit : Exiting w.id y.db
  · exact .inl hexit
  · refine .inr fun a ha hkey hworkspace => ?_
    obtain ⟨hwork, haccount⟩ := RowKey.access.inj hkey
    rw [hpending] at ha
    have hk : accessKey a ∉ K := by
      intro hk
      obtain ⟨id, hid, heq⟩ := h.keys _ hk rfl
      rw [hkey] at heq
      exact hnew ((RowKey.access.inj heq).1 ▸ hid)
    have hlater : a ∈ y.db.accesses := (accesses_outside (h.stands.acts.only y.db) hk).1 ha
    have hfirst : a ∈ s₀.accesses := hE.noGrant w.id accountId hr h.lock a hlater hworkspace haccount
    have hexit₀ : ¬ Exiting w.id s₀ := fun hexit₀ => hexit (hexit₀.later (hE.evolves hr))
    have hworkspace₀ : ∃ v ∈ s₀.workspaces, Continues w v := by
      obtain ⟨v, hv, hcontinues⟩ := h.workspace
      obtain ⟨v', hv', hcontinues'⟩ := (hE.evolves hr₀).workspace v hv
      exact ⟨v', hv', hcontinues.trans hcontinues'⟩
    refine habsent a haccount hwork hworkspace ha (h.allows (h.same hE hxy).workspace hexit) ?_
      (h.allows hworkspace₀ hexit₀)
    exact (accesses_outside (h.stands.acts.only s₀) hk).2 hfirst

/-- The access of the account is deleted. -/
theorem deletes (hE : Respects E) (h : Leaving call w accountId works gone K x) {a : WorkAccess}
    {v r : List WorkAccess} (haccount : a.accountId = accountId) (hworkspace : a.workspaceId = w.id)
    (hrow : rowViews.Row (accessKey a) Rows.accesses v [a] x)
    (hother : accessKey a ∉ K → a.role = .maintainer → ∃ b : WorkAccess, b.workId = a.workId ∧
      b.accountId ≠ accountId ∧ b.role = .maintainer ∧
        rowViews.Known (accessKey b) Rows.accesses [b] x)
    (hy : Stands call (K ∪ {accessKey a}) y)
    (hxy : Tx.Extends E (rowViews.Outside {accessKey a}) x y)
    (hr : r = [] ∨ r = [a] ∧ exitAllowsWrite none a.workspaceId (x.pending y.db) = false)
    (hset : rowViews.Row (accessKey a) Rows.accesses v r y) :
    Leaving call w accountId works (a.workId :: gone) (K ∪ {accessKey a}) y := by
  subst haccount
  have hlater : Leaving call w a.accountId works gone K { x with db := y.db } :=
    h.same hE ⟨rfl, subset_rfl, fun s => Same.refl _, hxy.rely⟩
  have hrow' := hrow.later hE.views h.stands.acts subset_rfl hxy.rely
  have hother' : ∀ b : WorkAccess, accessKey b ≠ accessKey a →
      (b ∈ (y.pending y.db).accesses ↔ b ∈ (x.pending y.db).accesses) := fun b hb =>
    accesses_outside (hxy.pending y.db) hb
  have hself : ∀ b ∈ (y.pending y.db).accesses, accessKey b = accessKey a → b = a ∧ r = [a] := by
    intro b hb hkey
    have hsees : (rowsAt (accessKey a) (y.pending y.db)).accesses = r := hset.sees
    have hmem : b ∈ r := hsees ▸ mem_accesses.2 ⟨hb, hkey⟩
    rcases hr with rfl | ⟨rfl, -⟩
    · cases hmem
    · exact ⟨List.mem_singleton.1 hmem, rfl⟩
  have hseen : a ∈ (x.pending y.db).accesses := by
    have hsees : (rowsAt (accessKey a) (x.pending y.db)).accesses = [a] := hrow'.sees
    have hmem : a ∈ (rowsAt (accessKey a) (x.pending y.db)).accesses := by
      rw [hsees]
      exact List.mem_singleton_self _
    exact (mem_accesses.1 hmem).1
  refine ⟨hy, fun k hk hgovernance => ?_, hxy.locks h.lock, hlater.workspace, hlater.every,
    fun b hb => ?_, fun workId hgone => ?_, fun workId hk b hb hrole => ?_⟩
  · rcases hk with hk | hk
    · obtain ⟨workId, hgone, heq⟩ := h.keys k hk hgovernance
      exact ⟨workId, List.mem_cons_of_mem _ hgone, heq⟩
    · exact ⟨a.workId, List.mem_cons_self, hk⟩
  · by_cases hkey : accessKey b = accessKey a
    · obtain ⟨rfl, -⟩ := hself b hb hkey
      exact hlater.shrinks b hseen
    · exact hlater.shrinks b ((hother' b hkey).1 hb)
  · by_cases hid : workId = a.workId
    · subst hid
      rcases hr with rfl | ⟨rfl, hclosed⟩
      · refine .inr fun b hb hkey => ?_
        cases (hself b hb hkey).2
      · obtain ⟨u, hu, hcontinues⟩ := hlater.workspace
        rw [hworkspace, h.allows_iff, ← hcontinues.id] at hclosed
        exact .inl (hcontinues.id ▸ exiting_of_closed hu hclosed)
    · have hold := (List.mem_cons.1 hgone).resolve_left hid
      refine (hlater.gone workId hold).imp id fun hnone b hb hkey => ?_
      refine hnone b ((hother' b fun heq => hid ?_).1 hb) hkey
      exact (RowKey.access.inj (hkey.symm.trans heq)).1
  · by_cases hold : RowKey.access workId a.accountId ∈ K
    · obtain ⟨c, hwork, hne, hcrole, hknown⟩ := hlater.maintained workId hold b hb hrole
      exact ⟨c, hwork, hne, hcrole, hxy.locks hknown.lock, hknown.committed⟩
    · -- the first time the row is touched, it is the row that was read
      have hid : workId = a.workId := by
        rcases hk with hk | hk
        · exact absurd hk hold
        · exact (RowKey.access.inj hk).1
      subst hid
      have hsame : rowsAt (accessKey a) (x.pending y.db) = rowsAt (accessKey a) y.db :=
        h.stands.toTracks.unchanged hold y.db
      have hsees : (rowsAt (accessKey a) (x.pending y.db)).accesses = [a] := hrow'.sees
      have hcommitted : (rowsAt (accessKey a) y.db).accesses = [a] := hsame ▸ hsees
      obtain rfl : b = a := List.mem_singleton.1 (hcommitted ▸ hb)
      obtain ⟨c, hwork, hne, hcrole, hknown⟩ := hother hold hrole
      exact ⟨c, hwork, hne, hcrole, hknown.extends_ hE.views hxy⟩

/-- **One turn of the loop.** -/
theorem revokes (hE : Respects E) (hgoverns : call.governs = true)
    (h : Leaving call w accountId works gone K x) (hK : ∀ k ∈ K, isGovernance k = true)
    (now : Timestamp) (workId : Uuid) :
    (revokeManagedAccess now w.id accountId workId).Safe E (guarantee call)
      (fun _ y => ∃ K', Leaving call w accountId works (workId :: gone) K' y ∧
        ∀ k ∈ K', isGovernance k = true) (fun _ _ => True) x := by
  rw [revokeManagedAccess, lockManagedAccesses]
  refine h.stands.selectEvery_bind hE
    fun s₀ accesses y hy hxy _ hr₀ hinv hr hpending hsub hlocks hevery => ?_
  have hleaving := h.same hE hxy
  cases hfind : accesses.find? (·.accountId == accountId) with
  | none =>
    refine Tx.Safe.pure ⟨K, { hleaving with keys := ?_, gone := ?_ }, hK⟩
    · intro k hk hgovernance
      obtain ⟨id, hgone, heq⟩ := hleaving.keys k hk hgovernance
      exact ⟨id, List.mem_cons_of_mem _ hgone, heq⟩
    · intro id hid
      by_cases hold : id ∈ gone
      · exact hleaving.gone id hold
      · obtain rfl := (List.mem_cons.1 hid).resolve_right hold
        refine h.gone_of_absent hE hr₀ hr hxy hpending hold
          fun a haccount hwork hworkspace ha hallows ha₀ hallows₀ => ?_
        have hmem := hevery a (List.mem_filter.2 ⟨ha, by simp [hwork, hworkspace, hallows]⟩)
          (List.mem_filter.2 ⟨ha₀, by simp [hwork, hworkspace, hallows₀]⟩)
        have hnot := List.find?_eq_none.1 hfind a hmem
        simp [haccount] at hnot
  | some a =>
    have hmem := List.mem_of_find?_eq_some hfind
    obtain rfl : a.accountId = accountId := by simpa using List.find?_some hfind
    rw [← hpending] at hsub
    have hfound : ∀ b ∈ accesses, b ∈ (y.pending y.db).accesses ∧ b.workId = workId ∧
        b.workspaceId = w.id := by
      intro b hb
      obtain ⟨hb, hcond⟩ := List.mem_filter.1 (hsub.subset hb)
      simp only [Bool.and_eq_true, beq_iff_eq] at hcond
      exact ⟨hb, hcond.1.1, hcond.1.2⟩
    obtain ⟨ha, rfl, hworkspace⟩ := hfound a hmem
    refine Tx.Safe.ensure_bind (fun _ => trivial) fun hlast => ?_
    have hwf := hy.wellFormed_pending (hE.wellFormed hinv)
    have hrow : rowViews.Row (accessKey a) Rows.accesses (rowsAt (accessKey a) y.db).accesses [a]
        y := ⟨hlocks a hmem, rfl, Table.eq_singleton_of_mem (hwf _).accesses
          (mem_accesses.2 ⟨ha, rfl⟩)⟩
    have hother : accessKey a ∉ K → a.role = .maintainer → ∃ b : WorkAccess,
        b.workId = a.workId ∧ b.accountId ≠ a.accountId ∧ b.role = .maintainer ∧
          rowViews.Known (accessKey b) Rows.accesses [b] y := by
      intro _ hrole
      have hdistinct := hwf.nodup_accountIds (hsub.trans List.filter_sublist)
        fun b hb => (hfound b hb).2.1
      obtain ⟨b, hb, hbrole, hne⟩ := exists_other_maintainer hdistinct
        (lt_maintainers hmem hrole fun hone => by simp [hrole, hone] at hlast) a.accountId
      refine ⟨b, (hfound b hb).2.1, hne, hbrole, ?_⟩
      refine hy.access_known (hE.wellFormed hinv) (fun hk => ?_) (hlocks b hb) (hfound b hb).1
      obtain ⟨id, -, heq⟩ := hleaving.keys _ hk rfl
      exact hne (RowKey.access.inj heq).2
    refine hy.within_bind hE (fun _ _ => trivial) (endAll_same _ _ _) fun _ z _ hz hyz => ?_
    rw [← Tx.bind_pure (deleteWorkAccess _ _)]
    refine hz.deleteAccess_bind hE hgoverns (hrow.same hE.views hy.acts hyz)
      fun r u hu hzu hr hset => Tx.Safe.pure ⟨K ∪ {accessKey a}, ?_, ?_⟩
    rotate_left
    · rintro k (hk | rfl)
      · exact hK k hk
      · rfl
    refine (hleaving.same hE hyz).deletes hE rfl hworkspace (hrow.same hE.views hy.acts hyz) ?_
      hu hzu hr hset
    intro hk hrole
    obtain ⟨b, hwork, hne, hbrole, hknown⟩ := hother hk hrole
    exact ⟨b, hwork, hne, hbrole, hknown.extends_ hE.views hyz⟩

end Leaving

/-! ## The invitations of the account -/

/-- The loop of `remove_member` over the candidates. -/
theorem revokeCandidates_follows (hE : Respects E) (hplain : call.exchange = none)
    (h : Stands call K x) {invitations : List WorkspaceInvitation}
    {credentials : List OneTimeCredential} (hall : HoldsAll invitations credentials x)
    (now : Timestamp) (workspaceId accountId : Uuid) (candidates : List (Uuid × Uuid))
    (revoked : List Uuid) :
    (revokeCandidates now workspaceId accountId credentials invitations candidates revoked).Safe E
      (guarantee call) (fun _ y => ∃ K', Stands call (K ∪ K') y ∧
        Tx.Extends E (rowViews.Outside K') x y ∧ ∀ k ∈ K', isGovernance k = false)
      (fun _ _ => True) x := by
  induction candidates generalizing K x revoked with
  | nil =>
    rw [revokeCandidates, ← Tx.bind_pure (Identity.clearEnvelopes _)]
    refine h.within_bind hE (fun _ _ => trivial) (clearEnvelopes_same _) fun _ y _ hy hxy => ?_
    refine Tx.Safe.pure ⟨∅, ?_, hxy.mono fun _ _ => Outside.of_same, fun _ hk => hk.elim⟩
    rwa [Set.union_empty]
  | cons candidate rest ih =>
    obtain ⟨invitationId, credentialId⟩ := candidate
    rw [revokeCandidates]
    split
    · exact ih h hall revoked
    · rename_i invitation hfind
      have hmem := List.mem_of_find?_eq_some hfind
      have hactive : invitation.status = .active := by
        have hcond := List.find?_some hfind
        simp only [Bool.and_eq_true, beq_iff_eq] at hcond
        exact hcond.2
      have hopen := hall.opened invitation hmem (by rw [hactive]; exact nofun)
      refine h.endInvitation_bind hE (fun _ _ => trivial)
        (h.mayEnd_of_open hE hplain hopen (ends_markRevoked now) (.inl hactive))
        fun y hy hxy _ => ?_
      refine hy.within_bind hE (fun _ _ => trivial) (endAll_same _ _ _) fun _ z _ hz hyz => ?_
      have hxz := hxy.trans Outside.trans (hyz.mono fun _ _ => Outside.of_same)
      have hkey : ∀ k ∈ ({invitationKey invitation} : Set RowKey), isGovernance k = false := by
        rintro _ rfl
        rfl
      split
      · refine (ih hz (hall.later hE hxz) revoked).mono ?_ fun _ _ => id
        rintro _ u ⟨K', hu, hzu, hK'⟩
        exact ⟨_, Set.union_assoc K _ K' ▸ hu, extends_union hxz hzu,
          fun k hk => hk.elim (hkey k) (hK' k)⟩
      · rename_i credential hcredential
        have hlock := hall.credentials credential (List.mem_of_find?_eq_some hcredential)
        refine hz.revokeCredential_bind hE (hxz.locks hlock) fun u hu hzu => ?_
        have hxu := extends_union hxz hzu
        refine (ih hu (hall.later hE hxu) _).mono ?_ fun _ _ => id
        rintro _ v ⟨K', hv, huv, hK'⟩
        refine ⟨_, ?_, extends_union hxu huv, ?_⟩
        · rwa [Set.union_assoc, Set.union_assoc, ← Set.union_assoc {invitationKey invitation}] at hv
        · rintro k ((hk | hk) | hk)
          · exact hkey k hk
          · rw [Set.mem_singleton_iff.1 hk]
            rfl
          · exact hK' k hk

/-! ## The call -/

/-- What the commit does, when the membership is deleted or kept at the end. -/
theorem Leaving.governs (hE : Respects E) {w : Workspace} {accountId : Uuid} {works : List Uuid}
    (h : Leaving call w accountId works works K x) (howner : accountId ≠ w.ownerAccountId)
    {open_ : Bool} (hopen : open_ = exitAllowsWrite none w.id (x.pending x.db))
    {δ : Database → Database} (hδ : δ = fun db => { db with
      members := Table.delete (fun m => m.workspaceId == w.id && m.accountId == accountId && open_)
        db.members })
    (hinv : E.Inv x.db) {s : Database} (hs : E.Inv s) (hr : E.Rely x.locks x.db s)
    {H : Set (RowKey × RowLock)} : Governs H s (δ (x.pending s)) := by
  subst hδ
  have hlater : Leaving call w accountId works works K { x with db := s } :=
    h.same hE ⟨rfl, subset_rfl, fun s => Same.refl _, hr⟩
  have hout := h.stands.acts.only s
  have hkey : ∀ k, isGovernance k = true → (∀ workId, k ≠ .access workId accountId) → k ∉ K := by
    intro k hgovernance hne hk
    obtain ⟨workId, -, heq⟩ := h.keys k hk hgovernance
    exact hne workId heq
  have hworkspaces : ∀ v, v ∈ (x.pending s).workspaces ↔ v ∈ s.workspaces := fun v =>
    workspaces_outside hout (hkey _ rfl nofun)
  have hmembers : ∀ m, m ∈ (x.pending s).members ↔ m ∈ s.members := fun m =>
    members_outside hout (hkey _ rfl nofun)
  have hkept : ∀ m ∈ s.members, (m.workspaceId = w.id → m.accountId = accountId →
      open_ = false) → m ∈ Table.delete (fun m => m.workspaceId == w.id &&
        m.accountId == accountId && open_) (x.pending s).members := by
    intro m hm hne
    refine Table.mem_delete.2 ⟨(hmembers m).2 hm, ?_⟩
    by_contra hcond
    simp only [Bool.not_eq_false, Bool.and_eq_true, beq_iff_eq] at hcond
    rw [hne hcond.1.1 hcond.1.2] at hcond
    exact absurd hcond.2 Bool.false_ne_true
  refine .of_changes hworkspaces (fun workId => works_outside hout (hkey _ rfl nofun))
    (fun m hm => (hmembers m).1 (Table.mem_delete.1 hm).1)
    (fun a ha => .inl (hlater.shrinks a ha)) (fun _ a ha hrole => ?_) (fun hdb a ha => ?_)
    fun hdb v hv hopenv => ?_
  · by_cases hk : accessKey a ∈ K
    · obtain ⟨workId, -, heq⟩ := h.keys _ hk rfl
      obtain ⟨hwork, haccount⟩ := RowKey.access.inj heq
      obtain ⟨b, hbwork, hne, hbrole, hknown⟩ := hlater.maintained workId (heq ▸ hk) a
        (mem_accesses.2 ⟨ha, heq⟩) hrole
      have hrows : (rowsAt (accessKey b) s).accesses = [b] := hknown.committed
      have hmem : b ∈ s.accesses := by
        have hself : b ∈ (rowsAt (accessKey b) s).accesses := by
          rw [hrows]
          exact List.mem_singleton_self _
        exact (mem_accesses.1 hself).1
      refine ⟨b, (accesses_outside hout (hkey _ rfl fun id hid => ?_)).2 hmem,
        hbwork.trans hwork.symm, hbrole⟩
      exact hne (RowKey.access.inj hid).2
    · exact ⟨a, (accesses_outside hout hk).2 ha, rfl, hrole⟩
  · refine hkept _ (hdb.members a (hlater.shrinks a ha)) fun hworkspace haccount => ?_
    -- the account has no role left, unless the workspace is exiting
    have hbefore := h.access_before hE hr ha hworkspace haccount
    have hwork := h.every a (h.shrinks a hbefore) hworkspace haccount
    rcases h.gone a.workId hwork with hexit | hnone
    · rw [hopen, h.allows_iff]
      exact closed_of_exiting (hE.wellFormed hinv) hexit
    · exact absurd hworkspace (hnone a hbefore (congrArg (RowKey.access a.workId) haccount))
  · refine hkept _ (hdb.owned v hv hopenv) fun hid haccount => ?_
    obtain ⟨u, hu, hcontinues⟩ := hlater.workspace
    have huv : u = v := by
      have hrows := (hE.wellFormed hs).workspace hv
      have hmem : u ∈ (rowsAt (workspaceKey v) s).workspaces :=
        mem_workspaces.2 ⟨hu, congrArg RowKey.workspace (hcontinues.id.trans hid.symm)⟩
      rw [hrows] at hmem
      exact List.mem_singleton.1 hmem
    exact absurd (haccount.symm.trans (huv ▸ hcontinues.owner)) howner

theorem removeMember_safe (hE : Respects E) (hplain : call.exchange = none)
    (hrequest : call.requestsExit = false) (hstays : call.completes = none)
    (hgoverns : call.governs = true) (now : Timestamp) (actorId workspaceId accountId : Uuid)
    (db : Database) :
    Guaranteed E call (removeMember now actorId workspaceId accountId) (Point.start db) := by
  refine Tx.Safe.mapError ?_
  rw [requireWorkspaceManager, loadVisibleWorkspace]
  simp only [Tx.bind_eq, Tx.pure_eq, Tx.bind_assoc, Tx.pure_bind]
  refine (stands_start call db).read_bind hE fun x hx _ _ hpending => ?_
  refine Tx.Safe.require_bind (fun _ => trivial) fun w hw => ?_
  have hworkspace : w ∈ x.db.workspaces := List.mem_of_find?_eq_some hw
  refine Tx.Safe.ensure_bind (fun _ => trivial) fun _ => ?_
  refine Tx.Safe.ensure_bind (fun _ => trivial) fun _ => ?_
  refine Tx.Safe.ensure_bind (fun _ => trivial) fun howner => ?_
  have howner : accountId ≠ w.ownerAccountId := by simpa using howner
  refine hx.selectForUpdate_bind hE (l := .member w.id accountId) (fun db m hm => ?_)
    fun found x₁ hx₁ hxx₁ _ _ hfound => ?_
  · have hcond := List.find?_some hm
    simp only [Bool.and_eq_true, beq_iff_eq] at hcond
    rw [hcond.1.1, hcond.1.2]
  refine Tx.Safe.ensure_bind (fun _ => trivial) fun hsome => ?_
  obtain ⟨m, hm⟩ := Option.isSome_iff_exists.1 hsome
  have hlock : (.member w.id accountId, .update) ∈ x₁.locks := (hfound m hm).2
  refine hx₁.read_bind hE fun x₂ hx₂ hx₁x₂ _ hpending₂ => ?_
  let works : List Uuid := ((x₁.pending x₂.db).accesses.filter fun a =>
    a.accountId == accountId && a.workspaceId == w.id).map (·.workId)
  have hsame : ∀ a, a ∈ (x₂.pending x₂.db).accesses ↔ a ∈ x₂.db.accesses := fun a =>
    accesses_outside (hx₂.acts.only x₂.db) (Set.notMem_empty _)
  have hleaving : Leaving call w accountId works [] ∅ x₂ := by
    refine ⟨hx₂, fun _ hk => hk.elim, hx₁x₂.locks hlock, ?_, fun a ha hid haccount => ?_,
      fun a ha => (hsame a).1 ha, nofun, fun _ hk => hk.elim⟩
    · exact (hE.evolves (E.trans hxx₁.rely (E.anti hxx₁.locks hx₁x₂.rely))).workspace w hworkspace
    · refine List.mem_map_of_mem (List.mem_filter.2 ⟨?_, by simp [hid, haccount]⟩)
      rw [← hpending₂]
      exact (hsame a).2 ha
  have hloop : ∀ (rest gone : List Uuid) (K : Set RowKey) (y : Point Database RowKey),
      Leaving call w accountId works gone K y → (∀ k ∈ K, isGovernance k = true) →
      (Tx.forEach rest (revokeManagedAccess now w.id accountId)).Safe E (guarantee call)
        (fun _ z => ∃ K', Leaving call w accountId works (rest.reverse ++ gone) K' z ∧
          ∀ k ∈ K', isGovernance k = true) (fun _ _ => True) y := by
    intro rest
    induction rest with
    | nil => exact fun gone K y hy hK => Tx.Safe.pure ⟨K, hy, hK⟩
    | cons workId rest ih =>
      intro gone K y hy hK
      refine Tx.Safe.bind (hy.revokes hE hgoverns hK now workId) ?_
      rintro _ z ⟨K', hz, hK'⟩
      have hrest := ih (workId :: gone) K' z hz hK'
      rwa [List.reverse_cons, List.append_assoc]
  refine Tx.Safe.bind (hloop works [] ∅ x₂ hleaving fun _ hk => hk.elim) ?_
  rintro _ x₃ ⟨K, hx₃, hK⟩
  have hleft : Leaving call w accountId works works K x₃ := by
    refine { hx₃ with keys := fun k hk hgovernance => ?_, gone := fun workId hid => ?_ }
    · exact (hx₃.keys k hk hgovernance).imp fun _ h => ⟨by simpa using h.1, h.2⟩
    · exact hx₃.gone workId (by simpa using hid)
  refine hleft.stands.within_bind hE (fun _ _ => trivial) (activeCandidates_same _ _)
    fun candidates x₄ _ hx₄ hx₃x₄ => ?_
  refine hx₄.lockAll_bind hE (fun _ _ => trivial) (fun id hk => nomatch hK _ hk)
    fun credentials invitations x₅ hx₅ hx₄x₅ hall => ?_
  refine Tx.Safe.bind (revokeCandidates_follows hE hplain hx₅ hall now _ _ candidates []) ?_
  rintro _ x₆ ⟨K', hx₆, hx₅x₆, hK'⟩
  have hleft₆ := ((hleft.same hE hx₃x₄).same hE hx₄x₅).extends_ hE hx₆ hx₅x₆ hK'
  refine hx₆.write_bind hE (N := {.member w.id accountId}) (fun v => ?_) (.inl hgoverns) ?_ ?_
    fun y hy hx₆y hpending hinv => ?_
  · refine acts_members (Table.touches_delete fun m hm => ?_)
    simp only [Bool.and_eq_true, beq_iff_eq] at hm
    rw [memberKey, hm.1.1, hm.1.2]
    rfl
  · rintro _ rfl
    exact hleft₆.lock
  · rintro s hs _ _ rfl hstep
    exact hstep.deleteMembers (hE.wellFormed hs _) _
  · rw [← Tx.bind_pure Tx.commitNow]
    refine hy.commitNow_bind hE hplain hrequest hstays (fun s hs hr => ?_)
      fun _ => Tx.Safe.pure trivial
    have hlater : Leaving call w accountId works works (K ∪ K') { x₆ with db := y.db } :=
      hleft₆.same hE ⟨rfl, subset_rfl, fun s => Same.refl _, hx₆y.rely⟩
    rw [hpending]
    exact hlater.governs hE howner rfl rfl hinv hs (E.anti hx₆y.locks hr)

end Workspaces

end Rulefolio
