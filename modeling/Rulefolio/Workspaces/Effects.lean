import Rulefolio.Workspaces.System

/-!
# What the statements on workspaces change

Each writing statement of the services concerns the rows of a few keys. Here this is said once for
each statement: which keys it touches (`rowViews.Acts`), and that what it makes of their rows goes
on from what the call had made of them before (`RowsStep`).

## Main results

* `acts_workspaces`, `acts_members`, …, `acts_updateInvitation` — the keys a statement touches.
* `RowsStep.addMember`, `RowsStep.endInvitation`, … — the step it takes there.
-/

namespace Rulefolio

namespace Workspaces

open LockedViews

variable {K : Set RowKey}

/-! ## The keys a statement touches -/

theorem acts_workspaces {g : List Workspace → List Workspace}
    (h : Table.Touches workspaceKey K g) :
    rowViews.Acts K fun db => { db with workspaces := g db.workspaces } where
  only s k hk := Rows.ext (h.only s.workspaces k hk) rfl rfl rfl rfl rfl rfl rfl
  pointwise s t k hst := by
    obtain ⟨h₁, h₂, h₃, h₄, h₅, h₆, h₇, h₈⟩ := Rows.ext_iff.1 hst
    exact Rows.ext (h.pointwise s.workspaces t.workspaces k h₁) h₂ h₃ h₄ h₅ h₆ h₇ h₈

theorem acts_members {g : List WorkspaceMember → List WorkspaceMember}
    (h : Table.Touches memberKey K g) :
    rowViews.Acts K fun db => { db with members := g db.members } where
  only s k hk := Rows.ext rfl (h.only s.members k hk) rfl rfl rfl rfl rfl rfl
  pointwise s t k hst := by
    obtain ⟨h₁, h₂, h₃, h₄, h₅, h₆, h₇, h₈⟩ := Rows.ext_iff.1 hst
    exact Rows.ext h₁ (h.pointwise s.members t.members k h₂) h₃ h₄ h₅ h₆ h₇ h₈

theorem acts_accesses {g : List WorkAccess → List WorkAccess} (h : Table.Touches accessKey K g) :
    rowViews.Acts K fun db => { db with accesses := g db.accesses } where
  only s k hk := Rows.ext rfl rfl rfl rfl rfl rfl (h.only s.accesses k hk) rfl
  pointwise s t k hst := by
    obtain ⟨h₁, h₂, h₃, h₄, h₅, h₆, h₇, h₈⟩ := Rows.ext_iff.1 hst
    exact Rows.ext h₁ h₂ h₃ h₄ h₅ h₆ (h.pointwise s.accesses t.accesses k h₇) h₈

/-- A column of the rows with a key, after a row is added. -/
theorem map_rowsWith_cons {ρ κ : Type} {key : ρ → RowKey} {column : ρ → κ} (r : ρ) {t t' : List ρ}
    {k : RowKey} (h : (Table.rowsWith key k t).map column = (Table.rowsWith key k t').map column) :
    (Table.rowsWith key k (r :: t)).map column = (Table.rowsWith key k (r :: t')).map column := by
  rw [Table.rowsWith, Table.rowsWith, List.filter_cons, List.filter_cons]
  split
  · rw [List.map_cons, List.map_cons]
    exact congrArg (column r :: ·) h
  · exact h

/-- A column that the update leaves alone. -/
theorem map_rowsWith_update {ρ κ : Type} {key : ρ → RowKey} {column : ρ → κ} {p : ρ → Bool}
    {f : ρ → ρ} (hkey : ∀ r, p r = true → key (f r) = key r)
    (hcolumn : ∀ r, p r = true → column (f r) = column r) (k : RowKey) (t : List ρ) :
    (Table.rowsWith key k (Table.update p f t)).map column
      = (Table.rowsWith key k t).map column := by
  rw [Table.rowsWith_update hkey, Table.map_update _ hcolumn]

theorem acts_addWork (work : Work) :
    rowViews.Acts {workKey work} fun db => { db with works := work :: db.works } where
  only s k hk := Rows.ext rfl rfl rfl rfl rfl rfl rfl
    (congrArg (List.map _) ((Table.touches_cons work).only s.works k hk))
  pointwise s t k hst := by
    obtain ⟨h₁, h₂, h₃, h₄, h₅, h₆, h₇, h₈⟩ := Rows.ext_iff.1 hst
    exact Rows.ext h₁ h₂ h₃ h₄ h₅ h₆ h₇ (map_rowsWith_cons work h₈)

theorem acts_addInvitation (i : WorkspaceInvitation) :
    rowViews.Acts {invitationKey i, invitationCredentialKey i} fun db =>
      { db with invitations := i :: db.invitations } where
  only s k hk := by
    rw [Set.mem_insert_iff, not_or] at hk
    exact Rows.ext rfl rfl ((Table.touches_cons i).only s.invitations k hk.1)
      (congrArg (List.map _) ((Table.touches_cons i).only s.invitations k hk.2)) rfl rfl rfl rfl
  pointwise s t k hst := by
    obtain ⟨h₁, h₂, h₃, h₄, h₅, h₆, h₇, h₈⟩ := Rows.ext_iff.1 hst
    exact Rows.ext h₁ h₂ ((Table.touches_cons i).pointwise s.invitations t.invitations k h₃)
      (map_rowsWith_cons i h₄) h₅ h₆ h₇ h₈

/-- The change leaves the keys of an invitation alone. -/
structure KeepsKeys (f : WorkspaceInvitation → WorkspaceInvitation) : Prop where
  id : ∀ i, (f i).id = i.id
  credentialId : ∀ i, (f i).credentialId = i.credentialId

theorem KeepsKeys.credentialKey {f : WorkspaceInvitation → WorkspaceInvitation} (h : KeepsKeys f)
    (i : WorkspaceInvitation) : invitationCredentialKey (f i) = invitationCredentialKey i :=
  congrArg RowKey.invitationCredential (h.credentialId i)

theorem keepsKeys_markAccepted (now : Timestamp) (operation operationKey : String) :
    KeepsKeys (markAccepted now operation operationKey) :=
  ⟨fun _ => rfl, fun _ => rfl⟩

theorem acts_updateInvitation {f : WorkspaceInvitation → WorkspaceInvitation} (hf : KeepsKeys f)
    (id : Uuid) : rowViews.Acts {.invitation id} fun db =>
      { db with invitations := Table.update (·.id == id) f db.invitations } := by
  have htouches : Table.Touches invitationKey {.invitation id}
      (Table.update (fun i : WorkspaceInvitation => i.id == id) f) := by
    refine Table.touches_update (fun i _ => congrArg RowKey.invitation (hf.id i)) fun i hi => ?_
    rw [beq_iff_eq] at hi
    exact congrArg RowKey.invitation hi
  have hids : ∀ (k : RowKey) (is : List WorkspaceInvitation),
      (Table.rowsWith invitationCredentialKey k (Table.update (·.id == id) f is)).map (·.id)
        = (Table.rowsWith invitationCredentialKey k is).map (·.id) :=
    map_rowsWith_update (fun i _ => hf.credentialKey i) fun i _ => hf.id i
  refine ⟨fun s k hk => ?_, fun s t k hst => ?_⟩
  · exact Rows.ext rfl rfl (htouches.only s.invitations k hk) (hids k s.invitations) rfl rfl rfl rfl
  · obtain ⟨h₁, h₂, h₃, h₄, h₅, h₆, h₇, h₈⟩ := Rows.ext_iff.1 hst
    exact Rows.ext h₁ h₂ (htouches.pointwise s.invitations t.invitations k h₃)
      ((hids k s.invitations).trans (h₄.trans (hids k t.invitations).symm)) h₅ h₆ h₇ h₈

theorem acts_issueCredential {c : OneTimeCredential} (hc : Identity.isInvitationCredential c) :
    rowViews.Acts {credentialKey c, credentialTokenKey c} fun db =>
      { db with credentials := c :: db.credentials } := by
  have hfilter : ∀ cs : List OneTimeCredential,
      (c :: cs).filter Identity.isInvitationCredential
        = c :: cs.filter Identity.isInvitationCredential := fun cs => List.filter_cons_of_pos hc
  refine ⟨fun s k hk => ?_, fun s t k hst => ?_⟩
  · rw [Set.mem_insert_iff, not_or] at hk
    refine Rows.ext rfl rfl rfl rfl ?_ ?_ rfl rfl
    · exact (congrArg _ (hfilter _)).trans ((Table.touches_cons c).only _ k hk.1)
    · exact congrArg (List.map _)
        ((congrArg _ (hfilter _)).trans ((Table.touches_cons c).only _ k hk.2))
  · obtain ⟨h₁, h₂, h₃, h₄, h₅, h₆, h₇, h₈⟩ := Rows.ext_iff.1 hst
    refine Rows.ext h₁ h₂ h₃ h₄ ?_ ?_ h₇ h₈
    · show Table.rowsWith _ k ((c :: s.credentials).filter _)
        = Table.rowsWith _ k ((c :: t.credentials).filter _)
      rw [hfilter, hfilter]
      exact (Table.touches_cons c).pointwise _ _ k h₅
    · show (Table.rowsWith _ k ((c :: s.credentials).filter _)).map _
        = (Table.rowsWith _ k ((c :: t.credentials).filter _)).map _
      rw [hfilter, hfilter]
      exact map_rowsWith_cons c h₆

/-- The statements that change the status of one credential. -/
theorem acts_setCredential {p : OneTimeCredential → Bool} {id : Uuid}
    (hp : ∀ c, p c = true → c.id = id) (status : CredentialStatus) :
    rowViews.Acts {.credential id} fun db => { db with
      credentials := Table.update p (fun c => { c with status := status }) db.credentials } := by
  have hfilter : ∀ cs : List OneTimeCredential,
      (Table.update p (fun c => { c with status := status }) cs).filter
          Identity.isInvitationCredential
        = Table.update p (fun c => { c with status := status })
          (cs.filter Identity.isInvitationCredential) := fun cs =>
    Table.filter_update_comm cs fun _ _ => rfl
  have htouches : Table.Touches credentialKey {.credential id}
      (Table.update p fun c => { c with status := status }) :=
    Table.touches_update (fun _ _ => rfl) fun c hc => congrArg RowKey.credential (hp c hc)
  have hids : ∀ (k : RowKey) (cs : List OneTimeCredential), (Table.rowsWith credentialTokenKey k
      (Table.update p (fun c => { c with status := status }) cs)).map (·.id)
      = (Table.rowsWith credentialTokenKey k cs).map (·.id) :=
    map_rowsWith_update (fun _ _ => rfl) fun _ _ => rfl
  refine ⟨fun s k hk => ?_, fun s t k hst => ?_⟩
  · refine Rows.ext rfl rfl rfl rfl ?_ ?_ rfl rfl
    · exact (congrArg _ (hfilter _)).trans (htouches.only _ k hk)
    · exact (congrArg (fun cs => (Table.rowsWith credentialTokenKey k cs).map (·.id))
        (hfilter _)).trans (hids k _)
  · obtain ⟨h₁, h₂, h₃, h₄, h₅, h₆, h₇, h₈⟩ := Rows.ext_iff.1 hst
    refine Rows.ext h₁ h₂ h₃ h₄ ?_ ?_ h₇ h₈
    · show Table.rowsWith _ k ((Table.update p _ s.credentials).filter _)
        = Table.rowsWith _ k ((Table.update p _ t.credentials).filter _)
      rw [hfilter, hfilter]
      exact htouches.pointwise _ _ k h₅
    · show (Table.rowsWith _ k ((Table.update p _ s.credentials).filter _)).map _
        = (Table.rowsWith _ k ((Table.update p _ t.credentials).filter _)).map _
      rw [hfilter, hfilter, hids, hids]
      exact h₆

/-! ## What is not looked at -/

theorem same_of_sameBusiness {s s' : Database} (h : SameBusiness s s') : rowViews.Same s s' := by
  intro k
  have hbusiness : s'.business = s.business := h
  show rowsAt k s'.business = rowsAt k s.business
  rw [hbusiness]

/-- A credential of another purpose. -/
theorem same_setCredential {p : OneTimeCredential → Bool}
    (hp : ∀ c, p c = true → Identity.isInvitationCredential c = false)
    (status : CredentialStatus) (s : Database) : rowViews.Same s { s with
      credentials := Table.update p (fun c => { c with status := status }) s.credentials } := by
  have hfilter : (Table.update p (fun c => { c with status := status }) s.credentials).filter
      Identity.isInvitationCredential
        = s.credentials.filter Identity.isInvitationCredential :=
    Table.filter_update s.credentials fun c hc => ⟨hp c hc, hp c hc⟩
  intro k
  simp only [rowsAt, hfilter]

theorem same_updateWork {p : Work → Bool} {f : Work → Work} (hid : ∀ w, (f w).id = w.id)
    (hworkspace : ∀ w, (f w).workspaceId = w.workspaceId) (s : Database) :
    rowViews.Same s { s with works := Table.update p f s.works } := by
  intro k
  have hkey : ∀ w, workKey (f w) = workKey w := fun w => congrArg RowKey.work (hid w)
  have hworks : (Table.rowsWith workKey k (Table.update p f s.works)).map (·.workspaceId)
      = (Table.rowsWith workKey k s.works).map (·.workspaceId) :=
    map_rowsWith_update (fun w _ => hkey w) (fun w _ => hworkspace w) k _
  simp only [rowsAt, hworks]

theorem same_keepGovernance (s s' : Database) : rowViews.Same s (keepGovernance s s') := by
  have hfilter : (s.credentials.filter Identity.isInvitationCredential ++
      s'.credentials.filter (!Identity.isInvitationCredential ·)).filter
        Identity.isInvitationCredential
          = s.credentials.filter Identity.isInvitationCredential := by
    rw [List.filter_append, List.filter_filter, List.filter_filter]
    simp
  intro k
  simp only [rowsAt, keepGovernance, hfilter]

/-! ## The steps taken with them -/

variable {call : Call} {v : Rows} {db : Database}

theorem Insertion.cons {ρ : Type} {rows : List ρ} (h : Insertion rows []) (r : ρ) :
    Insertion rows [r] := by
  cases h
  exact .inserted r

theorem InvitationStep.cons {rows : List WorkspaceInvitation} (h : InvitationStep call rows [])
    {i : WorkspaceInvitation} (hi : i.status = .active) : InvitationStep call rows [i] := by
  cases h
  exact .created i hi

theorem CredentialStep.cons {rows : List OneTimeCredential} (h : CredentialStep call rows [])
    (c : OneTimeCredential) : CredentialStep call rows [c] := by
  cases h
  exact .issued c

theorem WorkspaceStep.cons {rows : List Workspace} (h : WorkspaceStep call rows [])
    {w : Workspace} (hexit : w.exitRequestedAt = none) (hdone : w.exitCompletedAt = none) :
    WorkspaceStep call rows [w] := by
  cases h
  exact .created w hexit hdone

theorem members_of_absent {workspaceId accountId : Uuid}
    (h : (!db.members.any fun m => m.workspaceId == workspaceId && m.accountId == accountId)
      = true) : (rowsAt (.member workspaceId accountId) db).members = [] := by
  refine Table.rowsWith_eq_nil fun m hm hkey => ?_
  cases hkey
  simp at h
  exact h m hm rfl rfl

theorem members_cons (m : WorkspaceMember) (db : Database) :
    (rowsAt (memberKey m) { db with members := m :: db.members }).members
      = m :: (rowsAt (memberKey m) db).members :=
  Table.rowsWith_cons_self m db.members

theorem RowsStep.addMember {workspaceId accountId : Uuid}
    (h : RowsStep call v (rowsAt (.member workspaceId accountId) db))
    (habsent : (!db.members.any fun m =>
      m.workspaceId == workspaceId && m.accountId == accountId) = true) :
    RowsStep call v (rowsAt (.member workspaceId accountId)
      { db with members := ⟨workspaceId, accountId⟩ :: db.members }) :=
  { h with members := .replaced _ _ (by
      rw [show (RowKey.member workspaceId accountId) = memberKey ⟨workspaceId, accountId⟩ from rfl,
        members_cons]
      exact Nat.succ_le_succ (le_of_eq (congrArg List.length (members_of_absent habsent)))) }

theorem RowsStep.deleteMembers {k : RowKey} (h : RowsStep call v (rowsAt k db)) (hv : v.Single)
    (p : WorkspaceMember → Bool) :
    RowsStep call v (rowsAt k { db with members := Table.delete p db.members }) :=
  { h with members := .replaced _ _ (by
      show (Table.rowsWith memberKey k (Table.delete p db.members)).length ≤ 1
      rw [Table.rowsWith_delete]
      exact (List.length_filter_le _ _).trans (h.single hv).members) }

theorem RowsStep.deleteAccesses {k : RowKey} (h : RowsStep call v (rowsAt k db)) (hv : v.Single)
    (p : WorkAccess → Bool) :
    RowsStep call v (rowsAt k { db with accesses := Table.delete p db.accesses }) :=
  { h with accesses := .replaced _ _ (by
      show (Table.rowsWith accessKey k (Table.delete p db.accesses)).length ≤ 1
      rw [Table.rowsWith_delete]
      exact (List.length_filter_le _ _).trans (h.single hv).accesses) }

theorem RowsStep.setAccesses {k : RowKey} (h : RowsStep call v (rowsAt k db)) (hv : v.Single)
    (p : WorkAccess → Bool) (role : WorkRole) :
    RowsStep call v (rowsAt k { db with
      accesses := Table.update p (fun a => { a with role := role }) db.accesses }) := by
  have hkey : ∀ a : WorkAccess, p a = true → accessKey { a with role := role } = accessKey a :=
    fun _ _ => rfl
  refine { h with accesses := .replaced _ _ ?_ }
  show (Table.rowsWith accessKey k (Table.update p _ db.accesses)).length ≤ 1
  rw [Table.rowsWith_update hkey, Table.update, List.length_map]
  exact (h.single hv).accesses

theorem RowsStep.addAccess {a : WorkAccess} (h : RowsStep call v (rowsAt (accessKey a) db))
    (habsent : (!db.accesses.any (isAccess a.workId a.accountId)) = true) :
    RowsStep call v (rowsAt (accessKey a) { db with accesses := a :: db.accesses }) := by
  have hnil : (rowsAt (accessKey a) db).accesses = [] := by
    refine Table.rowsWith_eq_nil fun b hb hkey => ?_
    obtain ⟨hwork, haccount⟩ := RowKey.access.inj hkey
    simp [isAccess] at habsent
    exact habsent b hb hwork haccount
  exact { h with accesses := .replaced _ _ (by
    show (Table.rowsWith accessKey (accessKey a) (a :: db.accesses)).length ≤ 1
    rw [Table.rowsWith_cons_self]
    exact Nat.succ_le_succ (le_of_eq (congrArg List.length hnil))) }

theorem RowsStep.addWork {work : Work} (h : RowsStep call v (rowsAt (workKey work) db))
    (habsent : (!db.works.any (·.id == work.id)) = true) :
    RowsStep call v (rowsAt (workKey work) { db with works := work :: db.works }) := by
  have hnil : Table.rowsWith workKey (workKey work) db.works = [] := by
    refine Table.rowsWith_eq_nil fun w hw hkey => ?_
    simp at habsent
    exact habsent w hw (RowKey.work.inj hkey)
  have hworks : (rowsAt (workKey work) db).works = [] := congrArg (List.map _) hnil
  refine { h with works := ?_ }
  show Insertion v.works ((Table.rowsWith workKey (workKey work) (work :: db.works)).map _)
  rw [Table.rowsWith_cons_self, hnil]
  exact (hworks ▸ h.works).cons _

theorem RowsStep.addWorkspace {w : Workspace} (h : RowsStep call v (rowsAt (workspaceKey w) db))
    (habsent : (!db.workspaces.any (·.id == w.id)) = true) (hexit : w.exitRequestedAt = none)
    (hdone : w.exitCompletedAt = none) :
    RowsStep call v (rowsAt (workspaceKey w) { db with workspaces := w :: db.workspaces }) := by
  have hnil : Table.rowsWith workspaceKey (workspaceKey w) db.workspaces = [] := by
    refine Table.rowsWith_eq_nil fun a ha hkey => ?_
    simp at habsent
    exact habsent a ha (RowKey.workspace.inj hkey)
  have hworkspaces : (rowsAt (workspaceKey w) db).workspaces = [] := hnil
  refine { h with workspaces := ?_ }
  show WorkspaceStep call v.workspaces
    (Table.rowsWith workspaceKey (workspaceKey w) (w :: db.workspaces))
  rw [Table.rowsWith_cons_self, hnil]
  exact (hworkspaces ▸ h.workspaces).cons hexit hdone

theorem RowsStep.addInvitation {i : WorkspaceInvitation} (hi : i.status = .active) {k : RowKey}
    (hk : k ∈ ({invitationKey i, invitationCredentialKey i} : Set RowKey))
    (h : RowsStep call v (rowsAt k db))
    (habsent : (!db.invitations.any fun j => j.id == i.id || j.credentialId == i.credentialId ||
      (j.workspaceId == i.workspaceId && j.accountId == i.accountId && j.status == .active))
        = true) :
    RowsStep call v (rowsAt k { db with invitations := i :: db.invitations }) := by
  have hother : ∀ j ∈ db.invitations, j.id ≠ i.id ∧ j.credentialId ≠ i.credentialId := by
    intro j hj
    simp at habsent
    exact ⟨(habsent j hj).1.1, (habsent j hj).1.2⟩
  rcases hk with rfl | rfl
  · have hnil : Table.rowsWith invitationKey (invitationKey i) db.invitations = [] :=
      Table.rowsWith_eq_nil fun j hj hkey => (hother j hj).1 (RowKey.invitation.inj hkey)
    have hrows : (rowsAt (invitationKey i) db).invitations = [] := hnil
    refine { h with invitations := ?_, invitationIds := ?_ }
    · show InvitationStep call v.invitations (Table.rowsWith invitationKey _ (i :: db.invitations))
      rw [Table.rowsWith_cons_self, hnil]
      exact (hrows ▸ h.invitations).cons hi
    · show Insertion v.invitationIds
        ((Table.rowsWith invitationCredentialKey (invitationKey i) (i :: db.invitations)).map _)
      rw [Table.rowsWith_cons_of_ne (by rw [invitationCredentialKey, invitationKey]; simp)]
      exact h.invitationIds
  · have hnil : Table.rowsWith invitationCredentialKey (invitationCredentialKey i) db.invitations
        = [] := Table.rowsWith_eq_nil fun j hj hkey =>
      (hother j hj).2 (RowKey.invitationCredential.inj hkey)
    have hrows : (rowsAt (invitationCredentialKey i) db).invitationIds = [] :=
      congrArg (List.map _) hnil
    refine { h with invitations := ?_, invitationIds := ?_ }
    · show InvitationStep call v.invitations
        (Table.rowsWith invitationKey (invitationCredentialKey i) (i :: db.invitations))
      rw [Table.rowsWith_cons_of_ne (by rw [invitationCredentialKey, invitationKey]; simp)]
      exact h.invitations
    · show Insertion v.invitationIds
        ((Table.rowsWith invitationCredentialKey _ (i :: db.invitations)).map _)
      rw [Table.rowsWith_cons_self, hnil]
      exact (hrows ▸ h.invitationIds).cons _

theorem RowsStep.issueCredential {c : OneTimeCredential}
    (hc : Identity.isInvitationCredential c = true) {k : RowKey}
    (hk : k ∈ ({credentialKey c, credentialTokenKey c} : Set RowKey))
    (h : RowsStep call v (rowsAt k db))
    (habsent : (!db.credentials.any fun d => d.id == c.id || d.tokenHash == c.tokenHash)
      = true) :
    RowsStep call v (rowsAt k { db with credentials := c :: db.credentials }) := by
  have hother : ∀ d ∈ db.credentials.filter Identity.isInvitationCredential,
      d.id ≠ c.id ∧ d.tokenHash ≠ c.tokenHash := by
    intro d hd
    simp at habsent
    exact habsent d (List.mem_filter.1 hd).1
  have hfilter : (c :: db.credentials).filter Identity.isInvitationCredential
      = c :: db.credentials.filter Identity.isInvitationCredential := List.filter_cons_of_pos hc
  rcases hk with rfl | rfl
  · have hnil : Table.rowsWith credentialKey (credentialKey c)
        (db.credentials.filter Identity.isInvitationCredential) = [] :=
      Table.rowsWith_eq_nil fun d hd hkey => (hother d hd).1 (RowKey.credential.inj hkey)
    have hrows : (rowsAt (credentialKey c) db).credentials = [] := hnil
    refine { h with credentials := ?_, credentialIds := ?_ }
    · show CredentialStep call v.credentials
        (Table.rowsWith credentialKey _ ((c :: db.credentials).filter _))
      rw [hfilter, Table.rowsWith_cons_self, hnil]
      exact (hrows ▸ h.credentials).cons c
    · show Insertion v.credentialIds ((Table.rowsWith credentialTokenKey (credentialKey c)
        ((c :: db.credentials).filter _)).map _)
      rw [hfilter, Table.rowsWith_cons_of_ne (by rw [credentialTokenKey, credentialKey]; simp)]
      exact h.credentialIds
  · have hnil : Table.rowsWith credentialTokenKey (credentialTokenKey c)
        (db.credentials.filter Identity.isInvitationCredential) = [] :=
      Table.rowsWith_eq_nil fun d hd hkey => (hother d hd).2 (RowKey.credentialToken.inj hkey)
    have hrows : (rowsAt (credentialTokenKey c) db).credentialIds = [] :=
      congrArg (List.map _) hnil
    refine { h with credentials := ?_, credentialIds := ?_ }
    · show CredentialStep call v.credentials (Table.rowsWith credentialKey (credentialTokenKey c)
        ((c :: db.credentials).filter _))
      rw [hfilter, Table.rowsWith_cons_of_ne (by rw [credentialTokenKey, credentialKey]; simp)]
      exact h.credentials
    · show Insertion v.credentialIds
        ((Table.rowsWith credentialTokenKey _ ((c :: db.credentials).filter _)).map _)
      rw [hfilter, Table.rowsWith_cons_self, hnil]
      exact (hrows ▸ h.credentialIds).cons _

/-- What becomes of the rows of a workspace that is updated by its key. -/
theorem workspaces_update {f : Workspace → Workspace} (hf : ∀ w, (f w).id = w.id) (id : Uuid)
    (db : Database) :
    (rowsAt (.workspace id) { db with
        workspaces := Table.update (·.id == id) f db.workspaces }).workspaces
      = ((rowsAt (.workspace id) db).workspaces).map f := by
  have hkey : ∀ w : Workspace, (w.id == id) = true → workspaceKey (f w) = workspaceKey w :=
    fun w _ => congrArg RowKey.workspace (hf w)
  show Table.rowsWith workspaceKey (.workspace id) (Table.update (·.id == id) f db.workspaces) = _
  rw [Table.rowsWith_update hkey]
  refine List.map_congr_left fun w hw => ?_
  have hid : w.id = id := RowKey.workspace.inj (Table.mem_rowsWith.1 hw).2
  simp [hid]

/-- The statements that change one workspace. -/
theorem acts_updateWorkspace {f : Workspace → Workspace} (hf : ∀ w, (f w).id = w.id) (id : Uuid) :
    rowViews.Acts {.workspace id} fun db =>
      { db with workspaces := Table.update (·.id == id) f db.workspaces } :=
  acts_workspaces (Table.touches_update (fun w _ => congrArg RowKey.workspace (hf w))
    fun _ hw => congrArg RowKey.workspace (eq_of_beq hw))

/-- What becomes of the rows of an invitation that is updated by its key. -/
theorem invitations_update {f : WorkspaceInvitation → WorkspaceInvitation} (hf : KeepsKeys f)
    (id : Uuid) (db : Database) :
    (rowsAt (.invitation id) { db with
        invitations := Table.update (·.id == id) f db.invitations }).invitations
      = ((rowsAt (.invitation id) db).invitations).map f := by
  have hkey : ∀ i : WorkspaceInvitation, (i.id == id) = true → invitationKey (f i)
      = invitationKey i := fun i _ => congrArg RowKey.invitation (hf.id i)
  show Table.rowsWith invitationKey (.invitation id) (Table.update (·.id == id) f db.invitations)
    = _
  rw [Table.rowsWith_update hkey]
  refine List.map_congr_left fun i hi => ?_
  have hid : i.id = id := RowKey.invitation.inj (Table.mem_rowsWith.1 hi).2
  simp [hid]

theorem RowsStep.updateInvitation {f : WorkspaceInvitation → WorkspaceInvitation}
    (hf : KeepsKeys f) {id : Uuid} (h : RowsStep call v (rowsAt (.invitation id) db))
    (hstep : InvitationStep call v.invitations
      ((rowsAt (.invitation id) db).invitations.map f)) :
    RowsStep call v (rowsAt (.invitation id) { db with
      invitations := Table.update (·.id == id) f db.invitations }) := by
  refine { h with invitations := ?_, invitationIds := ?_ }
  · rw [invitations_update hf]
    exact hstep
  · show Insertion v.invitationIds ((Table.rowsWith invitationCredentialKey (.invitation id)
      (Table.update (·.id == id) f db.invitations)).map _)
    rw [map_rowsWith_update (fun i _ => hf.credentialKey i) fun i _ => hf.id i]
    exact h.invitationIds

/-- The changes by which an invitation ends without being accepted. -/
structure Ends (f : WorkspaceInvitation → WorkspaceInvitation) : Prop where
  eq : ∀ i, ∃ status revokedAt, f i = { i with status := status, revokedAt := revokedAt } ∧
    (status = .revoked ∨ status = .expired)

theorem ends_markExpired : Ends markExpired :=
  ⟨fun i => ⟨.expired, i.revokedAt, rfl, .inr rfl⟩⟩

theorem ends_markRevoked (now : Timestamp) : Ends (markRevoked now) :=
  ⟨fun _ => ⟨.revoked, some now, rfl, .inl rfl⟩⟩

theorem Ends.keepsKeys {f : WorkspaceInvitation → WorkspaceInvitation} (h : Ends f) :
    KeepsKeys f := by
  refine ⟨fun i => ?_, fun i => ?_⟩ <;> obtain ⟨status, revokedAt, heq, -⟩ := h.eq i <;> rw [heq]

/-- An invitation that the call has not accepted is ended, if it was active. -/
theorem InvitationStep.ends {f : WorkspaceInvitation → WorkspaceInvitation} (hf : Ends f)
    {i : WorkspaceInvitation} (hi : i.status = .active ∨ f i = i)
    {rows : List WorkspaceInvitation} (h : InvitationStep call [i] rows)
    (hrows : ∀ j ∈ rows, j.status ≠ .accepted) : InvitationStep call [i] (rows.map f) := by
  cases h with
  | stays =>
    rw [List.map_singleton]
    rcases hi with hactive | hsame
    · obtain ⟨status, revokedAt, heq, hstatus⟩ := hf.eq i
      rw [heq]
      exact .ended i status revokedAt hactive hstatus
    · rw [hsame]
      exact .stays [i]
  | ended _ status revokedAt hactive =>
    obtain ⟨status', revokedAt', heq, hstatus'⟩ :=
      hf.eq { i with status := status, revokedAt := revokedAt }
    rw [List.map_singleton, heq]
    exact .ended i status' revokedAt' hactive hstatus'
  | accepted => exact absurd rfl (hrows _ (List.mem_singleton_self _))

/-- An invitation is ended as the call sees it. -/
theorem InvitationStep.ends_seen {f : WorkspaceInvitation → WorkspaceInvitation} (hf : Ends f)
    {i : WorkspaceInvitation} (hi : i.status = .active ∨ f i = i)
    {rows : List WorkspaceInvitation} (hrows : rows ≠ [])
    (h : InvitationStep call rows [i]) : InvitationStep call rows [f i] := by
  rcases hi with hactive | hsame
  · cases h with
    | stays =>
      obtain ⟨status, revokedAt, heq, hstatus⟩ := hf.eq i
      rw [heq]
      exact .ended i status revokedAt hactive hstatus
    | created => exact absurd rfl hrows
    | ended j status revokedAt _ hended =>
      have hstatus : status = .active := hactive
      rw [hstatus] at hended
      rcases hended with hended | hended <;> cases hended
    | accepted => cases hactive
  · rw [hsame]
    exact h

/-- A call that is no exchange accepts nothing. -/
theorem InvitationStep.not_accepted {i : WorkspaceInvitation} (hi : i.status ≠ .accepted)
    {rows : List WorkspaceInvitation} (h : InvitationStep call [i] rows)
    (hcall : call.exchange = none) : ∀ j ∈ rows, j.status ≠ .accepted := by
  cases h with
  | stays =>
    intro j hj
    rwa [List.mem_singleton.1 hj]
  | ended _ status _ _ hended =>
    intro j hj
    rw [List.mem_singleton.1 hj]
    rcases hended with rfl | rfl <;> exact nofun
  | accepted _ _ _ _ hexchange =>
    rw [hcall] at hexchange
    cases hexchange

theorem CredentialStep.set {status : CredentialStatus} {p : OneTimeCredential → Bool}
    (hp : ∀ c, p c = true → c.status = .active)
    (hstatus : status = .revoked ∨ (status = .consumed ∧ call.exchange.isSome = true))
    {rows rows' : List OneTimeCredential} (hrows : rows.length ≤ 1)
    (h : CredentialStep call rows rows') :
    CredentialStep call rows (Table.update p (fun c => { c with status := status }) rows') := by
  have hkeep : ∀ c : OneTimeCredential, c.status ≠ .active →
      Table.update p (fun c => { c with status := status }) [c] = [c] := by
    intro c hc
    have hpc : p c ≠ true := fun hpc => hc (hp c hpc)
    simp [Table.update, hpc]
  cases h with
  | stays =>
    rcases rows with _ | ⟨c, _ | ⟨c', rest⟩⟩
    · exact .stays []
    · by_cases hpc : p c = true
      · have heq : Table.update p (fun c => { c with status := status }) [c]
            = [{ c with status := status }] := by simp [Table.update, hpc]
        rw [heq]
        rcases hstatus with rfl | ⟨rfl, hcall⟩
        · exact .revoked c (hp c hpc)
        · exact .consumed c hcall (hp c hpc)
      · simpa [Table.update, hpc] using @CredentialStep.stays call [c]
    · simp at hrows
  | issued c =>
    by_cases hpc : p c = true
    · simpa [Table.update, hpc] using CredentialStep.issued { c with status := status }
    · simpa [Table.update, hpc] using CredentialStep.issued c
  | revoked c hactive =>
    rw [hkeep { c with status := .revoked } (by simp)]
    exact .revoked c hactive
  | consumed c hcall hactive =>
    rw [hkeep { c with status := .consumed } (by simp)]
    exact .consumed c hcall hactive

/-- What becomes of the rows with a key where credentials are given a status. -/
theorem credentials_set {p : OneTimeCredential → Bool} (status : CredentialStatus) (k : RowKey)
    (db : Database) :
    (rowsAt k { db with
        credentials := Table.update p (fun c => { c with status := status })
          db.credentials }).credentials
      = Table.update p (fun c => { c with status := status }) (rowsAt k db).credentials := by
  have hpurpose : ∀ c : OneTimeCredential, p c = true →
      Identity.isInvitationCredential { c with status := status }
        = Identity.isInvitationCredential c := fun _ _ => rfl
  have hkey : ∀ c : OneTimeCredential, p c = true →
      credentialKey { c with status := status } = credentialKey c := fun _ _ => rfl
  show Table.rowsWith credentialKey k ((Table.update p _ db.credentials).filter _) = _
  rw [Table.filter_update_comm _ hpurpose, Table.rowsWith_update hkey]
  rfl

theorem RowsStep.setCredential {status : CredentialStatus} {p : OneTimeCredential → Bool}
    (hp : ∀ c, p c = true → c.status = .active)
    (hstatus : status = .revoked ∨ (status = .consumed ∧ call.exchange.isSome = true))
    {k : RowKey} (hv : v.Single) (h : RowsStep call v (rowsAt k db)) :
    RowsStep call v (rowsAt k { db with
      credentials := Table.update p (fun c => { c with status := status }) db.credentials }) := by
  refine { h with credentials := ?_, credentialIds := ?_ }
  · rw [credentials_set]
    exact h.credentials.set hp hstatus hv.credentials
  · have hpurpose : ∀ c : OneTimeCredential, p c = true →
        Identity.isInvitationCredential { c with status := status }
          = Identity.isInvitationCredential c := fun _ _ => rfl
    have hkey : ∀ c : OneTimeCredential, p c = true →
        credentialTokenKey { c with status := status } = credentialTokenKey c := fun _ _ => rfl
    show Insertion v.credentialIds ((Table.rowsWith credentialTokenKey k
      ((Table.update p _ db.credentials).filter _)).map _)
    rw [Table.filter_update_comm _ hpurpose, map_rowsWith_update hkey fun _ _ => rfl]
    exact h.credentialIds

end Workspaces

end Rulefolio
