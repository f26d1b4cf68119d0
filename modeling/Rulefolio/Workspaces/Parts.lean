import Rulefolio.Workspaces.Stands

/-!
# The parts of the calls on workspaces

Most of what a call does is reading, locking, and writing what belongs to accounts, todos and
mails. Nothing of that is seen through `rowViews`. What remains are the statements on invitations
and credentials, each followed from one point to the next.

## Main results

* `within_of_sameBusiness` and the lemmas after it — the parts that change nothing of workspaces.
* `Stands.endInvitation_bind`, `Stands.revokeCredential_bind`, `Stands.expireInvitation` — how an
  invitation ends.
-/

namespace Rulefolio

namespace Workspaces

open LockedViews ReadCommitted

variable {α β : Type} {P : β → Prop}

/-! ## Parts that change nothing of workspaces -/

theorem within_of_sameBusiness {t : Program β} (h : t.Within SameBusiness P) :
    t.Within rowViews.Same P :=
  h.mono (fun _ _ => same_of_sameBusiness) fun _ => id

theorem endAll_same (maintenance : Option Uuid) (now : Timestamp)
    (ending : Notifications.Ending) :
    (Notifications.endAll maintenance now ending).Within rowViews.Same fun _ => True :=
  within_of_sameBusiness (Notifications.endAll_within maintenance now ending)

theorem clearEnvelopes_same (credentialIds : List Uuid) :
    (Identity.clearEnvelopes credentialIds).Within rowViews.Same fun _ => True :=
  Tx.Within.write fun _ _ => same_of_sameBusiness rfl

theorem lockOutboxes_same (credentialIds : List Uuid) :
    (lockOutboxes credentialIds).Within rowViews.Same fun _ => True :=
  Tx.Within.selectAllForUpdate Same.refl _ _

theorem requireWorkspaceManager_same (workspaceId actorId : Uuid) :
    (requireWorkspaceManager workspaceId actorId).Within rowViews.Same fun _ => True :=
  (loadVisibleWorkspace_within Same.refl workspaceId).andThen fun _ =>
    (Tx.Within.ensure' _ _).andThen fun _ => Tx.Within.pure trivial

theorem getWorkspace_same (now : Timestamp) (workspaceId : Uuid) :
    (getWorkspace now workspaceId).Within rowViews.Same
      fun workspace => ∀ w, workspace = some w → w.id = workspaceId := by
  refine Tx.Within.read Same.refl _ fun db w hw => ?_
  have hcond := List.find?_some hw
  exact eq_of_beq (Bool.and_eq_true_iff.1 hcond).1

theorem hasWorkspaceMember_same (workspaceId accountId : Uuid) :
    (hasWorkspaceMember workspaceId accountId).Within rowViews.Same fun _ => True :=
  Tx.Within.read Same.refl _ fun _ => trivial

theorem getOrCreateInvitationAccount_same (normalizeEmail : String → Option String)
    (newId : Uuid) (email : String) :
    (Identity.getOrCreateInvitationAccount normalizeEmail newId email).Within rowViews.Same
      fun _ => True := by
  have hselect : ∀ find : Database → Option Account,
      (Tx.selectForUpdate (fun a : Account => .account a.id) find :
        Program (Option Account)).Within rowViews.Same fun _ => True := fun find =>
    Tx.Within.selectForUpdate Same.refl _ find trivial fun _ => trivial
  refine (Tx.Within.require' _ _).andThen fun email => ?_
  refine (hselect _).andThen fun found => ?_
  cases found with
  | some account => exact Tx.Within.pure trivial
  | none =>
    refine (Tx.Within.lockAll _ _).andThen fun _ => (hselect _).andThen fun found => ?_
    cases found with
    | some account => exact Tx.Within.pure trivial
    | none =>
      refine Tx.Within.andThen (R := fun _ => True) ?_ fun _ => Tx.Within.pure trivial
      exact insertRow_within Same.refl (fun _ _ => by rfl) _ _ _

theorem lockAccount_same (accountId : Uuid) :
    (Identity.lockAccount accountId).Within rowViews.Same
      fun account => ∀ a, account = some a → a.id = accountId := by
  refine Tx.Within.selectForUpdate Same.refl _ _ nofun fun db a ha => ?_
  have hcond := List.find?_some ha
  exact eq_of_beq hcond

theorem activateInvitedAccount_same (accountId : Uuid) :
    (Identity.activateInvitedAccount accountId).Within rowViews.Same fun _ => True := by
  refine (updateRow_within Same.refl (fun _ _ => by rfl) _).andThen fun _ => ?_
  refine Tx.Within.andThen (R := fun _ => True) ?_ fun _ => clearEnvelopes_same _
  refine (Tx.Within.selectAllForUpdate Same.refl _ _).andThen fun credentials => ?_
  refine (Tx.Within.forEach (fun credential => ?_) _).andThen fun _ => Tx.Within.pure trivial
  refine updateRow_within Same.refl (same_setCredential (fun c hc => ?_) _) _
  have hpurpose : c.purpose = .accountActivation :=
    eq_of_beq (Bool.and_eq_true_iff.1 hc).2
  simp [Identity.isInvitationCredential, hpurpose]

theorem todoForActive_same (uuids : Uuids) (account : Account) (workspace : Workspace)
    (invitation : WorkspaceInvitation) :
    (todoForActive uuids account workspace invitation).Within rowViews.Same fun _ => True := by
  rw [todoForActive]
  split
  · exact (within_of_sameBusiness (Notifications.createTodo_within _)).andThen fun _ =>
      Tx.Within.pure trivial
  · exact Tx.Within.pure trivial

theorem enqueueMail_same (row : MailOutbox) :
    (Notifications.enqueueMail row).Within rowViews.Same fun _ => True :=
  within_of_sameBusiness (Notifications.enqueueMail_within row)

theorem activeCandidates_same (workspaceId accountId : Uuid) :
    (activeCandidates workspaceId accountId).Within rowViews.Same fun _ => True :=
  Tx.Within.read Same.refl _ fun _ => trivial

/-! ## One row a key -/

namespace WellFormed

variable {db : Database}

theorem invitation (h : WellFormed db) {i : WorkspaceInvitation} (hi : i ∈ db.invitations) :
    (rowsAt (invitationKey i) db).invitations = [i] :=
  Table.eq_singleton_of_mem (h _).invitations (mem_invitations.2 ⟨hi, rfl⟩)

theorem credential (h : WellFormed db) {c : OneTimeCredential} (hc : c ∈ db.credentials)
    (hpurpose : Identity.isInvitationCredential c = true) :
    (rowsAt (credentialKey c) db).credentials = [c] :=
  Table.eq_singleton_of_mem (h _).credentials (mem_credentials.2 ⟨⟨hc, hpurpose⟩, rfl⟩)

theorem workspace (h : WellFormed db) {w : Workspace} (hw : w ∈ db.workspaces) :
    (rowsAt (workspaceKey w) db).workspaces = [w] :=
  Table.eq_singleton_of_mem (h _).workspaces (mem_workspaces.2 ⟨hw, rfl⟩)

end WellFormed

/-! ## How an invitation ends -/

variable {E : Environment Database RowKey} {call : Call} {K K' : Set RowKey}
  {x y : Point Database RowKey} {Q : α → Point Database RowKey → Prop}
  {X : ServiceError → Point Database RowKey → Prop}

/-- The call has an invitation locked that is not accepted. -/
structure HoldsOpen (i : WorkspaceInvitation) (x : Point Database RowKey) : Prop where
  known : rowViews.Known (invitationKey i) Rows.invitations [i] x
  status : i.status ≠ .accepted

theorem HoldsOpen.later (hE : Respects E) {i : WorkspaceInvitation} (h : HoldsOpen i x)
    {F : Database → Database → Prop} (hy : Tx.Extends E F x y) : HoldsOpen i y :=
  ⟨h.known.extends_ hE.views hy, h.status⟩

/-- An invitation that was found under its lock, and that the call has not changed. -/
theorem Stands.holdsOpen (h : Stands call K x) (hinv : WellFormed x.db)
    {i : WorkspaceInvitation} (hk : invitationKey i ∉ K)
    (hlock : (invitationKey i, .update) ∈ x.locks) (hi : i ∈ (x.pending x.db).invitations)
    (hstatus : i.status ≠ .accepted) : HoldsOpen i x := by
  have hmem : i ∈ (rowsAt (invitationKey i) (x.pending x.db)).invitations :=
    mem_invitations.2 ⟨hi, rfl⟩
  have hsame : rowsAt (invitationKey i) (x.pending x.db) = rowsAt (invitationKey i) x.db :=
    h.toTracks.unchanged hk x.db
  rw [hsame] at hmem
  exact ⟨⟨hlock, hinv.invitation (mem_invitations.1 hmem).1⟩, hstatus⟩

/-- Ending the invitation so is a step the call may take. -/
structure MayEnd (E : Environment Database RowKey) (call : Call)
    (change : WorkspaceInvitation → WorkspaceInvitation) (i : WorkspaceInvitation)
    (x : Point Database RowKey) : Prop where
  lock : (invitationKey i, .update) ∈ x.locks
  ends : Ends change
  step : ∀ s, E.Rely x.locks x.db s → InvitationStep call (rowsAt (invitationKey i) s).invitations
    ((rowsAt (invitationKey i) (x.pending s)).invitations.map change)

namespace Stands

variable {i : WorkspaceInvitation} {change : WorkspaceInvitation → WorkspaceInvitation}

/-- A call that is no exchange may end the invitations it holds. -/
theorem mayEnd_of_open (hE : Respects E) (h : Stands call K x) (hplain : call.exchange = none)
    (hi : HoldsOpen i x) (hends : Ends change) (hchange : i.status = .active ∨ change i = i) :
    MayEnd E call change i x := by
  refine ⟨hi.known.lock, hends, fun s hr => ?_⟩
  have hcommitted : (rowsAt (invitationKey i) s).invitations = [i] :=
    (congrArg Rows.invitations (hE.views hr hi.known.lock)).trans hi.known.committed
  have hstep := ((h.toTracks.commits hE.views (fun _ => RowsStep.refl call) hr).1
    (invitationKey i)).invitations
  rw [hcommitted] at hstep ⊢
  exact hstep.ends hends hchange (InvitationStep.not_accepted hi.status hstep hplain)

/-- Any call may end an invitation it sees as active. -/
theorem mayEnd_of_row (hE : Respects E) (h : Stands call K x) {v : List WorkspaceInvitation}
    (hv : v ≠ []) (hi : rowViews.Row (invitationKey i) Rows.invitations v [i] x)
    (hends : Ends change) (hchange : i.status = .active ∨ change i = i) :
    MayEnd E call change i x := by
  refine ⟨hi.lock, hends, fun s hr => ?_⟩
  have hstep := ((h.toTracks.commits hE.views (fun _ => RowsStep.refl call) hr).1
    (invitationKey i)).invitations
  have hlater := hi.later hE.views h.acts subset_rfl hr
  have hcommitted : (rowsAt (invitationKey i) s).invitations = v := hlater.committed
  have hsees : (rowsAt (invitationKey i) (x.pending s)).invitations = [i] := hlater.sees
  rw [hcommitted, hsees] at hstep
  rw [hcommitted, hsees, List.map_singleton]
  exact hstep.ends_seen hends hchange hv

/-- The `UPDATE` that ends an invitation. -/
theorem endInvitation_bind (hE : Respects E) (h : Stands call K x) (hX : ∀ e y, X e y)
    (hi : MayEnd E call change i x) {maintenance : Option Uuid} {f : Unit → Program α}
    (hf : ∀ y, Stands call (K ∪ {invitationKey i}) y →
      Tx.Extends E (rowViews.Outside {invitationKey i}) x y →
      (∀ v, rowViews.Row (invitationKey i) Rows.invitations v [i] x →
        rowViews.Row (invitationKey i) Rows.invitations v [change i] y) →
      (f ()).Safe E (guarantee call) Q X y) :
    ((updateInvitation maintenance i change).bind f).Safe E (guarantee call) Q X x := by
  refine h.updateRow_bind hE hX (acts_updateInvitation hi.ends.keepsKeys i.id)
    (allowed_singleton rfl) ?_ ?_ fun y hy hxy hpending _ => hf y hy hxy fun v hrow => ?_
  · rintro _ rfl
    exact hi.lock
  · rintro s _ hr _ rfl hstep
    exact hstep.updateInvitation hi.ends.keepsKeys (hi.step s hr)
  · refine hrow.write hE.views h.acts hxy hpending fun t ht => ?_
    have hsees : (rowsAt (.invitation i.id) t).invitations = [i] := ht
    refine (invitations_update hi.ends.keepsKeys i.id t).trans ?_
    rw [hsees, List.map_singleton]

theorem revokeCredential_bind (hE : Respects E) (h : Stands call K x) {credentialId : Uuid}
    (hlock : (.credential credentialId, .update) ∈ x.locks) {f : Unit → Program α}
    (hf : ∀ y, Stands call (K ∪ {.credential credentialId}) y →
      Tx.Extends E (rowViews.Outside {.credential credentialId}) x y →
      (f ()).Safe E (guarantee call) Q X y) :
    ((Identity.revokeWorkspaceInvitationCredential credentialId).bind f).Safe E (guarantee call)
      Q X x := by
  have hid : ∀ c, Identity.revokes credentialId c = true → c.id = credentialId := fun c hc => by
    simp only [Identity.revokes, Bool.and_eq_true, beq_iff_eq] at hc
    exact hc.1.1
  have hactive : ∀ c, Identity.revokes credentialId c = true → c.status = .active := fun c hc => by
    simp only [Identity.revokes, Bool.and_eq_true, beq_iff_eq] at hc
    exact hc.2
  refine h.write_bind hE (fun _ => acts_setCredential hid .revoked) (allowed_singleton rfl) ?_ ?_
    fun y hy hxy _ _ => hf y hy hxy
  · rintro _ rfl
    exact hlock
  · rintro s hs _ _ rfl hstep
    exact hstep.setCredential hactive (.inl rfl) (hE.wellFormed hs _)

end Stands

/-- An invitation that has expired is active, or was marked before. -/
theorem marks_of_expired {i : WorkspaceInvitation} {credential : Option OneTimeCredential}
    {now : Timestamp} (h : invitationStatus i credential now = .expired) :
    i.status = .active ∨ markExpired i = i := by
  rw [invitationStatus] at h
  split at h
  · rename_i hcond
    exact .inl (eq_of_beq (Bool.and_eq_true_iff.1 hcond).1)
  · right
    rw [markExpired, ← h]

theorem status_of_expired {i : WorkspaceInvitation} {credential : Option OneTimeCredential}
    {now : Timestamp} (h : invitationStatus i credential now = .expired) :
    i.status ≠ .accepted := by
  rcases marks_of_expired h with hactive | hsame
  · rw [hactive]
    exact nofun
  · rw [← hsame]
    exact nofun

/-- The invitation is ended with its credential, its todo and its mail. -/
theorem Stands.expireInvitation (hE : Respects E) (h : Stands call K x) (hX : ∀ e y, X e y)
    {i : WorkspaceInvitation} {credential : Option OneTimeCredential} {now : Timestamp}
    (hi : invitationStatus i credential now = .expired → MayEnd E call markExpired i x)
    (hcredential : ∀ c, credential = some c → (credentialKey c, .update) ∈ x.locks) :
    (Workspaces.expireInvitation now i credential).Safe E (guarantee call)
      (fun expired y => ∃ K', Stands call (K ∪ K') y ∧ Tx.Extends E (rowViews.Outside K') x y ∧
        (∀ k ∈ K', k = invitationKey i ∨ ∃ id, k = .credential id) ∧
        (expired = true → ∀ v, rowViews.Row (invitationKey i) Rows.invitations v [i] x →
          rowViews.Row (invitationKey i) Rows.invitations v [markExpired i] y)) X x := by
  rw [Workspaces.expireInvitation.eq_def]
  split
  · rename_i hexpired
    refine h.endInvitation_bind hE hX (hi hexpired) fun y hy hxy hended => ?_
    refine hy.within_bind hE hX (endAll_same _ _ _) fun _ z _ hz hyz => ?_
    have hxz := hxy.trans Outside.trans (hyz.mono fun _ _ => Outside.of_same)
    cases credential with
    | none =>
      exact Tx.Safe.pure ⟨_, hz, hxz, fun k hk => .inl hk, fun _ v hrow =>
        (hended v hrow).same hE.views hy.acts hyz⟩
    | some c =>
      refine hz.revokeCredential_bind hE (hxz.locks (hcredential c rfl)) fun u hu hzu => ?_
      refine hu.within_bind hE hX (clearEnvelopes_same _) fun _ w _ hw huw => ?_
      refine Tx.Safe.pure ⟨{invitationKey i} ∪ {.credential c.id}, ?_, ?_, ?_, ?_⟩
      · rw [← Set.union_assoc]
        exact hw
      · refine (hxz.mono fun _ _ hout => hout.mono Set.subset_union_left).trans Outside.trans ?_
        exact (hzu.mono fun _ _ hout => hout.mono Set.subset_union_right).trans Outside.trans
          (huw.mono fun _ _ => Outside.of_same)
      · rintro k (rfl | rfl)
        · exact .inl rfl
        · exact .inr ⟨c.id, rfl⟩
      · intro _ v hrow
        have hrow' := ((hended v hrow).same hE.views hy.acts hyz).extends_ hE.views hz.acts hzu
          (by rw [Set.mem_singleton_iff]; exact nofun)
        exact hrow'.same hE.views hu.acts huw
  · refine Tx.Safe.pure ⟨∅, ?_, .refl Outside.refl x, nofun, nofun⟩
    rw [Set.union_empty]
    exact h

/-! ## An invitation found by its key -/

/-- The invitations the call has changed were there before. -/
def Present (K : Set RowKey) (x : Point Database RowKey) : Prop :=
  ∀ id, RowKey.invitation id ∈ K → (rowsAt (.invitation id) x.db).invitations ≠ []

theorem Present.later (hE : Respects E) (hlocked : ∀ k ∈ K, (k, .update) ∈ x.locks)
    (h : Present K x) {F : Database → Database → Prop} (hy : Tx.Extends E F x y) :
    Present K y := by
  intro id hid
  have hsame : rowsAt (.invitation id) y.db = rowsAt (.invitation id) x.db :=
    hE.views hy.rely (hlocked _ hid)
  rw [hsame]
  exact h id hid

/-- What the call sees under a lock it has just taken. -/
theorem Stands.row_of_mem (h : Stands call K x) (hinv : WellFormed x.db) (hpresent : Present K x)
    {i : WorkspaceInvitation} (hlock : (invitationKey i, .update) ∈ x.locks)
    (hi : i ∈ (x.pending x.db).invitations) : ∃ v, v ≠ [] ∧
      rowViews.Row (invitationKey i) Rows.invitations v [i] x := by
  have hmem : i ∈ (rowsAt (invitationKey i) (x.pending x.db)).invitations :=
    mem_invitations.2 ⟨hi, rfl⟩
  have hsingle := ((h.steps (invitationKey i)).single (hinv _)).invitations
  refine ⟨_, ?_, hlock, rfl, Table.eq_singleton_of_mem hsingle hmem⟩
  by_cases hk : invitationKey i ∈ K
  · exact hpresent i.id hk
  · have hsame : rowsAt (invitationKey i) (x.pending x.db) = rowsAt (invitationKey i) x.db :=
      h.toTracks.unchanged hk x.db
    rw [hsame] at hmem
    exact List.ne_nil_of_mem hmem

/-- `expire_inbox_invitation`. -/
theorem Stands.expireInboxInvitation (hE : Respects E) (h : Stands call K x)
    (hX : ∀ e y, X e y) (hpresent : Present K x) (now : Timestamp)
    (accountId invitationId : Uuid) :
    (Workspaces.expireInboxInvitation now accountId invitationId).Safe E (guarantee call)
      (fun _ y => ∃ K', Stands call K' y ∧ Present K' y) X x := by
  refine h.selectForUpdate_bind hE (l := .invitation invitationId) (fun db i hi => ?_)
    fun found y hy hxy hinv hpending hfound => ?_
  · have hcond := List.find?_some hi
    simp only [Bool.and_eq_true, beq_iff_eq] at hcond
    exact congrArg RowKey.invitation hcond.1.1
  · have hpresent' := hpresent.later hE h.locked hxy
    cases found with
    | none => exact Tx.Safe.pure ⟨K, hy, hpresent'⟩
    | some i =>
      obtain ⟨hfind, hlock⟩ := hfound i rfl
      rw [← hpending] at hfind
      have hid : i.id = invitationId := by
        have hcond := List.find?_some hfind
        simp only [Bool.and_eq_true, beq_iff_eq] at hcond
        exact hcond.1.1
      subst hid
      obtain ⟨v, hv, hrow⟩ := hy.row_of_mem (hE.wellFormed hinv) hpresent' hlock
        (List.mem_of_find?_eq_some hfind)
      refine hy.within_bind hE hX (lockOutboxes_same _) fun _ z _ hz hyz => ?_
      refine hz.selectFirst_bind hE fun credential u hu hzu _ _ _ hcredential => ?_
      have hyu := hyz.trans Same.trans hzu
      have hrow' := hrow.same hE.views hy.acts hyu
      refine (hu.expireInvitation hE hX (fun hexpired => ?_) hcredential).mono ?_ fun _ _ => id
      · exact hu.mayEnd_of_row hE hv hrow' ends_markExpired (marks_of_expired hexpired)
      · rintro _ w ⟨K', hw, huw, hkeys, -⟩
        refine ⟨K ∪ K', hw, fun id hid => ?_⟩
        rcases hid with hid | hid
        · exact ((hpresent'.later hE hy.locked hyu).later hE hu.locked huw) id hid
        · rcases hkeys _ hid with heq | ⟨_, heq⟩
          · rw [heq]
            have hknown := hrow'.known.extends_ hE.views huw
            rw [hknown.committed]
            exact hv
          · cases heq

/-! ## Several invitations -/

/-- The call has the open ones of these invitations and all of these credentials locked. -/
structure HoldsAll (invitations : List WorkspaceInvitation) (credentials : List OneTimeCredential)
    (x : Point Database RowKey) : Prop where
  opened : ∀ i ∈ invitations, i.status ≠ .accepted → HoldsOpen i x
  credentials : ∀ c ∈ credentials, (credentialKey c, .update) ∈ x.locks

theorem HoldsAll.later (hE : Respects E) {invitations : List WorkspaceInvitation}
    {credentials : List OneTimeCredential} (h : HoldsAll invitations credentials x)
    {F : Database → Database → Prop} (hy : Tx.Extends E F x y) :
    HoldsAll invitations credentials y :=
  ⟨fun i hi hstatus => (h.opened i hi hstatus).later hE hy,
    fun c hc => hy.locks (h.credentials c hc)⟩

/-- `_lock_outboxes`, `_lock_credentials` and `_lock_invitations`, which go together. -/
theorem Stands.lockAll_bind (hE : Respects E) (h : Stands call K x) (hX : ∀ e y, X e y)
    (hK : ∀ id, RowKey.invitation id ∉ K) {outboxIds credentialIds invitationIds : List Uuid}
    {f : List OneTimeCredential → List WorkspaceInvitation → Program α}
    (hf : ∀ credentials invitations y, Stands call K y → Tx.Extends E rowViews.Same x y →
      HoldsAll invitations credentials y → (f credentials invitations).Safe E (guarantee call) Q X
        y) :
    ((lockOutboxes outboxIds).bind fun _ => (lockCredentials credentialIds).bind fun credentials =>
      (lockInvitations invitationIds).bind fun invitations =>
        f credentials invitations).Safe E (guarantee call) Q X x := by
  refine h.within_bind hE hX (lockOutboxes_same _) fun _ x₁ _ hx₁ hxx₁ => ?_
  refine hx₁.selectAll_bind hE fun credentials x₂ hx₂ hx₁x₂ _ _ _ hcredentials => ?_
  refine hx₂.selectAll_bind hE fun invitations y hy hx₂y hinv hpending hsub hinvitations => ?_
  refine hf credentials invitations y hy
    ((hxx₁.trans Same.trans hx₁x₂).trans Same.trans hx₂y)
    ⟨fun i hi hstatus => ?_, fun c hc => hx₂y.locks (hcredentials c hc)⟩
  have hfound := (List.mem_filter.1 (hsub.subset hi)).1
  rw [← hpending] at hfound
  exact hy.holdsOpen (hE.wellFormed hinv) (hK i.id) (hinvitations i hi) hfound hstatus

/-! ## What creates an invitation -/

theorem Stands.issueCredential_bind (hE : Respects E) (h : Stands call K x) (hX : ∀ e y, X e y)
    (newId : Uuid) (tokenHash : Bytes) (expiresAt : Timestamp) (account : Account)
    {f : OneTimeCredential → Program α}
    (hf : ∀ c K' y, Stands call K' y → (f c).Safe E (guarantee call) Q X y) :
    ((Identity.issueWorkspaceInvitationCredential newId tokenHash expiresAt account).bind f).Safe E
      (guarantee call) Q X x := by
  let c : OneTimeCredential :=
    ⟨newId, account.id, .workspaceInvitation, tokenHash, .active, expiresAt⟩
  show (((insertRow _ _ _ _).bind _).bind f).Safe E (guarantee call) Q X x
  rw [Tx.bind_assoc]
  refine h.insertRow_bind hE hX (acts_issueCredential (c := c) rfl) (.inr ?_) ?_ ?_
    fun y hy _ _ _ _ _ _ => hf c _ y hy
  · rintro _ (rfl | rfl) <;> rfl
  · rintro _ (rfl | rfl)
    · exact List.mem_cons_self
    · exact List.mem_cons_of_mem _ List.mem_cons_self
  · intro k hk v db habsent hstep
    exact hstep.issueCredential rfl hk habsent

theorem Stands.addInvitation_bind (hE : Respects E) (h : Stands call K x) (hX : ∀ e y, X e y)
    {i : WorkspaceInvitation} (hi : i.status = .active) {f : Unit → Program α}
    (hf : ∀ K' y, Stands call K' y → (f ()).Safe E (guarantee call) Q X y) :
    ((addInvitation i).bind f).Safe E (guarantee call) Q X x := by
  refine h.insertRow_bind hE hX (acts_addInvitation i) (.inr ?_) ?_ ?_
    fun y hy _ _ _ _ _ _ => hf _ y hy
  · rintro _ (rfl | rfl) <;> rfl
  · rintro _ (rfl | rfl)
    · exact List.mem_cons_self
    · exact List.mem_cons_of_mem _ List.mem_cons_self
  · intro k hk v db habsent hstep
    exact hstep.addInvitation hi hk habsent

/-! ## Memberships -/

theorem Stands.addMember_bind (hE : Respects E) (h : Stands call K x) (hX : ∀ e y, X e y)
    (hgoverns : call.governs = true) {workspaceId accountId : Uuid}
    (hk : RowKey.member workspaceId accountId ∉ K) {f : Unit → Program α}
    (hf : ∀ y, Stands call (K ∪ {.member workspaceId accountId}) y →
      Tx.Extends E (rowViews.Outside {.member workspaceId accountId}) x y →
      rowViews.Row (.member workspaceId accountId) Rows.members [] [⟨workspaceId, accountId⟩] y →
      (.workspace workspaceId, .keyShare) ∈ y.locks → (f ()).Safe E (guarantee call) Q X y) :
    ((addMember workspaceId accountId).bind f).Safe E (guarantee call) Q X x := by
  have hacts : rowViews.Acts {.member workspaceId accountId} fun db =>
      { db with members := ⟨workspaceId, accountId⟩ :: db.members } :=
    acts_members (Table.touches_cons (⟨workspaceId, accountId⟩ : WorkspaceMember))
  show (((insertRow _ _ _ _).bind _).bind f).Safe E (guarantee call) Q X x
  rw [Tx.bind_assoc]
  refine h.insertRow_bind hE hX hacts (.inl hgoverns) (fun k hk => List.mem_singleton.2 hk) ?_
    fun y hy hxy hpending _ hlocks habsent _ => ?_
  · rintro k rfl v db habsent hstep
    exact hstep.addMember habsent
  · have hbefore : (rowsAt (.member workspaceId accountId) (x.pending y.db)).members = [] :=
      members_of_absent habsent
    have hcommitted : (rowsAt (.member workspaceId accountId) y.db).members = [] :=
      (congrArg Rows.members (h.toTracks.unchanged hk y.db)).symm.trans hbefore
    have hrow : rowViews.Row (.member workspaceId accountId) Rows.members []
        [⟨workspaceId, accountId⟩] y := by
      refine ⟨hlocks _ List.mem_cons_self, hcommitted, ?_⟩
      rw [hpending]
      exact (members_cons ⟨workspaceId, accountId⟩ (x.pending y.db)).trans (congrArg _ hbefore)
    refine Tx.Safe.lockAll_bind fun H s hH hshare hr => ?_
    have hyz : Tx.Extends E rowViews.Same y { y with locks := H, db := s } :=
      ⟨rfl, hH, fun s => Same.refl _, hr⟩
    exact hf _ (hy.extends_ hE hyz) (hxy.trans Outside.trans (hyz.mono fun _ _ => Outside.of_same))
      (hrow.same hE.views hy.acts hyz) (hshare _ (List.mem_singleton_self _))

end Workspaces

end Rulefolio
