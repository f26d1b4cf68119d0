import Rulefolio.Workspaces.Calls

/-!
# The exchanges

An exchange accepts an invitation or it declines. The three paths find the invitation differently,
and check and settle different things, but agree on what accepting is (`accept`). So each path is
followed only to the point where it accepts, and one lemma says what has been done from there on
(`Taken`): the account is a member, the invitation is marked and its credential consumed, all under
the locks of the rows concerned. Wherever a path refuses and commits, it has at most marked the
invitation as expired.

## Main definitions

* `Taken` — the invitation is accepted, up to the commit.

## Main results

* `exchangeCurrentSessionInvitation_safe`, `exchangeInboxInvitation_safe`,
  `exchangeAccountActivationInvitation_safe`.
-/

namespace Rulefolio

namespace Workspaces

open LockedViews ReadCommitted

variable {α β : Type} {E : Environment Database RowKey} {call : Call} {K : Set RowKey}
  {x y : Point Database RowKey} {Q : α → Point Database RowKey → Prop}

/-- An exchange is not about an exit. -/
theorem Call.not_exit_of_exchange (h : call.exchange.isSome = true) :
    call.requestsExit = false ∧ call.completes = none := by
  cases call <;> first
    | exact ⟨rfl, rfl⟩
    | cases h

/-! ## Declining -/

/-- Only the rows of a membership show a member. -/
theorem members_eq_nil {k : RowKey} (hk : ∀ workspaceId accountId, k ≠ .member workspaceId accountId)
    (db : Database) : (rowsAt k db).members = [] :=
  Table.rowsWith_eq_nil fun m _ hkey => hk m.workspaceId m.accountId hkey.symm

/-- Only the rows of an invitation show one. -/
theorem invitations_eq_nil {k : RowKey} (hk : ∀ id, k ≠ .invitation id) (db : Database) :
    (rowsAt k db).invitations = [] :=
  Table.rowsWith_eq_nil fun i _ hkey => hk i.id hkey.symm

/-- The exchange has made nobody a member, and the invitations it has changed are not accepted. -/
structure Declines (K : Set RowKey) (x : Point Database RowKey) : Prop where
  keys : ∀ k ∈ K, isGovernance k = false
  invitations : ∀ id, RowKey.invitation id ∈ K → ∃ v, ∃ j : WorkspaceInvitation,
    j.status ≠ .accepted ∧ rowViews.Row (.invitation id) Rows.invitations v [j] x

theorem declines_empty : Declines ∅ x := ⟨nofun, nofun⟩

theorem Declines.declined (hE : Respects E) (h : Declines K x) (hx : Stands call K x)
    {s : Database} (hr : E.Rely x.locks x.db s) : Declined s (x.pending s) where
  members k := by
    by_cases hk : k ∈ K
    · have hnot : ∀ workspaceId accountId, k ≠ .member workspaceId accountId := by
        rintro workspaceId accountId rfl
        have hgovernance := h.keys _ hk
        cases hgovernance
      rw [members_eq_nil hnot, members_eq_nil hnot]
    · exact congrArg Rows.members (hx.toTracks.unchanged hk s)
  invitations k i hi hstatus := by
    by_cases hk : k ∈ K
    · by_cases hid : ∃ id, k = .invitation id
      · obtain ⟨id, rfl⟩ := hid
        obtain ⟨v, j, hj, hrow⟩ := h.invitations id hk
        have hsees := (hrow.later hE.views hx.acts subset_rfl hr).sees
        have hmem : i ∈ [j] := hsees ▸ hi
        rw [List.mem_singleton.1 hmem] at hstatus
        exact absurd hstatus hj
      · rw [invitations_eq_nil fun id heq => hid ⟨id, heq⟩] at hi
        cases hi
    · rwa [congrArg Rows.invitations (hx.toTracks.unchanged hk s)] at hi

theorem Declines.commitNow_bind (hE : Respects E) (h : Declines K x) (hx : Stands call K x)
    (hexchange : call.exchange.isSome = true) {f : Unit → Program α}
    (hf : ∀ y, (f ()).Safe E (guarantee call) Q (fun _ _ => True) y) :
    (Tx.commitNow.bind f).Safe E (guarantee call) Q (fun _ _ => True) x := by
  refine Tx.Safe.commitNow_bind fun s _ hr => ⟨hx.commits hE hr ?_ (fun _ => ?_) ?_ ?_,
    hf _⟩
  · exact .of_unchanged fun k hk => hx.toTracks.unchanged (fun hmem => by
      rw [h.keys k hmem] at hk
      cases hk) s
  · exact .inr (h.declined hE hx hr)
  · intro hsome
    rw [(Call.not_exit_of_exchange hexchange).1] at hsome
    cases hsome
  · intro workspaceId hsome
    rw [(Call.not_exit_of_exchange hexchange).2] at hsome
    cases hsome

/-- What raises after it has committed. -/
theorem Declines.refuse (hE : Respects E) (h : Declines K x) (hx : Stands call K x)
    (hexchange : call.exchange.isSome = true) (e : ServiceError) :
    (refuse e : Program α).Safe E (guarantee call) Q (fun _ _ => True) x :=
  h.commitNow_bind hE hx hexchange fun _ => Tx.Safe.raise trivial

theorem Declines.ensureRecorded_bind (hE : Respects E) (h : Declines K x) (hx : Stands call K x)
    (hexchange : call.exchange.isSome = true) {b : Bool} {e : ServiceError} {f : Unit → Program α}
    (hf : b = true → (f ()).Safe E (guarantee call) Q (fun _ _ => True) x) :
    ((ensureRecorded b e).bind f).Safe E (guarantee call) Q (fun _ _ => True) x := by
  cases b with
  | true => exact hf rfl
  | false =>
    refine Tx.Safe.bind (R := fun _ _ => False) ?_ fun _ _ => False.elim
    exact h.refuse hE hx hexchange e

theorem Declines.requireRecorded_bind (hE : Respects E) (h : Declines K x) (hx : Stands call K x)
    (hexchange : call.exchange.isSome = true) {o : Option β} {f : β → Program α}
    (hf : ∀ b, o = some b → (f b).Safe E (guarantee call) Q (fun _ _ => True) x) :
    ((requireRecorded o).bind f).Safe E (guarantee call) Q (fun _ _ => True) x := by
  cases o with
  | some b => exact hf b rfl
  | none =>
    refine Tx.Safe.bind (R := fun _ _ => False) ?_ fun _ _ => False.elim
    exact h.refuse hE hx hexchange _

/-! ## An invitation that is held -/

/-- The exchange has found an invitation and its credential, and has locked both. -/
structure Offered (i : WorkspaceInvitation) (credentialId : Uuid)
    (x : Point Database RowKey) : Prop where
  invitation : rowViews.Row (invitationKey i) Rows.invitations [i] [i] x
  lock : (.credential credentialId, .update) ∈ x.locks
  credentialId : i.credentialId = credentialId

theorem Offered.same (hE : Respects E) {i : WorkspaceInvitation} {credentialId : Uuid}
    (h : Offered i credentialId x) (hx : Stands call K x)
    (hy : Tx.Extends E rowViews.Same x y) : Offered i credentialId y :=
  ⟨h.invitation.same hE.views hx.acts hy, hy.locks h.lock, h.credentialId⟩

/-- An invitation found under a lock by a call that has changed nothing. -/
theorem Stands.row_of_found (hx : Stands call ∅ x) (hinv : WellFormed x.db)
    {i : WorkspaceInvitation} (hi : i ∈ (x.pending x.db).invitations)
    (hlock : (invitationKey i, .update) ∈ x.locks) :
    rowViews.Row (invitationKey i) Rows.invitations [i] [i] x := by
  have hmem : i ∈ (rowsAt (invitationKey i) (x.pending x.db)).invitations :=
    mem_invitations.2 ⟨hi, rfl⟩
  have hsame : rowsAt (invitationKey i) (x.pending x.db) = rowsAt (invitationKey i) x.db :=
    hx.toTracks.unchanged (Set.notMem_empty _) x.db
  have hcommitted : (rowsAt (invitationKey i) x.db).invitations = [i] := by
    rw [hsame] at hmem
    exact hinv.invitation (mem_invitations.1 hmem).1
  exact ⟨hlock, hcommitted, (congrArg Rows.invitations hsame).trans hcommitted⟩

/-- `_lock_invitation_for_exchange`. -/
theorem Stands.lockForExchange_bind (hE : Respects E) (hx : Stands call ∅ x) (tokenHash : Bytes)
    {f : OneTimeCredential × WorkspaceInvitation → Program α}
    (hf : ∀ c i y, Stands call ∅ y → Offered i c.id y →
      (∃ d ∈ y.db.credentials, Identity.hasToken tokenHash d = true ∧ d.id = i.credentialId) →
      (f (c, i)).Safe E (guarantee call) Q (fun _ _ => True) y) :
    ((lockInvitationForExchange tokenHash).bind f).Safe E (guarantee call) Q (fun _ _ => True)
      x := by
  rw [lockInvitationForExchange]
  simp only [Tx.bind_eq, Tx.pure_eq, Tx.bind_assoc]
  refine hx.within_bind (P := fun _ => True) hE (fun _ _ => trivial)
    (Tx.Within.read Same.refl _ fun _ => trivial) fun credentialId x₁ _ hx₁ _ => ?_
  refine Tx.Safe.require_bind (fun _ => trivial) fun credentialId _ => ?_
  refine hx₁.within_bind hE (fun _ _ => trivial) (lockOutboxes_same _) fun _ x₂ _ hx₂ _ => ?_
  refine hx₂.selectFirst_bind hE fun found x₃ hx₃ hx₂x₃ _ hpending hmem hlocks => ?_
  refine Tx.Safe.require_bind (fun _ => trivial) fun c hc => ?_
  rw [← hpending] at hmem
  obtain ⟨hcmem, htoken⟩ := List.mem_filter.1 (hmem c hc)
  have hcredential : c ∈ x₃.db.credentials := by
    have hpurpose : Identity.isInvitationCredential c = true := (Bool.and_eq_true_iff.1 htoken).1
    have hrow : c ∈ (rowsAt (credentialKey c) (x₃.pending x₃.db)).credentials :=
      mem_credentials.2 ⟨⟨hcmem, hpurpose⟩, rfl⟩
    have hsame : rowsAt (credentialKey c) (x₃.pending x₃.db) = rowsAt (credentialKey c) x₃.db :=
      hx₃.toTracks.unchanged (Set.notMem_empty _) x₃.db
    rw [hsame] at hrow
    exact (mem_credentials.1 hrow).1.1
  refine hx₃.selectFirst_bind hE fun found y hy hx₃y hinv hpending' hmem' hlocks' => ?_
  refine Tx.Safe.require_bind (fun _ => trivial) fun i hi => ?_
  rw [← hpending'] at hmem'
  obtain ⟨himem, hcond⟩ := List.mem_filter.1 (hmem' i hi)
  simp only [Bool.and_eq_true, beq_iff_eq] at hcond
  have hoffered : Offered i c.id y :=
    ⟨hy.row_of_found (hE.wellFormed hinv) himem (hlocks' i hi),
      hx₃y.locks (hlocks c hc), hcond.1⟩
  obtain ⟨d, hd, hdtoken, hdid⟩ := (hE.evolves hx₃y.rely).credential tokenHash c hcredential htoken
  exact hf c i y hy hoffered ⟨d, hd, hdtoken, hdid.trans hcond.1.symm⟩

/-! ## Accepting -/

/-- The invitation is accepted, up to the commit. -/
structure Taken (call : Call) (i : WorkspaceInvitation) (x : Point Database RowKey) : Prop where
  stands : Stands call (({.member i.workspaceId i.accountId} ∪ {invitationKey i}) ∪
    {.credential i.credentialId}) x
  active : i.status = .active
  share : (.workspace i.workspaceId, .keyShare) ∈ x.locks
  member : rowViews.Row (.member i.workspaceId i.accountId) Rows.members []
    [⟨i.workspaceId, i.accountId⟩] x
  invitation : ∃ now operation operationKey, call.exchange = some (operation, operationKey) ∧
    rowViews.Row (invitationKey i) Rows.invitations [i] [markAccepted now operation operationKey i]
      x
  credential : ∃ c : OneTimeCredential, c.id = i.credentialId ∧ c.status = .active ∧
    rowViews.Row (credentialKey c) Rows.credentials [c] [{ c with status := .consumed }] x

theorem Taken.same (hE : Respects E) {i : WorkspaceInvitation} (h : Taken call i x)
    (hy : Tx.Extends E rowViews.Same x y) : Taken call i y := by
  obtain ⟨now, operation, operationKey, hexchange, hrow⟩ := h.invitation
  obtain ⟨c, hid, hactive, hcredential⟩ := h.credential
  refine ⟨h.stands.extends_ hE hy, h.active, hy.locks h.share,
    h.member.same hE.views h.stands.acts hy,
    ⟨now, operation, operationKey, hexchange, hrow.same hE.views h.stands.acts hy⟩,
    ⟨c, hid, hactive, hcredential.same hE.views h.stands.acts hy⟩⟩

/-- The commit of an exchange that accepts. -/
theorem Taken.commitNow_bind (hE : Respects E) {i : WorkspaceInvitation} (h : Taken call i x)
    (hsome : call.exchange.isSome = true)
    (hexchanges : ∀ s, E.Rely x.locks x.db s → call.Exchanges i s) {f : Unit → Program α}
    (hf : ∀ y, (f ()).Safe E (guarantee call) Q (fun _ _ => True) y) :
    (Tx.commitNow.bind f).Safe E (guarantee call) Q (fun _ _ => True) x := by
  obtain ⟨now, operation, operationKey, hexchange, hinvitation⟩ := h.invitation
  obtain ⟨c, hid, hactive, hcredential⟩ := h.credential
  refine Tx.Safe.commitNow_bind fun s _ hr => ⟨h.stands.commits hE hr ?_ (fun _ => ?_) ?_ ?_,
    hf _⟩
  · have hmember := h.member.later hE.views h.stands.acts subset_rfl hr
    refine .of_join (h.stands.acts.only s) (fun k hk hgovernance => ?_) hmember.committed
      hmember.sees h.share
    rcases hk with (hk | hk) | hk
    · exact hk
    · rw [Set.mem_singleton_iff.1 hk] at hgovernance
      cases hgovernance
    · rw [Set.mem_singleton_iff.1 hk] at hgovernance
      cases hgovernance
  · have hmember := h.member.later hE.views h.stands.acts subset_rfl hr
    have hrow := hinvitation.later hE.views h.stands.acts subset_rfl hr
    have hconsumed := hcredential.later hE.views h.stands.acts subset_rfl hr
    refine .inl ⟨i, c, hexchanges s hr, h.active, hrow.committed,
      ⟨now, operation, operationKey, hexchange, hrow.sees⟩, hid.symm, hactive,
      hconsumed.committed, hconsumed.sees, hmember.committed, hmember.sees,
      fun k hk hk' hk'' => h.stands.acts.only s k ?_⟩
    rintro ((hmem | hmem) | hmem)
    · exact hk'' hmem
    · exact hk hmem
    · exact hk' (hmem.trans (congrArg RowKey.credential hid.symm))
  · intro hrequest
    rw [(Call.not_exit_of_exchange hsome).1] at hrequest
    cases hrequest
  · intro workspaceId hstays
    rw [(Call.not_exit_of_exchange hsome).2] at hstays
    cases hstays

/-- `consume_workspace_invitation_credential`. -/
theorem Stands.consume_bind (hE : Respects E) (hx : Stands call K x)
    (hexchange : call.exchange.isSome = true) {credentialId : Uuid}
    (hk : RowKey.credential credentialId ∉ K) (hlock : (.credential credentialId, .update) ∈ x.locks)
    (now : Timestamp) {f : Bool → Program α}
    (hf : ∀ consumed y, Stands call (K ∪ {.credential credentialId}) y →
      Tx.Extends E (rowViews.Outside {.credential credentialId}) x y →
      (consumed = true → ∃ c : OneTimeCredential, c.id = credentialId ∧ c.status = .active ∧
        rowViews.Row (credentialKey c) Rows.credentials [c] [{ c with status := .consumed }] y) →
      (f consumed).Safe E (guarantee call) Q (fun _ _ => True) y) :
    ((Identity.consumeWorkspaceInvitationCredential now credentialId).bind f).Safe E
      (guarantee call) Q (fun _ _ => True) x := by
  have hcond : ∀ c, Identity.consumes now credentialId c = true →
      (c.id = credentialId ∧ Identity.isInvitationCredential c = true) ∧ c.status = .active := by
    intro c hc
    simp only [Identity.consumes, Bool.and_eq_true, beq_iff_eq] at hc
    exact ⟨hc.1.1, hc.1.2⟩
  have hacts := acts_setCredential (fun c hc => (hcond c hc).1.1) .consumed
  refine Tx.Safe.stmt_bind fun s hs hr => ?_
  have htracks := hx.toTracks.write hE.views (fun _ => RowsStep.refl call) hacts
    (fun k hk' => Set.mem_singleton_iff.1 hk' ▸ hlock) hr fun k hk' hstep =>
      hstep.setCredential (fun c hc => (hcond c hc).2) (.inr ⟨rfl, hexchange⟩)
        (hE.wellFormed hs k)
  refine hf _ _ ⟨htracks, hx.fresh, hx.allowed.union (allowed_singleton rfl)⟩
    (extends_write hacts hr) fun hconsumed => ?_
  have hone := eq_of_beq hconsumed
  obtain ⟨c, hc, hcc⟩ := List.countP_pos_iff.1 (hone.symm ▸ Nat.one_pos)
  obtain ⟨⟨hid, hpurpose⟩, hactive⟩ := hcond c hcc
  have hkey : credentialKey c = .credential credentialId := congrArg RowKey.credential hid
  have hsame : rowsAt (credentialKey c) (x.pending s) = rowsAt (credentialKey c) s :=
    hx.toTracks.unchanged (hkey ▸ hk) s
  have hmem : c ∈ (rowsAt (credentialKey c) (x.pending s)).credentials :=
    mem_credentials.2 ⟨⟨hc, hpurpose⟩, rfl⟩
  have hcommitted : (rowsAt (credentialKey c) s).credentials = [c] := by
    rw [hsame] at hmem
    exact Table.eq_singleton_of_mem (hE.wellFormed hs _).credentials hmem
  refine ⟨c, hid, hactive, ⟨?_, hcommitted, ?_⟩⟩
  · show (credentialKey c, RowLock.update) ∈ x.locks
    rw [hkey]
    exact hlock
  · refine (credentials_set .consumed (credentialKey c) (x.pending s)).trans ?_
    rw [hsame, hcommitted, Table.update_cons, if_pos hcc, Table.update_nil]

theorem Offered.accept_bind (hE : Respects E) {c : OneTimeCredential} {i : WorkspaceInvitation}
    (h : Offered i c.id x) (hx : Stands call ∅ x) (hactive : i.status = .active)
    (hgoverns : call.governs = true) {operation operationKey : String}
    (hexchange : call.exchange = some (operation, operationKey)) (now : Timestamp)
    {meanwhile : Program Unit} (hmeanwhile : meanwhile.Within rowViews.Same fun _ => True)
    {f : Unit → Program α}
    (hf : ∀ y, Taken call i y → Tx.Extends E (fun _ _ => True) x y →
      (f ()).Safe E (guarantee call) Q (fun _ _ => True) y) :
    ((accept now operation operationKey c i i.accountId meanwhile).bind f).Safe E (guarantee call)
      Q (fun _ _ => True) x := by
  have hX : ∀ (e : ServiceError) (y : Point Database RowKey), (fun _ _ => True) e y :=
    fun _ _ => trivial
  rw [accept]
  simp only [Tx.bind_eq, Tx.bind_assoc]
  refine hx.addMember_bind hE hX hgoverns (Set.notMem_empty _) fun x₁ hx₁ hxx₁ hmember hshare => ?_
  refine hx₁.within_bind hE hX hmeanwhile fun _ x₂ _ hx₂ hx₁x₂ => ?_
  have hinvitation₁ := h.invitation.extends_ hE.views hx.acts hxx₁ (by
    rw [Set.mem_singleton_iff]
    exact nofun)
  have hinvitation₂ := hinvitation₁.same hE.views hx₁.acts hx₁x₂
  have hmember₂ := hmember.same hE.views hx₁.acts hx₁x₂
  have hkeeps := keepsKeys_markAccepted now operation operationKey
  have hkmember : RowKey.member i.workspaceId i.accountId ∉ ({invitationKey i} : Set RowKey) := by
    rw [Set.mem_singleton_iff]
    exact nofun
  rw [updateInvitation]
  refine hx₂.updateRow_bind hE hX (acts_updateInvitation hkeeps i.id) (allowed_singleton rfl) ?_
    ?_ fun x₃ hx₃ hx₂x₃ hpending _ => ?_
  · rintro _ rfl
    exact hinvitation₂.lock
  · rintro s - hr _ rfl hstep
    have hlater := hinvitation₂.later hE.views hx₂.acts subset_rfl hr
    have hcommitted : (rowsAt (.invitation i.id) s).invitations = [i] := hlater.committed
    have hsees : (rowsAt (.invitation i.id) (x₂.pending s)).invitations = [i] := hlater.sees
    refine hstep.updateInvitation hkeeps ?_
    rw [hcommitted, hsees, List.map_singleton]
    exact .accepted i now operation operationKey hexchange hactive
  have hmember₃ := hmember₂.extends_ hE.views hx₂.acts hx₂x₃ hkmember
  have hinvitation₃ : rowViews.Row (invitationKey i) Rows.invitations [i]
      [markAccepted now operation operationKey i] x₃ :=
    hinvitation₂.write hE.views hx₂.acts hx₂x₃ hpending fun t ht => by
      have hsees : (rowsAt (.invitation i.id) t).invitations = [i] := ht
      refine (invitations_update hkeeps i.id t).trans ?_
      rw [hsees, List.map_singleton]
  have hlocks := hx₁x₂.locks.trans hx₂x₃.locks
  have hx₃lock := hlocks (hxx₁.locks h.lock)
  refine hx₃.consume_bind hE (by rw [hexchange]; rfl) ?_ hx₃lock now
    fun consumed y hy hx₃y hconsumed => ?_
  · rintro ((hmem | hmem) | hmem)
    · cases hmem
    · cases hmem
    · cases hmem
  refine Tx.Safe.ensure_bind (fun _ => trivial) fun hc => ?_
  obtain ⟨d, hid, hactive', hcredential⟩ := hconsumed hc
  have htrue : ∀ {F : Database → Database → Prop} {z w : Point Database RowKey},
      Tx.Extends E F z w → Tx.Extends E (fun _ _ => True) z w := fun hzw =>
    hzw.mono fun _ _ _ => trivial
  have hkeys : RowKey.member i.workspaceId i.accountId ∉ ({.credential c.id} : Set RowKey) ∧
      invitationKey i ∉ ({.credential c.id} : Set RowKey) := by
    constructor <;> rw [Set.mem_singleton_iff] <;> exact nofun
  refine hf y ⟨?_, hactive, hx₃y.locks (hlocks hshare), ?_, ⟨now, operation, operationKey,
    hexchange, ?_⟩, d, hid.trans h.credentialId.symm, hactive', hcredential⟩ ?_
  · rw [h.credentialId, ← Set.empty_union {RowKey.member i.workspaceId i.accountId}]
    exact hy
  · exact hmember₃.extends_ hE.views hx₃.acts hx₃y hkeys.1
  · exact hinvitation₃.extends_ hE.views hx₃.acts hx₃y hkeys.2
  · have htrans : ∀ _ _ _ : Database, True → True → True := fun _ _ _ _ _ => trivial
    exact (((htrue hxx₁).trans htrans (htrue hx₁x₂)).trans htrans (htrue hx₂x₃)).trans htrans
      (htrue hx₃y)

/-! ## The three paths -/

/-- What an exchange is of stays so. -/
theorem exchanges_later (hE : Respects E) {tokenHash : Bytes} {i : WorkspaceInvitation}
    (hexchanges : ∃ d ∈ x.db.credentials, Identity.hasToken tokenHash d = true ∧
      d.id = i.credentialId) {F : Database → Database → Prop} (hy : Tx.Extends E F x y)
    {s : Database} (hr : E.Rely y.locks y.db s) :
    ∃ d ∈ s.credentials, Identity.hasToken tokenHash d = true ∧ d.id = i.credentialId := by
  obtain ⟨c, hc, htoken, hid⟩ := hexchanges
  obtain ⟨d, hd, hdtoken, hdid⟩ := (hE.evolves hy.rely).credential tokenHash c hc htoken
  obtain ⟨e, he, hetoken, heid⟩ := (hE.evolves hr).credential tokenHash d hd hdtoken
  exact ⟨e, he, hetoken, heid.trans (hdid.trans hid)⟩

/-- An invitation that cannot be exchanged. -/
theorem Offered.refuseUnavailable_bind (hE : Respects E) {c : OneTimeCredential}
    {i : WorkspaceInvitation} (h : Offered i c.id x) (hx : Stands call ∅ x)
    (hexchange : call.exchange.isSome = true) (now : Timestamp) {f : Unit → Program α}
    (hf : i.status = .active → (f ()).Safe E (guarantee call) Q (fun _ _ => True) x) :
    ((refuseUnavailable now c i).bind f).Safe E (guarantee call) Q (fun _ _ => True) x := by
  rw [refuseUnavailable]
  split
  · rename_i havailable
    simp only [isExchangeAvailable, Bool.and_eq_true, beq_iff_eq] at havailable
    exact hf havailable.2
  · refine Tx.Safe.bind (R := fun _ _ => False) ?_ fun _ _ => False.elim
    split
    · rename_i hexpired
      refine hx.endInvitation_bind hE (fun _ _ => trivial)
        (hx.mayEnd_of_row hE (List.cons_ne_nil _ _) h.invitation ends_markExpired
          (marks_of_expired hexpired)) fun y hy _ hended => ?_
      rw [Set.empty_union] at hy
      have hrow := hended [i] h.invitation
      have hdeclines : Declines {invitationKey i} y := by
        constructor
        · rintro _ rfl
          rfl
        · rintro id hid
          cases Set.mem_singleton_iff.1 hid
          exact ⟨[i], markExpired i, nofun, hrow⟩
      exact hdeclines.refuse hE hy hexchange _
    · exact declines_empty.refuse hE hx hexchange _

theorem settle_same (now : Timestamp) (c : OneTimeCredential) (i : WorkspaceInvitation)
    (accountId : Uuid) : (settle now c i accountId).Within rowViews.Same fun _ => True :=
  (endAll_same none now _).andThen fun _ => clearEnvelopes_same _

theorem exchangeCurrentSessionInvitation_safe (hE : Respects E) (now : Timestamp) (limited : Bool)
    (actorId : Uuid) (tokenHash : Bytes) (operationKey : String) (db : Database) :
    Guaranteed E (.exchangeCurrentSessionInvitation now limited actorId tokenHash operationKey)
      (exchangeCurrentSessionInvitation now limited actorId tokenHash operationKey)
      (Point.start db) := by
  refine Tx.Safe.mapError ?_
  refine (stands_start _ db).lockForExchange_bind hE tokenHash fun c i x hx hoffered hexch => ?_
  refine declines_empty.ensureRecorded_bind hE hx rfl fun _ => ?_
  refine declines_empty.ensureRecorded_bind hE hx rfl fun haccount => ?_
  obtain rfl : i.accountId = actorId := eq_of_beq haccount
  refine hx.within_bind hE (fun _ _ => trivial) (getWorkspace_same now _)
    fun workspace x₁ _ hx₁ hxx₁ => ?_
  refine declines_empty.requireRecorded_bind hE hx₁ rfl fun workspace _ => ?_
  refine Tx.Safe.ensure_bind (fun _ => trivial) fun _ => ?_
  split
  · refine declines_empty.ensureRecorded_bind hE hx₁ rfl fun _ => ?_
    exact declines_empty.commitNow_bind hE hx₁ rfl fun _ => Tx.Safe.pure trivial
  · have hoffered₁ := hoffered.same hE hx hxx₁
    refine hoffered₁.refuseUnavailable_bind hE hx₁ rfl now fun hactive => ?_
    refine hx₁.within_bind hE (fun _ _ => trivial) (hasWorkspaceMember_same _ _)
      fun isMember x₂ _ hx₂ hx₁x₂ => ?_
    refine declines_empty.ensureRecorded_bind hE hx₂ rfl fun _ => ?_
    refine (hoffered₁.same hE hx₁ hx₁x₂).accept_bind hE hx₂ hactive rfl rfl now
      (Tx.Within.pure trivial) fun x₃ htaken hx₂x₃ => ?_
    refine htaken.stands.within_bind hE (fun _ _ => trivial) (settle_same _ _ _ _)
      fun _ y _ _ hx₃y => ?_
    refine (htaken.same hE hx₃y).commitNow_bind hE rfl (fun s hr => ?_)
      fun _ => Tx.Safe.pure trivial
    have htrue : Tx.Extends E (fun _ _ => True) x y := by
      have htrans : ∀ _ _ _ : Database, True → True → True := fun _ _ _ _ _ => trivial
      exact (((hxx₁.mono fun _ _ _ => trivial).trans htrans (hx₁x₂.mono fun _ _ _ =>
        trivial)).trans htrans hx₂x₃).trans htrans (hx₃y.mono fun _ _ _ => trivial)
    exact exchanges_later hE hexch htrue hr

theorem exchangeAccountActivationInvitation_safe (hE : Respects E) (now : Timestamp)
    (limited validPassword : Bool) (tokenHash : Bytes) (operationKey : String) (db : Database) :
    Guaranteed E
      (.exchangeAccountActivationInvitation now limited validPassword tokenHash operationKey)
      (exchangeAccountActivationInvitation now limited validPassword tokenHash operationKey)
      (Point.start db) := by
  refine Tx.Safe.ensure_bind (fun _ => trivial) fun _ => ?_
  refine Tx.Safe.mapError ?_
  refine (stands_start _ db).lockForExchange_bind hE tokenHash fun c i x hx hoffered hexch => ?_
  refine declines_empty.ensureRecorded_bind hE hx rfl fun _ => ?_
  refine hx.within_bind hE (fun _ _ => trivial) (lockAccount_same _)
    fun account x₁ haccount hx₁ hxx₁ => ?_
  refine hx₁.within_bind hE (fun _ _ => trivial) (getWorkspace_same now _)
    fun workspace x₂ _ hx₂ hx₁x₂ => ?_
  refine declines_empty.requireRecorded_bind hE hx₂ rfl fun account hsome => ?_
  have hid : account.id = i.accountId := haccount account hsome
  refine declines_empty.requireRecorded_bind hE hx₂ rfl fun workspace _ => ?_
  have hxx₂ := hxx₁.trans Same.trans hx₁x₂
  split
  · refine declines_empty.ensureRecorded_bind hE hx₂ rfl fun _ => ?_
    exact declines_empty.commitNow_bind hE hx₂ rfl fun _ => Tx.Safe.pure trivial
  · have hoffered₂ := hoffered.same hE hx hxx₂
    refine hoffered₂.refuseUnavailable_bind hE hx₂ rfl now fun hactive => ?_
    refine declines_empty.ensureRecorded_bind hE hx₂ rfl fun _ => ?_
    refine hx₂.within_bind hE (fun _ _ => trivial) (hasWorkspaceMember_same _ _)
      fun isMember x₃ _ hx₃ hx₂x₃ => ?_
    refine declines_empty.ensureRecorded_bind hE hx₃ rfl fun _ => ?_
    rw [hid]
    refine (hoffered₂.same hE hx₂ hx₂x₃).accept_bind hE hx₃ hactive rfl rfl now
      (activateInvitedAccount_same _) fun y htaken hx₃y => ?_
    refine htaken.commitNow_bind hE rfl (fun s hr => ?_) fun _ => Tx.Safe.pure trivial
    have htrue : Tx.Extends E (fun _ _ => True) x y := by
      have htrans : ∀ _ _ _ : Database, True → True → True := fun _ _ _ _ _ => trivial
      exact ((hxx₂.mono fun _ _ _ => trivial).trans htrans (hx₂x₃.mono fun _ _ _ =>
        trivial)).trans htrans hx₃y
    exact exchanges_later hE hexch htrue hr

theorem exchangeInboxInvitation_safe (hE : Respects E) (now : Timestamp)
    (actorId invitationId : Uuid) (operationKey : String) (db : Database) :
    Guaranteed E (.exchangeInboxInvitation now actorId invitationId operationKey)
      (exchangeInboxInvitation now actorId invitationId operationKey) (Point.start db) := by
  refine Tx.Safe.mapError ?_
  have hfind : ∀ (db : Database) (i : WorkspaceInvitation), db.invitations.find? (fun i =>
      i.id == invitationId && i.accountId == actorId && exitAllowsWrite none i.workspaceId db)
        = some i → i.id = invitationId ∧ i.accountId = actorId := by
    intro db i hi
    have hcond := List.find?_some hi
    simp only [Bool.and_eq_true, beq_iff_eq] at hcond
    exact hcond.1
  refine (stands_start _ db).selectForUpdate_bind hE (l := .invitation invitationId)
    (fun db i hi => congrArg RowKey.invitation (hfind db i hi).1)
    fun found x hx _ hinv hpending hfound => ?_
  refine Tx.Safe.require_bind (fun _ => trivial) fun i hi => ?_
  obtain ⟨hfind', hlock⟩ := hfound i hi
  rw [← hpending] at hfind'
  obtain ⟨rfl, rfl⟩ := hfind _ i hfind'
  have hrow := hx.row_of_found (hE.wellFormed hinv) (List.mem_of_find?_eq_some hfind') hlock
  refine hx.selectFirst_bind hE fun found x₁ hx₁ hxx₁ _ _ hmem hlocks => ?_
  refine Tx.Safe.require_bind (fun _ => trivial) fun c hc => ?_
  have hcid : c.id = i.credentialId := by simpa using (List.mem_filter.1 (hmem c hc)).2
  have hoffered : Offered i c.id x₁ :=
    ⟨hrow.same hE.views hx.acts hxx₁, hlocks c hc, hcid.symm⟩
  refine hx₁.within_bind hE (fun _ _ => trivial) (getWorkspace_same now _)
    fun workspace x₂ _ hx₂ hx₁x₂ => ?_
  refine Tx.Safe.require_bind (fun _ => trivial) fun workspace _ => ?_
  refine Tx.Safe.ensure_bind (fun _ => trivial) fun _ => ?_
  have hoffered₂ := hoffered.same hE hx₁ hx₁x₂
  split
  · refine Tx.Safe.ensure_bind (fun _ => trivial) fun _ => ?_
    exact declines_empty.commitNow_bind hE hx₂ rfl fun _ => Tx.Safe.pure trivial
  · split
    · rename_i havailable
      have hactive : i.status = .active := by
        simp only [isExchangeAvailable, Bool.and_eq_true, beq_iff_eq] at havailable
        exact havailable.2
      refine hx₂.within_bind hE (fun _ _ => trivial) (hasWorkspaceMember_same _ _)
        fun isMember x₃ _ hx₃ hx₂x₃ => ?_
      refine Tx.Safe.ensure_bind (fun _ => trivial) fun _ => ?_
      refine (hoffered₂.same hE hx₂ hx₂x₃).accept_bind hE hx₃ hactive rfl rfl now
        (Tx.Within.pure trivial) fun x₄ htaken _ => ?_
      refine htaken.stands.within_bind hE (fun _ _ => trivial) (settle_same _ _ _ _)
        fun _ y _ _ hx₄y => ?_
      exact (htaken.same hE hx₄y).commitNow_bind hE rfl (fun _ _ => ⟨rfl, rfl⟩)
        fun _ => Tx.Safe.pure trivial
    · refine Tx.Safe.bind (hx₂.expireInvitation hE (fun _ _ => trivial) (fun hexpired => ?_)
        fun d hd => ?_) ?_
      · exact hx₂.mayEnd_of_row hE (List.cons_ne_nil _ _) hoffered₂.invitation ends_markExpired
          (marks_of_expired hexpired)
      · cases hd
        exact hoffered₂.lock
      rintro expired y ⟨K', hy, hx₂y, hkeys, hended⟩
      cases expired with
      | false => exact Tx.Safe.raise trivial
      | true =>
        rw [Set.empty_union] at hy
        have hdeclines : Declines K' y := by
          constructor
          · intro k hk
            rcases hkeys k hk with rfl | ⟨id, rfl⟩ <;> rfl
          · intro id hid
            rcases hkeys _ hid with hkey | ⟨_, hkey⟩
            · rw [hkey]
              exact ⟨[i], markExpired i, nofun, hended rfl [i] hoffered₂.invitation⟩
            · cases hkey
        exact hdeclines.refuse hE hy rfl _

end Workspaces

end Rulefolio
