import Rulefolio.Workspaces.Parts

/-!
# The calls that end and create invitations

Each of them commits as the guarantee says, whatever else is going on. The proofs follow the code;
the loops keep the invariant that the call stands and that the rows it has locked are the ones it
has read.

## Main results

* `revokeInvitation_safe`, `expireOpenWorkspaceInvitationTodos_safe`, `createInvitation_safe`.
-/

namespace Rulefolio

namespace Workspaces

open LockedViews ReadCommitted

variable {E : Environment Database RowKey} (hE : Respects E) {call : Call}
  (hplain : call.exchange = none) (hrequest : call.requestsExit = false)
  (hstays : call.completes = none) (hquiet : call.governs = false)

/-- A program that commits as the guarantee of a call says. -/
abbrev Guaranteed {α : Type} (E : Environment Database RowKey) (call : Call) (t : Program α)
    (x : Point Database RowKey) : Prop :=
  t.Safe E (guarantee call) (fun _ _ => True) (fun _ _ => True) x

include hE hplain hrequest hstays hquiet

omit hrequest hstays hquiet in
theorem closeInvitation_follows {K : Set RowKey} {x : Point Database RowKey} (h : Stands call K x)
    {i : WorkspaceInvitation} {c : OneTimeCredential}
    (hi : i.status ≠ .accepted → HoldsOpen i x)
    (hc : (credentialKey c, .update) ∈ x.locks) (now : Timestamp) :
    (closeInvitation now i c).Safe E (guarantee call) (fun _ y => ∃ K', Stands call K' y)
      (fun _ _ => True) x := by
  have hend : ∀ change, MayEnd E call change i x →
      (endInvitation now i c change).Safe E (guarantee call) (fun _ y => ∃ K', Stands call K' y)
        (fun _ _ => True) x := by
    intro change hends
    refine h.endInvitation_bind hE (fun _ _ => trivial) hends fun y hy hxy _ => ?_
    refine hy.revokeCredential_bind hE (hxy.locks hc) fun z hz _ => ?_
    refine hz.within_bind hE (fun _ _ => trivial) (endAll_same _ _ _) fun _ u _ hu _ => ?_
    rw [← Tx.bind_pure (Identity.clearEnvelopes _)]
    exact hu.within_bind hE (fun _ _ => trivial) (clearEnvelopes_same _)
      fun _ w _ hw _ => Tx.Safe.pure ⟨_, hw⟩
  rw [closeInvitation]
  split
  · rename_i hexpired
    exact hend _ (h.mayEnd_of_open hE hplain (hi (status_of_expired hexpired)) ends_markExpired
      (marks_of_expired hexpired))
  · split
    · rename_i hactive
      exact hend _ (h.mayEnd_of_open hE hplain (hi (by simp [hactive])) (ends_markRevoked now)
        (.inl hactive))
    · exact Tx.Safe.pure ⟨K, h⟩

theorem revokeInvitation_safe (now : Timestamp) (actorId workspaceId invitationId : Uuid)
    (db : Database) :
    Guaranteed E call (revokeInvitation now actorId workspaceId invitationId) (Point.start db) := by
  refine Tx.Safe.mapError ?_
  refine (stands_start call db).within_bind hE (fun _ _ => trivial)
    (requireWorkspaceManager_same _ _) fun workspace x _ hx _ => ?_
  refine Tx.Safe.ensure_bind (fun _ => trivial) fun _ => ?_
  refine hx.within_bind (P := fun _ => True) hE (fun _ _ => trivial)
    (Tx.Within.read Same.refl _ fun _ => trivial) fun candidate x₁ _ hx₁ _ => ?_
  refine Tx.Safe.require_bind (fun _ => trivial) fun candidate _ => ?_
  refine hx₁.lockAll_bind hE (fun _ _ => trivial) (fun _ => Set.notMem_empty _)
    fun credentials invitations y hy _ hall => ?_
  refine Tx.Safe.require_bind (fun _ => trivial) fun invitation hinvitation => ?_
  refine Tx.Safe.require_bind (fun _ => trivial) fun credential hcredential => ?_
  refine Tx.Safe.ensure_bind (fun _ => trivial) fun _ => ?_
  refine Tx.Safe.bind (closeInvitation_follows hE hplain hy
    (hall.opened invitation (List.mem_of_mem_head? hinvitation))
    (hall.credentials credential (List.mem_of_mem_head? hcredential)) now) ?_
  rintro _ z ⟨K, hz⟩
  refine hz.within_bind (P := fun _ => True) hE (fun _ _ => trivial)
    (Tx.Within.read Same.refl _ fun _ => trivial) fun account u _ hu _ => ?_
  refine Tx.Safe.ensure_bind (fun _ => trivial) fun _ => ?_
  rw [← Tx.bind_pure Tx.commitNow]
  exact hu.commitNow_bind hE hplain hrequest hstays (fun s _ _ => hu.governs hquiet s)
    fun _ => Tx.Safe.pure trivial

/-! ## Invitations that have expired -/

omit hrequest hstays hquiet in
/-- The loop over the candidates. -/
theorem expireCandidates_follows {K : Set RowKey} {x : Point Database RowKey}
    (h : Stands call K x) {invitations : List WorkspaceInvitation}
    {credentials : List OneTimeCredential} (hall : HoldsAll invitations credentials x)
    (now : Timestamp) (workspaceId accountId : Uuid) (candidates : List (Uuid × Uuid)) :
    (expireCandidates now workspaceId accountId credentials invitations candidates).Safe E
      (guarantee call) (fun _ y => ∃ K', Stands call K' y) (fun _ _ => True) x := by
  induction candidates generalizing K x with
  | nil => exact Tx.Safe.pure ⟨K, h⟩
  | cons candidate rest ih =>
    obtain ⟨invitationId, credentialId⟩ := candidate
    rw [expireCandidates]
    split
    · exact ih h hall
    · rename_i invitation hfind
      have hmem := List.mem_of_find?_eq_some hfind
      refine Tx.Safe.bind (h.expireInvitation hE (fun _ _ => trivial) (fun hexpired => ?_)
        fun c hc => hall.credentials c (List.mem_of_find?_eq_some hc)) ?_
      · exact h.mayEnd_of_open hE hplain (hall.opened _ hmem (status_of_expired hexpired))
          ends_markExpired (marks_of_expired hexpired)
      rintro expired y ⟨K', hy, hxy, -⟩
      refine Tx.Safe.bind (ih hy (hall.later hE hxy)) ?_
      rintro others z ⟨K'', hz⟩
      exact Tx.Safe.pure ⟨K'', hz⟩

omit hplain hrequest hstays hquiet in
/-- The loop over what the inbox shows. -/
theorem expireInboxInvitations_follows {K : Set RowKey} {x : Point Database RowKey}
    (h : Stands call K x) (hpresent : Present K x) (now : Timestamp) (accountId : Uuid)
    (invitationIds : List Uuid) :
    (expireInboxInvitations now accountId invitationIds).Safe E (guarantee call)
      (fun _ y => ∃ K', Stands call K' y) (fun _ _ => True) x := by
  induction invitationIds generalizing K x with
  | nil => exact Tx.Safe.pure ⟨K, h⟩
  | cons invitationId rest ih =>
    refine Tx.Safe.bind (h.expireInboxInvitation hE (fun _ _ => trivial) hpresent now _ _) ?_
    rintro expired y ⟨K', hy, hpresent'⟩
    refine Tx.Safe.bind (ih hy hpresent') ?_
    rintro others z ⟨K'', hz⟩
    exact Tx.Safe.pure ⟨K'', hz⟩

theorem expireOpenWorkspaceInvitationTodos_safe (now : Timestamp) (recipientId : Uuid)
    (db : Database) :
    Guaranteed E call (expireOpenWorkspaceInvitationTodos now recipientId) (Point.start db) := by
  refine (stands_start call db).within_bind (P := fun _ => True) hE (fun _ _ => trivial)
    (Tx.Within.read Same.refl _ fun _ => trivial) fun invitationIds x _ hx _ => ?_
  refine Tx.Safe.bind (expireInboxInvitations_follows hE hx (fun _ hid => hid.elim) now _ _) ?_
  rintro expired y ⟨K, hy⟩
  cases expired with
  | true =>
    show (Tx.commitNow.bind Tx.pure).Safe _ _ _ _ _
    exact hy.commitNow_bind hE hplain hrequest hstays (fun s _ _ => hy.governs hquiet s)
      fun _ => Tx.Safe.pure trivial
  | false => exact Tx.Safe.pure trivial

theorem createInvitation_safe (settings : Settings) (normalizeEmail : String → Option String)
    (uuids : Uuids) (now : Timestamp) (token : Token) (actorId workspaceId : Uuid)
    (email : String) (db : Database) :
    Guaranteed E call (createInvitation settings normalizeEmail uuids now token actorId workspaceId
      email) (Point.start db) := by
  refine Tx.Safe.mapError ?_
  refine (stands_start call db).within_bind hE (fun _ _ => trivial)
    (requireWorkspaceManager_same _ _) fun workspace x _ hx _ => ?_
  refine Tx.Safe.ensure_bind (fun _ => trivial) fun _ => ?_
  refine hx.within_bind hE (fun _ _ => trivial) (getOrCreateInvitationAccount_same _ _ _)
    fun account x₁ _ hx₁ _ => ?_
  refine Tx.Safe.ensure_bind (fun _ => trivial) fun _ => ?_
  refine hx₁.within_bind hE (fun _ _ => trivial) (hasWorkspaceMember_same _ _)
    fun isMember x₂ _ hx₂ _ => ?_
  refine Tx.Safe.ensure_bind (fun _ => trivial) fun _ => ?_
  refine Tx.Safe.bind (R := fun _ y => ∃ K', Stands call K' y) ?_ ?_
  · refine hx₂.within_bind hE (fun _ _ => trivial) (activeCandidates_same _ _)
      fun candidates x₃ _ hx₃ _ => ?_
    exact hx₃.lockAll_bind hE (fun _ _ => trivial) (fun _ => Set.notMem_empty _)
      fun credentials invitations y hy _ hall =>
        expireCandidates_follows hE hplain hy hall now _ _ candidates
  · rintro active x₄ ⟨K, hx₄⟩
    refine Tx.Safe.ensure_bind (fun _ => trivial) fun _ => ?_
    refine hx₄.issueCredential_bind hE (fun _ _ => trivial) _ _ _ _ fun credential _ x₅ hx₅ => ?_
    refine hx₅.addInvitation_bind hE (fun _ _ => trivial) rfl fun _ x₆ hx₆ => ?_
    refine hx₆.within_bind hE (fun _ _ => trivial) (todoForActive_same _ _ _ _)
      fun todoId x₇ _ hx₇ _ => ?_
    refine hx₇.within_bind hE (fun _ _ => trivial) (enqueueMail_same _) fun _ x₈ _ hx₈ _ => ?_
    rw [← Tx.bind_pure Tx.commitNow]
    exact hx₈.commitNow_bind hE hplain hrequest hstays (fun s _ _ => hx₈.governs hquiet s)
      fun _ => Tx.Safe.pure trivial

end Workspaces

end Rulefolio
