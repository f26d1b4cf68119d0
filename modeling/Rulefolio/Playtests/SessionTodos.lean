import Rulefolio.Playtests.OpenTodos

/-!
# Todos about sessions

A todo about a session asks for something as long as the session has the status it had when the
todo was created: an invitation and the two kinds of updates as long as it is scheduled, a
cancellation as long as it is cancelled. `cancel_session` settles what it makes obsolete;
`start_session` does not. So the todos match the sessions as long as no session is started while
somebody is asked about it.

Of the two kinds of updates a participant has at most one open todo a session: the next update
cancels those of its kind before it notifies, all with one source, and a todo is not created twice
from one source.

## Main definitions

* `due` — the status a todo is about.
* `TodosMatch` — the property.
* `startsUnasked` — the operations that keep it.
* `Matched` — the invariant.

## Main results

* `todos_match` — the runs in which it holds.
* `invitation_to_started` — it does not hold in every run.
-/

namespace Rulefolio

namespace Playtests

open Notifications

variable {settings : Settings} {normalizeEmail : String → Option String} {db w : Database}

/-! ## The property -/

/-- The status of a session that a todo of this kind is about. -/
def due : TodoKind → Option SessionStatus
  | .playtestInvitation | .playtestArrangementUpdated | .playtestMaterialUpdated => some .scheduled
  | .playtestCancelled => some .cancelled
  | _ => none

/-- The todo is an open one of this kind, about this session and for this account. -/
def openTodo (kind : TodoKind) (n accountId : Uuid) (t : NotificationTodo) : Bool :=
  t.status == .opened && t.kind == kind && t.targetId == n && t.recipientAccountId == accountId

/-- Every open todo about a session is about its status, and nobody has two open todos of one kind
of update for one session. -/
structure TodosMatch (db : Database) : Prop where
  status : ∀ t ∈ db.todos, t.status = .opened → ∀ status, due t.kind = some status →
    t.targetKind = .playtestSession ∧
      (db.sessions.find? (·.id == t.targetId)).map (·.status) = some status
  arrangement : ∀ n accountId,
    db.todos.countP (openTodo .playtestArrangementUpdated n accountId) ≤ 1
  material : ∀ n accountId, db.todos.countP (openTodo .playtestMaterialUpdated n accountId) ≤ 1

/-- The operation does not start a session while somebody is asked about it. -/
def startsUnasked (db : Database) : Operation → Bool
  | .call (.startSession _ _ _ _ sessionId _) =>
    !db.todos.any fun t =>
      t.status == .opened && due t.kind == some .scheduled && t.targetId == sessionId
  | _ => true

theorem opened_of_openTodo {kind : TodoKind} {n accountId : Uuid} {t : NotificationTodo}
    (h : openTodo kind n accountId t = true) : t.status = .opened := by
  simp only [openTodo, Bool.and_eq_true, beq_iff_eq] at h
  exact h.1.1.1

/-! ## The invariant -/

/-- There is a session with this identifier in this workspace and it has this status. -/
def SessionIs (status : SessionStatus) (n workspaceId : Uuid) (db : Database) : Prop :=
  ∃ s ∈ db.sessions, s.id = n ∧ s.workspaceId = workspaceId ∧ s.status = status

/-- The open todos about sessions match them, those excepted that satisfy `P`. -/
structure Matched (P : NotificationTodo → Prop) (db : Database) : Prop where
  status : ∀ t ∈ db.todos, t.status = .opened → ∀ status, due t.kind = some status →
    t.targetKind = .playtestSession ∧ (P t ∨ SessionIs status t.targetId t.workspaceId db)
  single : ∀ kind ∈ [TodoKind.playtestArrangementUpdated, .playtestMaterialUpdated],
    ∀ n accountId, db.todos.countP (openTodo kind n accountId) ≤ 1

variable {P : NotificationTodo → Prop}

namespace Matched

theorem fewer (h : Matched P w) {v : Database} (hv : Fewer w v) : Matched P v where
  status t ht hopen status hdue := by
    obtain ⟨htarget, hP⟩ := h.status t (hv.mem ht hopen) hopen status hdue
    refine ⟨htarget, hP.imp_right fun hsession => ?_⟩
    rw [hv.rest]
    exact hsession
  single kind hkind n accountId :=
    (hv.todos _ fun _ => opened_of_openTodo).trans (h.single kind hkind n accountId)

/-- A new todo that matches its session, and is the only one if it is an update. -/
theorem cons (h : Matched P w) {todo : NotificationTodo}
    (htodo : ∀ status, due todo.kind = some status → todo.targetKind = .playtestSession ∧
      SessionIs status todo.targetId todo.workspaceId w)
    (hsingle : todo.kind ∈ [TodoKind.playtestArrangementUpdated, .playtestMaterialUpdated] →
      w.todos.countP (openTodo todo.kind todo.targetId todo.recipientAccountId) = 0) :
    Matched P { w with todos := todo :: w.todos } where
  status t ht hopen status hdue := by
    rcases List.mem_cons.1 ht with rfl | ht
    · exact ⟨(htodo status hdue).1, .inr (htodo status hdue).2⟩
    · exact h.status t ht hopen status hdue
  single kind hkind n accountId := by
    rw [List.countP_cons]
    by_cases hnew : openTodo kind n accountId todo = true
    · rw [if_pos hnew]
      simp only [openTodo, Bool.and_eq_true, beq_iff_eq] at hnew
      obtain ⟨⟨⟨-, rfl⟩, rfl⟩, rfl⟩ := hnew
      rw [hsingle hkind]
    · rw [if_neg hnew]
      exact h.single kind hkind n accountId

/-- Notifications about something else. -/
theorem aside (h : Matched P w) {v : Database} (hv : Aside (fun kind => due kind = none) w v) :
    Matched P v := by
  cases hv with
  | ended now todoId verdict => exact h.fewer (fewer_apply now todoId w verdict)
  | created todo hkind =>
    refine h.cons (fun status hdue => ?_) fun hmem => ?_
    · rw [hkind] at hdue
      cases hdue
    · rcases List.mem_cons.1 hmem with hkind' | hmem
      · rw [hkind'] at hkind
        cases hkind
      · rw [List.mem_singleton.1 hmem] at hkind
        cases hkind
  | _ => exact ⟨h.status, h.single⟩

/-- The sessions change, and the todos still match. -/
theorem sessions (h : Matched P w) {Q : NotificationTodo → Prop} {sessions : List PlaytestSession}
    (hsessions : ∀ t ∈ w.todos, t.status = .opened → ∀ status, due t.kind = some status →
      P t ∨ SessionIs status t.targetId t.workspaceId w →
      Q t ∨ SessionIs status t.targetId t.workspaceId { w with sessions := sessions }) :
    Matched Q { w with sessions := sessions } where
  status t ht hopen status hdue :=
    ⟨(h.status t ht hopen status hdue).1,
      hsessions t ht hopen status hdue (h.status t ht hopen status hdue).2⟩
  single := h.single

end Matched

theorem Aside.sessions {K : TodoKind → Prop} {v : Database} (h : Aside K w v) :
    v.sessions = w.sessions := by
  cases h with
  | ended now todoId verdict => cases verdict <;> rfl
  | _ => rfl

/-- An edit that leaves the status alone. -/
theorem SessionIs.edited {status : SessionStatus} {n workspaceId : Uuid}
    (h : SessionIs status n workspaceId w) (p : PlaytestSession → Bool)
    {change : PlaytestSession → PlaytestSession}
    (hchange : ∀ s, (change s).id = s.id ∧ (change s).workspaceId = s.workspaceId ∧
      (change s).status = s.status) :
    SessionIs status n workspaceId { w with sessions := Table.update p change w.sessions } := by
  obtain ⟨s, hs, rfl, rfl, rfl⟩ := h
  by_cases hp : p s = true
  · exact ⟨change s, Table.mem_update.2 (.inl ⟨s, hs, hp, rfl⟩), (hchange s).1, (hchange s).2.1,
      (hchange s).2.2⟩
  · exact ⟨s, Table.mem_update.2 (.inr ⟨hs, Bool.of_not_eq_true hp⟩), rfl, rfl, rfl⟩

/-! ## Parts of the operations -/

section Leads

variable {R : Database → Prop}

theorem unchanged_requireManagement (actorId workspaceId workId : Uuid) :
    (requireManagement actorId workspaceId workId true).Within (fun s s' => s' = s)
      fun _ => True := by
  refine Tx.Within.mapError ?_
  refine Tx.Within.andThen (Workspaces.ensureWritable_within (F := fun s s' => s' = s)
    (fun _ => rfl) _) fun _ => ?_
  exact Tx.Within.andThen (Works.ensurePlaytestManagement_within (F := fun s s' => s' = s)
    (fun _ => rfl) _ _ _) fun _ => Tx.Within.pure trivial

/-- The beginning of an operation that carries a revision: the session it has found. -/
theorem lockRevision_leads (actorId workspaceId workId sessionId : Uuid) (expectedRevision : ℤ) :
    (lockRevision actorId workspaceId workId sessionId expectedRevision).Leads R
      (fun item v => v = w ∧ item ∈ w.sessions ∧ item.id = sessionId ∧
        exitAllowsWrite none item.workspaceId w = true) w := by
  rw [lockRevision]
  simp -zeta only [Tx.bind_eq, Tx.pure_eq]
  refine (unchanged_requireManagement _ _ _).unchanged_bind fun _ _ => ?_
  rw [lockManagedSession, Tx.bind_eq, Tx.bind_assoc]
  refine Tx.Leads.selectForUpdate_bind (Tx.Leads.require_bind fun item hitem => ?_)
  obtain ⟨hfind, hvisible⟩ := Option.filter_eq_some_iff.1 hitem
  have hfound := List.find?_some hfind
  simp only [Bool.and_eq_true, beq_iff_eq] at hfound
  refine Tx.Leads.ensure_bind fun _ => Tx.Leads.pure ⟨rfl, List.mem_of_find?_eq_some hfind,
    hfound.1.1, ?_⟩
  rw [hfound.1.2]
  exact hvisible

theorem find_of_wellFormed (hdb : WellFormed w) {s s' : PlaytestSession} (hs : s ∈ w.sessions)
    (hs' : s' ∈ w.sessions) (h : s.id = s'.id) : s = s' :=
  Table.eq_of_filter_le_one (hdb.session s'.id).unique hs hs' (beq_iff_eq.2 h)
    (beq_self_eq_true s'.id)

/-- The todos match, and this session has this status. -/
structure About (status : SessionStatus) (item : PlaytestSession) (db : Database) : Prop where
  matched : Matched (fun _ => False) db
  row : SessionIs status item.id item.workspaceId db

/-- Participants are notified of what is not an update. -/
theorem About.notify {status : SessionStatus} {item : PlaytestSession} (h : About status item w)
    {purpose : MailPurpose}
    (hpurpose : (purpose = .playtestInvitation ∧ status = .scheduled) ∨
      (purpose = .playtestCancelled ∧ status = .cancelled))
    (uuids : Uuids) (now : Timestamp) :
    (notifyParticipants settings uuids now item purpose).Leads R (fun _ => About status item)
      w := by
  refine notifyParticipants_leads h settings uuids now item purpose
    (fun _ _ hI => ⟨⟨hI.matched.status, hI.matched.single⟩, hI.row⟩)
    (fun _ _ hI => ⟨⟨hI.matched.status, hI.matched.single⟩, hI.row⟩)
    fun db todo participantId hI _ _ hworkspace htarget hid ⟨summary, hdetails⟩ => ?_
  have hkind : due todo.kind = some status ∧
      todo.kind ∉ [TodoKind.playtestArrangementUpdated, .playtestMaterialUpdated] := by
    rcases hpurpose with ⟨rfl, rfl⟩ | ⟨rfl, rfl⟩
    · have hkind : TodoKind.playtestInvitation = todo.kind :=
        congrArg Prod.fst (Option.some.inj hdetails)
      rw [← hkind]
      exact ⟨rfl, by decide⟩
    · have hkind : TodoKind.playtestCancelled = todo.kind :=
        congrArg Prod.fst (Option.some.inj hdetails)
      rw [← hkind]
      exact ⟨rfl, by decide⟩
  refine ⟨hI.matched.cons (fun status' hdue => ⟨htarget, ?_⟩) fun hmem => absurd hmem hkind.2,
    hI.row⟩
  rw [hkind.1] at hdue
  cases hdue
  rw [hid, hworkspace]
  exact hI.row

/-- The kind of update a mail is about. -/
def IsUpdate (purpose : MailPurpose) (kind : TodoKind) : Prop :=
  (purpose = .playtestArrangementUpdated ∧ kind = .playtestArrangementUpdated) ∨
    (purpose = .playtestMaterialUpdated ∧ kind = .playtestMaterialUpdated)

/-- While the participants of a scheduled session are notified of an update: all open todos about
it are of the revision at hand. -/
structure Renewing (item : PlaytestSession) (kind : TodoKind) (db : Database) : Prop where
  about : About .scheduled item db
  latest : ∀ t ∈ db.todos, t.status = .opened → t.kind = kind → t.targetId = item.id →
    t.workspaceId = item.workspaceId ∧ t.sourceKey = .revision item.id item.revision

/-- A todo from this revision is the first of its recipient. -/
theorem Renewing.first {item : PlaytestSession} {kind : TodoKind} (h : Renewing item kind w)
    {todo : NotificationTodo} (hfresh : Fresh todo w) (hkind : todo.kind = kind)
    (hworkspace : todo.workspaceId = item.workspaceId)
    (hsource : todo.sourceKey = .revision item.id item.revision) :
    w.todos.countP (openTodo kind item.id todo.recipientAccountId) = 0 := by
  refine List.countP_eq_zero.2 fun t ht hopen => ?_
  simp only [openTodo, Bool.and_eq_true, beq_iff_eq] at hopen
  obtain ⟨⟨⟨hopened, htkind⟩, hid⟩, hrecipient⟩ := hopen
  obtain ⟨htworkspace, htsource⟩ := h.latest t ht hopened htkind hid
  have hvisible : exitAllowsWrite none t.workspaceId w = true := by
    rw [htworkspace, ← hworkspace]
    exact hfresh.admitted
  have hunused := hfresh.unused t ht hvisible
  rw [sameSource, hrecipient, htkind, htsource, hkind, hsource] at hunused
  simp at hunused

/-- The todos of the last update are cancelled and the participants notified of this one. -/
theorem About.renew {item : PlaytestSession} (hdb : About .scheduled item w)
    (hplace : ∀ s ∈ w.sessions, s.id = item.id → s.workspaceId = item.workspaceId)
    (hvisible : exitAllowsWrite none item.workspaceId w = true) {purpose : MailPurpose}
    {kind : TodoKind} (hupdate : IsUpdate purpose kind) (uuids : Uuids) (now : Timestamp) :
    ((endAll none now (.cancelTodosForTarget .playtestSession item.id (some [kind]))).bind fun _ =>
      notifyParticipants settings uuids now item purpose).Leads R
        (fun _ => About .scheduled item) w := by
  have hdue : due kind = some .scheduled := by
    rcases hupdate with ⟨-, rfl⟩ | ⟨-, rfl⟩ <;> rfl
  have hkind : kind ∈ [TodoKind.playtestArrangementUpdated, .playtestMaterialUpdated] := by
    rcases hupdate with ⟨-, rfl⟩ | ⟨-, rfl⟩ <;> decide
  refine (endAll_leads _ _ _).bind fun _ v hv => ?_
  have hsession : SessionIs .scheduled item.id item.workspaceId v := by
    rw [hv.1.rest]
    exact hdb.row
  have hrenewing : Renewing item kind v := by
    refine ⟨⟨hdb.matched.fewer hv.1, hsession⟩, fun t ht hopen htkind hid => ?_⟩
    -- Such a todo was there before, and would have been cancelled.
    obtain ⟨htarget, hfalse | ⟨s, hs, hsid, hworkspace, -⟩⟩ :=
      hdb.matched.status t (hv.1.mem ht hopen) hopen .scheduled (htkind ▸ hdue)
    · exact hfalse.elim
    · have hhidden := hv.2 t ht hopen (by simp [Ending.selects, htarget, hid, hopen, htkind])
      rw [← hworkspace, hplace s hs (hsid.trans hid), hvisible] at hhidden
      cases hhidden
  refine (notifyParticipants_leads hrenewing settings uuids now item purpose
    (fun _ _ hI => ⟨⟨⟨hI.about.matched.status, hI.about.matched.single⟩, hI.about.row⟩, hI.latest⟩)
    (fun _ _ hI => ⟨⟨⟨hI.about.matched.status, hI.about.matched.single⟩, hI.about.row⟩, hI.latest⟩)
    fun db todo participantId hI hfresh _ hworkspace htarget hid hdetails => ?_).mono
      (fun _ => id) fun _ _ hI => hI.about
  obtain ⟨summary, hdetails⟩ := hdetails
  have htodo : todo.kind = kind ∧ todo.sourceKey = .revision item.id item.revision := by
    rcases hupdate with ⟨rfl, rfl⟩ | ⟨rfl, rfl⟩
    · simp only [todoDetails, Option.some.injEq, Prod.mk.injEq] at hdetails
      exact ⟨hdetails.1.symm, hdetails.2.1.symm⟩
    · simp only [todoDetails, Option.some.injEq, Prod.mk.injEq] at hdetails
      exact ⟨hdetails.1.symm, hdetails.2.1.symm⟩
  refine ⟨⟨hI.about.matched.cons (fun status hstatus => ⟨htarget, ?_⟩) fun _ => ?_,
    hI.about.row⟩, fun t ht hopen htkind htid => ?_⟩
  · rw [htodo.1, hdue] at hstatus
    cases hstatus
    rw [hid, hworkspace]
    exact hI.about.row
  · rw [htodo.1, hid]
    exact hI.first hfresh htodo.1 hworkspace htodo.2
  · rcases List.mem_cons.1 ht with rfl | ht
    · exact ⟨hworkspace, htodo.2⟩
    · exact hI.latest t ht hopen htkind htid

/-! ## Operations on a session -/

/-- The rest of an operation after its commit. -/
theorem readBack_leads (actorId workspaceId workId sessionId : Uuid) (w : Database) :
    (readManagedSession actorId workspaceId workId sessionId).Leads R (fun _ _ => True) w :=
  Tx.Within.leads_any (keeps_readManagedSession (F := fun _ _ => True) (K := fun _ => True)
    (fun _ _ _ => trivial) _ _ _ _) w

theorem Matched.edited (h : Matched P w) (p : PlaytestSession → Bool)
    {change : PlaytestSession → PlaytestSession}
    (hchange : ∀ s, (change s).id = s.id ∧ (change s).workspaceId = s.workspaceId ∧
      (change s).status = s.status) :
    Matched P { w with sessions := Table.update p change w.sessions } :=
  h.sessions fun _ _ _ _ _ hP => hP.imp_right fun hsession => hsession.edited p hchange

/-- After an edit of a scheduled session that leaves it scheduled. -/
theorem about_edited (hdb : WellFormed w) (h : Matched (fun _ => False) w)
    {item : PlaytestSession} (hitem : item ∈ w.sessions) (hstatus : item.status = .scheduled)
    {change : PlaytestSession → PlaytestSession}
    (hchange : ∀ s, (change s).id = s.id ∧ (change s).workspaceId = s.workspaceId ∧
      (change s).status = s.status) :
    About .scheduled (change item)
        { w with sessions := Table.update (·.id == item.id) change w.sessions } ∧
      ∀ s ∈ Table.update (·.id == item.id) change w.sessions, s.id = (change item).id →
        s.workspaceId = (change item).workspaceId := by
  refine ⟨⟨h.edited _ hchange, change item, Table.mem_update.2 (.inl ⟨item, hitem,
    beq_self_eq_true _, rfl⟩), rfl, rfl, (hchange item).2.2.trans hstatus⟩, fun s hs hid => ?_⟩
  rw [(hchange item).1] at hid
  rcases Table.mem_update.1 hs with ⟨s₀, hs₀, hp, rfl⟩ | ⟨hs₀, hp⟩
  · rw [find_of_wellFormed hdb hs₀ hitem (beq_iff_eq.1 hp)]
  · rw [hid, beq_self_eq_true] at hp
    cases hp

theorem updateArrangement_matched (hdb : WellFormed w) (h : Matched (fun _ => False) w)
    (uuids : Uuids) (now : Timestamp) (actorId workspaceId workId sessionId : Uuid)
    (scheduledAt : RequestedTime) (location : String) (capacity expectedRevision : ℤ) :
    (updateArrangement settings uuids now actorId workspaceId workId sessionId scheduledAt location
      capacity expectedRevision).Leads (Matched fun _ => False) (fun _ _ => True) w := by
  rw [updateArrangement]
  simp -zeta only [Tx.bind_eq]
  refine Tx.Leads.mapError (Tx.Leads.ensure_bind fun _ => ?_)
  refine (lockRevision_leads _ _ _ _ _).bind fun item v hv => ?_
  obtain ⟨rfl, hitem, -, hvisible⟩ := hv
  refine Tx.Leads.ensure_bind fun hstatus => Tx.Leads.read_bind (Tx.Leads.ensure_bind fun _ => ?_)
  extract_lets change
  have hchange : ∀ s, (change s).id = s.id ∧ (change s).workspaceId = s.workspaceId ∧
      (change s).status = s.status := fun _ => ⟨rfl, rfl, rfl⟩
  obtain ⟨habout, hplace⟩ := about_edited hdb h hitem (beq_iff_eq.1 hstatus) hchange
  rw [writeSession]
  refine Tx.Leads.writeIf_bind fun _ => ?_
  rw [← Tx.bind_assoc]
  refine Tx.Leads.bind (habout.renew hplace hvisible (.inl ⟨rfl, rfl⟩) _ _) fun _ u hu => ?_
  exact Tx.Leads.commitNow_bind hu.matched (readBack_leads _ _ _ _ _)

theorem replaceMaterials_matched (hdb : WellFormed w) (h : Matched (fun _ => False) w)
    (uuids : Uuids) (now : Timestamp) (actorId workspaceId workId sessionId : Uuid)
    (fileIds : List Uuid) (expectedRevision : ℤ) :
    (replaceMaterials settings uuids now actorId workspaceId workId sessionId fileIds
      expectedRevision).Leads (Matched fun _ => False) (fun _ _ => True) w := by
  rw [replaceMaterials]
  simp -zeta only [Tx.bind_eq]
  refine Tx.Leads.mapError (Tx.Leads.ensure_bind fun _ => ?_)
  refine (lockRevision_leads _ _ _ _ _).bind fun item v hv => ?_
  obtain ⟨rfl, hitem, -, hvisible⟩ := hv
  refine Tx.Leads.ensure_bind fun hstatus => ?_
  refine Tx.Within.unchanged_bind (Tx.Within.mapError
    (Works.snapshotCurrentRuleMaterialsForPlaytest_within (F := fun s s' => s' = s)
      (fun _ => rfl) _ _ _ _)) fun snapshot _ => ?_
  extract_lets change
  have hchange : ∀ s, (change s).id = s.id ∧ (change s).workspaceId = s.workspaceId ∧
      (change s).status = s.status := fun _ => ⟨rfl, rfl, rfl⟩
  obtain ⟨habout, hplace⟩ := about_edited hdb h hitem (beq_iff_eq.1 hstatus) hchange
  rw [writeSession]
  refine Tx.Leads.writeIf_bind fun _ => Tx.Leads.writeIf_bind fun _ => ?_
  refine Tx.Leads.bind (P := fun _ db => About .scheduled (change item) db ∧
      (∀ s ∈ db.sessions, s.id = (change item).id → s.workspaceId = (change item).workspaceId) ∧
      exitAllowsWrite none (change item).workspaceId db = true) ?_ fun _ v hv => ?_
  · rw [insertSessionMaterials, insertRows]
    split
    · exact ⟨⟨⟨habout.matched.status, habout.matched.single⟩, habout.row⟩, hplace, hvisible⟩
    · rw [insertRow, ← Tx.bind_pure (Tx.writeIf _ _ _)]
      refine Tx.Leads.lockAll_bind (Tx.Leads.writeIf_bind fun _ => ?_)
      exact ⟨⟨⟨habout.matched.status, habout.matched.single⟩, habout.row⟩, hplace, hvisible⟩
  · rw [← Tx.bind_assoc]
    refine Tx.Leads.bind (hv.1.renew hv.2.1 hv.2.2 (.inr ⟨rfl, rfl⟩) _ _) fun _ u hu => ?_
    exact Tx.Leads.commitNow_bind hu.matched (readBack_leads _ _ _ _ _)

/-- `start_session`, of a session nobody is asked about. -/
theorem startSession_matched (hdb : WellFormed w) (h : Matched (fun _ => False) w)
    {sessionId : Uuid}
    (hunasked : ∀ t ∈ w.todos, t.status = .opened → due t.kind = some .scheduled →
      t.targetId ≠ sessionId) (now : Timestamp) (actorId workspaceId workId : Uuid)
    (expectedRevision : ℤ) :
    (startSession now actorId workspaceId workId sessionId expectedRevision).Leads
      (Matched fun _ => False) (fun _ _ => True) w := by
  rw [startSession]
  simp -zeta only [Tx.bind_eq]
  refine Tx.Leads.mapError ((lockRevision_leads _ _ _ _ _).bind fun item v hv => ?_)
  obtain ⟨rfl, hitem, rfl, -⟩ := hv
  refine Tx.Leads.ensure_bind fun hstatus => ?_
  rw [writeSession]
  refine Tx.Leads.writeIf_bind fun _ => ?_
  refine Tx.Leads.commitNow_bind ?_ (readBack_leads _ _ _ _ _)
  refine h.sessions fun t ht hopen status hdue hP => ?_
  obtain hfalse | ⟨s, hs, hid, hworkspace, hs'⟩ := hP
  · exact hfalse.elim
  refine .inr ⟨s, Table.mem_update.2 (.inr ⟨hs, ?_⟩), hid, hworkspace, hs'⟩
  -- The session that was started was scheduled, and nobody was asked about it.
  refine beq_false_of_ne fun heq => ?_
  obtain rfl := find_of_wellFormed hdb hs hitem heq
  rw [hs'] at hstatus
  exact hunasked t ht hopen (hdue.trans (congrArg some (beq_iff_eq.1 hstatus))) hid.symm

/-- `cancel_session`. -/
theorem cancelSession_matched (hdb : WellFormed w) (h : Matched (fun _ => False) w)
    (uuids : Uuids) (now : Timestamp) (actorId workspaceId workId sessionId : Uuid)
    (expectedRevision : ℤ) :
    (cancelSession settings uuids now actorId workspaceId workId sessionId expectedRevision).Leads
      (Matched fun _ => False) (fun _ _ => True) w := by
  rw [cancelSession]
  simp -zeta only [Tx.bind_eq]
  refine Tx.Leads.mapError ((lockRevision_leads _ _ _ _ _).bind fun item v hv => ?_)
  obtain ⟨rfl, hitem, -, hvisible⟩ := hv
  refine Tx.Leads.ensure_bind fun hstatus => ?_
  extract_lets change
  rw [writeSession]
  refine Tx.Leads.writeIf_bind fun _ => Tx.Leads.write_bind ?_
  -- What was asked about the scheduled session is obsolete now.
  let Obsolete : NotificationTodo → Prop := fun t =>
    t.targetId = item.id ∧ t.workspaceId = item.workspaceId ∧ due t.kind = some .scheduled
  have hrow : SessionIs .cancelled item.id item.workspaceId { v with
      sessions := Table.update (·.id == item.id) change v.sessions } :=
    ⟨change item, Table.mem_update.2 (.inl ⟨item, hitem, beq_self_eq_true _, rfl⟩), rfl, rfl, rfl⟩
  have hobsolete : Matched Obsolete { v with
      sessions := Table.update (·.id == item.id) change v.sessions } := by
    refine h.sessions fun t ht hopen status hdue hP => ?_
    obtain hfalse | ⟨s, hs, hid, hworkspace, hs'⟩ := hP
    · exact hfalse.elim
    by_cases hne : (s.id == item.id) = true
    · obtain rfl := find_of_wellFormed hdb hs hitem (beq_iff_eq.1 hne)
      rw [← hs', beq_iff_eq.1 hstatus] at hdue
      exact .inl ⟨hid.symm, hworkspace.symm, hdue⟩
    · exact .inr ⟨s, Table.mem_update.2 (.inr ⟨hs, Bool.of_not_eq_true hne⟩), hid, hworkspace, hs'⟩
  refine (endAll_leads _ _ _).bind fun _ u hu => ?_
  have habout : About .cancelled (change item) u := by
    refine ⟨⟨fun t ht hopen status hdue => ?_, fun kind hkind n accountId => ?_⟩, ?_⟩
    · obtain ⟨htarget, hP⟩ := hobsolete.status t (hu.1.mem ht hopen) hopen status hdue
      refine ⟨htarget, .inr ?_⟩
      rcases hP with ⟨hid, hworkspace, hscheduled⟩ | hsession
      · have hkinds : [TodoKind.playtestInvitation, .playtestArrangementUpdated,
            .playtestMaterialUpdated].contains t.kind = true := by
          cases hkind : t.kind <;> rw [hkind] at hscheduled <;> first | rfl | cases hscheduled
        have hhidden := hu.2 t ht hopen (by
          simp only [Ending.selects, htarget, hid, hopen, Option.all_some, hkinds, beq_self_eq_true,
            Bool.and_self])
        rw [hworkspace] at hhidden
        exact absurd (hvisible.symm.trans hhidden) (by decide)
      · rw [hu.1.rest]
        exact hsession
    · exact (hu.1.todos _ fun _ => opened_of_openTodo).trans (h.single kind hkind n accountId)
    · rw [hu.1.rest]
      exact hrow
  have hframe : Frame (fun db db' => About .cancelled (change item) db →
      About .cancelled (change item) db') (fun kind => due kind = none) := by
    intro db db' haside hdb
    refine ⟨hdb.matched.aside haside, ?_⟩
    rw [SessionIs, haside.sessions]
    exact hdb.row
  refine Tx.Within.kept_bind (keeps_cancelRetestArranged hframe _ _ _ _) habout fun _ u _ hu => ?_
  refine (hu.notify (.inr ⟨rfl, rfl⟩) _ _).bind fun _ u hu => ?_
  exact Tx.Leads.commitNow_bind hu.matched (readBack_leads _ _ _ _ _)

/-! ## New sessions -/

/-- `_create_session`. -/
theorem createSession_matched (h : Matched (fun _ => False) w)
    (normalizeEmail : String → Option String) (uuids : Uuids) (now : Timestamp)
    (actorId workspaceId workId : Uuid) (plan : PlaytestPlan) (draft : SessionDraft) :
    (createSession settings normalizeEmail uuids now actorId workspaceId workId plan draft).Leads R
      (fun _ => Matched fun _ => False) w := by
  have hframe : Frame (fun db db' => Matched (fun _ => False) db → Matched (fun _ => False) db')
      (fun kind => due kind = none) := fun _ _ haside hdb => hdb.aside haside
  rw [createSession]
  simp -zeta only [Tx.bind_eq, Tx.pure_eq]
  refine Tx.Leads.ensure_bind fun _ => ?_
  refine Tx.Within.kept_bind (keeps_resolveParticipants hframe _ _ _) h fun accounts v _ h => ?_
  refine Tx.Within.kept_bind (keeps_mapError (keeps_snapshot hframe _ _ _ _)) h
    fun snapshot v _ h => ?_
  extract_lets item
  rw [insertSession, insertRow, Tx.bind_assoc]
  refine Tx.Leads.lockAll_bind (Tx.Leads.writeIf_bind fun _ => ?_)
  have habout : About .scheduled item { v with sessions := item :: v.sessions } := by
    refine ⟨h.sessions fun t ht hopen status hdue hP => ?_, item, List.mem_cons_self, rfl, rfl, rfl⟩
    obtain hfalse | ⟨s, hs, hplace⟩ := hP
    · exact hfalse.elim
    · exact .inr ⟨s, List.mem_cons_of_mem _ hs, hplace⟩
  refine Tx.Leads.bind (Tx.Leads.forEach habout fun account _ u hu => ?_) fun _ u hu => ?_
  · show (insertRow _ _ _ _).Leads _ _ _
    rw [insertRow, ← Tx.bind_pure (Tx.writeIf _ _ _)]
    refine Tx.Leads.lockAll_bind (Tx.Leads.writeIf_bind fun _ => ?_)
    exact ⟨⟨hu.matched.status, hu.matched.single⟩, hu.row⟩
  refine (hu.notify (.inl ⟨rfl, rfl⟩) _ _).bind fun _ u hu => ?_
  rw [insertSessionMaterials, insertRows]
  split
  · exact hu.matched
  · rw [insertRow, Tx.bind_assoc]
    refine Tx.Leads.lockAll_bind (Tx.Leads.writeIf_bind fun _ => ?_)
    exact ⟨hu.matched.status, hu.matched.single⟩

theorem createSessions_matched (h : Matched (fun _ => False) w)
    (normalizeEmail : String → Option String) (uuids : Uuids) (now : Timestamp)
    (actorId workspaceId workId : Uuid) (plan : PlaytestPlan) (k : ℕ)
    (drafts : List SessionDraft) :
    (createSessions settings normalizeEmail uuids now actorId workspaceId workId plan k
      drafts).Leads R (fun _ => Matched fun _ => False) w := by
  induction drafts generalizing k w with
  | nil => exact h
  | cons draft drafts ih =>
    refine (createSession_matched h normalizeEmail _ _ _ _ _ _ _).bind fun item v hv => ?_
    exact (ih hv _).bind fun _ u hu => hu

theorem bindRetestSession_matched (h : Matched (fun _ => False) w) (uuids : Uuids)
    (now : Timestamp) (actorId workspaceId workId issueId sessionId : Uuid)
    (expectedRevision : ℤ) :
    (Issues.bindRetestSession uuids now actorId workspaceId workId issueId sessionId
      expectedRevision).Leads R (fun _ => Matched fun _ => False) w := by
  have hframe : Frame (fun db db' => Matched (fun _ => False) db → Matched (fun _ => False) db')
      (fun kind => due kind = none) := fun _ _ haside hdb => hdb.aside haside
  refine (Tx.Within.kept (P := fun _ => True) ?_ h).mono (fun _ => id) fun _ _ hv => hv.2
  refine keeps_mapError ((keeps_ensure _ _).bind fun _ => ?_)
  refine (keeps_requireIssueManagement hframe _ _ _).bind fun _ => ?_
  refine Keeps.bind ((keeps_selectForUpdate hframe _ _).bind fun _ => keeps_require _ _)
    fun issue => ?_
  refine (keeps_ensure _ _).bind fun _ => (keeps_ensure _ _).bind fun _ => ?_
  refine (keeps_selectForUpdate hframe _ _).bind fun _ => (keeps_require _ _).bind fun item => ?_
  refine Keeps.bind (keeps_updateRow hframe ?_ _) fun _ => ?_
  · exact fun db hdb => ⟨hdb.status, hdb.single⟩
  refine Keeps.bind (keeps_insertRow hframe ?_ _ _ _) fun _ => ?_
  · exact fun db hdb => ⟨hdb.status, hdb.single⟩
  exact (keeps_endAll hframe _ _ _).bind fun _ => keeps_notifyMaintainers hframe _ _ _ rfl _

theorem createPlan_matched (h : Matched (fun _ => False) w)
    (normalizeEmail : String → Option String) (uuids : Uuids) (now : Timestamp)
    (actorId workspaceId workId : Uuid) (goals method : String) (drafts : List SessionDraft)
    (retest : Option (Uuid × ℤ)) :
    (createPlan settings normalizeEmail uuids now actorId workspaceId workId goals method drafts
      retest).Leads (Matched fun _ => False) (fun _ _ => True) w := by
  rw [createPlan]
  simp -zeta only [Tx.bind_eq]
  refine Tx.Leads.ensure_bind fun _ => ?_
  extract_lets plan
  refine Tx.Leads.bind (P := fun _ _ => True) (Tx.Leads.mapError ?_) fun _ v _ => ?_
  · refine (unchanged_requireManagement _ _ _).unchanged_bind fun _ _ => ?_
    rw [insertRow, Tx.bind_assoc]
    refine Tx.Leads.lockAll_bind (Tx.Leads.writeIf_bind fun _ => ?_)
    have h : Matched (fun _ => False) { w with plans := plan :: w.plans } := ⟨h.status, h.single⟩
    refine (createSessions_matched h normalizeEmail _ _ _ _ _ _ _ _).bind fun sessions v hv => ?_
    refine Tx.Leads.bind (P := fun _ => Matched fun _ => False) ?_ fun _ u hu => ?_
    · rw [bindRetest.eq_def]
      split
      · exact bindRetestSession_matched hv _ _ _ _ _ _ _ _
      · exact hv
    · exact Tx.Leads.commitNow_bind hu trivial
  · exact Tx.Within.leads_any (keeps_readPlan (F := fun _ _ => True) (K := fun _ => True)
      (fun _ _ _ => trivial) _ _ _ _) v

theorem appendSession_matched (h : Matched (fun _ => False) w)
    (normalizeEmail : String → Option String) (uuids : Uuids) (now : Timestamp)
    (actorId workspaceId workId planId : Uuid) (draft : SessionDraft) :
    (appendSession settings normalizeEmail uuids now actorId workspaceId workId planId draft).Leads
      (Matched fun _ => False) (fun _ _ => True) w := by
  rw [appendSession]
  simp -zeta only [Tx.bind_eq]
  refine Tx.Leads.mapError ((unchanged_requireManagement _ _ _).unchanged_bind fun _ _ => ?_)
  refine Tx.Leads.read_bind (Tx.Leads.require_bind fun plan _ => ?_)
  refine (createSession_matched h normalizeEmail _ _ _ _ _ _ _).bind fun item v hv => ?_
  exact Tx.Leads.commitNow_bind hv (readBack_leads _ _ _ _ _)

end Leads

/-! ## The other operations -/

/-- No change of a call that neither starts nor cancels a session, nor notifies of one, breaks the
invariant. -/
theorem Change.matched {call : Call} (hkinds : ∀ kind ∈ call.notifies, due kind = none)
    (hstarts : call.starts = none) (hcancels : call.cancels = none)
    (hspares : ∀ change, call = .elsewhere change → ∀ db, (change db).todos = db.todos)
    {db db' : Database} (h : Change call db db') (hdb : Matched (fun _ => False) db) :
    Matched (fun _ => False) db' := by
  cases h with
  | aside h =>
    refine hdb.aside ?_
    cases h with
    | created todo hkind => exact .created todo (hkinds _ hkind)
    | ended now todoId verdict => exact .ended now todoId verdict
    | same => exact .same
    | mails change => exact .mails change
    | notified participantId outboxId => exact .notified participantId outboxId
  | sessionCreated s =>
    refine hdb.sessions fun t _ _ status _ hP => hP.imp_right ?_
    rintro ⟨s', hs', hplace⟩
    exact ⟨s', List.mem_cons_of_mem _ hs', hplace⟩
  | sessionEdited n change hchange =>
    exact hdb.edited _ fun s => ⟨(hchange s).1, (hchange s).2.1, (hchange s).2.2.1⟩
  | resultRecorded => exact hdb.edited _ fun _ => ⟨rfl, rfl, rfl⟩
  | sessionStarted n hcall =>
    rw [hstarts] at hcall
    cases hcall
  | sessionCancelled n hcall =>
    rw [hcancels] at hcall
    cases hcall
  | elsewhere change helsewhere =>
    have htodos := hspares change helsewhere db
    constructor
    · intro t ht hopen status hdue
      exact hdb.status t (htodos ▸ ht) hopen status hdue
    · intro kind hkind n accountId
      show (change db).todos.countP _ ≤ 1
      rw [htodos]
      exact hdb.single kind hkind n accountId
  | _ => exact ⟨hdb.status, hdb.single⟩

theorem matched_exec (op : Operation) (hdb : WellFormed db) (hop : startsUnasked db op = true)
    (h : Matched (fun _ => False) db) :
    Matched (fun _ => False) ((op.program settings normalizeEmail).exec db).1 := by
  have hleads : ∀ t : Program Unit, t.Leads (Matched fun _ => False) (fun _ _ => True) db →
      Matched (fun _ => False) (t.exec db).1 := by
    intro t ht
    rcases ht.exec with hsame | hmatched
    · rwa [hsame]
    · exact hmatched
  cases op with
  | completeTodo now recipientId todoId =>
    exact h.fewer (completeTodo_exec now recipientId todoId db)
  | call c =>
    have hchange : (∀ kind ∈ c.sparesTodos.notifies, due kind = none) →
        c.sparesTodos.starts = none → c.sparesTodos.cancels = none →
        Matched (fun _ => False) ((c.sparesTodos.program settings normalizeEmail).exec db).1 := by
      intro hkinds hstarts hcancels
      have hsteps := (Call.changes settings normalizeEmail c.sparesTodos).mono
        (G := fun s s' => Matched (fun _ => False) s → Matched (fun _ => False) s')
        fun _ _ hchange => hchange.matched hkinds hstarts hcancels
          fun _ => Call.sparesTodos_elsewhere
      exact hsteps.exec (fun _ => id) (fun _ _ _ hst htu hs => htu (hst hs)) db h
    cases c with
    | createPlan =>
      exact hleads _ ((createPlan_matched h normalizeEmail _ _ _ _ _ _ _ _ _).bind
        fun _ _ _ => trivial)
    | appendSession =>
      exact hleads _ ((appendSession_matched h normalizeEmail _ _ _ _ _ _ _).bind
        fun _ _ _ => trivial)
    | updateArrangement =>
      exact hleads _ ((updateArrangement_matched hdb h _ _ _ _ _ _ _ _ _ _).bind
        fun _ _ _ => trivial)
    | replaceMaterials =>
      exact hleads _ ((replaceMaterials_matched hdb h _ _ _ _ _ _ _ _).bind fun _ _ _ => trivial)
    | startSession now actorId workspaceId workId sessionId expectedRevision =>
      refine hleads _ ((startSession_matched hdb h (fun t ht hopen hdue hid => ?_) _ _ _ _ _).bind
        fun _ _ _ => trivial)
      rw [startsUnasked, Bool.not_eq_true', List.any_eq_false] at hop
      exact hop t ht (by rw [hopen, hdue, hid]; simp)
    | cancelSession =>
      exact hleads _ ((cancelSession_matched hdb h _ _ _ _ _ _ _).bind fun _ _ _ => trivial)
    | _ => exact hchange (by simp [Call.sparesTodos, Call.notifies, due]) rfl rfl

/-! ## Runs -/

/-- **Todos match their sessions** in every run in which no session is started while somebody is
asked about it. -/
theorem todos_match
    (h : ((todoSystem settings normalizeEmail).restrict startsUnasked).Reachable db) :
    TodosMatch db := by
  have hempty : Matched (fun _ => False) Database.empty :=
    ⟨fun t ht => absurd ht List.not_mem_nil, fun _ _ _ _ => Nat.zero_le 1⟩
  obtain ⟨hdb, hmatched⟩ := todo_induction (I := Matched fun _ => False) hempty
    (fun db op hdb hop h => matched_exec op hdb hop h) h
  refine ⟨fun t ht hopen status hdue => ?_, hmatched.single _ (by decide),
    hmatched.single _ (by decide)⟩
  obtain ⟨htarget, hfalse | ⟨s, hs, hid, -, hstatus⟩⟩ := hmatched.status t ht hopen status hdue
  · exact hfalse.elim
  refine ⟨htarget, ?_⟩
  cases hfind : db.sessions.find? (·.id == t.targetId) with
  | none => exact absurd (beq_iff_eq.2 hid) (List.find?_eq_none.1 hfind s hs)
  | some s' =>
    have hid' := List.find?_some hfind
    rw [beq_iff_eq] at hid'
    rw [find_of_wellFormed hdb (List.mem_of_find?_eq_some hfind) hs (hid'.trans hid.symm)]
    exact congrArg some hstatus

/-- A session is planned for one participant, moved and given other materials. -/
def updatedOperations : List Operation :=
  ([.elsewhere workOfOne, planOfOneSeat,
    .updateArrangement (keysFrom 2000) 6 1 10 20 sessionOfOneSeat ⟨8, true⟩ "table" 2 1,
    .replaceMaterials (keysFrom 3000) 7 1 10 20 sessionOfOneSeat [30] 2] : List Call).map .call ++
  [.completeTodo 8 2 20000201]

theorem todos_match_updated : ∃ db, TodosMatch db ∧
    db.todos.any (fun t => t.status == .opened && due t.kind == some .scheduled) = true := by
  obtain ⟨db, hdb, hp⟩ := @todos_of_runs .withoutCipher some startsUnasked updatedOperations
    (fun db => db.todos.any fun t => t.status == .opened && due t.kind == some .scheduled)
    (by decide +kernel)
  exact ⟨db, todos_match hdb, hp⟩

/-- A session is planned and started. Its participant is still asked to confirm. -/
theorem invitation_to_started :
    ¬ ∀ db, (todoSystem .withoutCipher some).Reachable db → TodosMatch db := by
  intro h
  obtain ⟨db, hdb, hp⟩ := @todos_of_runs .withoutCipher some (fun _ _ => true)
    (([.elsewhere workOfOne, planOfOneSeat, .startSession 8 1 10 20 sessionOfOneSeat 1] :
      List Call).map .call)
    (fun db => db.todos.any fun t => t.status == .opened && due t.kind == some .scheduled &&
      (db.sessions.find? (·.id == t.targetId)).map (·.status) == some .started) (by decide +kernel)
  obtain ⟨t, ht, hstale⟩ := List.any_eq_true.1 hp
  simp only [Bool.and_eq_true, beq_iff_eq] at hstale
  have hreachable := TransitionSystem.reachable_of_restrict hdb
  have hmatch := (h db hreachable).status t ht hstale.1.1 .scheduled
    hstale.1.2
  rw [hstale.2] at hmatch
  exact absurd hmatch.2 (by decide)

end Playtests

end Rulefolio
