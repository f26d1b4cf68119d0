import Rulefolio.Playtests.Unseen

/-!
# Calls on one session

Every operation that carries a revision begins alike (`lockRevision_bind`): after the checks the
call holds the lock of the session, whose revision is the expected one. What follows is a check of
the status, the statements, and the commit.

## Main results

* `updateArrangement_safe` and its like — each call commits at most once, a transition of its
  session.
-/

namespace Rulefolio

namespace Playtests

open ReadCommitted

variable {α : Type} {E : Environment Database RowKey} {G : Tx.Guarantee Database RowKey}
  {Q : α → Point Database RowKey → Prop} {X : ServiceError → Point Database RowKey → Prop}
  {x : Point Database RowKey}

/-! ## Locking a session -/

theorem Record.Sound.rows_eq {r : Record} (h : r.Sound) {s : PlaytestSession} (hs : s ∈ r.rows) :
    r.rows = [s] := by
  obtain ⟨t, ht⟩ := List.length_eq_one_iff.1 (le_antisymm h.unique (List.length_pos_of_mem hs))
  rw [ht, List.mem_singleton] at hs
  rw [ht, hs]

/-- What a session that was found and is locked says about its record. -/
theorem held_of_mem (hE : Respects E) (h : Tracks E .none x) {s : Database}
    (hs : E.Inv s) (hr : E.Rely x.locks x.db s) {item : PlaytestSession}
    (hitem : item ∈ (x.pending s).sessions) :
    (s.record item.id).rows = [item] ∧ Held E item.id (s.record item.id) id
      { x with locks := insert (.session item.id, .update) x.locks, db := s } := by
  rw [← Effect.onSession_id item.id] at h
  refine ⟨((hE.wellFormed hs).session _).rows_eq ?_,
    h.later (Set.subset_insert _ _) hr, Set.mem_insert _ _, rfl⟩
  have hmem := mem_record_rows hitem
  rwa [(h.relates s hs hr).session, Effect.onSession_id] at hmem

/-- **The beginning of every operation that carries a revision.** -/
theorem lockRevision_bind (hE : Respects E) (h : Tracks E .none x)
    (hX : ∀ error y, y.commits = 0 → X error y) {actorId workspaceId workId sessionId : Uuid}
    {expectedRevision : ℤ} {f : PlaytestSession → Program α}
    (hf : ∀ item r y, item.id = sessionId → r.rows = [item] →
      (item.revision : ℤ) = expectedRevision → Held E sessionId r id y →
      (f item).Safe E G Q X y) :
    ((lockRevision actorId workspaceId workId sessionId expectedRevision).bind f).Safe E G Q X x :=
      by
  simp only [lockRevision, lockManagedSession, Tx.bind_eq, Tx.bind_assoc, Tx.pure_eq, Tx.pure_bind]
  refine h.within_bind hX (keeps_requireManagement unseen _ _ _ _) fun _ y _ hy _ _ => ?_
  refine Tx.Safe.selectForUpdate_bind (l := .session sessionId) ?_ ?_ ?_
  · intro v item hitem
    have hfind := (Option.filter_eq_some_iff.1 hitem).1
    have hid := List.find?_some hfind
    simp only [Bool.and_eq_true, beq_iff_eq] at hid
    rw [hid.1.1]
  · exact fun s _ _ => Tx.Safe.raise (hX _ _ hy.commits)
  · intro s hs hr
    refine Tx.Safe.require_bind (fun _ => hX _ _ hy.commits) fun item hitem => ?_
    refine Tx.Safe.ensure_bind (fun _ => hX _ _ hy.commits) fun hrevision => ?_
    have hfind := (Option.filter_eq_some_iff.1 hitem).1
    have hid := List.find?_some hfind
    simp only [Bool.and_eq_true, beq_iff_eq] at hid
    obtain ⟨⟨rfl, -⟩, -⟩ := hid
    obtain ⟨hrows, hheld⟩ := held_of_mem hE hy hs hr (List.mem_of_find?_eq_some hfind)
    exact hf item _ _ rfl hrows (by simpa using hrevision) hheld

theorem writeSession_bind (hE : Respects E) {item : PlaytestSession} {r : Record}
    {g : Record → Record} (h : Held E item.id r g x) (hX : ∀ error y, y.commits = 0 → X error y)
    {change : PlaytestSession → PlaytestSession} {f : Unit → Program α}
    (hid : ∀ s, (change s).id = s.id)
    (hf : ∀ y, Held E item.id r (Record.mapRow change ∘ g) y → (f ()).Safe E G Q X y) :
    ((writeSession item change).bind f).Safe E G Q X x :=
  h.updateRow_bind hE hX (fun _ _ _ => relates_writeSession item.id _ hid) hf

/-- A call whose value is not looked at. -/
theorem discard_safe {t : Program α} {G : Tx.Guarantee Database RowKey}
    (ht : t.Safe E G (fun _ _ => True) X x) :
    (t >>= fun _ => pure ()).Safe E G (fun _ _ => True) X x :=
  ht.bind fun _ _ _ => Tx.Safe.pure trivial

/-- Who has confirmed, as `_confirmed_count` counts them. -/
theorem confirmedCount_eq (n : Uuid) (db : Database) :
    confirmedCount n db = (db.record n).confirmed :=
    by
  rw [confirmedCount, Record.confirmed, Database.record, List.countP_filter, List.countP_map]
  refine List.countP_congr fun p _ => ?_
  simp [PlaytestSessionParticipant.forgetMail, and_comm]

/-! ## Operations -/

variable (settings : Settings) (normalizeEmail : String → Option String)

/-- Only the session of the call is expected to have a revision. -/
theorem expected_other {n : Uuid} {e : ℤ} : ∀ m, m ≠ n → expected (some (n, e)) m = none :=
  fun _ hm => expected_of_ne hm e

theorem updateArrangement_safe (hE : Respects E) (h : Tracks E .none x) {call : Call}
    {actorId workspaceId workId sessionId : Uuid} {expectedRevision : ℤ}
    (hsession : call.sessionRevision = some (sessionId, expectedRevision))
    (hissue : call.issueRevision = none) (hback : call.readsBack = true) (uuids : Uuids)
    (now : Timestamp) (scheduledAt : RequestedTime) (location : String) (capacity : ℤ) :
    (updateArrangement settings uuids now actorId workspaceId workId sessionId scheduledAt location
      capacity expectedRevision).Safe E (guarantee call) (fun _ _ => True) (Rejected call) x := by
  rw [updateArrangement]
  simp only [Tx.bind_eq]
  refine Tx.Safe.mapError ?_
  refine Tx.Safe.ensure_bind (fun _ => rejected_of_commits _ _ h.commits) fun hvalid => ?_
  refine lockRevision_bind hE h rejected_of_commits fun item r y hid hrows hrevision hy => ?_
  subst hid hrevision
  refine hy.ensure_bind rejected_of_commits fun hstatus => ?_
  refine hy.read_bind hE fun s hsees hy _ => ?_
  refine hy.ensure_bind rejected_of_commits fun hcapacity => ?_
  refine writeSession_bind hE hy rejected_of_commits ?_ fun y hy => ?_
  · exact fun s => rfl
  refine hy.within_bind hE rejected_of_commits (keeps_endAll unseen _ _ _) fun _ y _ hy _ => ?_
  refine hy.within_bind hE rejected_of_commits (keeps_notifyParticipants unseen _ _ _ _
    fun _ _ _ => trivial)
    fun _ y _ hy _ => ?_
  refine hy.commit_bind hE ?_ (hsession ▸ expected_other) hissue fun y _ =>
    readBack_safe hback readBackError_checkErrors (keeps_readManagedSession unseen _ _ _ _)
      (raises_readManagedSession _ _ _ _)
  rw [hsession, expected_self]
  have hconfirmed : r.confirmed ≤ capacity.toNat := by
    rw [confirmedCount_eq, hsees] at hcapacity
    simp only [id, decide_eq_true_eq] at hcapacity
    omega
  convert Transition.arranged r item hrows (by simpa using hstatus) scheduledAt.instant
    (strip location) capacity.toNat hconfirmed using 1
  exact Record.mapRow_congr hrows rfl

theorem replaceMaterials_safe (hE : Respects E) (h : Tracks E .none x) {call : Call}
    {actorId workspaceId workId sessionId : Uuid} {expectedRevision : ℤ}
    (hsession : call.sessionRevision = some (sessionId, expectedRevision))
    (hissue : call.issueRevision = none) (hback : call.readsBack = true) (uuids : Uuids)
    (now : Timestamp) (materialFileIds : List Uuid) :
    (replaceMaterials settings uuids now actorId workspaceId workId sessionId materialFileIds
      expectedRevision).Safe E (guarantee call) (fun _ _ => True) (Rejected call) x := by
  rw [replaceMaterials]
  simp only [Tx.bind_eq]
  refine Tx.Safe.mapError ?_
  refine Tx.Safe.ensure_bind (fun _ => rejected_of_commits _ _ h.commits) fun hvalid => ?_
  refine lockRevision_bind hE h rejected_of_commits fun item r y hid hrows hrevision hy => ?_
  subst hid hrevision
  refine hy.ensure_bind rejected_of_commits fun hstatus => ?_
  refine hy.within_bind hE rejected_of_commits (keeps_mapError (keeps_snapshot unseen _ _ _ _))
    fun snapshot y _ hy _ => ?_
  refine writeSession_bind hE hy rejected_of_commits ?_ fun y hy => ?_
  · exact fun s => rfl
  refine hy.updateRow_bind hE rejected_of_commits (fun s _ _ => relates_deleteMaterials item.id _)
    fun y hy => ?_
  refine hy.insertRows_bind hE rejected_of_commits
    (fun db => relates_insertMaterials item.id db fun row hrow => ?_) ?_ fun y hy => ?_
  · obtain ⟨f, -, rfl⟩ := List.mem_map.1 hrow
    rfl
  · intro hnil
    rw [hnil]
    rfl
  refine hy.within_bind hE rejected_of_commits (keeps_endAll unseen _ _ _) fun _ y _ hy _ => ?_
  refine hy.within_bind hE rejected_of_commits (keeps_notifyParticipants unseen _ _ _ _
    fun _ _ _ => trivial)
    fun _ y _ hy _ => ?_
  refine hy.commit_bind hE ?_ (hsession ▸ expected_other) hissue fun y _ =>
    readBack_safe hback readBackError_checkErrors (keeps_readManagedSession unseen _ _ _ _)
      (raises_readManagedSession _ _ _ _)
  rw [hsession, expected_self]
  convert Transition.rewritten r item hrows (by simpa using hstatus) snapshot _ using 1
  rw [← Record.mapRow_congr hrows]
  · rfl
  · rfl

theorem startSession_safe (hE : Respects E) (h : Tracks E .none x) {call : Call}
    {actorId workspaceId workId sessionId : Uuid} {expectedRevision : ℤ}
    (hsession : call.sessionRevision = some (sessionId, expectedRevision))
    (hissue : call.issueRevision = none) (hback : call.readsBack = true) (now : Timestamp) :
    (startSession now actorId workspaceId workId sessionId expectedRevision).Safe E (guarantee call)
      (fun _ _ => True) (Rejected call) x := by
  rw [startSession]
  simp only [Tx.bind_eq]
  refine Tx.Safe.mapError ?_
  refine lockRevision_bind hE h rejected_of_commits fun item r y hid hrows hrevision hy => ?_
  subst hid hrevision
  refine hy.ensure_bind rejected_of_commits fun hstatus => ?_
  refine writeSession_bind hE hy rejected_of_commits ?_ fun y hy => ?_
  · exact fun s => rfl
  refine hy.commit_bind hE ?_ (hsession ▸ expected_other) hissue fun y _ =>
    readBack_safe hback readBackError_checkErrors (keeps_readManagedSession unseen _ _ _ _)
      (raises_readManagedSession _ _ _ _)
  rw [hsession, expected_self]
  convert Transition.started r item hrows (by simpa using hstatus) now using 1
  exact Record.mapRow_congr hrows rfl

theorem cancelSession_safe (hE : Respects E) (h : Tracks E .none x) {call : Call}
    {actorId workspaceId workId sessionId : Uuid} {expectedRevision : ℤ}
    (hsession : call.sessionRevision = some (sessionId, expectedRevision))
    (hissue : call.issueRevision = none) (hback : call.readsBack = true) (uuids : Uuids)
    (now : Timestamp) :
    (cancelSession settings uuids now actorId workspaceId workId sessionId expectedRevision).Safe E
      (guarantee call) (fun _ _ => True) (Rejected call) x := by
  rw [cancelSession]
  simp only [Tx.bind_eq]
  refine Tx.Safe.mapError ?_
  refine lockRevision_bind hE h rejected_of_commits fun item r y hid hrows hrevision hy => ?_
  subst hid hrevision
  refine hy.ensure_bind rejected_of_commits fun hstatus => ?_
  refine writeSession_bind hE hy rejected_of_commits ?_ fun y hy => ?_
  · exact fun s => rfl
  refine hy.within_bind hE rejected_of_commits (Tx.Within.write ?_) fun _ y _ hy _ => ?_
  · exact fun _ _ => relates_none_of_business rfl
  refine hy.within_bind hE rejected_of_commits (keeps_endAll unseen _ _ _) fun _ y _ hy _ => ?_
  refine hy.within_bind hE rejected_of_commits (keeps_cancelRetestArranged unseen _ _ _ _)
    fun _ y _ hy _ => ?_
  refine hy.within_bind hE rejected_of_commits (keeps_notifyParticipants unseen _ _ _ _
    fun _ _ _ => trivial)
    fun _ y _ hy _ => ?_
  refine hy.commit_bind hE ?_ (hsession ▸ expected_other) hissue fun y _ =>
    readBack_safe hback readBackError_checkErrors (keeps_readManagedSession unseen _ _ _ _)
      (raises_readManagedSession _ _ _ _)
  rw [hsession, expected_self]
  convert Transition.cancelled r item hrows (by simpa using hstatus) using 1
  exact Record.mapRow_congr hrows rfl

theorem saveResult_safe (hE : Respects E) (h : Tracks E .none x) {call : Call}
    {actorId workspaceId workId sessionId : Uuid} {expectedRevision : ℤ}
    (hsession : call.sessionRevision = some (sessionId, expectedRevision))
    (hissue : call.issueRevision = none) (hback : call.readsBack = true) (draft : ResultDraft) :
    (saveResult actorId workspaceId workId sessionId expectedRevision draft).Safe E (guarantee call)
      (fun _ _ => True) (Rejected call) x := by
  rw [saveResult]
  simp only [Tx.bind_eq, deleteActuals, insertActuals, Tx.bind_assoc]
  refine Tx.Safe.mapError ?_
  refine Tx.Safe.ensure_bind (fun _ => rejected_of_commits _ _ h.commits) fun hvalid => ?_
  refine lockRevision_bind hE h rejected_of_commits fun item r y hid hrows hrevision hy => ?_
  subst hid hrevision
  refine hy.ensure_bind rejected_of_commits fun hstatus => ?_
  refine hy.within_bind hE rejected_of_commits (keeps_validateResultDraft unseen _ _)
    fun draft y _ hy _ => ?_
  refine writeSession_bind hE hy rejected_of_commits ?_ fun y hy => ?_
  · exact fun s => rfl
  refine hy.updateRow_bind hE rejected_of_commits
    (fun s _ _ => relates_deleteActualMaterials item.id _) fun y hy => ?_
  refine hy.updateRow_bind hE rejected_of_commits
    (fun s _ _ => relates_deleteActualParticipants item.id _) fun y hy => ?_
  refine hy.within_bind hE rejected_of_commits (keeps_resultReadyMaterials unseen _ _ _)
    fun files y _ hy _ => ?_
  refine writeSession_bind hE hy rejected_of_commits ?_ fun y hy => ?_
  · exact fun s => rfl
  refine hy.insertRows_bind hE rejected_of_commits
    (fun db => relates_insertActualMaterials item.id db fun row hrow => ?_) ?_ fun y hy => ?_
  · obtain ⟨f, -, rfl⟩ := List.mem_map.1 hrow
    rfl
  · intro hnil
    rw [hnil]
    rfl
  refine hy.insertRows_bind hE rejected_of_commits
    (fun db => relates_insertActualParticipants item.id db fun row hrow => ?_) ?_ fun y hy => ?_
  · obtain ⟨f, -, rfl⟩ := List.mem_map.1 hrow
    rfl
  · intro hnil
    rw [hnil]
    rfl
  refine hy.commit_bind hE ?_ (hsession ▸ expected_other) hissue fun s hs =>
    readResult_safe hE hback ?_
  swap
  · rw [hs]
    refine ⟨_, Record.rows_mapRow (Record.rows_mapRow hrows _) _, ?_⟩
    simpa [recordResult] using hstatus
  rw [hsession, expected_self]
  convert Transition.recorded r item hrows (by simpa using hstatus) draft
    (files.map (fun f => ⟨item.id, f.id, f.sha256⟩) ++ [])
    (draft.actualParticipants.map (participantRow item.id) ++ []) using 1
  refine Record.ext ?_ rfl rfl rfl rfl rfl
  simp [Record.mapRow, hrows, recordResult]

theorem createObservation_safe (hE : Respects E) (h : Tracks E .none x) {call : Call}
    {actorId workspaceId workId sessionId : Uuid} {expectedRevision : ℤ}
    (hsession : call.sessionRevision = some (sessionId, expectedRevision))
    (hissue : call.issueRevision = none) (uuids : Uuids) (kind : ObservationKind)
    (content : String) :
    (createObservation uuids actorId workspaceId workId sessionId expectedRevision kind
      content).Safe E (guarantee call) (fun _ _ => True) (Rejected call) x := by
  rw [createObservation]
  simp only [Tx.bind_eq, Tx.pure_eq, Evidence.createObservation, Tx.bind_assoc, Tx.pure_bind]
  refine Tx.Safe.mapError ?_
  refine Tx.Safe.ensure_bind (fun _ => rejected_of_commits _ _ h.commits) fun hvalid => ?_
  refine lockRevision_bind hE h rejected_of_commits fun item r y hid hrows hrevision hy => ?_
  subst hid hrevision
  refine hy.ensure_bind rejected_of_commits fun hstatus => ?_
  refine hy.ensure_bind rejected_of_commits fun hcontent => ?_
  refine hy.insertRow_bind hE rejected_of_commits
    (fun db => relates_insertObservation item.id db (by rfl)) fun y hy => ?_
  refine hy.within_bind hE rejected_of_commits (keeps_accountEmail unseen _) fun _ y _ hy _ => ?_
  refine writeSession_bind hE hy rejected_of_commits ?_ fun y hy => ?_
  · exact fun s => rfl
  refine hy.commit_bind hE ?_ (hsession ▸ expected_other) hissue fun y _ => Tx.Safe.pure trivial
  rw [hsession, expected_self]
  convert Transition.observed r item hrows (by simpa using hstatus) (r.observations + 1) using 1
  refine Record.ext ?_ rfl rfl rfl rfl rfl
  simp [Record.mapRow, hrows]

theorem updateObservation_safe (hE : Respects E) (h : Tracks E .none x) {call : Call}
    {actorId workspaceId workId sessionId : Uuid} {expectedRevision : ℤ}
    (hsession : call.sessionRevision = some (sessionId, expectedRevision))
    (hissue : call.issueRevision = none) (observationId : Uuid) (kind : ObservationKind)
    (content : String) :
    (updateObservation actorId workspaceId workId sessionId observationId expectedRevision kind
      content).Safe E (guarantee call) (fun _ _ => True) (Rejected call) x := by
  rw [updateObservation]
  simp only [Tx.bind_eq, Tx.pure_eq]
  refine Tx.Safe.mapError ?_
  refine Tx.Safe.ensure_bind (fun _ => rejected_of_commits _ _ h.commits) fun hvalid => ?_
  refine lockRevision_bind hE h rejected_of_commits fun item r y hid hrows hrevision hy => ?_
  subst hid hrevision
  refine hy.ensure_bind rejected_of_commits fun hstatus => ?_
  refine hy.within_bind hE rejected_of_commits (keeps_updateObservation unseen _ _ _ _ _
    fun db _ _ ho => relates_updateObservation db fun o => (ho o).2)
    fun _ y _ hy _ => ?_
  refine writeSession_bind hE hy rejected_of_commits ?_ fun y hy => ?_
  · exact fun s => rfl
  refine hy.commit_bind hE ?_ (hsession ▸ expected_other) hissue fun y _ => Tx.Safe.pure trivial
  rw [hsession, expected_self]
  convert Transition.observed r item hrows (by simpa using hstatus) r.observations using 1
  refine Record.ext ?_ rfl rfl rfl rfl rfl
  simp [Record.mapRow, hrows]

/-! ## Confirmation -/

/-- A participant is found again where they once were. -/
theorem place_of_mem {db : Database} {p : PlaytestSessionParticipant} (hp : p ∈ db.participants) :
    p.place ∈ db.places :=
  List.mem_map_of_mem hp

/-- The key of a participant leads to their session, in every later state. -/
theorem session_of_place {db : Database} (hdb : WellFormed db) {p q : Place} (hp : p ∈ db.places)
    (hq : q ∈ db.places) (hid : q.id = p.id) : q.sessionId = p.sessionId := by
  have : q = p := List.inj_on_of_nodup_map hdb.places hq hp hid
  rw [this]

theorem confirmParticipation_safe (hE : Respects E) (h : Tracks E .none x) {call : Call}
    (hsession : call.sessionRevision = none) (hissue : call.issueRevision = none)
    (now : Timestamp) (actorId sessionId : Uuid) :
    (confirmParticipation now actorId sessionId).Safe E (guarantee call) (fun _ _ => True)
      (Rejected call) x := by
  rw [confirmParticipation]
  simp only [Tx.bind_eq, Tx.pure_eq, participantSession, Tx.bind_assoc, Tx.pure_bind]
  refine Tx.Safe.mapError (Tx.Safe.read_bind fun s₀ hs₀ hr₀ => ?_)
  refine Tx.Safe.require_bind (fun _ => rejected_of_commits _ _ h.commits) fun participant hp => ?_
  -- The participant has been loaded, without a lock; the place they have will not change.
  have hfound := List.find?_some hp
  simp only [Bool.and_eq_true, beq_iff_eq] at hfound
  obtain ⟨rfl, rfl⟩ := hfound
  have hplace : participant.place ∈ s₀.places := by
    have hmem := place_of_mem (List.mem_of_find?_eq_some hp)
    rwa [(h.relates s₀ hs₀ hr₀).places] at hmem
  have h₀ := h.later subset_rfl hr₀
  refine Tx.Safe.selectForUpdate_bind (l := .session participant.sessionId) ?_ ?_ ?_
  · intro v item hitem
    have hid := List.find?_some hitem
    simp only [Bool.and_eq_true, beq_iff_eq] at hid
    rw [hid.1]
  · exact fun s _ _ => Tx.Safe.raise (rejected_of_commits _ _ h.commits)
  intro s hs hr
  refine Tx.Safe.require_bind (fun _ => rejected_of_commits _ _ h.commits) fun item hitem => ?_
  have hid := List.find?_some hitem
  simp only [Bool.and_eq_true, beq_iff_eq] at hid
  obtain ⟨hrows, hy⟩ := held_of_mem hE h₀ hs hr (List.mem_of_find?_eq_some hitem)
  have hplace' : participant.place ∈ s.places := hE.places hr hplace
  rw [← hid.1]
  refine hy.within_bind hE rejected_of_commits
    (Workspaces.ensureAuthorizedWritable_within unseen.refl _) fun _ y _ hy hr₁ => ?_
  refine hy.within_bind hE rejected_of_commits (keeps_selectForUpdate unseen _ _)
    fun again y _ hy hr₂ => ?_
  have hplace'' : participant.place ∈ y.db.places := hE.places hr₂ (hE.places hr₁ hplace')
  refine hy.ensure_bind rejected_of_commits fun hagain => ?_
  refine hy.ensure_bind rejected_of_commits fun hstatus => ?_
  refine hy.read_bind hE fun s₁ hsees hy hr₃ => ?_
  split
  · refine hy.commit_bind hE ?_ (fun m _ => by rw [hsession]; rfl) hissue fun y _ =>
      Tx.Safe.pure trivial
    rw [hsession]
    exact .stays _
  · refine hy.ensure_bind rejected_of_commits fun hseat => ?_
    refine hy.updateRow_bind hE rejected_of_commits
      (fun t ht hrt => relates_confirm item.id _ fun p hp hpid => ?_) fun y hy => ?_
    · -- The key that is updated is that of the participant loaded first, who is still there.
      rw [(hy.relates t ht hrt).places] at hp
      have hplace₃ : participant.place ∈ t.places := hE.places hrt (hE.places hr₃ hplace'')
      rw [session_of_place (hE.wellFormed ht) hplace₃ hp hpid, hid.1]
      rfl
    refine hy.within_bind hE rejected_of_commits (keeps_endAll unseen _ _ _) fun _ y _ hy _ => ?_
    refine hy.commit_bind hE ?_ (fun m _ => by rw [hsession]; rfl) hissue fun y _ =>
      Tx.Safe.pure trivial
    rw [hsession]
    refine .confirmed _ item hrows (by simpa using hstatus) ?_ participant.id
    rw [confirmedCount_eq, hsees] at hseat
    simpa using hseat

/-! ## Feedback -/

/-- The end of a call that has changed nothing the views show. -/
theorem Tracks.commitNow_safe (h : Tracks E .none x) {call : Call}
    (hsession : call.sessionRevision = none) (hissue : call.issueRevision = none) :
    Tx.commitNow.Safe E (guarantee call) (fun _ _ => True) X x := by
  have hcommit : Tx.commitNow = Tx.commitNow.bind (Tx.pure : Unit → Program Unit) := rfl
  rw [hcommit]
  exact h.commit_bind hsession hissue fun y _ => Tx.Safe.pure trivial

/-- A call that commits nothing the views show. -/
theorem unseen_safe (h : Tracks E .none x) {call : Call} (hsession : call.sessionRevision = none)
    (hissue : call.issueRevision = none) {f : ServiceError → ServiceError} {t : Program Unit}
    (ht : Unseen t) :
    ((t.bind fun _ => Tx.commitNow).mapError f).Safe E (guarantee call) (fun _ _ => True)
      (Rejected call) x :=
  Tx.Safe.mapError (h.within_bind rejected_of_commits ht fun _ _ _ hy _ _ =>
    hy.commitNow_safe hsession hissue)

theorem createFeedbackItem_safe (h : Tracks E .none x) {call : Call}
    (hsession : call.sessionRevision = none) (hissue : call.issueRevision = none) (uuids : Uuids)
    (actorId workspaceId workId sessionId : Uuid) (operationKey : String)
    (draft : Evidence.FeedbackItemDraft) :
    (createFeedbackItem uuids actorId workspaceId workId sessionId operationKey draft).Safe E
      (guarantee call) (fun _ _ => True) (Rejected call) x := by
  simp only [createFeedbackItem, Tx.bind_eq, ← Tx.bind_assoc]
  exact unseen_safe h hsession hissue ((keeps_feedbackManagedSession unseen _ _ _ _).bind fun _ =>
    keeps_createFeedbackItem unseen unseen_feedback _ _ _ _ fun db _ => unseen_items db _)

theorem updateFeedbackItem_safe (h : Tracks E .none x) {call : Call}
    (hsession : call.sessionRevision = none) (hissue : call.issueRevision = none) (uuids : Uuids)
    (actorId workspaceId workId sessionId itemId : Uuid) (expectedRevision : ℤ)
    (draft : Evidence.FeedbackItemDraft) :
    (updateFeedbackItem uuids actorId workspaceId workId sessionId itemId expectedRevision
      draft).Safe E (guarantee call) (fun _ _ => True) (Rejected call) x := by
  simp only [updateFeedbackItem, Tx.bind_eq, ← Tx.bind_assoc]
  exact unseen_safe h hsession hissue ((keeps_feedbackManagedSession unseen _ _ _ _).bind fun _ =>
    keeps_updateFeedbackItem unseen unseen_feedback _ _ _ _ _)

theorem deleteFeedbackItem_safe (h : Tracks E .none x) {call : Call}
    (hsession : call.sessionRevision = none) (hissue : call.issueRevision = none)
    (actorId workspaceId workId sessionId itemId : Uuid) :
    (deleteFeedbackItem actorId workspaceId workId sessionId itemId).Safe E (guarantee call)
      (fun _ _ => True) (Rejected call) x := by
  simp only [deleteFeedbackItem, Tx.bind_eq, ← Tx.bind_assoc]
  exact unseen_safe h hsession hissue ((keeps_feedbackManagedSession unseen _ _ _ _).bind fun _ =>
    keeps_deleteFeedbackItem unseen unseen_feedback _ _ fun db _ => unseen_items db _)

theorem updateFeedbackSubmission_safe (h : Tracks E .none x) {call : Call}
    (hsession : call.sessionRevision = none) (hissue : call.issueRevision = none)
    (actorId workspaceId workId sessionId submissionId : Uuid) (expectedRevision : ℤ)
    (draft : Evidence.FeedbackSubmissionDraft) :
    (updateFeedbackSubmission actorId workspaceId workId sessionId submissionId expectedRevision
      draft).Safe E (guarantee call) (fun _ _ => True) (Rejected call) x := by
  simp only [updateFeedbackSubmission, Tx.bind_eq, ← Tx.bind_assoc]
  exact unseen_safe h hsession hissue ((keeps_feedbackManagedSession unseen _ _ _ _).bind fun _ =>
    keeps_updateOrganizerSubmission unseen unseen_feedback _ _ _ _ _
      fun db _ _ _ => unseen_submissions db _)

theorem createFeedbackSubmission_safe (h : Tracks E .none x) {call : Call}
    (hsession : call.sessionRevision = none) (hissue : call.issueRevision = none) (uuids : Uuids)
    (now : Timestamp) (actorId workspaceId workId sessionId : Uuid) (operationKey : String)
    (draft : Evidence.FeedbackSubmissionDraft) :
    (createFeedbackSubmission uuids now actorId workspaceId workId sessionId operationKey
      draft).Safe E (guarantee call) (fun _ _ => True) (Rejected call) x := by
  rw [createFeedbackSubmission]
  simp only [Tx.bind_eq]
  refine Tx.Safe.mapError ?_
  refine h.within_bind rejected_of_commits (keeps_feedbackManagedSession unseen _ _ _ _)
    fun item y _ h _ _ => ?_
  refine h.within_bind rejected_of_commits (keeps_read unseen _) fun existing y _ h _ _ => ?_
  refine h.within_bind rejected_of_commits
    (keeps_createOrganizerSubmission unseen unseen_feedback _ _ _ _ _
    fun db _ => unseen_submissions db _)
    fun submissionId y _ h _ _ => ?_
  split
  · exact h.within_bind rejected_of_commits (keeps_notifyFeedbackMaintainers unseen trivial _ _ _ _)
      fun _ y _ h _ _ => h.commitNow_safe hsession hissue
  · exact h.commitNow_safe hsession hissue

theorem saveParticipantFeedback_safe (h : Tracks E .none x) {call : Call}
    (hsession : call.sessionRevision = none) (hissue : call.issueRevision = none) (uuids : Uuids)
    (now : Timestamp) (actorId sessionId : Uuid) (operationKey : Option String)
    (expectedRevision : Option ℤ) (draft : Evidence.FeedbackSubmissionDraft) :
    (saveParticipantFeedback uuids now actorId sessionId operationKey expectedRevision draft).Safe E
      (guarantee call) (fun _ _ => True) (Rejected call) x := by
  rw [saveParticipantFeedback]
  simp only [Tx.bind_eq]
  refine Tx.Safe.mapError ?_
  refine h.within_bind rejected_of_commits (keeps_participantSession unseen _ _)
    fun found y _ h _ _ => ?_
  refine h.within_bind rejected_of_commits
    (Workspaces.ensureAuthorizedWritable_within unseen.refl _)
    fun _ y _ h _ _ => ?_
  refine h.within_bind rejected_of_commits (keeps_ensure _ _) fun _ y _ h _ _ => ?_
  refine h.within_bind rejected_of_commits (keeps_read unseen _) fun wasSubmitted y _ h _ _ => ?_
  refine h.within_bind rejected_of_commits
    (keeps_saveDirectSubmission unseen unseen_feedback _ _ _ _ _ _
    (fun db _ => unseen_submissions db _) fun db _ _ _ => unseen_submissions db _)
    fun submission y _ h _ _ => ?_
  split
  · exact h.within_bind rejected_of_commits (keeps_notifyFeedbackMaintainers unseen trivial _ _ _ _)
      fun _ y _ h _ _ => h.commitNow_safe hsession hissue
  · exact h.commitNow_safe hsession hissue

/-- Any other transaction. -/
theorem elsewhere_safe (h : Tracks E .none x) {call : Call} (hsession : call.sessionRevision = none)
    (hissue : call.issueRevision = none) (change : Database → Database) :
    (elsewhere keepPlaytests change).Safe E (guarantee call) (fun _ _ => True) (Rejected call) x :=
      by
  refine h.within_bind (fun _ _ hy => .inl hy) (Tx.Within.write ?_) fun _ y _ h _ _ =>
    h.commitNow_safe hsession hissue
  exact fun _ _ => relates_none rfl rfl rfl rfl rfl rfl rfl rfl

end Playtests

end Rulefolio
