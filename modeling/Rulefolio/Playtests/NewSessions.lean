import Rulefolio.Playtests.IssueCalls

/-!
# Calls that create sessions

The keys of new sessions and participants are free when their rows are inserted, and the entry of
the unique index that the insertion holds keeps them free for everyone else until the commit. So
what the commit adds is new, and consists of scheduled sessions with invited participants.

## Main definitions

* `Creating` — where a call stands that has created some sessions.

## Main results

* `createPlan_safe`, `appendSession_safe` — each call commits at most once, new sessions and, for a
  retest, a revision of its issue.
-/

namespace Rulefolio

namespace Playtests

open ReadCommitted

variable {α β : Type} {E : Environment Database RowKey} {G : Tx.Guarantee Database RowKey}
  {Q : α → Point Database RowKey → Prop} {X : ServiceError → Point Database RowKey → Prop}
  {x : Point Database RowKey} {e : Effect} {new : List Uuid}

/-- The call has created the sessions `new`, and changed no other. -/
structure Creating (E : Environment Database RowKey) (new : List Uuid) (e : Effect)
    (x : Point Database RowKey) : Prop extends Tracks E e x where
  locks : ∀ n ∈ new, (.session n, .update) ∈ x.locks
  free : ∀ n ∈ new, x.db.record n = .empty
  created : ∀ n ∈ new, ∃ s, IsNew (e.session n .empty) s
  other : ∀ n, n ∉ new → e.session n = id
  keys : (e.places.map (·.id)).Nodup
  keyLocks : ∀ p ∈ e.places, (.participant p.id, .update) ∈ x.locks
  keysFree : ∀ p ∈ e.places, p.id ∉ x.db.places.map (·.id)

namespace Creating

/-- What the others do, and what this call does to other things, changes nothing about it. -/
theorem later (hE : Respects E) (h : Creating E new e x) {e' : Effect} {y : Point Database RowKey}
    (hy : Tracks E e' y) (hsession : e'.session = e.session) (hplaces : e'.places = e.places)
    (hl : Later E x y) : Creating E new e' y where
  toTracks := hy
  locks n hn := hl.locks (h.locks n hn)
  free n hn := (hE.session hl.rely (h.locks n hn)).trans (h.free n hn)
  created n hn := hsession ▸ h.created n hn
  other n hn := hsession ▸ h.other n hn
  keys := hplaces ▸ h.keys
  keyLocks p hp := hl.locks (h.keyLocks p (hplaces ▸ hp))
  keysFree p hp := hE.participant hl.rely (h.keyLocks p (hplaces ▸ hp))
    (h.keysFree p (hplaces ▸ hp))

theorem within_bind (hE : Respects E) (h : Creating E new e x)
    (hX : ∀ error y, y.commits = 0 → X error y) {t : Program β} {P : β → Prop}
    (ht : t.Within Effect.none.Relates P) {f : β → Program α}
    (hf : ∀ b y, P b → Creating E new e y → (f b).Safe E G Q X y) : (t.bind f).Safe E G Q X x :=
  h.toTracks.within_bind hX ht fun b y hb hy hl hr => hf b y hb (h.later hE hy rfl rfl ⟨hl, hr⟩)

/-- A row of a session that the call has not created was there before. -/
theorem rows_nil (hE : Respects E) (h : Creating E new e x) {s : Database} (hs : E.Inv s)
    (hr : E.Rely x.locks x.db s) {n : Uuid} (hn : ((x.pending s).record n).rows = []) :
    n ∉ new ∧ s.record n = .empty := by
  have hrecord := (h.relates s hs hr).session n
  have hnew : n ∉ new := fun hmem => by
    obtain ⟨item, hitem⟩ := h.created n hmem
    rw [hrecord, hE.session hr (h.locks n hmem), h.free n hmem, hitem.rows] at hn
    cases hn
  refine ⟨hnew, ((hE.wellFormed hs).session n).absent ?_⟩
  rwa [hrecord, h.other n hnew] at hn

/-- The `INSERT` of a session. -/
theorem insertSession_bind (hE : Respects E) (h : Creating E new e x)
    (hX : ∀ error y, y.commits = 0 → X error y) {item : PlaytestSession}
    (hitem : IsNew { Record.empty with rows := [item] } item) {f : Unit → Program α}
    (hf : ∀ e' y, e'.issue = e.issue → Creating E (item.id :: new) e' y →
      (f ()).Safe E G Q X y) : ((insertSession item).bind f).Safe E G Q X x := by
  refine h.toTracks.insertRow_bind hX (fun db => relates_insertSession db item)
    fun H s hH hkeys hs hr habsent hy => ?_
  have hrows : ((x.pending s).record item.id).rows = [] := by
    refine List.filter_eq_nil_iff.2 fun t ht => ?_
    simp only [Bool.not_eq_true', List.any_eq_false] at habsent
    exact habsent t ht
  obtain ⟨hnew, hfree⟩ := h.rows_nil hE hs hr hrows
  have hold := h.later hE (h.toTracks.later hH hr) rfl rfl ⟨hH, hr⟩
  have hself : ∀ n, n ≠ item.id → (e.andThen (.onSession item.id fun r =>
      { r with rows := item :: r.rows })).session n = e.session n := fun n hn => by
    simp [Effect.andThen, Effect.onSession, editAt_of_ne hn]
  refine hf _ _ (by rfl) ⟨hy, ?_, ?_, ?_, ?_, hold.keys, hold.keyLocks, hold.keysFree⟩
  · intro n hn
    rcases List.mem_cons.1 hn with rfl | hn
    · exact hkeys _ (by simp)
    · exact hold.locks n hn
  · intro n hn
    rcases List.mem_cons.1 hn with rfl | hn
    · exact hfree
    · exact hold.free n hn
  · intro n hn
    rcases List.mem_cons.1 hn with rfl | hn
    · refine ⟨item, ?_⟩
      simp only [Effect.andThen, Effect.onSession, editAt_self, h.other _ hnew]
      exact hitem
    · rw [hself n fun hid => hnew (hid ▸ hn)]
      exact h.created n hn
  · intro n hn
    rw [List.mem_cons, not_or] at hn
    rw [hself n hn.1]
    exact h.other n hn.2

/-- The `INSERT` of an invited participant in one of the new sessions. -/
theorem insertParticipant_bind (hE : Respects E) (h : Creating E new e x)
    (hX : ∀ error y, y.commits = 0 → X error y) {id sessionId accountId : Uuid}
    (hsession : sessionId ∈ new) {f : Unit → Program α}
    (hf : ∀ e' y, e'.issue = e.issue → Creating E new e' y → (f ()).Safe E G Q X y) :
    ((insertParticipant id sessionId accountId).bind f).Safe E G Q X x := by
  refine h.toTracks.insertRow_bind hX
    (fun db => relates_insertParticipant db ⟨id, sessionId, accountId, .invited, none⟩)
    fun H s hH hkeys hs hr habsent hy => ?_
  have hold := h.later hE (h.toTracks.later hH hr) rfl rfl ⟨hH, hr⟩
  have hfree : id ∉ (e.places ++ s.places).map (·.id) := by
    rw [← (h.relates s hs hr).places]
    intro hmem
    obtain ⟨p, hp, hid⟩ := List.mem_map.1 hmem
    obtain ⟨q, hq, rfl⟩ := List.mem_map.1 hp
    simp only [Bool.not_eq_true', List.any_eq_false] at habsent
    exact habsent q hq (by simp [← hid, PlaytestSessionParticipant.place])
  rw [List.map_append, List.mem_append, not_or] at hfree
  refine hf _ _ (by rfl) ⟨hy, hold.locks, hold.free, ?_, ?_, ?_, ?_, ?_⟩
  · intro n hn
    obtain ⟨item, hitem⟩ := h.created n hn
    refine ⟨item, ?_⟩
    by_cases hns : n = sessionId
    · simp only [Effect.andThen, addParticipant, Effect.onSession, hns, editAt_self,
        Function.comp_apply]
      rw [hns] at hitem
      refine ⟨hitem.rows, hitem.status, hitem.revision, hitem.startedAt,
        ⟨hitem.unplayed.rows, hitem.unplayed.actualMaterials, hitem.unplayed.actualParticipants,
          hitem.unplayed.observations⟩, fun p hp => ?_⟩
      rcases List.mem_cons.1 hp with rfl | hp
      · rfl
      · exact hitem.invited p hp
    · simpa [Effect.andThen, addParticipant, Effect.onSession, editAt_of_ne hns] using hitem
  · intro n hn
    have hns : n ≠ sessionId := fun heq => hn (heq ▸ hsession)
    simp [Effect.andThen, addParticipant, Effect.onSession, editAt_of_ne hns, h.other n hn]
  · exact List.nodup_cons.2 ⟨hfree.1, h.keys⟩
  · intro p hp
    rcases List.mem_cons.1 hp with rfl | hp
    · exact hkeys _ (by simp [PlaytestSessionParticipant.place])
    · exact hold.keyLocks p hp
  · intro p hp
    rcases List.mem_cons.1 hp with rfl | hp
    · exact hfree.2
    · exact hold.keysFree p hp

/-- The `INSERT`s of the planned materials of one of the new sessions. -/
theorem insertSessionMaterials_bind (hE : Respects E) (h : Creating E new e x)
    (hX : ∀ error y, y.commits = 0 → X error y) {sessionId : Uuid} (hsession : sessionId ∈ new)
    {files : List StoredFile} {f : Unit → Program α}
    (hf : ∀ e' y, e'.issue = e.issue → Creating E new e' y → (f ()).Safe E G Q X y) :
    ((insertSessionMaterials sessionId files).bind f).Safe E G Q X x := by
  rw [insertSessionMaterials, insertRows]
  split
  · exact hf e x rfl h
  refine h.toTracks.insertRow_bind hX
    (fun db => relates_insertMaterials sessionId db fun row hrow => ?_)
    fun H s hH hkeys hs hr habsent hy => ?_
  · obtain ⟨file, -, rfl⟩ := List.mem_map.1 hrow
    rfl
  have hold := h.later hE (h.toTracks.later hH hr) rfl rfl ⟨hH, hr⟩
  refine hf _ _ (by rfl)
    ⟨hy, hold.locks, hold.free, ?_, ?_, hold.keys, hold.keyLocks, hold.keysFree⟩
  · intro n hn
    obtain ⟨item, hitem⟩ := h.created n hn
    refine ⟨item, ?_⟩
    by_cases hns : n = sessionId
    · simp only [Effect.andThen, Effect.onSession, hns, editAt_self, Function.comp_apply]
      rw [hns] at hitem
      exact ⟨hitem.rows, hitem.status, hitem.revision, hitem.startedAt,
        ⟨hitem.unplayed.rows, hitem.unplayed.actualMaterials, hitem.unplayed.actualParticipants,
          hitem.unplayed.observations⟩, hitem.invited⟩
    · simpa [Effect.andThen, Effect.onSession, editAt_of_ne hns] using hitem
  · intro n hn
    have hns : n ≠ sessionId := fun heq => hn (heq ▸ hsession)
    simp [Effect.andThen, Effect.onSession, editAt_of_ne hns, h.other n hn]

end Creating

/-! ## Operations -/

variable (settings : Settings) (normalizeEmail : String → Option String)

theorem isNew_newSession (id : Uuid) (plan : PlaytestPlan) (workspaceId workId : Uuid)
    (draft : SessionDraft) (snapshot : Works.PlaytestRuleSnapshot) :
    IsNew { Record.empty with rows := [newSession id plan workspaceId workId draft snapshot] }
      (newSession id plan workspaceId workId draft snapshot) := by
  refine ⟨rfl, rfl, rfl, rfl, ⟨fun s hs => ?_, rfl, rfl, rfl⟩, fun p hp => ?_⟩
  · rw [List.mem_singleton.1 hs]
    rfl
  · cases hp

/-- The participants of a new session, one after the other. -/
theorem insertParticipants_bind (hE : Respects E) (h : Creating E new e x)
    (hX : ∀ error y, y.commits = 0 → X error y) {sessionId : Uuid} (hsession : sessionId ∈ new)
    {ρ : Type} {rows : List ρ} {id account : ρ → Uuid} {f : Unit → Program α}
    (hf : ∀ e' y, e'.issue = e.issue → Creating E new e' y → (f ()).Safe E G Q X y) :
    ((Tx.forEach rows fun row => insertParticipant (id row) sessionId (account row)).bind f).Safe
      E G Q X x := by
  induction rows generalizing e x with
  | nil => exact hf e x rfl h
  | cons row rows ih =>
    simp only [Tx.forEach, Tx.bind_assoc]
    refine h.insertParticipant_bind hE hX hsession fun e' y he' h' => ?_
    exact ih h' fun e'' y he'' => hf e'' y (he''.trans he')

/-- `_create_session`. -/
theorem createSession_bind (hE : Respects E) (h : Creating E new e x)
    (hX : ∀ error y, y.commits = 0 → X error y) {uuids : Uuids} {now : Timestamp}
    {actorId workspaceId workId : Uuid} {plan : PlaytestPlan} {draft : SessionDraft}
    {f : PlaytestSession → Program α}
    (hf : ∀ item e' y, e'.issue = e.issue → Creating E (item.id :: new) e' y →
      (f item).Safe E G Q X y) :
    ((createSession settings normalizeEmail uuids now actorId workspaceId workId plan draft).bind
      f).Safe E G Q X x := by
  simp only [createSession, Tx.bind_eq, Tx.pure_eq, Tx.bind_assoc, Tx.pure_bind]
  refine h.within_bind hE hX (keeps_ensure _ _) fun _ y _ h => ?_
  refine h.within_bind hE hX (keeps_resolveParticipants unseen _ _ _) fun accounts y _ h => ?_
  refine h.within_bind hE hX (keeps_mapError (keeps_snapshot unseen _ _ _ _))
    fun snapshot y _ h => ?_
  refine h.insertSession_bind hE hX (isNew_newSession _ _ _ _ _ _) fun e₁ y he₁ h => ?_
  refine insertParticipants_bind hE h hX (List.mem_cons_self ..) fun e₂ y he₂ h => ?_
  refine h.within_bind hE hX (keeps_notifyParticipants unseen _ _ _ _ fun _ _ _ => trivial)
    fun _ y _ h => ?_
  refine h.insertSessionMaterials_bind hE hX (List.mem_cons_self ..) fun e₃ y he₃ h => ?_
  exact hf _ e₃ y (he₃.trans (he₂.trans he₁)) h

/-- The sessions of a new plan. -/
theorem createSessions_bind (hE : Respects E) (h : Creating E new e x)
    (hX : ∀ error y, y.commits = 0 → X error y) {uuids : Uuids} {now : Timestamp}
    {actorId workspaceId workId : Uuid} {plan : PlaytestPlan} {k : ℕ} {drafts : List SessionDraft}
    {f : List PlaytestSession → Program α}
    (hf : ∀ items new' e' y, items.length = drafts.length → e'.issue = e.issue →
      Creating E new' e' y → (f items).Safe E G Q X y) :
    ((createSessions settings normalizeEmail uuids now actorId workspaceId workId plan k
      drafts).bind f).Safe E G Q X x := by
  induction drafts generalizing new e x k f with
  | nil => exact hf [] new e x rfl rfl h
  | cons draft drafts ih =>
    simp only [createSessions, Tx.bind_eq, Tx.pure_eq, Tx.bind_assoc, Tx.pure_bind]
    refine createSession_bind settings normalizeEmail hE h hX fun item e₁ y he₁ h => ?_
    exact ih h fun items new' e₂ y hlength he₂ h =>
      hf (item :: items) new' e₂ y (congrArg (· + 1) hlength) (he₂.trans he₁) h

/-- The participants of a record have different keys if all participants have. -/
theorem record_keys_nodup {db : Database} (h : (db.places.map (·.id)).Nodup) (n : Uuid) :
    ((db.record n).participants.map (·.id)).Nodup := by
  have hplaces : db.places.map (·.id) = (db.participants.map (·.forgetMail)).map (·.id) := by
    rw [Database.places, List.map_map, List.map_map]
    rfl
  rw [hplaces] at h
  exact h.sublist (List.filter_sublist.map _)

/-- **The commit of a call that has created sessions.** -/
theorem Creating.commit_bind {call : Call} (hE : Respects E) (h : Creating E new e x)
    (hsession : call.sessionRevision = none)
    (hissue : ∀ s, E.Inv s → E.Rely x.locks x.db s → ∀ k,
      IssueTransition (expected call.issueRevision k) (s.issueRows k) (e.issue k (s.issueRows k)) ∧
        (e.issue k (s.issueRows k) ≠ s.issueRows k → (.issue k, .update) ∈ x.locks))
    {f : Unit → Program α} (hf : ∀ y, y.commits = 1 → (f ()).Safe E (guarantee call) Q X y) :
    (Tx.commitNow.bind f).Safe E (guarantee call) Q X x := by
  refine Tx.Safe.commitNow_bind fun s hs hr => ⟨⟨h.commits, ?_⟩, hf _ (by simp [h.commits])⟩
  have he := h.relates s hs hr
  have h' := h.later hE (h.toTracks.later subset_rfl hr) rfl rfl ⟨subset_rfl, hr⟩
  have hkeys : ((x.pending s).places.map (·.id)).Nodup := by
    rw [he.places, List.map_append, List.nodup_append]
    refine ⟨h.keys, (hE.wellFormed hs).places, ?_⟩
    rintro _ ha b hb rfl
    obtain ⟨p, hp, rfl⟩ := List.mem_map.1 ha
    exact h'.keysFree p hp hb
  refine ⟨fun n => ?_, fun n hn => ?_, fun k => ?_, fun k hk => ?_,
    ⟨e.places, he.places, h.keys, fun p hp => ⟨h'.keysFree p hp, h.keyLocks p hp⟩⟩, he.explained⟩
  · rw [hsession, expected_none]
    by_cases hn : n ∈ new
    · have hfree : s.record n = .empty := h'.free n hn
      obtain ⟨item, hitem⟩ := h.created n hn
      have hafter : (x.pending s).record n = e.session n .empty := by rw [he.session, hfree]
      rw [hfree, hafter]
      exact .created _ item hitem (hafter ▸ record_keys_nodup hkeys n)
    · rw [he.session, h.other n hn]
      exact .stays _
  · by_contra hlock
    have hnew : n ∉ new := fun hmem => hlock (h.locks n hmem)
    rw [he.session, h.other n hnew] at hn
    exact hn rfl
  · rw [he.issue]
    exact (hissue s hs hr k).1
  · rw [he.issue] at hk
    exact (hissue s hs hr k).2 hk

theorem Tracks.creating (h : Tracks E .none x) : Creating E [] .none x where
  toTracks := h
  locks n hn := by cases hn
  free n hn := by cases hn
  created n hn := by cases hn
  other _ _ := rfl
  keys := List.nodup_nil
  keyLocks p hp := by cases hp
  keysFree p hp := by cases hp

theorem appendSession_safe (hE : Respects E) (h : Tracks E .none x) {call : Call}
    (hsession : call.sessionRevision = none) (hissue : call.issueRevision = none)
    (hback : call.readsBack = true) (uuids : Uuids) (now : Timestamp)
    (actorId workspaceId workId planId : Uuid) (draft : SessionDraft) :
    (appendSession settings normalizeEmail uuids now actorId workspaceId workId planId draft).Safe E
      (guarantee call) (fun _ _ => True) (Rejected call) x := by
  rw [appendSession]
  simp only [Tx.bind_eq]
  refine Tx.Safe.mapError ?_
  refine h.within_bind rejected_of_commits (keeps_requireManagement unseen _ _ _ _)
    fun _ y _ h _ _ => ?_
  refine h.within_bind rejected_of_commits (keeps_read unseen _) fun _ y _ h _ _ => ?_
  refine h.within_bind rejected_of_commits (keeps_require _ _) fun plan y _ h _ _ => ?_
  refine createSession_bind settings normalizeEmail hE h.creating rejected_of_commits
    fun item e y he h => ?_
  refine h.commit_bind hE hsession (fun s _ _ k => ?_) fun y _ =>
    readBack_safe hback readBackError_checkErrors (keeps_readManagedSession unseen _ _ _ _)
      (raises_readManagedSession _ _ _ _)
  rw [hissue, he]
  exact ⟨.stays _, fun hne => absurd rfl hne⟩

/-- `bind_retest_session` where there is a retest, and nothing where there is none. -/
theorem bindRetest_bind {call : Call} (hE : Respects E) (h : Creating E new e x)
    (he : e.issue = fun _ => id) (hX : ∀ error y, y.commits = 0 → X error y)
    (hsession : call.sessionRevision = none) {retest : Option (Uuid × ℤ)}
    (hissue : call.issueRevision = retest) {uuids : Uuids} {now : Timestamp}
    {actorId workspaceId workId : Uuid} {sessions : List PlaytestSession}
    (hsessions : retest.isSome → sessions ≠ []) {f : Unit → Program α}
    (hf : ∀ y, y.commits = 1 → (f ()).Safe E (guarantee call) Q X y) :
    ((bindRetest uuids now actorId workspaceId workId retest sessions).bind fun _ =>
      Tx.commitNow.bind f).Safe E (guarantee call) Q X x := by
  have hcommit : retest = none → (Tx.commitNow.bind f).Safe E (guarantee call) Q X x := by
    rintro rfl
    refine h.commit_bind hE hsession (fun s _ _ k => ?_) hf
    rw [hissue, he]
    exact ⟨.stays _, fun hne => absurd rfl hne⟩
  cases retest with
  | none => exact hcommit rfl
  | some target =>
    obtain ⟨issueId, expectedRevision⟩ := target
    cases sessions with
    | nil => exact absurd rfl (hsessions rfl)
    | cons item items =>
      refine Tx.Safe.bind (bindRetestSession_safe hE h.toTracks he hX _ _ _ _ _ _ _ _)
        fun _ y hbound => ?_
      obtain ⟨issue, change, hheld, hrev, hid, hraised⟩ := hbound.held
      have hy := h.later hE hheld.toTracks (by rfl) (by rfl) hbound.later
      refine hy.commit_bind hE hsession (fun s hs hr k => ?_) hf
      have hrows : s.issueRows issueId = [issue] := (hE.issue hr hheld.lock).trans hheld.rows
      simp only [Effect.andThen, Effect.onIssue, he, hissue]
      by_cases hk : k = issueId
      · subst hk
        rw [hrows, expected_self, editAt_self, ← hrev]
        exact ⟨.revised issue _ hid hraised, fun _ => hheld.lock⟩
      · rw [expected_of_ne hk, editAt_of_ne hk]
        exact ⟨.stays _, fun hne => absurd rfl hne⟩

theorem createPlan_safe (hE : Respects E) (h : Tracks E .none x) {call : Call}
    {retest : Option (Uuid × ℤ)} (hsession : call.sessionRevision = none)
    (hissue : call.issueRevision = retest) (hback : call.readsBack = true) (uuids : Uuids)
    (now : Timestamp) (actorId workspaceId workId : Uuid) (goals method : String)
    (drafts : List SessionDraft) :
    (createPlan settings normalizeEmail uuids now actorId workspaceId workId goals method drafts
      retest).Safe E (guarantee call) (fun _ _ => True) (Rejected call) x := by
  rw [createPlan]
  simp only [Tx.bind_eq]
  refine Tx.Safe.ensure_bind (fun _ => .inl h.commits) fun hvalid => ?_
  simp only [Bool.and_eq_true, Bool.or_eq_true, beq_iff_eq] at hvalid
  refine Tx.Safe.bind (R := fun _ _ => True) (Tx.Safe.mapError ?_) fun _ y _ =>
    readBack_safe hback (g := id) (fun _ => id) (keeps_readPlan unseen _ _ _ _)
      (raises_readPlan _ _ _ _)
  refine h.within_bind rejected_of_commits (keeps_requireManagement unseen _ _ _ _)
    fun _ y _ h _ _ => ?_
  refine h.within_bind rejected_of_commits (keeps_insertRow unseen ?_ _ _ _) fun _ y _ h _ _ => ?_
  · exact fun db => relates_none rfl rfl rfl rfl rfl rfl rfl rfl
  refine createSessions_bind settings normalizeEmail hE h.creating rejected_of_commits
    fun sessions new e y hlength he h => ?_
  rw [← Tx.bind_pure Tx.commitNow]
  refine bindRetest_bind hE h he rejected_of_commits hsession hissue ?_ fun _ _ =>
    Tx.Safe.pure trivial
  -- A retest comes with exactly one session.
  rintro hretest rfl
  rcases hvalid.2 with hnone | hone
  · rw [Option.isNone_iff_eq_none.1 hnone] at hretest
    cases hretest
  · simp [hone] at hlength

end Playtests

end Rulefolio
