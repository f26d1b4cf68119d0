import Rulefolio.Playtests.Tracking

/-!
# What the views do not show

The shared parts of the services leave the record of every session and the row of every issue as
they are. So `Playtests.Frames` applies to the views, and what an operation reads back after its
commit can be followed.

## Main results

* `unseen` — the views do not show the changes of the shared parts.
* `raises_readManagedSession`, `readResult_safe` — reading back.
-/

namespace Rulefolio

namespace Playtests

open ReadCommitted

variable {α : Type} {E : Environment Database RowKey} {G : Tx.Guarantee Database RowKey}

/-- The relation of the views contains the changes of the shared parts. -/
theorem unseen : Frame Effect.none.Relates fun _ => True := by
  intro db db' h
  cases h with
  | same => exact Effect.none_relates_refl db
  | mails change => exact relates_none rfl rfl rfl rfl rfl rfl rfl rfl
  | ended now todoId verdict => exact relates_none_of_business (by cases verdict <;> rfl)
  | created todo => exact relates_none rfl rfl rfl rfl rfl rfl rfl rfl
  | notified participantId outboxId => exact relates_setLatestOutbox db _ _

theorem unseen_feedback : FeedbackFrame Effect.none.Relates := fun _ _ _ _ _ =>
  relates_none rfl rfl rfl rfl rfl rfl rfl rfl

theorem unseen_items (db : Database) (rows : List PlaytestFeedbackItem) :
    Effect.none.Relates db { db with feedbackItems := rows } :=
  relates_none rfl rfl rfl rfl rfl rfl rfl rfl

theorem unseen_submissions (db : Database) (rows : List PlaytestFeedbackSubmission) :
    Effect.none.Relates db { db with feedbackSubmissions := rows } :=
  relates_none rfl rfl rfl rfl rfl rfl rfl rfl

/-! ## What reading back may raise -/

theorem mem_record_rows {db : Database} {s : PlaytestSession} (hs : s ∈ db.sessions) :
    s ∈ (db.record s.id).rows :=
  List.mem_filter.2 ⟨hs, by simp⟩

theorem readBackError_unavailable : ReadBackError .playtestUnavailable := .inl rfl

theorem readBackError_checkErrors (e : ServiceError) (he : ReadBackError e) :
    ReadBackError (checkErrors e) := by
  rcases he with rfl | rfl
  · exact .inl rfl
  · exact .inr rfl

theorem raises_requireManagement (actorId workspaceId workId : Uuid) :
    (requireManagement actorId workspaceId workId false).Raises ReadBackError := by
  refine Tx.Raises.mapError (Tx.Raises.bind ?_ fun _ => trivial)
  -- `works` raises its own errors, which `checkErrors` turns into the two of `playtests`.
  refine Tx.Raises.bind (Tx.Raises.bind (Tx.Raises.read _) fun _ =>
    Tx.Raises.require _ (.inl rfl)) fun work => ?_
  exact Tx.Raises.bind (Tx.Raises.read _) fun _ =>
    Tx.Raises.bind (Tx.Raises.ensure _ (.inr rfl)) fun _ => trivial

theorem raises_readMaterials (entries : List (Uuid × Bytes)) :
    (readMaterials entries).Raises ReadBackError := by
  induction entries with
  | nil => trivial
  | cons entry rest ih =>
    refine Tx.Raises.bind ?_ fun _ => Tx.Raises.bind ih fun _ => trivial
    refine Tx.Raises.bind (Tx.Raises.read _) fun _ =>
      Tx.Raises.bind (Tx.Raises.require _ readBackError_unavailable) fun _ => ?_
    exact Tx.Raises.bind (Tx.Raises.ensure _ readBackError_unavailable) fun _ => trivial

theorem raises_sessionData (item : PlaytestSession) : (sessionData item).Raises ReadBackError :=
  Tx.Raises.bind (Tx.Raises.read _) fun _ =>
    Tx.Raises.bind (Tx.Raises.bind (Tx.Raises.read _) fun _ => raises_readMaterials _) fun _ =>
      Tx.Raises.bind (Tx.Raises.read _) fun _ => trivial

theorem raises_sessionDatas (items : List PlaytestSession) :
    (sessionDatas items).Raises ReadBackError := by
  induction items with
  | nil => trivial
  | cons item rest ih =>
    exact Tx.Raises.bind (raises_sessionData item) fun _ => Tx.Raises.bind ih fun _ => trivial

theorem Raises.mapCheckErrors {t : Program α} (ht : t.Raises ReadBackError) :
    (t.mapError checkErrors).Raises ReadBackError :=
  Tx.Raises.mapError (ht.mono readBackError_checkErrors)

theorem raises_readManagedSession (actorId workspaceId workId sessionId : Uuid) :
    (readManagedSession actorId workspaceId workId sessionId).Raises ReadBackError := by
  refine Raises.mapCheckErrors (Tx.Raises.bind (raises_requireManagement _ _ _) fun _ => ?_)
  exact Tx.Raises.bind (Tx.Raises.read _) fun _ =>
    Tx.Raises.bind (Tx.Raises.require _ readBackError_unavailable) fun _ => raises_sessionData _

theorem raises_readPlan (actorId workspaceId workId planId : Uuid) :
    (readPlan actorId workspaceId workId planId).Raises ReadBackError := by
  refine Raises.mapCheckErrors (Tx.Raises.bind (raises_requireManagement _ _ _) fun _ => ?_)
  refine Tx.Raises.bind (Tx.Raises.read _) fun _ =>
    Tx.Raises.bind (Tx.Raises.require _ readBackError_unavailable) fun _ => ?_
  exact Tx.Raises.bind (Tx.Raises.read _) fun _ => raises_sessionDatas _

theorem raises_actualMaterials (item : PlaytestSession) :
    (actualMaterials item).Raises ReadBackError := by
  rw [actualMaterials]
  split
  · trivial
  · refine Tx.Raises.bind (Tx.Raises.require _ readBackError_unavailable) fun _ =>
      Tx.Raises.bind (Tx.Raises.require _ readBackError_unavailable) fun _ => ?_
    exact Tx.Raises.bind (Tx.Raises.read _) fun _ =>
      Tx.Raises.bind (raises_readMaterials _) fun _ => trivial

/-- `read_result` checks the status once more, so it raises nothing else where the session was
started. -/
theorem readResult_safe (hE : Respects E) {call : Call} (hcall : call.readsBack = true)
    {actorId workspaceId workId sessionId : Uuid} {s : Database}
    (hs : (s.record sessionId).Started) :
    (readResult actorId workspaceId workId sessionId).Safe E G (fun _ _ => True)
      (fun error => Rejected call (checkErrors error)) ⟨1, ∅, id, s⟩ := by
  rw [readResult]
  simp only [Tx.bind_eq, Tx.pure_eq]
  refine Tx.Safe.mapError ?_
  have hg : ∀ e, ReadBackError e → ReadBackError (checkErrors (checkErrors e)) := fun e he =>
    readBackError_checkErrors _ (readBackError_checkErrors _ he)
  refine readBack_bind hcall hg (keeps_requireManagement unseen _ _ _ _)
    (raises_requireManagement _ _ _) fun _ y hy => ?_
  refine Tx.Safe.read_bind fun s' hs' hr => ?_
  refine Tx.Safe.require_bind (fun _ => .inr ⟨hcall, hg _ readBackError_unavailable⟩)
    fun item hitem => ?_
  have hstarted : item.status = .started := by
    have hr' : E.Rely ∅ s s' := E.trans hy.rely (E.anti (Set.empty_subset _) hr)
    obtain ⟨t, ht, hstatus⟩ := hE.started hr' hs
    have hmem := mem_record_rows (List.mem_of_find?_eq_some hitem)
    have hid := List.find?_some hitem
    simp only [Bool.and_eq_true, beq_iff_eq] at hid
    have hrecord : (y.pending s').record sessionId = s'.record sessionId :=
      (hy.pending s').session sessionId
    rw [hid.1.1, hrecord, ht, List.mem_singleton] at hmem
    rw [hmem, hstatus]
  refine Tx.Safe.ensure_bind (fun hne => absurd hstarted (by simpa using hne)) fun _ => ?_
  refine readBack_safe hcall hg ?_ ?_
  · refine (keeps_sessionData unseen item).bind fun _ => ?_
    refine (keeps_read unseen _).bind fun _ => (keeps_actualMaterials unseen item).bind fun _ => ?_
    exact (keeps_read unseen _).bind fun _ => (keeps_read unseen _).bind fun _ => keeps_pure _
  · refine Tx.Raises.bind (raises_sessionData item) fun _ => ?_
    refine Tx.Raises.bind (Tx.Raises.read _) fun _ =>
      Tx.Raises.bind (raises_actualMaterials item) fun _ => ?_
    exact Tx.Raises.bind (Tx.Raises.read _) fun _ =>
      Tx.Raises.bind (Tx.Raises.read _) fun _ => trivial

end Playtests

end Rulefolio
