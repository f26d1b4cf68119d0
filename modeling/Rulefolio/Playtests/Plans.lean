import Rulefolio.Library.KeyViews
import Rulefolio.Playtests.PlannedVersion
import Rulefolio.Playtests.RetestCalls

/-!
# Plans and their sessions

A plan is created under the lock of its key and stays as it is. A session belongs to a plan of its
work from the beginning: `create_plan` inserts the plan before the sessions, in one transaction, and
`append_session` has read it. No call gives a session to another plan. So the primary key of plans
and the foreign key of sessions hold however the calls interleave.

## Main definitions

* `OfPlan` — what the foreign key says.
* `KeepsPlans` — what a commit does to plans and to the sessions that belong to them.
* `Planned` — the keys of a database.

## Main results

* `planned_of_reachable`.
-/

namespace Rulefolio

namespace Playtests

open ReadCommitted

/-! ## What belongs together -/

/-- The session belongs to the plan. -/
def OfPlan (p : PlaytestPlan) (s : PlaytestSession) : Prop :=
  p.id = s.planId ∧ p.workspaceId = s.workspaceId ∧ p.workId = s.workId

/-- The keys of plans, and of the sessions that belong to them. -/
structure Planned (db : Database) : Prop where
  keys : (db.plans.map (·.id)).Nodup
  plan : ∀ s ∈ db.sessions, ∃ p ∈ db.plans, OfPlan p s

/-- No plan goes away, and a session belongs to the plans it belonged to, or to one of these. -/
structure KeepsPlans (N : PlaytestPlan → Prop) (db db' : Database) : Prop where
  plans : db.plans ⊆ db'.plans
  sessions : ∀ s' ∈ db'.sessions,
    (∃ s ∈ db.sessions, ∀ p, OfPlan p s → OfPlan p s') ∨ ∃ p, N p ∧ OfPlan p s'

namespace KeepsPlans

variable {N : PlaytestPlan → Prop} {db db' db'' : Database}

theorem of_tables (hplans : db'.plans = db.plans) (hsessions : db'.sessions = db.sessions) :
    KeepsPlans N db db' where
  plans := hplans ▸ fun _ hp => hp
  sessions s hs := .inl ⟨s, hsessions ▸ hs, fun _ h => h⟩

theorem refl (db : Database) : KeepsPlans N db db := .of_tables rfl rfl

theorem trans (h : KeepsPlans N db db') (h' : KeepsPlans N db' db'') : KeepsPlans N db db'' where
  plans := List.Subset.trans h.plans h'.plans
  sessions s hs := by
    rcases h'.sessions s hs with ⟨s', hs', hkept⟩ | hnew
    · rcases h.sessions s' hs' with ⟨s₀, hs₀, hkept'⟩ | ⟨p, hp, hof⟩
      · exact .inl ⟨s₀, hs₀, fun p hp => hkept p (hkept' p hp)⟩
      · exact .inr ⟨p, hp, hkept p hof⟩
    · exact .inr hnew

theorem mono {N' : PlaytestPlan → Prop} (hN : ∀ p, N p → N' p) (h : KeepsPlans N db db') :
    KeepsPlans N' db db' where
  plans := h.plans
  sessions s hs := (h.sessions s hs).imp_right fun ⟨p, hp, hof⟩ => ⟨p, hN p hp, hof⟩

theorem of_update (n : Uuid) {change : PlaytestSession → PlaytestSession}
    (h : ∀ s p, OfPlan p s → OfPlan p (change s)) :
    KeepsPlans N db { db with sessions := Table.update (·.id == n) change db.sessions } where
  plans _ hp := hp
  sessions s hs := by
    rcases Table.mem_update.1 hs with ⟨s₀, hs₀, -, rfl⟩ | ⟨hs, -⟩
    · exact .inl ⟨s₀, hs₀, h s₀⟩
    · exact .inl ⟨s, hs, fun _ hp => hp⟩

theorem of_insert {plan : PlaytestPlan} (hN : N plan) (id : Uuid) (draft : SessionDraft)
    (snapshot : Works.PlaytestRuleSnapshot) : KeepsPlans N db { db with
      sessions :=
        newSession id plan plan.workspaceId plan.workId draft snapshot :: db.sessions } where
  plans _ hp := hp
  sessions s hs := by
    rcases List.mem_cons.1 hs with rfl | hs
    · exact .inr ⟨plan, hN, rfl, rfl, rfl⟩
    · exact .inl ⟨s, hs, fun _ hp => hp⟩

theorem planned (h : KeepsPlans (· ∈ db'.plans) db db') (hdb : ∀ s ∈ db.sessions,
    ∃ p ∈ db.plans, OfPlan p s) : ∀ s ∈ db'.sessions, ∃ p ∈ db'.plans, OfPlan p s := by
  intro s hs
  rcases h.sessions s hs with ⟨s₀, hs₀, hkept⟩ | hnew
  · obtain ⟨p, hp, hof⟩ := hdb s₀ hs₀
    exact ⟨p, h.plans hp, hkept p hof⟩
  · exact hnew

end KeepsPlans

theorem plans_of_aside {K : TodoKind → Prop} {db db' : Database} (h : Aside K db db') :
    db'.plans = db.plans ∧ db'.sessions = db.sessions := by
  cases h with
  | ended now todoId verdict => cases verdict <;> exact ⟨rfl, rfl⟩
  | _ => exact ⟨rfl, rfl⟩

theorem frame_keepsPlans (N : PlaytestPlan → Prop) : Frame (KeepsPlans N) fun _ => True :=
  fun _ _ h => .of_tables (plans_of_aside h).1 (plans_of_aside h).2

theorem scheduling_keepsPlans (plan : PlaytestPlan) :
    SchedulingFrame (KeepsPlans (· = plan)) (fun _ => True) plan.workspaceId plan.workId plan where
  frame := frame_keepsPlans _
  notifies := trivial
  session _ id draft snapshot := .of_insert (N := (· = plan)) rfl id draft snapshot
  background _ _ _ := .of_tables rfl rfl

/-- A call that creates no session leaves sessions to their plans. -/
theorem Change.keepsPlans {call : Call} (hcall : call.schedules = false) {N : PlaytestPlan → Prop}
    {db db' : Database} (h : Change call db db') : KeepsPlans N db db' := by
  cases h with
  | aside h => exact .of_tables (plans_of_aside h).1 (plans_of_aside h).2
  | planCreated plan =>
    exact ⟨List.subset_cons_self _ _, fun s hs => .inl ⟨s, hs, fun _ hp => hp⟩⟩
  | sessionCreated s hstatus hschedules =>
    rw [hcall] at hschedules
    cases hschedules
  | sessionEdited n change h hplan =>
    refine .of_update n fun s p hp => ?_
    rw [OfPlan, (hplan s).1, (h s).2.1, (hplan s).2]
    exact hp
  | sessionStarted => exact .of_update _ fun _ _ hp => hp
  | sessionCancelled => exact .of_update _ fun _ _ hp => hp
  | resultRecorded => exact .of_update _ fun _ _ hp => hp
  | _ => exact .of_tables rfl rfl

/-! ## The keys of plans -/

/-- The keys of all plans. -/
def planKeys : LockedViews Database RowKey Uuid ℕ :=
  .ofKeys (fun db => db.plans.map (·.id)) .plan

theorem frame_planKeys : Frame planKeys.Same fun _ => True := fun _ _ h =>
  LockedViews.same_of_keys (by rw [(plans_of_aside h).1])

theorem Change.samePlanKeys {call : Call} (hcall : call.plans = false) {db db' : Database}
    (h : Change call db db') : planKeys.Same db db' := by
  cases h with
  | aside h => exact LockedViews.same_of_keys (by rw [(plans_of_aside h).1])
  | planCreated plan hplans =>
    rw [hcall] at hplans
    cases hplans
  | _ => exact LockedViews.same_of_keys rfl

/-- What a commit does to plans. -/
def planCommit (_ : Call) : Tx.Guarantee Database RowKey := fun _ H db db' =>
  planKeys.Commits LockedViews.KeepsUnique H db db' ∧ KeepsPlans (· ∈ db'.plans) db db'

theorem planCommit_planned {call : Call} {n : ℕ} {H : Set (RowKey × RowLock)} {db db' : Database}
    (h : planCommit call n H db db') (hdb : Planned db) : Planned db' :=
  ⟨h.1.nodup_keys hdb.keys, h.2.planned hdb.plan⟩

/-- The environment the calls make for each other. -/
abbrev amongPlans : Environment Database RowKey := environment Planned planCommit

theorem closed_amongPlans : Closed amongPlans planCommit :=
  closed_environment fun _ _ _ _ _ hs hG => planCommit_planned hG hs

theorem respected_planKeys : planKeys.Respected amongPlans :=
  LockedViews.respected_environment fun _ _ _ _ _ hG => hG.1.locked

/-- A plan that is there stays there, locked or not. -/
theorem mem_plans_of_rely {H : Set (RowKey × RowLock)} {db db' : Database}
    (h : amongPlans.Rely H db db') : db.plans ⊆ db'.plans :=
  relates_of_rely (R := fun db db' : Database => db.plans ⊆ db'.plans) (fun _ _ hp => hp)
    (fun _ _ _ => List.Subset.trans) (fun _ _ _ _ _ _ hG _ => hG.2.plans) h

/-! ## The calls that create sessions -/

section Calls

variable {α β : Type} {x : Point Database RowKey} (settings : Settings)
  (normalizeEmail : String → Option String)

/-- What is pending leaves every session to its plans, but for new ones of this plan. -/
def Schedules (plan : PlaytestPlan) (x : Point Database RowKey) : Prop :=
  ∀ s, KeepsPlans (· = plan) s (x.pending s)

theorem Schedules.within_bind {plan : PlaytestPlan} (h : Schedules plan x) {t : Program β}
    (ht : Keeps (KeepsPlans (· = plan)) t) {G : Tx.Guarantee Database RowKey}
    {Q : α → Point Database RowKey → Prop} {f : β → Program α}
    (hf : ∀ b y, Schedules plan y → Tx.Extends amongPlans (KeepsPlans (· = plan)) x y →
      (f b).Safe amongPlans G Q (fun _ _ => True) y) :
    (t.bind f).Safe amongPlans G Q (fun _ _ => True) x :=
  ht.safe_bind KeepsPlans.refl (fun _ _ _ => KeepsPlans.trans) (fun _ _ _ => trivial)
    fun b y _ hy => hf b y (fun s => (h s).trans (hy.pending s)) hy

/-- The commit, where the plan is there. -/
theorem Schedules.commit {plan : PlaytestPlan} (h : Schedules plan x) {s : Database}
    (hplan : plan ∈ (x.pending s).plans) : KeepsPlans (· ∈ (x.pending s).plans) s (x.pending s) :=
  (h s).mono fun p hp => by
    rw [hp]
    exact hplan

/-- `create_plan` has inserted the plan. -/
theorem keepsPlans_createPlan (uuids : Uuids) (now : Timestamp) (actorId workspaceId workId : Uuid)
    (goals method : String) (drafts : List SessionDraft) (retest : Option (Uuid × ℤ))
    (s : Database) :
    (createPlan settings normalizeEmail uuids now actorId workspaceId workId goals method drafts
      retest).Safe amongPlans (fun _ _ db db' => KeepsPlans (· ∈ db'.plans) db db')
        (fun _ _ => True) (fun _ _ => True) (Point.start s) := by
  rw [createPlan]
  simp only [Tx.bind_eq]
  refine Tx.Safe.ensure_bind (fun _ => trivial) fun _ => ?_
  refine Tx.Safe.bind (R := fun _ _ => True) (Tx.Safe.mapError ?_) fun _ y _ =>
    safe_of_within KeepsPlans.refl (fun _ _ _ => KeepsPlans.trans)
      (keeps_readPlan (frame_keepsPlans fun _ => False) _ _ _ _)
  generalize hplan : (⟨(uuids.sub 0).here, workspaceId, workId, strip goals, strip method,
    actorId⟩ : PlaytestPlan) = plan
  have h : Schedules plan (Point.start s) := fun _ => .refl _
  have hframe := frame_keepsPlans (· = plan)
  refine h.within_bind (keeps_requireManagement hframe _ _ _ _) fun _ y h _ => ?_
  rw [insertRow, Tx.bind_assoc]
  refine Tx.Safe.lockAll_bind fun H t _ _ _ => ?_
  refine Tx.Safe.writeIf_bind (fun _ _ _ => trivial) fun t _ _ _ => ?_
  have hinserted : ∀ s, plan ∈ ((fun db : Database => { db with plans := plan :: db.plans })
      (y.pending s)).plans := fun _ => List.mem_cons_self
  have h : Schedules plan ⟨y.commits, H,
      (fun db : Database => { db with plans := plan :: db.plans }) ∘ y.pending, t⟩ := fun s =>
    (h s).trans ⟨List.subset_cons_self _ _, fun s hs => .inl ⟨s, hs, fun _ hp => hp⟩⟩
  have hscheduling : SchedulingFrame (KeepsPlans (· = plan)) (fun _ => True) workspaceId workId
      plan := by
    subst hplan
    exact scheduling_keepsPlans _
  refine h.within_bind (keeps_createSessions settings normalizeEmail hscheduling _ _ _ _ _)
    fun sessions z h hz => ?_
  have hretest : RetestFrame (KeepsPlans (· = plan)) fun _ => True :=
    ⟨hframe, trivial, fun _ _ _ => .of_tables rfl rfl, fun _ _ _ => .of_tables rfl rfl⟩
  refine h.within_bind (keeps_bindRetest hretest _ _ _ _ _ _ _) fun _ u h hu => ?_
  refine Tx.Safe.commitNow_bind (f := Tx.pure) fun s _ _ => ⟨h.commit ?_, Tx.Safe.pure trivial⟩
  exact (hu.pending s).plans ((hz.pending s).plans (hinserted s))

/-- `append_session` has read the plan. -/
theorem keepsPlans_appendSession (uuids : Uuids) (now : Timestamp)
    (actorId workspaceId workId planId : Uuid) (draft : SessionDraft) (s : Database) :
    (appendSession settings normalizeEmail uuids now actorId workspaceId workId planId draft).Safe
      amongPlans (fun _ _ db db' => KeepsPlans (· ∈ db'.plans) db db') (fun _ _ => True)
        (fun _ _ => True) (Point.start s) := by
  rw [appendSession]
  simp only [Tx.bind_eq]
  refine Tx.Safe.mapError ?_
  refine (requireManagement_reads actorId workspaceId workId true).safe_bind (fun _ => rfl)
    (fun _ _ _ => Eq.trans) (fun _ _ _ => trivial) fun _ y _ hy => ?_
  refine Tx.Safe.read_bind fun t _ _ => ?_
  refine Tx.Safe.require_bind (fun _ => trivial) fun plan hfind => ?_
  have hfound := List.find?_some hfind
  simp only [Bool.and_eq_true, beq_iff_eq] at hfound
  obtain ⟨⟨-, rfl⟩, rfl⟩ := hfound
  have hmem : plan ∈ t.plans := by
    have hsame : t = y.pending t := hy.pending t
    rw [hsame]
    exact List.mem_of_find?_eq_some hfind
  have h : Schedules plan ⟨y.commits, y.locks, y.pending, t⟩ := fun s => by
    have hsame : s = y.pending s := hy.pending s
    show KeepsPlans _ s (y.pending s)
    rw [← hsame]
    exact .refl _
  refine h.within_bind (keeps_createSession settings normalizeEmail (scheduling_keepsPlans plan)
    _ _ _ _) fun item z h hz => ?_
  refine Tx.Safe.commitNow_bind fun s _ hr => ⟨h.commit ?_, ?_⟩
  · exact (h s).plans (mem_plans_of_rely hr (mem_plans_of_rely hz.rely hmem))
  · exact safe_of_within KeepsPlans.refl (fun _ _ _ => KeepsPlans.trans)
      (keeps_readManagedSession (frame_keepsPlans fun _ => False) _ _ _ _)

/-- The key of a plan is taken under its lock. -/
theorem planKeys_createPlan (h : planKeys.Clean amongPlans x) (uuids : Uuids) (now : Timestamp)
    (actorId workspaceId workId : Uuid) (goals method : String) (drafts : List SessionDraft)
    (retest : Option (Uuid × ℤ)) :
    (createPlan settings normalizeEmail uuids now actorId workspaceId workId goals method drafts
      retest).Safe amongPlans (fun _ => planKeys.Commits LockedViews.KeepsUnique) (fun _ _ => True)
        (fun _ _ => True) x := by
  have hX : ∀ (e : ServiceError) (y : Point Database RowKey), True := fun _ _ => trivial
  rw [createPlan]
  simp only [Tx.bind_eq]
  refine h.within_bind hX (keeps_ensure _ _) fun _ y _ h _ => ?_
  refine Tx.Safe.bind (R := fun _ _ => True) (Tx.Safe.mapError ?_) fun _ y _ =>
    safe_of_within LockedViews.Same.refl LockedViews.Same.trans
      (keeps_readPlan frame_planKeys _ _ _ _)
  refine h.within_bind hX (keeps_requireManagement frame_planKeys _ _ _ _) fun _ y _ h _ => ?_
  refine h.insertKey_bind respected_planKeys List.mem_cons_self (fun db ha hmem => ?_)
    (fun _ => rfl) hX fun y h => ?_
  · obtain ⟨p, hp, hid⟩ := List.mem_map.1 hmem
    have hfree := (Bool.and_eq_true_iff.1 ha).1
    simp only [Bool.not_eq_true', List.any_eq_false] at hfree
    exact hfree p hp (by simp [hid])
  have hscheduling : ∀ plan,
      SchedulingFrame planKeys.Same (fun _ => True) workspaceId workId plan := fun _ =>
    ⟨frame_planKeys, trivial, fun _ _ _ _ => LockedViews.same_of_keys rfl,
      fun _ _ _ => LockedViews.same_of_keys rfl⟩
  refine h.within_bind respected_planKeys hX (keeps_createSessions settings normalizeEmail
    (hscheduling _) _ _ _ _ _) fun sessions y _ h _ => ?_
  have hretest : RetestFrame planKeys.Same fun _ => True :=
    ⟨frame_planKeys, trivial, fun _ _ _ => LockedViews.same_of_keys rfl,
      fun _ _ _ => LockedViews.same_of_keys rfl⟩
  refine h.within_bind respected_planKeys hX (keeps_bindRetest hretest _ _ _ _ _ _ _)
    fun _ y _ h _ => ?_
  exact LockedViews.Ready.commitNow respected_planKeys (.inr ⟨_, _, _, h, fun _ => le_rfl⟩)
    LockedViews.KeepsUnique.refl

end Calls

/-! ## Every call -/

variable {settings : Settings} {normalizeEmail : String → Option String}

theorem Call.keepsPlans (call : Call) (s : Database) :
    (call.program settings normalizeEmail).Safe amongPlans
      (fun _ _ db db' => KeepsPlans (· ∈ db'.plans) db db') (fun _ _ => True) (fun _ _ => True)
        (Point.start s) := by
  have hother : ∀ call : Call, call.schedules = false →
      (call.program settings normalizeEmail).Safe amongPlans
        (fun _ _ db db' => KeepsPlans (· ∈ db'.plans) db db') (fun _ _ => True)
          (fun _ _ => True) (Point.start s) := fun call hcall =>
    (((Call.changes settings normalizeEmail call).mono fun _ _ h =>
      h.keepsPlans (N := fun _ => False) hcall).safe KeepsPlans.refl
        (fun _ _ _ => KeepsPlans.trans) KeepsPlans.refl).weaken
          fun _ _ _ _ h => h.mono fun _ => False.elim
  cases call with
  | createPlan =>
    exact (keepsPlans_createPlan _ _ _ _ _ _ _ _ _ _ _ s).bind fun _ _ _ => Tx.Safe.pure trivial
  | appendSession =>
    exact (keepsPlans_appendSession _ _ _ _ _ _ _ _ _ s).bind fun _ _ _ => Tx.Safe.pure trivial
  | _ => exact hother _ rfl

theorem Call.planKeys (call : Call) (s : Database) :
    (call.program settings normalizeEmail).Safe amongPlans
      (fun _ => Playtests.planKeys.Commits LockedViews.KeepsUnique) (fun _ _ => True)
        (fun _ _ => True) (Point.start s) := by
  have hother : ∀ call : Call, call.plans = false →
      (call.program settings normalizeEmail).Safe amongPlans
        (fun _ => Playtests.planKeys.Commits LockedViews.KeepsUnique) (fun _ _ => True)
          (fun _ _ => True) (Point.start s) := fun call hcall =>
    safe_of_steps LockedViews.KeepsUnique.refl ((Call.changes settings normalizeEmail call).mono
      fun _ _ h => h.samePlanKeys hcall)
  cases call with
  | createPlan =>
    exact (planKeys_createPlan _ _ (LockedViews.clean_start s) _ _ _ _ _ _ _ _ _).bind
      fun _ _ _ => Tx.Safe.pure trivial
  | _ => exact hother _ rfl

theorem planned_empty : Planned Database.empty :=
  ⟨List.nodup_nil, fun _ hs => by cases hs⟩

variable {c : Config Database RowKey ServiceError Unit Call}

/-- **Plans have their keys, and every session has its plan**, in every reachable configuration. -/
theorem planned_of_reachable (h : (system settings normalizeEmail).Reachable c) : Planned c.db := by
  refine (sound (E := amongPlans) (G := planCommit) (Q := fun _ _ _ => True)
    (X := fun _ _ _ => True) closed_amongPlans ?_ (fun call s _ => ?_) h).inv
  · rintro _ rfl
    exact planned_empty
  · exact ((call.planKeys s).and (call.keepsPlans s)).mono (fun _ _ _ => trivial)
      fun _ _ _ => trivial

end Playtests

end Rulefolio
