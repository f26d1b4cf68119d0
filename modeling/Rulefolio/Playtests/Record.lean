import Rulefolio.Playtests.Service

/-!
# The life of a playtest session

An abstract account of one session, independent of tables, locks and interleavings: its row with
everything recorded about it (`Record`), and the changes it may go through (`Transition`). A
transition that carries an expected revision is labelled with it; creation and confirmation carry
none.

The services are shown to refine this machine in `Playtests.Soundness`. Here the machine itself is
shown to do what sessions are for.

## Main definitions

* `Record`, `Transition` — the machine.
* `Record.Sound` — its invariant.

## Main results

* `Transition.sound` — the invariant is kept.
* `Transition.revision` — a labelled transition raises the revision by one from its label.
* `Transition.status`, `Transition.frozen` — the life cycle, and what it freezes.
* `Transition.stays_confirmed` — a confirmation is never taken back.
-/

namespace Rulefolio

/-! ## Parts of a session's row -/

/-- What was agreed for a session: the plan it belongs to, when, where and for how many, and the
snapshot of the work and its rules. -/
structure Arrangement where
  planId : Uuid
  workspaceId : Uuid
  workId : Uuid
  scheduledAt : Timestamp
  location : String
  capacity : ℕ
  observationGoals : String
  recordingMethod : String
  workName : String
  ruleName : String
  ruleDescription : Option String
  ruleContent : String
  deriving DecidableEq, Repr

/-- What was agreed for a session. -/
def PlaytestSession.arrangement (s : PlaytestSession) : Arrangement where
  planId := s.planId
  workspaceId := s.workspaceId
  workId := s.workId
  scheduledAt := s.scheduledAt
  location := s.location
  capacity := s.capacity
  observationGoals := s.observationGoals
  recordingMethod := s.recordingMethod
  workName := s.workName
  ruleName := s.ruleName
  ruleDescription := s.ruleDescription
  ruleContent := s.ruleContent

/-- The row without the result of the session. -/
def PlaytestSession.withoutResult (s : PlaytestSession) : PlaytestSession :=
  { s with
    actualHeadcount := none
    actualDurationMinutes := none
    completionStatus := none
    actualPlayMode := none
    actualMaterialRecorded := false
    actualRuleName := none
    actualRuleDescription := none
    actualRuleContent := none
    actualMaterialChangeReason := none }

namespace Playtests

/-! ## The machine -/

/-- Everything recorded about one session: its row (none or one), and the rows of other tables
that belong to it. -/
@[ext]
structure Record where
  rows : List PlaytestSession
  materials : List PlaytestSessionMaterial
  /-- Without the references to their mails. -/
  participants : List PlaytestSessionParticipant
  actualMaterials : List PlaytestSessionActualMaterial
  actualParticipants : List PlaytestSessionActualParticipant
  /-- How many observations there are. -/
  observations : ℕ

namespace Record

/-- There is no such session. -/
def empty : Record := ⟨[], [], [], [], [], 0⟩

/-- How many participants have confirmed. -/
def confirmed (r : Record) : ℕ :=
  r.participants.countP (·.status == .confirmed)

/-- Change the row. -/
def mapRow (f : PlaytestSession → PlaytestSession) (r : Record) : Record :=
  { r with rows := r.rows.map f }

theorem rows_mapRow {r : Record} {s : PlaytestSession} (hs : r.rows = [s])
    (f : PlaytestSession → PlaytestSession) : (r.mapRow f).rows = [f s] := by
  rw [mapRow, hs, List.map_singleton]

/-- Only what a change does to the row there is matters. -/
theorem mapRow_congr {r : Record} {s : PlaytestSession} (hs : r.rows = [s])
    {f f' : PlaytestSession → PlaytestSession} (h : f s = f' s) : r.mapRow f = r.mapRow f' := by
  rw [mapRow, mapRow, hs, List.map_singleton, List.map_singleton, h]

/-- Confirm a participant. -/
def confirm (participantId : Uuid) (r : Record) : Record :=
  { r with
    participants := Table.update (·.id == participantId) (fun p => { p with status := .confirmed })
      r.participants }

/-- Nothing of what happened in the session is recorded. -/
structure Unplayed (r : Record) : Prop where
  rows : ∀ s ∈ r.rows, s.withoutResult = s
  actualMaterials : r.actualMaterials = []
  actualParticipants : r.actualParticipants = []
  observations : r.observations = 0

theorem unplayed_empty : empty.Unplayed := by
  refine ⟨fun s hs => ?_, rfl, rfl, rfl⟩
  cases hs

/-- The session was started. -/
def Started (r : Record) : Prop :=
  ∃ s, r.rows = [s] ∧ s.status = .started

/-- The invariant of the machine. -/
structure Sound (r : Record) : Prop where
  unique : r.rows.length ≤ 1
  absent : r.rows = [] → r = empty
  /-- **No overbooking.** -/
  capacity : ∀ s ∈ r.rows, r.confirmed ≤ s.capacity
  startedAt : ∀ s ∈ r.rows, s.startedAt.isSome ↔ s.status = .started
  unplayed : ∀ s ∈ r.rows, s.status ≠ .started → r.Unplayed
  keys : (r.participants.map (·.id)).Nodup

theorem sound_empty : empty.Sound := by
  refine ⟨?_, fun _ => rfl, ?_, ?_, ?_, ?_⟩ <;> simp [empty]

end Record

/-- A session as it is created. -/
structure IsNew (r : Record) (s : PlaytestSession) : Prop where
  rows : r.rows = [s]
  status : s.status = .scheduled
  revision : s.revision = 1
  startedAt : s.startedAt = none
  unplayed : r.Unplayed
  invited : ∀ p ∈ r.participants, p.status = .invited

/-- One change of a session. The label is the revision the caller expects, if it gives one. -/
inductive Transition : Option ℤ → Record → Record → Prop
  | stays (r : Record) : Transition none r r
  | created (r : Record) (s : PlaytestSession) (hnew : IsNew r s)
      (hkeys : (r.participants.map (·.id)).Nodup) : Transition none .empty r
  | confirmed (r : Record) (s : PlaytestSession) (hs : r.rows = [s])
      (hstatus : s.status = .scheduled) (hseat : r.confirmed < s.capacity) (participantId : Uuid) :
      Transition none r (r.confirm participantId)
  | arranged (r : Record) (s : PlaytestSession) (hs : r.rows = [s])
      (hstatus : s.status = .scheduled) (scheduledAt : Timestamp) (location : String)
      (capacity : ℕ) (hcapacity : r.confirmed ≤ capacity) :
      Transition (some s.revision) r (r.mapRow fun s => { s with
        scheduledAt := scheduledAt
        location := location
        capacity := capacity
        revision := s.revision + 1 })
  | rewritten (r : Record) (s : PlaytestSession) (hs : r.rows = [s])
      (hstatus : s.status = .scheduled) (snapshot : Works.PlaytestRuleSnapshot)
      (materials : List PlaytestSessionMaterial) :
      Transition (some s.revision) r { r.mapRow (fun s => { s with
          workName := snapshot.workName
          ruleName := snapshot.ruleName
          ruleDescription := snapshot.ruleDescription
          ruleContent := snapshot.ruleContent
          revision := s.revision + 1 }) with materials := materials }
  | started (r : Record) (s : PlaytestSession) (hs : r.rows = [s])
      (hstatus : s.status = .scheduled) (now : Timestamp) :
      Transition (some s.revision) r (r.mapRow fun s => { s with
        status := .started, startedAt := some now, revision := s.revision + 1 })
  | cancelled (r : Record) (s : PlaytestSession) (hs : r.rows = [s])
      (hstatus : s.status = .scheduled) :
      Transition (some s.revision) r (r.mapRow fun s => { s with
        status := .cancelled, revision := s.revision + 1 })
  | recorded (r : Record) (s : PlaytestSession) (hs : r.rows = [s])
      (hstatus : s.status = .started) (draft : ResultDraft)
      (actualMaterials : List PlaytestSessionActualMaterial)
      (actualParticipants : List PlaytestSessionActualParticipant) :
      Transition (some s.revision) r { r.mapRow (fun s =>
          recordResult draft (s.revision + 1) s) with
        actualMaterials := actualMaterials
        actualParticipants := actualParticipants }
  | observed (r : Record) (s : PlaytestSession) (hs : r.rows = [s])
      (hstatus : s.status = .started) (observations : ℕ) :
      Transition (some s.revision) r
        { r.mapRow (fun s => { s with revision := s.revision + 1 }) with
          observations := observations }

/-! ## The invariant -/

/-- An update of participants by their key confirms at most one more. -/
theorem Record.confirmed_confirm_le {r : Record} (hkeys : (r.participants.map (·.id)).Nodup)
    (participantId : Uuid) : (r.confirm participantId).confirmed ≤ r.confirmed + 1 := by
  suffices H : ∀ ps : List PlaytestSessionParticipant, (ps.map (·.id)).Nodup →
      (Table.update (·.id == participantId) (fun p => { p with status := .confirmed }) ps).countP
        (·.status == .confirmed) ≤ ps.countP (·.status == .confirmed) + 1 from H _ hkeys
  intro ps hps
  induction ps with
  | nil => simp
  | cons p ps ih =>
    rw [List.map_cons, List.nodup_cons] at hps
    by_cases hp : p.id = participantId
    · -- No other participant has this key, so the rest is left alone.
      have hrest : Table.update (·.id == participantId)
          (fun p => { p with status := .confirmed }) ps = ps := by
        refine (List.map_congr_left fun q hq => ?_).trans (List.map_id _)
        have hne : q.id ≠ participantId := fun h =>
          hps.1 (hp ▸ h ▸ List.mem_map_of_mem hq)
        simp [hne]
      rw [Table.update_cons, hrest]
      simp only [List.countP_cons]
      split <;> split <;> omega
    · have hne : (p.id == participantId) = false := by simp [hp]
      have := ih hps.2
      rw [Table.update_cons, hne]
      simp only [List.countP_cons, Bool.false_eq_true, if_false]
      omega

theorem Record.confirm_keys (r : Record) (participantId : Uuid) :
    (r.confirm participantId).participants.map (·.id) = r.participants.map (·.id) :=
  Table.map_update _ fun _ _ => rfl

/-- The invariant of a record whose only row was changed. -/
theorem Record.Sound.mapRow {r : Record} {s : PlaytestSession} (h : r.Sound) (hs : r.rows = [s])
    (f : PlaytestSession → PlaytestSession) (hcapacity : r.confirmed ≤ (f s).capacity)
    (hstarted : (f s).startedAt.isSome ↔ (f s).status = .started)
    (hresult : (f s).status ≠ .started → r.Unplayed ∧ (f s).withoutResult = f s.withoutResult) :
    (r.mapRow f).Sound := by
  have hrows : (r.mapRow f).rows = [f s] := by simp [Record.mapRow, hs]
  refine ⟨by simp [hrows], by simp [hrows], ?_, ?_, ?_, h.keys⟩
  · intro t ht
    rw [hrows, List.mem_singleton] at ht
    exact ht ▸ hcapacity
  · intro t ht
    rw [hrows, List.mem_singleton] at ht
    exact ht ▸ hstarted
  · intro t ht hstatus
    rw [hrows, List.mem_singleton] at ht
    subst ht
    obtain ⟨hr, hres⟩ := hresult hstatus
    refine ⟨fun u hu => ?_, hr.actualMaterials, hr.actualParticipants, hr.observations⟩
    rw [hrows, List.mem_singleton] at hu
    rw [hu, hres, hr.rows s (by simp [hs])]

/-- A row that was started has nothing to show for the invariant but its capacity. -/
theorem Record.Sound.of_started {r r' : Record} {s s' : PlaytestSession} (h : r.Sound)
    (hs : r.rows = [s]) (hstatus : s.status = .started) (hs' : r'.rows = [s'])
    (hstatus' : s'.status = s.status) (hstartedAt : s'.startedAt = s.startedAt)
    (hcapacity : s'.capacity = s.capacity) (hparticipants : r'.participants = r.participants) :
    r'.Sound := by
  have hmem : s ∈ r.rows := by simp [hs]
  refine ⟨by simp [hs'], by simp [hs'], ?_, ?_, ?_, hparticipants ▸ h.keys⟩
  · intro t ht
    rw [hs', List.mem_singleton] at ht
    subst ht
    have := h.capacity s hmem
    rwa [Record.confirmed, hparticipants, hcapacity]
  · intro t ht
    rw [hs', List.mem_singleton] at ht
    subst ht
    rw [hstartedAt, hstatus']
    exact h.startedAt s hmem
  · intro t ht hne
    rw [hs', List.mem_singleton] at ht
    subst ht
    exact absurd (hstatus'.trans hstatus) hne

/-- **The invariant is kept.** -/
theorem Transition.sound {label : Option ℤ} {r r' : Record} (h : Transition label r r')
    (hr : r.Sound) : r'.Sound := by
  cases h with
  | stays => exact hr
  | created _ s hnew hkeys =>
    refine ⟨by simp [hnew.rows], by simp [hnew.rows], ?_, ?_, fun _ _ _ => hnew.unplayed, hkeys⟩
    · intro t _
      have : r'.confirmed = 0 := List.countP_eq_zero.2 fun p hp => by simp [hnew.invited p hp]
      omega
    · intro t ht
      rw [hnew.rows, List.mem_singleton] at ht
      subst ht
      simp [hnew.startedAt, hnew.status]
  | confirmed _ s hs hstatus hseat participantId =>
    have hmem : s ∈ r.rows := by simp [hs]
    have hun := hr.unplayed s hmem (by simp [hstatus])
    refine ⟨hr.unique, ?_, ?_, hr.startedAt,
      fun _ _ _ => ⟨hun.rows, hun.actualMaterials, hun.actualParticipants, hun.observations⟩, ?_⟩
    · intro hnil
      rw [Record.confirm] at hnil
      simp [hs] at hnil
    · intro t ht
      have ht' : t ∈ r.rows := ht
      rw [hs, List.mem_singleton] at ht'
      subst ht'
      exact (Record.confirmed_confirm_le hr.keys participantId).trans hseat
    · rw [Record.confirm_keys]
      exact hr.keys
  | arranged _ s hs hstatus scheduledAt location capacity hcapacity =>
    have hmem : s ∈ r.rows := by simp [hs]
    have hun := hr.unplayed s hmem (by simp [hstatus])
    exact hr.mapRow hs _ hcapacity (hr.startedAt s hmem) fun _ => ⟨hun, rfl⟩
  | rewritten _ s hs hstatus snapshot materials =>
    have hmem : s ∈ r.rows := by simp [hs]
    have hun := hr.unplayed s hmem (by simp [hstatus])
    have h := hr.mapRow hs (fun s => { s with
        workName := snapshot.workName
        ruleName := snapshot.ruleName
        ruleDescription := snapshot.ruleDescription
        ruleContent := snapshot.ruleContent
        revision := s.revision + 1 }) (hr.capacity s hmem) (hr.startedAt s hmem) fun _ =>
      ⟨hun, rfl⟩
    exact ⟨h.unique, fun hnil => absurd hnil (by simp [Record.mapRow, hs]), h.capacity, h.startedAt,
      fun t ht hne => let u := h.unplayed t ht hne
        ⟨u.rows, u.actualMaterials, u.actualParticipants, u.observations⟩, h.keys⟩
  | started _ s hs hstatus now =>
    exact hr.mapRow hs _ (hr.capacity s (by simp [hs])) (by simp) fun hne => absurd rfl hne
  | cancelled _ s hs hstatus =>
    have hmem : s ∈ r.rows := by simp [hs]
    have hun := hr.unplayed s hmem (by simp [hstatus])
    have hstarted : s.startedAt.isSome ↔ SessionStatus.cancelled = .started := by
      have := hr.startedAt s hmem
      rw [hstatus] at this
      simpa using this
    exact hr.mapRow hs _ (hr.capacity s hmem) hstarted fun _ => ⟨hun, rfl⟩
  | recorded _ s hs hstatus draft actualMaterials actualParticipants =>
    have hrow := Record.rows_mapRow hs fun s => recordResult draft (s.revision + 1) s
    exact hr.of_started hs hstatus hrow rfl rfl rfl rfl
  | observed _ s hs hstatus observations =>
    have hrow := Record.rows_mapRow hs fun s => { s with revision := s.revision + 1 }
    exact hr.of_started hs hstatus hrow rfl rfl rfl rfl

/-! ## Revisions -/

/-- **A transition that expects a revision raises it by one.** -/
theorem Transition.revision {e : ℤ} {r r' : Record} (h : Transition (some e) r r') :
    ∃ s s', r.rows = [s] ∧ r'.rows = [s'] ∧ s'.id = s.id ∧ (s.revision : ℤ) = e ∧
      s'.revision = s.revision + 1 := by
  cases h with
  | arranged _ s hs => exact ⟨s, _, hs, Record.rows_mapRow hs _, rfl, rfl, rfl⟩
  | rewritten _ s hs => exact ⟨s, _, hs, Record.rows_mapRow hs _, rfl, rfl, rfl⟩
  | started _ s hs => exact ⟨s, _, hs, Record.rows_mapRow hs _, rfl, rfl, rfl⟩
  | cancelled _ s hs => exact ⟨s, _, hs, Record.rows_mapRow hs _, rfl, rfl, rfl⟩
  | recorded _ s hs => exact ⟨s, _, hs, Record.rows_mapRow hs _, rfl, rfl, rfl⟩
  | observed _ s hs => exact ⟨s, _, hs, Record.rows_mapRow hs _, rfl, rfl, rfl⟩

/-! ## Life cycle -/

/-- **The life cycle.** A row stays, with a status that changes from scheduled to started or
cancelled only, and the time of the start is set by starting only. -/
theorem Transition.status {label : Option ℤ} {r r' : Record} (h : Transition label r r')
    {s : PlaytestSession} (hs : r.rows = [s]) :
    ∃ s', r'.rows = [s'] ∧ s'.id = s.id ∧
      (s'.status = s.status ∧ s'.startedAt = s.startedAt ∨
        s.status = .scheduled ∧ s'.status = .started ∧ s'.startedAt.isSome ∨
        s.status = .scheduled ∧ s'.status = .cancelled ∧ s'.startedAt = s.startedAt) := by
  cases h with
  | stays => exact ⟨s, hs, rfl, .inl ⟨rfl, rfl⟩⟩
  | created => simp [Record.empty] at hs
  | confirmed => exact ⟨s, hs, rfl, .inl ⟨rfl, rfl⟩⟩
  | arranged => exact ⟨_, Record.rows_mapRow hs _, rfl, .inl ⟨rfl, rfl⟩⟩
  | rewritten => exact ⟨_, Record.rows_mapRow hs _, rfl, .inl ⟨rfl, rfl⟩⟩
  | started _ t ht hstatus =>
    obtain rfl : t = s := by simpa [ht] using hs
    exact ⟨_, Record.rows_mapRow hs _, rfl, .inr (.inl ⟨hstatus, rfl, rfl⟩)⟩
  | cancelled _ t ht hstatus =>
    obtain rfl : t = s := by simpa [ht] using hs
    exact ⟨_, Record.rows_mapRow hs _, rfl, .inr (.inr ⟨hstatus, rfl, rfl⟩)⟩
  | recorded => exact ⟨_, Record.rows_mapRow hs _, rfl, .inl ⟨rfl, rfl⟩⟩
  | observed => exact ⟨_, Record.rows_mapRow hs _, rfl, .inl ⟨rfl, rfl⟩⟩

theorem Transition.stays_started {label : Option ℤ} {r r' : Record} (h : Transition label r r')
    (hr : r.Started) : r'.Started := by
  obtain ⟨s, hs, hstatus⟩ := hr
  obtain ⟨s', hs', -, hsame | ⟨hne, -⟩ | ⟨hne, -⟩⟩ := h.status hs
  · exact ⟨s', hs', hsame.1.trans hstatus⟩
  · rw [hstatus] at hne
    cases hne
  · rw [hstatus] at hne
    cases hne

/-- **What is no longer scheduled is frozen**: the arrangement, the planned materials, the
participants and their statuses. -/
theorem Transition.frozen {label : Option ℤ} {r r' : Record} (h : Transition label r r')
    {s : PlaytestSession} (hs : r.rows = [s]) (hstatus : s.status ≠ .scheduled) :
    (∀ s' ∈ r'.rows, s'.arrangement = s.arrangement) ∧ r'.materials = r.materials ∧
      r'.participants = r.participants := by
  have hopen : ∀ {t : PlaytestSession}, r.rows = [t] → t.status = .scheduled → False := by
    intro t ht ht'
    obtain rfl : t = s := by simpa [ht] using hs
    exact hstatus ht'
  have hrow : ∀ f : PlaytestSession → PlaytestSession, (f s).arrangement = s.arrangement →
      ∀ s' ∈ r.rows.map f, s'.arrangement = s.arrangement := by
    intro f hf s' hs'
    rw [hs, List.map_singleton, List.mem_singleton] at hs'
    exact hs' ▸ hf
  cases h with
  | stays => exact ⟨fun s' hs' => by rw [hs, List.mem_singleton] at hs'; rw [hs'], rfl, rfl⟩
  | created => simp [Record.empty] at hs
  | confirmed _ t ht ht' => exact (hopen ht ht').elim
  | arranged _ t ht ht' => exact (hopen ht ht').elim
  | rewritten _ t ht ht' => exact (hopen ht ht').elim
  | started _ t ht ht' => exact (hopen ht ht').elim
  | cancelled _ t ht ht' => exact (hopen ht ht').elim
  | recorded _ _ _ _ draft => exact ⟨hrow _ rfl, rfl, rfl⟩
  | observed => exact ⟨hrow _ rfl, rfl, rfl⟩

/-- **A confirmation is never taken back**, and no participant ever leaves. -/
theorem Transition.stays_confirmed {label : Option ℤ} {r r' : Record} (h : Transition label r r')
    {p : PlaytestSessionParticipant} (hp : p ∈ r.participants) :
    ∃ p' ∈ r'.participants, p'.id = p.id ∧ p'.accountId = p.accountId ∧
      (p.status = .confirmed → p'.status = .confirmed) := by
  cases h with
  | created => simp [Record.empty] at hp
  | confirmed _ _ _ _ _ participantId =>
    by_cases hid : p.id = participantId
    · refine ⟨{ p with status := .confirmed }, ?_, rfl, rfl, fun _ => rfl⟩
      exact Table.mem_update.2 (.inl ⟨p, hp, by simp [hid], rfl⟩)
    · exact ⟨p, Table.mem_update.2 (.inr ⟨hp, by simp [hid]⟩), rfl, rfl, id⟩
  | _ => exact ⟨p, hp, rfl, rfl, id⟩

end Playtests

end Rulefolio
