import Rulefolio.Playtests.Record

/-!
# What statements do to records

The record of a session and the row of an issue are views of the database. An `Effect` is a change
of these views: what it does to the record of each session and to the row of each issue, and which
participants it adds. Every statement of the services has one, most of them none.

Effects compose, so the effect of a transaction is the composition of those of its statements.

## Main definitions

* `Database.record`, `Database.issueRows`, `Database.places` — the views.
* `Effect`, `Effect.Relates` — changes of the views, and the states they relate.

## Main results

* `Effect.Relates.andThen` — composition.
* `relates_none_of_business` — todos and mails are not part of the views.
* `relates_writeSession` and its like — the effect of each statement.
-/

namespace Rulefolio

/-! ## Views -/

/-- A participant's key, and who they are in which session. -/
structure Place where
  id : Uuid
  sessionId : Uuid
  accountId : Uuid
  deriving DecidableEq, Repr

def PlaytestSessionParticipant.place (p : PlaytestSessionParticipant) : Place :=
  ⟨p.id, p.sessionId, p.accountId⟩

namespace Database

/-- Everything recorded about a session. -/
def record (db : Database) (n : Uuid) : Playtests.Record where
  rows := db.sessions.filter (·.id == n)
  materials := db.sessionMaterials.filter (·.sessionId == n)
  participants := (db.participants.map (·.forgetMail)).filter (·.sessionId == n)
  actualMaterials := db.actualMaterials.filter (·.sessionId == n)
  actualParticipants := db.actualParticipants.filter (·.sessionId == n)
  observations := db.observations.countP (·.sessionId == n)

/-- The row of an issue, if there is one. -/
def issueRows (db : Database) (k : Uuid) : List Issue :=
  db.issues.filter (·.id == k)

/-- Who takes part where. -/
def places (db : Database) : List Place :=
  db.participants.map (·.place)

/-- Every conclusion of a retest has a reason. -/
def Explained (db : Database) : Prop :=
  ∀ l ∈ db.retestLinks, l.conclusion.isSome → l.conclusionReason.isSome

end Database

namespace Playtests

/-! ## Effects -/

/-- Change one of a family of things. -/
def editAt {α : Type} (n : Uuid) (f : α → α) (m : Uuid) : α → α :=
  if m = n then f else id

@[simp] theorem editAt_self {α : Type} (n : Uuid) (f : α → α) : editAt n f n = f := by
  simp [editAt]

theorem editAt_of_ne {α : Type} {n m : Uuid} (h : m ≠ n) (f : α → α) : editAt n f m = id := by
  simp [editAt, h]

theorem editAt_comp {α : Type} (n m : Uuid) (f g : α → α) :
    editAt n g m ∘ editAt n f m = editAt n (g ∘ f) m := by
  by_cases h : m = n <;> simp [editAt, h]

/-- A change of the views. -/
structure Effect where
  session : Uuid → Record → Record
  issue : Uuid → List Issue → List Issue
  /-- The new participants. -/
  places : List Place

namespace Effect

/-- Nothing changes. -/
def none : Effect := ⟨fun _ => id, fun _ => id, []⟩

/-- One session changes. -/
def onSession (n : Uuid) (f : Record → Record) : Effect := ⟨editAt n f, fun _ => id, []⟩

/-- One issue changes. -/
def onIssue (k : Uuid) (f : List Issue → List Issue) : Effect := ⟨fun _ => id, editAt k f, []⟩

@[simp] theorem onSession_id (n : Uuid) : onSession n id = none := by
  have hid : editAt n (id : Record → Record) = fun _ => id := by
    funext m
    simp [editAt]
  rw [onSession, hid, none]

/-- One effect after the other. -/
def andThen (e e' : Effect) : Effect where
  session n := e'.session n ∘ e.session n
  issue k := e'.issue k ∘ e.issue k
  places := e'.places ++ e.places

@[simp] theorem andThen_none (e : Effect) : e.andThen none = e := rfl

@[simp] theorem none_andThen (e : Effect) : none.andThen e = e := by
  simp [andThen, none]

theorem onSession_andThen (n : Uuid) (f g : Record → Record) :
    (onSession n f).andThen (onSession n g) = onSession n (g ∘ f) := by
  simp only [andThen, onSession, editAt_comp, List.nil_append, Function.comp_id]

/-- The effect leads from one state to the other. -/
structure Relates (e : Effect) (db db' : Database) : Prop where
  session : ∀ n, db'.record n = e.session n (db.record n)
  issue : ∀ k, db'.issueRows k = e.issue k (db.issueRows k)
  places : db'.places = e.places ++ db.places
  explained : db.Explained → db'.Explained

theorem Relates.andThen {e e' : Effect} {db db' db'' : Database} (h : e.Relates db db')
    (h' : e'.Relates db' db'') : (e.andThen e').Relates db db'' where
  session n := by rw [h'.session, h.session]; rfl
  issue k := by rw [h'.issue, h.issue]; rfl
  places := by rw [h'.places, h.places, ← List.append_assoc]; rfl
  explained hdb := h'.explained (h.explained hdb)

theorem none_relates_refl (db : Database) : none.Relates db db :=
  ⟨fun _ => rfl, fun _ => rfl, rfl, id⟩

theorem none_relates_trans (db db' db'' : Database) (h : none.Relates db db')
    (h' : none.Relates db' db'') : none.Relates db db'' :=
  h.andThen h'

end Effect

open Effect

/-- A change of tables that the views do not show. -/
theorem relates_none {db db' : Database} (hsessions : db'.sessions = db.sessions)
    (hmaterials : db'.sessionMaterials = db.sessionMaterials)
    (hparticipants :
      db'.participants.map (·.forgetMail) = db.participants.map (·.forgetMail))
    (hactualMaterials : db'.actualMaterials = db.actualMaterials)
    (hactualParticipants : db'.actualParticipants = db.actualParticipants)
    (hobservations : db'.observations = db.observations) (hissues : db'.issues = db.issues)
    (hlinks : db'.retestLinks = db.retestLinks) : Effect.none.Relates db db' := by
  have hplaces : ∀ d : Database, d.places = (d.participants.map (·.forgetMail)).map (·.place) := by
    intro d
    rw [List.map_map]
    rfl
  refine ⟨fun n => ?_, fun k => ?_, ?_, ?_⟩
  · rw [Database.record, hsessions, hmaterials, hparticipants, hactualMaterials,
      hactualParticipants, hobservations]
    rfl
  · rw [Database.issueRows, hissues]
    rfl
  · rw [hplaces, hplaces, hparticipants]
    rfl
  · intro h l hl
    exact h l (hlinks ▸ hl)

/-- Todos and mails are not part of the views. -/
theorem relates_none_of_business {db db' : Database} (h : SameBusiness db db') :
    Effect.none.Relates db db' := by
  have hb : db'.business = db.business := h
  have hget : ∀ {α : Type} (f : Database → α), f db'.business = f db.business := fun f => by rw [hb]
  exact relates_none (hget (·.sessions)) (hget (·.sessionMaterials)) (hget (·.participants))
    (hget (·.actualMaterials)) (hget (·.actualParticipants)) (hget (·.observations))
    (hget (·.issues)) (hget (·.retestLinks))

/-! ## Statements on a session -/

variable (n : Uuid) (db : Database)

theorem relates_writeSession {change : PlaytestSession → PlaytestSession}
    (hid : ∀ s, (change s).id = s.id) :
    (onSession n (Record.mapRow change)).Relates db
      { db with sessions := Table.update (·.id == n) change db.sessions } := by
  refine ⟨fun m => ?_, fun _ => rfl, rfl, id⟩
  by_cases hm : m = n
  · subst hm
    rw [Database.record, Table.filter_update_self _ fun s hs => by rw [hid]; exact hs]
    simp [onSession, Record.mapRow, Database.record]
  · have hne : ∀ s : PlaytestSession, (s.id == n) = true → (s.id == m) = false := by
      intro s hs
      simp only [beq_iff_eq] at hs
      simp [hs, Ne.symm hm]
    rw [Database.record, Table.filter_update _ fun s hs => ⟨hne s hs, by rw [hid]; exact hne s hs⟩]
    simp [onSession, editAt_of_ne hm, Database.record]

/-- What is said of one session is said of all others by leaving them alone. -/
theorem relates_onSession {f : Record → Record} {db' : Database}
    (hself : db'.record n = f (db.record n)) (hother : ∀ m, m ≠ n → db'.record m = db.record m)
    (hissues : db'.issues = db.issues) (hplaces : db'.places = db.places)
    (hlinks : db'.retestLinks = db.retestLinks) : (onSession n f).Relates db db' := by
  refine ⟨fun m => ?_, fun k => ?_, hplaces, ?_⟩
  · by_cases hm : m = n
    · subst hm
      simpa [onSession] using hself
    · simpa [onSession, editAt_of_ne hm] using hother m hm
  · rw [Database.issueRows, hissues]
    rfl
  · intro h l hl
    exact h l (hlinks ▸ hl)

/-- Rows of one session do not show in the record of another. -/
theorem filter_append_of_ne {ρ : Type} {rows table : List ρ} {session : ρ → Uuid} {m : Uuid}
    (hrows : ∀ row ∈ rows, session row = n) (hm : m ≠ n) :
    (rows ++ table).filter (session · == m) = table.filter (session · == m) := by
  have hnil : rows.filter (session · == m) = [] :=
    List.filter_eq_nil_iff.2 fun row hrow => by simp [hrows row hrow, Ne.symm hm]
  rw [List.filter_append, hnil, List.nil_append]

theorem filter_append_self {ρ : Type} {rows table : List ρ} {session : ρ → Uuid}
    (hrows : ∀ row ∈ rows, session row = n) :
    (rows ++ table).filter (session · == n) = rows ++ table.filter (session · == n) := by
  rw [List.filter_append, List.filter_eq_self.2 fun row hrow => by simp [hrows row hrow]]

/-- Deleting the rows of one session leaves those of another. -/
theorem filter_delete_of_ne {ρ : Type} {table : List ρ} {session : ρ → Uuid} {m : Uuid}
    (hm : m ≠ n) :
    (Table.delete (session · == n) table).filter (session · == m) =
      table.filter (session · == m) := by
  refine Table.filter_delete _ fun row hrow => ?_
  simp only [beq_iff_eq] at hrow
  simp [hrow, hm]

theorem relates_deleteMaterials :
    (onSession n fun r => { r with materials := [] }).Relates db
      { db with sessionMaterials := Table.delete (·.sessionId == n) db.sessionMaterials } := by
  refine relates_onSession n db ?_ (fun m hm => ?_) rfl rfl rfl
  · rw [Database.record, Table.filter_delete_self]
    rfl
  · rw [Database.record, filter_delete_of_ne n hm]
    rfl

theorem relates_insertMaterials {rows : List PlaytestSessionMaterial}
    (hrows : ∀ row ∈ rows, row.sessionId = n) :
    (onSession n fun r => { r with materials := rows ++ r.materials }).Relates db
      { db with sessionMaterials := rows ++ db.sessionMaterials } := by
  refine relates_onSession n db ?_ (fun m hm => ?_) rfl rfl rfl
  · rw [Database.record, filter_append_self n hrows]
    rfl
  · rw [Database.record, filter_append_of_ne n hrows hm]
    rfl

theorem relates_deleteActualMaterials :
    (onSession n fun r => { r with actualMaterials := [] }).Relates db
      { db with actualMaterials := Table.delete (·.sessionId == n) db.actualMaterials } := by
  refine relates_onSession n db ?_ (fun m hm => ?_) rfl rfl rfl
  · rw [Database.record, Table.filter_delete_self]
    rfl
  · rw [Database.record, filter_delete_of_ne n hm]
    rfl

theorem relates_insertActualMaterials {rows : List PlaytestSessionActualMaterial}
    (hrows : ∀ row ∈ rows, row.sessionId = n) :
    (onSession n fun r => { r with actualMaterials := rows ++ r.actualMaterials }).Relates db
      { db with actualMaterials := rows ++ db.actualMaterials } := by
  refine relates_onSession n db ?_ (fun m hm => ?_) rfl rfl rfl
  · rw [Database.record, filter_append_self n hrows]
    rfl
  · rw [Database.record, filter_append_of_ne n hrows hm]
    rfl

theorem relates_deleteActualParticipants :
    (onSession n fun r => { r with actualParticipants := [] }).Relates db
      { db with actualParticipants := Table.delete (·.sessionId == n) db.actualParticipants } := by
  refine relates_onSession n db ?_ (fun m hm => ?_) rfl rfl rfl
  · rw [Database.record, Table.filter_delete_self]
    rfl
  · rw [Database.record, filter_delete_of_ne n hm]
    rfl

theorem relates_insertActualParticipants {rows : List PlaytestSessionActualParticipant}
    (hrows : ∀ row ∈ rows, row.sessionId = n) :
    (onSession n fun r => { r with actualParticipants := rows ++ r.actualParticipants }).Relates db
      { db with actualParticipants := rows ++ db.actualParticipants } := by
  refine relates_onSession n db ?_ (fun m hm => ?_) rfl rfl rfl
  · rw [Database.record, filter_append_self n hrows]
    rfl
  · rw [Database.record, filter_append_of_ne n hrows hm]
    rfl

theorem relates_insertObservation {observation : PlaytestObservation}
    (hsession : observation.sessionId = n) :
    (onSession n fun r => { r with observations := r.observations + 1 }).Relates db
      { db with observations := observation :: db.observations } := by
  refine relates_onSession n db ?_ (fun m hm => ?_) rfl rfl rfl
  · rw [Database.record, List.countP_cons_of_pos (by simp [hsession])]
    rfl
  · rw [Database.record, List.countP_cons_of_neg (by simp [hsession, Ne.symm hm])]
    rfl

/-- An observation may be rewritten, but not moved to another session. -/
theorem relates_updateObservation {p : PlaytestObservation → Bool}
    {change : PlaytestObservation → PlaytestObservation}
    (hsession : ∀ o, (change o).sessionId = o.sessionId) :
    Effect.none.Relates db
      { db with observations := Table.update p change db.observations } := by
  refine ⟨fun m => ?_, fun _ => rfl, rfl, id⟩
  rw [Database.record, Table.countP_update _ fun o => by rw [hsession]]
  rfl

/-- Confirming a participant of one session. -/
theorem relates_confirm {participantId : Uuid}
    (hkey : ∀ p ∈ db.places, p.id = participantId → p.sessionId = n) :
    (onSession n (Record.confirm participantId)).Relates db
      { db with
        participants := Table.update (·.id == participantId)
          (fun p => { p with status := .confirmed }) db.participants } := by
  have hforget : (Table.update (·.id == participantId)
        (fun p : PlaytestSessionParticipant => { p with status := .confirmed })
        db.participants).map (·.forgetMail) =
      Table.update (·.id == participantId) (fun p => { p with status := .confirmed })
        (db.participants.map (·.forgetMail)) := by
    rw [Table.update, Table.update, List.map_map, List.map_map]
    refine List.map_congr_left fun p _ => ?_
    by_cases hp : p.id = participantId <;>
      simp [PlaytestSessionParticipant.forgetMail, hp]
  have hfilter : ∀ m, ((Table.update (·.id == participantId)
        (fun p : PlaytestSessionParticipant => { p with status := .confirmed })
        (db.participants.map (·.forgetMail))).filter (·.sessionId == m)) =
      Table.update (·.id == participantId) (fun p => { p with status := .confirmed })
        ((db.participants.map (·.forgetMail)).filter (·.sessionId == m)) := by
    intro m
    rw [Table.update, Table.update, List.filter_map]
    congr 1
    refine List.filter_congr fun p _ => ?_
    by_cases hp : p.id = participantId <;> simp [hp]
  refine relates_onSession n db ?_ (fun m hm => ?_) rfl ?_ rfl
  · rw [Database.record, hforget, hfilter]
    rfl
  · rw [Database.record, hforget, hfilter]
    have hsame : Table.update (·.id == participantId)
          (fun p : PlaytestSessionParticipant => { p with status := .confirmed })
          ((db.participants.map (·.forgetMail)).filter (·.sessionId == m)) =
        (db.participants.map (·.forgetMail)).filter (·.sessionId == m) := by
      refine (List.map_congr_left fun p hp => ?_).trans (List.map_id _)
      obtain ⟨hp, hsession⟩ := List.mem_filter.1 hp
      obtain ⟨q, hq, rfl⟩ := List.mem_map.1 hp
      simp only [beq_iff_eq] at hsession
      have hne : q.forgetMail.id ≠ participantId := fun hid =>
        hm (hsession.symm.trans (hkey q.place (List.mem_map_of_mem hq) hid))
      simp [hne]
    rw [hsame]
    rfl
  · exact Table.map_update _ fun _ _ => rfl

/-- The mail a participant was last notified by is not part of the record. -/
theorem relates_setLatestOutbox (participantId outboxId : Uuid) :
    Effect.none.Relates db
      { db with
        participants := Table.update (·.id == participantId)
          (fun p => { p with latestOutboxId := some outboxId }) db.participants } :=
  relates_none rfl rfl (Table.map_update _ fun _ _ => rfl) rfl rfl rfl rfl rfl

/-! ## New sessions -/

theorem relates_insertSession (item : PlaytestSession) :
    (onSession item.id fun r => { r with rows := item :: r.rows }).Relates db
      { db with sessions := item :: db.sessions } := by
  refine ⟨fun m => ?_, fun _ => rfl, rfl, id⟩
  by_cases hm : m = item.id
  · subst hm
    rw [Database.record, List.filter_cons_of_pos (by simp)]
    simp [onSession, Database.record]
  · rw [Database.record, List.filter_cons_of_neg (by simp [Ne.symm hm])]
    simp [onSession, editAt_of_ne hm, Database.record]

/-- A new participant. -/
def addParticipant (p : PlaytestSessionParticipant) : Effect :=
  { onSession p.sessionId fun r => { r with participants := p.forgetMail :: r.participants } with
    places := [p.place] }

theorem relates_insertParticipant (p : PlaytestSessionParticipant) :
    (addParticipant p).Relates db { db with participants := p :: db.participants } := by
  refine ⟨fun m => ?_, fun _ => rfl, rfl, id⟩
  rw [Database.record, List.map_cons]
  by_cases hm : m = p.sessionId
  · rw [List.filter_cons_of_pos (by simp [PlaytestSessionParticipant.forgetMail, hm])]
    simp [addParticipant, onSession, editAt, hm, Database.record]
  · rw [List.filter_cons_of_neg
      (by simp [PlaytestSessionParticipant.forgetMail, Ne.symm hm])]
    simp [addParticipant, onSession, editAt_of_ne hm, Database.record]

/-! ## Statements on an issue -/

theorem relates_writeIssue (k : Uuid) {change : Issue → Issue} (hid : ∀ i, (change i).id = i.id) :
    (onIssue k (List.map change)).Relates db
      { db with issues := Table.update (·.id == k) change db.issues } := by
  refine ⟨fun _ => rfl, fun m => ?_, rfl, id⟩
  by_cases hm : m = k
  · subst hm
    rw [Database.issueRows, Table.filter_update_self _ fun i hi => by rw [hid]; exact hi]
    simp [onIssue, Database.issueRows]
  · have hne : ∀ i : Issue, (i.id == k) = true → (i.id == m) = false := by
      intro i hi
      simp only [beq_iff_eq] at hi
      simp [hi, Ne.symm hm]
    rw [Database.issueRows,
      Table.filter_update _ fun i hi => ⟨hne i hi, by rw [hid]; exact hne i hi⟩]
    simp [onIssue, editAt_of_ne hm, Database.issueRows]

theorem relates_insertIssue (issue : Issue) :
    (onIssue issue.id (List.cons issue)).Relates db
      { db with issues := issue :: db.issues } := by
  refine ⟨fun _ => rfl, fun m => ?_, rfl, id⟩
  by_cases hm : m = issue.id
  · subst hm
    rw [Database.issueRows, List.filter_cons_of_pos (by simp)]
    simp [onIssue, Database.issueRows]
  · rw [Database.issueRows, List.filter_cons_of_neg (by simp [Ne.symm hm])]
    simp [onIssue, editAt_of_ne hm, Database.issueRows]

/-- Links are written with a reason for every conclusion. -/
theorem relates_writeLinks {p : IssueRetestLink → Bool} {change : IssueRetestLink → IssueRetestLink}
    (hchange : ∀ l, (change l).conclusion.isSome → (change l).conclusionReason.isSome) :
    Effect.none.Relates db
      { db with retestLinks := Table.update p change db.retestLinks } := by
  refine ⟨fun _ => rfl, fun _ => rfl, rfl, fun h => ?_⟩
  exact Table.forall_update h fun l _ _ _ => hchange l

theorem relates_insertLink {link : IssueRetestLink} (hlink : link.conclusion = Option.none) :
    Effect.none.Relates db { db with retestLinks := link :: db.retestLinks } := by
  refine ⟨fun _ => rfl, fun _ => rfl, rfl, fun h l hl => ?_⟩
  rcases List.mem_cons.1 hl with rfl | hl
  · simp [hlink]
  · exact h l hl

end Playtests

end Rulefolio
