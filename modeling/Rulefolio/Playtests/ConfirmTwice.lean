import Rulefolio.Library.History
import Rulefolio.Library.OwnSteps
import Rulefolio.Playtests.Service

/-!
# Confirming twice

`confirm_participation` loads the participant, locks the session, and loads the participant again.
The second load finds the object of the first one in the session of the request, and keeps its
columns. When another request of the same account has confirmed the participant in between, the call
goes on with a participant who has not confirmed. It refuses them where the seats are taken, and
otherwise counts them twice.

## Main definitions

* `Confirmation`, `confirmations` — any number of these calls, interleaved.
* `firstRead` — whether a call has found its participant confirmed.
* `Outdated` — a call goes on although its participant has been confirmed since.
* `Harmless` — what a step should do. A program is a finite tree, so a call that never raises
  returns at its end.

## Main results

* `confirm_twice_harmless` — without outdated steps every step is harmless.
-/

namespace Rulefolio

namespace Playtests

open ReadCommitted

/-! ## Seats -/

/-- What the calls look at of a participant. -/
@[ext] structure Seat where
  id : Uuid
  sessionId : Uuid
  accountId : Uuid
  isConfirmed : Bool
  deriving DecidableEq, Repr

/-- The seat of a participant. -/
def seatOf (p : PlaytestSessionParticipant) : Seat :=
  ⟨p.id, p.sessionId, p.accountId, p.status == .confirmed⟩

/-- The seats of all participants. -/
def seats (db : Database) : List Seat :=
  db.participants.map seatOf

/-- Confirm a seat. -/
def Seat.confirm (s : Seat) : Seat :=
  { s with isConfirmed := true }

/-- The seats with one of them confirmed. -/
def confirmSeat (id : Uuid) : List Seat → List Seat :=
  Table.update (·.id == id) Seat.confirm

/-- The unique indexes of the tables. -/
structure Distinct (db : Database) : Prop where
  sessions : (db.sessions.map (·.id)).Nodup
  ids : ((seats db).map (·.id)).Nodup
  accounts : ((seats db).map fun s => (s.sessionId, s.accountId)).Nodup

theorem confirmedCount_eq_seats (n : Uuid) (db : Database) :
    confirmedCount n db = (seats db).countP fun s => s.sessionId == n && s.isConfirmed := by
  rw [confirmedCount, seats, List.countP_map]
  rfl

theorem seats_confirm (id : Uuid) (db : Database) :
    seats { db with
      participants := Table.update (·.id == id) (fun p => { p with status := .confirmed })
        db.participants } = confirmSeat id (seats db) := by
  rw [seats, confirmSeat, Table.update, Table.update, seats, List.map_map, List.map_map]
  refine List.map_congr_left fun p _ => ?_
  by_cases hid : p.id = id <;> simp [seatOf, Seat.confirm, hid]

theorem map_confirmSeat {κ : Type} {f : Seat → κ} (h : ∀ s, f s.confirm = f s) (id : Uuid)
    (l : List Seat) : (confirmSeat id l).map f = l.map f :=
  Table.map_update l fun s _ => h s

/-- Confirming a seat that was not confirmed adds one to the count. -/
theorem countP_confirmSeat {l : List Seat} (hids : (l.map (·.id)).Nodup) {s : Seat} (hs : s ∈ l)
    (hfree : s.isConfirmed = false) :
    (confirmSeat s.id l).countP (fun t => t.sessionId == s.sessionId && t.isConfirmed) =
      l.countP (fun t => t.sessionId == s.sessionId && t.isConfirmed) + 1 := by
  induction l with
  | nil => cases hs
  | cons t l ih =>
    rw [List.map_cons, List.nodup_cons] at hids
    rw [confirmSeat, Table.update_cons, ← confirmSeat, List.countP_cons, List.countP_cons]
    rcases List.mem_cons.1 hs with rfl | hs
    · -- The other seats have other identifiers.
      have hrest : confirmSeat s.id l = l := Table.update_eq_self fun t ht => by
        rw [beq_eq_false_iff_ne]
        exact fun hid => hids.1 (hid ▸ List.mem_map_of_mem ht)
      rw [hrest]
      simp [Seat.confirm, hfree]
    · have hne : t.id ≠ s.id := fun hid => hids.1 (hid ▸ List.mem_map_of_mem hs)
      rw [ih hids.2 hs]
      simp [hne]
      omega

/-! ## The calls -/

/-- A call of `confirm_participation`. -/
structure Confirmation where
  now : Timestamp
  actorId : Uuid
  sessionId : Uuid
  deriving DecidableEq, Repr

namespace Confirmation

/-- Its code. -/
def program (op : Confirmation) : Program ConfirmationData :=
  confirmParticipation op.now op.actorId op.sessionId

/-- The seat of the caller is confirmed. -/
def holds (op : Confirmation) (s : Seat) : Bool :=
  s.sessionId == op.sessionId && s.accountId == op.actorId

/-- Whether the caller is confirmed. -/
def isConfirmed (op : Confirmation) (db : Database) : Bool :=
  (seats db).any fun s => op.holds s && s.isConfirmed

/-- The session is still scheduled, in a workspace that is not in exit. None of these calls requests
an exit, and in a workspace in exit nobody can confirm. -/
def isOpen (op : Confirmation) (db : Database) : Bool :=
  db.sessions.any fun s => s.id == op.sessionId && s.status == .scheduled &&
    exitAllowsWrite none s.workspaceId db

end Confirmation

/-- Any number of calls, from any database. -/
def confirmations :
    TransitionSystem (Config Database RowKey ServiceError ConfirmationData Confirmation)
      (ReadCommitted.Event Confirmation) :=
  ReadCommitted.system Distinct Confirmation.program

/-- Sessions and workspaces are as they were. -/
def SameTerms (db db' : Database) : Prop :=
  db'.sessions = db.sessions ∧ db'.workspaces = db.workspaces

theorem SameTerms.refl (db : Database) : SameTerms db db := ⟨rfl, rfl⟩

theorem SameTerms.trans {db db' db'' : Database} (h : SameTerms db db') (h' : SameTerms db' db'') :
    SameTerms db db'' :=
  ⟨h'.1.trans h.1, h'.2.trans h.2⟩

theorem SameTerms.exitAllowsWrite_eq {db db' : Database} (h : SameTerms db db') (workspaceId : Uuid) :
    exitAllowsWrite none workspaceId db' = exitAllowsWrite none workspaceId db := by
  rw [exitAllowsWrite, h.2, exitAllowsWrite]

theorem SameTerms.isOpen_eq {db db' : Database} (h : SameTerms db db') (op : Confirmation) :
    op.isOpen db' = op.isOpen db := by
  simp only [Confirmation.isOpen, h.1, h.exitAllowsWrite_eq]

/-- What a call may commit, for a session that is still scheduled: nothing of interest, or the
confirmation of the caller. -/
structure Confirms (op : Confirmation) (H : Set (RowKey × RowLock)) (db db' : Database) :
    Prop where
  terms : SameTerms db db'
  isOpen : op.isOpen db = true
  confirmed : op.isConfirmed db' = true
  seats : seats db' = seats db ∨ (.session op.sessionId, .update) ∈ H ∧
    ∃ s ∈ seats db, op.holds s = true ∧ Playtests.seats db' = confirmSeat s.id (Playtests.seats db)

/-- The guarantee of a call. -/
def confirms (op : Confirmation) : Tx.Guarantee Database RowKey := fun _ => Confirms op

theorem confirms_distinct {op : Confirmation} {n : ℕ} {H : Set (RowKey × RowLock)}
    {db db' : Database} (hdb : Distinct db) (h : confirms op n H db db') : Distinct db' := by
  have hsessions : (db'.sessions.map (·.id)).Nodup := h.terms.1 ▸ hdb.sessions
  rcases h.seats with hsame | ⟨-, s, -, -, hconfirmed⟩
  · exact ⟨hsessions, hsame ▸ hdb.ids, hsame ▸ hdb.accounts⟩
  · refine ⟨hsessions, ?_, ?_⟩
    · rw [hconfirmed, map_confirmSeat fun _ => rfl]
      exact hdb.ids
    · rw [hconfirmed, map_confirmSeat fun _ => rfl]
      exact hdb.accounts

/-! ## What the others do -/

/-- The environment of these calls. -/
abbrev amongConfirmations : Environment Database RowKey := environment Distinct confirms

/-- The seats have the same keys, and who was confirmed is. -/
def SeatsKept (db db' : Database) : Prop :=
  List.Forall₂ (fun s s' : Seat => s'.id = s.id ∧ s'.sessionId = s.sessionId ∧
    s'.accountId = s.accountId ∧ (s.isConfirmed = true → s'.isConfirmed = true))
    (seats db) (seats db')

theorem SeatsKept.refl (db : Database) : SeatsKept db db :=
  List.forall₂_same.2 fun _ _ => ⟨rfl, rfl, rfl, id⟩

theorem SeatsKept.trans {db db' db'' : Database} (h : SeatsKept db db') (h' : SeatsKept db' db'') :
    SeatsKept db db'' :=
  Table.forall₂_trans (fun _ _ _ ⟨hid, hsession, haccount, hc⟩ ⟨hid', hsession', haccount', hc'⟩ =>
    ⟨hid'.trans hid, hsession'.trans hsession, haccount'.trans haccount, fun h => hc' (hc h)⟩) h h'

theorem confirms_kept {op : Confirmation} {n : ℕ} {H : Set (RowKey × RowLock)} {db db' : Database}
    (h : confirms op n H db db') : SeatsKept db db' := by
  rcases h.seats with hsame | ⟨-, s, -, -, hconfirmed⟩
  · rw [SeatsKept, hsame]
    exact SeatsKept.refl db
  · rw [SeatsKept, hconfirmed]
    exact Table.forall₂_update (fun _ => ⟨rfl, rfl, rfl, id⟩)
      (fun _ _ => ⟨rfl, rfl, rfl, fun _ => rfl⟩) _

theorem kept_of_rely {H : Set (RowKey × RowLock)} {db db' : Database}
    (h : amongConfirmations.Rely H db db') : SeatsKept db db' :=
  relates_of_rely SeatsKept.refl (fun _ _ _ => SeatsKept.trans)
    (fun _ _ _ _ _ _ hG _ => confirms_kept hG) h

theorem sameTerms_of_rely {H : Set (RowKey × RowLock)} {db db' : Database}
    (h : amongConfirmations.Rely H db db') : SameTerms db db' :=
  relates_of_rely SameTerms.refl (fun _ _ _ => SameTerms.trans) (fun _ _ _ _ _ _ hG _ => hG.terms) h

/-- The seats of a session. -/
def seatsAt (n : Uuid) (db : Database) : List Seat :=
  (seats db).filter (·.sessionId == n)

/-- Whoever holds the lock of a session sees its seats stay the same. -/
theorem seatsAt_of_rely {H : Set (RowKey × RowLock)} {db db' : Database} {n : Uuid}
    (h : amongConfirmations.Rely H db db') (hlock : (.session n, .update) ∈ H) :
    seatsAt n db' = seatsAt n db := by
  refine relates_of_rely (R := fun db db' => seatsAt n db' = seatsAt n db) (fun _ => rfl)
    (fun s t u (h : seatsAt n t = seatsAt n s) (h' : seatsAt n u = seatsAt n t) => h'.trans h) ?_ h
  intro op _ H' s s' hs hG hc
  rcases hG.seats with hsame | ⟨hheld, seat, hseat, hholds, hconfirmed⟩
  · rw [seatsAt, hsame, seatsAt]
  · have hother : seat.sessionId ≠ n := by
      rintro rfl
      rw [Confirmation.holds, Bool.and_eq_true, beq_iff_eq] at hholds
      exact hc.symm.notMem hlock _ (hholds.1 ▸ hheld)
    rw [seatsAt, hconfirmed, seatsAt]
    refine Table.filter_update_of_mem _ fun t ht hid => ?_
    obtain rfl : t = seat := List.inj_on_of_nodup_map hs.ids ht hseat (beq_iff_eq.1 hid)
    exact ⟨beq_eq_false_iff_ne.2 hother, beq_eq_false_iff_ne.2 hother⟩

theorem confirmedCount_of_seatsAt {n : Uuid} {db db' : Database} (h : seatsAt n db' = seatsAt n db) :
    confirmedCount n db' = confirmedCount n db := by
  have hcount : ∀ d : Database, confirmedCount n d = (seatsAt n d).countP (·.isConfirmed) := by
    intro d
    rw [confirmedCount_eq_seats, seatsAt, List.countP_filter]
    exact List.countP_congr fun s _ => by rw [Bool.and_comm]
  rw [hcount, h, hcount]

/-- Who is confirmed stays so. -/
theorem isConfirmed_of_kept {op : Confirmation} {db db' : Database} (h : SeatsKept db db')
    (hconfirmed : op.isConfirmed db = true) : op.isConfirmed db' = true := by
  obtain ⟨s, hs, hholds⟩ := List.any_eq_true.1 hconfirmed
  obtain ⟨hforward, -⟩ := Table.forall₂_mem h
  obtain ⟨s', hs', -, hsession, haccount, hkept⟩ := hforward s hs
  rw [Bool.and_eq_true] at hholds
  refine List.any_eq_true.2 ⟨s', hs', ?_⟩
  rw [Confirmation.holds, hsession, haccount, ← Confirmation.holds, hholds.1, hkept hholds.2]
  rfl

/-! ## A call whose caller nobody else confirms -/

/-- The environment of a call while nobody else confirms its caller. -/
def undisturbed (op : Confirmation) : Environment Database RowKey where
  Inv := Distinct
  Rely H db db' := amongConfirmations.Rely H db db' ∧ op.isConfirmed db' = op.isConfirmed db
  refl H db := ⟨amongConfirmations.refl H db, rfl⟩
  trans h h' := ⟨amongConfirmations.trans h.1 h'.1, h'.2.trans h.2⟩
  anti hH h := ⟨amongConfirmations.anti hH h.1, h.2⟩

/-- What a call returns: confirmed, and the count in the state it commits. -/
def returnsRight (op : Confirmation) (data : ConfirmationData) (y : Point Database RowKey) : Prop :=
  data.status = .confirmed ∧ data.confirmedCount = confirmedCount op.sessionId y.db

/-- By whatever error, nobody is refused who has confirmed, while the session is open. -/
def refusesRight (op : Confirmation) (_ : ServiceError) (y : Point Database RowKey) : Prop :=
  op.isConfirmed y.db = true → op.isOpen y.db = false

/-- The seat of a participant among those of the caller. -/
theorem isConfirmed_iff {op : Confirmation} {db : Database} (hdb : Distinct db) {s : Seat}
    (hs : s ∈ seats db) (hholds : op.holds s = true) :
    op.isConfirmed db = s.isConfirmed := by
  rw [Bool.eq_iff_iff]
  constructor
  · intro h
    obtain ⟨t, ht, htholds⟩ := List.any_eq_true.1 h
    rw [Bool.and_eq_true] at htholds
    have hsame : t = s := by
      refine List.inj_on_of_nodup_map hdb.accounts ht hs ?_
      simp only [Confirmation.holds, Bool.and_eq_true, beq_iff_eq] at hholds htholds
      rw [hholds.1, hholds.2, htholds.1.1, htholds.1.2]
    exact hsame ▸ htholds.2
  · intro h
    exact List.any_eq_true.2 ⟨s, hs, by rw [hholds, h]; rfl⟩

/-- The other parts of the transaction leave the seats alone. -/
theorem seats_of_sameBusiness {db db' : Database} (h : SameBusiness db db') :
    seats db' = seats db := by
  have hmail : ∀ d : Database, seats d.business = seats d := by
    intro d
    rw [seats, Database.business, List.map_map]
    rfl
  rw [← hmail, h, hmail]

theorem sameTerms_of_sameBusiness {db db' : Database} (h : SameBusiness db db') :
    SameTerms db db' := by
  have hmail : ∀ d : Database, d.business.sessions = d.sessions ∧
      d.business.workspaces = d.workspaces := fun d => ⟨rfl, rfl⟩
  rw [SameTerms, ← (hmail db').1, ← (hmail db').2, h]
  exact hmail db

/-- The call holds the lock of the session, and knows of its participant what is the case. -/
structure Holding (op : Confirmation) (participant : PlaytestSessionParticipant)
    (item : PlaytestSession) (y : Point Database RowKey) : Prop where
  pending : y.pending = id
  lock : (.session op.sessionId, .update) ∈ y.locks
  seat : ∃ t ∈ seats y.db, t.id = participant.id ∧ op.holds t = true
  known : op.isConfirmed y.db = (participant.status == .confirmed)
  session : item ∈ y.db.sessions ∧ item.id = op.sessionId
  writable : exitAllowsWrite none item.workspaceId y.db = true

/-- The seat is still there later. -/
theorem seat_of_kept {op : Confirmation} {id : Uuid} {db db' : Database} (h : SeatsKept db db')
    (hseat : ∃ t ∈ seats db, t.id = id ∧ op.holds t = true) :
    ∃ t ∈ seats db', t.id = id ∧ op.holds t = true := by
  obtain ⟨t, ht, hid, hholds⟩ := hseat
  obtain ⟨t', ht', hid', hsession, haccount, -⟩ := (Table.forall₂_mem h).1 t ht
  refine ⟨t', ht', hid'.trans hid, ?_⟩
  rw [Confirmation.holds, hsession, haccount]
  exact hholds

section Holds

variable {op : Confirmation} {participant : PlaytestSessionParticipant} {item : PlaytestSession}
variable {y : Point Database RowKey}

theorem Holding.later (h : Holding op participant item y) {H : Set (RowKey × RowLock)}
    (hH : y.locks ⊆ H) {db : Database} (hr : (undisturbed op).Rely y.locks y.db db) :
    Holding op participant item { y with locks := H, db := db } := by
  have hterms := sameTerms_of_rely hr.1
  refine ⟨h.pending, hH h.lock, seat_of_kept (kept_of_rely hr.1) h.seat, hr.2.trans h.known, ?_,
    (hterms.exitAllowsWrite_eq _).trans h.writable⟩
  rw [hterms.1]
  exact h.session

/-- The count is the same as long as the lock is held. -/
theorem Holding.count (h : Holding op participant item y) {db : Database}
    (hr : (undisturbed op).Rely y.locks y.db db) :
    confirmedCount op.sessionId db = confirmedCount op.sessionId y.db :=
  confirmedCount_of_seatsAt (seatsAt_of_rely hr.1 h.lock)

/-- The session that was found is the one that is open or not. -/
theorem Holding.isOpen_eq (h : Holding op participant item y) (hdb : Distinct y.db) :
    op.isOpen y.db = (item.status == .scheduled) := by
  rw [Bool.eq_iff_iff, Confirmation.isOpen, List.any_eq_true]
  constructor
  · rintro ⟨s, hs, hopen⟩
    rw [Bool.and_eq_true, Bool.and_eq_true, beq_iff_eq] at hopen
    obtain rfl : s = item :=
      List.inj_on_of_nodup_map hdb.sessions hs h.session.1 (hopen.1.1.trans h.session.2.symm)
    exact hopen.1.2
  · intro hscheduled
    refine ⟨item, h.session.1, ?_⟩
    rw [h.session.2, hscheduled, h.writable, beq_self_eq_true]
    rfl

/-- The second load finds a row to lock. -/
theorem Holding.found (h : Holding op participant item y) :
    ((y.db.participants.find? fun p => p.id == participant.id && p.accountId == op.actorId &&
      exitAllowsSessionWrite op.sessionId y.db)).isSome = true := by
  have hadmits : exitAllowsSessionWrite op.sessionId y.db = true :=
    List.any_eq_true.2 ⟨item, h.session.1, by rw [h.session.2, h.writable, beq_self_eq_true]; rfl⟩
  obtain ⟨t, ht, hid, hholds⟩ := h.seat
  obtain ⟨p, hp, rfl⟩ := List.mem_map.1 ht
  rw [Confirmation.holds, Bool.and_eq_true] at hholds
  refine List.find?_isSome.2 ⟨p, hp, ?_⟩
  rw [Bool.and_eq_true, Bool.and_eq_true, beq_iff_eq]
  exact ⟨⟨hid, hholds.2⟩, hadmits⟩

/-- What a call does whose participant has confirmed: it changes nothing. -/
theorem confirmed_safe (h : Holding op participant item y)
    (hconfirmed : participant.status = .confirmed) (hscheduled : (item.status == .scheduled) = true)
    (capacity : ℕ) {X : ServiceError → Point Database RowKey → Prop} :
    (Tx.commitNow.bind fun _ => Tx.pure (⟨.confirmed, confirmedCount op.sessionId y.db, capacity⟩ :
      ConfirmationData) : Program ConfirmationData).Safe (undisturbed op) (confirms op)
        (returnsRight op) X y := by
  refine Tx.Safe.commitNow_bind fun db hdb hr => ?_
  have hlater := h.later subset_rfl hr
  rw [h.pending]
  refine ⟨⟨.refl _, (hlater.isOpen_eq hdb).trans hscheduled, hlater.known.trans ?_, .inl rfl⟩,
    Tx.Safe.pure ⟨rfl, (h.count hr).symm⟩⟩
  rw [hconfirmed]
  rfl

/-- What a call does whose participant has not: it takes a seat, if there is one. -/
theorem confirming_safe (h : Holding op participant item y)
    (hinvited : participant.status ≠ .confirmed) (hscheduled : (item.status == .scheduled) = true)
    (capacity : ℕ) :
    ((Tx.ensure (decide (confirmedCount op.sessionId y.db < capacity))
      .playtestCapacityExceeded).bind fun _ =>
      (updateRow (exitAllowsSessionWrite op.sessionId) fun db => { db with
        participants := Table.update (·.id == participant.id)
          (fun p => { p with status := .confirmed }) db.participants }).bind fun _ =>
      (Notifications.endAll none op.now (.completeTodoBySource op.actorId .playtestInvitation
        (.id participant.id))).bind fun _ =>
      Tx.commitNow.bind fun _ => Tx.pure
        (⟨.confirmed, confirmedCount op.sessionId y.db + 1, capacity⟩ : ConfirmationData) :
          Program ConfirmationData).Safe (undisturbed op) (confirms op)
            (returnsRight op) (fun e => refusesRight op (checkErrors e)) y := by
  have hfree : op.isConfirmed y.db = false := by
    rw [h.known, beq_eq_false_iff_ne]
    exact hinvited
  have hnobody : ∀ e z, op.isConfirmed z.db = false → refusesRight op e z := by
    intro e z hz hconfirmed
    rw [hz] at hconfirmed
    cases hconfirmed
  refine Tx.Safe.ensure_bind (fun _ => hnobody _ _ hfree) fun _ => ?_
  rw [updateRow]
  refine Tx.Safe.writeIf_bind (fun db _ hr => hnobody _ _ (hr.2.trans hfree))
    fun db hdb hr hadmits => ?_
  refine Tx.Within.safe_bind SameBusiness.refl (fun _ _ _ => SameBusiness.trans)
    (Notifications.endAll_within none op.now _) ?_ ?_
  · intro e z hz
    exact hnobody _ _ (hz.rely.2.trans (hr.2.trans hfree))
  · intro _ z _ hz
    refine Tx.Safe.commitNow_bind fun db' hdb' hr' => ?_
    have hrely := (undisturbed op).trans hr ((undisturbed op).trans hz.rely
      ((undisturbed op).anti hz.locks hr'))
    have hlater := h.later subset_rfl hrely
    obtain ⟨t, ht, hid, hholds⟩ := hlater.seat
    have hseats : seats (z.pending db') = confirmSeat t.id (seats db') := by
      rw [seats_of_sameBusiness (hz.pending db'), h.pending, hid]
      exact seats_confirm participant.id db'
    have hterms : SameTerms db' (z.pending db') := by
      have hsame := sameTerms_of_sameBusiness (hz.pending db')
      rw [h.pending] at hsame
      exact hsame
    have hconfirmed : op.isConfirmed (z.pending db') = true := by
      rw [Confirmation.isConfirmed, hseats]
      refine List.any_eq_true.2
        ⟨t.confirm, Table.mem_update.2 (.inl ⟨t, ht, beq_self_eq_true _, rfl⟩), ?_⟩
      rw [Bool.and_eq_true]
      exact ⟨hholds, rfl⟩
    refine ⟨⟨hterms, (hlater.isOpen_eq hdb').trans hscheduled, hconfirmed,
      .inr ⟨hz.locks h.lock, t, ht, hholds, hseats⟩⟩, Tx.Safe.pure ⟨rfl, ?_⟩⟩
    have htfree : t.isConfirmed = false := by
      rw [← isConfirmed_iff hdb' ht hholds]
      exact hlater.known.trans (beq_eq_false_iff_ne.2 hinvited)
    have hsession : t.sessionId = op.sessionId := by
      rw [Confirmation.holds, Bool.and_eq_true, beq_iff_eq] at hholds
      exact hholds.1
    show confirmedCount op.sessionId y.db + 1 = confirmedCount op.sessionId (z.pending db')
    rw [confirmedCount_eq_seats op.sessionId (z.pending db'), hseats, ← hsession,
      countP_confirmSeat hdb'.ids ht htfree, hsession, ← confirmedCount_eq_seats, h.count hrely]

end Holds

/-- A caller without a participant has not confirmed. -/
theorem isConfirmed_of_find?_eq_none {op : Confirmation} {db : Database}
    (h : (db.participants.find? fun p => p.sessionId == op.sessionId &&
      p.accountId == op.actorId) = none) : op.isConfirmed db = false := by
  rw [List.find?_eq_none] at h
  refine List.any_eq_false.2 fun s hs hholds => ?_
  obtain ⟨p, hp, rfl⟩ := List.mem_map.1 hs
  rw [Bool.and_eq_true] at hholds
  exact h p hp hholds.1

/-- A session that is not shown for locking is not open. -/
theorem isOpen_of_find?_eq_none {op : Confirmation} {db : Database}
    (h : (db.sessions.find? fun s => s.id == op.sessionId &&
      exitAllowsWrite none s.workspaceId db) = none) : op.isOpen db = false := by
  rw [List.find?_eq_none] at h
  refine List.any_eq_false.2 fun s hs hopen => h s hs ?_
  rw [Bool.and_eq_true, Bool.and_eq_true] at hopen
  rw [Bool.and_eq_true]
  exact ⟨hopen.1.1, hopen.2⟩

/-- **Undisturbed, a call does what it should.** -/
theorem program_safe (op : Confirmation) (s : Database) :
    op.program.Safe (undisturbed op) (confirms op) (returnsRight op) (refusesRight op)
      (Point.start s) := by
  have hclosed : ∀ e y, op.isOpen y.db = false → refusesRight op e y := fun _ _ h _ => h
  rw [Confirmation.program, confirmParticipation]
  simp only [Tx.bind_eq, Tx.pure_eq, participantSession, Tx.bind_assoc, Tx.pure_bind]
  refine Tx.Safe.mapError (Tx.Safe.read_bind fun s₀ hs₀ hr₀ => ?_)
  refine Tx.Safe.require_bind (fun hp hconfirmed => ?_) fun participant hp => ?_
  · have hfree : op.isConfirmed s₀ = false := isConfirmed_of_find?_eq_none hp
    exact absurd (hfree.symm.trans hconfirmed) (by decide)
  have hfound := List.find?_some hp
  simp only [Bool.and_eq_true, beq_iff_eq, Point.start, id_eq] at hfound hp
  have hseat : seatOf participant ∈ seats s₀ :=
    List.mem_map_of_mem (List.mem_of_find?_eq_some hp)
  have hholds : op.holds (seatOf participant) = true := by
    rw [Confirmation.holds, seatOf, Bool.and_eq_true, beq_iff_eq, beq_iff_eq]
    exact hfound
  -- The lock of the session.
  refine Tx.Safe.selectForUpdate_found_bind (fun s₁ _ _ hnone => ?_)
    fun row s₁ s₂ hs₁ hr₁ hrow hs₂ hr₂ => ?_
  · have hclosed₁ : op.isOpen s₁ = false := isOpen_of_find?_eq_none hnone
    exact Tx.Safe.raise (hclosed _ ⟨0, ∅, id, s₁⟩ hclosed₁)
  refine Tx.Safe.require_bind (fun hnone => hclosed _ _ (isOpen_of_find?_eq_none hnone))
    fun item hitem => ?_
  have hid := List.find?_some hitem
  have hrowid := List.find?_some hrow
  simp only [Bool.and_eq_true, beq_iff_eq, Point.start, id_eq] at hid hrowid hitem
  rw [hrowid.1]
  have hrely : (undisturbed op).Rely ∅ s₀ s₂ := (undisturbed op).trans hr₁ hr₂
  have hholding : Holding op participant item
      ⟨0, insert (.session op.sessionId, .update) ∅, id, s₂⟩ := by
    refine ⟨rfl, Set.mem_insert _ _, ?_, ?_, ⟨List.mem_of_find?_eq_some hitem, hid.1⟩, hid.2⟩
    · exact seat_of_kept (kept_of_rely hrely.1) ⟨_, hseat, rfl, hholds⟩
    · rw [hrely.2, isConfirmed_iff hs₀ hseat hholds]
      rfl
  -- From here on only a session that is no longer scheduled, or a new participant, is refused.
  rw [Workspaces.ensureAuthorizedWritable]
  simp only [Tx.bind_eq, Tx.bind_assoc]
  refine Tx.Safe.read_bind fun s₃ hs₃ hr₃ => ?_
  have hholding₃ := hholding.later subset_rfl hr₃
  refine Tx.Safe.ensure_bind (fun hrefused => ?_) fun _ => ?_
  · exact absurd (hholding₃.writable.symm.trans hrefused) (by decide)
  refine Tx.Safe.selectForUpdate_found_bind (fun s₄ _ hr₄ hnone => ?_)
    fun row s₄ s₅ _ hr₄ _ hs₅ hr₅ => ?_
  · have hagain := (hholding₃.later subset_rfl hr₄).found
    exact absurd hnone (Option.isSome_iff_ne_none.1 hagain)
  have hholding₅ := hholding₃.later (Set.subset_insert (.participant row.id, .update) _)
    ((undisturbed op).trans hr₄ hr₅)
  refine Tx.Safe.ensure_bind (fun hnone => absurd (hholding₅.found.symm.trans hnone) (by decide))
    fun _ => ?_
  refine Tx.Safe.ensure_bind (fun hstatus => hclosed _ _ ((hholding₅.isOpen_eq hs₅).trans hstatus))
    fun hscheduled => ?_
  refine Tx.Safe.read_bind fun s₆ hs₆ hr₆ => ?_
  have hholding₆ := hholding₅.later subset_rfl hr₆
  rw [hid.1]
  dsimp only [id_eq]
  split
  · rename_i hconfirmed
    exact confirmed_safe hholding₆ hconfirmed hscheduled item.capacity
  · rename_i hinvited
    exact confirming_safe hholding₆ hinvited hscheduled item.capacity

/-- A call returns with its commit. -/
theorem program_endsWithCommit (op : Confirmation) : op.program.EndsWithCommit := by
  rw [Confirmation.program, confirmParticipation]
  simp only [Tx.bind_eq, Tx.pure_eq, participantSession, Tx.bind_assoc, Tx.pure_bind]
  refine Tx.EndsWithCommit.mapError ?_
  refine (Tx.Within.read (F := fun _ _ => True) (P := fun _ => True) (fun _ => trivial) _
    fun _ => trivial).endsWithCommit_bind fun _ _ => ?_
  refine (Tx.Within.require' (F := fun _ _ => True) _ _).endsWithCommit_bind fun participant _ => ?_
  refine (Tx.Within.selectForUpdate (F := fun _ _ => True) (P := fun _ => True) (fun _ => trivial) _ _
    trivial fun _ => trivial).endsWithCommit_bind fun _ _ => ?_
  refine (Tx.Within.require' (F := fun _ _ => True) _ _).endsWithCommit_bind fun item _ => ?_
  refine (Workspaces.ensureAuthorizedWritable_within (F := fun _ _ => True) (fun _ => trivial)
    _).endsWithCommit_bind fun _ _ => ?_
  refine (Tx.Within.selectForUpdate (F := fun _ _ => True) (P := fun _ => True) (fun _ => trivial) _ _
    trivial fun _ => trivial).endsWithCommit_bind fun _ _ => ?_
  refine (Tx.Within.ensure' (F := fun _ _ => True) _ _).endsWithCommit_bind fun _ _ => ?_
  refine (Tx.Within.ensure' (F := fun _ _ => True) _ _).endsWithCommit_bind fun _ _ => ?_
  refine (Tx.Within.read (F := fun _ _ => True) (P := fun _ => True) (fun _ => trivial) _
    fun _ => trivial).endsWithCommit_bind fun _ _ => ?_
  split
  · exact Tx.endsWithCommit_commitNow _
  · refine (Tx.Within.ensure' (F := fun _ _ => True) _ _).endsWithCommit_bind fun _ _ => ?_
    refine (updateRow_within (F := fun _ _ => True) (fun _ => trivial) (fun _ => trivial)
      _).endsWithCommit_bind fun _ _ => ?_
    refine (Notifications.endAll_within none op.now _).endsWithCommit_bind fun _ _ => ?_
    exact Tx.endsWithCommit_commitNow _

/-! ## Runs -/

/-- Whether each call has found its participant confirmed, by its serial number. A call loads its
participant in its first step. -/
def firstRead (found : ℕ → Option Bool)
    (c : Config Database RowKey ServiceError ConfirmationData Confirmation) :
    ReadCommitted.Event Confirmation →
      Config Database RowKey ServiceError ConfirmationData Confirmation → ℕ → Option Bool
  | .advance i, _ =>
    match c.sessions i with
    | some p =>
      if (found p.serial).isSome then found
      else Function.update found p.serial (some (p.op.isConfirmed c.db))
    | none => found
  | _, _ => found

/-- A call goes on that has found its participant not confirmed, and somebody has confirmed them. -/
def Outdated (found : ℕ → Option Bool)
    (c : Config Database RowKey ServiceError ConfirmationData Confirmation)
    (e : ReadCommitted.Event Confirmation) : Prop :=
  ∃ i p, e = .advance i ∧ c.sessions i = some p ∧ (confirmations.step c e).isSome ∧
    found p.serial = some false ∧ p.op.isConfirmed c.db = true

/-- What a step of a call should do. -/
structure HarmlessStep (op : Confirmation) (i : ℕ)
    (c c' : Config Database RowKey ServiceError ConfirmationData Confirmation) : Prop where
  /-- While the session is open, a caller who has confirmed meets no exception at all. -/
  accepts : op.isConfirmed c.db = true → op.isOpen c.db = true → c'.raised i = none
  /-- A call that returns has committed with this step. It returns confirmed, and the count in the
  state it commits. -/
  returns : ∀ data, c'.returned i = some data → c'.history ≠ c.history ∧
    data.status = .confirmed ∧ data.confirmedCount = confirmedCount op.sessionId c'.db
  /-- A call that commits returns. The caller is confirmed then, and the session is open. -/
  commits : c'.history ≠ c.history → (c'.returned i).isSome ∧
    op.isConfirmed c'.db = true ∧ op.isOpen c'.db = true
  /-- Nobody is no longer confirmed, and no session is open or not that was otherwise before. -/
  keeps : ∀ op' : Confirmation, (op'.isConfirmed c.db = true → op'.isConfirmed c'.db = true) ∧
    op'.isOpen c'.db = op'.isOpen c.db

/-- A step, if it is one of a call, does what it should. -/
def Harmless (c : Config Database RowKey ServiceError ConfirmationData Confirmation)
    (e : ReadCommitted.Event Confirmation) : Prop :=
  ∀ i p c', e = .advance i → c.sessions i = some p → confirmations.step c e = some c' →
    HarmlessStep p.op i c c'

variable {found : ℕ → Option Bool}
  {c c' : Config Database RowKey ServiceError ConfirmationData Confirmation} {i : ℕ}
  {p : ReadCommitted.Session Database RowKey ServiceError ConfirmationData Confirmation}

/-- Where a call stands: before its first step, under way and undisturbed, overtaken by another call
of the same account, or at its end. -/
inductive Stands (found : Option Bool)
    (c : Config Database RowKey ServiceError ConfirmationData Confirmation) (i : ℕ)
    (p : ReadCommitted.Session Database RowKey ServiceError ConfirmationData Confirmation) : Prop
  | fresh (unread : found = none) (code : p.code = p.op.program) (commits : p.commits = 0)
      (pending : p.pending = id) (held : c.held i = ∅)
  | running (db : Database) (known : found = some (p.op.isConfirmed db)) (commits : p.commits = 0)
      (rely : (undisturbed p.op).Rely (c.held i) db c.db)
      (safe : p.code.Safe (undisturbed p.op) (confirms p.op) (returnsRight p.op) (refusesRight p.op)
        ⟨p.commits, c.held i, p.pending, db⟩) (ends : p.code.EndsWithCommit)
  | overtaken (known : found = some false) (confirmed : p.op.isConfirmed c.db = true)
  | ended (data : ConfirmationData) (code : p.code = .pure data)

/-- The invariant. -/
structure RunInv (found : ℕ → Option Bool)
    (c : Config Database RowKey ServiceError ConfirmationData Confirmation) : Prop where
  wellFormed : c.WellFormed Distinct
  distinct : Distinct c.db
  later : ∀ n, c.calls ≤ n → found n = none
  calls : ∀ i p, c.sessions i = some p → Stands (found p.serial) c i p

/-- Nothing a call stands on has changed. -/
theorem Stands.congr {b : Option Bool} (h : Stands b c i p) (hheld : c'.held i = c.held i)
    (hdb : c'.db = c.db) : Stands b c' i p := by
  cases h with
  | fresh unread code commits pending held =>
    exact .fresh unread code commits pending (hheld.trans held)
  | running db known commits rely safe ends =>
    refine .running db known commits ?_ ?_ ends
    · rw [hheld, hdb]
      exact rely
    · rw [hheld]
      exact safe
  | overtaken known confirmed => exact .overtaken known (hdb ▸ confirmed)
  | ended data code => exact .ended data code

/-- Another call has committed. -/
theorem Stands.committed {b : Option Bool} (h : Stands b c i p) (hheld : c'.held i = c.held i)
    (hrely : amongConfirmations.Rely (c.held i) c.db c'.db) : Stands b c' i p := by
  cases h with
  | fresh unread code commits pending held =>
    exact .fresh unread code commits pending (hheld.trans held)
  | running db known commits rely safe ends =>
    by_cases hsame : p.op.isConfirmed c'.db = p.op.isConfirmed c.db
    · refine .running db known commits ?_ ?_ ends
      · rw [hheld]
        exact (undisturbed p.op).trans rely ⟨hrely, hsame⟩
      · rw [hheld]
        exact safe
    · -- The caller was not confirmed, and now they are.
      have hbefore : p.op.isConfirmed c.db = false := by
        cases hconfirmed : p.op.isConfirmed c.db with
        | false => rfl
        | true =>
          rw [hconfirmed, isConfirmed_of_kept (kept_of_rely hrely) hconfirmed] at hsame
          exact absurd rfl hsame
      rw [hbefore, Bool.not_eq_false] at hsame
      refine .overtaken ?_ hsame
      rw [known, ← rely.2, hbefore]
  | overtaken known confirmed =>
    exact .overtaken known (isConfirmed_of_kept (kept_of_rely hrely) confirmed)
  | ended data code => exact .ended data code

/-- A call that is not outdated takes its next step safely. -/
theorem RunInv.advance (h : RunInv found c) (hi : c.sessions i = some p)
    (hstep : confirmations.step c (.advance i) = some c') (hnot : ¬ Outdated found c (.advance i)) :
    ∃ p', OwnStep c c' i p p' ∧
      p'.code.Safe (undisturbed p.op) (confirms p.op) (returnsRight p.op) (refusesRight p.op)
        ⟨p'.commits, c'.held i, p'.pending, c'.db⟩ ∧
      firstRead found c (.advance i) c' p.serial = some (p.op.isConfirmed c.db) ∧
      ((c'.db = c.db ∧ c'.history = c.history ∧ p'.commits = 0 ∧ p'.code.EndsWithCommit) ∨
        confirms p.op 0 (c.held i) c.db c'.db ∧ c'.history ≠ c.history ∧
          ∃ data, p'.code = .pure data) := by
  have hsome : (confirmations.step c (.advance i)).isSome := by rw [hstep]; rfl
  have hown : ReadCommitted.step Confirmation.program c (.advance i) = some c' := hstep
  cases h.calls i p hi with
  | fresh unread code commits pending held =>
    have hsafe : p.code.Safe (undisturbed p.op) (confirms p.op) (returnsRight p.op)
        (refusesRight p.op) ⟨p.commits, c.held i, p.pending, c.db⟩ := by
      rw [code, commits, pending, held]
      exact program_safe p.op c.db
    obtain ⟨p', hown, hsafe', halt⟩ := safe_of_advance hi h.distinct
      ((undisturbed p.op).refl _ _) hsafe hown
    have hends : p.code.EndsWithCommit := code ▸ program_endsWithCommit p.op
    refine ⟨p', hown, hsafe', ?_, ?_⟩
    · rw [firstRead, hi]
      dsimp only
      rw [unread, if_neg (by decide), Function.update_self]
    · rcases halt with ⟨hdb, hhistory, hcommits, hkeeps⟩ | ⟨hG, -, hhistory, hreturns⟩
      · exact .inl ⟨hdb, hhistory, hcommits.trans commits, hkeeps hends⟩
      · exact .inr ⟨commits ▸ hG, hhistory, hreturns hends⟩
  | running db known commits rely safe ends =>
    obtain ⟨p', hown, hsafe', halt⟩ := safe_of_advance hi h.distinct rely safe hown
    refine ⟨p', hown, hsafe', ?_, ?_⟩
    · rw [firstRead, hi]
      dsimp only
      rw [if_pos (by rw [known]; rfl), known, rely.2]
    · rcases halt with ⟨hdb, hhistory, hcommits, hkeeps⟩ | ⟨hG, -, hhistory, hreturns⟩
      · exact .inl ⟨hdb, hhistory, hcommits.trans commits, hkeeps ends⟩
      · exact .inr ⟨commits ▸ hG, hhistory, hreturns ends⟩
  | overtaken known confirmed => exact absurd ⟨i, p, rfl, hi, hsome, known, confirmed⟩ hnot
  | ended data code =>
    have hstuck : (c.sessions i).bind (ReadCommitted.advance c i) = some c' := hstep
    rw [hi, Option.bind_some, ReadCommitted.advance, code] at hstuck
    cases hstuck

/-- Other calls keep what they have found. -/
theorem firstRead_other {e : ReadCommitted.Event Confirmation} {n : ℕ}
    (h : ∀ i p, e = .advance i → c.sessions i = some p → p.serial ≠ n) :
    firstRead found c e c' n = found n := by
  cases e with
  | advance i =>
    rw [firstRead]
    cases hi : c.sessions i with
    | none => rfl
    | some p =>
      dsimp only
      split
      · rfl
      · exact Function.update_of_ne (h i p rfl hi).symm _ _
  | call i op => rfl
  | close i => rfl

/-- **A step that is not outdated keeps the invariant.** -/
theorem RunInv.step (h : RunInv found c) {e : ReadCommitted.Event Confirmation}
    (hnot : ¬ Outdated found c e) (hstep : confirmations.step c e = some c') :
    RunInv (firstRead found c e c') c' := by
  have hwellFormed := wellFormed_of_takes h.wellFormed (takes_of_step hstep)
  cases e with
  | call i op =>
    have hcall : ReadCommitted.step Confirmation.program c (.call i op) = some c' := hstep
    rw [ReadCommitted.step] at hcall
    cases hi : c.sessions i with
    | some p =>
      rw [hi] at hcall
      cases hcall
    | none =>
      rw [hi] at hcall
      cases hcall
      refine ⟨hwellFormed, h.distinct, fun n hn => h.later n (Nat.le_of_succ_le hn),
        fun j q hq => ?_⟩
      by_cases hj : j = i
      · subst hj
        rw [Config.set_sessions_self] at hq
        cases hq
        exact .fresh (h.later _ le_rfl) rfl rfl rfl
          (h.wellFormed.free j (by simp [Config.card, hi]))
      · rw [Config.set_sessions_of_ne hj] at hq
        exact (h.calls j q hq).congr rfl rfl
  | close i =>
    cases hstep
    refine ⟨hwellFormed, h.distinct, h.later, fun j q hq => ?_⟩
    by_cases hj : j = i
    · subst hj
      rw [Config.set_sessions_self] at hq
      cases hq
    · rw [Config.set_sessions_of_ne hj] at hq
      refine (h.calls j q hq).congr ?_ rfl
      ext lm
      exact Config.mem_held_release.trans (by simp [hj])
  | advance i =>
    obtain ⟨p, hi, -⟩ := Option.bind_eq_some_iff.1
      (show (c.sessions i).bind (ReadCommitted.advance c i) = some c' from hstep)
    obtain ⟨p', hown, hsafe, hfound, halt⟩ := h.advance hi hstep hnot
    have hserial : p.serial < c.calls :=
      h.wellFormed.serial_lt i p.serial p.commits (Config.card_of_session hi)
    have hlater : ∀ n, c'.calls ≤ n → firstRead found c (.advance i) c' n = none := by
      intro n hn
      rw [hown.calls] at hn
      rw [firstRead_other fun j q hj hq => ?_]
      · exact h.later n hn
      · cases hj
        rw [hi] at hq
        cases hq
        omega
    have hothers : ∀ j q, j ≠ i → c.sessions j = some q →
        firstRead found c (.advance i) c' q.serial = found q.serial := by
      intro j q hj hq
      refine firstRead_other fun i' p' hi' hp' hsame => ?_
      cases hi'
      rw [hi] at hp'
      cases hp'
      have hcard := Config.card_of_session hi
      rw [hsame] at hcard
      exact hj (h.wellFormed.serial_inj j i q.serial q.commits p.commits
        (Config.card_of_session hq) hcard)
    rcases halt with ⟨hdb, -, hcommits, hends⟩ | ⟨hG, -, data, hdata⟩
    · refine ⟨hwellFormed, hdb ▸ h.distinct, hlater, fun j q hq => ?_⟩
      by_cases hj : j = i
      · subst hj
        rw [hown.after] at hq
        cases hq
        rw [hown.serial, hfound]
        refine .running c'.db (by rw [hown.op, hdb]) hcommits ((undisturbed p'.op).refl _ _) ?_ hends
        rw [hown.op]
        exact hsafe
      · rw [hown.sessions j hj] at hq
        rw [hothers j q hj hq]
        exact (h.calls j q hq).congr (hown.held j hj) hdb
    · refine ⟨hwellFormed, confirms_distinct h.distinct hG, hlater, fun j q hq => ?_⟩
      by_cases hj : j = i
      · subst hj
        rw [hown.after] at hq
        cases hq
        exact .ended data hdata
      · rw [hown.sessions j hj] at hq
        rw [hothers j q hj hq]
        refine (h.calls j q hq).committed (hown.held j hj) ?_
        exact .single ⟨h.distinct, p.op, 0, c.held i, hG, h.wellFormed.compatible i j (Ne.symm hj)⟩

/-- A step that is not outdated is harmless. -/
theorem RunInv.harmless (h : RunInv found c) {e : ReadCommitted.Event Confirmation}
    (hnot : ¬ Outdated found c e) : Harmless c e := by
  rintro i p c' rfl hi hstep
  obtain ⟨p', hown, hsafe, -, halt⟩ := h.advance hi hstep hnot
  constructor
  · intro hconfirmed hopen
    refine Option.eq_none_iff_forall_not_mem.2 fun e hraised => ?_
    obtain ⟨q, hq, hcode⟩ := Config.raised_eq_some.1 hraised
    rw [hown.after] at hq
    cases hq
    rw [hcode] at hsafe
    have hrefuses : refusesRight p.op e ⟨p'.commits, c'.held i, p'.pending, c'.db⟩ :=
      Tx.Safe.of_raise hsafe
    rcases halt with ⟨hdb, -⟩ | ⟨-, -, data, hdata⟩
    · rw [← hdb] at hconfirmed hopen
      exact absurd (hopen.symm.trans (hrefuses hconfirmed)) (by decide)
    · rw [hcode] at hdata
      cases hdata
  · intro data hreturned
    obtain ⟨q, hq, hcode⟩ := Config.returned_eq_some.1 hreturned
    rw [hown.after] at hq
    cases hq
    rw [hcode] at hsafe
    rcases halt with ⟨-, -, -, hends⟩ | ⟨-, hhistory, -⟩
    · rw [hcode] at hends
      exact hends.elim
    · exact ⟨hhistory, Tx.Safe.of_pure hsafe⟩
  · intro hhistory
    rcases halt with ⟨-, hsame, -⟩ | ⟨hG, -, data, hdata⟩
    · exact absurd hsame hhistory
    · refine ⟨?_, hG.confirmed, (hG.terms.isOpen_eq _).trans hG.isOpen⟩
      rw [Config.returned_eq_some.2 ⟨p', hown.after, hdata⟩]
      rfl
  · intro op'
    rcases halt with ⟨hdb, -⟩ | ⟨hG, -⟩
    · rw [hdb]
      exact ⟨id, rfl⟩
    · exact ⟨isConfirmed_of_kept (confirms_kept hG), hG.terms.isOpen_eq op'⟩

/-- **When confirming twice is harmless.** In every run in which no call goes on that has found its
participant not confirmed after another call has confirmed them, every step is harmless. -/
theorem confirm_twice_harmless
    {c : Config Database RowKey ServiceError ConfirmationData Confirmation}
    (hinit : confirmations.init c) (es : List (ReadCommitted.Event Confirmation))
    (h : confirmations.Along firstRead (fun found c e => ¬ Outdated found c e) (fun _ => none) c
      es) :
    confirmations.Along firstRead (fun _ c e => Harmless c e) (fun _ => none) c es := by
  refine TransitionSystem.Along.of_inv (I := RunInv) (fun _ _ _ hI hnot => hI.harmless hnot)
    (fun _ _ _ _ hI hnot hstep => hI.step hnot hstep) ?_ h
  obtain ⟨hdb, hs, hl, hh, -⟩ := hinit
  refine ⟨wellFormed_of_init hdb hs hl hh, hdb, fun _ _ => rfl, fun i p hp => ?_⟩
  rw [hs] at hp
  cases hp

/-! ### A double click -/

/-- A session of a game, with one seat, to which one person is invited. -/
def oneSeat : Database :=
  { Database.empty with
    workspaces := [⟨10, "games", none, 1, 1, none, none, none, none, none⟩]
    sessions := [⟨8, 9, 10, 20, 7, "table", 1, .scheduled, 1, none, "balance", "notes", "go", "rules",
      none, "place stones", none, none, none, none, false, none, none, none, none⟩]
    participants := [⟨6, 8, 2, .invited, none⟩] }

/-- Their confirmation. -/
def confirmSeatOne : Confirmation := ⟨5, 2, 8⟩

/-- It is sent twice, and both calls begin before the first one is done. -/
def sentTwice : List (ReadCommitted.Event Confirmation) :=
  [.call 0 confirmSeatOne, .call 1 confirmSeatOne] ++ advances 0 1 ++ advances 1 1 ++ advances 0 12

theorem oneSeat_init : confirmations.init (.start oneSeat) :=
  init_start _ ⟨by decide, by decide, by decide⟩

/-- A check of what is outdated. -/
def upToDate (found : ℕ → Option Bool)
    (c : Config Database RowKey ServiceError ConfirmationData Confirmation) :
    ReadCommitted.Event Confirmation → Bool
  | .advance i => !(c.sessions i).any fun p =>
      found p.serial == some false && p.op.isConfirmed c.db
  | _ => true

theorem not_outdated_of_check {e : ReadCommitted.Event Confirmation}
    (h : upToDate found c e = true) : ¬ Outdated found c e := by
  rintro ⟨i, p, rfl, hi, -, hfound, hconfirmed⟩
  rw [upToDate, hi, Option.any_some, hfound, hconfirmed] at h
  cases h

/-- It is sent again when the first call is done. -/
def sentAgain : List (ReadCommitted.Event Confirmation) :=
  [.call 0 confirmSeatOne] ++ advances 0 13 ++ [.call 1 confirmSeatOne] ++ advances 1 10

/-- The theorem at this run. -/
theorem confirm_twice_harmless_sentAgain :
    (confirmations.run (.start oneSeat) sentAgain).any (fun c =>
      c.history.length = 2 ∧ c.db.participants.map (·.status) = [.confirmed]) = true ∧
      confirmations.Along firstRead (fun _ c e => Harmless c e) (fun _ => none) (.start oneSeat)
        sentAgain := by
  refine ⟨by decide +kernel, confirm_twice_harmless oneSeat_init sentAgain ?_⟩
  exact TransitionSystem.along_of_check (fun _ _ _ => not_outdated_of_check)
    (show confirmations.checkAlong firstRead upToDate (fun _ => none) (.start oneSeat) sentAgain =
      true by decide +kernel)

/-- The second call of the double click is refused the seat that its caller has. -/
theorem sentTwice_refused :
    confirmations.init (.start oneSeat) ∧
      ¬ confirmations.Along firstRead (fun _ c e => Harmless c e) (fun _ => none) (.start oneSeat)
        (sentTwice ++ advances 1 8) := by
  refine ⟨oneSeat_init, fun h => ?_⟩
  obtain ⟨t, hrun, hfacts⟩ := (Option.any_eq_true _ _).1
    (show (confirmations.run (.start oneSeat) (sentTwice ++ advances 1 7)).any (fun t =>
      ((t.sessions 1).any fun p => p.op.isConfirmed t.db && p.op.isOpen t.db) &&
        (confirmations.step t (.advance 1)).any fun c' =>
          decide (c'.raised 1 = some .playtestCapacityExceeded)) = true by decide +kernel)
  rw [Bool.and_eq_true] at hfacts
  obtain ⟨p, hp, hseat⟩ := (Option.any_eq_true _ _).1 hfacts.1
  rw [Bool.and_eq_true] at hseat
  obtain ⟨c', hstep, hraised⟩ := (Option.any_eq_true _ _).1 hfacts.2
  have hharmless := h (sentTwice ++ advances 1 7) (.advance 1) [] t rfl hrun 1 p c' rfl hp hstep
  rw [decide_eq_true_eq, hharmless.accepts hseat.1 hseat.2] at hraised
  cases hraised

end Playtests

end Rulefolio
