import Rulefolio.Library.RelyGuarantee

/-!
# Programs that run one after the other

Where calls do not overlap, a program is followed on one state: the state its next statement sees,
which is the committed one together with what the call has changed so far. `Tx.Leads` says what the
program commits and returns from such a state. Its rules are those of Hoare logic; locks and the
other calls play no part in them.

`Tx.Steps` is the frame rule for whole calls: every statement, whatever it sees, changes the state
within a relation. It says the same of a call that runs alone and of one that does not.

## Main definitions

* `Tx.Leads`, `Tx.Steps`.
* `Tx.sequential` — the system of calls that do not overlap.

## Main results

* `Tx.Leads.exec` — what a program leaves behind.
* `Tx.Steps.exec`, `Tx.Steps.safe` — the frame rule, for a call alone and for one among others.
* `Tx.reachable_of_sequential` — calls that do not overlap are one way to interleave them.
-/

variable {σ L ε α β ρ ω : Type}

namespace Tx

/-! ## Following a program -/

/-- From the state `w` everything the program commits satisfies `R`, and it returns only as `Q`
says. -/
def Leads (R : σ → Prop) (Q : α → σ → Prop) : Tx σ L ε α → σ → Prop
  | .pure a, w => Q a w
  | .raise _, _ => True
  | .lock _ _ k, w => k.Leads R Q w
  | .stmt δ k, w => (k w).Leads R Q (δ w w)
  | .commit k, w => R w ∧ k.Leads R Q w

namespace Leads

variable {R : σ → Prop} {Q : α → σ → Prop} {w : σ}

theorem pure {a : α} (h : Q a w) : (Tx.pure a : Tx σ L ε α).Leads R Q w := h

theorem mono {R' : σ → Prop} {Q' : α → σ → Prop} {t : Tx σ L ε α} (h : t.Leads R Q w)
    (hR : ∀ v, R v → R' v) (hQ : ∀ a v, Q a v → Q' a v) : t.Leads R' Q' w := by
  induction t generalizing w with
  | pure a => exact hQ a w h
  | raise e => trivial
  | lock l m k ih => exact ih h
  | stmt δ k ih => exact ih w h
  | commit k ih => exact ⟨hR w h.1, ih h.2⟩

/-- The rule for sequencing. -/
theorem bind {P : β → σ → Prop} {t : Tx σ L ε β} {f : β → Tx σ L ε α} (ht : t.Leads R P w)
    (hf : ∀ b v, P b v → (f b).Leads R Q v) : (t.bind f).Leads R Q w := by
  induction t generalizing w with
  | pure b => exact hf b w ht
  | raise e => trivial
  | lock l m k ih => exact ih ht
  | stmt δ k ih => exact ih w ht
  | commit k ih => exact ⟨ht.1, ih ht.2⟩

theorem ensure_bind {b : Bool} {e : ε} {f : Unit → Tx σ L ε α}
    (hf : b = true → (f ()).Leads R Q w) : ((Tx.ensure b e).bind f).Leads R Q w := by
  cases b with
  | true => exact hf rfl
  | false => trivial

theorem require_bind {o : Option β} {e : ε} {f : β → Tx σ L ε α}
    (hf : ∀ b, o = some b → (f b).Leads R Q w) : ((Tx.require o e).bind f).Leads R Q w := by
  cases o with
  | some b => exact hf b rfl
  | none => trivial

theorem read_bind {g : σ → β} {f : β → Tx σ L ε α} (hf : (f (g w)).Leads R Q w) :
    ((Tx.read g).bind f).Leads R Q w :=
  hf

theorem write_bind {δ : σ → σ → σ} {f : Unit → Tx σ L ε α} (hf : (f ()).Leads R Q (δ w w)) :
    ((Tx.write δ).bind f).Leads R Q w :=
  hf

theorem writeIf_bind {admits : σ → Bool} {e : ε} {δ : σ → σ → σ} {f : Unit → Tx σ L ε α}
    (hf : admits w = true → (f ()).Leads R Q (δ w w)) :
    ((Tx.writeIf admits e δ).bind f).Leads R Q w := by
  by_cases ha : admits w = true
  · simpa [Tx.writeIf, Leads, ha] using hf ha
  · simp [Tx.writeIf, Leads, ha]

theorem lockAll_bind {m : RowLock} {ls : List L} {f : Unit → Tx σ L ε α}
    (hf : (f ()).Leads R Q w) : ((Tx.lockAll m ls).bind f).Leads R Q w := by
  induction ls with
  | nil => exact hf
  | cons l ls ih => exact ih

theorem commitNow_bind {f : Unit → Tx σ L ε α} (hR : R w) (hf : (f ()).Leads R Q w) :
    (Tx.commitNow.bind f).Leads R Q w :=
  ⟨hR, hf⟩

/-- Alone, a row-locking read finds the same the second time. -/
theorem selectForUpdate_bind {key : ρ → L} {find : σ → Option ρ} {f : Option ρ → Tx σ L ε α}
    (hf : (f (find w)).Leads R Q w) : ((Tx.selectForUpdate key find).bind f).Leads R Q w := by
  rw [Tx.selectForUpdate, bind_assoc]
  refine read_bind ?_
  split
  · rename_i hnone
    rwa [hnone] at hf
  · exact hf

theorem selectAllForUpdate_bind [DecidableEq L] {key : ρ → L} {rows : σ → List ρ}
    {f : List ρ → Tx σ L ε α} (hf : (f (rows w)).Leads R Q w) :
    ((Tx.selectAllForUpdate key rows).bind f).Leads R Q w := by
  rw [Tx.selectAllForUpdate, bind_assoc]
  refine read_bind ?_
  rw [bind_assoc]
  refine lockAll_bind (read_bind ?_)
  rwa [List.filter_eq_self.2 fun row hrow => by simpa using ⟨row, hrow, rfl⟩]

theorem mapError {f : ε → ε} {t : Tx σ L ε α} (h : t.Leads R Q w) :
    (t.mapError f).Leads R Q w := by
  induction t generalizing w with
  | pure a => exact h
  | raise e => trivial
  | lock l m k ih => exact ih h
  | stmt δ k ih => exact ih w h
  | commit k ih => exact ⟨h.1, ih h.2⟩

/-- The rule for loops, with an invariant. -/
theorem forEach {I : σ → Prop} {f : ρ → Tx σ L ε Unit} {rs : List ρ} (hw : I w)
    (hf : ∀ r ∈ rs, ∀ v, I v → (f r).Leads R (fun _ => I) v) :
    (Tx.forEach rs f).Leads R (fun _ => I) w := by
  induction rs generalizing w with
  | nil => exact hw
  | cons r rs ih =>
    refine bind (hf r List.mem_cons_self w hw) fun _ v hv => ih hv fun r' hr' => ?_
    exact hf r' (List.mem_cons_of_mem _ hr')

/-- The rule for loops of which each turn does something that the later turns keep. -/
theorem forEach_all {I : σ → Prop} {D : ρ → σ → Prop} {f : ρ → Tx σ L ε Unit} {rs : List ρ}
    (hw : I w) (hf : ∀ r ∈ rs, ∀ v, I v →
      (f r).Leads R (fun _ u => I u ∧ D r u ∧ ∀ r', D r' v → D r' u) v) :
    (Tx.forEach rs f).Leads R (fun _ v => I v ∧ ∀ r ∈ rs, D r v) w := by
  suffices H : ∀ done : List ρ, (∀ r ∈ done, D r w) →
      (Tx.forEach rs f).Leads R (fun _ v => I v ∧ ∀ r ∈ done ++ rs, D r v) w from
    H [] fun r hr => absurd hr List.not_mem_nil
  induction rs generalizing w with
  | nil => exact fun done hdone => ⟨hw, by simpa using hdone⟩
  | cons r rs ih =>
    intro done hdone
    refine bind (hf r List.mem_cons_self w hw) fun _ v hv => ?_
    refine (ih hv.1 (fun r' hr' => hf r' (List.mem_cons_of_mem _ hr')) (done ++ [r]) ?_).mono
      (fun _ => id) fun _ u hu => ?_
    · intro r' hr'
      rcases List.mem_append.1 hr' with hdone' | hlast
      · exact hv.2.2 r' (hdone r' hdone')
      · rw [List.mem_singleton.1 hlast]
        exact hv.2.1
    · rwa [List.append_assoc] at hu

end Leads

theorem Leads.execFrom {R : σ → Prop} {Q : α → σ → Prop} {t : Tx σ L ε α} {p : σ → σ} {s : σ}
    (h : t.Leads R Q (p s)) : (t.execFrom p s).1 = s ∨ R (t.execFrom p s).1 := by
  induction t generalizing p s with
  | pure a => exact .inl rfl
  | raise e => exact .inl rfl
  | lock l m k ih => exact ih h
  | stmt δ k ih => exact ih (p s) (p := δ (p s) ∘ p) h
  | commit k ih =>
    rcases ih (p := id) h.2 with hsame | hR
    · exact .inr ((congrArg R hsame).mpr h.1)
    · exact .inr hR

/-- **What a program leaves behind**: the state it began with, or one it has committed. -/
theorem Leads.exec {R : σ → Prop} {Q : α → σ → Prop} {t : Tx σ L ε α} {s : σ}
    (h : t.Leads R Q s) : (t.exec s).1 = s ∨ R (t.exec s).1 :=
  Leads.execFrom (p := id) h

theorem Leads.execFrom_returns {R : σ → Prop} {Q : α → σ → Prop} {t : Tx σ L ε α} {p : σ → σ}
    {s : σ} {a : α} (h : t.Leads R Q (p s)) (ha : (t.execFrom p s).2 = .ok a) : ∃ w, Q a w := by
  induction t generalizing p s with
  | pure b =>
    obtain rfl := Except.ok.inj ha
    exact ⟨p s, h⟩
  | raise e => nomatch ha
  | lock l m k ih => exact ih h ha
  | stmt δ k ih => exact ih (p s) (p := δ (p s) ∘ p) h ha
  | commit k ih => exact ih (p := id) h.2 ha

/-- What a program returns. -/
theorem Leads.exec_returns {R : σ → Prop} {Q : α → σ → Prop} {t : Tx σ L ε α} {s : σ} {a : α}
    (h : t.Leads R Q s) (ha : (t.exec s).2 = .ok a) : ∃ w, Q a w :=
  Leads.execFrom_returns (p := id) h ha

/-! ## The frame rule -/

/-- What a part of a program changes, followed on one state. -/
theorem Within.leads {R : σ → Prop} {F : σ → σ → Prop} {P : α → Prop} (hrefl : ∀ s, F s s)
    (htrans : ∀ s t u, F s t → F t u → F s u) {t : Tx σ L ε α} (h : t.Within F P) {w : σ} :
    t.Leads R (fun a v => P a ∧ F w v) w := by
  suffices H : ∀ v, F w v → t.Leads R (fun a v => P a ∧ F w v) v from H w (hrefl w)
  induction t with
  | pure a => exact fun v hv => ⟨h, hv⟩
  | raise e => exact fun v _ => trivial
  | lock l m k ih => exact fun v hv => ih h v hv
  | stmt δ k ih => exact fun v hv => ih v (h.2 v) _ (htrans w v _ hv (h.1 v v))
  | commit k ih => exact h.elim

theorem Within.leads_bind {R : σ → Prop} {Q : α → σ → Prop} {F : σ → σ → Prop} {P : β → Prop}
    (hrefl : ∀ s, F s s) (htrans : ∀ s t u, F s t → F t u → F s u) {t : Tx σ L ε β}
    (h : t.Within F P) {w : σ} {f : β → Tx σ L ε α}
    (hf : ∀ b v, P b → F w v → (f b).Leads R Q v) : (t.bind f).Leads R Q w :=
  (h.leads hrefl htrans).bind fun b v hv => hf b v hv.1 hv.2

/-- A part that does not commit. -/
theorem Within.leads_any {R : σ → Prop} {F : σ → σ → Prop} {P : α → Prop} {t : Tx σ L ε α}
    (h : t.Within F P) (w : σ) : t.Leads R (fun _ _ => True) w :=
  ((h.mono (G := fun _ _ => True) (fun _ _ _ => trivial) fun _ hP => hP).leads
    (fun _ => trivial) fun _ _ _ _ _ => trivial).mono (fun _ => id) fun _ _ _ => trivial

/-- An invariant that every statement of a part keeps. -/
theorem Within.kept {R : σ → Prop} {I : σ → Prop} {P : α → Prop} {t : Tx σ L ε α}
    (h : t.Within (fun s s' => I s → I s') P) {w : σ} (hw : I w) :
    t.Leads R (fun a v => P a ∧ I v) w :=
  (h.leads (fun _ => id) fun _ _ _ hst htu hs => htu (hst hs)).mono (fun _ => id)
    fun _ _ hv => ⟨hv.1, hv.2 hw⟩

theorem Within.kept_bind {R : σ → Prop} {Q : α → σ → Prop} {I : σ → Prop} {P : β → Prop}
    {t : Tx σ L ε β} (h : t.Within (fun s s' => I s → I s') P) {w : σ} (hw : I w)
    {f : β → Tx σ L ε α} (hf : ∀ b v, P b → I v → (f b).Leads R Q v) :
    (t.bind f).Leads R Q w :=
  (h.kept hw).bind fun b v hv => hf b v hv.1 hv.2

/-- A part that only reads. -/
theorem Within.unchanged_bind {R : σ → Prop} {Q : α → σ → Prop} {P : β → Prop}
    {t : Tx σ L ε β} (h : t.Within (fun s s' => s' = s) P) {w : σ} {f : β → Tx σ L ε α}
    (hf : ∀ b, P b → (f b).Leads R Q w) : (t.bind f).Leads R Q w :=
  h.leads_bind (F := fun s s' => s' = s) (fun _ => rfl) (fun _ _ _ hst htu => htu.trans hst)
    fun b _ hb hv => hv ▸ hf b hb

/-! ## The frame rule for whole calls -/

/-- Every statement changes the state within `F`. -/
def Steps (F : σ → σ → Prop) : Tx σ L ε α → Prop
  | .pure _ => True
  | .raise _ => True
  | .lock _ _ k => k.Steps F
  | .stmt δ k => (∀ v s, F s (δ v s)) ∧ ∀ v, (k v).Steps F
  | .commit k => k.Steps F

theorem Within.steps {F : σ → σ → Prop} {P : α → Prop} {t : Tx σ L ε α} (h : t.Within F P) :
    t.Steps F := by
  induction t with
  | pure a => trivial
  | raise e => trivial
  | lock l m k ih => exact ih h
  | stmt δ k ih => exact ⟨h.1, fun v => ih v (h.2 v)⟩
  | commit k ih => exact h.elim

namespace Steps

variable {F : σ → σ → Prop}

theorem bind {t : Tx σ L ε β} {f : β → Tx σ L ε α} (ht : t.Steps F)
    (hf : ∀ b, (f b).Steps F) : (t.bind f).Steps F := by
  induction t with
  | pure b => exact hf b
  | raise e => trivial
  | lock l m k ih => exact ih ht
  | stmt δ k ih => exact ⟨ht.1, fun v => ih v (ht.2 v)⟩
  | commit k ih => exact ih ht

/-- After a part that does not commit. -/
theorem after {P : β → Prop} {t : Tx σ L ε β} {f : β → Tx σ L ε α} (ht : t.Within F P)
    (hf : ∀ b, P b → (f b).Steps F) : (t.bind f).Steps F := by
  induction t with
  | pure b => exact hf b ht
  | raise e => trivial
  | lock l m k ih => exact ih ht
  | stmt δ k ih => exact ⟨ht.1, fun v => ih v (ht.2 v)⟩
  | commit k ih => exact ht.elim

theorem commitNow_bind {f : Unit → Tx σ L ε α} (hf : (f ()).Steps F) :
    (Tx.commitNow.bind f).Steps F :=
  hf

theorem mapError {f : ε → ε} {t : Tx σ L ε α} (h : t.Steps F) : (t.mapError f).Steps F := by
  induction t with
  | pure a => trivial
  | raise e => trivial
  | lock l m k ih => exact ih h
  | stmt δ k ih => exact ⟨h.1, fun v => ih v (h.2 v)⟩
  | commit k ih => exact ih h

theorem mono {G : σ → σ → Prop} (hF : ∀ s s', F s s' → G s s') {t : Tx σ L ε α}
    (h : t.Steps F) : t.Steps G := by
  induction t with
  | pure a => trivial
  | raise e => trivial
  | lock l m k ih => exact ih h
  | stmt δ k ih => exact ⟨fun v s => hF _ _ (h.1 v s), fun v => ih v (h.2 v)⟩
  | commit k ih => exact ih h

theorem leads (htrans : ∀ s t u, F s t → F t u → F s u) {t : Tx σ L ε α} {s w : σ}
    (h : t.Steps F) (hw : F s w) : t.Leads (F s) (fun _ => F s) w := by
  induction t generalizing w with
  | pure a => exact hw
  | raise e => trivial
  | lock l m k ih => exact ih h hw
  | stmt δ k ih => exact ih w (h.2 w) (htrans _ _ _ hw (h.1 w w))
  | commit k ih => exact ⟨hw, ih h hw⟩

/-- **What a call changes when it runs alone.** -/
theorem exec (hrefl : ∀ s, F s s) (htrans : ∀ s t u, F s t → F t u → F s u) {t : Tx σ L ε α}
    (h : t.Steps F) (s : σ) : F s (t.exec s).1 := by
  rcases (h.leads htrans (hrefl s)).exec with hsame | hF
  · rw [hsame]
    exact hrefl s
  · exact hF

/-- **What a call commits when it runs with others.** -/
theorem safe {E : Environment σ L} (hrefl : ∀ s, F s s)
    (htrans : ∀ s t u, F s t → F t u → F s u) {t : Tx σ L ε α} (h : t.Steps F) {x : Point σ L}
    (hx : ∀ s, F s (x.pending s)) :
    t.Safe E (fun _ _ s s' => F s s') (fun _ _ => True) (fun _ _ => True) x := by
  induction t generalizing x with
  | pure a => exact Tx.Safe.pure trivial
  | raise e => exact Tx.Safe.raise trivial
  | lock l m k ih =>
    rw [Tx.Safe]
    exact fun s _ _ => ih h hx
  | stmt δ k ih =>
    rw [Tx.Safe]
    intro s _ _
    exact ih _ (h.2 _) fun t => htrans _ _ _ (hx t) (h.1 _ _)
  | commit k ih =>
    rw [Tx.Safe]
    exact fun s _ _ => ⟨hx s, ih h hrefl⟩

end Steps

/-! ## One call after the other -/

/-- The system of calls that do not overlap. -/
def sequential (init : σ → Prop) (prog : ω → Tx σ L ε α) : TransitionSystem σ ω where
  init := init
  step s op := some ((prog op).exec s).1

section Interleaved

open ReadCommitted

variable [DecidableEq L] {prog : ω → Tx σ L ε α} {init : σ → Prop}

/-- Only this connection does anything. -/
structure Alone (i : ℕ) (c : Config σ L ε α ω) : Prop where
  locks : ∀ g ∈ c.locks, g.connection = i
  sessions : ∀ j, j ≠ i → c.sessions j = none

omit [DecidableEq L] in
theorem Alone.set {i : ℕ} {c : Config σ L ε α ω} (h : Alone i c)
    (p : Option (Session σ L ε α ω)) : Alone i (c.set i p) :=
  ⟨h.locks, fun j hj => by rw [Config.set_sessions_of_ne hj, h.sessions j hj]⟩

/-- Where nothing else goes on, the steps of a call take it to its end. -/
theorem exists_advances {c : Config σ L ε α ω} {i : ℕ} {p : Session σ L ε α ω}
    (hi : c.sessions i = some p) (hc : Alone i c) :
    ∃ n c', (ReadCommitted.system init prog).run c (advances i n) = some c' ∧ Alone i c' ∧
      c'.db = (p.code.execFrom p.pending c.db).1 := by
  obtain ⟨op, serial, t, pending, commits⟩ := p
  -- The induction is on what is left of the program.
  induction t generalizing c pending commits with
  | pure a => exact ⟨0, c, rfl, hc, rfl⟩
  | raise e => exact ⟨0, c, rfl, hc, rfl⟩
  | lock l m k ih =>
    have havailable : c.available i l m = true :=
      Config.available_iff.2 fun g hg hne => absurd (hc.locks g hg) hne
    let c₁ : Config σ L ε α ω := { c with locks := ⟨i, l, m⟩ :: c.locks }
    have hc₁ : Alone i c₁ := ⟨fun g hg => ?_, hc.sessions⟩
    · obtain ⟨n, c', hrun, hc', hdb⟩ := ih (hc₁.set _) pending commits
        (Config.set_sessions_self i _)
      refine ⟨n + 1, c', ?_, hc', hdb⟩
      show (step prog c (.advance i)).bind _ = _
      rw [step, hi, Option.bind_some, advance]
      simp only [havailable, if_true, Option.bind_some]
      exact hrun
    · rcases List.mem_cons.1 hg with rfl | hg
      · rfl
      · exact hc.locks g hg
  | stmt δ k ih =>
    obtain ⟨n, c', hrun, hc', hdb⟩ := ih (pending c.db) (hc.set _)
      (δ (pending c.db) ∘ pending) commits (Config.set_sessions_self i _)
    refine ⟨n + 1, c', ?_, hc', hdb⟩
    show (step prog c (.advance i)).bind _ = _
    rw [step, hi, Option.bind_some, advance]
    exact hrun
  | commit k ih =>
    let c₁ : Config σ L ε α ω := { c with
      db := pending c.db
      locks := c.release i
      history := ⟨op, serial, c.db, pending c.db⟩ :: c.history }
    have hc₁ : Alone i c₁ := ⟨fun g hg => hc.locks g (Config.mem_release.1 hg).1, hc.sessions⟩
    obtain ⟨n, c', hrun, hc', hdb⟩ := ih (hc₁.set _) id (commits + 1)
      (Config.set_sessions_self i _)
    refine ⟨n + 1, c', ?_, hc', hdb⟩
    show (step prog c (.advance i)).bind _ = _
    rw [step, hi, Option.bind_some, advance]
    exact hrun

/-- **Calls that do not overlap are one way to interleave them**: a state they reach is one that
interleaved calls reach. -/
theorem reachable_of_sequential {s : σ} (h : (sequential init prog).Reachable s) :
    ∃ c, (ReadCommitted.system init prog).Reachable c ∧ c.db = s := by
  suffices H : ∃ c, (ReadCommitted.system init prog).Reachable c ∧ c.db = s ∧
      (∀ j, c.sessions j = none) ∧ c.locks = [] by
    obtain ⟨c, hc, hdb, -⟩ := H
    exact ⟨c, hc, hdb⟩
  refine TransitionSystem.Inductive.of_reachable (S := sequential init prog)
    (I := fun s => ∃ c, (ReadCommitted.system init prog).Reachable c ∧ c.db = s ∧
      (∀ j, c.sessions j = none) ∧ c.locks = []) ⟨?_, ?_⟩ h
  · intro s hs
    exact ⟨.start s, .initial (init_start prog hs), rfl, fun _ => rfl, rfl⟩
  · rintro _ op s' ⟨c, hc, rfl, hsessions, hlocks⟩ hstep
    cases hstep
    let p : Session σ L ε α ω := ⟨op, c.calls, prog op, id, 0⟩
    let c₁ : Config σ L ε α ω := { c with calls := c.calls + 1 }.set 0 (some p)
    have hbegin : (ReadCommitted.system init prog).step c (.call 0 op) = some c₁ := by
      show step prog c (.call 0 op) = some c₁
      rw [step, hsessions 0]
    have hidle : Alone 0 { c with calls := c.calls + 1 } :=
      ⟨fun g hg => absurd (hlocks ▸ hg) List.not_mem_nil, fun j _ => hsessions j⟩
    have hc₁ : Alone 0 c₁ := hidle.set _
    obtain ⟨n, c₂, hrun, hc₂, hdb⟩ := exists_advances 
      (Config.set_sessions_self 0 _) hc₁
    refine ⟨{ c₂ with locks := c₂.release 0 }.set 0 none, ?_, hdb, fun j => ?_, ?_⟩
    · exact ((hc.step hbegin).run hrun).step (e := .close 0) rfl
    · by_cases hj : j = 0
      · rw [hj, Config.set_sessions_self]
      · rw [Config.set_sessions_of_ne hj]
        exact hc₂.sessions j hj
    · refine List.eq_nil_iff_forall_not_mem.2 fun g hg => ?_
      obtain ⟨hg, hne⟩ := Config.mem_release.1 hg
      exact hne (hc₂.locks g hg)

end Interleaved

end Tx
