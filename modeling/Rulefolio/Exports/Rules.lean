import Rulefolio.Exports.Readers
import Rulefolio.Files.Ledger
import Rulefolio.Playtests.Plans

/-!
# The files of a rule are ready

`update_rule_materials` takes into a rule what it has found ready, and what is ready stays ready. So
a file that a rule refers to can be read, whatever happens to files while the rule is written.

The calls of playtests write neither rules nor files. Their system leaves both to transactions of
other packages, and those are shown here to keep rules ready: `update_rule_materials` itself, and
every transaction that settles files and adds no rule.

## Main definitions

* `RulesReady`, `KeepsReady`.

## Main results

* `updateRuleMaterials_rulesReady`, `rulesReady_of_settles` — the transactions of other packages.
* `rulesReady_of_reachable`.
-/

namespace Rulefolio

namespace Exports

open ReadCommitted

variable {db db' : Database}

/-- Every file of a rule is ready. -/
def RulesReady (db : Database) : Prop :=
  ∀ m ∈ db.workMaterials, (Files.findReadyMaterial m.fileId db).isSome

/-- What is ready stays ready. -/
def KeepsReady (db db' : Database) : Prop :=
  ∀ n, (Files.findReadyMaterial n db).isSome → (Files.findReadyMaterial n db').isSome

theorem isSome_findReadyMaterial {n : Uuid} : (Files.findReadyMaterial n db).isSome ↔
    ∃ f ∈ db.files, f.id = n ∧ f.kind = .material ∧ f.status = .ready := by
  simp [Files.findReadyMaterial, and_assoc]

theorem keepsReady_of_files (h : db'.files = db.files) : KeepsReady db db' := by
  intro n hn
  rw [isSome_findReadyMaterial] at hn ⊢
  rwa [h]

/-- Rows that settle stay ready. -/
theorem keepsReady_of_settles (h : Files.Settles db.files db'.files) : KeepsReady db db' := by
  intro n hn
  rw [isSome_findReadyMaterial] at hn ⊢
  obtain ⟨f, hf, hid, hkind, hstatus⟩ := hn
  obtain ⟨f', hf', -, hstays⟩ := h f hf
  have hsettled : f.status ≠ .pending := by
    rw [hstatus]
    exact FileStatus.noConfusion
  obtain rfl := hstays (.inl hsettled)
  exact ⟨f', hf', hid, hkind, hstatus⟩

theorem RulesReady.later (hdb : RulesReady db) (hready : KeepsReady db db')
    (hrules : db'.workMaterials ⊆ db.workMaterials) : RulesReady db' := fun m hm =>
  hready _ (hdb m (hrules hm))

/-- **A transaction that settles files** and adds to no rule keeps rules ready. -/
theorem rulesReady_of_settles (hdb : RulesReady db) (hfiles : Files.Settles db.files db'.files)
    (hrules : db'.workMaterials ⊆ db.workMaterials) : RulesReady db' :=
  hdb.later (keepsReady_of_settles hfiles) hrules

/-! ## `update_rule_materials` -/

/-- The files stay as they are, and rules get these only. -/
def AddsToRules (selected : List StoredFile) (db db' : Database) : Prop :=
  db'.files = db.files ∧
    ∀ m ∈ db'.workMaterials, m ∈ db.workMaterials ∨ ∃ file ∈ selected, m.fileId = file.id

theorem AddsToRules.of_subset {selected : List StoredFile} (hfiles : db'.files = db.files)
    (hrules : db'.workMaterials ⊆ db.workMaterials) : AddsToRules selected db db' :=
  ⟨hfiles, fun _ hm => .inl (hrules hm)⟩

theorem AddsToRules.refl {selected : List StoredFile} (db : Database) :
    AddsToRules selected db db :=
  .of_subset rfl fun _ hm => hm

theorem AddsToRules.trans {selected : List StoredFile} {db'' : Database}
    (h : AddsToRules selected db db') (h' : AddsToRules selected db' db'') :
    AddsToRules selected db db'' := by
  refine ⟨h'.1.trans h.1, fun m hm => ?_⟩
  rcases h'.2 m hm with hold | hnew
  · exact h.2 m hold
  · exact .inr hnew

/-- The files that are selected are ready. -/
theorem selectedReadyMaterials_bind {α : Type} {E : Environment Database RowKey}
    {G : Tx.Guarantee Database RowKey} {Q : α → Point Database RowKey → Prop}
    {X : ServiceError → Point Database RowKey → Prop} {x : Point Database RowKey}
    (workspaceId workId : Uuid) (fileIds : List Uuid) {f : List StoredFile → Program α}
    (hf : ∀ selected s, (∀ file ∈ selected,
      (Files.findReadyMaterial file.id (x.pending s)).isSome) →
        (f selected).Safe E G Q X { x with db := s }) :
    ((Works.selectedReadyMaterials workspaceId workId fileIds).bind f).Safe E G Q X x := by
  rw [Works.selectedReadyMaterials]
  split
  · exact hf [] x.db fun file hfile => by cases hfile
  · refine Tx.Safe.read_bind fun s _ _ => hf _ s fun file hfile => ?_
    obtain ⟨hmem, hmatch⟩ := List.mem_filter.1 hfile
    simp only [Works.isReadyMaterial, Bool.and_eq_true, beq_iff_eq] at hmatch
    exact isSome_findReadyMaterial.2 ⟨file, hmem, rfl, hmatch.2.1.2, hmatch.2.2⟩

/-- **`update_rule_materials` keeps rules ready**, beside transactions that leave ready what is
ready. -/
theorem updateRuleMaterials_rulesReady {E : Environment Database RowKey}
    (hrely : ∀ {H db db'}, E.Rely H db db' → KeepsReady db db')
    (actorId workspaceId workId : Uuid) (ruleName : String) (ruleDescription : Option String)
    (ruleContent : String) (materialFileIds : List Uuid) (expectedRevision : ℤ) (s : Database) :
    (Works.updateRuleMaterials actorId workspaceId workId ruleName ruleDescription ruleContent
      materialFileIds expectedRevision).Safe E
        (fun _ _ db db' => KeepsReady db db' ∧ (RulesReady db → RulesReady db'))
          (fun _ _ => True) (fun _ _ => True) (Point.start s) := by
  rw [Works.updateRuleMaterials]
  simp only [Tx.bind_eq]
  refine Tx.Safe.mapError ?_
  refine Tx.Safe.ensure_bind (fun _ => trivial) fun _ => ?_
  refine (Playtests.prepareManagerWrite_id workspaceId workId actorId none).safe_bind
    (fun _ => rfl) (fun _ _ _ => Eq.trans) (fun _ _ _ => trivial) fun managed y _ hy => ?_
  obtain ⟨work, accesses⟩ := managed
  refine selectedReadyMaterials_bind _ _ _ fun selected t hselected => ?_
  refine Tx.Safe.ensure_bind (fun _ => trivial) fun _ => ?_
  have hown : ∀ s, y.pending s = s := fun s => (hy.pending s).symm
  simp only [hown] at hselected
  -- The work, its old files and its new ones are written, in this order.
  have htrans : ∀ s t u, AddsToRules selected s t → AddsToRules selected t u →
      AddsToRules selected s u := fun _ _ _ => AddsToRules.trans
  have hrevision : (Works.updateRevision work.id expectedRevision fun w => { w with
      ruleName := some (strip ruleName)
      ruleDescription := ruleDescription.bind fun d => if d.isEmpty then none else some (strip d)
      ruleContent := some (strip ruleContent) }).Within (AddsToRules selected) fun _ => True := by
    refine (Tx.Within.lockAll _ _).andThen fun _ => Tx.Within.writeIf AddsToRules.refl ?_ _ _
    exact fun _ _ => .of_subset rfl fun _ hm => hm
  refine hrevision.safe_bind AddsToRules.refl htrans (fun _ _ _ => trivial) fun _ z _ hz => ?_
  refine (Tx.Within.write fun v db => ?_).safe_bind AddsToRules.refl htrans
    (fun _ _ _ => trivial) fun _ u _ hu => ?_
  · exact .of_subset rfl fun _ hm => (List.mem_filter.1 hm).1
  have hinsert : (insertRows (selected.map fun f => (⟨work.id, f.id⟩ : WorkMaterialFile))
      (exitAllowsWorkWrite work.id) fun rows db => { db with
        workMaterials := rows ++ db.workMaterials }).Within (AddsToRules selected)
          fun _ => True := by
    rw [insertRows]
    split
    · exact Tx.Within.pure trivial
    · refine insertRow_within AddsToRules.refl ?_ _ _ _
      refine fun db => ⟨rfl, fun m hm => ?_⟩
      rcases List.mem_append.1 hm with hm | hm
      · obtain ⟨file, hfile, rfl⟩ := List.mem_map.1 hm
        exact .inr ⟨file, hfile, rfl⟩
      · exact .inl hm
  refine hinsert.safe_bind AddsToRules.refl htrans (fun _ _ _ => trivial) fun _ v _ hv => ?_
  have hall := (hz.trans htrans hu).trans htrans hv
  refine Tx.Safe.commitNow_bind (f := Tx.pure) fun s _ hr => ⟨?_, Tx.Safe.pure trivial⟩
  have hwritten : AddsToRules selected s (v.pending s) := by
    have hwritten := hall.pending s
    rwa [show y.pending s = s from hown s] at hwritten
  have hlater : KeepsReady t s := hrely (E.trans hall.rely (E.anti hall.locks hr))
  refine ⟨keepsReady_of_files hwritten.1, fun hdb m hm => ?_⟩
  refine keepsReady_of_files hwritten.1 _ ?_
  rcases hwritten.2 m hm with hold | ⟨file, hfile, hid⟩
  · exact hdb m hold
  · rw [hid]
    exact hlater _ (hselected file hfile)

/-! ## The calls of playtests -/

theorem sameRules_of_aside {K : TodoKind → Prop} (h : Playtests.Aside K db db') :
    db'.files = db.files ∧ db'.workMaterials = db.workMaterials := by
  cases h with
  | ended now todoId verdict => cases verdict <;> exact ⟨rfl, rfl⟩
  | _ => exact ⟨rfl, rfl⟩

/-- Every other call leaves files and rules alone. -/
theorem sameRules_of_change {call : Playtests.Call} (hcall : ∀ change, call ≠ .elsewhere change)
    (h : Playtests.Change call db db') :
    db'.files = db.files ∧ db'.workMaterials = db.workMaterials := by
  cases h with
  | aside h => exact sameRules_of_aside h
  | elsewhere change helsewhere => exact absurd helsewhere (hcall change)
  | _ => exact ⟨rfl, rfl⟩

/-- What a commit does to files and rules. -/
def sameRules (call : Playtests.Call) : Tx.Guarantee Database RowKey := fun _ _ db db' =>
  (∀ change, call ≠ .elsewhere change) →
    db'.files = db.files ∧ db'.workMaterials = db.workMaterials

theorem program_sameRules (settings : Settings) (normalizeEmail : String → Option String)
    {E : Environment Database RowKey} (call : Playtests.Call) (s : Database) :
    (call.program settings normalizeEmail).Safe E (sameRules call) (fun _ _ => True)
      (fun _ _ => True) (Point.start s) := by
  have hchanges : (call.program settings normalizeEmail).Steps fun db db' =>
      (∀ change, call ≠ .elsewhere change) →
        db'.files = db.files ∧ db'.workMaterials = db.workMaterials :=
    (Playtests.Call.changes settings normalizeEmail call).mono
      fun _ _ h hcall => sameRules_of_change hcall h
  exact hchanges.safe (fun _ _ => ⟨rfl, rfl⟩)
    (fun _ _ _ h h' hcall => ⟨(h' hcall).1.trans (h hcall).1, (h' hcall).2.trans (h hcall).2⟩)
    fun _ _ => ⟨rfl, rfl⟩

variable {settings : Settings} {normalizeEmail : String → Option String}
  {c : Config Database RowKey ServiceError Unit Playtests.Call}

/-- **Rules are ready** in every reachable configuration, if the transactions of other packages that
were committed keep them ready. -/
theorem rulesReady_of_reachable (hc : (Playtests.system settings normalizeEmail).Reachable c)
    (hother : ∀ e ∈ c.history, ∀ change, e.op = .elsewhere change →
      RulesReady e.before → RulesReady e.after) : RulesReady c.db := by
  have hsafe : SafeConfig (environment (fun _ => True) sameRules) sameRules (fun _ _ _ => True)
      (fun _ _ _ => True) c :=
    sound (closed_environment fun _ _ _ _ _ _ _ => trivial) (fun _ _ => trivial)
      (fun call s _ => program_sameRules settings normalizeEmail call s) hc
  obtain ⟨s₀, rfl, hlinked⟩ := (wellFormed_of_reachable hc).linked
  refine hlinked.kept (fun e he hbefore => ?_) fun m hm => by cases hm
  obtain ⟨-, n, H, hsame⟩ := hsafe.history e he
  by_cases hcall : ∀ change, e.op ≠ .elsewhere change
  · obtain ⟨hfiles, hrules⟩ := hsame hcall
    exact hbefore.later (keepsReady_of_files hfiles) (hrules ▸ fun _ hm => hm)
  · obtain ⟨change, hchange⟩ := not_forall_not.1 hcall
    exact hother e he change hchange hbefore

end Exports

end Rulefolio
