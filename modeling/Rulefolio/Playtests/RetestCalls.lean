import Rulefolio.Library.LockedViews
import Rulefolio.Playtests.Footprint

/-!
# Retests under concurrency

An issue and its retests are a view of the database, guarded by the lock of the issue: every
operation that writes one of these rows has locked the issue first. So each operation is followed on
the view of its issue, and its commit is a `RetestStep` there.

That a link is written by its key alone, without its issue, is the one thing the view does not
show. The keys of all links differ, because a new one is inserted under a lock of its key.

## Main definitions

* `issueViews`, `linkViews` — the views.
* `RetestsConsistent` — the invariant of the database.

## Main results

* `retests_of_reachable` — the invariant holds in every interleaving, and every commit is a step.
-/

namespace Rulefolio

namespace Playtests

open ReadCommitted Issues

/-! ## The views -/

/-- The rows of an issue and of its retests, guarded by the lock of the issue. -/
def issueViews : LockedViews Database RowKey Uuid IssueView where
  view k db := ⟨db.issues.filter (·.id == k), db.retestLinks.filter (·.issueId == k)⟩
  lock k := .issue k

/-- The keys of all links. -/
def linkIds (db : Database) : List Uuid :=
  db.retestLinks.map (·.id)

/-- How many links there are under a key, guarded by the lock of the key. -/
def linkViews : LockedViews Database RowKey Uuid ℕ where
  view i db := (linkIds db).count i
  lock i := .retestLink i

/-- A key is taken when it was free. -/
inductive KeyStep : ℕ → ℕ → Prop
  | stays (n : ℕ) : KeyStep n n
  | taken : KeyStep 0 1

theorem KeyStep.le_one {m n : ℕ} (h : KeyStep m n) (hm : m ≤ 1) : n ≤ 1 := by
  cases h with
  | stays => exact hm
  | taken => exact le_rfl

/-- Every issue is consistent with its retests, and the keys of the links differ. -/
structure RetestsConsistent (db : Database) : Prop where
  issue : ∀ k, (issueViews.view k db).Consistent
  ids : (linkIds db).Nodup

/-- What a commit of a call does to issues and retests. -/
def retestGuarantee : Tx.Guarantee Database RowKey := fun _ H db db' =>
  issueViews.Commits RetestStep H db db' ∧ linkViews.Commits KeyStep H db db'

theorem retestGuarantee_consistent {n : ℕ} {H : Set (RowKey × RowLock)} {db db' : Database}
    (h : retestGuarantee n H db db') (hdb : RetestsConsistent db) : RetestsConsistent db' := by
  refine ⟨fun k => (h.1.step k).consistent (hdb.issue k), List.nodup_iff_count_le_one.2 fun i => ?_⟩
  exact (h.2.step i).le_one (List.nodup_iff_count_le_one.1 hdb.ids i)

/-- The environment the calls make for each other. -/
abbrev amongRetests : Environment Database RowKey :=
  environment RetestsConsistent fun _ : Call => retestGuarantee

theorem closed_amongRetests : Closed amongRetests fun _ : Call => retestGuarantee :=
  closed_environment fun _ _ _ _ _ hs hG => retestGuarantee_consistent hG hs

theorem respected_issueViews : issueViews.Respected amongRetests :=
  LockedViews.respected_environment fun _ _ _ _ _ hG => hG.1.locked

theorem respected_linkViews : linkViews.Respected amongRetests :=
  LockedViews.respected_environment fun _ _ _ _ _ hG => hG.2.locked

/-! ## What the views do not show -/

/-- Issues and links are left alone. -/
theorem same_of_tables {db db' : Database} (hissues : db'.issues = db.issues)
    (hlinks : db'.retestLinks = db.retestLinks) : issueViews.Same db db' := fun k => by
  show IssueView.mk _ _ = IssueView.mk _ _
  rw [hissues, hlinks]

theorem sameKeys_of_tables {db db' : Database} (hlinks : db'.retestLinks = db.retestLinks) :
    linkViews.Same db db' := fun i => by
  show (linkIds db').count i = (linkIds db).count i
  rw [linkIds, hlinks, linkIds]

theorem tables_of_aside {K : TodoKind → Prop} {db db' : Database} (h : Aside K db db') :
    db'.issues = db.issues ∧ db'.retestLinks = db.retestLinks := by
  cases h with
  | ended now todoId verdict => cases verdict <;> exact ⟨rfl, rfl⟩
  | _ => exact ⟨rfl, rfl⟩

theorem frame_issueViews : Frame issueViews.Same fun _ => True := fun _ _ h =>
  same_of_tables (tables_of_aside h).1 (tables_of_aside h).2

theorem frame_linkViews : Frame linkViews.Same fun _ => True := fun _ _ h =>
  sameKeys_of_tables (tables_of_aside h).2

/-- What a call does that writes no issue. -/
theorem Change.tables {call : Call} (hcall : call.writesIssues = false) {db db' : Database}
    (h : Change call db db') : db'.issues = db.issues ∧ db'.retestLinks = db.retestLinks := by
  have hno : ∀ p : Call → Bool, (∀ c, p c = true → c.writesIssues = true) → ¬p call = true :=
    fun p hp hc => by simp [hp call hc] at hcall
  cases h with
  | aside h => exact tables_of_aside h
  | issueCreated h => exact absurd h (hno _ fun c => by cases c <;> simp [Call.createsIssue,
      Call.writesIssues])
  | issueEdited h => exact absurd h (hno _ fun _ => id)
  | retestBound h => exact absurd h (hno _ fun c => by cases c <;> simp [Call.bindsRetest,
      Call.writesIssues])
  | conclusionsCleared h => exact absurd h (hno _ fun c => by cases c <;>
      simp [Call.clearsConclusions, Call.writesIssues])
  | concluded h => exact absurd h (hno _ fun c => by cases c <;> simp [Call.concludes,
      Call.writesIssues])
  | _ => exact ⟨rfl, rfl⟩

/-- What a call does that binds no retest. -/
theorem Change.sameKeys {call : Call} (hcall : call.bindsRetest = false) {db db' : Database}
    (h : Change call db db') : linkViews.Same db db' := by
  have hkept : ∀ (p : IssueRetestLink → Bool) (change : IssueRetestLink → IssueRetestLink),
      KeepsRetest change →
      linkViews.Same db { db with retestLinks := Table.update p change db.retestLinks } := by
    intro p change h i
    show (linkIds _).count i = (linkIds _).count i
    rw [linkIds, linkIds, Table.map_update _ fun l _ => (h l).1]
  cases h with
  | aside h => exact sameKeys_of_tables (tables_of_aside h).2
  | retestBound h => rw [hcall] at h; cases h
  | conclusionsCleared _ p => exact hkept p _ keepsRetest_clearConclusion
  | concluded _ p change h => exact hkept p change h
  | _ => exact sameKeys_of_tables rfl

/-! ## Following an operation on its issue -/

section Rules

variable {α β : Type} {G : Tx.Guarantee Database RowKey}
  {Q : α → Point Database RowKey → Prop} {X : ServiceError → Point Database RowKey → Prop}
  {x : Point Database RowKey} {k : Uuid} {v : IssueView} {rows : List Issue}
  {links : List IssueRetestLink}

/-- The rows of a consistent issue, one of which was found. -/
theorem rows_eq_singleton {db : Database} (hdb : RetestsConsistent db) {issue : Issue}
    (hissue : issue ∈ (issueViews.view issue.id db).rows) :
    (issueViews.view issue.id db).rows = [issue] := by
  obtain ⟨i, hi⟩ := List.length_eq_one_iff.1
    (le_antisymm (hdb.issue issue.id).unique (List.length_pos_of_mem hissue))
  rw [hi, List.mem_singleton] at hissue
  rw [hi, hissue]

/-- `_load_issue` in a transaction that has changed no issue. -/
theorem lockIssue_bind (h : issueViews.Clean amongRetests x) (hX : ∀ e y, X e y)
    {f : Issue → Program α}
    (hf : ∀ issue links y, issue.id = k →
      issueViews.Holds amongRetests k ⟨[issue], links⟩ ⟨[issue], links⟩ y →
      (f issue).Safe amongRetests G Q X y) :
    ((loadIssue k).bind f).Safe amongRetests G Q X x := by
  rw [loadIssue]
  simp only [Tx.bind_eq, Tx.bind_assoc]
  refine h.selectForUpdate_bind (k := k) respected_issueViews (fun db issue hfind => ?_)
    (fun s _ _ _ => Tx.Safe.raise (hX _ _)) fun s hs hr hy hsame => ?_
  · have hid := List.find?_some hfind
    simp only [Bool.and_eq_true, beq_iff_eq] at hid
    exact congrArg RowKey.issue hid.1
  refine Tx.Safe.require_bind (fun _ => hX _ _) fun issue hfind => ?_
  have hid := List.find?_some hfind
  simp only [Bool.and_eq_true, beq_iff_eq] at hid
  obtain ⟨rfl, -⟩ := hid
  have hmem : issue ∈ (issueViews.view issue.id (x.pending s)).rows :=
    List.mem_filter.2 ⟨List.mem_of_find?_eq_some hfind, by simp⟩
  rw [hsame] at hmem
  have hview : issueViews.view issue.id s = ⟨[issue], (issueViews.view issue.id s).links⟩ := by
    rw [← rows_eq_singleton hs hmem]
  rw [hview] at hy
  exact hf issue _ _ rfl hy

/-- The `UPDATE` of the issue. -/
theorem editIssue_bind (h : issueViews.Holds amongRetests k v ⟨rows, links⟩ x)
    (hX : ∀ e y, X e y) {change : Issue → Issue} (hid : ∀ i, (change i).id = i.id)
    {f : Unit → Program α}
    (hf : ∀ y, issueViews.Holds amongRetests k v ⟨rows.map change, links⟩ y →
      (f ()).Safe amongRetests G Q X y) :
    ((writeIssue k change).bind f).Safe amongRetests G Q X x := by
  refine Tx.Safe.writeIf_bind (fun _ _ _ => hX _ _) fun s _ hr _ => hf _ ?_
  refine h.write respected_issueViews (fun t _ _ ht => ?_) (fun t _ _ j hj => ?_) hr
  · have hrows : (x.pending t).issues.filter (·.id == k) = rows := congrArg IssueView.rows ht
    have hlinks : (x.pending t).retestLinks.filter (·.issueId == k) = links :=
      congrArg IssueView.links ht
    show IssueView.mk _ _ = _
    rw [Table.filter_update_self _ fun i hi => by rw [hid]; exact hi, hrows, hlinks]
  · have hne : ∀ i : Issue, (i.id == k) = true → (i.id == j) = false := by
      intro i hi
      rw [beq_iff_eq] at hi
      simp [hi, Ne.symm hj]
    show IssueView.mk _ _ = IssueView.mk _ _
    rw [Table.filter_update _ fun i hi => ⟨hne i hi, by rw [hid]; exact hne i hi⟩]

/-- The change of one link that the `UPDATE` of some of them makes. -/
def editLinks (ids : List Uuid) (change : IssueRetestLink → IssueRetestLink)
    (l : IssueRetestLink) : IssueRetestLink :=
  if ids.contains l.id then change l else l

theorem keepsRetest_editLinks {ids : List Uuid} {change : IssueRetestLink → IssueRetestLink}
    (h : KeepsRetest change) : KeepsRetest (editLinks ids change) := by
  intro l
  rw [editLinks]
  split
  · exact h l
  · exact ⟨rfl, rfl, rfl, rfl⟩

theorem filter_editLinks {ids : List Uuid} {change : IssueRetestLink → IssueRetestLink}
    (h : KeepsRetest change) (t : List IssueRetestLink) (j : Uuid) :
    (Table.update (fun l => ids.contains l.id) change t).filter (·.issueId == j) =
      (t.filter (·.issueId == j)).map (editLinks ids change) := by
  show (t.map (editLinks ids change)).filter _ = _
  rw [List.filter_map]
  congr 1
  refine List.filter_congr fun l _ => ?_
  rw [Function.comp, (keepsRetest_editLinks h l).2.1]

/-- The `UPDATE` of links of the issue, which are those with these keys. -/
theorem editLinks_bind (h : issueViews.Holds amongRetests k v ⟨rows, links⟩ x)
    (hX : ∀ e y, X e y) {ids : List Uuid} {change : IssueRetestLink → IssueRetestLink}
    (hkeeps : KeepsRetest change) (hids : ∀ i ∈ ids, ∃ l ∈ v.links, l.id = i)
    {f : Unit → Program α}
    (hf : ∀ y, issueViews.Holds amongRetests k v ⟨rows, links.map (editLinks ids change)⟩ y →
      (f ()).Safe amongRetests G Q X y) :
    ((writeLinks k ids change).bind f).Safe amongRetests G Q X x := by
  rw [writeLinks]
  split
  · rename_i hempty
    refine hf x ?_
    have hnone : links.map (editLinks ids change) = links := by
      refine (List.map_congr_left fun l _ => ?_).trans (List.map_id _)
      simp [editLinks, List.isEmpty_iff.1 hempty]
    rwa [hnone]
  refine Tx.Safe.writeIf_bind (fun _ _ _ => hX _ _) fun s _ hr _ => hf _ ?_
  refine h.write respected_issueViews (fun t _ _ ht => ?_) (fun t ht hrt j hj => ?_) hr
  · have hrows : (x.pending t).issues.filter (·.id == k) = rows := congrArg IssueView.rows ht
    have hlinks : (x.pending t).retestLinks.filter (·.issueId == k) = links :=
      congrArg IssueView.links ht
    show IssueView.mk _ _ = _
    rw [filter_editLinks hkeeps, hrows, hlinks]
  · show IssueView.mk _ _ = IssueView.mk _ _
    rw [filter_editLinks hkeeps]
    refine congrArg (IssueView.mk _) ((List.map_congr_left fun l hl => ?_).trans (List.map_id _))
    -- A link with one of these keys is a link of this issue, and of no other.
    have hother := congrArg IssueView.links (h.others t ht hrt j hj)
    have hl' : l ∈ (issueViews.view j t).links := by
      rw [← hother]
      exact hl
    have hl' := List.mem_filter.1 hl'
    rw [beq_iff_eq] at hl'
    have hnot : ids.contains l.id = false := by
      rw [List.contains_eq_mem, decide_eq_false_iff_not]
      intro hmem
      obtain ⟨l₀, hl₀, hid⟩ := hids _ hmem
      rw [← h.view_eq respected_issueViews hrt] at hl₀
      obtain ⟨hl₀, hk⟩ := List.mem_filter.1 hl₀
      rw [beq_iff_eq] at hk
      obtain rfl := List.inj_on_of_nodup_map ht.ids hl₀ hl'.1 hid
      exact hj (hl'.2.symm.trans hk)
    simp only [editLinks, hnot, Bool.false_eq_true, if_false, id_eq]

/-- The `INSERT` of a link. -/
theorem insertLink_bind (h : issueViews.Holds amongRetests k v ⟨rows, links⟩ x)
    (hX : ∀ e y, X e y) {link : IssueRetestLink} (hk : link.issueId = k) {keys : List RowKey}
    {absent admits : Database → Bool}
    (habsent : ∀ db, absent db = true → link.id ∉ linkIds db) {f : Unit → Program α}
    (hf : ∀ y, link.id ∉ links.map (·.id) →
      issueViews.Holds amongRetests k v ⟨rows, link :: links⟩ y →
      (f ()).Safe amongRetests G Q X y) :
    ((insertRow keys absent admits fun db => { db with
      retestLinks := link :: db.retestLinks }).bind f).Safe amongRetests G Q X x := by
  rw [insertRow, Tx.bind_assoc]
  refine Tx.Safe.lockAll_bind fun H s hH _ hr => ?_
  have hy := h.later respected_issueViews hH hr
  refine Tx.Safe.writeIf_bind (fun _ _ _ => hX _ _) fun t ht hrt ha => ?_
  have hfree := habsent _ (Bool.and_eq_true_iff.1 ha).1
  refine hf _ (fun hmem => hfree ?_) ?_
  · obtain ⟨l, hl, hid⟩ := List.mem_map.1 hmem
    have hsees := congrArg IssueView.links (hy.sees t ht hrt)
    have hl' : l ∈ (issueViews.view k (x.pending t)).links := by
      rw [hsees]
      exact hl
    exact List.mem_map.2 ⟨l, (List.mem_filter.1 hl').1, hid⟩
  · refine hy.write respected_issueViews (fun u _ _ hu => ?_) (fun u _ _ j hj => ?_) hrt
    · have hrows : (x.pending u).issues.filter (·.id == k) = rows := congrArg IssueView.rows hu
      have hlinks : (x.pending u).retestLinks.filter (·.issueId == k) = links :=
        congrArg IssueView.links hu
      show IssueView.mk _ _ = _
      rw [List.filter_cons_of_pos (by simp [hk]), hrows, hlinks]
    · show IssueView.mk _ _ = IssueView.mk _ _
      rw [List.filter_cons_of_neg (by simp [hk, Ne.symm hj])]

/-- The `INSERT` of an issue. There is no issue under its key, hence no link of it. -/
theorem insertIssue_bind (h : issueViews.Clean amongRetests x) (hX : ∀ e y, X e y) {issue : Issue}
    {absent admits : Database → Bool}
    (habsent : ∀ db, absent db = true → ∀ i ∈ db.issues, i.id ≠ issue.id) {f : Unit → Program α}
    (hf : ∀ y, issueViews.Holds amongRetests issue.id ⟨[], []⟩ ⟨[issue], []⟩ y →
      (f ()).Safe amongRetests G Q X y) :
    ((insertRow [.issue issue.id] absent admits fun db => { db with
      issues := issue :: db.issues }).bind f).Safe amongRetests G Q X x := by
  rw [insertRow, Tx.bind_assoc]
  refine Tx.Safe.lockAll_bind fun H s hH hkeys hr => ?_
  have hlock : (issueViews.lock issue.id, .update) ∈ H := hkeys _ List.mem_cons_self
  have hheld := (h.later hH hr).holds respected_issueViews hlock
  refine Tx.Safe.writeIf_bind (fun _ _ _ => hX _ _) fun t ht hrt ha => hf _ ?_
  have hempty : issueViews.view issue.id s = ⟨[], []⟩ := by
    have hcommitted := hheld.view_eq respected_issueViews hrt
    have hrows : (issueViews.view issue.id s).rows = [] := by
      rw [← hheld.sees t ht hrt]
      refine List.filter_eq_nil_iff.2 fun i hi hid => ?_
      exact habsent _ (Bool.and_eq_true_iff.1 ha).1 i hi (beq_iff_eq.1 hid)
    have hlinks := (ht.issue issue.id).orphan (hcommitted ▸ hrows)
    rw [hcommitted] at hlinks
    exact congrArg₂ IssueView.mk hrows hlinks
  rw [show issueViews.view issue.id _ = ⟨[], []⟩ from hempty] at hheld
  refine hheld.write respected_issueViews (fun u _ _ hu => ?_) (fun u _ _ j hj => ?_) hrt
  · have hrows : (x.pending u).issues.filter (·.id == issue.id) = [] := congrArg IssueView.rows hu
    have hlinks : (x.pending u).retestLinks.filter (·.issueId == issue.id) = [] :=
      congrArg IssueView.links hu
    show IssueView.mk _ _ = _
    rw [List.filter_cons_of_pos (by simp), hrows, hlinks]
  · show IssueView.mk _ _ = IssueView.mk _ _
    rw [List.filter_cons_of_neg (by simp [Ne.symm hj])]

/-- What comes after the last commit. -/
theorem safe_of_within {E : Environment Database RowKey} {F : Database → Database → Prop}
    {P : α → Prop} (hrefl : ∀ s, F s s) (htrans : ∀ s t u, F s t → F t u → F s u) {t : Program α}
    (ht : t.Within F P) : t.Safe E G (fun _ _ => True) (fun _ _ => True) x :=
  (ht.safe hrefl htrans).mono (fun _ _ _ => trivial) fun _ _ _ => trivial

theorem currentConclusion_tail (issue : Issue) :
    ((currentConclusion issue).bind fun _ => Tx.pure ()).Safe amongRetests G (fun _ _ => True)
      (fun _ _ => True) x :=
  safe_of_within LockedViews.Same.refl LockedViews.Same.trans
    ((keeps_currentConclusion frame_issueViews issue).bind fun _ => keeps_pure _)

/-- The end of every operation on an issue. -/
theorem commitRetest_safe {w : IssueView} (h : issueViews.Holds amongRetests k v w x)
    (hstep : RetestStep v w) (issue : Issue) :
    (Tx.commitNow.bind fun _ => (currentConclusion issue).bind fun _ => Tx.pure ()).Safe
      amongRetests (fun _ => issueViews.Commits RetestStep) (fun _ _ => True) (fun _ _ => True)
        x :=
  Tx.Safe.commitNow_bind fun _ hs hr =>
    ⟨h.commits respected_issueViews .stays hstep hs hr, currentConclusion_tail issue⟩

end Rules

/-! ## Operations -/

variable {x : Point Database RowKey}

theorem retests_updateIssue (h : issueViews.Clean amongRetests x) (uuids : Uuids)
    (now : Timestamp) (actorId workspaceId workId issueId : Uuid) (description : String)
    (decision : IssueDecision) (reason : String) (note : Option String) (status : IssueStatus)
    (expectedRevision : ℤ) :
    (updateIssue uuids now actorId workspaceId workId issueId description decision reason note
      status expectedRevision).Safe amongRetests (fun _ => issueViews.Commits RetestStep)
        (fun _ _ => True) (fun _ _ => True) x := by
  rw [updateIssue]
  simp -zeta only [Tx.bind_eq, Tx.pure_eq]
  have hX : ∀ (e : ServiceError) (y : Point Database RowKey), True := fun _ _ => trivial
  refine Tx.Safe.mapError ?_
  refine h.within_bind hX (keeps_require _ _) fun texts y _ h _ => ?_
  refine h.within_bind hX (keeps_require _ _) fun note y _ h _ => ?_
  refine h.within_bind hX (keeps_ensure _ _) fun _ y _ h _ => ?_
  refine h.within_bind hX (keeps_requireIssueManagement frame_issueViews _ _ _) fun _ y _ h _ => ?_
  refine lockIssue_bind h hX fun issue links y hid hy => ?_
  subst hid
  refine hy.within_bind respected_issueViews hX (keeps_ensure _ _) fun _ y _ hy _ => ?_
  extract_lets changed change
  refine editIssue_bind hy hX ?_ fun y hy => ?_
  · exact fun _ => rfl
  have hdone : ∀ {w : IssueView} {y : Point Database RowKey},
      issueViews.Holds amongRetests issue.id ⟨[issue], links⟩ w y →
      RetestStep ⟨[issue], links⟩ w → ∀ b,
      (Tx.bind (updateTodos uuids now (change issue) b changed) fun _ =>
        Tx.commitNow.bind fun _ => (currentConclusion (change issue)).bind fun _ =>
          Tx.pure ()).Safe amongRetests (fun _ => issueViews.Commits RetestStep)
            (fun _ _ => True) (fun _ _ => True) y := fun hy hstep b =>
    hy.within_bind respected_issueViews hX
      (keeps_updateTodos frame_issueViews trivial trivial _ _ _ _ _) fun _ y _ hy _ =>
        commitRetest_safe hy hstep _
  split
  · rename_i hchanged
    refine hy.selectAllForUpdate_bind respected_issueViews (g := IssueView.links) (fun _ => rfl)
      fun y hy => ?_
    refine editLinks_bind hy hX keepsRetest_clearConclusion (fun i hi => ?_) fun y hy => ?_
    · obtain ⟨l, hl, rfl⟩ := List.mem_map.1 hi
      exact ⟨l, hl, rfl⟩
    refine hdone hy (.adjusted issue (change issue) links rfl ?_ _
      (keepsRetest_editLinks keepsRetest_clearConclusion) fun l hl => ?_) _
    · simp [change, hchanged]
    · have hmem : (links.map (·.id)).contains l.id = true :=
        List.contains_iff_mem.2 (List.mem_map_of_mem hl)
      rw [editLinks, if_pos hmem]
      rfl
  · rename_i hchanged
    refine hdone hy (.edited issue (change issue) links ⟨rfl, ?_, ?_⟩) _
    · simpa [changed] using hchanged
    · simp [change, hchanged]

theorem retests_saveRetestConclusion (h : issueViews.Clean amongRetests x)
    (actorId workspaceId workId issueId retestId : Uuid) (conclusion : RetestConclusion)
    (reason : String) (status : IssueStatus) (expectedRevision : ℤ) :
    (saveRetestConclusion actorId workspaceId workId issueId retestId conclusion reason status
      expectedRevision).Safe amongRetests (fun _ => issueViews.Commits RetestStep)
        (fun _ _ => True) (fun _ _ => True) x := by
  rw [saveRetestConclusion]
  simp -zeta only [Tx.bind_eq, Tx.pure_eq]
  have hX : ∀ (e : ServiceError) (y : Point Database RowKey), True := fun _ _ => trivial
  refine Tx.Safe.mapError ?_
  refine h.within_bind hX (keeps_require _ _) fun reason y _ h _ => ?_
  refine h.within_bind hX (keeps_ensure _ _) fun _ y _ h _ => ?_
  refine h.within_bind hX (keeps_requireIssueManagement frame_issueViews _ _ _) fun _ y _ h _ => ?_
  refine lockIssue_bind h hX fun issue links y hid hy => ?_
  subst hid
  refine hy.within_bind respected_issueViews hX (keeps_ensure _ _) fun _ y _ hy _ => ?_
  refine hy.selectForUpdate_bind respected_issueViews
    (g := fun v => v.links.find? (·.id == retestId)) (fun db => ?_) fun y hy => ?_
  · show _ = (db.retestLinks.filter _).find? _
    rw [List.find?_filter]
    exact congrArg (List.find? · _) 
      (funext fun l => Bool.eq_iff_iff.2 (by simp [and_comm]))
  refine Tx.Safe.require_bind (fun _ => trivial) fun retest hfind => ?_
  have hretest := List.mem_of_find?_eq_some hfind
  refine Tx.Safe.ensure_bind (fun _ => trivial) fun hgeneration => ?_
  rw [beq_iff_eq] at hgeneration
  refine hy.within_bind respected_issueViews hX (keeps_read frame_issueViews _)
    fun _ y _ hy _ => ?_
  refine hy.within_bind respected_issueViews hX (keeps_require _ _) fun item y _ hy _ => ?_
  refine hy.within_bind respected_issueViews hX (keeps_ensure _ _) fun _ y _ hy _ => ?_
  extract_lets change rest
  -- Whether evidence is asked for or not, the call goes on alike.
  have hrest : ∀ y, issueViews.Holds amongRetests issue.id ⟨[issue], links⟩ ⟨[issue], links⟩ y →
      (rest ()).Safe amongRetests (fun _ => issueViews.Commits RetestStep) (fun _ _ => True)
        (fun _ _ => True) y := by
    intro y hy
    refine hy.selectAllForUpdate_bind respected_issueViews
      (g := fun v => v.links.filter fun l => l.id != retest.id && l.conclusion.isSome)
      (fun db => ?_) fun y hy => ?_
    · show _ = (db.retestLinks.filter _).filter _
      rw [List.filter_filter]
      exact congrArg (List.filter · _) (funext fun l => by rw [Bool.and_assoc, Bool.and_comm])
    refine editLinks_bind hy hX keepsRetest_clearConclusion (fun i hi => ?_) fun y hy => ?_
    · obtain ⟨l, hl, rfl⟩ := List.mem_map.1 hi
      exact ⟨l, (List.mem_filter.1 hl).1, rfl⟩
    refine editIssue_bind hy hX ?_ fun y hy => ?_
    · exact fun _ => rfl
    have hconclude : KeepsRetest fun l => { l with
        conclusion := some conclusion, conclusionReason := some reason } :=
      fun _ => ⟨rfl, rfl, rfl, rfl⟩
    refine editLinks_bind hy hX hconclude (fun i hi => ?_) fun y hy => ?_
    · rw [List.mem_singleton] at hi
      exact ⟨retest, hretest, hi.symm⟩
    rw [List.map_map] at hy
    refine commitRetest_safe hy (.concluded issue (change issue) links ⟨rfl, rfl, rfl⟩ retest
      hretest hgeneration _ ((keepsRetest_editLinks keepsRetest_clearConclusion).comp
        (keepsRetest_editLinks hconclude)) (fun l hl => ?_) fun l hl hne => ?_) _
    · have hkept : ∀ ids, (editLinks ids clearConclusion l).id = retest.id := fun _ =>
        (keepsRetest_editLinks keepsRetest_clearConclusion l).1.trans hl
      rw [Function.comp, editLinks, if_pos (by simp [hkept])]
      rfl
    · have hkept : ∀ ids, (editLinks ids clearConclusion l).id = l.id := fun _ =>
        (keepsRetest_editLinks keepsRetest_clearConclusion l).1
      rw [Function.comp, editLinks, if_neg (by simp [hkept, hne]), editLinks]
      split
      · rfl
      · rename_i hnot
        by_contra hsome
        refine hnot (List.contains_iff_mem.2 (List.mem_map_of_mem (List.mem_filter.2 ⟨hl, ?_⟩)))
        simpa [hne] using Option.isSome_iff_ne_none.2 hsome
  split
  · refine hy.within_bind respected_issueViews hX (keeps_referencesForIssue frame_issueViews _)
      fun references y _ hy _ => ?_
    refine hy.within_bind respected_issueViews hX
      (keeps_hasIssueEvidenceFromSession frame_issueViews _ _) fun found y _ hy _ => ?_
    exact hy.within_bind respected_issueViews hX (keeps_ensure _ _) fun _ y _ hy _ => hrest _ hy
  · exact hrest _ hy

theorem retests_addIssueEvidence (h : issueViews.Clean amongRetests x) (uuids : Uuids)
    (actorId workspaceId workId issueId : Uuid) (expectedRevision : ℤ)
    (reference : Evidence.IssueEvidenceReference) :
    (addIssueEvidence uuids actorId workspaceId workId issueId expectedRevision reference).Safe
      amongRetests (fun _ => issueViews.Commits RetestStep) (fun _ _ => True) (fun _ _ => True)
        x := by
  rw [addIssueEvidence]
  simp -zeta only [Tx.bind_eq, Tx.pure_eq]
  have hX : ∀ (e : ServiceError) (y : Point Database RowKey), True := fun _ _ => trivial
  refine Tx.Safe.mapError ?_
  refine h.within_bind hX (keeps_ensure _ _) fun _ y _ h _ => ?_
  refine h.within_bind hX (keeps_requireIssueManagement frame_issueViews _ _ _) fun _ y _ h _ => ?_
  refine lockIssue_bind h hX fun issue links y hid hy => ?_
  subst hid
  refine hy.within_bind respected_issueViews hX (keeps_ensure _ _) fun _ y _ hy _ => ?_
  refine hy.within_bind respected_issueViews hX
    (keeps_validateIssueEvidenceSources frame_issueViews _ _ _) fun _ y _ hy _ => ?_
  refine hy.within_bind respected_issueViews hX (keeps_referencesForIssue frame_issueViews _)
    fun existing y _ hy _ => ?_
  refine hy.within_bind respected_issueViews hX (keeps_ensure _ _) fun _ y _ hy _ => ?_
  refine hy.within_bind respected_issueViews hX (keeps_addLinks frame_issueViews _ _ _
    fun _ _ _ => same_of_tables rfl rfl) fun _ y _ hy _ => ?_
  extract_lets change
  refine editIssue_bind hy hX ?_ fun y hy => ?_
  · exact fun _ => rfl
  exact commitRetest_safe hy (.edited issue (change issue) links ⟨rfl, rfl, rfl⟩) _

theorem retests_removeIssueEvidence (h : issueViews.Clean amongRetests x)
    (actorId workspaceId workId issueId linkId : Uuid) (expectedRevision : ℤ) :
    (removeIssueEvidence actorId workspaceId workId issueId linkId expectedRevision).Safe
      amongRetests (fun _ => issueViews.Commits RetestStep) (fun _ _ => True) (fun _ _ => True)
        x := by
  rw [removeIssueEvidence]
  simp -zeta only [Tx.bind_eq, Tx.pure_eq]
  have hX : ∀ (e : ServiceError) (y : Point Database RowKey), True := fun _ _ => trivial
  refine Tx.Safe.mapError ?_
  refine h.within_bind hX (keeps_ensure _ _) fun _ y _ h _ => ?_
  refine h.within_bind hX (keeps_requireIssueManagement frame_issueViews _ _ _) fun _ y _ h _ => ?_
  refine lockIssue_bind h hX fun issue links y hid hy => ?_
  subst hid
  refine hy.within_bind respected_issueViews hX (keeps_ensure _ _) fun _ y _ hy _ => ?_
  refine hy.within_bind respected_issueViews hX (keeps_read frame_issueViews _)
    fun found y _ hy _ => ?_
  refine hy.within_bind respected_issueViews hX (keeps_require _ _) fun target y _ hy _ => ?_
  refine hy.within_bind respected_issueViews hX (keeps_ensure _ _) fun _ y _ hy _ => ?_
  extract_lets change
  refine editIssue_bind hy hX ?_ fun y hy => ?_
  · exact fun _ => rfl
  refine hy.within_bind respected_issueViews hX (keeps_updateRow frame_issueViews
    (fun _ => ?_) _) fun _ y _ hy _ => ?_
  · exact same_of_tables rfl rfl
  exact commitRetest_safe hy (.edited issue (change issue) links ⟨rfl, rfl, rfl⟩) _

theorem retests_createIssue (h : issueViews.Clean amongRetests x) (uuids : Uuids)
    (now : Timestamp) (actorId workspaceId workId : Uuid) (operationKey description : String)
    (decision : IssueDecision) (reason : String) (status : IssueStatus)
    (references : List Evidence.IssueEvidenceReference) :
    (createIssue uuids now actorId workspaceId workId operationKey description decision reason
      status references).Safe amongRetests (fun _ => issueViews.Commits RetestStep)
        (fun _ _ => True) (fun _ _ => True) x := by
  rw [createIssue]
  simp -zeta only [Tx.bind_eq, Tx.pure_eq]
  have hX : ∀ (e : ServiceError) (y : Point Database RowKey), True := fun _ _ => trivial
  refine Tx.Safe.mapError ?_
  refine h.within_bind hX (keeps_require _ _) fun texts y _ h _ => ?_
  refine h.within_bind hX (keeps_ensure _ _) fun _ y _ h _ => ?_
  refine h.within_bind hX (keeps_requireIssueManagement frame_issueViews _ _ _) fun _ y _ h _ => ?_
  refine h.within_bind hX (Keeps.bind (keeps_selectForUpdate frame_issueViews _ _) fun _ =>
    (keeps_require _ _).bind fun _ => keeps_pure _) fun _ y _ h _ => ?_
  refine h.within_bind hX (keeps_read frame_issueViews _) fun existing y _ h _ => ?_
  cases existing with
  | some existing =>
    refine h.within_bind hX (keeps_referencesForIssue frame_issueViews _) fun _ y _ h _ => ?_
    refine h.within_bind hX (keeps_ensure _ _) fun _ y _ h _ => ?_
    exact currentConclusion_tail existing
  | none =>
    refine h.within_bind hX (keeps_validateIssueEvidenceSources frame_issueViews _ _ _)
      fun _ y _ h _ => ?_
    extract_lets issue rest
    refine insertIssue_bind h hX (fun db ha i hi hid => ?_) fun y hy => ?_
    · simp only [Bool.not_eq_true', List.any_eq_false] at ha
      exact ha i hi (by simp [hid])
    refine hy.within_bind respected_issueViews hX (keeps_addLinks frame_issueViews _ _ _
      fun _ _ _ => same_of_tables rfl rfl) fun _ y _ hy _ => ?_
    split
    · exact hy.within_bind respected_issueViews hX
        (keeps_notifyMaintainers frame_issueViews _ _ _ trivial _) fun _ y _ hy _ =>
          commitRetest_safe hy (.created issue) _
    · exact commitRetest_safe hy (.created issue) _

/-- What a transaction that may have changed one issue is ready to commit. -/
def Committable (x : Point Database RowKey) : Prop :=
  issueViews.Clean amongRetests x ∨
    ∃ k v w, issueViews.Holds amongRetests k v w x ∧ RetestStep v w

theorem retests_bindRetestSession (h : issueViews.Clean amongRetests x)
    {G : Tx.Guarantee Database RowKey} (uuids : Uuids) (now : Timestamp)
    (actorId workspaceId workId issueId sessionId : Uuid) (expectedRevision : ℤ) :
    (bindRetestSession uuids now actorId workspaceId workId issueId sessionId
      expectedRevision).Safe amongRetests G (fun _ => Committable) (fun _ _ => True) x := by
  rw [bindRetestSession]
  simp only [Tx.bind_eq]
  have hX : ∀ (e : ServiceError) (y : Point Database RowKey), True := fun _ _ => trivial
  refine Tx.Safe.mapError ?_
  refine h.within_bind hX (keeps_ensure _ _) fun _ y _ h _ => ?_
  refine h.within_bind hX (keeps_requireIssueManagement frame_issueViews _ _ _) fun _ y _ h _ => ?_
  refine lockIssue_bind h hX fun issue links y hid hy => ?_
  subst hid
  refine hy.within_bind respected_issueViews hX (keeps_ensure _ _) fun _ y _ hy _ => ?_
  refine Tx.Safe.ensure_bind (fun _ => trivial) fun hnote => ?_
  refine hy.within_bind respected_issueViews hX (keeps_selectForUpdate frame_issueViews _ _)
    fun _ y _ hy _ => ?_
  refine hy.within_bind respected_issueViews hX (keeps_require _ _) fun item y _ hy _ => ?_
  refine editIssue_bind hy hX ?_ fun y hy => ?_
  · exact fun _ => rfl
  refine insertLink_bind hy hX rfl (fun db ha hmem => ?_) fun y hfresh hy => ?_
  · obtain ⟨l, hl, hid⟩ := List.mem_map.1 hmem
    simp only [Bool.not_eq_true', List.any_eq_false] at ha
    exact ha l hl (by simp [hid])
  refine hy.within_bind respected_issueViews hX (keeps_endAll frame_issueViews _ _ _)
    fun _ y _ hy _ => ?_
  rw [← Tx.bind_pure (notifyRetestArranged _ _ _ _ _)]
  refine hy.within_bind respected_issueViews hX
    (keeps_notifyMaintainers frame_issueViews _ _ _ trivial _) fun _ y _ hy _ => ?_
  exact Tx.Safe.pure (.inr ⟨_, _, _, hy,
    .bound issue { issue with revision := issue.revision + 1 } links ⟨rfl, rfl, rfl⟩ hnote _ rfl rfl
      hfresh⟩)

/-- Creating sessions writes no issue. -/
theorem keeps_createSessions_same {F : Database → Database → Prop}
    (hF : ∀ db db', db'.issues = db.issues → db'.retestLinks = db.retestLinks → F db db')
    (settings : Settings) (normalizeEmail : String → Option String) (uuids : Uuids)
    (now : Timestamp) (actorId workspaceId workId : Uuid) (plan : PlaytestPlan) (k : ℕ)
    (drafts : List SessionDraft) :
    Keeps F (createSessions settings normalizeEmail uuids now actorId workspaceId workId plan k
      drafts) := by
  have hframe : Frame F fun _ => True := fun _ _ h => hF _ _ (tables_of_aside h).1
    (tables_of_aside h).2
  have hscheduling : SchedulingFrame F (fun _ => True) workspaceId workId plan :=
    ⟨hframe, trivial, fun _ _ _ _ => hF _ _ rfl rfl, fun _ _ _ => hF _ _ rfl rfl⟩
  exact keeps_createSessions settings normalizeEmail hscheduling uuids now actorId k drafts

theorem retests_createPlan (settings : Settings) (normalizeEmail : String → Option String)
    (h : issueViews.Clean amongRetests x) (uuids : Uuids) (now : Timestamp)
    (actorId workspaceId workId : Uuid) (goals method : String) (drafts : List SessionDraft)
    (retest : Option (Uuid × ℤ)) :
    (createPlan settings normalizeEmail uuids now actorId workspaceId workId goals method drafts
      retest).Safe amongRetests (fun _ => issueViews.Commits RetestStep) (fun _ _ => True)
        (fun _ _ => True) x := by
  rw [createPlan]
  simp only [Tx.bind_eq]
  have hX : ∀ (e : ServiceError) (y : Point Database RowKey), True := fun _ _ => trivial
  refine h.within_bind hX (keeps_ensure _ _) fun _ y _ h _ => ?_
  refine Tx.Safe.bind (R := fun _ _ => True) (Tx.Safe.mapError ?_) fun _ y _ =>
    safe_of_within LockedViews.Same.refl LockedViews.Same.trans
      (keeps_readPlan frame_issueViews _ _ _ _)
  refine h.within_bind hX (keeps_requireManagement frame_issueViews _ _ _ _) fun _ y _ h _ => ?_
  refine h.within_bind hX (keeps_insertRow frame_issueViews (fun _ => ?_) _ _ _)
    fun _ y _ h _ => ?_
  · exact same_of_tables rfl rfl
  refine h.within_bind hX (keeps_createSessions_same (fun _ _ => same_of_tables) settings
    normalizeEmail _ _ _ _ _ _ _ _) fun sessions y _ h _ => ?_
  refine Tx.Safe.bind (R := fun _ => Committable) ?_ fun _ y hy => ?_
  · rw [bindRetest.eq_def]
    split
    · exact retests_bindRetestSession h _ _ _ _ _ _ _ _
    · exact Tx.Safe.pure (.inl h)
  · refine Tx.Safe.commitNow_bind (f := Tx.pure) fun s hs hr => ⟨?_, Tx.Safe.pure trivial⟩
    rcases hy with hy | ⟨k, v, w, hy, hstep⟩
    · exact hy.commits .stays hs hr
    · exact hy.commits respected_issueViews .stays hstep hs hr


/-! ## Every call -/

theorem commits_of_same {κ ν : Type} {V : LockedViews Database RowKey κ ν} {step : ν → ν → Prop}
    (hrefl : ∀ v, step v v) {H : Set (RowKey × RowLock)} {db db' : Database}
    (h : V.Same db db') : V.Commits step H db db' := by
  refine ⟨fun k => ?_, fun k hk => absurd (h k) hk⟩
  rw [h k]
  exact hrefl _

/-- A call whose statements leave the views alone. -/
theorem safe_of_steps {κ ν : Type} {V : LockedViews Database RowKey κ ν} {step : ν → ν → Prop}
    (hrefl : ∀ v, step v v) {E : Environment Database RowKey} {t : Program α} {s : Database}
    (h : t.Steps V.Same) :
    t.Safe E (fun _ => V.Commits step) (fun _ _ => True) (fun _ _ => True) (Point.start s) :=
  (h.safe LockedViews.Same.refl LockedViews.Same.trans LockedViews.Same.refl).weaken
    fun _ _ _ _ => commits_of_same hrefl

theorem keys_bindRetestSession (h : linkViews.Clean amongRetests x)
    {G : Tx.Guarantee Database RowKey} (uuids : Uuids) (now : Timestamp)
    (actorId workspaceId workId issueId sessionId : Uuid) (expectedRevision : ℤ) :
    (bindRetestSession uuids now actorId workspaceId workId issueId sessionId
      expectedRevision).Safe amongRetests G
        (fun _ y => ∃ i, linkViews.Holds amongRetests i 0 1 y) (fun _ _ => True) x := by
  rw [bindRetestSession]
  simp only [Tx.bind_eq]
  have hX : ∀ (e : ServiceError) (y : Point Database RowKey), True := fun _ _ => trivial
  refine Tx.Safe.mapError ?_
  refine h.within_bind hX (keeps_ensure _ _) fun _ y _ h _ => ?_
  refine h.within_bind hX (keeps_requireIssueManagement frame_linkViews _ _ _) fun _ y _ h _ => ?_
  refine h.within_bind hX (keeps_lockIssue frame_linkViews _) fun issue y _ h _ => ?_
  refine h.within_bind hX (keeps_ensure _ _) fun _ y _ h _ => ?_
  refine h.within_bind hX (keeps_ensure _ _) fun _ y _ h _ => ?_
  refine h.within_bind hX (keeps_selectForUpdate frame_linkViews _ _) fun _ y _ h _ => ?_
  refine h.within_bind hX (keeps_require _ _) fun item y _ h _ => ?_
  refine h.within_bind hX (keeps_updateRow frame_linkViews (fun _ => ?_) _) fun _ y _ h _ => ?_
  · exact sameKeys_of_tables rfl
  rw [insertRow, Tx.bind_assoc]
  refine Tx.Safe.lockAll_bind fun H s hH hkeys hr => ?_
  have hheld := (h.later hH hr).holds respected_linkViews (hkeys _ List.mem_cons_self)
  refine Tx.Safe.writeIf_bind (fun _ _ _ => trivial) fun t ht hrt ha => ?_
  have hfree : linkViews.view (uuids.sub 0).here (y.pending t) = 0 := by
    have habsent := (Bool.and_eq_true_iff.1 ha).1
    simp only [Bool.not_eq_true', List.any_eq_false] at habsent
    refine List.count_eq_zero.2 fun hmem => ?_
    obtain ⟨l, hl, hid⟩ := List.mem_map.1 hmem
    exact habsent l hl (by simp [hid])
  have hzero := (hheld.sees t ht hrt).symm.trans hfree
  rw [hzero] at hheld
  have hheld := hheld.write respected_linkViews (z := 1) (δ := fun db => { db with
      retestLinks := ⟨(uuids.sub 0).here, issue.id, item.id, issue.adjustmentGeneration, none,
        none⟩ :: db.retestLinks }) (fun u _ _ hu => ?_) (fun u _ _ j hj => ?_) hrt
  · refine hheld.within_bind respected_linkViews hX (keeps_endAll frame_linkViews _ _ _)
      fun _ y _ hy _ => ?_
    rw [← Tx.bind_pure (notifyRetestArranged _ _ _ _ _)]
    refine hy.within_bind respected_linkViews hX
      (keeps_notifyMaintainers frame_linkViews _ _ _ trivial _) fun _ y _ hy _ => ?_
    exact Tx.Safe.pure ⟨_, hy⟩
  · show (_ :: linkIds _).count _ = 1
    rw [List.count_cons_self]
    exact congrArg (· + 1) hu
  · show (_ :: linkIds _).count j = (linkIds _).count j
    exact List.count_cons_of_ne (Ne.symm hj)

theorem keys_createPlan (settings : Settings) (normalizeEmail : String → Option String)
    (h : linkViews.Clean amongRetests x) (uuids : Uuids) (now : Timestamp)
    (actorId workspaceId workId : Uuid) (goals method : String) (drafts : List SessionDraft)
    (retest : Option (Uuid × ℤ)) :
    (createPlan settings normalizeEmail uuids now actorId workspaceId workId goals method drafts
      retest).Safe amongRetests (fun _ => linkViews.Commits KeyStep) (fun _ _ => True)
        (fun _ _ => True) x := by
  rw [createPlan]
  simp only [Tx.bind_eq]
  have hX : ∀ (e : ServiceError) (y : Point Database RowKey), True := fun _ _ => trivial
  refine h.within_bind hX (keeps_ensure _ _) fun _ y _ h _ => ?_
  refine Tx.Safe.bind (R := fun _ _ => True) (Tx.Safe.mapError ?_) fun _ y _ =>
    safe_of_within LockedViews.Same.refl LockedViews.Same.trans
      (keeps_readPlan frame_linkViews _ _ _ _)
  refine h.within_bind hX (keeps_requireManagement frame_linkViews _ _ _ _) fun _ y _ h _ => ?_
  refine h.within_bind hX (keeps_insertRow frame_linkViews (fun _ => ?_) _ _ _)
    fun _ y _ h _ => ?_
  · exact sameKeys_of_tables rfl
  refine h.within_bind hX (keeps_createSessions_same (fun _ _ _ => sameKeys_of_tables) settings
    normalizeEmail _ _ _ _ _ _ _ _) fun sessions y _ h _ => ?_
  refine Tx.Safe.bind (R := fun _ y => linkViews.Clean amongRetests y ∨
    ∃ i, linkViews.Holds amongRetests i 0 1 y) ?_ fun _ y hy => ?_
  · rw [bindRetest.eq_def]
    split
    · exact (keys_bindRetestSession h _ _ _ _ _ _ _ _).mono (fun _ _ => .inr) fun _ _ _ =>
        trivial
    · exact Tx.Safe.pure (.inl h)
  · refine Tx.Safe.commitNow_bind (f := Tx.pure) fun s hs hr => ⟨?_, Tx.Safe.pure trivial⟩
    rcases hy with hy | ⟨i, hy⟩
    · exact hy.commits .stays hs hr
    · exact hy.commits respected_linkViews .stays .taken hs hr

variable {settings : Settings} {normalizeEmail : String → Option String}

theorem Call.keys (call : Call) (s : Database) :
    (call.program settings normalizeEmail).Safe amongRetests (fun _ => linkViews.Commits KeyStep)
      (fun _ _ => True) (fun _ _ => True) (Point.start s) := by
  have hother : ∀ call : Call, call.bindsRetest = false →
      (call.program settings normalizeEmail).Safe amongRetests
        (fun _ => linkViews.Commits KeyStep) (fun _ _ => True) (fun _ _ => True)
          (Point.start s) := fun call hcall =>
    safe_of_steps .stays ((Call.changes settings normalizeEmail call).mono
      fun _ _ h => h.sameKeys hcall)
  cases call with
  | createPlan =>
    exact (keys_createPlan _ _ (LockedViews.clean_start s) _ _ _ _ _ _ _ _ _).bind
      fun _ _ _ => Tx.Safe.pure trivial
  | _ => exact hother _ rfl

theorem Call.retests (call : Call) (s : Database) :
    (call.program settings normalizeEmail).Safe amongRetests
      (fun _ => issueViews.Commits RetestStep) (fun _ _ => True) (fun _ _ => True)
        (Point.start s) := by
  have hclean : issueViews.Clean amongRetests (Point.start s) := LockedViews.clean_start s
  have hother : ∀ call : Call, call.writesIssues = false →
      (call.program settings normalizeEmail).Safe amongRetests
        (fun _ => issueViews.Commits RetestStep) (fun _ _ => True) (fun _ _ => True)
          (Point.start s) := fun call hcall =>
    safe_of_steps .stays ((Call.changes settings normalizeEmail call).mono
      fun _ _ h => same_of_tables (h.tables hcall).1 (h.tables hcall).2)
  cases call with
  | createPlan =>
    exact (retests_createPlan _ _ hclean _ _ _ _ _ _ _ _ _).bind
      fun _ _ _ => Tx.Safe.pure trivial
  | createIssue => exact retests_createIssue hclean _ _ _ _ _ _ _ _ _ _ _
  | updateIssue => exact retests_updateIssue hclean _ _ _ _ _ _ _ _ _ _ _ _
  | saveRetestConclusion => exact retests_saveRetestConclusion hclean _ _ _ _ _ _ _ _ _
  | addIssueEvidence => exact retests_addIssueEvidence hclean _ _ _ _ _ _ _
  | removeIssueEvidence => exact retests_removeIssueEvidence hclean _ _ _ _ _ _
  | _ => exact hother _ rfl

theorem consistent_empty : RetestsConsistent Database.empty :=
  ⟨fun _ => IssueView.consistent_empty, List.nodup_nil⟩

variable {c : Config Database RowKey ServiceError Unit Call}

theorem safeRetests_of_reachable (h : (system settings normalizeEmail).Reachable c) :
    SafeConfig amongRetests (fun _ => retestGuarantee) (fun _ _ _ => True) (fun _ _ _ => True) c :=
    by
  refine sound closed_amongRetests ?_ (fun call s _ => ?_) h
  swap
  · exact ((call.retests s).and (call.keys s)).mono (fun _ _ _ => trivial) fun _ _ _ => trivial
  rintro _ rfl
  exact consistent_empty

theorem retests_of_reachable (h : (system settings normalizeEmail).Reachable c) :
    RetestsConsistent c.db :=
  (safeRetests_of_reachable h).inv

end Playtests

end Rulefolio
