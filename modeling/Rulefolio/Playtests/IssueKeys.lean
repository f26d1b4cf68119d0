import Rulefolio.Issues.Creation
import Rulefolio.Library.SingleView
import Rulefolio.Playtests.RetestCalls
import Rulefolio.Playtests.Sequential

/-!
# Keys of issues

The issues of a work that were created under one key are guarded by the lock of the work, which
`create_issue` takes before it looks. So a key is taken once, by the issue of one commit, and it
stays taken: no call takes an issue away or gives it another key.

What a later `create_issue` with the key says depends on the issue as it is then. An edit of the
issue in between makes a request that is sent again a conflict.

## Main definitions

* `issueKeys`, `KeyTaken` — the view, and what may become of it.

## Main results

* `issue_keys_idempotent`.
-/

namespace Rulefolio

namespace Playtests

open ReadCommitted
open Issues (IssueDraft IsRecord MayCreate)

/-! ## The view -/

/-- The issues of a work under a key, guarded by the lock of the work. -/
def issueKeys : LockedViews Database RowKey (Uuid × String) (List Uuid) where
  view k db := (db.issues.filter fun i =>
    i.workId == k.1 && i.creationOperationKey == k.2).map (·.id)
  lock k := .work k.1

/-- A key may be taken when it is free. -/
def KeyTaken (v w : List Uuid) : Prop :=
  w = v ∨ v = [] ∧ ∃ id, w = [id]

theorem KeyTaken.refl (v : List Uuid) : KeyTaken v v := .inl rfl

/-- What the commit of a call does to the keys. `create_issue` has taken the key of its work. -/
def issueKeyCommit (call : Call) : Tx.Guarantee Database RowKey := fun _ H db db' =>
  issueKeys.Commits KeyTaken H db db' ∧
    match call with
    | .createIssue uuids _ _ _ workId operationKey description _ reason _ _ =>
      issueKeys.view (workId, operationKey) db = [] ∧
        issueKeys.view (workId, operationKey) db' = [(uuids.sub 0).here] ∧
        Evidence.validOperationKey operationKey = true ∧
        (Issues.values description reason).isSome
    | _ => True

/-- No key has two issues. -/
def KeysTakenOnce (db : Database) : Prop :=
  ∀ k, (issueKeys.view k db).length ≤ 1

theorem issueKeyCommit_once {call : Call} {n : ℕ} {H : Set (RowKey × RowLock)} {db db' : Database}
    (h : issueKeyCommit call n H db db') (hdb : KeysTakenOnce db) : KeysTakenOnce db' := by
  intro k
  rcases h.1.step k with hsame | ⟨-, id, htaken⟩
  · rw [hsame]
    exact hdb k
  · rw [htaken]
    exact le_rfl

/-- The environment the calls make for each other. -/
abbrev amongIssueKeys : Environment Database RowKey :=
  environment KeysTakenOnce issueKeyCommit

theorem closed_amongIssueKeys : Closed amongIssueKeys issueKeyCommit :=
  closed_environment fun _ _ _ _ _ hs hG => issueKeyCommit_once hG hs

theorem respected_issueKeys : issueKeys.Respected amongIssueKeys :=
  LockedViews.respected_environment fun _ _ _ _ _ hG => hG.1.locked

/-! ## What leaves the keys alone -/

theorem sameIssueKeys_of_issues {db db' : Database} (h : db'.issues = db.issues) :
    issueKeys.Same db db' := fun k => by
  show List.map _ _ = List.map _ _
  rw [h]

theorem frame_issueKeys : Frame issueKeys.Same fun _ => True := fun _ _ h =>
  sameIssueKeys_of_issues (tables_of_aside h).1

/-- An edit of an issue leaves it its work and its key. -/
theorem sameIssueKeys_update (db : Database) (p : Issue → Bool) {change : Issue → Issue}
    (hid : ∀ i, (change i).id = i.id)
    (hkey : ∀ i, (change i).workId = i.workId ∧
      (change i).creationOperationKey = i.creationOperationKey) :
    issueKeys.Same db { db with issues := Table.update p change db.issues } := by
  intro k
  show List.map _ (List.filter _ (List.map _ _)) = List.map _ _
  rw [List.filter_map, List.map_map]
  have hfilter : ((fun i : Issue => i.workId == k.1 && i.creationOperationKey == k.2) ∘
      fun i => if p i then change i else i) =
      fun i => i.workId == k.1 && i.creationOperationKey == k.2 := by
    funext i
    dsimp only [Function.comp_apply]
    split
    · rw [(hkey i).1, (hkey i).2]
    · rfl
  rw [hfilter]
  refine List.map_congr_left fun i _ => ?_
  dsimp only [Function.comp_apply]
  split
  · exact hid i
  · rfl

theorem Change.sameIssueKeys {call : Call} (hcall : call.createsIssue = false) {db db' : Database}
    (h : Change call db db') : issueKeys.Same db db' := by
  cases h with
  | aside h => exact sameIssueKeys_of_issues (tables_of_aside h).1
  | issueCreated h => rw [hcall] at h; cases h
  | issueEdited _ n change hplace hkey =>
    exact sameIssueKeys_update db _ (fun i => (hplace i).1) hkey
  | _ => exact sameIssueKeys_of_issues rfl

/-! ## The calls -/

section Rules

variable {α : Type} {G : Tx.Guarantee Database RowKey} {Q : α → Point Database RowKey → Prop}
  {x : Point Database RowKey}

/-- `_lock_work_for_creation` in a transaction that has changed no issue. -/
theorem lockWorkForCreation_bind (h : issueKeys.Clean amongIssueKeys x)
    {workspaceId workId : Uuid} (operationKey : String) {f : Unit → Program α}
    (hf : ∀ v y, issueKeys.Holds amongIssueKeys (workId, operationKey) v v y →
      (f ()).Safe amongIssueKeys G Q (fun _ _ => True) y) :
    ((Issues.lockWorkForCreation workspaceId workId).bind f).Safe amongIssueKeys G Q
      (fun _ _ => True) x := by
  rw [Issues.lockWorkForCreation]
  simp only [Tx.bind_eq, Tx.bind_assoc]
  refine h.selectForUpdate_bind (k := (workId, operationKey)) respected_issueKeys
    (fun db work hfind => ?_) (fun s _ _ _ => Tx.Safe.raise trivial) fun s hs hr hy _ => ?_
  · have hrow := List.find?_some hfind
    simp only [Bool.and_eq_true, beq_iff_eq] at hrow
    exact congrArg RowKey.work hrow.1.1
  · exact Tx.Safe.require_bind (fun _ => trivial) fun work _ => hf _ _ hy

/-- The `INSERT` of an issue takes its key. -/
theorem takeKey_bind {issue : Issue} {v : List Uuid}
    (h : issueKeys.Holds amongIssueKeys (issue.workId, issue.creationOperationKey) v v x)
    {keys : List RowKey} {absent admits : Database → Bool}
    (habsent : ∀ db, absent db = true → ∀ i ∈ db.issues,
      (i.workId == issue.workId && i.creationOperationKey == issue.creationOperationKey) = false)
    {f : Unit → Program α}
    (hf : ∀ y, v = [] → issueKeys.Holds amongIssueKeys
        (issue.workId, issue.creationOperationKey) v (issue.id :: v) y →
      (f ()).Safe amongIssueKeys G Q (fun _ _ => True) y) :
    ((insertRow keys absent admits fun db => { db with
      issues := issue :: db.issues }).bind f).Safe amongIssueKeys G Q (fun _ _ => True) x := by
  rw [insertRow, Tx.bind_assoc]
  refine h.lockAll_bind respected_issueKeys fun y h => ?_
  refine h.writeIf_bind respected_issueKeys (g := (issue.id :: ·)) (P := v = [])
    (fun t => ?_) (fun t j hj => ?_) (fun _ _ => trivial) (fun t ha hview => ?_) hf
  · show List.map _ (List.filter _ (issue :: t.issues)) = _
    rw [List.filter_cons_of_pos (by simp)]
    rfl
  · show List.map _ (List.filter _ (issue :: t.issues)) = List.map _ _
    rw [List.filter_cons_of_neg]
    intro hof
    simp only [Bool.and_eq_true, beq_iff_eq] at hof
    exact hj (Prod.ext hof.1.symm hof.2.symm)
  · rw [← hview]
    refine List.map_eq_nil_iff.2 (List.filter_eq_nil_iff.2 fun i hi => ?_)
    rw [habsent t (Bool.and_eq_true_iff.1 ha).1 i hi]
    exact Bool.false_ne_true

/-- The part of `create_issue` from its commit on. -/
theorem commitCreated_bind {call : Call} {issue : Issue}
    (h : issueKeys.Holds amongIssueKeys (issue.workId, issue.creationOperationKey) [] [issue.id] x)
    (hG : ∀ n H db db', issueKeys.Commits KeyTaken H db db' →
      issueKeys.view (issue.workId, issue.creationOperationKey) db = [] →
      issueKeys.view (issue.workId, issue.creationOperationKey) db' = [issue.id] →
        issueKeyCommit call n H db db') :
    (Tx.commitNow.bind fun _ => (Issues.currentConclusion issue).bind fun _ =>
      (Tx.pure () : Program Unit)).Safe amongIssueKeys (issueKeyCommit call) (fun _ _ => True)
        (fun _ _ => True) x := by
  refine h.commit_bind respected_issueKeys KeyTaken.refl (.inr ⟨rfl, _, rfl⟩) hG fun y hy => ?_
  exact hy.within_bind (fun _ _ => trivial) (keeps_currentConclusion frame_issueKeys issue)
    fun _ y _ _ _ => Tx.Safe.pure trivial

theorem issueKeys_createIssue (h : issueKeys.Clean amongIssueKeys x) (uuids : Uuids)
    (now : Timestamp) (actorId workspaceId workId : Uuid) (operationKey description : String)
    (decision : IssueDecision) (reason : String) (status : IssueStatus)
    (references : List Evidence.IssueEvidenceReference) :
    (Issues.createIssue uuids now actorId workspaceId workId operationKey description decision
      reason status references).Safe amongIssueKeys (issueKeyCommit (.createIssue uuids now actorId
        workspaceId workId operationKey description decision reason status references))
          (fun _ _ => True) (fun _ _ => True) x := by
  have hX : ∀ (e : ServiceError) (y : Point Database RowKey), True := fun _ _ => trivial
  rw [Issues.createIssue]
  simp -zeta only [Tx.bind_eq, Tx.pure_eq]
  refine Tx.Safe.mapError ?_
  refine Tx.Safe.require_bind (fun _ => trivial) fun texts htexts => ?_
  refine Tx.Safe.ensure_bind (fun _ => trivial) fun hkey => ?_
  refine h.within_bind hX (keeps_requireIssueManagement frame_issueKeys _ _ _) fun _ y _ h _ => ?_
  refine lockWorkForCreation_bind h operationKey fun v y h => ?_
  refine h.read_bind respected_issueKeys fun s _ _ h _ => ?_
  split
  · rename_i existing _
    refine h.within_bind respected_issueKeys hX (keeps_referencesForIssue frame_issueKeys _)
      fun _ y _ h _ => ?_
    refine h.within_bind respected_issueKeys hX (keeps_ensure _ _) fun _ y _ h _ => ?_
    exact h.within_bind respected_issueKeys hX (keeps_currentConclusion frame_issueKeys existing)
      fun _ y _ _ _ => Tx.Safe.pure trivial
  · refine h.within_bind respected_issueKeys hX
      (keeps_validateIssueEvidenceSources frame_issueKeys _ _ _) fun _ y _ h _ => ?_
    extract_lets issue rest
    have hown : issueKeys.Holds amongIssueKeys (issue.workId, issue.creationOperationKey) v v _ := h
    refine takeKey_bind hown (fun db ha i hi => ?_) fun y hempty h => ?_
    · simp only [Bool.not_eq_true', List.any_eq_false] at ha
      have hfree := ha i hi
      simp only [Bool.or_eq_true, not_or] at hfree
      exact Bool.of_not_eq_true hfree.2
    subst hempty
    refine h.within_bind respected_issueKeys hX (keeps_addLinks frame_issueKeys _ _ _
      fun _ _ _ => sameIssueKeys_of_issues rfl) fun _ y _ h _ => ?_
    have hG : ∀ n H db db', issueKeys.Commits KeyTaken H db db' →
        issueKeys.view (workId, operationKey) db = [] →
        issueKeys.view (workId, operationKey) db' = [issue.id] →
        issueKeyCommit (.createIssue uuids now actorId workspaceId workId operationKey description
          decision reason status references) n H db db' := fun _ _ _ _ hc hv hw =>
      ⟨hc, hv, hw, hkey, by rw [htexts]; rfl⟩
    split
    · exact h.within_bind respected_issueKeys hX
        (keeps_notifyMaintainers frame_issueKeys _ _ _ trivial _) fun _ y _ h _ =>
          commitCreated_bind h hG
    · exact commitCreated_bind h hG

end Rules

variable {settings : Settings} {normalizeEmail : String → Option String}

theorem Call.issueKeys (call : Call) (s : Database) :
    (call.program settings normalizeEmail).Safe amongIssueKeys (issueKeyCommit call)
      (fun _ _ => True) (fun _ _ => True) (Point.start s) := by
  have hother : ∀ call : Call, call.createsIssue = false →
      (∀ H db db', Playtests.issueKeys.Commits KeyTaken H db db' →
        ∀ n, issueKeyCommit call n H db db') →
      (call.program settings normalizeEmail).Safe amongIssueKeys (issueKeyCommit call)
        (fun _ _ => True) (fun _ _ => True) (Point.start s) := fun call hcall hcommit =>
    (safe_of_steps KeyTaken.refl ((Call.changes settings normalizeEmail call).mono
      fun _ _ h => h.sameIssueKeys hcall)).weaken fun n H db db' hc => hcommit H db db' hc n
  cases call with
  | createIssue => exact issueKeys_createIssue (LockedViews.clean_start s) _ _ _ _ _ _ _ _ _ _ _
  | _ => exact hother _ rfl fun _ _ _ hc _ => ⟨hc, trivial⟩

variable {c : Config Database RowKey ServiceError Unit Call}

theorem safeIssueKeys_of_reachable (h : (system settings normalizeEmail).Reachable c) :
    SafeConfig amongIssueKeys issueKeyCommit (fun _ _ _ => True) (fun _ _ _ => True) c := by
  refine sound closed_amongIssueKeys ?_ (fun call s _ => call.issueKeys s) h
  rintro _ rfl k
  exact Nat.zero_le 1

/-- What the commit of `create_issue` has done to the keys. -/
theorem keyTaken_of_history (h : (system settings normalizeEmail).Reachable c)
    {e : ReadCommitted.Commit Database Call} (he : e ∈ c.history) :
    (∀ k, KeyTaken (Playtests.issueKeys.view k e.before) (Playtests.issueKeys.view k e.after)) ∧
      ∃ n H, issueKeyCommit e.op n H e.before e.after := by
  obtain ⟨-, n, H, hcommit⟩ := (safeIssueKeys_of_reachable h).history e he
  exact ⟨hcommit.1.step, n, H, hcommit⟩

/-- A key that was taken stays taken by the same issue. -/
theorem taken_later (h : (system settings normalizeEmail).Reachable c)
    {e : ReadCommitted.Commit Database Call} (he : e ∈ c.history) {k : Uuid × String} {id : Uuid}
    (htaken : Playtests.issueKeys.view k e.after = [id]) :
    Playtests.issueKeys.view k c.db = [id] := by
  obtain ⟨_, rfl, hlinked⟩ := (ReadCommitted.wellFormed_of_reachable h).linked
  refine hlinked.later (R := fun db db' => Playtests.issueKeys.view k db = [id] →
    Playtests.issueKeys.view k db' = [id]) (fun _ hv => hv) (fun _ _ _ h h' hv => h' (h hv))
    (fun e he hv => ?_) he htaken
  rcases (keyTaken_of_history h he).1 k with hsame | ⟨hempty, -⟩
  · rw [hsame, hv]
  · rw [hempty] at hv
    cases hv

/-- The one issue under a key. -/
theorem issue_of_view {db : Database} {k : Uuid × String} {id : Uuid}
    (h : issueKeys.view k db = [id]) : ∃ issue ∈ db.issues, issue.id = id ∧
      (db.issues.find? fun i => i.workId == k.1 && i.creationOperationKey == k.2) =
        some issue := by
  obtain ⟨issue, rest, hrows, hid, hrest⟩ := List.map_eq_cons_iff.1 h
  obtain rfl := List.map_eq_nil_iff.1 hrest
  have hfind : (db.issues.find? fun i => i.workId == k.1 && i.creationOperationKey == k.2) =
      some issue := by
    rw [← List.head?_filter, hrows]
    rfl
  exact ⟨issue, List.mem_of_find?_eq_some hfind, hid, hfind⟩

/-- **A key of an issue is idempotent as long as the issue is what was asked for**, whatever the
calls and their interleaving. In every state after the commit that created an issue, whoever may
create issues of the work gets it for the same request, and a conflict for any other, exactly when
it has not been edited, nor its evidence. -/
theorem issue_keys_idempotent (h : (system settings normalizeEmail).Reachable c)
    {e : ReadCommitted.Commit Database Call} (he : e ∈ c.history) {uuids : Uuids} {now : Timestamp}
    {creatorId workspaceId workId : Uuid} {operationKey : String} {draft : IssueDraft}
    (hop : e.op = .createIssue uuids now creatorId workspaceId workId operationKey
      draft.description draft.decision draft.reason draft.status draft.references) :
    ∃ accepted, draft.normalised = some accepted ∧
      ∃ issue ∈ c.db.issues, issue.id = (uuids.sub 0).here ∧
        (∀ i ∈ e.before.issues, i.workId = workId → i.creationOperationKey ≠ operationKey) ∧
        ∀ actorId,
          Issues.KeyIdempotent c.db actorId workspaceId workId operationKey accepted issue.id ↔
            MayCreate c.db actorId workspaceId workId ∧ IsRecord c.db issue accepted := by
  obtain ⟨-, n, H, hcommit⟩ := keyTaken_of_history h he
  rw [hop] at hcommit
  obtain ⟨-, hfree, htaken, hkey, hvalues⟩ := hcommit
  obtain ⟨texts, htexts⟩ := Option.isSome_iff_exists.1 hvalues
  obtain ⟨issue, hissue, hid, hfind⟩ := issue_of_view (taken_later h he htaken)
  have hdraft : draft.normalised = some { draft with
      description := texts.1
      reason := texts.2 } := by
    rw [IssueDraft.normalised, htexts]
    rfl
  refine ⟨_, hdraft, issue, hissue, hid, fun i hi hwork hsame => ?_, fun actorId => ?_⟩
  · have hnot := List.filter_eq_nil_iff.1 (List.map_eq_nil_iff.1 hfree) i hi
    exact hnot (by simp [hwork, hsame])
  · exact Issues.keyIdempotent_iff hfind hkey hdraft fun link hlink =>
      ((retests_of_reachable h).issue link.issueId).reason link
        (List.mem_filter.2 ⟨hlink, beq_self_eq_true _⟩)

/-! ### A request that is sent again -/

/-- The call creates an issue of the work under the key, with this draft. -/
def Call.asksFor (workspaceId workId : Uuid) (operationKey : String) (draft : IssueDraft) :
    Call → Bool
  | .createIssue _ _ _ workspaceId' workId' operationKey' description decision reason status
      references =>
    workspaceId' == workspaceId && workId' == workId && operationKey' == operationKey &&
      ⟨description, decision, reason, status, references⟩ == draft
  | _ => false

theorem Call.asksFor_iff {workspaceId workId : Uuid} {operationKey : String} {draft : IssueDraft}
    {call : Call} (h : call.asksFor workspaceId workId operationKey draft = true) :
    ∃ uuids now creatorId, call = .createIssue uuids now creatorId workspaceId workId operationKey
      draft.description draft.decision draft.reason draft.status draft.references := by
  cases call with
  | createIssue uuids now creatorId =>
    simp only [asksFor, Bool.and_eq_true, beq_iff_eq] at h
    obtain ⟨⟨⟨rfl, rfl⟩, rfl⟩, rfl⟩ := h
    exact ⟨uuids, now, creatorId, rfl⟩
  | _ => cases h

/-- The request of these runs. -/
def slowDraft : IssueDraft :=
  ⟨"slow", .observe, "long", .opened, [.observation 2000]⟩

/-- An issue is created about an observation. -/
def slowCreated : List (Event Call) :=
  arranged ++ [.call 0 (.startSession 8 1 10 20 sessionOfOneSeat 1)] ++ advances 0 15 ++
    [.close 0, .call 0 (.createObservation (keysFrom 2000) 1 10 20 sessionOfOneSeat 2 .fact
      "late")] ++ advances 0 11 ++
    [.close 0, .call 0 (.createIssue (keysFrom 3000) 9 1 10 20 "key" slowDraft.description
      slowDraft.decision slowDraft.reason slowDraft.status slowDraft.references)] ++
    advances 0 22 ++ [.close 0]

/-- Its description is edited. -/
def slowEdited : List (Event Call) :=
  slowCreated ++ [.call 0 (.updateIssue (keysFrom 4000) 9 1 10 20 slowIssue "slower" .observe
    "long" none .opened 1)] ++ advances 0 9 ++ [.close 0]

theorem slowEdited_runs :
    ((system .withoutCipher some).run (.start .empty) slowEdited).any fun c =>
      c.history.any (·.op.asksFor 10 20 "key" slowDraft) ∧
        ((Issues.createIssueData (keysFrom 9000) 9 1 10 20 "key" slowDraft).exec c.db).2 =
          .error .issueOperationConflict := by
  decide +kernel

/-- The request that created an issue is refused after the edit. -/
theorem request_refused_after_edit :
    ∃ c, (system .withoutCipher some).Reachable c ∧
      (∃ e ∈ c.history, ∃ uuids now creatorId, e.op = .createIssue uuids now creatorId 10 20 "key"
        slowDraft.description slowDraft.decision slowDraft.reason slowDraft.status
          slowDraft.references) ∧
      ((Issues.createIssueData (keysFrom 9000) 9 1 10 20 "key" slowDraft).exec c.db).2 =
        .error .issueOperationConflict := by
  obtain ⟨c, hc, hfacts⟩ := (Option.any_eq_true _ _).1 slowEdited_runs
  simp only [decide_eq_true_eq] at hfacts
  obtain ⟨e, he, hasks⟩ := List.any_eq_true.1 hfacts.1
  exact ⟨c, ⟨.start .empty, slowEdited, init_start _ rfl, hc⟩, ⟨e, he, Call.asksFor_iff hasks⟩,
    hfacts.2⟩

theorem slowCreated_runs :
    ((system .withoutCipher some).run (.start .empty) slowCreated).any fun c =>
      c.history.any (·.op.asksFor 10 20 "key" slowDraft) ∧
        (((Issues.requireManagement 1 10 20).bind fun _ =>
          Issues.lockWorkForCreation 10 20).exec c.db).2 = .ok () ∧
        slowDraft.normalised = some slowDraft ∧
        c.db.issues = [⟨slowIssue, 10, 20, "slow", .observe, "long", none, 0, .opened, 1, "key"⟩] ∧
        (c.db.evidenceLinks.filter (·.issueId == slowIssue)).mapM Issues.reference =
          some slowDraft.references := by
  decide +kernel

/-- The theorem before the edit. -/
theorem issue_keys_idempotent_created :
    ∃ c, (system .withoutCipher some).Reachable c ∧
      Issues.KeyIdempotent c.db 1 10 20 "key" slowDraft slowIssue := by
  obtain ⟨c, hc, hfacts⟩ := (Option.any_eq_true _ _).1 slowCreated_runs
  simp only [decide_eq_true_eq] at hfacts
  obtain ⟨hhistory, hmay, hdraft, hissues, hlinks⟩ := hfacts
  have hreach : (system .withoutCipher some).Reachable c :=
    ⟨.start .empty, slowCreated, init_start _ rfl, hc⟩
  obtain ⟨e, he, hasks⟩ := List.any_eq_true.1 hhistory
  obtain ⟨uuids, now, creatorId, hop⟩ := Call.asksFor_iff hasks
  obtain ⟨accepted, haccepted, issue, hissue, -, -, hiff⟩ := issue_keys_idempotent hreach he hop
  obtain rfl := Option.some.inj (hdraft.symm.trans haccepted)
  rw [hissues, List.mem_singleton] at hissue
  subst hissue
  refine ⟨c, hreach, (hiff 1).2 ⟨?_, ⟨rfl, rfl, rfl, rfl, _, hlinks, fun _ => Iff.rfl⟩⟩⟩
  exact (Tx.exec_eq_ok_iff.1 hmay).mono fun _ _ _ _ => trivial

end Playtests

end Rulefolio
