import Rulefolio.Evidence.Service
import Rulefolio.Library.Table

/-!
# The feedback of one session

An abstract account of the feedback of a session, independent of locks and interleavings: its items
with their options, its submissions and their answers, and the changes they may go through. Every
answer repeats the kind of its item and the authorship of its submission, and the machine is shown
to keep these copies true: a submission that is rewritten has all its answers replaced, and an item
with an answer is locked, after which it can neither be rewritten nor deleted.

## Main definitions

* `Feedback`, `Feedback.Change` — the machine.
* `Feedback.Ok` — its invariant.
* `Feedback.KeepsLocked` — what becomes of the items that are locked.

## Main results

* `Feedback.Change.ok`, `Feedback.Change.keepsLocked`.
-/

namespace Rulefolio

namespace Evidence

/-- The feedback of one session. -/
@[ext]
structure Feedback where
  items : List PlaytestFeedbackItem
  options : List PlaytestFeedbackOption
  submissions : List PlaytestFeedbackSubmission
  answers : List PlaytestFeedbackAnswer
  deriving DecidableEq, Repr

namespace Feedback

/-! ## Statements -/

/-- There is no feedback. -/
def empty : Feedback := ⟨[], [], [], []⟩

/-- `INSERT` of an item. -/
def addItem (item : PlaytestFeedbackItem) (v : Feedback) : Feedback :=
  { v with items := item :: v.items }

/-- `INSERT`s of options. -/
def addOptions (rows : List PlaytestFeedbackOption) (v : Feedback) : Feedback :=
  { v with options := rows ++ v.options }

/-- The `DELETE` of the options of an item. -/
def dropOptions (itemId : Uuid) (v : Feedback) : Feedback :=
  { v with options := Table.delete (·.itemId == itemId) v.options }

/-- The `UPDATE` of an item. -/
def setItem (itemId : Uuid) (draft : FeedbackItemDraft) (revision : ℕ) (v : Feedback) : Feedback :=
  { v with
    items := Table.update (·.id == itemId)
      (fun i => { i with kind := draft.kind, question := draft.question, revision := revision })
      v.items }

/-- The `DELETE` of an item. -/
def dropItem (itemId : Uuid) (v : Feedback) : Feedback :=
  { v with items := Table.delete (·.id == itemId) v.items }

/-- The `INSERT` of an answer, with its trigger. -/
def addAnswer (s : PlaytestFeedbackSubmission) (answer : FeedbackAnswerDraft) (v : Feedback) :
    Feedback :=
  { v with
    answers := answerRow s answer :: v.answers
    items := Table.update (·.id == answer.itemId) (fun i => { i with isLocked := true }) v.items }

/-- The `INSERT`s of the answers of a submission. -/
def addAnswers (s : PlaytestFeedbackSubmission) (answers : List FeedbackAnswerDraft)
    (v : Feedback) : Feedback :=
  answers.foldl (fun v answer => v.addAnswer s answer) v

/-- The `DELETE` of the answers of a submission. -/
def dropAnswers (submissionId : Uuid) (v : Feedback) : Feedback :=
  { v with answers := Table.delete (·.submissionId == submissionId) v.answers }

/-- `INSERT` of a submission. -/
def addSubmission (s : PlaytestFeedbackSubmission) (v : Feedback) : Feedback :=
  { v with submissions := s :: v.submissions }

/-- The `UPDATE` of a submission. -/
def setSubmission (s : PlaytestFeedbackSubmission) (v : Feedback) : Feedback :=
  { v with
    submissions := Table.update (·.id == s.id)
      (fun r => { r with
        source := s.source
        temporaryAlias := s.temporaryAlias
        status := s.status
        revision := s.revision })
      v.submissions }

/-- The options of an item. -/
def optionsOf (itemId : Uuid) (v : Feedback) : List PlaytestFeedbackOption :=
  v.options.filter (·.itemId == itemId)

/-- The answers of a submission. -/
def answersOf (submissionId : Uuid) (v : Feedback) : List PlaytestFeedbackAnswer :=
  v.answers.filter (·.submissionId == submissionId)

/-! ## Changes -/

/-- The answer has exactly the value the item asks for. -/
def ValueFits (options : List PlaytestFeedbackOption) (item : PlaytestFeedbackItem)
    (textValue : Option String) (optionId : Option Uuid) (hasNumber : Bool) : Prop :=
  match item.kind with
  | .shortText => textValue.isSome ∧ optionId = none ∧ hasNumber = false
  | .singleChoice => textValue = none ∧ hasNumber = false ∧
    ∃ o ∈ options, optionId = some o.id ∧ o.itemId = item.id
  | .number => textValue = none ∧ optionId = none ∧ hasNumber = true

/-- The number of an answer as its row has it. -/
def finiteNumber (answer : FeedbackAnswerDraft) : Option ℚ :=
  answer.numberValue.bind fun
    | .finite value => some value
    | .notFinite => none

/-- What `_validated_answers` makes sure of: the answers are for different items of the session, and
each has the value its item asks for. -/
structure Fit (v : Feedback) (answers : List FeedbackAnswerDraft) : Prop where
  different : (answers.map (·.itemId)).Nodup
  each : ∀ a ∈ answers, ∃ item ∈ v.items, item.id = a.itemId ∧
    ValueFits v.options item a.textValue a.optionId (finiteNumber a).isSome

/-- An answer that was validated is for the item it was sent for, and has the value it asks for. -/
theorem validatedAnswer_spec {n : Uuid} {items : List PlaytestFeedbackItem}
    {options : List PlaytestFeedbackOption} {draft answer : FeedbackAnswerDraft}
    (h : validatedAnswer n items options draft = some answer) :
    answer.itemId = draft.itemId ∧ ∃ item ∈ items, item.id = answer.itemId ∧
      ValueFits options item answer.textValue answer.optionId (finiteNumber answer).isSome := by
  rw [validatedAnswer, Option.bind_eq_bind, Option.bind_eq_some_iff] at h
  obtain ⟨item, hfind, h⟩ := h
  have hid := List.find?_some hfind
  rw [beq_iff_eq] at hid
  have hvalue : answer.itemId = item.id ∧
      ValueFits options item answer.textValue answer.optionId (finiteNumber answer).isSome := by
    cases hkind : item.kind with
    | shortText =>
      simp only [hkind] at h
      split at h
      · cases h
      · simp only [Option.bind_eq_bind, Option.bind_eq_some_iff, Option.some.injEq] at h
        obtain ⟨text, -, stripped, -, rfl⟩ := h
        simp [ValueFits, hkind, finiteNumber]
    | singleChoice =>
      simp only [hkind, Option.bind_eq_bind, Option.bind_eq_some_iff] at h
      obtain ⟨optionId, -, option, hfound, h⟩ := h
      split at h
      · cases h
      · rename_i hnot
        cases h
        simp only [Bool.or_eq_true, bne_iff_ne, ne_eq, not_or, not_not] at hnot
        refine ⟨rfl, ?_⟩
        simp only [ValueFits, hkind]
        refine ⟨trivial, by simp [finiteNumber], option, List.mem_of_find?_eq_some hfound, rfl, ?_⟩
        exact hnot.1.2
    | number =>
      simp only [hkind] at h
      split at h
      · split at h
        · cases h
        · cases h
          simp [ValueFits, hkind, finiteNumber]
      · cases h
  exact ⟨hvalue.1.trans hid, item, List.mem_of_find?_eq_some hfind, hvalue.1.symm, hvalue.2⟩

/-- One change of the feedback of a session. -/
inductive Change (v : Feedback) : Feedback → Prop
  | stays : Change v v
  | itemCreated (item : PlaytestFeedbackItem) (options : List PlaytestFeedbackOption)
      (hnew : item.id ∉ v.items.map (·.id))
      (hkey : item.creationOperationKey ∉ v.items.map (·.creationOperationKey))
      (hoptions : ∀ o ∈ options, o.itemId = item.id) :
      Change v ((v.addItem item).addOptions options)
  | itemRewritten (item : PlaytestFeedbackItem) (hitem : item ∈ v.items)
      (hunlocked : item.isLocked = false) (draft : FeedbackItemDraft)
      (options : List PlaytestFeedbackOption) (hoptions : ∀ o ∈ options, o.itemId = item.id) :
      Change v (((v.setItem item.id draft (item.revision + 1)).dropOptions item.id).addOptions
        options)
  | itemDeleted (item : PlaytestFeedbackItem) (hitem : item ∈ v.items)
      (hunlocked : item.isLocked = false) : Change v ((v.dropOptions item.id).dropItem item.id)
  | submissionCreated (s : PlaytestFeedbackSubmission) (hnew : s.id ∉ v.submissions.map (·.id))
      (hfirst : ∀ r ∈ v.submissions, ∀ a, s.directAuthorAccountId = some a →
        r.directAuthorAccountId ≠ some a) (answers : List FeedbackAnswerDraft)
      (hfit : v.Fit answers) :
      Change v (((v.addSubmission s).dropAnswers s.id).addAnswers s answers)
  | submissionRewritten (old s : PlaytestFeedbackSubmission) (hold : old ∈ v.submissions)
      (hid : s.id = old.id) (hauthor : s.directAuthorAccountId = old.directAuthorAccountId)
      (hrecorder : s.recordedByAccountId = old.recordedByAccountId)
      (hrevision : s.revision = old.revision + 1) (answers : List FeedbackAnswerDraft)
      (hfit : v.Fit answers) :
      Change v (((v.setSubmission s).dropAnswers s.id).addAnswers s answers)

/-! ## The invariant -/

/-- An answer conforms to its question. -/
def Conforms (v : Feedback) (a : PlaytestFeedbackAnswer) : Prop :=
  ∃ item ∈ v.items, item.id = a.itemId ∧ item.isLocked = true ∧ a.kind = item.kind ∧
    ValueFits v.options item a.textValue a.optionId a.numberValue.isSome

/-- An answer repeats the authorship of its submission. -/
def IsAuthored (v : Feedback) (a : PlaytestFeedbackAnswer) : Prop :=
  ∃ s ∈ v.submissions, s.id = a.submissionId ∧ a.source = s.source ∧ a.status = s.status ∧
    a.directAuthorAccountId = s.directAuthorAccountId ∧
    a.recordedByAccountId = s.recordedByAccountId

/-- **Feedback is in order.** -/
structure Ok (v : Feedback) : Prop where
  items : (v.items.map (·.id)).Nodup
  submissions : (v.submissions.map (·.id)).Nodup
  direct : ∀ s ∈ v.submissions, ∀ s' ∈ v.submissions, ∀ a, s.directAuthorAccountId = some a →
    s'.directAuthorAccountId = some a → s.id = s'.id
  conforms : ∀ a ∈ v.answers, v.Conforms a
  once : (v.answers.map fun a => (a.submissionId, a.itemId)).Nodup
  authored : ∀ a ∈ v.answers, v.IsAuthored a

theorem ok_empty : empty.Ok := by
  refine ⟨.nil, .nil, fun s hs => ?_, fun a ha => ?_, .nil, fun a ha => ?_⟩
  · cases hs
  · cases ha
  · cases ha

/-- What is locked stays, and its question and its options with it. -/
def KeepsLocked (v w : Feedback) : Prop :=
  ∀ item ∈ v.items, item.isLocked = true →
    item ∈ w.items ∧ w.optionsOf item.id = v.optionsOf item.id

theorem KeepsLocked.refl (v : Feedback) : KeepsLocked v v := fun _ hitem _ => ⟨hitem, rfl⟩

theorem KeepsLocked.trans {u v w : Feedback} (h : KeepsLocked u v) (h' : KeepsLocked v w) :
    KeepsLocked u w := by
  intro item hitem hlocked
  obtain ⟨hmem, hoptions⟩ := h item hitem hlocked
  obtain ⟨hmem', hoptions'⟩ := h' item hmem hlocked
  exact ⟨hmem', hoptions'.trans hoptions⟩

/-! ## Answers -/

variable {v : Feedback} {s : PlaytestFeedbackSubmission} {answers : List FeedbackAnswerDraft}

@[simp] theorem addAnswers_options : (v.addAnswers s answers).options = v.options := by
  induction answers generalizing v with
  | nil => rfl
  | cons a rest ih => exact ih

@[simp] theorem addAnswers_submissions :
    (v.addAnswers s answers).submissions = v.submissions := by
  induction answers generalizing v with
  | nil => rfl
  | cons a rest ih => exact ih

theorem addAnswers_answers :
    (v.addAnswers s answers).answers = (answers.map (answerRow s)).reverse ++ v.answers := by
  induction answers generalizing v with
  | nil => rfl
  | cons a rest ih =>
    have hrest : ((v.addAnswer s a).addAnswers s rest).answers =
        (rest.map (answerRow s)).reverse ++ (answerRow s a :: v.answers) := ih
    rw [List.map_cons, List.reverse_cons, List.append_assoc]
    exact hrest

/-- The trigger locks the items of the answers, and changes nothing else. -/
theorem addAnswers_items : (v.addAnswers s answers).items =
    Table.update (fun i => (answers.map (·.itemId)).contains i.id)
      (fun i => { i with isLocked := true }) v.items := by
  induction answers generalizing v with
  | nil =>
    show v.items = _
    simp [Table.update]
  | cons a rest ih =>
    have hrest : ((v.addAnswer s a).addAnswers s rest).items = Table.update _ _ _ := ih
    refine hrest.trans ?_
    show Table.update _ _ (Table.update _ _ v.items) = _
    rw [Table.update, Table.update, Table.update, List.map_map]
    refine List.map_congr_left fun i _ => ?_
    cases hi : i.id == a.itemId <;> cases hrest : (rest.map (·.itemId)).contains i.id <;>
      simp only [Function.comp_apply, List.map_cons, List.contains_cons, hi, hrest, Bool.or_true,
        Bool.or_false, Bool.false_eq_true, if_true, if_false]

/-- The rows of an update keep what the update leaves alone. -/
theorem nodup_update {ρ κ : Type} {key : ρ → κ} {p : ρ → Bool} {f : ρ → ρ} {t : List ρ}
    (h : (t.map key).Nodup) (hf : ∀ r, key (f r) = key r) :
    ((Table.update p f t).map key).Nodup := by
  rw [Table.map_update t fun r _ => hf r]
  exact h

theorem nodup_delete {ρ κ : Type} {key : ρ → κ} {p : ρ → Bool} {t : List ρ}
    (h : (t.map key).Nodup) : ((Table.delete p t).map key).Nodup :=
  h.sublist (List.filter_sublist.map key)

/-- One row has a key. -/
theorem eq_of_nodup {ρ κ : Type} {key : ρ → κ} {t : List ρ} (h : (t.map key).Nodup) {r r' : ρ}
    (hr : r ∈ t) (hr' : r' ∈ t) (hkey : key r = key r') : r = r' :=
  List.inj_on_of_nodup_map h hr hr' hkey

theorem ValueFits.mono {options options' : List PlaytestFeedbackOption}
    {item item' : PlaytestFeedbackItem} {textValue : Option String} {optionId : Option Uuid}
    {hasNumber : Bool} (h : ValueFits options item textValue optionId hasNumber)
    (hid : item'.id = item.id) (hkind : item'.kind = item.kind)
    (hoptions : ∀ o ∈ options, o.itemId = item.id → o ∈ options') :
    ValueFits options' item' textValue optionId hasNumber := by
  rw [ValueFits] at h ⊢
  rw [hkind, hid]
  cases hitem : item.kind with
  | shortText =>
    rw [hitem] at h
    exact h
  | singleChoice =>
    rw [hitem] at h
    obtain ⟨htext, hnumber, o, ho, hchosen, hbelongs⟩ := h
    exact ⟨htext, hnumber, o, hoptions o ho hbelongs, hchosen, hbelongs⟩
  | number =>
    rw [hitem] at h
    exact h

/-- What is made of a list one by one. -/
theorem forall₂_of_mapM {α β : Type} {f : α → Option β} {l : List α} {l' : List β}
    (h : l.mapM f = some l') : List.Forall₂ (fun a b => f a = some b) l l' := by
  induction l generalizing l' with
  | nil =>
    rw [List.mapM_nil] at h
    cases h
    exact .nil
  | cons a l ih =>
    rw [List.mapM_cons, Option.bind_eq_bind, Option.bind_eq_some_iff] at h
    obtain ⟨b, hb, h⟩ := h
    rw [Option.bind_eq_bind, Option.bind_eq_some_iff] at h
    obtain ⟨bs, hbs, h⟩ := h
    cases h
    exact .cons hb (ih hbs)

/-- Answers that were validated fit. -/
theorem fit_of_validated {n : Uuid} {items : List PlaytestFeedbackItem}
    {options : List PlaytestFeedbackOption} {drafts : List FeedbackAnswerDraft}
    (hitems : ∀ i ∈ items, i ∈ v.items) (hoptions : ∀ o ∈ options, o ∈ v.options)
    (hdifferent : (drafts.map (·.itemId)).Nodup)
    (h : drafts.mapM (validatedAnswer n items options) = some answers) : v.Fit answers := by
  have hall := forall₂_of_mapM h
  have hids : answers.map (·.itemId) = drafts.map (·.itemId) := by
    clear h hdifferent
    induction hall with
    | nil => rfl
    | cons hb _ ih => rw [List.map_cons, List.map_cons, (validatedAnswer_spec hb).1, ih]
  refine ⟨hids ▸ hdifferent, fun a ha => ?_⟩
  obtain ⟨draft, hdraft⟩ : ∃ draft, validatedAnswer n items options draft = some a := by
    clear h hids
    induction hall with
    | nil => cases ha
    | cons hb _ ih =>
      rcases List.mem_cons.1 ha with rfl | ha
      · exact ⟨_, hb⟩
      · exact ih (List.nodup_cons.1 hdifferent).2 ha
  obtain ⟨-, item, hitem, hid, hvalue⟩ := validatedAnswer_spec hdraft
  exact ⟨item, hitems _ hitem, hid, hvalue.mono rfl rfl fun o ho _ => hoptions o ho⟩

/-- The row of an answer that fits has the kind of its item and the value it asks for. -/
theorem ValueFits.answerRow {options : List PlaytestFeedbackOption} {item : PlaytestFeedbackItem}
    {a : FeedbackAnswerDraft}
    (h : ValueFits options item a.textValue a.optionId (finiteNumber a).isSome) :
    (Evidence.answerRow s a).kind = item.kind ∧ ValueFits options item
      (Evidence.answerRow s a).textValue (Evidence.answerRow s a).optionId
        (Evidence.answerRow s a).numberValue.isSome := by
  refine ⟨?_, h⟩
  rw [ValueFits] at h
  show (if a.textValue.isSome then FeedbackKind.shortText
    else if a.optionId.isSome then .singleChoice else .number) = item.kind
  cases hitem : item.kind with
  | shortText =>
    rw [hitem] at h
    rw [if_pos h.1]
  | singleChoice =>
    rw [hitem] at h
    obtain ⟨htext, -, o, -, hchosen, -⟩ := h
    rw [htext, hchosen]
    rfl
  | number =>
    rw [hitem] at h
    rw [h.1, h.2.1]
    rfl

/-- An answer still conforms where the locked items are kept. -/
theorem Conforms.mono {w : Feedback} {a : PlaytestFeedbackAnswer} (h : v.Conforms a)
    (hkeeps : KeepsLocked v w) : w.Conforms a := by
  obtain ⟨item, hitem, hid, hlocked, hkind, hfits⟩ := h
  obtain ⟨hmem, hoptions⟩ := hkeeps item hitem hlocked
  refine ⟨item, hmem, hid, hlocked, hkind, hfits.mono rfl rfl fun o ho hbelongs => ?_⟩
  have hof : o ∈ v.optionsOf item.id := List.mem_filter.2 ⟨ho, beq_iff_eq.2 hbelongs⟩
  rw [← hoptions] at hof
  exact (List.mem_filter.1 hof).1

/-! ## Items -/

/-- Options that are added belong to one item. -/
theorem optionsOf_addOptions {rows : List PlaytestFeedbackOption} {itemId itemId' : Uuid}
    (hrows : ∀ o ∈ rows, o.itemId = itemId) (hne : itemId' ≠ itemId) :
    (v.addOptions rows).optionsOf itemId' = v.optionsOf itemId' := by
  have hnil : rows.filter (·.itemId == itemId') = [] := by
    refine List.filter_eq_nil_iff.2 fun o ho => ?_
    rw [hrows o ho, beq_iff_eq]
    exact Ne.symm hne
  show (rows ++ v.options).filter _ = _
  rw [List.filter_append, hnil]
  rfl

theorem optionsOf_dropOptions {itemId itemId' : Uuid} (hne : itemId' ≠ itemId) :
    (v.dropOptions itemId).optionsOf itemId' = v.optionsOf itemId' := by
  refine Table.filter_delete _ fun o ho => ?_
  rw [beq_iff_eq] at ho
  rw [ho]
  exact beq_false_of_ne hne

theorem keepsLocked_addAnswers (s : PlaytestFeedbackSubmission)
    (answers : List FeedbackAnswerDraft) : KeepsLocked v (v.addAnswers s answers) := by
  intro item hitem hlocked
  refine ⟨?_, ?_⟩
  · rw [addAnswers_items]
    cases hanswered : (answers.map (·.itemId)).contains item.id with
    | true =>
      refine Table.mem_update.2 (.inl ⟨item, hitem, hanswered, ?_⟩)
      rw [← hlocked]
    | false => exact Table.mem_update.2 (.inr ⟨hitem, hanswered⟩)
  · rw [optionsOf, addAnswers_options]
    rfl

theorem Change.keepsLocked {w : Feedback} (h : Change v w) (hv : v.Ok) : KeepsLocked v w := by
  intro item hitem hlocked
  cases h with
  | stays => exact ⟨hitem, rfl⟩
  | itemCreated new options hnew hkey hoptions =>
    have hne : item.id ≠ new.id := fun heq => hnew (heq ▸ List.mem_map_of_mem hitem)
    exact ⟨List.mem_cons_of_mem _ hitem, optionsOf_addOptions hoptions hne⟩
  | itemRewritten old hold hunlocked draft options hoptions =>
    have hne : item.id ≠ old.id := by
      intro heq
      rw [eq_of_nodup hv.items hitem hold heq, hunlocked] at hlocked
      cases hlocked
    refine ⟨Table.mem_update.2 (.inr ⟨hitem, beq_false_of_ne hne⟩), ?_⟩
    rw [optionsOf_addOptions hoptions hne, optionsOf_dropOptions hne]
    rfl
  | itemDeleted old hold hunlocked =>
    have hne : item.id ≠ old.id := by
      intro heq
      rw [eq_of_nodup hv.items hitem hold heq, hunlocked] at hlocked
      cases hlocked
    refine ⟨Table.mem_delete.2 ⟨hitem, beq_false_of_ne hne⟩, ?_⟩
    show (v.dropOptions old.id).optionsOf item.id = _
    exact optionsOf_dropOptions hne
  | submissionCreated s hnew hfirst answers hfit =>
    exact keepsLocked_addAnswers _ _ item hitem hlocked
  | submissionRewritten old s hold hid hauthor hrecorder hrevision answers hfit =>
    exact keepsLocked_addAnswers _ _ item hitem hlocked

/-! ## The invariant is kept -/

/-- The answers of a submission are inserted after all it had are gone. -/
theorem Ok.addAnswers (hv : v.Ok) (hnone : ∀ a ∈ v.answers, a.submissionId ≠ s.id)
    (hs : ∃ r ∈ v.submissions, r.id = s.id ∧ s.source = r.source ∧ s.status = r.status ∧
      s.directAuthorAccountId = r.directAuthorAccountId ∧
      s.recordedByAccountId = r.recordedByAccountId) (hfit : v.Fit answers) :
    (v.addAnswers s answers).Ok where
  items := by
    rw [addAnswers_items]
    exact nodup_update hv.items fun _ => rfl
  submissions := by
    rw [addAnswers_submissions]
    exact hv.submissions
  direct := by
    rw [addAnswers_submissions]
    exact hv.direct
  conforms a ha := by
    rw [addAnswers_answers, List.mem_append, List.mem_reverse] at ha
    rcases ha with ha | ha
    · obtain ⟨draft, hdraft, rfl⟩ := List.mem_map.1 ha
      obtain ⟨item, hitem, hid, hfits⟩ := hfit.each draft hdraft
      obtain ⟨hkind, hvalue⟩ := hfits.answerRow (s := s)
      refine ⟨{ item with isLocked := true }, ?_, hid, rfl, hkind,
        hvalue.mono rfl rfl fun o ho _ => ?_⟩
      · rw [addAnswers_items]
        refine Table.mem_update.2 (.inl ⟨item, hitem, ?_, rfl⟩)
        rw [List.contains_iff_mem, hid]
        exact List.mem_map_of_mem hdraft
      · rw [addAnswers_options]
        exact ho
    · exact (hv.conforms a ha).mono (keepsLocked_addAnswers s answers)
  once := by
    rw [addAnswers_answers, List.map_append, List.nodup_append]
    refine ⟨?_, hv.once, ?_⟩
    · rw [List.map_reverse, List.nodup_reverse, List.map_map]
      have hsame : ((fun a : PlaytestFeedbackAnswer => (a.submissionId, a.itemId)) ∘ answerRow s) =
          (fun itemId => (s.id, itemId)) ∘ (·.itemId) := rfl
      rw [hsame, ← List.map_map]
      exact hfit.different.map fun _ _ h => (Prod.mk.inj h).2
    · intro x hx y hy hxy
      rw [List.mem_map] at hx hy
      obtain ⟨a, ha, rfl⟩ := hx
      obtain ⟨b, hb, rfl⟩ := hy
      rw [List.mem_reverse, List.mem_map] at ha
      obtain ⟨draft, -, rfl⟩ := ha
      exact hnone b hb (Prod.mk.inj hxy).1.symm
  authored a ha := by
    rw [addAnswers_answers, List.mem_append, List.mem_reverse] at ha
    rw [IsAuthored, addAnswers_submissions]
    rcases ha with ha | ha
    · obtain ⟨draft, -, rfl⟩ := List.mem_map.1 ha
      exact hs
    · exact hv.authored a ha

/-- A rewritten submission is the one it was, with its author. -/
theorem exists_of_mem_setSubmission {r : PlaytestFeedbackSubmission}
    (hr : r ∈ (v.setSubmission s).submissions) : ∃ r₀ ∈ v.submissions, r.id = r₀.id ∧
      r.directAuthorAccountId = r₀.directAuthorAccountId := by
  rcases Table.mem_update.1 hr with ⟨r₀, hr₀, -, rfl⟩ | ⟨hr, -⟩
  · exact ⟨r₀, hr₀, rfl, rfl⟩
  · exact ⟨r, hr, rfl, rfl⟩

/-- The answers of a submission are deleted, and its row is written. -/
theorem Ok.replaceSubmission (hv : v.Ok) : ((v.setSubmission s).dropAnswers s.id).Ok where
  items := hv.items
  submissions := nodup_update hv.submissions fun _ => rfl
  direct r hr r' hr' a ha ha' := by
    obtain ⟨r₀, hr₀, hid, hauthor⟩ := exists_of_mem_setSubmission hr
    obtain ⟨r₀', hr₀', hid', hauthor'⟩ := exists_of_mem_setSubmission hr'
    rw [hid, hid']
    exact hv.direct r₀ hr₀ r₀' hr₀' a (hauthor.symm.trans ha) (hauthor'.symm.trans ha')
  conforms a ha := (hv.conforms a (Table.mem_delete.1 ha).1).mono (KeepsLocked.refl v)
  once := nodup_delete hv.once
  authored a ha := by
    obtain ⟨ha, hother⟩ := Table.mem_delete.1 ha
    obtain ⟨r, hr, hrid, hrest⟩ := hv.authored a ha
    refine ⟨r, Table.mem_update.2 (.inr ⟨hr, ?_⟩), hrid, hrest⟩
    rw [hrid]
    exact hother

theorem Ok.addSubmission (hv : v.Ok) (hnew : s.id ∉ v.submissions.map (·.id))
    (hfirst : ∀ r ∈ v.submissions, ∀ a, s.directAuthorAccountId = some a →
      r.directAuthorAccountId ≠ some a) : ((v.addSubmission s).dropAnswers s.id).Ok where
  items := hv.items
  submissions := List.nodup_cons.2 ⟨hnew, hv.submissions⟩
  direct r hr r' hr' a ha ha' := by
    rcases List.mem_cons.1 hr with rfl | hold
    · rcases List.mem_cons.1 hr' with rfl | hold'
      · rfl
      · exact absurd ha' (hfirst r' hold' a ha)
    · rcases List.mem_cons.1 hr' with rfl | hold'
      · exact absurd ha (hfirst r hold a ha')
      · exact hv.direct r hold r' hold' a ha ha'
  conforms a ha := (hv.conforms a (Table.mem_delete.1 ha).1).mono (KeepsLocked.refl v)
  once := nodup_delete hv.once
  authored a ha := by
    obtain ⟨r, hr, hrest⟩ := hv.authored a (Table.mem_delete.1 ha).1
    exact ⟨r, List.mem_cons_of_mem _ hr, hrest⟩

/-- **Every change keeps feedback in order.** -/
theorem Change.ok {w : Feedback} (h : Change v w) (hv : v.Ok) : w.Ok := by
  have hkeeps := h.keepsLocked hv
  cases h with
  | stays => exact hv
  | itemCreated item options hnew hkey hoptions =>
    exact ⟨List.nodup_cons.2 ⟨hnew, hv.items⟩, hv.submissions, hv.direct,
      fun a ha => (hv.conforms a ha).mono hkeeps, hv.once, hv.authored⟩
  | itemRewritten item hitem hunlocked draft options hoptions =>
    exact ⟨nodup_update hv.items fun _ => rfl, hv.submissions, hv.direct,
      fun a ha => (hv.conforms a ha).mono hkeeps, hv.once, hv.authored⟩
  | itemDeleted item hitem hunlocked =>
    exact ⟨nodup_delete hv.items, hv.submissions, hv.direct,
      fun a ha => (hv.conforms a ha).mono hkeeps, hv.once, hv.authored⟩
  | submissionCreated s hnew hfirst answers hfit =>
    refine (hv.addSubmission hnew hfirst).addAnswers (fun a ha => ?_) ?_ ⟨hfit.different, hfit.each⟩
    · exact ne_of_beq_false (Table.mem_delete.1 ha).2
    · exact ⟨s, List.mem_cons_self, rfl, rfl, rfl, rfl, rfl⟩
  | submissionRewritten old s hold hid hauthor hrecorder hrevision answers hfit =>
    refine hv.replaceSubmission.addAnswers (fun a ha => ?_) ?_ ⟨hfit.different, hfit.each⟩
    · exact ne_of_beq_false (Table.mem_delete.1 ha).2
    · exact ⟨_, Table.mem_update.2 (.inl ⟨old, hold, beq_iff_eq.2 hid.symm, rfl⟩), hid.symm, rfl,
        rfl, hauthor, hrecorder⟩

/-! ## Revisions -/

/-- A submission is never deleted, and its revision never falls. -/
theorem Change.submission_kept {w : Feedback} (h : Change v w) (hv : v.Ok)
    {r : PlaytestFeedbackSubmission} (hr : r ∈ v.submissions) :
    ∃ r' ∈ w.submissions, r'.id = r.id ∧ r.revision ≤ r'.revision := by
  cases h with
  | submissionCreated s hnew hfirst answers hfit =>
    rw [addAnswers_submissions]
    exact ⟨r, List.mem_cons_of_mem _ hr, rfl, le_rfl⟩
  | submissionRewritten old s hold hid hauthor hrecorder hrevision answers hfit =>
    rw [addAnswers_submissions]
    by_cases hsame : r.id = s.id
    · refine ⟨_, Table.mem_update.2 (.inl ⟨r, hr, beq_iff_eq.2 hsame, rfl⟩), rfl, ?_⟩
      obtain rfl := eq_of_nodup hv.submissions hr hold (hsame.trans hid)
      show r.revision ≤ s.revision
      omega
    · exact ⟨r, Table.mem_update.2 (.inr ⟨hr, beq_false_of_ne hsame⟩), rfl, le_rfl⟩
  | _ => exact ⟨r, hr, rfl, le_rfl⟩

/-- The revision of an item never falls, as long as the item is there. -/
theorem Change.item_kept {w : Feedback} (h : Change v w) (hv : v.Ok) {i : PlaytestFeedbackItem}
    (hi : i ∈ v.items) :
    (∃ i' ∈ w.items, i'.id = i.id ∧ i.revision ≤ i'.revision) ∨ ∀ i' ∈ w.items, i'.id ≠ i.id := by
  have hanswered : ∀ (u : Feedback) (s : PlaytestFeedbackSubmission)
      (answers : List FeedbackAnswerDraft), u.items = v.items →
      ∃ i' ∈ (u.addAnswers s answers).items, i'.id = i.id ∧ i.revision ≤ i'.revision := by
    intro u s answers hu
    rw [addAnswers_items, hu]
    cases hcontains : (answers.map (·.itemId)).contains i.id with
    | true => exact ⟨_, Table.mem_update.2 (.inl ⟨i, hi, hcontains, rfl⟩), rfl, le_rfl⟩
    | false => exact ⟨i, Table.mem_update.2 (.inr ⟨hi, hcontains⟩), rfl, le_rfl⟩
  cases h with
  | stays => exact .inl ⟨i, hi, rfl, le_rfl⟩
  | itemCreated item options hnew hkey hoptions =>
    exact .inl ⟨i, List.mem_cons_of_mem _ hi, rfl, le_rfl⟩
  | itemRewritten item hitem hunlocked draft options hoptions =>
    by_cases hsame : i.id = item.id
    · refine .inl ⟨_, Table.mem_update.2 (.inl ⟨i, hi, beq_iff_eq.2 hsame, rfl⟩), rfl, ?_⟩
      obtain rfl := eq_of_nodup hv.items hi hitem hsame
      exact Nat.le_succ _
    · exact .inl ⟨i, Table.mem_update.2 (.inr ⟨hi, beq_false_of_ne hsame⟩), rfl, le_rfl⟩
  | itemDeleted item hitem hunlocked =>
    by_cases hsame : i.id = item.id
    · refine .inr fun i' hi' => ?_
      rw [hsame]
      exact ne_of_beq_false (Table.mem_delete.1 hi').2
    · exact .inl ⟨i, Table.mem_delete.2 ⟨hi, beq_false_of_ne hsame⟩, rfl, le_rfl⟩
  | submissionCreated s hnew hfirst answers hfit => exact .inl (hanswered _ _ _ rfl)
  | submissionRewritten old s hold hid hauthor hrecorder hrevision answers hfit =>
    exact .inl (hanswered _ _ _ rfl)

/-- No two items of a session have one creation key. -/
theorem Change.creationKeys {w : Feedback} (h : Change v w)
    (hv : (v.items.map (·.creationOperationKey)).Nodup) :
    (w.items.map (·.creationOperationKey)).Nodup := by
  cases h with
  | stays => exact hv
  | itemCreated item options hnew hkey hoptions => exact List.nodup_cons.2 ⟨hkey, hv⟩
  | itemRewritten item hitem hunlocked draft options hoptions =>
    exact nodup_update hv (by intro i; rfl)
  | itemDeleted item hitem hunlocked => exact nodup_delete hv
  | submissionCreated s hnew hfirst answers hfit =>
    rw [addAnswers_items]
    exact nodup_update hv (by intro i; rfl)
  | submissionRewritten old s hold hid hauthor hrecorder hrevision answers hfit =>
    rw [addAnswers_items]
    exact nodup_update hv (by intro i; rfl)

/-- The answers of a submission after it was written are those it was written with. -/
theorem answersOf_addAnswers :
    ((v.dropAnswers s.id).addAnswers s answers).answersOf s.id =
      (answers.map (answerRow s)).reverse := by
  have hown : (answers.map (answerRow s)).reverse.filter (·.submissionId == s.id) =
      (answers.map (answerRow s)).reverse := by
    refine List.filter_eq_self.2 fun a ha => ?_
    rw [List.mem_reverse, List.mem_map] at ha
    obtain ⟨draft, -, rfl⟩ := ha
    exact beq_self_eq_true _
  rw [answersOf, addAnswers_answers, List.filter_append, hown]
  show _ ++ (Table.delete (·.submissionId == s.id) v.answers).filter _ = _
  rw [Table.filter_delete_self, List.append_nil]

/-- The options of an item after it was written are those it was written with. -/
theorem optionsOf_addOptions_dropOptions {itemId : Uuid} {rows : List PlaytestFeedbackOption}
    (hrows : ∀ o ∈ rows, o.itemId = itemId) :
    ((v.dropOptions itemId).addOptions rows).optionsOf itemId = rows := by
  show (rows ++ Table.delete (·.itemId == itemId) v.options).filter _ = _
  rw [List.filter_append, Table.filter_delete_self, List.append_nil]
  exact List.filter_eq_self.2 fun o ho => beq_iff_eq.2 (hrows o ho)

end Feedback

end Evidence

end Rulefolio
