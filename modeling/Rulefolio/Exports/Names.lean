import Mathlib.Data.Nat.Digits.Defs
import Rulefolio.Library.Records
import Rulefolio.Models

/-!
# Names in an archive

The path of a material in an archive: the directory, the identifier of the file, and the display name
with everything taken out of it that a path gives a meaning to. The display name is whatever an
uploader has chosen.

The identifier stands in front of the name and ends where the name begins, so two files never share a
path.

## Main definitions

* `safeDisplayName` — `_safe_display_name`.
* `uuidText` — `str` of a `UUID`.
* `materialPath` — the path of a material.

## Main results

* `materialPath_injective` — a path tells which file it is of.
* `materialPath_component` — behind the directory a path is one component, and a safe one.
-/

namespace Rulefolio

namespace Exports

/-! ## The name -/

/-- The class `[\\/\x00-\x1f]`. -/
def isSeparator (c : Char) : Bool :=
  c == '\\' || c == '/' || c.toNat ≤ 0x1F

/-- `sub(r"[\\/\x00-\x1f]+", "_", value)`: one `_` for each run of them. The flag says that the
character before was one. -/
def substituted : (after : Bool) → List Char → List Char
  | _, [] => []
  | after, c :: cs =>
    if isSeparator c then
      if after then substituted true cs else '_' :: substituted true cs
    else c :: substituted false cs

/-- The characters `strip(" .")` removes. -/
def isFiller (c : Char) : Bool :=
  c == ' ' || c == '.'

/-- `strip(" .")`. -/
def stripped (cs : List Char) : List Char :=
  ((cs.dropWhile isFiller).reverse.dropWhile isFiller).reverse

/-- `_safe_display_name`. -/
def safeDisplayName (value : List Char) : List Char :=
  let value := (stripped (substituted false value)).take 160
  if value.isEmpty then "material".toList else value

example : safeDisplayName "../a\\/b.".toList = "_a_b".toList := by decide

/-- A character a name may keep. -/
def IsSafe (c : Char) : Prop :=
  c ≠ '/' ∧ c ≠ '\\' ∧ 0x20 ≤ c.toNat

theorem isSafe_of_not_separator {c : Char} (h : isSeparator c = false) : IsSafe c := by
  simp only [isSeparator, Bool.or_eq_false_iff, beq_eq_false_iff_ne, decide_eq_false_iff_not,
    not_le] at h
  exact ⟨h.1.2, h.1.1, h.2⟩

theorem isSafe_of_mem_substituted {after : Bool} {cs : List Char} :
    ∀ c ∈ substituted after cs, IsSafe c := by
  induction cs generalizing after with
  | nil => intro c hc; cases hc
  | cons d cs ih =>
    intro c hc
    rw [substituted] at hc
    split at hc
    · split at hc
      · exact ih c hc
      · rcases List.mem_cons.1 hc with rfl | hc
        · exact ⟨by decide, by decide, by decide⟩
        · exact ih c hc
    · rename_i hkept
      rcases List.mem_cons.1 hc with rfl | hc
      · exact isSafe_of_not_separator (by simpa using hkept)
      · exact ih c hc

theorem mem_of_mem_stripped {c : Char} {cs : List Char} (h : c ∈ stripped cs) : c ∈ cs := by
  have hback := (List.dropWhile_suffix (l := (cs.dropWhile isFiller).reverse) isFiller).subset
    (List.mem_reverse.1 h)
  exact (List.dropWhile_suffix (l := cs) isFiller).subset (List.mem_reverse.1 hback)

theorem isSafe_of_mem_safeDisplayName {value : List Char} :
    ∀ c ∈ safeDisplayName value, IsSafe c := by
  intro c hc
  rw [safeDisplayName] at hc
  split at hc
  · have hmaterial : ("material".toList.all fun c =>
        c != '/' && c != '\\' && decide (0x20 ≤ c.toNat)) = true := by decide +kernel
    have hsafe := List.all_eq_true.1 hmaterial c hc
    simp only [Bool.and_eq_true, bne_iff_ne, ne_eq, decide_eq_true_eq] at hsafe
    exact ⟨hsafe.1.1, hsafe.1.2, hsafe.2⟩
  · exact isSafe_of_mem_substituted c (mem_of_mem_stripped (List.mem_of_mem_take hc))

/-! ## The identifier -/

/-- The digits of `"%032x"`. -/
def hexDigits (id : Uuid) : List ℕ :=
  let digits := Nat.digits 16 id
  (digits ++ List.replicate (32 - digits.length) 0).reverse

/-- `str` of a `UUID`: its digits in five groups. -/
def uuidText (id : Uuid) : List Char :=
  let hex := (hexDigits id).map Nat.digitChar
  hex.take 8 ++ '-' :: ((hex.drop 8).take 4 ++ '-' :: ((hex.drop 12).take 4 ++ '-' ::
    ((hex.drop 16).take 4 ++ '-' :: hex.drop 20)))

example : uuidText 0x0123456789abcdef0123456789abcdef =
    "01234567-89ab-cdef-0123-456789abcdef".toList := by decide

theorem hexDigits_lt {id d : ℕ} (h : d ∈ hexDigits id) : d < 16 := by
  rw [hexDigits, List.mem_reverse, List.mem_append] at h
  rcases h with h | h
  · exact Nat.digits_lt_base (by decide) h
  · rw [List.eq_of_mem_replicate h]
    decide

theorem hexDigits_injective {id id' : Uuid} (h : hexDigits id = hexDigits id') : id = id' := by
  have hvalue : ∀ n : ℕ, Nat.ofDigits 16 (hexDigits n).reverse = n := fun n => by
    rw [hexDigits, List.reverse_reverse, Nat.ofDigits_append_replicate_zero, Nat.ofDigits_digits]
  rw [← hvalue id, h, hvalue]

/-- Each of the sixteen digits has a character of its own, which a path may contain. -/
theorem digitChar_cases : ∀ d < 16, (∀ d' < 16, Nat.digitChar d = Nat.digitChar d' → d = d') ∧
    Nat.digitChar d ≠ '-' ∧ Nat.digitChar d ≠ '.' ∧ Nat.digitChar d ≠ '/' ∧
      Nat.digitChar d ≠ '\\' ∧ 0x20 ≤ (Nat.digitChar d).toNat := by
  decide

theorem map_digitChar_injective {l l' : List ℕ} (hl : ∀ d ∈ l, d < 16) (hl' : ∀ d ∈ l', d < 16)
    (h : l.map Nat.digitChar = l'.map Nat.digitChar) : l = l' := by
  induction l generalizing l' with
  | nil => exact (List.map_eq_nil_iff.1 h.symm).symm
  | cons d l ih =>
    cases l' with
    | nil => cases h
    | cons d' l' =>
      rw [List.map_cons, List.map_cons, List.cons.injEq] at h
      have hd : d = d' := (digitChar_cases d (hl d List.mem_cons_self)).1 d'
        (hl' d' List.mem_cons_self) h.1
      rw [hd, ih (fun x hx => hl x (List.mem_cons_of_mem _ hx))
        (fun x hx => hl' x (List.mem_cons_of_mem _ hx)) h.2]

theorem dash_not_mem_hex {id : Uuid} {c : Char} (h : c ∈ (hexDigits id).map Nat.digitChar) :
    (c != '-') = true := by
  obtain ⟨d, hd, rfl⟩ := List.mem_map.1 h
  exact bne_iff_ne.2 (digitChar_cases d (hexDigits_lt hd)).2.1

/-- The groups are the digits again. -/
theorem groups_append {hex : List Char} : hex.take 8 ++ ((hex.drop 8).take 4 ++
    ((hex.drop 12).take 4 ++ ((hex.drop 16).take 4 ++ hex.drop 20))) = hex := by
  have hnext : ∀ k, (hex.drop k).take 4 ++ hex.drop (k + 4) = hex.drop k := fun k => by
    rw [← List.drop_drop, List.take_append_drop]
  rw [hnext 16, hnext 12, hnext 8, List.take_append_drop]

/-- Behind an identifier a dash ends the last group. -/
theorem uuidText_append_injective {id id' : Uuid} {name name' : List Char}
    (h : uuidText id ++ '-' :: name = uuidText id' ++ '-' :: name') : id = id' := by
  have hfree : ∀ n : ℕ, ∀ group : List Char, group ⊆ (hexDigits n).map Nat.digitChar →
      ∀ c ∈ group, (c != '-') = true := fun n group hsub c hc => dash_not_mem_hex (hsub hc)
  have hgroup : ∀ (n k l : ℕ), ((((hexDigits n).map Nat.digitChar).drop k).take l) ⊆
      (hexDigits n).map Nat.digitChar := fun n k l =>
    List.Subset.trans (List.take_subset _ _) (List.drop_subset _ _)
  simp only [uuidText, List.append_assoc, List.cons_append] at h
  obtain ⟨h₁, -, h⟩ := append_stop_inj (p := (· != '-'))
    (hfree id _ (List.take_subset _ _)) (hfree id' _ (List.take_subset _ _)) rfl rfl h
  obtain ⟨h₂, -, h⟩ := append_stop_inj (p := (· != '-'))
    (hfree id _ (hgroup id 8 4)) (hfree id' _ (hgroup id' 8 4)) rfl rfl h
  obtain ⟨h₃, -, h⟩ := append_stop_inj (p := (· != '-'))
    (hfree id _ (hgroup id 12 4)) (hfree id' _ (hgroup id' 12 4)) rfl rfl h
  obtain ⟨h₄, -, h⟩ := append_stop_inj (p := (· != '-'))
    (hfree id _ (hgroup id 16 4)) (hfree id' _ (hgroup id' 16 4)) rfl rfl h
  obtain ⟨h₅, -, -⟩ := append_stop_inj (p := (· != '-'))
    (hfree id _ (List.drop_subset _ _)) (hfree id' _ (List.drop_subset _ _)) rfl rfl h
  have hhex : (hexDigits id).map Nat.digitChar = (hexDigits id').map Nat.digitChar := by
    rw [← @groups_append ((hexDigits id).map Nat.digitChar), h₁, h₂, h₃, h₄, h₅, groups_append]
  exact hexDigits_injective
    (map_digitChar_injective (fun _ => hexDigits_lt) (fun _ => hexDigits_lt) hhex)

theorem isSafe_of_mem_uuidText {id : Uuid} {c : Char} (h : c ∈ uuidText id) : IsSafe c := by
  have hdigit : c ∈ (hexDigits id).map Nat.digitChar → IsSafe c := fun hc => by
    obtain ⟨d, hd, rfl⟩ := List.mem_map.1 hc
    exact (digitChar_cases d (hexDigits_lt hd)).2.2.2
  have hdash : IsSafe '-' := ⟨by decide, by decide, by decide⟩
  simp only [uuidText, List.mem_append, List.mem_cons] at h
  rcases h with h | rfl | h | rfl | h | rfl | h | rfl | h
  · exact hdigit (List.mem_of_mem_take h)
  · exact hdash
  · exact hdigit (List.mem_of_mem_drop (List.mem_of_mem_take h))
  · exact hdash
  · exact hdigit (List.mem_of_mem_drop (List.mem_of_mem_take h))
  · exact hdash
  · exact hdigit (List.mem_of_mem_drop (List.mem_of_mem_take h))
  · exact hdash
  · exact hdigit (List.mem_of_mem_drop h)

/-! ## The path -/

/-- The directory of the materials. -/
def materialsDirectory : List Char :=
  "materials/".toList

/-- `f"materials/{file_id}-{_safe_display_name(display_name)}"`. -/
def materialPath (fileId : Uuid) (displayName : List Char) : List Char :=
  materialsDirectory ++ (uuidText fileId ++ '-' :: safeDisplayName displayName)

/-- A path tells which file it is of. -/
theorem materialPath_injective {id id' : Uuid} {name name' : List Char}
    (h : materialPath id name = materialPath id' name') : id = id' :=
  uuidText_append_injective (List.append_cancel_left h)

/-- Behind the directory a path is one component, which is none of `.` and `..`. -/
theorem materialPath_component (id : Uuid) (name : List Char) :
    ∃ component, materialPath id name = materialsDirectory ++ component ∧
      (∀ c ∈ component, IsSafe c) ∧ component ≠ ".".toList ∧ component ≠ "..".toList := by
  have hdash : '-' ∈ uuidText id ++ '-' :: safeDisplayName name :=
    List.mem_append_right _ List.mem_cons_self
  refine ⟨_, rfl, fun c hc => ?_, ?_, ?_⟩
  · rcases List.mem_append.1 hc with hc | hc
    · exact isSafe_of_mem_uuidText hc
    · rcases List.mem_cons.1 hc with rfl | hc
      · exact ⟨by decide, by decide, by decide⟩
      · exact isSafe_of_mem_safeDisplayName c hc
  · intro heq
    rw [heq] at hdash
    exact absurd hdash (by decide)
  · intro heq
    rw [heq] at hdash
    exact absurd hdash (by decide)

end Exports

end Rulefolio
