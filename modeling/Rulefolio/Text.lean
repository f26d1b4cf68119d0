import Mathlib.Data.List.Basic
import Mathlib.Data.List.DropRight

/-!
# Text as Python has it

The parts of `str` the services use: `strip`, which removes the characters `isspace` accepts, and
`len`, which counts code points as `String.length` does.

## Main definitions

* `strip`.
* `requiredText`, `optionalText` — the checks `_required_text` and `_optional_text`, which the
  packages define alike but for the exception they raise.
-/

namespace Rulefolio

/-- `str.isspace` of one character. -/
def isSpace (c : Char) : Bool :=
  let n := c.toNat
  (0x09 ≤ n && n ≤ 0x0D) || (0x1C ≤ n && n ≤ 0x20) || n == 0x85 || n == 0xA0 || n == 0x1680 ||
    (0x2000 ≤ n && n ≤ 0x200A) || n == 0x2028 || n == 0x2029 || n == 0x202F || n == 0x205F ||
    n == 0x3000

/-- `str.strip`. -/
def strip (s : String) : String :=
  String.ofList (((s.toList.dropWhile isSpace).reverse.dropWhile isSpace).reverse)

/-- `_required_text`: the stripped text, if it is neither empty nor too long. -/
def requiredText (limit : ℕ) (value : String) : Option String :=
  let value := strip value
  if value.isEmpty || value.length > limit then none else some value

/-- `_optional_text`: an absent or empty text is absent; `none` is a text that is too long. -/
def optionalText (limit : ℕ) : Option String → Option (Option String)
  | none => some none
  | some value =>
    let value := strip value
    if value.length > limit then none
    else if value.isEmpty then some none else some (some value)

example : strip " \tboard\u3000" = "board" := by decide

/-! ## Normal forms -/

/-- What is left when both ends of a list are dropped has no such ends. -/
theorem dropWhile_rdropWhile_dropWhile {α : Type} (p : α → Bool) (l : List α) :
    ((l.dropWhile p).rdropWhile p).dropWhile p = (l.dropWhile p).rdropWhile p := by
  rw [List.dropWhile_eq_self_iff]
  intro hpos
  have hkept := List.rdropWhile_prefix p (l.dropWhile p)
  have hlength : 0 < (l.dropWhile p).length := lt_of_lt_of_le hpos hkept.length_le
  rw [hkept.getElem hpos]
  exact List.dropWhile_get_zero_not p l hlength

theorem strip_strip (s : String) : strip (strip s) = strip s := by
  have h := dropWhile_rdropWhile_dropWhile isSpace s.toList
  rw [strip, strip, String.toList_ofList]
  change String.ofList ((List.dropWhile isSpace
    ((s.toList.dropWhile isSpace).rdropWhile isSpace)).rdropWhile isSpace) = _
  rw [h, List.rdropWhile_idempotent]
  rfl

theorem length_strip_le (s : String) : (strip s).length ≤ s.length := by
  have hkept := (List.rdropWhile_prefix isSpace (s.toList.dropWhile isSpace)).length_le
  have hsuffix := (List.dropWhile_suffix (l := s.toList) isSpace).length_le
  have hlength : (strip s).length =
      ((s.toList.dropWhile isSpace).rdropWhile isSpace).length := by
    rw [strip, String.length_ofList]
    rfl
  rw [hlength, ← String.length_toList]
  omega

/-- A text of one repeated character that is not white space. -/
theorem strip_replicate {c : Char} (hc : isSpace c = false) (n : ℕ) :
    strip (String.ofList (List.replicate n c)) = String.ofList (List.replicate n c) := by
  have hdrop : (List.replicate n c).dropWhile isSpace = List.replicate n c := by
    cases n with
    | zero => rfl
    | succ n => simp [List.replicate_succ, hc]
  rw [strip, String.toList_ofList, hdrop, List.reverse_replicate, hdrop, List.reverse_replicate]

theorem one_le_length {s : String} (h : s.isEmpty = false) : 1 ≤ s.length := by
  by_contra hlength
  have hnil : s.toList = [] := by
    rw [← List.length_eq_zero_iff, String.length_toList]
    omega
  rw [String.toList_eq_nil_iff.1 hnil] at h
  exact absurd h (by decide)

theorem requiredText_eq_some {limit : ℕ} {value text : String} :
    requiredText limit value = some text ↔
      text = strip value ∧ (strip value).isEmpty = false ∧ (strip value).length ≤ limit := by
  rw [requiredText]
  split <;> simp_all <;> grind

theorem optionalText_none (limit : ℕ) : optionalText limit none = some none := by
  rw [optionalText]

theorem optionalText_some_eq_some {limit : ℕ} {value : String} {text : Option String} :
    optionalText limit (some value) = some text ↔ (strip value).length ≤ limit ∧
      text = if (strip value).isEmpty then none else some (strip value) := by
  rw [optionalText]
  split <;> grind

-- No other proof looks into a text.
attribute [irreducible] strip requiredText optionalText

end Rulefolio
