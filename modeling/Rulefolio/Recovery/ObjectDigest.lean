import Mathlib.Data.List.Lex
import Mathlib.Data.List.Nodup
import Rulefolio.Library.Records
import Rulefolio.Models

/-!
# The digest of a list of objects

`_object_digest` hashes the objects of a manifest in the order of their keys, one record each: the
key, a NUL, the size in decimal, a NUL, the digest in hexadecimal and a newline. A key is any text of
Python, which has lone surrogates, and those cannot be encoded.

A key may contain NULs and newlines too, and so a whole record ending. Then the text of one object
may be the text of two others, which are the objects of a list only if their keys are in order.

## Main definitions

* `CodePoint`, `encode` — text of Python, and UTF-8.
* `ManifestObject`, `objectDigest`.
* `recordEndings` — the endings of records.
* `SplitsInOrder` — a key that can be taken for two.

## Main results

* `object_digest_identifies_iff`.
-/

namespace Rulefolio

namespace Recovery

namespace Manifest

/-! ## Text -/

/-- A code point of a Python string. -/
inductive CodePoint
  | scalar (c : Char)
  | surrogate (n : Fin 0x800)
  deriving DecidableEq, Repr

/-- `ord`. -/
def CodePoint.ord : CodePoint → ℕ
  | scalar c => c.toNat
  | surrogate n => 0xD800 + n

/-- Text that has no surrogates. -/
def text (s : String) : List CodePoint :=
  s.toList.map .scalar

/-- What `load_manifest` raises. -/
inductive LoadError
  | recoveryFailed (phase : String)
  | valueError
  | recursionError
  | unicodeEncodeError
  deriving DecidableEq, Repr

/-- `str.encode`. -/
def encode : List CodePoint → Except LoadError Bytes
  | [] => .ok []
  | .surrogate _ :: _ => .error .unicodeEncodeError
  | .scalar c :: t => (encode t).map (String.utf8EncodeChar c ++ ·)

/-- A text without surrogates. -/
def Encodable (t : List CodePoint) : Prop :=
  ∀ x ∈ t, ∃ c, x = .scalar c

theorem CodePoint.ord_injective : Function.Injective ord := by
  intro a b h
  cases a with
  | scalar c =>
    cases b with
    | scalar c' => rw [Char.toNat_inj.1 h]
    | surrogate n =>
      have hc : c.toNat = 0xD800 + n := h
      have hvalid := c.valid
      have hn := n.isLt
      rw [UInt32.isValidChar, Nat.isValidChar, ← Char.toNat] at hvalid
      omega
  | surrogate n =>
    cases b with
    | scalar c =>
      have hc : 0xD800 + n = c.toNat := h
      have hvalid := c.valid
      have hn := n.isLt
      rw [UInt32.isValidChar, Nat.isValidChar, ← Char.toNat] at hvalid
      omega
    | surrogate n' =>
      rw [ord, ord, Nat.add_left_cancel_iff] at h
      rw [Fin.ext h]

theorem encode_scalars (cs : List Char) :
    encode (cs.map .scalar) = .ok (cs.flatMap String.utf8EncodeChar) := by
  induction cs with
  | nil => rfl
  | cons c cs ih =>
    rw [List.map_cons, encode, ih]
    rfl

theorem exists_scalars {t : List CodePoint} (h : Encodable t) : ∃ cs : List Char,
    t = cs.map .scalar := by
  induction t with
  | nil => exact ⟨[], rfl⟩
  | cons x t ih =>
    obtain ⟨c, rfl⟩ := h x List.mem_cons_self
    obtain ⟨cs, rfl⟩ := ih fun y hy => h y (List.mem_cons_of_mem _ hy)
    exact ⟨c :: cs, rfl⟩

/-- Text is encoded just when it has no surrogate. -/
theorem encode_eq (t : List CodePoint) :
    (Encodable t → ∃ b, encode t = .ok b) ∧
      (¬ Encodable t → encode t = .error .unicodeEncodeError) := by
  constructor
  · intro h
    obtain ⟨cs, rfl⟩ := exists_scalars h
    exact ⟨_, encode_scalars cs⟩
  · intro h
    induction t with
    | nil => exact absurd nofun h
    | cons x t ih =>
      cases x with
      | surrogate n => rfl
      | scalar c =>
        rw [encode, ih fun ht => h fun y hy => ?_]
        · rfl
        · rcases List.mem_cons.1 hy with rfl | hy
          · exact ⟨c, rfl⟩
          · exact ht y hy

theorem encodable_of_encode {t : List CodePoint} {b : Bytes} (h : encode t = .ok b) :
    Encodable t := by
  by_contra hnot
  rw [(encode_eq t).2 hnot] at h
  cases h

/-- UTF-8 tells texts apart. -/
theorem encode_injective {t t' : List CodePoint} {b : Bytes} (h : encode t = .ok b)
    (h' : encode t' = .ok b) : t = t' := by
  obtain ⟨cs, rfl⟩ := exists_scalars (encodable_of_encode h)
  obtain ⟨cs', rfl⟩ := exists_scalars (encodable_of_encode h')
  rw [encode_scalars, Except.ok.injEq] at h h'
  have hbytes : cs.utf8Encode = cs'.utf8Encode := congrArg List.toByteArray (h.trans h'.symm)
  rw [← String.toByteArray_ofList, ← String.toByteArray_ofList] at hbytes
  rw [String.ofList_injective (String.toByteArray_inj.1 hbytes)]

theorem encode_append (s t : List CodePoint) :
    encode (s ++ t) = (do return (← encode s) ++ (← encode t)) := by
  induction s with
  | nil =>
    rw [List.nil_append, encode]
    cases encode t <;> rfl
  | cons x s ih =>
    cases x with
    | surrogate n => rfl
    | scalar c =>
      rw [List.cons_append, encode, encode, ih]
      cases encode s with
      | error e => rfl
      | ok a =>
        cases encode t with
        | error e => rfl
        | ok b => exact congrArg Except.ok (List.append_assoc _ _ _).symm

/-! ## The objects of a manifest -/

/-- `ManifestObject`, with any key `load_manifest` may read; those of `Recovery.ManifestObject` are
text a database can hold. Its digest comes from `_parse_sha256`, so it has 32 bytes. -/
structure ManifestObject where
  key : List CodePoint
  sizeBytes : ℕ
  sha256 : Bytes
  length_sha256 : sha256.length = 32
  deriving DecidableEq

/-- `str` of a size. -/
def decimal (n : ℕ) : List CodePoint :=
  (Nat.toDigits 10 n).map .scalar

/-- `bytes.hex`. -/
def hexText (b : Bytes) : List CodePoint :=
  b.flatMap fun x =>
    [.scalar (Nat.digitChar (x.toNat / 16)), .scalar (Nat.digitChar (x.toNat % 16))]

/-- What one object adds to the hash. -/
def objectRecord (item : ManifestObject) : Except LoadError Bytes := do
  let key ← encode item.key
  let size ← encode (decimal item.sizeBytes)
  let sha256 ← encode (hexText item.sha256)
  return key ++ [0] ++ size ++ [0] ++ sha256 ++ [10]

/-- `sorted(objects, key=lambda value: value.key)`. -/
def sortByKey (objects : List ManifestObject) : List ManifestObject :=
  objects.mergeSort fun a b => decide (a.key.map (·.ord) ≤ b.key.map (·.ord))

/-- `_object_digest`. -/
def objectDigest (sha256 : Bytes → Bytes) (objects : List ManifestObject) :
    Except LoadError Bytes := do
  let records ← (sortByKey objects).mapM objectRecord
  return sha256 records.flatten

/-! ## The endings of records -/

/-- The separator of a record. -/
def nul : CodePoint := .scalar '\x00'

/-- The last character of a record. -/
def newline : CodePoint := .scalar '\n'

namespace CodePoint

/-- A decimal digit. -/
def isDigit : CodePoint → Bool
  | scalar c => c.isDigit
  | surrogate _ => false

/-- A digit as `bytes.hex` writes it. -/
def isHexDigit : CodePoint → Bool
  | scalar c => c.isDigit || ('a' ≤ c && c ≤ 'f')
  | surrogate _ => false

/-- The character, where it is one. -/
def char : CodePoint → Char
  | scalar c => c
  | surrogate _ => ' '

theorem isHexDigit_of_isDigit {x : CodePoint} (h : x.isDigit = true) : x.isHexDigit = true := by
  cases x with
  | scalar c =>
    have hc : c.isDigit = true := h
    rw [isHexDigit, hc, Bool.true_or]
  | surrogate n => cases h

end CodePoint

/-- The text is that of a size. -/
def isDecimal (t : List CodePoint) : Bool :=
  t == decimal (Nat.ofDigitChars 10 (t.map (·.char)) 0)

/-- The text is that of a digest. -/
def isHexDigest (t : List CodePoint) : Bool :=
  t.length == 64 && t.all (·.isHexDigit)

theorem isDigit_of_mem_decimal {n : ℕ} {x : CodePoint} (h : x ∈ decimal n) : x.isDigit = true := by
  obtain ⟨c, hc, rfl⟩ := List.mem_map.1 h
  exact Nat.isDigit_of_mem_toDigits (by decide) (by decide) hc

theorem map_char_decimal (n : ℕ) : (decimal n).map (·.char) = Nat.toDigits 10 n := by
  rw [decimal, List.map_map]
  exact List.map_id _

theorem isDecimal_decimal (n : ℕ) : isDecimal (decimal n) = true := by
  rw [isDecimal, map_char_decimal, Nat.ofDigitChars_ten_toDigits, beq_self_eq_true]

theorem decimal_injective : Function.Injective decimal := by
  intro n m h
  have hdigits := congrArg (List.map (·.char)) h
  rw [map_char_decimal, map_char_decimal] at hdigits
  rw [← @Nat.ofDigitChars_ten_toDigits n, hdigits, Nat.ofDigitChars_ten_toDigits]

theorem isDigit_of_isDecimal {t : List CodePoint} (h : isDecimal t = true) :
    ∀ x ∈ t, x.isDigit = true := by
  intro x hx
  rw [isDecimal, beq_iff_eq] at h
  rw [h] at hx
  exact isDigit_of_mem_decimal hx

/-- What follows the key in the record of an object, as text. -/
@[ext] structure RecordEnding where
  size : List CodePoint
  sha256 : List CodePoint
  size_decimal : isDecimal size = true
  sha256_hex : isHexDigest sha256 = true
  deriving DecidableEq

namespace RecordEnding

/-- The text of an ending. -/
def write (e : RecordEnding) : List CodePoint :=
  nul :: (e.size ++ nul :: (e.sha256 ++ [newline]))

variable (e : RecordEnding)

theorem size_digits : ∀ x ∈ e.size, x.isDigit = true :=
  isDigit_of_isDecimal e.size_decimal

theorem sha256_digits : ∀ x ∈ e.sha256, x.isHexDigit = true := by
  have hhex := e.sha256_hex
  rw [isHexDigest, Bool.and_eq_true] at hhex
  exact List.all_eq_true.1 hhex.2

/-- An ending is read off the front of a text in one way. -/
theorem write_inj {e e' : RecordEnding} {r r' : List CodePoint}
    (h : e.write ++ r = e'.write ++ r') : e = e' ∧ r = r' := by
  have htext : e.size ++ nul :: (e.sha256 ++ newline :: r) =
      e'.size ++ nul :: (e'.sha256 ++ newline :: r') := by
    simpa [write] using h
  obtain ⟨hsize, -, hrest⟩ := append_stop_inj (p := CodePoint.isDigit) e.size_digits
    e'.size_digits rfl rfl htext
  obtain ⟨hsha, -, hr⟩ := append_stop_inj (p := CodePoint.isHexDigit) e.sha256_digits
    e'.sha256_digits rfl rfl hrest
  exact ⟨RecordEnding.ext hsize hsha, hr⟩

/-- There is no NUL in an ending but the two separators. -/
theorem nul_notMem : nul ∉ e.size ∧ nul ∉ e.sha256 ++ [newline] := by
  constructor
  · intro h
    cases e.size_digits nul h
  · intro h
    rcases List.mem_append.1 h with h | h
    · cases e.sha256_digits nul h
    · cases List.mem_singleton.1 h

end RecordEnding

/-- A separator that occurs once divides a text in one way. -/
theorem split_at_separator {α : Type} {x : α} {t u size rest : List α} (hsize : x ∉ size)
    (hrest : x ∉ rest) (h : t ++ x :: u = size ++ x :: rest) : t = size ∧ u = rest := by
  rcases List.append_eq_append_iff.1 h with ⟨w, rfl, hw⟩ | ⟨w, rfl, hw⟩
  · cases w with
    | nil => exact ⟨(List.append_nil t).symm, (List.cons.inj hw).2⟩
    | cons y w =>
      rw [List.cons_append, List.cons.injEq] at hw
      rw [hw.1] at hsize
      simp at hsize
  · cases w with
    | nil => exact ⟨List.append_nil _, (List.cons.inj hw).2.symm⟩
    | cons y w =>
      rw [List.cons_append, List.cons.injEq] at hw
      rw [hw.2] at hrest
      simp at hrest

/-- The endings of records. -/
def recordEndings : Endings CodePoint RecordEnding where
  enc := RecordEnding.write
  enc_ne_nil _ := List.cons_ne_nil _ _
  enc_inj _ _ _ _ := RecordEnding.write_inj
  disjoint := by
    intro c t e r e' r' h
    rw [List.append_assoc] at h
    rcases List.append_eq_append_iff.1 h with ⟨u, hu, htail⟩ | ⟨u, hu, -⟩
    · cases u with
      | nil => exact ⟨[], by rw [List.append_nil, hu, List.append_nil]⟩
      | cons x u =>
        -- The other ending begins at a separator of this one, so at the second.
        rw [RecordEnding.write, List.cons_append, List.cons_append, List.cons.injEq] at htail
        obtain ⟨rfl, htail⟩ := htail
        rw [RecordEnding.write, List.cons_append, List.cons.injEq] at hu
        obtain ⟨-, rfl⟩ := split_at_separator e'.nul_notMem.1 e'.nul_notMem.2 hu.2.symm
        have hstop : e.size ++ nul :: (e.sha256 ++ [newline] ++ r) = e'.sha256 ++ newline :: r' := by
          simpa using htail
        cases (append_stop_inj (p := CodePoint.isHexDigit)
          (fun x hx => CodePoint.isHexDigit_of_isDigit (e.size_digits x hx)) e'.sha256_digits rfl rfl
          hstop).2.1
    · exact ⟨u, hu⟩

/-! ## What the digest identifies -/

/-- What `load_manifest` checks of the objects. -/
structure AcceptedObjects (objects : List ManifestObject) : Prop where
  key_ne : ∀ o ∈ objects, o.key ≠ []
  key_length : ∀ o ∈ objects, o.key.length ≤ 255
  distinct : (objects.map (·.key)).Nodup

/-- No key has a lone surrogate. -/
def KeysEncodable (objects : List ManifestObject) : Prop :=
  ∀ o ∈ objects, Encodable o.key

/-- A digest has 64 characters, all of them digits. -/
theorem isHexDigest_hexText {b : Bytes} (h : b.length = 32) : isHexDigest (hexText b) = true := by
  have hlength : ∀ l : Bytes, (hexText l).length = 2 * l.length := by
    intro l
    induction l with
    | nil => rfl
    | cons x l ih =>
      rw [hexText, List.flatMap_cons, List.length_append, ← hexText, ih, List.length_cons]
      simp
      omega
  have hdigit : ∀ n < 16, (CodePoint.scalar (Nat.digitChar n)).isHexDigit = true := by decide
  rw [isHexDigest, Bool.and_eq_true, beq_iff_eq, hlength, h, List.all_eq_true]
  refine ⟨rfl, fun x hx => ?_⟩
  obtain ⟨y, -, hy⟩ := List.mem_flatMap.1 hx
  have hbound := y.toNat_lt
  rcases List.mem_cons.1 hy with rfl | hy
  · exact hdigit _ (by omega)
  · rw [List.mem_singleton.1 hy]
    exact hdigit _ (by omega)

/-- The ending of the record of an object. -/
def ManifestObject.ending (item : ManifestObject) : RecordEnding :=
  ⟨decimal item.sizeBytes, hexText item.sha256, isDecimal_decimal _,
    isHexDigest_hexText item.length_sha256⟩

/-- The records of some objects. -/
def recordsOf (objects : List ManifestObject) : List (List CodePoint × RecordEnding) :=
  objects.map fun o => (o.key, o.ending)

theorem encodable_of_digits {t : List CodePoint} (h : ∀ x ∈ t, x.isHexDigit = true) :
    Encodable t := by
  intro x hx
  cases x with
  | scalar c => exact ⟨c, rfl⟩
  | surrogate n => cases h _ hx

/-- What an object adds to the hash is its record, encoded. -/
theorem objectRecord_eq (item : ManifestObject) :
    objectRecord item = encode (item.key ++ item.ending.write) := by
  obtain ⟨size, hsize⟩ := (encode_eq _).1 (encodable_of_digits fun x hx =>
    CodePoint.isHexDigit_of_isDigit (item.ending.size_digits x hx))
  obtain ⟨sha, hsha⟩ := (encode_eq _).1 (encodable_of_digits item.ending.sha256_digits)
  have hrest : encode item.ending.write = .ok (0 :: (size ++ 0 :: (sha ++ [10]))) := by
    rw [RecordEnding.write, nul, encode, encode_append, hsize, encode, encode_append, hsha]
    rfl
  rw [objectRecord, encode_append, hrest]
  cases encode item.key with
  | error e => rfl
  | ok key =>
    have hdecimal : encode (decimal item.sizeBytes) = .ok size := hsize
    have hhex : encode (hexText item.sha256) = .ok sha := hsha
    rw [hdecimal, hhex]
    simp [bind, Except.bind, pure, Except.pure]

theorem mapM_objectRecord (objects : List ManifestObject) :
    (objects.mapM objectRecord).map List.flatten =
      encode (recordEndings.write (recordsOf objects)) := by
  induction objects with
  | nil => rfl
  | cons o objects ih =>
    rw [recordsOf, List.map_cons, Endings.write_cons, ← List.append_assoc, ← recordsOf,
      encode_append, ← ih, List.mapM_cons, objectRecord_eq]
    show _ = (do return (← encode (o.key ++ o.ending.write)) ++ (← _))
    cases encode (o.key ++ o.ending.write) with
    | error e => rfl
    | ok a =>
      cases objects.mapM objectRecord with
      | error e => rfl
      | ok l => rfl

/-- The digest is that of the encoded text of the records. -/
theorem objectDigest_eq (sha256 : Bytes → Bytes) (objects : List ManifestObject) :
    objectDigest sha256 objects =
      (encode (recordEndings.write (recordsOf (sortByKey objects)))).map sha256 := by
  rw [← mapM_objectRecord, objectDigest]
  cases (sortByKey objects).mapM objectRecord <;> rfl

theorem sortByKey_perm (objects : List ManifestObject) : (sortByKey objects).Perm objects :=
  List.mergeSort_perm _ _

/-- What keys are compared by. -/
def ords (key : List CodePoint) : List ℕ := key.map (·.ord)

theorem ords_injective : Function.Injective ords :=
  List.map_injective_iff.2 CodePoint.ord_injective

theorem ords_append (c d : List CodePoint) : ords (c ++ d) = ords c ++ ords d := List.map_append

/-- A text does not come after one that it is the beginning of. -/
theorem ords_mono (c d : List CodePoint) : ords c ≤ ords (c ++ d) := by
  rw [ords_append]
  exact not_lt.1 (@List.le_append_left ℕ _ _ _ _)

theorem sortByKey_sorted (objects : List ManifestObject) :
    (sortByKey objects).Pairwise fun a b => ords a.key ≤ ords b.key := by
  have hsorted := List.pairwise_mergeSort
    (fun a b c (hab : decide (ords a.key ≤ ords b.key) = true)
        (hbc : decide (ords b.key ≤ ords c.key) = true) =>
      decide_eq_true ((of_decide_eq_true hab).trans (of_decide_eq_true hbc)))
    (fun a b => by simpa using le_total (ords a.key) (ords b.key)) objects
  exact hsorted.imp of_decide_eq_true

/-- Objects in the order of their keys. -/
abbrev InOrder (objects : List ManifestObject) : Prop :=
  objects.Pairwise fun a b => ords a.key < ords b.key

theorem sortByKey_inOrder {A : List ManifestObject} (hA : AcceptedObjects A) :
    InOrder (sortByKey A) := by
  have hkeys : (sortByKey A).Pairwise fun a b => a.key ≠ b.key := by
    rw [← List.pairwise_map (f := ManifestObject.key)]
    exact ((sortByKey_perm A).map _).nodup_iff.2 hA.distinct
  exact (sortByKey_sorted A).imp₂ (fun _ _ hle hne => lt_of_le_of_ne hle (mt (ords_injective ·) hne))
    hkeys

/-- Objects in order are in the order in which they are hashed. -/
theorem eq_of_perm {A B : List ManifestObject} (hA : InOrder A) (hB : InOrder B) (h : A.Perm B) :
    A = B :=
  List.Perm.eq_of_pairwise (fun _ _ _ _ hab hba => absurd hab hba.asymm) hA hB h

theorem sortByKey_of_inOrder {A : List ManifestObject} (hA : InOrder A) : sortByKey A = A :=
  List.mergeSort_of_pairwise (hA.imp fun h => decide_eq_true h.le)

/-- Lists that differ in their order are the same when they are sorted. -/
theorem sortByKey_eq {A B : List ManifestObject} (hA : AcceptedObjects A) (hB : AcceptedObjects B)
    (h : A.Perm B) : sortByKey A = sortByKey B :=
  eq_of_perm (sortByKey_inOrder hA) (sortByKey_inOrder hB)
    ((sortByKey_perm A).trans (h.trans (sortByKey_perm B).symm))

theorem encodable_write (e : RecordEnding) : Encodable e.write := by
  intro x hx
  rw [RecordEnding.write] at hx
  simp only [List.mem_cons, List.mem_append, List.not_mem_nil, or_false] at hx
  rcases hx with rfl | hx | rfl | hx | rfl
  · exact ⟨_, rfl⟩
  · exact encodable_of_digits (fun y hy =>
      CodePoint.isHexDigit_of_isDigit (e.size_digits y hy)) x hx
  · exact ⟨_, rfl⟩
  · exact encodable_of_digits e.sha256_digits x hx
  · exact ⟨_, rfl⟩

/-- The text of the records can be encoded just when every key can. -/
theorem encodable_records (objects : List ManifestObject) :
    Encodable (recordEndings.write (recordsOf (sortByKey objects))) ↔ KeysEncodable objects := by
  constructor
  · intro h o ho x hx
    refine h x (List.mem_flatMap.2 ⟨_, List.mem_map_of_mem ((sortByKey_perm objects).mem_iff.2 ho),
      List.mem_append_left _ hx⟩)
  · intro h x hx
    obtain ⟨p, hp, hx⟩ := List.mem_flatMap.1 hx
    obtain ⟨o, ho, rfl⟩ := List.mem_map.1 hp
    rcases List.mem_append.1 hx with hx | hx
    · exact h o ((sortByKey_perm objects).mem_iff.1 ho) x hx
    · exact encodable_write _ x hx

/-- Equal digests. -/
theorem objectDigest_eq_iff {sha256 : Bytes → Bytes} (hsha : Function.Injective sha256)
    (A B : List ManifestObject) :
    (∃ d, objectDigest sha256 A = .ok d ∧ objectDigest sha256 B = .ok d) ↔
      KeysEncodable A ∧ KeysEncodable B ∧ recordEndings.write (recordsOf (sortByKey A)) =
        recordEndings.write (recordsOf (sortByKey B)) := by
  rw [objectDigest_eq, objectDigest_eq, ← encodable_records A, ← encodable_records B]
  constructor
  · rintro ⟨d, hdA, hdB⟩
    cases hA : encode (recordEndings.write (recordsOf (sortByKey A))) with
    | error e =>
      rw [hA] at hdA
      cases hdA
    | ok a =>
      cases hB : encode (recordEndings.write (recordsOf (sortByKey B))) with
      | error e =>
        rw [hB] at hdB
        cases hdB
      | ok b =>
        rw [hA] at hdA
        rw [hB] at hdB
        have hsame : sha256 a = sha256 b := Except.ok.inj (hdA.trans hdB.symm)
        obtain rfl := hsha hsame
        exact ⟨encodable_of_encode hA, encodable_of_encode hB, encode_injective hA hB⟩
  · rintro ⟨hA, -, htext⟩
    obtain ⟨a, ha⟩ := (encode_eq _).1 hA
    rw [← htext, ha]
    exact ⟨_, rfl, rfl⟩

theorem hexText_injective : Function.Injective hexText := by
  intro b b' h
  induction b generalizing b' with
  | nil =>
    cases b' with
    | nil => rfl
    | cons y b' => cases h
  | cons x b ih =>
    cases b' with
    | nil => cases h
    | cons y b' =>
      have hdigit : ∀ n < 16, ∀ m < 16, Nat.digitChar n = Nat.digitChar m → n = m := by decide
      have hx := x.toNat_lt
      have hy := y.toNat_lt
      simp only [hexText, List.flatMap_cons, List.cons_append, List.nil_append, List.cons.injEq,
        CodePoint.scalar.injEq] at h
      have hhigh := hdigit _ (by omega) _ (by omega) h.1
      have hlow := hdigit _ (by omega) _ (by omega) h.2.1
      rw [ih h.2.2, UInt8.toNat.inj (show x.toNat = y.toNat by omega)]

theorem recordsOf_injective : Function.Injective recordsOf := by
  refine List.map_injective_iff.2 fun a b h => ?_
  obtain ⟨hkey, hending⟩ := Prod.mk.inj h
  obtain ⟨hsize, hsha⟩ := RecordEnding.mk.inj hending
  cases a
  cases b
  cases hkey
  cases decimal_injective hsize
  cases hexText_injective hsha
  rfl

/-- Two lists have the same digest just when they are the same but for their order. -/
def Identifies (sha256 : Bytes → Bytes) (A B : List ManifestObject) : Prop :=
  (∃ d, objectDigest sha256 A = .ok d ∧ objectDigest sha256 B = .ok d) ↔ A.Perm B

/-- The key contains the ending of a record, and what stands before it, if anything, comes before
what stands behind it in the order of keys. -/
def SplitsInOrder (key : List CodePoint) : Prop :=
  ∃ c, ∃ e : RecordEnding, ∃ c', key = c ++ (e.write ++ c') ∧ ords c < ords c'

/-- Where no key splits in order, the digest identifies what it can be computed of. -/
theorem identifies_iff_of_unsplit {sha256 : Bytes → Bytes} (hsha : Function.Injective sha256)
    {A B : List ManifestObject} (hA : AcceptedObjects A) (hB : AcceptedObjects B)
    (hkeys : ∀ o ∈ A ++ B, ¬ SplitsInOrder o.key) :
    Identifies sha256 A B ↔ (A.Perm B → KeysEncodable A) := by
  have hunsplit : ∀ C : List ManifestObject, C ⊆ A ++ B → ∀ p ∈ recordsOf (sortByKey C),
      ¬ recordEndings.SplitsInOrder ords p.1 := by
    intro C hC p hp
    obtain ⟨o, ho, rfl⟩ := List.mem_map.1 hp
    exact hkeys o (hC ((sortByKey_perm C).mem_iff.1 ho))
  have hsorted : ∀ C : List ManifestObject, AcceptedObjects C →
      (recordsOf (sortByKey C)).Pairwise fun p q => ords p.1 < ords q.1 := fun C hC =>
    List.pairwise_map.2 (sortByKey_inOrder hC)
  rw [Identifies, objectDigest_eq_iff hsha]
  constructor
  · intro h hab
    exact (h.2 hab).1
  · intro hencodable
    constructor
    · rintro ⟨-, -, htext⟩
      have hrecords := Endings.write_inj_of_unsplit ords_mono (hsorted A hA) (hsorted B hB)
        (hunsplit A (List.subset_append_left A B)) (hunsplit B (List.subset_append_right A B)) htext
      have hsame := recordsOf_injective hrecords
      exact (sortByKey_perm A).symm.trans (hsame ▸ sortByKey_perm B)
    · intro hab
      refine ⟨hencodable hab, fun o ho => hencodable hab o (hab.mem_iff.2 ho), ?_⟩
      rw [sortByKey_eq hA hB hab]

/-! ## A key that splits in order

Two lists whose records make up the same text are found for every such key. -/

/-- Every digit that `bytes.hex` writes is one of a byte. -/
theorem exists_digit {x : CodePoint} (h : x.isHexDigit = true) :
    ∃ n < 16, x = .scalar (Nat.digitChar n) := by
  cases x with
  | surrogate n => cases h
  | scalar c =>
    have hdigit : ∀ m < 103, (CodePoint.scalar (Char.ofNat m)).isHexDigit = true →
        ∃ n < 16, Char.ofNat m = Nat.digitChar n := by decide
    have hbound : c.toNat < 103 := by
      rw [CodePoint.isHexDigit, Bool.or_eq_true, Char.isDigit, Bool.and_eq_true, Bool.and_eq_true,
        decide_eq_true_eq, decide_eq_true_eq, decide_eq_true_eq, decide_eq_true_eq] at h
      rcases h with ⟨-, h⟩ | ⟨-, h⟩
      · exact lt_of_le_of_lt (UInt32.le_iff_toNat_le.1 h) (by decide)
      · exact lt_of_le_of_lt (UInt32.le_iff_toNat_le.1 (Char.le_def.1 h)) (by decide)
    obtain ⟨n, hn, hc⟩ := hdigit c.toNat hbound (by rw [Char.ofNat_toNat]; exact h)
    rw [Char.ofNat_toNat] at hc
    exact ⟨n, hn, by rw [hc]⟩

theorem exists_hexText (n : ℕ) {t : List CodePoint} (hlength : t.length = 2 * n)
    (hdigits : ∀ x ∈ t, x.isHexDigit = true) : ∃ b : Bytes, b.length = n ∧ hexText b = t := by
  induction n generalizing t with
  | zero => exact ⟨[], rfl, (List.length_eq_zero_iff.1 hlength).symm⟩
  | succ n ih =>
    rcases t with _ | ⟨x, _ | ⟨y, t⟩⟩
    · cases hlength
    · rw [List.length_singleton] at hlength
      omega
    · obtain ⟨b, hb, htext⟩ := @ih t (by simpa [Nat.mul_succ] using hlength)
        fun z hz => hdigits z (List.mem_cons_of_mem _ (List.mem_cons_of_mem _ hz))
      obtain ⟨i, hi, rfl⟩ := exists_digit (hdigits x List.mem_cons_self)
      obtain ⟨j, hj, rfl⟩ :=
        exists_digit (hdigits y (List.mem_cons_of_mem _ List.mem_cons_self))
      have hbyte : (UInt8.ofNat (16 * i + j)).toNat = 16 * i + j := by
        rw [UInt8.toNat_ofNat', Nat.mod_eq_of_lt (by omega)]
      refine ⟨UInt8.ofNat (16 * i + j) :: b, by rw [List.length_cons, hb], ?_⟩
      rw [hexText, List.flatMap_cons, ← hexText, htext, hbyte,
        show (16 * i + j) / 16 = i by omega, show (16 * i + j) % 16 = j by omega]
      rfl

/-- Every key and ending are those of an object. -/
theorem exists_object (key : List CodePoint) (e : RecordEnding) :
    ∃ o : ManifestObject, (o.key, o.ending) = (key, e) := by
  have hhex := e.sha256_hex
  rw [isHexDigest, Bool.and_eq_true, beq_iff_eq] at hhex
  obtain ⟨b, hb, htext⟩ := exists_hexText 32 hhex.1 e.sha256_digits
  have hsize := e.size_decimal
  rw [isDecimal, beq_iff_eq] at hsize
  exact ⟨⟨key, _, b, hb⟩, Prod.ext rfl (RecordEnding.ext hsize.symm htext)⟩

theorem exists_objects (records : List (List CodePoint × RecordEnding)) :
    ∃ A : List ManifestObject, recordsOf A = records := by
  induction records with
  | nil => exact ⟨[], rfl⟩
  | cons p records ih =>
    obtain ⟨A, rfl⟩ := ih
    obtain ⟨o, ho⟩ := exists_object p.1 p.2
    exact ⟨o :: A, congrArg (· :: recordsOf A) ho⟩

/-- A key that `load_manifest` accepts and `_object_digest` can encode. -/
structure KeyAccepted (key : List CodePoint) : Prop where
  ne_nil : key ≠ []
  length_le : key.length ≤ 255
  encodable : Encodable key

/-- Records of some objects in order. -/
structure Listed (records : List (List CodePoint × RecordEnding)) : Prop where
  keys : ∀ p ∈ records, KeyAccepted p.1
  sorted : records.Pairwise fun p q => ords p.1 < ords q.1

/-- Two lists with keys that can be encoded are accepted, and have the same digest although they
differ. -/
structure Collide (sha256 : Bytes → Bytes) (A B : List ManifestObject) : Prop where
  accepted : AcceptedObjects A ∧ AcceptedObjects B
  encodable : KeysEncodable A ∧ KeysEncodable B
  not_identified : ¬ Identifies sha256 A B

theorem collide_of_listed (sha256 : Bytes → Bytes)
    {xs ys : List (List CodePoint × RecordEnding)} (hxs : Listed xs) (hys : Listed ys)
    (htext : recordEndings.write xs = recordEndings.write ys) (hne : xs ≠ ys) :
    ∃ A B, Collide sha256 A B ∧ recordsOf A = xs ∧ recordsOf B = ys := by
  obtain ⟨A, rfl⟩ := exists_objects xs
  obtain ⟨B, rfl⟩ := exists_objects ys
  have horder : ∀ C : List ManifestObject, Listed (recordsOf C) → InOrder C := by
    intro C hC
    have hsorted := hC.sorted
    rwa [recordsOf, List.pairwise_map] at hsorted
  have hkeys : ∀ C : List ManifestObject, Listed (recordsOf C) →
      ∀ o ∈ C, KeyAccepted o.key := fun C hC o ho => hC.keys _ (List.mem_map_of_mem ho)
  have haccepted : ∀ C : List ManifestObject, Listed (recordsOf C) → AcceptedObjects C := by
    intro C hC
    refine ⟨fun o ho => (hkeys C hC o ho).ne_nil, fun o ho => (hkeys C hC o ho).length_le, ?_⟩
    exact List.pairwise_map.2 ((horder C hC).imp fun hlt heq => by
      rw [heq] at hlt
      exact lt_irrefl _ hlt)
  refine ⟨A, B, ⟨⟨haccepted A hxs, haccepted B hys⟩, ⟨fun o ho => (hkeys A hxs o ho).encodable,
    fun o ho => (hkeys B hys o ho).encodable⟩, fun h => hne ?_⟩, rfl, rfl⟩
  have hdigest : objectDigest sha256 A = objectDigest sha256 B := by
    rw [objectDigest_eq, objectDigest_eq, sortByKey_of_inOrder (horder A hxs),
      sortByKey_of_inOrder (horder B hys), htext]
  obtain ⟨b, hb⟩ := (encode_eq _).1 ((encodable_records A).2 fun o ho =>
    (hkeys A hxs o ho).encodable)
  have hsame : objectDigest sha256 A = .ok (sha256 b) := by
    rw [objectDigest_eq, hb]
    rfl
  rw [eq_of_perm (horder A hxs) (horder B hys) (h.1 ⟨_, hsame, hdigest ▸ hsame⟩)]

theorem encodable_append {c d : List CodePoint} :
    Encodable (c ++ d) ↔ Encodable c ∧ Encodable d := by
  simp only [Encodable, List.mem_append, or_imp, forall_and]

theorem length_write (e : RecordEnding) : 68 ≤ e.write.length := by
  have hsize : e.size ≠ [] := by
    have hdecimal := e.size_decimal
    rw [isDecimal, beq_iff_eq] at hdecimal
    rw [hdecimal, decimal, ne_eq, List.map_eq_nil_iff]
    exact Nat.toDigits_ne_nil
  have hsha := e.sha256_hex
  rw [isHexDigest, Bool.and_eq_true, beq_iff_eq] at hsha
  have hpos := List.length_pos_of_ne_nil hsize
  simp only [RecordEnding.write, List.length_cons, List.length_append, List.length_nil, hsha.1]
  omega

/-- An ending begins with a NUL, and goes on with a digit. -/
theorem ords_write (e : RecordEnding) (t : List CodePoint) :
    ∃ n rest, 0 < n ∧ ords (e.write ++ t) = 0 :: n :: rest := by
  rw [RecordEnding.write]
  cases hsize : e.size with
  | nil =>
    have hdecimal := e.size_decimal
    rw [hsize] at hdecimal
    cases hdecimal
  | cons x size =>
    refine ⟨x.ord, _, Nat.pos_of_ne_zero fun hzero => ?_, rfl⟩
    have hdigit := e.size_digits x (by rw [hsize]; exact List.mem_cons_self)
    rw [CodePoint.ord_injective (show x.ord = nul.ord from hzero)] at hdigit
    cases hdigit

/-- The ending of the record of an object of that size, with a digest of zeros. -/
def plainEnding (n : ℕ) : RecordEnding :=
  ManifestObject.ending ⟨[], n, List.replicate 32 0, rfl⟩

theorem length_plainEnding : (plainEnding 1).write.length = 68 ∧
    (plainEnding 2).write.length = 68 := by
  decide

section Collisions

variable {c c' key : List CodePoint} {e : RecordEnding}

/-- A key that splits into two keys in order stands for the objects of both. -/
theorem listed_of_split (hkey : KeyAccepted (c ++ (e.write ++ c'))) (hc : c ≠ [])
    (hlt : ords c < ords c') (f : RecordEnding) : Listed [(c, e), (c', f)] := by
  have hc' : c' ≠ [] := by
    rintro rfl
    exact List.not_lt_nil _ hlt
  have hlength := hkey.length_le
  obtain ⟨hencc, hencr⟩ := encodable_append.1 hkey.encodable
  rw [List.length_append, List.length_append] at hlength
  constructor
  · intro p hp
    simp only [List.mem_cons, List.not_mem_nil, or_false] at hp
    rcases hp with rfl | rfl
    · exact ⟨hc, by dsimp only; omega, hencc⟩
    · exact ⟨hc', by dsimp only; omega, (encodable_append.1 hencr).2⟩
  · simpa using hlt

theorem listed_singleton (hkey : KeyAccepted key) (f : RecordEnding) : Listed [(key, f)] :=
  ⟨fun _ hp => List.mem_singleton.1 hp ▸ hkey, List.pairwise_singleton _ _⟩

theorem keyAccepted_nul (t : List CodePoint) (hlength : t.length ≤ 254) (ht : Encodable t) :
    KeyAccepted (nul :: t) := by
  refine ⟨List.cons_ne_nil _ _, Nat.succ_le_succ hlength, fun x hx => ?_⟩
  rcases List.mem_cons.1 hx with rfl | hx
  · exact ⟨_, rfl⟩
  · exact ht x hx

/-- A key that begins with an ending, and does not come after what stands behind it. The object
before it may lend it its key. -/
theorem listed_of_late (hkey : KeyAccepted (e.write ++ c')) (hc' : c' ≠ [])
    (hlate : ¬ ords c' < ords (e.write ++ c')) (f : RecordEnding) :
    Listed [([nul], plainEnding 1), (e.write ++ c', f)] ∧
      Listed [(nul :: (plainEnding 1).write, e), (c', f)] := by
  obtain ⟨n, rest, hn, hwrite⟩ := ords_write e c'
  obtain ⟨m, rest', -, hplain⟩ := ords_write (plainEnding 1) []
  rw [List.append_nil] at hplain
  have hlength := hkey.length_le
  rw [List.length_append] at hlength
  have hlate := not_lt.1 hlate
  refine ⟨⟨fun p hp => ?_, ?_⟩, ⟨fun p hp => ?_, ?_⟩⟩
  · simp only [List.mem_cons, List.not_mem_nil, or_false] at hp
    rcases hp with rfl | rfl
    · exact keyAccepted_nul [] (by decide) fun _ hx => absurd hx List.not_mem_nil
    · exact hkey
  · rw [List.pairwise_pair, hwrite]
    exact List.cons_lt_cons_iff.2 (.inr ⟨rfl, List.nil_lt_cons _ _⟩)
  · simp only [List.mem_cons, List.not_mem_nil, or_false] at hp
    rcases hp with rfl | rfl
    · exact keyAccepted_nul _ (by rw [length_plainEnding.1]; decide) (encodable_write _)
    · exact ⟨hc', by dsimp only; omega, (encodable_append.1 hkey.encodable).2⟩
  · rw [List.pairwise_pair]
    refine lt_of_lt_of_le ?_ hlate
    rw [hwrite, ords, List.map_cons, ← ords, hplain]
    exact List.cons_lt_cons_iff.2 (.inr ⟨rfl, List.cons_lt_cons_iff.2 (.inl hn)⟩)

/-- A character that comes after the NUL at the beginning of an ending. -/
def afterNul : CodePoint := .scalar '\x01'

/-- A key that begins with an ending, and comes after what stands behind it. The object before it
may have that for its key, where the object behind it begins with an ending, too. -/
theorem listed_of_early (hkey : KeyAccepted (e.write ++ c')) (hc' : c' ≠ [])
    (hearly : ords c' < ords (e.write ++ c')) (f : RecordEnding) :
    Listed [(c', plainEnding 1), (e.write ++ c', plainEnding 2), (e.write ++ [afterNul], f)] ∧
      Listed [(c' ++ (plainEnding 1).write, e), (c' ++ (plainEnding 2).write, e),
        ([afterNul], f)] := by
  obtain ⟨n, rest, -, hwrite⟩ := ords_write e c'
  have hlength := hkey.length_le
  rw [List.length_append] at hlength
  have hpos := List.length_pos_of_ne_nil hc'
  have hending := length_write e
  obtain ⟨hplain₁, hplain₂⟩ := length_plainEnding
  have henc := (encodable_append.1 hkey.encodable).2
  have hlast : Encodable [afterNul] := fun x hx => ⟨_, List.mem_singleton.1 hx⟩
  -- What stands behind the ending begins with a NUL itself.
  have hafter : ∀ t, ords (c' ++ t) < ords [afterNul] := by
    intro t
    cases c' with
    | nil => exact absurd rfl hc'
    | cons x u =>
      rw [hwrite, ords, List.map_cons, List.cons_lt_cons_iff] at hearly
      have hx : x.ord = 0 := hearly.elim (fun h => absurd h (Nat.not_lt_zero _)) And.left
      rw [ords, List.cons_append, List.map_cons, hx]
      exact List.cons_lt_cons_iff.2 (.inl (by decide))
  have hbehind : ords (e.write ++ c') < ords (e.write ++ [afterNul]) := by
    have hlt := hafter []
    rw [List.append_nil] at hlt
    rw [ords_append, ords_append]
    exact List.append_left_lt hlt
  refine ⟨⟨fun p hp => ?_, ?_⟩, ⟨fun p hp => ?_, ?_⟩⟩
  · simp only [List.mem_cons, List.not_mem_nil, or_false] at hp
    rcases hp with rfl | rfl | rfl
    · exact ⟨hc', by dsimp only; omega, henc⟩
    · exact hkey
    · refine ⟨List.append_ne_nil_of_right_ne_nil _ (List.cons_ne_nil _ _), ?_,
        encodable_append.2 ⟨encodable_write _, hlast⟩⟩
      rw [List.length_append, List.length_singleton]
      omega
  · simp only [List.pairwise_cons, List.mem_cons, List.not_mem_nil, or_false, forall_eq_or_imp,
      forall_eq, List.Pairwise.nil, and_true, false_imp_iff, implies_true]
    exact ⟨⟨hearly, hearly.trans hbehind⟩, hbehind⟩
  · simp only [List.mem_cons, List.not_mem_nil, or_false] at hp
    rcases hp with rfl | rfl | rfl
    · refine ⟨List.append_ne_nil_of_left_ne_nil hc' _, ?_,
        encodable_append.2 ⟨henc, encodable_write _⟩⟩
      rw [List.length_append, hplain₁]
      omega
    · refine ⟨List.append_ne_nil_of_left_ne_nil hc' _, ?_,
        encodable_append.2 ⟨henc, encodable_write _⟩⟩
      rw [List.length_append, hplain₂]
      omega
    · exact ⟨List.cons_ne_nil _ _, Nat.le_of_ble_eq_true rfl, hlast⟩
  · have hplain : ords (c' ++ (plainEnding 1).write) < ords (c' ++ (plainEnding 2).write) := by
      rw [ords_append, ords_append]
      exact List.append_left_lt (by decide)
    simp only [List.pairwise_cons, List.mem_cons, List.not_mem_nil, or_false, forall_eq_or_imp,
      forall_eq, List.Pairwise.nil, and_true, false_imp_iff, implies_true]
    exact ⟨⟨hplain, hafter _⟩, hafter _⟩

/-- **A key that splits in order belongs to lists that collide.** -/
theorem exists_collision (sha256 : Bytes → Bytes) (hkey : KeyAccepted key)
    (hsplit : SplitsInOrder key) : ∃ A B, Collide sha256 A B ∧ key ∈ A.map (·.key) := by
  have hmem : ∀ A : List ManifestObject, A.map (·.key) = (recordsOf A).map Prod.fst := by
    intro A
    rw [recordsOf, List.map_map]
    rfl
  obtain ⟨c, e, c', rfl, hlt⟩ := hsplit
  by_cases hc : c = []
  · subst hc
    rw [List.nil_append] at hkey ⊢
    have hc' : c' ≠ [] := by
      rintro rfl
      exact List.not_lt_nil _ hlt
    by_cases hearly : ords c' < ords (e.write ++ c')
    · obtain ⟨hxs, hys⟩ := listed_of_early hkey hc' hearly (plainEnding 1)
      obtain ⟨A, B, hcollide, hA, -⟩ := collide_of_listed sha256 hxs hys
        (by simp [Endings.write, recordEndings]) (by
          intro heq
          have hlength := congrArg List.length (Prod.mk.inj (List.cons.inj heq).1).1
          rw [List.length_append, length_plainEnding.1] at hlength
          omega)
      exact ⟨A, B, hcollide, by rw [hmem, hA]; simp⟩
    · obtain ⟨hxs, hys⟩ := listed_of_late hkey hc' hearly (plainEnding 1)
      obtain ⟨A, B, hcollide, hA, -⟩ := collide_of_listed sha256 hxs hys
        (by simp [Endings.write, recordEndings]) (by
          intro heq
          have hlength := congrArg List.length (Prod.mk.inj (List.cons.inj heq).1).1
          rw [List.length_cons, List.length_cons, length_plainEnding.1] at hlength
          cases hlength)
      exact ⟨A, B, hcollide, by rw [hmem, hA]; simp⟩
  · obtain ⟨A, B, hcollide, hA, -⟩ := collide_of_listed sha256 (listed_singleton hkey (plainEnding 1))
      (listed_of_split hkey hc hlt (plainEnding 1)) (by simp [Endings.write, recordEndings])
      fun heq => by cases (List.cons.inj heq).2
    exact ⟨A, B, hcollide, by rw [hmem, hA]; simp⟩

end Collisions

/-- **What the digest identifies.** Two lists in which no key splits in order are identified just
when no key that cannot be encoded stands in the way, and every key that does split in order belongs
to lists that are not. -/
theorem object_digest_identifies_iff (sha256 : Bytes → Bytes) (hsha : Function.Injective sha256) :
    (∀ A B, AcceptedObjects A → AcceptedObjects B → (∀ o ∈ A ++ B, ¬ SplitsInOrder o.key) →
      (Identifies sha256 A B ↔ (A.Perm B → KeysEncodable A))) ∧
    ∀ key, KeyAccepted key → SplitsInOrder key →
      ∃ A B, Collide sha256 A B ∧ key ∈ A.map (·.key) :=
  ⟨fun _ _ hA hB hkeys => identifies_iff_of_unsplit hsha hA hB hkeys,
    fun _ hkey hsplit => exists_collision sha256 hkey hsplit⟩

/-- A key without a NUL does not split. -/
theorem not_splitsInOrder_of_no_nul {key : List CodePoint} (h : nul ∉ key) :
    ¬ SplitsInOrder key := by
  rintro ⟨c, e, c', rfl, -⟩
  exact h (List.mem_append_right _ (List.mem_append_left _ List.mem_cons_self))

/-- An object of one byte. -/
def oneByte (key : List CodePoint) : ManifestObject :=
  ⟨key, 1, List.replicate 32 0, rfl⟩

/-- Two objects. -/
def twoObjects : List ManifestObject :=
  [oneByte (text "a"), oneByte (text "b")]

/-- One object, whose key contains the record of the first of the two. -/
def oneObject : List ManifestObject :=
  [oneByte (text "a" ++ (oneByte []).ending.write ++ text "b")]

theorem sortByKey_twoObjects : sortByKey twoObjects = twoObjects :=
  sortByKey_of_inOrder (by decide)

theorem sortByKey_oneObject : sortByKey oneObject = oneObject :=
  sortByKey_of_inOrder (by decide)

theorem twoObjects_accepted : AcceptedObjects twoObjects :=
  ⟨by decide, by decide, by decide⟩

theorem oneObject_accepted : AcceptedObjects oneObject :=
  ⟨by decide, by decide, by decide⟩

/-- The theorem at two objects, in either order, and at the key that contains a record. -/
theorem object_digest_identifies_iff_twoObjects :
    Identifies id twoObjects twoObjects.reverse ∧
      ∃ A B, Collide id A B ∧ (text "a" ++ ((oneByte []).ending.write ++ text "b")) ∈
        A.map (·.key) := by
  obtain ⟨hidentifies, hcollides⟩ := object_digest_identifies_iff id Function.injective_id
  refine ⟨(hidentifies twoObjects twoObjects.reverse twoObjects_accepted
    ⟨by decide, by decide, by decide⟩ fun o ho => not_splitsInOrder_of_no_nul ?_).2 fun _ o ho => ?_,
    hcollides _ ⟨by decide, by decide, ?_⟩ ⟨text "a", _, text "b", rfl, by decide⟩⟩
  · revert o
    decide
  · simp only [twoObjects, oneByte, List.mem_cons, List.not_mem_nil, or_false] at ho
    rcases ho with rfl | rfl <;> exact fun x hx => ⟨_, List.mem_singleton.1 hx⟩
  · have htext : ∀ t : String, Encodable (text t) := fun t x hx => by
      obtain ⟨ch, -, rfl⟩ := List.mem_map.1 hx
      exact ⟨ch, rfl⟩
    exact encodable_append.2 ⟨htext _, encodable_append.2 ⟨encodable_write _, htext _⟩⟩

/-- The two lists have the same digest and are not the same. -/
theorem twoObjects_not_identified :
    AcceptedObjects twoObjects ∧ AcceptedObjects oneObject ∧
      ¬ Identifies id twoObjects oneObject := by
  refine ⟨twoObjects_accepted, oneObject_accepted, fun h => ?_⟩
  have hsame : objectDigest id twoObjects = objectDigest id oneObject := by
    rw [objectDigest_eq, objectDigest_eq, sortByKey_twoObjects, sortByKey_oneObject]
    rfl
  obtain ⟨d, hd⟩ : ∃ d, objectDigest id twoObjects = .ok d := by
    rw [objectDigest, sortByKey_twoObjects]
    exact ⟨_, rfl⟩
  cases (h.1 ⟨d, hd, hsame ▸ hd⟩).length_eq

end Manifest

end Recovery

end Rulefolio
