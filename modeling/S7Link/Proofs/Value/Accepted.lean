import S7Link.Proofs.Outcome
import S7Link.Value.Fits

/-!
# Which values are written

A value has a payload for a tag if and only if it fits the tag (`Value.exists_encode_iff`), so
`Value.Fits` says in words what `Value.encode` checks. Whatever bytes a cell holds, the value that
is read from them fits its tag (`Value.fits_of_decode?`): the elements are of the type of the cell
and as many as it has, and a text is cut off at the capacity of the cell before it is read. A
surrogate without its partner is read as one character of one code unit, so a wide text does not
become longer by being read.
-/

namespace S7Link

open Outcome Text

/-! ## Texts that are read -/

namespace Text

theorem Latin.toNat_le_of_mem_decode {bytes : Bytes} {c : Char} (member : c ∈ Latin.decode bytes) :
    c.toNat ≤ 0xFF := by
  have written := Latin.encode?_decode bytes
  unfold Latin.encode? at written
  split at written
  · next small => exact of_decide_eq_true (List.all_eq_true.mp small c member)
  · cases written

theorem Latin.encode?_eq_some_iff {cs : List Char} {bytes : Bytes} :
    Latin.encode? cs = some bytes ↔
      (∀ c ∈ cs, c.toNat ≤ 0xFF) ∧ cs.map (fun c => UInt8.ofNat c.toNat) = bytes := by
  unfold Latin.encode?
  split
  · next small =>
    have small : ∀ c ∈ cs, c.toNat ≤ 0xFF := by simpa using small
    rw [Option.some.injEq, and_iff_right small]
  · next large =>
    refine ⟨fun written => ?_, fun given => absurd ?_ large⟩
    · cases written
    · simpa using given.1

theorem Latin.length_of_encode? {s : String} {bytes : Bytes}
    (written : Latin.encode? s.toList = some bytes) : bytes.length = s.length := by
  rw [← (Latin.encode?_eq_some_iff.mp written).2, List.length_map, String.length_toList]

namespace Utf16

theorem length_units_le (c : Char) : (units c).length ≤ 2 := by
  unfold units
  split
  · exact Nat.le_succ 1
  · exact Nat.le_refl 2

/-- A code unit by itself is read as a character of one code unit. -/
theorem length_units_single (u : UInt16) : (units (single u)).length = 1 := by
  have small : (single u).toNat < 0x10000 := by
    unfold single
    split
    · decide
    · by_cases valid : u.toNat.isValidChar
      · rw [Char.ofNat, dif_pos valid]
        exact u.toNat_lt
      · rw [Char.ofNat, dif_neg valid]
        decide
  rw [units, if_pos small, List.length_singleton]

/-- A text has no more code units than it was read from. -/
theorem length_encode_decode_le (us : List UInt16) : (encode (decode us)).length ≤ us.length := by
  unfold encode
  fun_induction decode us with
  | case1 => exact Nat.le_refl 0
  | case2 u =>
    rw [List.flatMap_singleton, length_units_single]
    exact Nat.le_refl 1
  | case3 u v rest _ ih =>
    have first := length_units_le (pair u v)
    rw [List.flatMap_cons, List.length_append, List.length_cons, List.length_cons]
    omega
  | case4 u v rest _ ih =>
    rw [List.flatMap_cons, List.length_append, length_units_single, List.length_cons, Nat.add_comm]
    exact Nat.succ_le_succ ih

end Utf16

end Text

/-- The type of cells that hold numbers. -/
structure DataType.IsNumeric (type : DataType) : Prop where
  wider : type ≠ .bit
  noChar : type ≠ .char
  plain : type.isText = false

/-- A cell holds a bit, a text in one of three forms, or numbers. -/
theorem DataType.bit_or_text_or_numeric (type : DataType) :
    type = .bit ∨ type = .char ∨ type = .string ∨ type = .wstring ∨ type.IsNumeric := by
  cases type with
  | bit => exact Or.inl rfl
  | char => exact Or.inr (Or.inl rfl)
  | string => exact Or.inr (Or.inr (Or.inl rfl))
  | wstring => exact Or.inr (Or.inr (Or.inr (Or.inl rfl)))
  | _ => exact Or.inr (Or.inr (Or.inr (Or.inr ⟨nofun, nofun, rfl⟩)))

namespace Value

/-! ## Values that are written -/

theorem IsElement.noChar {type : DataType} {value : Value} (suits : IsElement type value) :
    type ≠ .char := by
  cases suits <;> exact nofun

theorem IsElement.plain {type : DataType} {value : Value} (suits : IsElement type value) :
    type.isText = false := by
  cases suits <;> rfl

theorem exists_encodeElement_iff {type : DataType} {value : Value} :
    (∃ bytes, encodeElement type value = .ok bytes) ↔ IsElement type value := by
  refine ⟨fun given => ?_, fun suits => ?_⟩
  · rcases given with ⟨bytes, written⟩
    exact .of_encodeElement written
  · rcases suits.encodeElement with ⟨bytes, written, _⟩
    exact ⟨bytes, written⟩

/-- Elements are written one behind the other. -/
theorem encodeElements_cons_eq_ok_iff {type : DataType} {value : Value} {values : List Value}
    {bytes : Bytes} :
    encodeElements type (value :: values) = .ok bytes ↔
      ∃ first others, encodeElement type value = .ok first ∧
        encodeElements type values = .ok others ∧ first ++ others = bytes := by
  rw [encodeElements, bind_eq_ok_iff]
  constructor
  · intro given
    obtain ⟨first, written, given⟩ := given
    obtain ⟨others, written', done⟩ := bind_eq_ok_iff.mp given
    exact ⟨first, others, written, written', Except.ok.inj done⟩
  · intro given
    obtain ⟨first, others, written, written', rfl⟩ := given
    exact ⟨first, written, bind_eq_ok_iff.mpr ⟨others, written', rfl⟩⟩

theorem exists_encodeElements_iff {type : DataType} {values : List Value} :
    (∃ bytes, encodeElements type values = .ok bytes) ↔ ∀ v ∈ values, IsElement type v := by
  induction values with
  | nil => exact ⟨fun _ => List.forall_mem_nil _, fun _ => ⟨[], rfl⟩⟩
  | cons value values ih =>
    rw [List.forall_mem_cons, ← exists_encodeElement_iff, ← ih]
    constructor
    · intro given
      rcases given with ⟨_, written⟩
      obtain ⟨first, others, firstWritten, othersWritten, _⟩ :=
        encodeElements_cons_eq_ok_iff.mp written
      exact ⟨⟨first, firstWritten⟩, ⟨others, othersWritten⟩⟩
    · intro given
      rcases given with ⟨⟨first, firstWritten⟩, ⟨others, othersWritten⟩⟩
      exact ⟨first ++ others,
        encodeElements_cons_eq_ok_iff.mpr ⟨first, others, firstWritten, othersWritten, rfl⟩⟩

theorem requireText_eq_ok_iff {value : Value} {text : List Char} :
    requireText value = .ok text ↔ ∃ s, value = .text s ∧ s.toList = text := by
  cases value <;> simp [requireText]

/-- A text is written in Latin-1 if it is a text of few enough such characters. -/
theorem encodeLatin_eq_ok_iff {capacity : Nat} {value : Value} {bytes : Bytes} :
    encodeLatin capacity value = .ok bytes ↔
      ∃ s, value = .text s ∧ Latin.encode? s.toList = some bytes ∧ s.length ≤ capacity := by
  rw [encodeLatin, bind_eq_ok_iff]
  constructor
  · intro given
    rcases given with ⟨text, required, later⟩
    obtain ⟨s, rfl, rfl⟩ := requireText_eq_ok_iff.mp required
    split at later
    · next bytes' written =>
      split at later
      · next few =>
        cases later
        exact ⟨s, rfl, written, Latin.length_of_encode? written ▸ few⟩
      · cases later
    · cases later
  · intro given
    rcases given with ⟨s, rfl, written, few⟩
    refine ⟨s.toList, requireText_eq_ok_iff.mpr ⟨s, rfl, rfl⟩, ?_⟩
    rw [written]
    dsimp only
    rw [Latin.length_of_encode? written, if_pos few]

theorem exists_encodeLatin_iff {capacity : Nat} {value : Value} :
    (∃ bytes, encodeLatin capacity value = .ok bytes) ↔
      ∃ s, value = .text s ∧ (∀ c ∈ s.toList, c.toNat ≤ 0xFF) ∧ s.length ≤ capacity := by
  constructor
  · intro given
    rcases given with ⟨bytes, written⟩
    obtain ⟨s, text, encoded, few⟩ := encodeLatin_eq_ok_iff.mp written
    exact ⟨s, text, (Latin.encode?_eq_some_iff.mp encoded).1, few⟩
  · intro given
    rcases given with ⟨s, text, small, few⟩
    exact ⟨_, encodeLatin_eq_ok_iff.mpr
      ⟨s, text, Latin.encode?_eq_some_iff.mpr ⟨small, rfl⟩, few⟩⟩

theorem encodeWide_eq_ok_iff {capacity : Nat} {value : Value} {units : List UInt16} :
    encodeWide capacity value = .ok units ↔
      ∃ s, value = .text s ∧ Utf16.encode s.toList = units ∧ codeUnits s ≤ capacity := by
  rw [encodeWide, bind_eq_ok_iff]
  constructor
  · intro given
    rcases given with ⟨text, required, later⟩
    obtain ⟨s, rfl, rfl⟩ := requireText_eq_ok_iff.mp required
    dsimp only at later
    split at later
    · next few =>
      cases later
      exact ⟨s, rfl, rfl, length_encode_eq_codeUnits s ▸ few⟩
    · cases later
  · intro given
    rcases given with ⟨s, rfl, rfl, few⟩
    refine ⟨s.toList, requireText_eq_ok_iff.mpr ⟨s, rfl, rfl⟩, ?_⟩
    dsimp only
    rw [if_pos ((length_encode_eq_codeUnits s).symm ▸ few)]

/-- Cells other than texts hold one element or a list of as many as they have. -/
theorem encodeContent_of_elements {type : DataType} (noChar : type ≠ .char)
    (plain : type.isText = false) (length : Nat) (value : Value) :
    encodeContent type length value =
      if length = 1 then encodeElement type value
      else
        match value with
        | .list elements =>
          if elements.length = length then encodeElements type elements
          else .error (.elementCount length elements.length)
        | _ => .error (.notList length) := by
  cases type with
  | char => exact absurd rfl noChar
  | string => cases plain
  | wstring => cases plain
  | _ => rfl

/-- One element is a value by itself, several are a list. -/
def ofElements : List Value → Value
  | [element] => element
  | elements => .list elements

theorem ofElements_of_ne {values : List Value} (several : values.length ≠ 1) :
    ofElements values = .list values := by
  unfold ofElements
  split
  · exact absurd rfl several
  · rfl

/-- Cells other than texts are written element by element, whether they hold one or a list of
them. -/
theorem exists_elements_of_encodeContent {type : DataType} (noChar : type ≠ .char)
    (plain : type.isText = false) {length : Nat} {value : Value} {content : Bytes}
    (written : encodeContent type length value = .ok content) :
    ∃ values, encodeElements type values = .ok content ∧ values.length = length ∧
      ofElements values = value := by
  rw [encodeContent_of_elements noChar plain] at written
  split at written
  · next single =>
    refine ⟨[value], ?_, single.symm, rfl⟩
    exact encodeElements_cons_eq_ok_iff.mpr ⟨content, [], written, rfl, List.append_nil content⟩
  · next several =>
    split at written
    · next elements =>
      split at written
      · next count => exact ⟨elements, written, count, ofElements_of_ne (count ▸ several)⟩
      · cases written
    · cases written

theorem fits_of_elements {tag : Tag} {value : Value} {content : Bytes} (noChar : tag.type ≠ .char)
    (plain : tag.type.isText = false)
    (written : encodeContent tag.type tag.length value = .ok content) : value.Fits tag := by
  obtain ⟨values, each, count, rfl⟩ := exists_elements_of_encodeContent noChar plain written
  have suit := exists_encodeElements_iff.mp ⟨content, each⟩
  by_cases single : tag.length = 1
  · obtain ⟨v, rfl⟩ := List.length_eq_one_iff.mp (count.trans single)
    exact .element single (suit v List.mem_cons_self)
  · rw [ofElements_of_ne (count ▸ single)]
    exact .elements (Nat.lt_of_le_of_ne tag.length_pos (Ne.symm single)) count suit

/-- What is written fits. -/
theorem fits_of_encode {tag : Tag} {value : Value} {bytes : Bytes}
    (written : value.encode tag = .ok bytes) : value.Fits tag := by
  obtain ⟨content, written, _⟩ := bind_eq_ok_iff.mp written
  rcases tag.type.bit_or_text_or_numeric with bit | char | string | wide | numeric
  · exact fits_of_elements (bit ▸ nofun) (bit ▸ rfl) written
  · rw [char] at written
    obtain ⟨s, rfl, small, few⟩ := exists_encodeLatin_iff.mp ⟨content, written⟩
    exact .latin (Or.inl char) small few
  · rw [string] at written
    obtain ⟨text, written, _⟩ := bind_eq_ok_iff.mp written
    obtain ⟨s, rfl, small, few⟩ := exists_encodeLatin_iff.mp ⟨text, written⟩
    exact .latin (Or.inr string) small few
  · rw [wide] at written
    obtain ⟨units, written, _⟩ := bind_eq_ok_iff.mp written
    obtain ⟨s, rfl, _, few⟩ := encodeWide_eq_ok_iff.mp written
    exact .wide wide few
  · exact fits_of_elements numeric.noChar numeric.plain written

/-- What fits is written. -/
theorem Fits.exists_encode {tag : Tag} {value : Value} (fits : value.Fits tag) :
    ∃ bytes, value.encode tag = .ok bytes := by
  suffices content : ∃ content, encodeContent tag.type tag.length value = .ok content by
    rcases content with ⟨content, written⟩
    exact ⟨_, bind_eq_ok_iff.mpr ⟨content, written, rfl⟩⟩
  cases fits with
  | element single suits =>
    rw [encodeContent_of_elements suits.noChar suits.plain, if_pos single]
    exact exists_encodeElement_iff.mpr suits
  | @elements values several count suit =>
    obtain ⟨first, member⟩ := List.exists_mem_of_length_pos (count ▸ tag.length_pos)
    rw [encodeContent_of_elements (suit first member).noChar (suit first member).plain,
      if_neg (Nat.ne_of_gt several)]
    dsimp only
    rw [if_pos count]
    exact exists_encodeElements_iff.mpr suit
  | @latin s type small few =>
    rcases exists_encodeLatin_iff.mpr ⟨s, rfl, small, few⟩ with ⟨text, written⟩
    rcases type with type | type
    · rw [type]
      exact ⟨text, written⟩
    · rw [type]
      exact ⟨_, bind_eq_ok_iff.mpr ⟨text, written, rfl⟩⟩
  | @wide s type few =>
    rw [type]
    exact ⟨_, bind_eq_ok_iff.mpr ⟨_, encodeWide_eq_ok_iff.mpr ⟨s, rfl, rfl, few⟩, rfl⟩⟩

/-- A value has a payload for a tag if and only if it fits the tag. -/
theorem exists_encode_iff {tag : Tag} {value : Value} :
    (∃ bytes, value.encode tag = .ok bytes) ↔ value.Fits tag := by
  refine ⟨fun given => ?_, Fits.exists_encode⟩
  rcases given with ⟨bytes, written⟩
  exact fits_of_encode written

/-! ## Values that are read -/

theorem length_chunks (width count : Nat) (bytes : Bytes) :
    (chunks width count bytes).length = count := by
  induction count generalizing bytes with
  | zero => rfl
  | succ count ih => rw [chunks, List.length_cons, ih]

theorem isElement_decodeElement {type : DataType} (numeric : type.IsNumeric) (bytes : Bytes) :
    IsElement type (decodeElement type bytes) := by
  obtain ⟨wider, noChar, plain⟩ := numeric
  cases type with
  | bit => exact absurd rfl wider
  | char => exact absurd rfl noChar
  | string => cases plain
  | wstring => cases plain
  | _ => constructor

section Enough

variable {length : Nat} {bytes : Bytes}

theorem decode?_bit (enough : DataType.bit.size length ≤ bytes.length) :
    decode? .bit length bytes =
      some (.bool ((bytes.take (DataType.bit.size length)).head? != some 0)) :=
  if_neg (Nat.not_lt_of_le enough)

theorem decode?_char (enough : DataType.char.size length ≤ bytes.length) :
    decode? .char length bytes =
      some (.text (decodeChars (bytes.take (DataType.char.size length)))) :=
  if_neg (Nat.not_lt_of_le enough)

theorem decode?_string (enough : DataType.string.size length ≤ bytes.length) :
    decode? .string length bytes =
      some (.text (decodeString length (bytes.take (DataType.string.size length)))) :=
  if_neg (Nat.not_lt_of_le enough)

theorem decode?_wstring (enough : DataType.wstring.size length ≤ bytes.length) :
    decode? .wstring length bytes =
      some (.text (decodeWString length (bytes.take (DataType.wstring.size length)))) :=
  if_neg (Nat.not_lt_of_le enough)

/-- Cells of numbers hold one number or a list of them. -/
theorem decode?_numeric {type : DataType} (numeric : type.IsNumeric)
    (enough : type.size length ≤ bytes.length) :
    decode? type length bytes =
      some (ofElements ((chunks (type.size 1) length (bytes.take (type.size length))).map
        (decodeElement type))) := by
  obtain ⟨wider, noChar, plain⟩ := numeric
  unfold decode?
  rw [if_neg (Nat.not_lt_of_le enough)]
  cases type with
  | bit => exact absurd rfl wider
  | char => exact absurd rfl noChar
  | string => cases plain
  | wstring => cases plain
  | _ => rfl

end Enough

theorem fits_of_decode?_numeric {tag : Tag} {bytes : Bytes} {value : Value}
    (numeric : tag.type.IsNumeric) (enough : tag.size ≤ bytes.length)
    (read : decode? tag.type tag.length bytes = some value) : value.Fits tag := by
  rw [decode?_numeric numeric enough] at read
  generalize runs : chunks (tag.type.size 1) tag.length (bytes.take (tag.type.size tag.length)) =
    parts at read
  have count : parts.length = tag.length := runs ▸ length_chunks _ _ _
  have suit : ∀ v ∈ parts.map (decodeElement tag.type), IsElement tag.type v := by
    intro v member
    obtain ⟨part, _, rfl⟩ := List.mem_map.mp member
    exact isElement_decodeElement numeric part
  match parts, count with
  | [], count => exact absurd count (Nat.ne_of_lt tag.length_pos)
  | [part], count =>
    cases read
    exact .element count.symm (suit _ List.mem_cons_self)
  | first :: second :: parts, count =>
    cases read
    have several : 1 < tag.length := by
      rw [← count, List.length_cons, List.length_cons]
      omega
    exact .elements several ((List.length_map _).trans count) suit

theorem fits_of_decode {tag : Tag} {bytes : Bytes} (type : tag.type = .char ∨ tag.type = .string)
    (few : bytes.length ≤ tag.length) :
    (Value.text (String.ofList (Latin.decode bytes))).Fits tag := by
  refine .latin type ?_ ?_
  · intro c member
    rw [String.toList_ofList] at member
    exact Latin.toNat_le_of_mem_decode member
  · rw [String.length_ofList, Latin.decode, List.length_map]
    exact few

/-- Whatever the bytes are, the value that is read from them fits the tag. -/
theorem fits_of_decode? {tag : Tag} {bytes : Bytes} {value : Value}
    (read : decode? tag.type tag.length bytes = some value) : value.Fits tag := by
  have enough : tag.type.size tag.length ≤ bytes.length := by
    unfold decode? at read
    split at read
    · cases read
    · next enough => exact Nat.le_of_not_lt enough
  rcases tag.type.bit_or_text_or_numeric with bit | char | string | wide | numeric
  · rw [bit] at read enough
    rw [decode?_bit enough] at read
    cases read
    exact .element (tag.length_eq_one bit) (bit ▸ .bit _)
  · rw [char] at read enough
    rw [decode?_char enough] at read
    cases read
    refine fits_of_decode (Or.inl char) ?_
    rw [List.length_reverse]
    refine Nat.le_trans (List.dropWhile_suffix _).length_le ?_
    rw [List.length_reverse, List.length_take]
    exact Nat.min_le_left ..
  · rw [string] at read enough
    rw [decode?_string enough] at read
    cases read
    refine fits_of_decode (Or.inr string) ?_
    rw [List.length_take]
    exact Nat.le_trans (Nat.min_le_left ..) (Nat.min_le_right ..)
  · rw [wide] at read enough
    rw [decode?_wstring enough] at read
    cases read
    refine .wide wide ?_
    rw [← length_encode_eq_codeUnits, decodeWString, String.toList_ofList]
    refine Nat.le_trans (Utf16.length_encode_decode_le _) ?_
    rw [List.length_map, length_chunks]
    exact Nat.min_le_right ..
  · exact fits_of_decode?_numeric numeric enough read

end Value

end S7Link
