import S7Link.Address.Writer
import S7Link.Proofs.Address.Grammar

/-!
# Addresses that are written

The address of a tag is a spelling that denotes the tag, so that the tag is read back from it
(`Address.read_text`). The one exception are arrays of counter or timer words: a counter or timer
word is written without type letters, and without letters a star is not read. Even so the address
tells the tag, and no two tags have the same.
-/

namespace S7Link

open Text

/-- The tag is an array of counter or timer words. -/
def Tag.IsCountedArray (tag : Tag) : Prop :=
  tag.type = .word ∧ (tag.area = .counter ∨ tag.area = .timer) ∧ 1 < tag.length

instance (tag : Tag) : Decidable tag.IsCountedArray := instDecidableAnd

namespace Address

/-! ## The spelling that is written -/

/-- The spelling of a region: a number without a sign, or the first letter of an area. -/
def Place.ofRegion (region : Region) : Place :=
  match region.area with
  | .dataBlock => .block ⟨false, Numeral.decimal region.block.toNat⟩
  | .input => .area 'I'
  | .output => .area 'Q'
  | .memory => .area 'M'
  | .counter => .area 'C'
  | .timer => .area 'T'

/-- The ending behind the offset of a tag. -/
def Ending.ofTag (tag : Tag) : Ending :=
  match tag.type with
  | .bit => .point ⟨false, Numeral.decimal tag.bit⟩
  | .string | .wstring => .point ⟨false, Numeral.decimal tag.length⟩
  | _ => if 1 < tag.length then .star ⟨false, Numeral.decimal tag.length⟩ else .none

/-- The spelling under which a tag is written. -/
def Spelling.ofTag (tag : Tag) : Spelling where
  place := .ofRegion tag.region
  letters := writeType tag.area tag.type
  offset := Numeral.decimal tag.start
  ending := .ofTag tag

theorem Place.chars_ofRegion (region : Region) : (ofRegion region).chars = writeRegion region := by
  rcases region with ⟨area, block⟩
  cases area <;> rfl

theorem Ending.chars_ofTag (tag : Tag) : (ofTag tag).chars = writeSuffix tag := by
  unfold ofTag writeSuffix
  cases tag.type with
  | bit => rfl
  | string => rfl
  | wstring => rfl
  | _ =>
    dsimp only
    split <;> rfl

theorem Spelling.chars_ofTag (tag : Tag) : (ofTag tag).chars = write tag := by
  rw [chars, ofTag, Place.chars_ofRegion, Ending.chars_ofTag, write]

theorem Place.denotes_ofRegion {region : Region}
    (flat : region.area ≠ .dataBlock → region.block = 0) : (ofRegion region).Denotes region := by
  rcases region with ⟨area, block⟩
  by_cases divided : area = .dataBlock
  · subst divided
    have place := Place.Denotes.block (Count.denotes_decimal (Nat.le_of_lt_succ block.toNat_lt))
    rwa [UInt16.ofNat_toNat] at place
  · obtain rfl : block = 0 := flat divided
    cases area with
    | dataBlock => exact absurd rfl divided
    | input => exact .area .i
    | output => exact .area .q
    | memory => exact .area .m
    | counter => exact .area .c
    | timer => exact .area .t

/-- The letters of a type are left out for a bit, and for a counter or timer word. -/
theorem writeType_cases (area : Area) (type : DataType) :
    writeType area type = type.letters ∨ type = .bit ∧ writeType area type = [] ∨
      type = .word ∧ (area = .counter ∨ area = .timer) ∧ writeType area type = [] := by
  unfold writeType
  split
  · exact Or.inl rfl
  · exact Or.inr (Or.inl ⟨rfl, rfl⟩)
  · exact Or.inr (Or.inr ⟨rfl, Or.inl rfl, rfl⟩)
  · exact Or.inr (Or.inr ⟨rfl, Or.inr rfl, rfl⟩)
  · exact Or.inl rfl

theorem writeType_of_text {area : Area} {type : DataType} (text : type.isText = true) :
    writeType area type = type.letters := by
  rcases writeType_cases area type with named | ⟨rfl, _⟩ | ⟨rfl, _⟩
  · exact named
  · cases text
  · cases text

theorem isCode_letters {type : DataType} (wider : type ≠ .bit) (plain : type.isText = false) :
    IsCode type.letters type := by
  cases type with
  | bit => exact absurd rfl wider
  | string => cases plain
  | wstring => cases plain
  | _ => constructor

section Tag

variable {tag : Tag}

theorem Ending.ofTag_of_bit (single : tag.type = .bit) :
    ofTag tag = .point ⟨false, Numeral.decimal tag.bit⟩ := by
  simp only [ofTag, single]

theorem Ending.ofTag_of_text (text : tag.type = .string ∨ tag.type = .wstring) :
    ofTag tag = .point ⟨false, Numeral.decimal tag.length⟩ := by
  rcases text with type | type <;> simp only [ofTag, type]

theorem Ending.ofTag_of_elements (wider : tag.type ≠ .bit) (plain : tag.type.isText = false) :
    ofTag tag = if 1 < tag.length then .star ⟨false, Numeral.decimal tag.length⟩ else .none := by
  unfold ofTag
  cases type : tag.type with
  | bit => exact absurd type wider
  | string => rw [type] at plain; cases plain
  | wstring => rw [type] at plain; cases plain
  | _ => rfl

/-- The letters and the ending of cells that may be arrays are those of the grammar, unless the
letters of an array are left out. -/
theorem shapes_of_elements (wider : tag.type ≠ .bit) (plain : tag.type.isText = false)
    (regular : ¬tag.IsCountedArray) :
    Shapes tag.area (writeType tag.area tag.type) (.ofTag tag) tag.type tag.bit tag.length := by
  rw [Ending.ofTag_of_elements wider plain, tag.bit_eq_zero wider]
  rcases writeType_cases tag.area tag.type with written | ⟨single, _⟩ | ⟨word, counted, written⟩
  · rw [written]
    have code := isCode_letters wider plain
    split
    · exact .array code (Count.denotes_decimal tag.length_le) tag.length_pos
    · next few =>
      have single : tag.length = 1 := Nat.le_antisymm (Nat.le_of_not_lt few) tag.length_pos
      rw [single]
      exact .element code
  · exact absurd single wider
  · have few : ¬1 < tag.length := fun several => regular ⟨word, counted, several⟩
    have single : tag.length = 1 := Nat.le_antisymm (Nat.le_of_not_lt few) tag.length_pos
    rw [written, if_neg few, word, single]
    exact .word counted

theorem shapes_ofTag (regular : ¬tag.IsCountedArray) :
    Shapes tag.area (writeType tag.area tag.type) (.ofTag tag) tag.type tag.bit tag.length := by
  have length := Count.denotes_decimal tag.length_le
  cases type : tag.type with
  | bit =>
    rw [Ending.ofTag_of_bit type, tag.length_eq_one type]
    refine .bit ?_ (Count.denotes_decimal (Nat.le_trans tag.bit_le (by decide))) tag.bit_le
    rcases writeType_cases tag.area .bit with named | ⟨_, none⟩ | ⟨word, _⟩
    · exact Or.inl named
    · exact Or.inr none
    · cases word
  | string =>
    rw [Ending.ofTag_of_text (Or.inl type), tag.bit_eq_zero (type ▸ nofun), writeType_of_text rfl]
    exact .string length tag.length_pos (tag.length_le_of_string type)
  | wstring =>
    rw [Ending.ofTag_of_text (Or.inr type), tag.bit_eq_zero (type ▸ nofun), writeType_of_text rfl]
    exact .wstring length tag.length_pos
  | _ =>
    rw [← type]
    exact shapes_of_elements (type ▸ nofun) (type ▸ rfl) regular

/-- The spelling of a tag denotes the tag. -/
theorem denotes_ofTag (regular : ¬tag.IsCountedArray) : (Spelling.ofTag tag).Denotes tag where
  place := Place.denotes_ofRegion tag.block_eq_zero
  offset := areDigits_decimal tag.start
  start := Numeral.value_decimal tag.start
  shape := shapes_ofTag regular

/-- Without letters, an array of words is read as a bit with a star behind it. -/
theorem parts_of_countedArray (counted : tag.IsCountedArray) :
    (Spelling.ofTag tag).Parts tag.region .bit tag.start (.star tag.length) where
  place := Place.denotes_ofRegion tag.block_eq_zero
  letters := by
    obtain ⟨word, area, _⟩ := counted
    rcases area with area | area <;> simp only [Spelling.ofTag, word, area] <;> decide
  offset := areDigits_decimal tag.start
  start := Numeral.value_decimal tag.start
  ending := by
    obtain ⟨word, _, several⟩ := counted
    have wider : tag.type ≠ .bit := word ▸ nofun
    have plain : tag.type.isText = false := word ▸ rfl
    change (Ending.ofTag tag).Denotes _
    rw [Ending.ofTag_of_elements wider plain, if_pos several]
    exact .star (Count.denotes_decimal tag.length_le)

end Tag

theorem exists_parts_ofTag (tag : Tag) :
    ∃ type suffix, (Spelling.ofTag tag).Parts tag.region type tag.start suffix := by
  by_cases counted : tag.IsCountedArray
  · exact ⟨_, _, parts_of_countedArray counted⟩
  · obtain ⟨type, suffix, parts, _⟩ := Spelling.denotes_iff.mp (denotes_ofTag counted)
    exact ⟨type, suffix, parts⟩

/-! ## Reading what was written -/

theorem IsSign.toUpper_eq {c : Char} (sign : IsSign c) : c.toUpper = c := by
  have small : c.val.toNat ≤ 0x5A := sign.2
  refine dif_neg fun letter => ?_
  have large := UInt32.le_iff_toNat_le.mp letter.1
  change 97 ≤ c.val.toNat at large
  omega

theorem IsSign.isBlank_eq_false {c : Char} (sign : IsSign c) : isBlank c = false := by
  have from_star : 0x2A ≤ c.toNat := sign.1
  have to_z : c.toNat ≤ 0x5A := sign.2
  simp only [isBlank, Ranges.contains, blankRanges, List.any_cons, List.any_nil, Bool.or_false,
    Bool.or_eq_false_iff, Bool.and_eq_false_iff, decide_eq_false_iff_not]
  omega

/-- An address is written as it is read. -/
theorem normal_text (tag : Tag) : normal tag.text = write tag := by
  obtain ⟨type, suffix, parts⟩ := exists_parts_ofTag tag
  have signs := parts.isSign
  rw [Spelling.chars_ofTag] at signs
  have trimmed : trim (write tag) = write tag := by
    apply trim_eq_self
    · exact fun c first => (signs c (List.mem_of_mem_head? first)).isBlank_eq_false
    · exact fun c last => (signs c (List.mem_of_mem_getLast? last)).isBlank_eq_false
  rw [normal, Tag.text, String.toList_ofList, trimmed]
  exact (List.map_congr_left fun c member => (signs c member).toUpper_eq).trans (List.map_id _)

theorem read_text_of_regular {tag : Tag} (regular : ¬tag.IsCountedArray) :
    read tag.text = .ok tag :=
  read_eq_ok_iff.mpr
    ⟨.ofTag tag, (Spelling.chars_ofTag tag).trans (normal_text tag).symm, denotes_ofTag regular⟩

theorem read_text_of_countedArray {tag : Tag} (counted : tag.IsCountedArray) :
    read tag.text = .error (.unreadable tag.text .missingBit) := by
  have small : tag.start ≤ 4294967295 := Nat.le_trans tag.start_le (by decide)
  have starred : Suffix.star tag.length ≠ .none := nofun
  have fields := (parts_of_countedArray counted).readFields_chars small
  rw [denotedType_of_suffix starred, Spelling.chars_ofTag, ← normal_text, normal] at fields
  rw [read, fields]
  rfl

/-- What is read from the address of a tag is the tag. -/
theorem eq_of_read_text {tag other : Tag} (found : read tag.text = .ok other) :
    other = tag ∧ ¬tag.IsCountedArray := by
  by_cases counted : tag.IsCountedArray
  · rw [read_text_of_countedArray counted] at found
    cases found
  · rw [read_text_of_regular counted] at found
    exact ⟨(Except.ok.inj found).symm, counted⟩

/-- The address of an array of counter or timer words tells its place and its length. -/
theorem eq_of_countedArrays {a b : Tag} (counted : a.IsCountedArray) (counted' : b.IsCountedArray)
    (same : a.text = b.text) : a = b := by
  have parts := parts_of_countedArray counted
  have parts' := parts_of_countedArray counted'
  have chars : (Spelling.ofTag a).chars = (Spelling.ofTag b).chars := by
    rw [Spelling.chars_ofTag, Spelling.chars_ofTag, ← normal_text, ← normal_text, same]
  rw [parts.eq_of_chars_eq parts' chars] at parts
  obtain ⟨region, _, start, suffix⟩ := parts.unique parts'
  have bit : a.bit = b.bit :=
    (a.bit_eq_zero (counted.1 ▸ nofun)).trans (b.bit_eq_zero (counted'.1 ▸ nofun)).symm
  refine Tag.eq_of_fields_eq ?_
  rw [Tag.fields, Tag.fields, region, start, counted.1, counted'.1, bit, Suffix.star.inj suffix]

/-- The address tells the tag, also where it is not read back. -/
theorem text_injective {a b : Tag} (same : a.text = b.text) : a = b := by
  by_cases counted : a.IsCountedArray
  · by_cases counted' : b.IsCountedArray
    · exact eq_of_countedArrays counted counted' same
    · exact (eq_of_read_text (same ▸ read_text_of_regular counted')).1.symm
  · exact (eq_of_read_text (same ▸ read_text_of_regular counted)).1

/-- A tag is read back from its address, unless it is an array of counter or timer words, of which
the address is refused. No address is read as another tag, and no two tags have the same. -/
theorem read_text (tag : Tag) :
    (¬tag.IsCountedArray ↔ read tag.text = .ok tag) ∧
      (tag.IsCountedArray ↔ read tag.text = .error (.unreadable tag.text .missingBit)) ∧
      (∀ other, read tag.text = .ok other → other = tag) ∧
      ∀ other : Tag, other.text = tag.text → other = tag := by
  refine ⟨⟨read_text_of_regular, fun found => (eq_of_read_text found).2⟩,
    ⟨read_text_of_countedArray, fun refused => ?_⟩,
    fun _ found => (eq_of_read_text found).1, fun _ => text_injective⟩
  by_contra regular
  rw [read_text_of_regular regular] at refused
  cases refused

/-- A timer word. -/
def timerWord : Tag := (Tag.make .timer 0 .word 5 0 1).toOption.get rfl

/-- Three timer words. -/
def timerWords : Tag := (Tag.make .timer 0 .word 5 0 3).toOption.get rfl

theorem read_text_timerWords :
    timerWord.text = "T5" ∧ read "T5" = .ok timerWord ∧ timerWords.text = "T5*3" ∧
      read "T5*3" = .error (.unreadable "T5*3" .missingBit) := by
  have word : timerWord.text = "T5" := by decide +kernel
  have words : timerWords.text = "T5*3" := by decide +kernel
  have found := (read_text timerWord).1.mp (by decide)
  have refused := (read_text timerWords).2.1.mp (by decide)
  rw [word] at found
  rw [words] at refused
  exact ⟨word, found, words, refused⟩

end Address

end S7Link
