import S7Link.Proofs.Address.Parts

/-!
# Which texts are addresses

A text is read as the address of a tag if and only if it is a spelling that denotes the tag, after
white space around it is taken off and ASCII letters are made capital (`Address.read_eq_ok_iff`). A
spelling denotes a tag if and only if its numbers are in bounds and its ending suits its letters
(`Spelling.exists_denotes_iff`), and no text has two such spellings. Everything else is refused,
above all a text with a character that is no digit, letter or sign of an address.
-/

namespace S7Link

open Text

namespace Address

/-! ## Letters and endings -/

/-- Letters stand for a bit, for a text, or for cells that may be arrays. -/
inductive IsTypeLetters : List Char → DataType → Prop where
  | bit {letters : List Char} (named : letters = ['X'] ∨ letters = []) : IsTypeLetters letters .bit
  | string : IsTypeLetters ['S'] .string
  | wstring : IsTypeLetters ['W', 'S'] .wstring
  | code {letters : List Char} {type : DataType} (is : IsCode letters type) :
      IsTypeLetters letters type

theorem mem_typeLetters_iff {letters : List Char} {type : DataType} :
    (letters, type) ∈ typeLetters ↔ IsTypeLetters letters type := by
  constructor
  · intro known
    simp only [typeLetters, List.mem_cons, Prod.mk.injEq, List.not_mem_nil, or_false] at known
    rcases known with ⟨rfl, rfl⟩ | ⟨rfl, rfl⟩ | ⟨rfl, rfl⟩ | ⟨rfl, rfl⟩ | ⟨rfl, rfl⟩ | ⟨rfl, rfl⟩ |
      ⟨rfl, rfl⟩ | ⟨rfl, rfl⟩ | ⟨rfl, rfl⟩ | ⟨rfl, rfl⟩ | ⟨rfl, rfl⟩ | ⟨rfl, rfl⟩ | ⟨rfl, rfl⟩
    · exact .code .dword
    · exact .code .dint
    · exact .code .lreal
    · exact .wstring
    · exact .bit (Or.inl rfl)
    · exact .code .byte
    · exact .code .char
    · exact .code .word
    · exact .code .int
    · exact .code .double
    · exact .code .real
    · exact .string
    · exact .bit (Or.inr rfl)
  · intro is
    cases is with
    | bit named => rcases named with rfl | rfl <;> decide
    | string => decide
    | wstring => decide
    | code is => cases is <;> decide

namespace IsCode

variable {letters : List Char} {type : DataType}

theorem letters_ne_nil (code : IsCode letters type) : letters ≠ [] := by
  cases code <;> exact List.cons_ne_nil _ _

/-- Cells that may be arrays take a star, or nothing for a single element. -/
theorem shape_eq_ok_iff (code : IsCode letters type) {suffix : Suffix} {bit length : Nat} :
    shape type suffix = .ok (bit, length) ↔
      bit = 0 ∧ (suffix = .none ∧ length = 1 ∨ suffix = .star length) := by
  have shaped : shape type suffix =
      match suffix with
      | .none => .ok (0, 1)
      | .star n => .ok (0, n)
      | .point _ => .error .strayPoint := by
    cases code <;> cases suffix <;> rfl
  rw [shaped]
  cases suffix <;> simp [eq_comm]

end IsCode

/-- A bit takes a point and its number. -/
theorem shape_bit_eq_ok_iff {suffix : Suffix} {bit length : Nat} :
    shape .bit suffix = .ok (bit, length) ↔ suffix = .point bit ∧ bit ≤ 255 ∧ length = 1 := by
  cases suffix with
  | none => exact ⟨nofun, nofun⟩
  | star n => exact ⟨nofun, nofun⟩
  | point n =>
    change (if n ≤ 255 then .ok (n, 1) else .error .bitNumber : Except AddressSyntax _) = _ ↔ _
    split
    · next le =>
      simp only [Except.ok.injEq, Prod.mk.injEq, Suffix.point.injEq]
      omega
    · next gt =>
      simp only [reduceCtorEq, Suffix.point.injEq, false_iff]
      omega

/-- A text takes a point and its length. -/
theorem shape_text_eq_ok_iff {type : DataType} (text : type.isText = true) {suffix : Suffix}
    {bit length : Nat} :
    shape type suffix = .ok (bit, length) ↔ suffix = .point length ∧ bit = 0 := by
  have shaped : shape type suffix =
      match suffix with
      | .point n => .ok (0, n)
      | _ => .error .missingLength := by
    cases type with
    | string => cases suffix <;> rfl
    | wstring => cases suffix <;> rfl
    | _ => cases text
  rw [shaped]
  cases suffix <;> simp [eq_comm, and_comm]

theorem denotedType_of_letters {area : Area} {letters : List Char} {type : DataType}
    {suffix : Suffix} (named : letters ≠ []) : denotedType area letters type suffix = type :=
  if_neg fun given => named given.1

theorem denotedType_of_suffix {area : Area} {letters : List Char} {type : DataType}
    {suffix : Suffix} (ended : suffix ≠ .none) : denotedType area letters type suffix = type :=
  if_neg fun given => ended given.2.1

namespace Shapes

variable {area : Area} {letters : List Char} {ending : Ending} {type : DataType} {bit length : Nat}

/-- What is read from letters and an ending is a shape of the grammar, if it is in bounds. -/
theorem of_shape {letterType : DataType} {suffix : Suffix}
    (known : (letters, letterType) ∈ typeLetters) (denotes : ending.Denotes suffix)
    (denoted : denotedType area letters letterType suffix = type)
    (shaped : shape type suffix = .ok (bit, length)) (bit_le : bit ≤ 7) (pos : 0 < length)
    (length_le : type = .string → length ≤ 254) : Shapes area letters ending type bit length := by
  cases mem_typeLetters_iff.mp known with
  | bit named =>
    by_cases counted : letters = [] ∧ suffix = .none ∧ (area = .counter ∨ area = .timer)
    · rw [denotedType, if_pos counted] at denoted
      obtain ⟨rfl, rfl, counted⟩ := counted
      subst denoted
      cases shaped
      cases denotes
      exact .word counted
    · rw [denotedType, if_neg counted] at denoted
      subst denoted
      obtain ⟨rfl, _, rfl⟩ := shape_bit_eq_ok_iff.mp shaped
      cases denotes with
      | point is => exact .bit named is bit_le
  | string =>
    rw [denotedType_of_letters (List.cons_ne_nil _ _)] at denoted
    subst denoted
    obtain ⟨rfl, rfl⟩ := (shape_text_eq_ok_iff rfl).mp shaped
    cases denotes with
    | point is => exact .string is pos (length_le rfl)
  | wstring =>
    rw [denotedType_of_letters (List.cons_ne_nil _ _)] at denoted
    subst denoted
    obtain ⟨rfl, rfl⟩ := (shape_text_eq_ok_iff rfl).mp shaped
    cases denotes with
    | point is => exact .wstring is pos
  | code code =>
    rw [denotedType_of_letters code.letters_ne_nil] at denoted
    subst denoted
    obtain ⟨rfl, ⟨rfl, rfl⟩ | rfl⟩ := code.shape_eq_ok_iff.mp shaped
    · cases denotes
      exact .element code
    · cases denotes with
      | star is => exact .array code is pos

/-- A shape of the grammar is what is read from its letters and its ending. -/
theorem exists_shape (shapes : Shapes area letters ending type bit length) :
    ∃ letterType suffix, (letters, letterType) ∈ typeLetters ∧ ending.Denotes suffix ∧
      denotedType area letters letterType suffix = type ∧
      shape type suffix = .ok (bit, length) := by
  cases shapes with
  | bit named is le =>
    have small : bit ≤ 255 := Nat.le_trans le (by decide)
    exact ⟨.bit, .point bit, mem_typeLetters_iff.mpr (.bit named), .point is,
      denotedType_of_suffix nofun, shape_bit_eq_ok_iff.mpr ⟨rfl, small, rfl⟩⟩
  | word counted => exact ⟨.bit, .none, by decide, .none, if_pos ⟨rfl, rfl, counted⟩, rfl⟩
  | string is => exact ⟨.string, _, by decide, .point is, denotedType_of_suffix nofun, rfl⟩
  | wstring is => exact ⟨.wstring, _, by decide, .point is, denotedType_of_suffix nofun, rfl⟩
  | element code =>
    exact ⟨type, _, mem_typeLetters_iff.mpr (.code code), .none,
      denotedType_of_letters code.letters_ne_nil,
      code.shape_eq_ok_iff.mpr ⟨rfl, Or.inl ⟨rfl, rfl⟩⟩⟩
  | array code is =>
    exact ⟨type, _, mem_typeLetters_iff.mpr (.code code), .star is,
      denotedType_of_letters code.letters_ne_nil,
      code.shape_eq_ok_iff.mpr ⟨rfl, Or.inr rfl⟩⟩

theorem length_le (shapes : Shapes area letters ending type bit length) : length ≤ 65535 := by
  cases shapes with
  | string is => exact is.2.2
  | wstring is => exact is.2.2
  | array _ is => exact is.2.2
  | _ => decide

theorem length_pos (shapes : Shapes area letters ending type bit length) : 0 < length := by
  cases shapes with
  | string _ pos => exact pos
  | wstring _ pos => exact pos
  | array _ _ pos => exact pos
  | _ => decide

theorem bit_le (shapes : Shapes area letters ending type bit length) : bit ≤ 7 := by
  cases shapes with
  | bit _ _ le => exact le
  | _ => decide

theorem bit_eq_zero (shapes : Shapes area letters ending type bit length) (wider : type ≠ .bit) :
    bit = 0 := by
  cases shapes with
  | bit => exact absurd rfl wider
  | _ => rfl

theorem length_eq_one (shapes : Shapes area letters ending type bit length) (single : type = .bit) :
    length = 1 := by
  cases shapes with
  | bit => rfl
  | word => rfl
  | element => rfl
  | string => cases single
  | wstring => cases single
  | array code => subst single; cases code

theorem length_le_of_string (shapes : Shapes area letters ending type bit length)
    (string : type = .string) : length ≤ DataType.maxStringLength := by
  cases shapes with
  | string _ _ le => exact le
  | wstring => cases string
  | array code => subst string; cases code
  | _ => decide

end Shapes

/-! ## Spellings and tags -/

theorem Place.Denotes.block_eq_zero {place : Place} {region : Region}
    (denotes : place.Denotes region) (flat : region.area ≠ .dataBlock) : region.block = 0 := by
  cases denotes with
  | block => exact absurd rfl flat
  | area => rfl

namespace Spelling

/-- The spelling is that of an address: its numbers are in bounds and its ending suits its letters
in the area. -/
def IsAddress (s : Spelling) : Prop :=
  ∃ region type bit length, s.place.Denotes region ∧ AreDigits s.offset ∧
    Numeral.value s.offset ≤ Region.maxStart ∧
    Shapes region.area s.letters s.ending type bit length

/-- The spelling of an address denotes a tag. -/
theorem exists_denotes_iff {s : Spelling} : (∃ tag, s.Denotes tag) ↔ s.IsAddress := by
  constructor
  · rintro ⟨tag, denotes⟩
    exact ⟨tag.region, tag.type, tag.bit, tag.length, denotes.place, denotes.offset,
      denotes.start ▸ tag.start_le, denotes.shape⟩
  · rintro ⟨region, type, bit, length, place, offset, start_le, shape⟩
    let tag : Tag :=
      { area := region.area, block := region.block, type, start := Numeral.value s.offset, bit,
        length, start_le
        length_le := shape.length_le
        block_eq_zero := place.block_eq_zero
        bit_le := shape.bit_le
        bit_eq_zero := shape.bit_eq_zero
        length_pos := shape.length_pos
        length_eq_one := shape.length_eq_one
        length_le_of_string := shape.length_le_of_string }
    exact ⟨tag, place, offset, rfl, shape⟩

end Spelling

end Address

/-- The fields of a tag that its address gives. -/
def Tag.fields (tag : Tag) : Address.Fields :=
  ⟨tag.region, tag.type, tag.start, tag.bit, tag.length⟩

theorem Tag.make_eq_ok_iff_fields {f : Address.Fields} {tag : Tag} :
    make f.region.area f.region.block f.type f.start f.bit f.length = .ok tag ↔ tag.fields = f := by
  rcases f with ⟨⟨area, block⟩, type, start, bit, length⟩
  rw [make_eq_ok_iff, fields, region, Address.Fields.mk.injEq, Region.mk.injEq, and_assoc]

theorem Tag.eq_of_fields_eq {a b : Tag} (same : a.fields = b.fields) : a = b := by
  have made := make_eq_ok_iff_fields.mpr same
  exact Except.ok.inj (made.symm.trans b.make_fields)

namespace Address

namespace Spelling

theorem denotes_iff {s : Spelling} {tag : Tag} :
    s.Denotes tag ↔ ∃ type suffix, s.Parts tag.region type tag.start suffix ∧
      denotedType tag.area s.letters type suffix = tag.type ∧
      shape tag.type suffix = .ok (tag.bit, tag.length) := by
  constructor
  · intro denotes
    obtain ⟨type, suffix, known, ending, denoted, shaped⟩ := denotes.shape.exists_shape
    exact ⟨type, suffix, ⟨denotes.place, known, denotes.offset, denotes.start, ending⟩, denoted,
      shaped⟩
  · rintro ⟨type, suffix, parts, denoted, shaped⟩
    exact ⟨parts.place, parts.offset, parts.start, .of_shape parts.letters parts.ending denoted
      shaped tag.bit_le tag.length_pos tag.length_le_of_string⟩

/-- No text has two spellings of addresses. -/
theorem IsAddress.eq_of_chars_eq {s t : Spelling} (address : s.IsAddress) (address' : t.IsAddress)
    (same : s.chars = t.chars) : s = t := by
  obtain ⟨tag, denotes⟩ := exists_denotes_iff.mpr address
  obtain ⟨tag', denotes'⟩ := exists_denotes_iff.mpr address'
  obtain ⟨_, _, parts, _⟩ := denotes_iff.mp denotes
  obtain ⟨_, _, parts', _⟩ := denotes_iff.mp denotes'
  exact parts.eq_of_chars_eq parts' same

end Spelling

/-! ## Texts -/

/-- A text as it is read: without the white space around it, and in capital letters. -/
def normal (text : String) : List Char := (trim text.toList).map Char.toUpper

theorem read_eq_ok_iff_readFields {text : String} {tag : Tag} :
    read text = .ok tag ↔ readFields (normal text) = .ok tag.fields := by
  unfold read normal
  cases readFields ((trim text.toList).map Char.toUpper) with
  | error why => exact ⟨nofun, nofun⟩
  | ok f =>
    dsimp only
    rw [Tag.make_eq_ok_iff_fields, Except.ok.injEq, eq_comm]

/-- A text is read as the address of a tag if and only if it is a spelling that denotes the tag. -/
theorem read_eq_ok_iff {text : String} {tag : Tag} :
    read text = .ok tag ↔ ∃ s : Spelling, s.chars = normal text ∧ s.Denotes tag := by
  have small : tag.start ≤ 4294967295 := Nat.le_trans tag.start_le (by decide)
  rw [read_eq_ok_iff_readFields, readFields_eq_ok_iff]
  refine exists_congr fun s => ?_
  rw [Spelling.denotes_iff]
  constructor
  · rintro ⟨type, suffix, chars, parts, _, denoted, shaped⟩
    exact ⟨chars, type, suffix, parts, denoted, shaped⟩
  · rintro ⟨chars, type, suffix, parts, denoted, shaped⟩
    exact ⟨type, suffix, chars, parts, small, denoted, shaped⟩

/-! ## Characters -/

/-- The characters of addresses lie between the star and the letter Z. -/
def IsSign (c : Char) : Prop := 0x2A ≤ c.toNat ∧ c.toNat ≤ 0x5A

instance (c : Char) : Decidable (IsSign c) := instDecidableAnd

theorem isSign_of_isDigit {c : Char} (digit : c.isDigit = true) : IsSign c := by
  have bounds : 48 ≤ c.toNat ∧ c.toNat ≤ 57 := by
    simpa [Char.isDigit, UInt32.le_iff_toNat_le] using digit
  unfold IsSign
  omega

theorem Count.Denotes.isSign {n : Count} {value : Nat} (denotes : n.Denotes value) :
    ∀ c ∈ n.chars, IsSign c := by
  intro c member
  rcases Count.mem_chars member with rfl | digit
  · decide
  · exact isSign_of_isDigit (denotes.1.2 c digit)

theorem Place.Denotes.isSign {place : Place} {region : Region} (denotes : place.Denotes region) :
    ∀ c ∈ place.chars, IsSign c := by
  have letters : ∀ c ∈ ['D', 'B'], IsSign c :=
    List.forall_mem_cons.mpr ⟨by decide, List.forall_mem_singleton.mpr (by decide)⟩
  intro c member
  cases denotes with
  | block is =>
    rcases List.mem_append.mp member with front | comma
    · rcases List.mem_append.mp front with letter | digit
      · exact letters c letter
      · exact is.isSign c digit
    · rw [List.mem_singleton.mp comma]
      decide
  | area is =>
    rw [List.mem_singleton.mp member]
    cases is <;> decide

theorem Ending.Denotes.isSign {ending : Ending} {suffix : Suffix}
    (denotes : ending.Denotes suffix) : ∀ c ∈ ending.chars, IsSign c := by
  intro c member
  cases denotes with
  | none => cases member
  | point is =>
    rcases List.mem_cons.mp member with rfl | number
    · decide
    · exact is.isSign c number
  | star is =>
    rcases List.mem_cons.mp member with rfl | number
    · decide
    · exact is.isSign c number

theorem isSign_of_typeLetters : ∀ entry ∈ typeLetters, ∀ c ∈ entry.1, IsSign c := by
  have all : ∀ entry ∈ typeLetters, entry.1.all (fun c => decide (IsSign c)) = true := by decide
  exact fun entry known c member => of_decide_eq_true (forall_typeLetters all entry known c member)

/-- A spelling has no other characters. -/
theorem Spelling.Parts.isSign {s : Spelling} {region : Region} {type : DataType} {start : Nat}
    {suffix : Suffix} (parts : s.Parts region type start suffix) : ∀ c ∈ s.chars, IsSign c := by
  intro c member
  rw [s.chars_eq, List.mem_append, List.mem_append, List.mem_append] at member
  rcases member with place | letter | digit | ending
  · exact parts.place.isSign c place
  · exact isSign_of_typeLetters _ parts.letters c letter
  · exact isSign_of_isDigit (parts.offset.2 c digit)
  · exact parts.ending.isSign c ending

/-- A text is an address if and only if it has a spelling of one, and then it has one only, which
denotes the tag that is read. Every other text is refused, such as any with a character that is not
ASCII. -/
theorem read_exact (text : String) :
    ((∃ tag, read text = .ok tag) ↔ ∃ s : Spelling, s.chars = normal text ∧ s.IsAddress) ∧
      (∀ tag, read text = .ok tag ↔ ∃ s : Spelling, s.chars = normal text ∧ s.Denotes tag) ∧
      (∀ s t : Spelling, s.chars = normal text → t.chars = normal text → s.IsAddress →
        t.IsAddress → s = t) ∧
      ((¬∃ s : Spelling, s.chars = normal text ∧ s.IsAddress) ↔
        ∃ fault, read text = .error fault) ∧
      ((∃ c ∈ normal text, 0x7F < c.toNat) → ∃ fault, read text = .error fault) := by
  have accepted : (∃ tag, read text = .ok tag) ↔
      ∃ s : Spelling, s.chars = normal text ∧ s.IsAddress := by
    simp only [read_eq_ok_iff, ← Spelling.exists_denotes_iff]
    exact ⟨fun ⟨tag, s, chars, denotes⟩ => ⟨s, chars, tag, denotes⟩,
      fun ⟨s, chars, tag, denotes⟩ => ⟨tag, s, chars, denotes⟩⟩
  have refused : (¬∃ tag, read text = .ok tag) ↔ ∃ fault, read text = .error fault := by
    cases read text with
    | error fault => exact ⟨fun _ => ⟨fault, rfl⟩, fun _ => nofun⟩
    | ok tag => exact ⟨fun none => absurd ⟨tag, rfl⟩ none, nofun⟩
  refine ⟨accepted, fun _ => read_eq_ok_iff, ?_, accepted.not.symm.trans refused, ?_⟩
  · exact fun s t chars chars' address address' =>
      address.eq_of_chars_eq address' (chars.trans chars'.symm)
  · rintro ⟨c, member, large⟩
    refine refused.mp fun given => ?_
    rcases given with ⟨tag, found⟩
    obtain ⟨s, chars, denotes⟩ := read_eq_ok_iff.mp found
    obtain ⟨_, _, parts, _⟩ := Spelling.denotes_iff.mp denotes
    have sign := parts.isSign c (chars ▸ member)
    exact absurd large (Nat.not_lt_of_le (Nat.le_trans sign.2 (by decide)))

/-- A wide text of three characters at byte 10 of block 7, with leading zeros and plus signs. -/
def signedSpelling : Spelling :=
  ⟨.block ⟨true, ['0', '7']⟩, ['W', 'S'], ['0', '0', '1', '0'], .point ⟨true, ['3']⟩⟩

theorem read_exact_signedSpelling :
    signedSpelling.chars = normal "\u00a0Db+07,ws0010.+3\n" ∧
      (∃ tag, read "\u00a0Db+07,ws0010.+3\n" = .ok tag) ∧
      (∀ s : Spelling, s.chars = signedSpelling.chars → s.IsAddress → s = signedSpelling) ∧
      ∃ fault, read "Db+07,ws0010.\u0663" = .error fault := by
  have digits {cs : List Char} (some : cs ≠ []) (all : cs.all Char.isDigit = true) : AreDigits cs :=
    ⟨some, List.all_eq_true.mp all⟩
  have seven : Count.Denotes ⟨true, ['0', '7']⟩ 7 := ⟨digits (by decide) rfl, rfl, by decide⟩
  have three : Count.Denotes ⟨true, ['3']⟩ 3 := ⟨digits (by decide) rfl, rfl, by decide⟩
  have address : signedSpelling.IsAddress :=
    ⟨_, _, _, _, .block seven, digits (by decide) rfl, by decide, .wstring three (by decide)⟩
  have chars : signedSpelling.chars = normal "\u00a0Db+07,ws0010.+3\n" := by decide +kernel
  have foreign : ∃ c ∈ normal "Db+07,ws0010.\u0663", 0x7F < c.toNat :=
    ⟨'\u0663', by decide +kernel, by decide⟩
  obtain ⟨accepted, _, unique, _⟩ := read_exact "\u00a0Db+07,ws0010.+3\n"
  exact ⟨chars, accepted.mpr ⟨_, chars, address⟩,
    fun s same address' => unique s _ (same.trans chars) chars address' address,
    (read_exact _).2.2.2.2 foreign⟩

end Address

end S7Link
