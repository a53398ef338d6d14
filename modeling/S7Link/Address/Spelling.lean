import S7Link.Tag.Basic
import S7Link.Text.Basic

/-!
# Spellings of addresses

The grammar of addresses, part by part and apart from the way they are read: a place, type letters,
an offset and an ending. One cell has many spellings, since numbers may have leading zeros and some
of them a plus sign, and some areas and types have two names. `Spelling.Denotes` tells which cell a
spelling stands for; no spelling stands for two.
-/

namespace S7Link.Address

open Text

/-- Digits, of which there is at least one. -/
def AreDigits (cs : List Char) : Prop := cs ≠ [] ∧ ∀ c ∈ cs, c.isDigit = true

/-- A number of 16 bits as it is spelled. -/
structure Count where
  plus : Bool
  digits : List Char
deriving DecidableEq, Repr

namespace Count

/-- The characters of a number. -/
def chars (n : Count) : List Char := (if n.plus then ['+'] else []) ++ n.digits

/-- The number is `value`. -/
def Denotes (n : Count) (value : Nat) : Prop :=
  AreDigits n.digits ∧ Numeral.value n.digits = value ∧ value ≤ 65535

end Count

/-- The place of a cell as it is spelled. -/
inductive Place where
  /-- A data block by its number. -/
  | block (number : Count)
  /-- An area without blocks by its letter. -/
  | area (letter : Char)
deriving DecidableEq, Repr

/-- A letter stands for an area without blocks. -/
inductive IsLetter : Char → Area → Prop where
  | i : IsLetter 'I' .input
  | e : IsLetter 'E' .input
  | q : IsLetter 'Q' .output
  | a : IsLetter 'A' .output
  | m : IsLetter 'M' .memory
  | c : IsLetter 'C' .counter
  | z : IsLetter 'Z' .counter
  | t : IsLetter 'T' .timer

namespace Place

/-- The characters of a place. -/
def chars : Place → List Char
  | .block number => ['D', 'B'] ++ number.chars ++ [',']
  | .area letter => [letter]

/-- The place is the region. -/
inductive Denotes : Place → Region → Prop where
  | block {number : Count} {n : Nat} (is : number.Denotes n) :
      Denotes (.block number) ⟨.dataBlock, UInt16.ofNat n⟩
  | area {letter : Char} {area : Area} (is : IsLetter letter area) :
      Denotes (.area letter) ⟨area, 0⟩

end Place

/-- What follows the offset as it is spelled. -/
inductive Ending where
  | none
  | point (n : Count)
  | star (n : Count)
deriving DecidableEq, Repr

/-- The characters of an ending. -/
def Ending.chars : Ending → List Char
  | .none => []
  | .point n => '.' :: n.chars
  | .star n => '*' :: n.chars

/-- Letters stand for a type whose cells may be arrays. -/
inductive IsCode : List Char → DataType → Prop where
  | byte : IsCode ['B'] .byte
  | char : IsCode ['C'] .char
  | word : IsCode ['W'] .word
  | int : IsCode ['I'] .int
  | dword : IsCode ['D', 'W'] .dword
  | double : IsCode ['D'] .dword
  | dint : IsCode ['D', 'I'] .dint
  | real : IsCode ['R'] .real
  | lreal : IsCode ['L', 'R'] .lreal

/-- In an area, letters and an ending give a type, a bit number and a length. -/
inductive Shapes (area : Area) : List Char → Ending → DataType → Nat → Nat → Prop where
  | bit {letters : List Char} {n : Count} {bit : Nat} (named : letters = ['X'] ∨ letters = [])
      (is : n.Denotes bit) (le : bit ≤ 7) : Shapes area letters (.point n) .bit bit 1
  | word (counted : area = .counter ∨ area = .timer) : Shapes area [] .none .word 0 1
  | string {n : Count} {length : Nat} (is : n.Denotes length) (pos : 0 < length)
      (le : length ≤ 254) : Shapes area ['S'] (.point n) .string 0 length
  | wstring {n : Count} {length : Nat} (is : n.Denotes length) (pos : 0 < length) :
      Shapes area ['W', 'S'] (.point n) .wstring 0 length
  | element {letters : List Char} {type : DataType} (named : IsCode letters type) :
      Shapes area letters .none type 0 1
  | array {letters : List Char} {type : DataType} {n : Count} {length : Nat}
      (named : IsCode letters type) (is : n.Denotes length) (pos : 0 < length) :
      Shapes area letters (.star n) type 0 length

/-- An address as it is spelled. -/
structure Spelling where
  place : Place
  letters : List Char
  offset : List Char
  ending : Ending
deriving DecidableEq, Repr

namespace Spelling

/-- The characters of an address. -/
def chars (s : Spelling) : List Char := s.place.chars ++ s.letters ++ s.offset ++ s.ending.chars

/-- The address is that of the tag. -/
structure Denotes (s : Spelling) (tag : Tag) : Prop where
  place : s.place.Denotes tag.region
  offset : AreDigits s.offset
  start : Numeral.value s.offset = tag.start
  shape : Shapes tag.area s.letters s.ending tag.type tag.bit tag.length

end Spelling

/-! ## A spelling stands for one cell -/

theorem Count.Denotes.unique {n : Count} {a b : Nat} (ha : n.Denotes a) (hb : n.Denotes b) :
    a = b :=
  ha.2.1.symm.trans hb.2.1

theorem Place.Denotes.unique {place : Place} {a b : Region} (ha : place.Denotes a)
    (hb : place.Denotes b) : a = b := by
  cases ha with
  | block is =>
    cases hb with
    | block is' => rw [is.unique is']
  | area is =>
    cases hb with
    | area is' => cases is <;> cases is' <;> rfl

theorem Shapes.unique {area : Area} {letters : List Char} {ending : Ending} {t u : DataType}
    {b c m n : Nat} (h : Shapes area letters ending t b m) (k : Shapes area letters ending u c n) :
    t = u ∧ b = c ∧ m = n := by
  cases h with
  | bit named is le =>
    cases k with
    | bit _ is' _ => exact ⟨rfl, is.unique is', rfl⟩
    | string => simp at named
    | wstring => simp at named
  | word counted =>
    cases k with
    | word => exact ⟨rfl, rfl, rfl⟩
    | element named => cases named
  | string is pos le =>
    cases k with
    | bit named' => simp at named'
    | string is' => exact ⟨rfl, rfl, is.unique is'⟩
  | wstring is pos =>
    cases k with
    | bit named' => simp at named'
    | wstring is' => exact ⟨rfl, rfl, is.unique is'⟩
  | element named =>
    cases k with
    | word => cases named
    | element named' => cases named <;> cases named' <;> exact ⟨rfl, rfl, rfl⟩
  | array named is pos =>
    cases k with
    | array named' is' =>
      have := is.unique is'
      cases named <;> cases named' <;> exact ⟨rfl, rfl, this⟩

/-- No spelling stands for two cells. -/
theorem Spelling.Denotes.unique {s : Spelling} {a b : Tag} (ha : s.Denotes a) (hb : s.Denotes b) :
    a = b := by
  have region : a.region = b.region := ha.place.unique hb.place
  have area : a.area = b.area := congrArg Region.area region
  have block : a.block = b.block := congrArg Region.block region
  have start : a.start = b.start := ha.start.symm.trans hb.start
  have shape := ha.shape
  rw [area] at shape
  obtain ⟨type, bit, length⟩ := shape.unique hb.shape
  cases a
  cases b
  simp_all

end S7Link.Address
