import S7Link.Tag.Basic
import S7Link.Text.Basic

/-!
# Reading addresses

A text is read without the white space around it and with ASCII letters in upper case. It is read
from left to right, and the first part that does not fit is the one that is reported: the region,
the type letters, the offset, the suffix, and then whether the suffix suits the type. What reads as
an address is still checked as a tag.
-/

namespace S7Link.Address

open Text

/-- What follows the offset: nothing, a point and a number, or a star and a number. -/
inductive Suffix where
  | none
  | point (n : Nat)
  | star (n : Nat)
deriving DecidableEq, Repr

/-- The fields of a tag as an address gives them. -/
structure Fields where
  region : Region
  type : DataType
  start : Nat
  bit : Nat
  length : Nat
deriving DecidableEq, Repr

/-- The area that a letter names outside the data blocks; three areas have two letters each. -/
def areaOf? : Char → Option Area
  | 'I' | 'E' => some .input
  | 'Q' | 'A' => some .output
  | 'M' => some .memory
  | 'C' | 'Z' => some .counter
  | 'T' => some .timer
  | _ => .none

/-- The text before and after the first comma. -/
def splitComma? (cs : List Char) : Option (List Char × List Char) :=
  match cs.dropWhile (· ≠ ',') with
  | [] => .none
  | _ :: after => some (cs.takeWhile (· ≠ ','), after)

/-- Reads the region at the front of an address; gives it with the text behind it. -/
def readRegion : List Char → Except AddressSyntax (Region × List Char)
  | 'D' :: 'B' :: rest =>
    match splitComma? rest with
    | .none => .error .missingComma
    | some (number, body) =>
      match Numeral.readSigned? 65535 number with
      | .none => .error .blockNumber
      | some block => .ok (⟨.dataBlock, UInt16.ofNat block⟩, body)
  | c :: body =>
    match areaOf? c with
    | .none => .error .area
    | some area => .ok (⟨area, 0⟩, body)
  | [] => .error .area

/-- The type letters in the order in which they are tried. `D` alone is a double word too; no
letters at all are a bit. -/
def typeLetters : List (List Char × DataType) :=
  [(['D', 'W'], .dword), (['D', 'I'], .dint), (['L', 'R'], .lreal), (['W', 'S'], .wstring),
    (['X'], .bit), (['B'], .byte), (['C'], .char), (['W'], .word), (['I'], .int), (['D'], .dword),
    (['R'], .real), (['S'], .string), ([], .bit)]

/-- Reads the type letters, which must stand right before a digit; gives the letters, their type and
the text behind them. -/
def readType (body : List Char) : Except AddressSyntax (List Char × DataType × List Char) :=
  let found := typeLetters.findSome? fun (letters, type) =>
    (letters.isPrefixOf? body).bind fun numbers =>
      if numbers.head?.any Char.isDigit then some (letters, type, numbers) else .none
  match found with
  | some hit => .ok hit
  | .none => .error .type

/-- Reads the offset, which ends at the first point or star; gives it with the text from there
on. -/
def readStart (numbers : List Char) : Except AddressSyntax (Nat × List Char) :=
  let inside (c : Char) : Bool := c ≠ '.' && c ≠ '*'
  match Numeral.read? 4294967295 (numbers.takeWhile inside) with
  | some start => .ok (start, numbers.dropWhile inside)
  | .none => .error .start

/-- Reads what follows the offset. -/
def readSuffix : List Char → Except AddressSyntax Suffix
  | [] => .ok .none
  | mark :: number =>
    match Numeral.readSigned? 65535 number with
    | .none => .error .suffix
    | some n => .ok (if mark = '.' then .point n else .star n)

/-- The type that the letters stand for: a counter or timer without letters and suffix is a word. -/
def denotedType (area : Area) (letters : List Char) (type : DataType) (suffix : Suffix) :
    DataType :=
  if letters = [] ∧ suffix = .none ∧ (area = .counter ∨ area = .timer) then .word else type

/-- The bit number and the length that a suffix gives to a cell of a type. -/
def shape : DataType → Suffix → Except AddressSyntax (Nat × Nat)
  | .bit, .point n => if n ≤ 255 then .ok (n, 1) else .error .bitNumber
  | .bit, _ => .error .missingBit
  | .string, .point n | .wstring, .point n => .ok (0, n)
  | .string, _ | .wstring, _ => .error .missingLength
  | _, .star n => .ok (0, n)
  | _, .none => .ok (0, 1)
  | _, .point _ => .error .strayPoint

/-- Reads an address that is already trimmed and in upper case. -/
def readFields (cs : List Char) : Except AddressSyntax Fields := do
  let (region, body) ← readRegion cs
  let (letters, letterType, numbers) ← readType body
  let (start, rest) ← readStart numbers
  let suffix ← readSuffix rest
  let type := denotedType region.area letters letterType suffix
  let (bit, length) ← shape type suffix
  return { region, type, start, bit, length }

/-- The tag that a text is the address of. -/
def read (text : String) : Except AddressFault Tag :=
  match readFields ((trim text.toList).map Char.toUpper) with
  | .error why => .error (.unreadable text why)
  | .ok f => Tag.make f.region.area f.region.block f.type f.start f.bit f.length

end S7Link.Address
