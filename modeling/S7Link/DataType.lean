/-!
# Data types

What a memory cell holds. A tag has a type and a length: the number of elements, or for the two text
types the number of characters the text may have. `size` gives the bytes that a cell of a type and
length occupies.
-/

namespace S7Link

/-- The type of a memory cell's elements. -/
inductive DataType where
  /-- One bit. -/
  | bit
  /-- An unsigned number of 8 bits. -/
  | byte
  /-- Text of Latin-1 characters, without a stored length. -/
  | char
  /-- An unsigned number of 16 bits. -/
  | word
  /-- A signed number of 16 bits. -/
  | int
  /-- An unsigned number of 32 bits. -/
  | dword
  /-- A signed number of 32 bits. -/
  | dint
  /-- A floating-point number of 32 bits. -/
  | real
  /-- A floating-point number of 64 bits. -/
  | lreal
  /-- Text of Latin-1 characters after a capacity byte and a length byte. -/
  | string
  /-- Text of 16-bit code units after a capacity word and a length word. -/
  | wstring
deriving DecidableEq, Repr

namespace DataType

/-- The position of a type in the order of types. -/
def rank : DataType → Nat
  | .bit => 0
  | .byte => 1
  | .char => 2
  | .word => 3
  | .int => 4
  | .dword => 5
  | .dint => 6
  | .real => 7
  | .lreal => 8
  | .string => 9
  | .wstring => 10

/-- The name of a type in messages. -/
def name : DataType → String
  | .bit => "Bit"
  | .byte => "Byte"
  | .char => "Char"
  | .word => "Word"
  | .int => "Int"
  | .dword => "DWord"
  | .dint => "DInt"
  | .real => "Real"
  | .lreal => "LReal"
  | .string => "String"
  | .wstring => "WString"

/-- The letters that name a type in an address. -/
def letters : DataType → List Char
  | .bit => ['X']
  | .byte => ['B']
  | .char => ['C']
  | .word => ['W']
  | .int => ['I']
  | .dword => ['D', 'W']
  | .dint => ['D', 'I']
  | .real => ['R']
  | .lreal => ['L', 'R']
  | .string => ['S']
  | .wstring => ['W', 'S']

/-- The bytes that a cell of `length` elements occupies. -/
def size (type : DataType) (length : Nat) : Nat :=
  match type with
  | .bit => 1
  | .byte | .char => length
  | .word | .int => 2 * length
  | .dword | .dint | .real => 4 * length
  | .lreal => 8 * length
  | .string => length + 2
  | .wstring => 2 * length + 4

/-- The largest length of a `string`, which stores its capacity and its length in a byte each. -/
def maxStringLength : Nat := 254

/-- Whether a length of this type counts the characters of one text and not separate elements. -/
def isText : DataType → Bool
  | .string | .wstring => true
  | _ => false

theorem rank_injective {a b : DataType} (h : a.rank = b.rank) : a = b := by
  cases a <;> cases b <;> first | rfl | (revert h; decide)

/-- A cell with elements occupies at least one byte. -/
theorem size_pos (type : DataType) {length : Nat} (h : 0 < length) : 0 < type.size length := by
  cases type <;> simp only [size] <;> omega

end DataType

end S7Link
