import S7Link.Area
import S7Link.DataType

/-!
# What can be wrong with an address

A tag is refused for the first of its fields that is out of bounds, and a text is refused for the
first part of it that does not read as an address. `AddressFault.reason` words both.
-/

namespace S7Link

/-- Why a text is no address. -/
inductive AddressSyntax where
  | missingComma
  /-- The number of the data block is no number of 16 bits. -/
  | blockNumber
  | area
  /-- No type letters stand before the digits of the offset. -/
  | type
  /-- The offset is no number of 32 bits. -/
  | start
  /-- What follows the point or the star is no number of 16 bits. -/
  | suffix
  | bitNumber
  | missingBit
  | missingLength
  | strayPoint
deriving DecidableEq, Repr

/-- The wording of a reason why a text is no address. -/
def AddressSyntax.reason : AddressSyntax → String
  | .missingComma => "expected ',' after the data block number"
  | .blockNumber => "data block number is not a number"
  | .area => "unknown memory area"
  | .type => "unknown data type"
  | .start => "start offset is not a number"
  | .suffix => "suffix is not a number"
  | .bitNumber => "bit offset must be 0-7"
  | .missingBit => "bit addresses need a '.bit' suffix"
  | .missingLength => "string addresses need a '.length' suffix"
  | .strayPoint => "only bit and string addresses take a '.' suffix"

/-- Why an address names no cell. -/
inductive AddressFault where
  | rangeTooLong (length : Nat)
  | blockOutsideDataBlock (area : Area) (block : UInt16)
  | bitTooLarge (bit : Nat)
  | bitOfWiderType (type : DataType) (bit : Nat)
  /-- The cell has no elements. -/
  | empty
  | severalBits (length : Nat)
  | stringTooLong (length : Nat)
  /-- The offset does not fit in the address field. -/
  | startTooLarge (start : Nat)
  | unreadable (text : String) (why : AddressSyntax)
  /-- A reason in the words of whoever found it. -/
  | other (reason : String)
deriving DecidableEq, Repr

/-- The wording of a reason why an address names no cell. -/
def AddressFault.reason : AddressFault → String
  | .rangeTooLong length => s!"byte range of {length} bytes is too long"
  | .blockOutsideDataBlock area block =>
    s!"db_number must be 0 for area {area.text}, got {block.toNat}"
  | .bitTooLarge bit => s!"bit_offset must be 0-7, got {bit}"
  | .bitOfWiderType type bit => s!"bit_offset must be 0 for {type.name}, got {bit}"
  | .empty => "length must be greater than 0"
  | .severalBits length => s!"length must be 1 for Bit, got {length}"
  | .stringTooLong length =>
    s!"length must not exceed {DataType.maxStringLength} for String, got {length}"
  | .startTooLarge start => s!"start must not exceed {Region.maxStart}, got {start}"
  | .unreadable text why => s!"'{text}': {why.reason}"
  | .other reason => reason

end S7Link
