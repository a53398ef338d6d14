import S7Link.Byte
import S7Link.Request.Limits
import S7Link.Tag.Basic

/-!
# Item specifications

A request addresses each item by twelve bytes: a code for the elements of the transfer and their
number, the block and the area, and an address in bits. A cell that has no transfer code of its own
is transferred as bytes. Bits of a byte are addressed from the most significant one, so bit `b` of a
byte has the address `8 * start + 7 - b`.
-/

namespace S7Link.Request

/-- What a request says about the place and extent of one item. -/
structure Specification where
  /-- The code of the elements that are transferred. -/
  code : UInt8
  count : UInt16
  block : UInt16
  area : UInt8
  /-- The address in bits, below `2 ^ 24`. -/
  address : Nat
deriving DecidableEq, Repr

/-- The code and the number of the elements as which a cell is transferred. -/
def transfer (tag : Tag) : UInt8 × Nat :=
  match tag.type with
  | .bit => (0x01, 1)
  | .byte => (0x02, tag.length)
  | .char => (0x03, tag.length)
  | .word => (0x04, tag.length)
  | .int => (0x05, tag.length)
  | .dword => (0x06, tag.length)
  | .dint => (0x07, tag.length)
  | .real => (0x08, tag.length)
  | .lreal | .string | .wstring => (0x02, tag.size)

/-- The address of a cell in bits. -/
def bitAddress (tag : Tag) : Nat :=
  match tag.type with
  | .bit => 8 * tag.start + 7 - tag.bit
  | _ => 8 * tag.start

/-- The specification of a cell. -/
def Specification.of (tag : Tag) : Specification :=
  let (code, count) := transfer tag
  { code, count := UInt16.ofNat count, block := tag.block, area := tag.area.code
    address := bitAddress tag }

/-- The bytes of a specification. -/
def Specification.write (s : Specification) : Bytes :=
  [0x12, 0x0A, 0x10, s.code] ++ BigEndian.ofWord s.count ++ BigEndian.ofWord s.block ++ [s.area] ++
    BigEndian.write 3 s.address

/-- The length of the parameter section of a request for a number of items. -/
def parametersLength (count : Nat) : Nat := 2 + specificationSize * count

/-- The parameter section of a request: its function, the number of its items and their
specifications. -/
def parameters (function : UInt8) (tags : List Tag) : Bytes :=
  function :: UInt8.ofNat tags.length :: tags.flatMap fun tag => (Specification.of tag).write

end S7Link.Request
