import S7Link.Request.Read

/-!
# Write requests

A write request names up to twenty tags and carries a payload for each. In the data section each
payload stands behind four bytes: a reserved byte, a code for the unit of its length and the length
in that unit.
-/

namespace S7Link

open Request

/-- A tag and the bytes to be written to it. -/
structure WriteItem where
  tag : Tag
  data : Bytes
deriving DecidableEq, Repr

namespace WriteItem

/-- The item that writes a value to a tag. -/
def make (tag : Tag) (value : Value) : Except Fault WriteItem :=
  match value.encode tag with
  | .ok data => .ok ⟨tag, data⟩
  | .error cause => .error (.invalidValue tag cause)

/-- The code for the unit of an item's length and the length: one bit, a number of bits, or a number
of bytes. -/
def extent (item : WriteItem) : UInt8 × Nat :=
  match item.tag.type with
  | .bit => (0x03, 1)
  | .byte | .char | .word | .dword => (0x04, 8 * item.data.length)
  | .int | .dint => (0x05, 8 * item.data.length)
  | .real | .lreal | .string | .wstring => (0x09, item.data.length)

/-- The bytes of an item in the data section. -/
def bytes (item : WriteItem) : Bytes :=
  let (code, length) := item.extent
  [0x00, code] ++ BigEndian.write 2 length ++ item.data

end WriteItem

/-- A request to write items. -/
structure WriteRequest where
  reference : UInt16
  items : List WriteItem
deriving DecidableEq, Repr

namespace WriteRequest

/-- The length of the data section that carries payloads of the given sizes. -/
def dataLengthOf (sizes : List Nat) : Nat := Frame.alignedLength (sizes.map (itemHeaderSize + ·))

/-- The length of the frame of a request that writes payloads of the given sizes. -/
def lengthOf (sizes : List Nat) : Nat :=
  overhead + specificationSize * sizes.length + dataLengthOf sizes

/-- The length of the data section of a request. -/
def dataLength (request : WriteRequest) : Nat := dataLengthOf (request.items.map (·.data.length))

/-- The length of the frame of a request. -/
def length (request : WriteRequest) : Nat := lengthOf (request.items.map (·.data.length))

/-- The request with some items, or the first reason why it does not fit a PDU size. -/
def make (items : List WriteItem) (reference pduSize : UInt16) :
    Except Fault WriteRequest := do
  checkCount items.length
  let largest := largestWrite pduSize
  match items.find? (largest < ·.data.length) with
  | some item => .error (.itemTooLarge item.tag item.data.length largest pduSize)
  | none =>
    let request : WriteRequest := ⟨reference, items⟩
    if pduSize.toNat < request.length then .error (.requestTooLarge request.length pduSize)
    else .ok request

/-- The frame of a request. The lengths in it are counted before its sections are written. -/
def bytes (request : WriteRequest) : Bytes :=
  let header := Header.job request.reference
    (UInt16.ofNat (parametersLength request.items.length)) (UInt16.ofNat request.dataLength)
  Frame.envelope request.length ++ header.write ++
    parameters writeFunction (request.items.map (·.tag)) ++
      Frame.align (request.items.map WriteItem.bytes)

end WriteRequest

end S7Link
