/-!
# Limits of a request

Both sides have agreed on the largest frame, the PDU size. What a request and its answer carry
besides the items, how many items a request may have, and how large one item can be when it travels
alone.
-/

namespace S7Link.Request

/-- The byte that asks to read. -/
def readFunction : UInt8 := 0x04

/-- The byte that asks to write. -/
def writeFunction : UInt8 := 0x05

/-- The bytes of a request besides its items: envelope, header, function and item count. -/
def overhead : Nat := 19

/-- The bytes of an answer besides its items. -/
def replyOverhead : Nat := 21

/-- The bytes that address one item. -/
def specificationSize : Nat := 12

/-- The bytes in front of the payload of one item. -/
def itemHeaderSize : Nat := 4

/-- The bytes of the answer to one written item. -/
def statusSize : Nat := 1

/-- The largest number of items of a request. -/
def maxItems : Nat := 20

/-- The largest payload whose number of bits fits in a word. -/
def maxBitCountedSize : Nat := 8191

/-- The largest item that can be read alone; one byte is kept for filling. -/
def largestRead (pduSize : UInt16) : Nat :=
  if pduSize.toNat ≤ overhead + specificationSize then 0
  else pduSize.toNat - (replyOverhead + itemHeaderSize + 1)

/-- The largest item that can be written alone; one byte is kept for filling. -/
def largestWrite (pduSize : UInt16) : Nat :=
  min (pduSize.toNat - (overhead + specificationSize + itemHeaderSize + 1)) maxBitCountedSize

end S7Link.Request
