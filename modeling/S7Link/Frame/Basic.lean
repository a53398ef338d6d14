import S7Link.Byte
import S7Link.Fault

/-!
# Frames

A frame is a data unit in an envelope of seven bytes: a version, a reserved byte, the length of the
whole frame as a word, and three bytes that announce a data transfer. `wrap` puts a unit into an
envelope, `unwrap` takes it out and refuses a frame whose envelope does not fit it.

The items of a data section start at even offsets: an item of odd length is followed by one fill
byte, unless it is the last. `align` writes the fill bytes as zeros, and `alignedLength` counts what
it writes.
-/

namespace S7Link.Frame

/-! ## Envelopes -/

/-- The version that opens an envelope. -/
def envelopeVersion : UInt8 := 0x03

/-- The bytes that announce a data transfer. -/
def dataTransfer : Bytes := [0x02, 0xF0, 0x80]

/-- The number of bytes in front of the data unit. -/
def envelopeSize : Nat := 7

/-- The bytes in front of the data unit of a frame, from the length of the whole frame. -/
def envelope (length : Nat) : Bytes :=
  [envelopeVersion, 0x00] ++ BigEndian.write 2 length ++ dataTransfer

/-- The frame of a data unit. -/
def wrap (unit : Bytes) : Bytes := envelope (envelopeSize + unit.length) ++ unit

/-- The data unit of a frame. -/
def unwrap (frame : Bytes) : Except Malformation Bytes :=
  match frame with
  | version :: _ :: high :: low :: c₁ :: c₂ :: c₃ :: unit =>
    let declared := BigEndian.read [high, low]
    if version ≠ envelopeVersion then .error (.envelopeVersion version)
    else if declared ≠ frame.length then .error (.envelopeLength declared frame.length)
    else if [c₁, c₂, c₃] ≠ dataTransfer then .error .notData
    else .ok unit
  | _ => .error (.frameTooShort frame.length)

/-! ## Alignment of items -/

/-- Items one after another, with a zero after each item of odd length but the last. -/
def align : List Bytes → Bytes
  | [] => []
  | [item] => item
  | item :: next :: rest =>
    item ++ List.replicate (item.length % 2) 0 ++ align (next :: rest)

/-- The number of bytes that items of the given lengths take with their fill bytes. -/
def alignedLength : List Nat → Nat
  | [] => 0
  | [n] => n
  | n :: next :: rest => n + n % 2 + alignedLength (next :: rest)

theorem length_align (items : List Bytes) :
    (align items).length = alignedLength (items.map List.length) := by
  fun_induction align items with
  | case1 => rfl
  | case2 item => rfl
  | case3 item next rest ih => simp_all [alignedLength, Nat.add_assoc]

end S7Link.Frame
