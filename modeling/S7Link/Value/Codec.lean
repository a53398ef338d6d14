import S7Link.Byte
import S7Link.Tag.Basic
import S7Link.Text.Encoding
import S7Link.Value.Basic

/-!
# Values as bytes

The payload of a cell is what its bytes hold. Elements stand one after another, numbers most
significant byte first. A `Char` cell holds its text from the first byte on, filled up with zeros; a
`String` cell has a capacity byte and a length byte before its text, a `WString` cell a capacity
word and a length word.

`decode?` reads a payload and needs only enough bytes; `encode` writes one and refuses a value that
does not suit the cell.
-/

namespace S7Link

/-- Why a value does not suit a cell. -/
inductive ValueFault where
  /-- The cell holds text and the value is none. -/
  | notText (value : Value)
  /-- The text has too many characters or one above U+00FF. -/
  | latinText (capacity : Nat)
  /-- The text has too many code units. -/
  | wideText (capacity : Nat)
  /-- The list has the wrong number of elements. -/
  | elementCount (expected given : Nat)
  /-- The cell is an array and the value is no list. -/
  | notList (expected : Nat)
  /-- The value is of another type than the cell. -/
  | wrongType (value : Value) (type : DataType)
  /-- A reason in the words of whoever found it. -/
  | other (reason : String)
deriving Repr

/-- The wording of a reason why a value does not suit a cell. -/
def ValueFault.reason : ValueFault → String
  | .notText value => "expected text, got " ++ value.display
  | .latinText capacity => s!"expected at most {capacity} Latin-1 characters"
  | .wideText capacity => s!"expected at most {capacity} UTF-16 code units"
  | .elementCount expected given => s!"expected {expected} elements, got {given}"
  | .notList expected => s!"expected a list of {expected} elements"
  | .wrongType value type => value.display ++ " does not match data type " ++ type.name
  | .other reason => reason

namespace Value

open Text

/-! ## Reading a payload -/

/-- The first `count` runs of `width` bytes. -/
def chunks (width : Nat) : Nat → Bytes → List Bytes
  | 0, _ => []
  | count + 1, bytes => bytes.take width :: chunks width count (bytes.drop width)

/-- The element that a run of bytes of its width holds. -/
def decodeElement (type : DataType) (bytes : Bytes) : Value :=
  let n := BigEndian.read bytes
  match type with
  | .word => .word (UInt16.ofNat n)
  | .int => .int (UInt16.ofNat n).toInt16
  | .dword => .dword (UInt32.ofNat n)
  | .dint => .dint (UInt32.ofNat n).toInt32
  | .real => .real ⟨UInt32.ofNat n⟩
  | .lreal => .lreal ⟨UInt64.ofNat n⟩
  | _ => .byte (UInt8.ofNat n)

/-- The text of a `Char` cell: its bytes up to the zeros at the end. -/
def decodeChars (bytes : Bytes) : String :=
  String.ofList (Latin.decode ((bytes.reverse.dropWhile (· == 0)).reverse))

/-- The text of a `String` cell. A length byte above the capacity counts as the capacity. -/
def decodeString (capacity : Nat) (bytes : Bytes) : String :=
  let length := min (BigEndian.read ((bytes.drop 1).take 1)) capacity
  String.ofList (Latin.decode ((bytes.drop 2).take length))

/-- The text of a `WString` cell. A length word above the capacity counts as the capacity. -/
def decodeWString (capacity : Nat) (bytes : Bytes) : String :=
  let length := min (BigEndian.read ((bytes.drop 2).take 2)) capacity
  let units := (chunks 2 length (bytes.drop 4)).map fun u => UInt16.ofNat (BigEndian.read u)
  String.ofList (Utf16.decode units)

/-- The value of a cell of `length` elements that holds the given bytes; bytes past its end do not
matter. There is none if bytes are missing. -/
def decode? (type : DataType) (length : Nat) (bytes : Bytes) : Option Value :=
  if bytes.length < type.size length then none
  else
    let payload := bytes.take (type.size length)
    some <| match type with
      | .bit => .bool (payload.head? != some 0)
      | .char => .text (decodeChars payload)
      | .string => .text (decodeString length payload)
      | .wstring => .text (decodeWString length payload)
      | _ =>
        match (chunks (type.size 1) length payload).map (decodeElement type) with
        | [element] => element
        | elements => .list elements

/-! ## Writing a payload -/

/-- The bytes of a value that is one element of a type. -/
def encodeElement (type : DataType) (value : Value) : Except ValueFault Bytes :=
  match type, value with
  | .bit, .bool b => .ok [if b then 1 else 0]
  | .byte, .byte n => .ok [n]
  | .word, .word n => .ok (BigEndian.write 2 n.toNat)
  | .int, .int n => .ok (BigEndian.write 2 n.toUInt16.toNat)
  | .dword, .dword n => .ok (BigEndian.write 4 n.toNat)
  | .dint, .dint n => .ok (BigEndian.write 4 n.toUInt32.toNat)
  | .real, .real x => .ok (BigEndian.write 4 x.bits.toNat)
  | .lreal, .lreal x => .ok (BigEndian.write 8 x.bits.toNat)
  | _, _ => .error (.wrongType value type)

/-- The bytes of all elements of a type, or the first fault among them. -/
def encodeElements (type : DataType) : List Value → Except ValueFault Bytes
  | [] => .ok []
  | v :: rest => do
    let bytes ← encodeElement type v
    let others ← encodeElements type rest
    return bytes ++ others

/-- The text of a value that is to go into a text cell. -/
def requireText (value : Value) : Except ValueFault (List Char) :=
  match value with
  | .text s => .ok s.toList
  | _ => .error (.notText value)

/-- The Latin-1 bytes of a value that is to go into a text cell of `capacity` characters. -/
def encodeLatin (capacity : Nat) (value : Value) : Except ValueFault Bytes := do
  let text ← requireText value
  match Latin.encode? text with
  | some bytes => if bytes.length ≤ capacity then .ok bytes else .error (.latinText capacity)
  | none => .error (.latinText capacity)

/-- The code units of a value that is to go into a text cell of `capacity` code units. -/
def encodeWide (capacity : Nat) (value : Value) : Except ValueFault (List UInt16) := do
  let units := Utf16.encode (← requireText value)
  if units.length ≤ capacity then .ok units else .error (.wideText capacity)

/-- What a cell of `length` elements holds from its first byte on, before it is filled up with
zeros. -/
def encodeContent (type : DataType) (length : Nat) (value : Value) : Except ValueFault Bytes :=
  match type with
  | .char => encodeLatin length value
  | .string => do
    let text ← encodeLatin length value
    return UInt8.ofNat length :: UInt8.ofNat text.length :: text
  | .wstring => do
    let units ← encodeWide length value
    return BigEndian.write 2 length ++ BigEndian.write 2 units.length ++
      units.flatMap fun u => BigEndian.write 2 u.toNat
  | _ =>
    if length = 1 then encodeElement type value
    else
      match value with
      | .list elements =>
        if elements.length = length then encodeElements type elements
        else .error (.elementCount length elements.length)
      | _ => .error (.notList length)

/-- The payload of a tag that is to hold a value. -/
def encode (tag : Tag) (value : Value) : Except ValueFault Bytes := do
  let content ← encodeContent tag.type tag.length value
  return content ++ List.replicate (tag.size - content.length) 0

end Value

end S7Link
