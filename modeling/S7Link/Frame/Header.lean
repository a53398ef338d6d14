import S7Link.Byte
import S7Link.Fault

/-!
# Headers

A data unit opens with a header: a protocol byte, the kind of message, two reserved bytes, the
reference that pairs an answer with its request, and the lengths of the parameter and data sections
behind it. The header of an answer has two bytes more, an error class and an error code.
-/

namespace S7Link

/-- The header of a data unit. -/
structure Header where
  kind : UInt8
  reference : UInt16
  parameterLength : UInt16
  dataLength : UInt16
  /-- Written and read in answers only. -/
  errorClass : UInt8
  /-- Written and read in answers only. -/
  errorCode : UInt8
deriving DecidableEq, Repr

namespace Header

/-- The byte that opens every header. -/
def protocolId : UInt8 := 0x32

/-- The kind of a request. -/
def jobKind : UInt8 := 0x01

/-- The kind of an answer. -/
def answerKind : UInt8 := 0x03

/-- The header of a request. -/
def job (reference parameterLength dataLength : UInt16) : Header :=
  ⟨jobKind, reference, parameterLength, dataLength, 0, 0⟩

/-- The header of an answer that reports no error. -/
def answer (reference parameterLength dataLength : UInt16) : Header :=
  ⟨answerKind, reference, parameterLength, dataLength, 0, 0⟩

/-- The number of bytes of a header. -/
def size (header : Header) : Nat := if header.kind = answerKind then 12 else 10

/-- The bytes of a header. -/
def write (header : Header) : Bytes :=
  [protocolId, header.kind, 0x00, 0x00] ++ BigEndian.ofWord header.reference ++
    BigEndian.ofWord header.parameterLength ++ BigEndian.ofWord header.dataLength ++
    if header.kind = answerKind then [header.errorClass, header.errorCode] else []

/-- The header at the front of a data unit. -/
def read (unit : Bytes) : Except Malformation Header :=
  match unit with
  | id :: kind :: _ :: _ :: r₁ :: r₂ :: p₁ :: p₂ :: d₁ :: d₂ :: rest =>
    let plain : Header :=
      ⟨kind, BigEndian.toWord r₁ r₂, BigEndian.toWord p₁ p₂, BigEndian.toWord d₁ d₂, 0, 0⟩
    if id ≠ protocolId then .error (.protocolId id)
    else if kind ≠ answerKind then .ok plain
    else
      match rest with
      | errorClass :: errorCode :: _ => .ok { plain with errorClass, errorCode }
      | _ => .error (.answerHeaderTooShort unit.length)
  | _ => .error (.headerTooShort unit.length)

end Header

end S7Link
