import S7Link.Frame.Basic
import S7Link.Frame.Header

/-!
# Answers

A frame is an answer if its envelope and header fit it and the two sections behind the header fill
the rest of it. The first two bytes of the parameter section are the function and the number of
items; an answer that reports an error may have no parameters at all.
-/

namespace S7Link

/-- The answer to a request. -/
structure Reply where
  header : Header
  function : UInt8
  itemCount : UInt8
  /-- The data section. -/
  data : Bytes
deriving DecidableEq, Repr

namespace Reply

/-- The function and the number of items that a parameter section names. -/
def readParameters : Bytes → Except Malformation (UInt8 × UInt8)
  | [] => .ok (0, 0)
  | function :: itemCount :: _ => .ok (function, itemCount)
  | [_] => .error .parameterTruncated

/-- The answer that a frame holds. -/
def read (frame : Bytes) : Except Malformation Reply := do
  let unit ← Frame.unwrap frame
  let header ← Header.read unit
  if header.kind ≠ Header.answerKind then .error (.notAnswer header.kind)
  else
    let declared := header.size + header.parameterLength.toNat + header.dataLength.toNat
    if declared ≠ unit.length then .error (.sectionsTooLong declared unit.length)
    else
      let sections := unit.drop header.size
      let (function, itemCount) ← readParameters (sections.take header.parameterLength.toNat)
      return { header, function, itemCount, data := sections.drop header.parameterLength.toNat }

/-- Whether an answer reports no error for the request as a whole. -/
def isSuccess (reply : Reply) : Bool :=
  reply.header.errorClass = 0 && reply.header.errorCode = 0

/-- Refuses an answer that reports an error for the request as a whole. -/
def checkError (reply : Reply) : Except Fault Unit :=
  if reply.isSuccess then .ok ()
  else .error (.rejected reply.header.errorClass reply.header.errorCode)

/-- Refuses an answer to a request with another reference. -/
def checkReference (reply : Reply) (expected : UInt16) : Except Fault Unit :=
  if reply.header.reference = expected then .ok ()
  else .error (.referenceMismatch expected reply.header.reference)

/-- Refuses an answer to another function or with another number of items. -/
def checkFunction (reply : Reply) (function : UInt8) (count : Nat) : Except Malformation Unit :=
  if reply.function ≠ function then .error (.function function reply.function)
  else if reply.itemCount.toNat ≠ count then .error (.itemCount count reply.itemCount)
  else .ok ()

end Reply

end S7Link
