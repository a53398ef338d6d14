import S7Link.Frame.Basic
import S7Link.Frame.Header
import S7Link.Request.Limits
import S7Link.Request.Specification

/-!
# Read requests

A read request names up to twenty tags. `ReadRequest.make` refuses one whose frame, or the frame of
whose full answer, would be longer than the PDU size.
-/

namespace S7Link

open Request

/-- A request is refused if it has no items or too many. -/
def Request.checkCount (count : Nat) : Except Fault Unit :=
  if count = 0 ∨ maxItems < count then .error (.tooManyItems count maxItems) else .ok ()

/-- A request to read tags. -/
structure ReadRequest where
  reference : UInt16
  tags : List Tag
deriving DecidableEq, Repr

namespace ReadRequest

/-- The length of the frame of a request for a number of tags. -/
def lengthOf (count : Nat) : Nat := overhead + specificationSize * count

/-- The length of the frame that answers a request for tags of the given sizes in full. -/
def replyLengthOf (sizes : List Nat) : Nat :=
  replyOverhead + Frame.alignedLength (sizes.map (itemHeaderSize + ·))

/-- The length of the frame of a request. -/
def length (request : ReadRequest) : Nat := lengthOf request.tags.length

/-- The length of the frame that answers a request in full. -/
def replyLength (request : ReadRequest) : Nat := replyLengthOf (request.tags.map Tag.size)

/-- The request for some tags, or the first reason why it does not fit a PDU size. -/
def make (tags : List Tag) (reference pduSize : UInt16) : Except Fault ReadRequest := do
  checkCount tags.length
  let largest := largestRead pduSize
  match tags.find? (largest < ·.size) with
  | some tag => .error (.itemTooLarge tag tag.size largest pduSize)
  | none =>
    let request : ReadRequest := ⟨reference, tags⟩
    if pduSize.toNat < request.length then .error (.requestTooLarge request.length pduSize)
    else if pduSize.toNat < request.replyLength then
      .error (.requestTooLarge request.replyLength pduSize)
    else .ok request

/-- The frame of a request. The lengths in it are counted before its sections are written. -/
def bytes (request : ReadRequest) : Bytes :=
  let header := Header.job request.reference
    (UInt16.ofNat (parametersLength request.tags.length)) 0
  Frame.envelope request.length ++ header.write ++ parameters readFunction request.tags

end ReadRequest

end S7Link
