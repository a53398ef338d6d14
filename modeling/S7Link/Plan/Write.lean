import S7Link.Plan.Read
import S7Link.Request.Write

/-!
# Write plans

A write plan cuts the items that write a list of values into batches, in the caller's order. Nothing
is grouped: the bytes between two tags must stay as they are.
-/

namespace S7Link

open Plan

/-- The items of one write request. -/
structure WriteBatch where
  items : List WriteItem
deriving DecidableEq, Repr

namespace WriteBatch

/-- The tags that a batch writes. -/
def tags (batch : WriteBatch) : List Tag := batch.items.map (·.tag)

/-- The request of a batch. -/
def request (batch : WriteBatch) (reference pduSize : UInt16) : Except Fault WriteRequest :=
  WriteRequest.make batch.items reference pduSize

/-- The records that an answer gives to the tags of a batch. -/
def records (batch : WriteBatch) (reply : Reply) : Except Fault (List WriteRecord) := do
  reply.checkError
  (reply.writeRecords batch.tags).mapError .malformed

/-- Refuses an answer that reports a failure. -/
def check (batch : WriteBatch) (reply : Reply) : Except Fault Unit := do
  reply.checkError
  reply.checkWrite batch.tags

end WriteBatch

/-- The batches that write a list of values. -/
structure WritePlan where
  batches : List WriteBatch
deriving DecidableEq, Repr

namespace WritePlan

/-- The item that writes a value to a tag, unless the tag is too large to be written alone. -/
def itemOf (pduSize : UInt16) (tag : Tag) (value : Value) : Except Fault WriteItem :=
  let largest := Request.largestWrite pduSize
  if largest < tag.size then .error (.itemTooLarge tag tag.size largest pduSize)
  else WriteItem.make tag value

/-- Whether items may share a write request. -/
def fits (limits : Limits) (items : List WriteItem) : Bool :=
  limits.fits (items.map fun item => Cost.ofWrite item.data.length)

/-- The plan that writes values to tags, or the first pair that has no item. -/
def make (tags : List Tag) (values : List Value) (limits : Limits) : Except Fault WritePlan := do
  if tags.length ≠ values.length then .error (.countMismatch tags.length values.length)
  else
    let items ← (tags.zip values).mapM fun (tag, value) => itemOf limits.pduSize tag value
    return ⟨(cut (fits limits) items).map WriteBatch.mk⟩

/-- The number of tags that a plan writes. -/
def tagCount (plan : WritePlan) : Nat := (plan.batches.flatMap (·.items)).length

/-- The records of all tags in the caller's order. -/
def records (plan : WritePlan) (replies : List Reply) : Except Fault (List WriteRecord) := do
  checkAnswerCount plan.batches.length replies.length
  let parts ← (plan.batches.zip replies).mapM fun (batch, reply) => batch.records reply
  return parts.flatten

/-- Refuses answers of which one reports a failure. -/
def check (plan : WritePlan) (replies : List Reply) : Except Fault Unit := do
  checkAnswerCount plan.batches.length replies.length
  (plan.batches.zip replies).forM fun (batch, reply) => batch.check reply

end WritePlan

end S7Link
