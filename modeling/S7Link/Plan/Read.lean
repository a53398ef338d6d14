import S7Link.Plan.Batching
import S7Link.Plan.Grouping
import S7Link.Reply.Records
import S7Link.Request.Read

/-!
# Read plans

A read plan says which items are read in which batch, and which tags get their values from which
item. An item is a tag of the caller or a range of bytes that covers several. Answers are turned
into results batch by batch: each member of an item is cut out of the item's payload, and the
results are put back into the caller's order.
-/

namespace S7Link

open Plan

/-- One item of a read request and the tags that get their values from it. -/
structure ReadItem where
  /-- The tag that is read. -/
  tag : Tag
  members : List (Indexed Tag)
deriving DecidableEq, Repr

namespace ReadItem

/-- The item that reads one tag. -/
def ofTag (tag : Indexed Tag) : ReadItem := ⟨tag.value, [tag]⟩

/-- The item that reads a group: its only tag, or the range of bytes that covers its tags. -/
def ofGroup (group : Group) : Except Fault ReadItem :=
  match group.rest with
  | [] => .ok (ofTag group.first)
  | _ =>
    match Tag.ofBytes group.first.value.region group.start (group.stop - group.start) with
    | .ok tag => .ok ⟨tag, group.members⟩
    | .error cause => .error (.invalidAddress cause)

/-- Whether an item reads something else than one tag as it stands. -/
def isPacked (item : ReadItem) : Bool :=
  1 < item.members.length || (item.members.head?.map (·.value)) != some item.tag

/-- The value of a member, from the payload of its item. A single bit is read as a byte of its own;
in a range of bytes it is one bit of a byte. -/
def extract (item : ReadItem) (member : Tag) (payload : Bytes) : Except Malformation Value :=
  if item.tag.type = .bit then item.tag.decode payload
  else
    let offset := member.start - item.tag.start
    if payload.length < offset then .error (.outsidePayload member item.tag)
    else if member.type = .bit then
      match payload[offset]? with
      | some byte => .ok (.bool (Byte.bit byte member.bit))
      | none => .error (.outsidePayload member item.tag)
    else member.decode (payload.drop offset)

/-- The values of all members, or the fault of the item. -/
def values (item : ReadItem) (reply : ItemReply) : Except Fault (List (Indexed Value)) :=
  if reply.status.isSuccess then
    item.members.mapM fun member => do
      let value ← (item.extract member.value reply.payload).mapError .malformed
      return ⟨member.index, value⟩
  else .error (.readFailed item.tag reply.status)

/-- The records of all members; a failure of the item is the failure of each. -/
def records (item : ReadItem) (reply : ItemReply) : Except Fault (List (Indexed ReadRecord)) :=
  item.members.mapM fun member => do
    if reply.status.isSuccess then
      let value ← (item.extract member.value reply.payload).mapError .malformed
      return ⟨member.index, member.value, .ok value⟩
    else return ⟨member.index, member.value, .error reply.status⟩

end ReadItem

/-- The items of one read request. -/
structure ReadBatch where
  items : List ReadItem
deriving DecidableEq, Repr

namespace ReadBatch

/-- The tags that a batch reads. -/
def tags (batch : ReadBatch) : List Tag := batch.items.map (·.tag)

/-- The request of a batch. -/
def request (batch : ReadBatch) (reference pduSize : UInt16) : Except Fault ReadRequest :=
  ReadRequest.make batch.tags reference pduSize

/-- The items of a batch with what an answer says about them. -/
def answers (batch : ReadBatch) (reply : Reply) : Except Fault (List (ReadItem × ItemReply)) := do
  reply.checkError
  let replies ← (reply.readItems batch.tags).mapError .malformed
  return batch.items.zip replies

/-- The values that an answer gives to the members of a batch, or the first fault of an item. -/
def values (batch : ReadBatch) (reply : Reply) : Except Fault (List (Indexed Value)) := do
  let parts ← (← batch.answers reply).mapM fun (item, answer) => item.values answer
  return parts.flatten

/-- The records that an answer gives to the members of a batch. -/
def records (batch : ReadBatch) (reply : Reply) : Except Fault (List (Indexed ReadRecord)) := do
  let parts ← (← batch.answers reply).mapM fun (item, answer) => item.records answer
  return parts.flatten

end ReadBatch

/-- A plan needs one answer for each batch. -/
def Plan.checkAnswerCount (batches answers : Nat) : Except Fault Unit :=
  if batches = answers then .ok () else .error (.malformed (.answerCount batches answers))

/-- The batches that read a list of tags. -/
structure ReadPlan where
  batches : List ReadBatch
deriving DecidableEq, Repr

namespace ReadPlan

/-- The first tag that is too large to be read alone. -/
def checkSizes (pduSize : UInt16) (tags : List Tag) : Except Fault Unit :=
  let largest := Request.largestRead pduSize
  match tags.find? (largest < ·.size) with
  | some tag => .error (.itemTooLarge tag tag.size largest pduSize)
  | none => .ok ()

/-- The items that read a list of tags: each tag by itself, or groups of neighbours. -/
def itemsOf (pduSize : UInt16) (optimize : Bool) (tags : List Tag) : Except Fault (List ReadItem) :=
  if optimize then
    (Group.gather (Request.largestRead pduSize) (byPlace (Indexed.all tags))).mapM ReadItem.ofGroup
  else .ok ((Indexed.all tags).map ReadItem.ofTag)

/-- Whether items may share a read request. -/
def fits (limits : Limits) (items : List ReadItem) : Bool :=
  limits.fits (items.map fun item => Cost.ofRead item.tag.size)

/-- The plan that reads a list of tags, or the first tag that is too large for any plan. -/
def make (tags : List Tag) (limits : Limits) (optimize : Bool) : Except Fault ReadPlan := do
  checkSizes limits.pduSize tags
  let items ← itemsOf limits.pduSize optimize tags
  return ⟨(cut (fits limits) items).map ReadBatch.mk⟩

/-- The items of a plan in the order in which they are read. -/
def items (plan : ReadPlan) : List ReadItem := plan.batches.flatMap (·.items)

/-- The number of tags that a plan reads. -/
def tagCount (plan : ReadPlan) : Nat := (plan.items.flatMap (·.members)).length

/-- The values of all tags in the caller's order, or the first fault. -/
def values (plan : ReadPlan) (replies : List Reply) : Except Fault (List Value) := do
  checkAnswerCount plan.batches.length replies.length
  let parts ← (plan.batches.zip replies).mapM fun (batch, reply) => batch.values reply
  return Indexed.inOrder parts.flatten

/-- The records of all tags in the caller's order. -/
def records (plan : ReadPlan) (replies : List Reply) : Except Fault (List ReadRecord) := do
  checkAnswerCount plan.batches.length replies.length
  let parts ← (plan.batches.zip replies).mapM fun (batch, reply) => batch.records reply
  return Indexed.inOrder parts.flatten

end ReadPlan

end S7Link
