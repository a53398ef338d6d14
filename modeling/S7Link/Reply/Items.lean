import S7Link.Reply.Basic
import S7Link.Request.Limits

/-!
# Items of an answer

The data section of the answer to a read holds one entry per item. A success is the status `FF`, a
code for the unit of the length, the length, the payload, and one fill byte after an odd payload
that is not the last. A failure is its status and three bytes more, which may be missing after the
last item. Nothing may follow the last entry.

The answer to a write holds one status per item and nothing else.
-/

namespace S7Link

/-- What an answer says about one item that was to be read. -/
structure ItemReply where
  status : Status
  /-- The bytes of the item; none if it was not read. -/
  payload : Bytes
deriving DecidableEq, Repr

namespace Reply

/-- The number of bytes of a payload, from the code for the unit of its length and the length. -/
def payloadLength (code : UInt8) (length : Nat) : Except Malformation Nat :=
  match code with
  | 0x03 | 0x04 | 0x05 => .ok ((length + 7) / 8)
  | 0x07 | 0x09 => .ok length
  | _ => .error (.transportSize code)

/-- Takes the entry of a tag from the front of a data section; gives it with the bytes behind it. -/
def takeItem (tag : Tag) (isLast : Bool) : Bytes → Except Malformation (ItemReply × Bytes)
  | [] => .error (.itemMissing tag)
  | byte :: rest =>
    let status : Status := ⟨byte⟩
    if status.isSuccess then
      match rest with
      | code :: high :: low :: body => do
        let length ← payloadLength code (BigEndian.read [high, low])
        let used := if isLast then length else length + length % 2
        if length ≠ tag.size then .error (.itemSize tag length)
        else if body.length < used then .error (.payloadTruncated tag)
        else .ok (⟨status, body.take length⟩, body.drop used)
      | _ => .error (.itemHeaderTruncated tag)
    else if rest.length < 3 ∧ ¬isLast then .error (.itemTruncated tag)
    else .ok (⟨status, []⟩, rest.drop 3)

/-- Takes the entries of all tags from a data section that holds nothing else. -/
def takeItems : List Tag → Bytes → Except Malformation (List ItemReply)
  | [], [] => .ok []
  | [], rest => .error (.trailingBytes rest.length)
  | tag :: tags, bytes => do
    let (item, rest) ← takeItem tag tags.isEmpty bytes
    let items ← takeItems tags rest
    return item :: items

/-- What an answer says about each of the tags that were to be read. -/
def readItems (reply : Reply) (tags : List Tag) : Except Malformation (List ItemReply) := do
  reply.checkFunction Request.readFunction tags.length
  takeItems tags reply.data

/-- The statuses of the items that were to be written. -/
def writeStatuses (reply : Reply) (count : Nat) : Except Malformation (List Status) := do
  reply.checkFunction Request.writeFunction count
  if reply.data.length ≠ count * Request.statusSize then
    .error (.statusCount count reply.data.length)
  else .ok (reply.data.map Status.mk)

end Reply

end S7Link
