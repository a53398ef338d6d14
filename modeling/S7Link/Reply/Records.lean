import S7Link.Reply.Items

/-!
# Values and records

An answer is turned into results in two ways. The strict way gives the values of all tags, or the
fault of the first item that failed. The lenient way gives one record per tag, which holds the value
or the status of that tag alone. Both refuse the same malformed answers.
-/

namespace S7Link

/-- The value that a payload holds for a tag. -/
def Tag.decode (tag : Tag) (payload : Bytes) : Except Malformation Value :=
  match Value.decode? tag.type tag.length payload with
  | some value => .ok value
  | none => .error (.payloadTooShort tag.type tag.size payload.length)

/-- What became of one tag that was to be read: its value, or the status of its failure. -/
structure ReadRecord where
  tag : Tag
  outcome : Except Status Value

namespace ReadRecord

/-- The status of a record. -/
def status (record : ReadRecord) : Status :=
  match record.outcome with
  | .ok _ => .success
  | .error status => status

/-- The value of a record. -/
def value? (record : ReadRecord) : Option Value := record.outcome.toOption

/-- The fault of a record. -/
def fault? (record : ReadRecord) : Option Fault :=
  match record.outcome with
  | .ok _ => none
  | .error status => some (.readFailed record.tag status)

end ReadRecord

/-- What became of one tag that was to be written. -/
structure WriteRecord where
  tag : Tag
  status : Status
deriving DecidableEq, Repr

namespace WriteRecord

/-- The fault of a record. -/
def fault? (record : WriteRecord) : Option Fault :=
  if record.status.isSuccess then none else some (.writeFailed record.tag record.status)

end WriteRecord

/-- The value of a tag whose item is known, or the fault of the item. -/
def ItemReply.value (item : ItemReply) (tag : Tag) : Except Fault Value :=
  if item.status.isSuccess then (tag.decode item.payload).mapError .malformed
  else .error (.readFailed tag item.status)

/-- The record of a tag whose item is known. -/
def ItemReply.record (item : ItemReply) (tag : Tag) : Except Malformation ReadRecord :=
  if item.status.isSuccess then return ⟨tag, .ok (← tag.decode item.payload)⟩
  else return ⟨tag, .error item.status⟩

namespace Reply

/-- The values of all tags, or the first fault among them. -/
def values (reply : Reply) (tags : List Tag) : Except Fault (List Value) := do
  let items ← (reply.readItems tags).mapError .malformed
  (items.zip tags).mapM fun (item, tag) => item.value tag

/-- The records of all tags. -/
def records (reply : Reply) (tags : List Tag) : Except Malformation (List ReadRecord) := do
  let items ← reply.readItems tags
  (items.zip tags).mapM fun (item, tag) => item.record tag

/-- The records of all tags that were to be written. -/
def writeRecords (reply : Reply) (tags : List Tag) : Except Malformation (List WriteRecord) := do
  let statuses ← reply.writeStatuses tags.length
  return tags.zipWith WriteRecord.mk statuses

/-- Refuses an answer that reports a failure for one of the tags that were to be written. -/
def checkWrite (reply : Reply) (tags : List Tag) : Except Fault Unit := do
  let statuses ← (reply.writeStatuses tags.length).mapError .malformed
  match (statuses.zip tags).find? fun (status, _) => !status.isSuccess with
  | some (status, tag) => .error (.writeFailed tag status)
  | none => .ok ()

end Reply

end S7Link
