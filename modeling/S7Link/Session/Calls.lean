import S7Link.Plan.Write
import S7Link.Session.Basic

/-!
# The calls of a session

A call plans its tags, handles the batches of the plan in order, and puts the results back into the
caller's order. The strict calls end with the fault of the first item that failed; the lenient calls
give one record per tag and write the failures into the journal. A call whose planning fails leaves
the session as it was.
-/

namespace S7Link

/-- The frame of a batch. -/
def ReadBatch.frame (pduSize : UInt16) (batch : ReadBatch) (reference : UInt16) :
    Except Fault Bytes :=
  (batch.request reference pduSize).map ReadRequest.bytes

/-- The frame of a batch. -/
def WriteBatch.frame (pduSize : UInt16) (batch : WriteBatch) (reference : UInt16) :
    Except Fault Bytes :=
  (batch.request reference pduSize).map WriteRequest.bytes

/-- What the journal says of a record: nothing, if its tag was read. -/
def ReadRecord.events (record : ReadRecord) : List Event :=
  match record.outcome with
  | .ok _ => []
  | .error status => [.readFailed record.tag status]

/-- What the journal says of a record: nothing, if its tag was written. -/
def WriteRecord.events (record : WriteRecord) : List Event :=
  if record.status.isSuccess then [] else [.writeFailed record.tag record.status]

namespace Session

open Plan

variable {σ : Type}

/-- Plans a read and handles its batches. -/
def readWith {α : Type} (transport : Transport σ) (lenient : Bool)
    (decode : ReadBatch → Reply → Except Fault (List (Indexed α)))
    (events : List (Indexed α) → List Event) (session : Session σ) (tags : List Tag) :
    Except Fault (List α) × Session σ :=
  let config := session.config
  match ReadPlan.make tags config.limits config.optimize with
  | .error fault => (.error fault, session)
  | .ok plan =>
    let planned :=
      Event.reading lenient tags.length plan.items.length plan.batches.length config.optimize
    let (results, session) := (session.record [planned]).run transport
      ⟨ReadBatch.frame config.pduSize, decode, events⟩ plan.batches
    (results.map fun parts => Indexed.inOrder parts.flatten, session)

/-- The values of tags, or the first fault. -/
def read (transport : Transport σ) (session : Session σ) (tags : List Tag) :
    Except Fault (List Value) × Session σ :=
  session.readWith transport false ReadBatch.values (fun _ => []) tags

/-- The records of tags. -/
def readRecords (transport : Transport σ) (session : Session σ) (tags : List Tag) :
    Except Fault (List ReadRecord) × Session σ :=
  session.readWith transport true ReadBatch.records
    (fun records => records.flatMap (·.value.events)) tags

/-- Plans a write and handles its batches. -/
def writeWith {α : Type} (transport : Transport σ) (lenient : Bool)
    (decode : WriteBatch → Reply → Except Fault α) (events : α → List Event)
    (session : Session σ) (tags : List Tag) (values : List Value) :
    Except Fault (List α) × Session σ :=
  let config := session.config
  match WritePlan.make tags values config.limits with
  | .error fault => (.error fault, session)
  | .ok plan =>
    let planned := Event.writing lenient tags.length plan.batches.length
    (session.record [planned]).run transport ⟨WriteBatch.frame config.pduSize, decode, events⟩
      plan.batches

/-- Writes values to tags, up to the first fault. -/
def write (transport : Transport σ) (session : Session σ) (tags : List Tag)
    (values : List Value) : Except Fault Unit × Session σ :=
  let (results, session) :=
    session.writeWith transport false WriteBatch.check (fun _ => []) tags values
  (results.map fun _ => (), session)

/-- Writes values to tags and gives their records. -/
def writeRecords (transport : Transport σ) (session : Session σ) (tags : List Tag)
    (values : List Value) : Except Fault (List WriteRecord) × Session σ :=
  let (results, session) := session.writeWith transport true WriteBatch.records
    (fun records => records.flatMap WriteRecord.events) tags values
  (results.map List.flatten, session)

/-- The value of one tag. -/
def readOne (transport : Transport σ) (session : Session σ) (tag : Tag) :
    Except Fault Value × Session σ :=
  let (values, session) := session.read transport [tag]
  let value := do
    match (← values).getLast? with
    | some value => .ok value
    | none => .error (.malformed (.noValue tag))
  (value, session)

/-- Writes a value to one tag. -/
def writeOne (transport : Transport σ) (session : Session σ) (tag : Tag) (value : Value) :
    Except Fault Unit × Session σ :=
  session.write transport [tag] [value]

end Session

end S7Link
