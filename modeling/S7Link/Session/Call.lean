import S7Link.Session.Calls

/-!
# Calls as data

A call with its arguments, what it gives, and what it would send: `Session.perform` makes a call,
and `Call.frames` gives the frames of its plan under successive references, whatever is answered to
them.
-/

namespace S7Link.Session

open Plan

/-- A call with its arguments. -/
inductive Call where
  | read (tags : List Tag)
  | readRecords (tags : List Tag)
  | write (tags : List Tag) (values : List Value)
  | writeRecords (tags : List Tag) (values : List Value)
  | readOne (tag : Tag)
  | writeOne (tag : Tag) (value : Value)

/-- What a call gives. -/
inductive Outcome where
  | values (values : List Value)
  | readRecords (records : List ReadRecord)
  | written
  | writeRecords (records : List WriteRecord)
  | value (value : Value)

/-- Makes a call. -/
def perform {σ : Type} (transport : Transport σ) (session : Session σ) :
    Call → Except Fault Outcome × Session σ
  | .read tags => (session.read transport tags).map (Except.map .values) id
  | .readRecords tags => (session.readRecords transport tags).map (Except.map .readRecords) id
  | .write tags values =>
    (session.write transport tags values).map (Except.map fun _ => .written) id
  | .writeRecords tags values =>
    (session.writeRecords transport tags values).map (Except.map .writeRecords) id
  | .readOne tag => (session.readOne transport tag).map (Except.map .value) id
  | .writeOne tag value =>
    (session.writeOne transport tag value).map (Except.map fun _ => .written) id

/-- Makes calls one after another, whether or not they succeed. -/
def performAll {σ : Type} (transport : Transport σ) (session : Session σ) :
    List Call → List (Except Fault Outcome) × Session σ
  | [] => ([], session)
  | call :: rest =>
    let (outcome, session) := session.perform transport call
    let (outcomes, session) := session.performAll transport rest
    (outcome :: outcomes, session)

/-- The frames of batches under successive references. -/
def framesFrom {β : Type} (frame : β → UInt16 → Except Fault Bytes) :
    UInt16 → List β → Except Fault (List Bytes)
  | _, [] => .ok []
  | reference, batch :: batches => do
    let bytes ← frame batch reference
    let others ← framesFrom frame (reference + 1) batches
    return bytes :: others

/-- The frames of the plan that reads tags. -/
def readFrames (config : Config) (first : UInt16) (tags : List Tag) :
    Except Fault (List Bytes) := do
  let plan ← ReadPlan.make tags config.limits config.optimize
  framesFrom (ReadBatch.frame config.pduSize) first plan.batches

/-- The frames of the plan that writes values to tags. -/
def writeFrames (config : Config) (first : UInt16) (tags : List Tag) (values : List Value) :
    Except Fault (List Bytes) := do
  let plan ← WritePlan.make tags values config.limits
  framesFrom (WriteBatch.frame config.pduSize) first plan.batches

/-- The frames that a call sends if nothing goes wrong. -/
def Call.frames (config : Config) (first : UInt16) : Call → Except Fault (List Bytes)
  | .read tags | .readRecords tags => readFrames config first tags
  | .write tags values | .writeRecords tags values => writeFrames config first tags values
  | .readOne tag => readFrames config first [tag]
  | .writeOne tag value => writeFrames config first [tag] [value]

end S7Link.Session
