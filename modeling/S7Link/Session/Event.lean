import S7Link.Fault

/-!
# The journal of a session

A session writes down what it does: each call once its plan is made, each request before it is sent,
and each tag that a lenient call could not read or write. `Event.level`, `message` and `fields` are
what a log shows.
-/

namespace S7Link

/-- Something that a session has done or found. -/
inductive Event where
  /-- A read was planned; a lenient one gives records in place of values. -/
  | reading (lenient : Bool) (tags items batches : Nat) (optimize : Bool)
  /-- A write was planned; a lenient one gives records. -/
  | writing (lenient : Bool) (tags batches : Nat)
  /-- A request is about to be sent. -/
  | sending (reference : UInt16) (frame : Bytes)
  /-- A lenient read got no value for a tag. -/
  | readFailed (tag : Tag) (status : Status)
  /-- A lenient write did not reach a tag. -/
  | writeFailed (tag : Tag) (status : Status)
deriving DecidableEq, Repr

namespace Event

/-- The frame of a request, if the event is one being sent. -/
def frame? : Event → Option Bytes
  | .sending _ frame => some frame
  | _ => none

/-- How much an event matters. -/
def level : Event → String
  | .reading .. | .writing .. => "DEBUG"
  | .sending .. => "TRACE"
  | .readFailed .. | .writeFailed .. => "WARN"

/-- What an event says. -/
def message : Event → String
  | .reading lenient .. => if lenient then "reading tags (detailed)" else "reading tags"
  | .writing lenient .. => if lenient then "writing tags (detailed)" else "writing tags"
  | .sending .. => "sending request"
  | .readFailed .. => "read failed"
  | .writeFailed .. => "write failed"

/-- The fields of an item's failure. -/
def failureFields (tag : Tag) (status : Status) : List (String × String) :=
  [("tag", tag.text), ("code", toString status.byte.toNat), ("status", status.text)]

/-- The data that an event carries, as named texts. -/
def fields : Event → List (String × String)
  | .reading _ tags items batches optimize =>
    [("tags", toString tags), ("items", toString items), ("batches", toString batches),
      ("optimize", if optimize then "true" else "false")]
  | .writing _ tags batches => [("tags", toString tags), ("batches", toString batches)]
  | .sending reference frame =>
    [("pdu_ref", toString reference.toNat), ("len", toString frame.length)]
  | .readFailed tag status => failureFields tag status
  | .writeFailed tag status => failureFields tag status

end Event

end S7Link
