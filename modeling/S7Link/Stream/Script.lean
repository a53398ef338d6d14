import S7Link.Byte

/-!
# Byte streams

A byte stream takes and gives bytes in portions of its own choosing, and any call may fail. What a
stream will do is written down as three queues: the outcomes of its read, write and flush calls.
Once a queue is empty, a read finds the end of the stream, a write takes everything and a flush
succeeds. `Stream.unread` is what is left to read.
-/

namespace S7Link

/-- The kinds of failure that a stream distinguishes. -/
inductive FailureKind where
  | wouldBlock
  | timedOut
  | interrupted
  | connectionReset
  | brokenPipe
  | unexpectedEnd
  | other
deriving DecidableEq, Repr

/-- The failure of one call on a stream. -/
structure Failure where
  kind : FailureKind
  text : String
deriving DecidableEq, Repr

/-- The outcome of a read call: bytes that have arrived (none at the end of the stream), or a
failure. -/
inductive Arrival where
  | data (bytes : Bytes)
  | failure (cause : Failure)
deriving DecidableEq, Repr

/-- The outcome of a write call: the most bytes that it takes, or a failure. -/
inductive Acceptance where
  | upTo (count : Nat)
  | failure (cause : Failure)
deriving DecidableEq, Repr

/-- What a stream will do, and the bytes that it has taken so far. -/
structure Stream where
  reads : List Arrival
  writes : List Acceptance
  flushes : List Failure
  written : Bytes
deriving DecidableEq, Repr

namespace Stream

/-- The bytes that have arrived and were not read yet. -/
def unread (stream : Stream) : Bytes :=
  stream.reads.flatMap fun
    | .data bytes => bytes
    | .failure _ => []

end Stream

end S7Link
