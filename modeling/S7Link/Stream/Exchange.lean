import S7Link.Fault
import S7Link.Frame.Basic
import S7Link.Stream.Script

/-!
# Exchanges over a byte stream

One exchange writes a request in full, flushes, and reads one frame: four bytes that tell its length
and then the rest of it. Calls that were interrupted are made again; any other failure ends the
exchange. A stream that takes no bytes, or that ends before a frame does, has failed too.
-/

namespace S7Link

namespace Failure

/-- Whether a call that failed in this way is made again. -/
def isTransient (failure : Failure) : Bool := failure.kind = .interrupted

/-- The fault of an exchange that a failure has ended. -/
def fault (failure : Failure) : Fault :=
  match failure.kind with
  | .wouldBlock | .timedOut => .timeout
  | _ => .connection failure.text

end Failure

namespace Stream

/-- The fault of a stream that takes no more bytes. -/
def writeStalled : Fault := .connection "failed to write whole buffer"

/-- The fault of a stream that ends too early. -/
def readEnded : Fault := .connection "failed to fill whole buffer"

/-- Writes bytes against a queue of outcomes: the fault that ended it, the outcomes left and the
bytes taken. -/
def writeTo : List Acceptance → Bytes → Except Fault Unit × List Acceptance × Bytes
  | queue, [] => (.ok (), queue, [])
  | [], bytes => (.ok (), [], bytes)
  | .upTo 0 :: queue, _ :: _ => (.error writeStalled, queue, [])
  | .upTo (count + 1) :: queue, bytes =>
    let (result, left, taken) := writeTo queue (bytes.drop (count + 1))
    (result, left, bytes.take (count + 1) ++ taken)
  | .failure cause :: queue, bytes =>
    if cause.isTransient then writeTo queue bytes else (.error cause.fault, queue, [])

/-- Writes all bytes. -/
def writeAll (stream : Stream) (bytes : Bytes) : Except Fault Unit × Stream :=
  let (result, writes, taken) := writeTo stream.writes bytes
  (result, { stream with writes, written := stream.written ++ taken })

/-- Makes the stream pass on what it has taken. -/
def flush (stream : Stream) : Except Fault Unit × Stream :=
  match stream.flushes with
  | [] => (.ok (), stream)
  | cause :: flushes => (.error cause.fault, { stream with flushes })

/-- Reads `count` bytes from a queue of outcomes: the bytes or the fault that ended it, and the
outcomes left. A fault loses the bytes before it. -/
def readFrom : List Arrival → Nat → Except Fault Bytes × List Arrival
  | queue, 0 => (.ok [], queue)
  | [], _ + 1 => (.error readEnded, [])
  | .data [] :: queue, _ + 1 => (.error readEnded, queue)
  | .data (b :: bytes) :: queue, count + 1 =>
    let available := b :: bytes
    if count + 1 < available.length then
      (.ok (available.take (count + 1)), .data (available.drop (count + 1)) :: queue)
    else
      let (result, left) := readFrom queue (count + 1 - available.length)
      (result.map (available ++ ·), left)
  | .failure cause :: queue, count + 1 =>
    if cause.isTransient then readFrom queue (count + 1) else (.error cause.fault, queue)

/-- Reads `count` bytes. -/
def readExact (stream : Stream) (count : Nat) : Except Fault Bytes × Stream :=
  let (result, reads) := readFrom stream.reads count
  (result, { stream with reads })

/-- The number of bytes that tell the length of a frame. -/
def frontSize : Nat := 4

/-- The length of the frame that opens with the given bytes. -/
def frameLength (front : Bytes) : Except Malformation Nat :=
  let declared := BigEndian.read (front.drop 2)
  match front with
  | version :: _ =>
    if version ≠ Frame.envelopeVersion then .error (.envelopeVersion version)
    else if declared < frontSize then .error (.envelopeLengthTooSmall declared)
    else .ok declared
  | [] => .error (.frameTooShort 0)

/-- Reads one frame. -/
def readFrame (stream : Stream) : Except Fault Bytes × Stream :=
  match stream.readExact frontSize with
  | (.error fault, stream) => (.error fault, stream)
  | (.ok front, stream) =>
    match frameLength front with
    | .error cause => (.error (.malformed cause), stream)
    | .ok length =>
      match stream.readExact (length - frontSize) with
      | (.error fault, stream) => (.error fault, stream)
      | (.ok rest, stream) => (.ok (front ++ rest), stream)

/-- Sends a request and reads the frame that answers it. -/
def exchange (stream : Stream) (request : Bytes) : Except Fault Bytes × Stream :=
  match stream.writeAll request with
  | (.error fault, stream) => (.error fault, stream)
  | (.ok (), stream) =>
    match stream.flush with
    | (.error fault, stream) => (.error fault, stream)
    | (.ok (), stream) => stream.readFrame

end Stream

end S7Link
