import S7Link.Fault

/-!
# Transports

A transport sends the frame of a request and gives the frame that answers it, or a fault. What it
remembers from one exchange to the next is its state. `Transport.replay` is the transport
that answers from a list of recordings: frames, to which the reference of the request is copied
unless they are to be kept as they are, and faults. When the recordings are used up, no answer
comes. A traced transport keeps what it was handed and what it gave in return, apart from anything
that a session writes into its journal.
-/

namespace S7Link

/-- A way to have requests answered, with states of type `σ`. -/
abbrev Transport (σ : Type) := σ → Bytes → Except Fault Bytes × σ

/-- The answers to requests that are sent one after another, and the state afterwards. -/
def Transport.exchangeAll {σ : Type} (transport : Transport σ) (state : σ) :
    List Bytes → List (Except Fault Bytes) × σ
  | [] => ([], state)
  | frame :: frames =>
    let (received, next) := transport state frame
    let (others, last) := transport.exchangeAll next frames
    (received :: others, last)

theorem Transport.exchangeAll_cons {σ : Type} (transport : Transport σ) (state : σ) (frame : Bytes)
    (frames : List Bytes) :
    transport.exchangeAll state (frame :: frames) =
      ((transport state frame).1 :: (transport.exchangeAll (transport state frame).2 frames).1,
        (transport.exchangeAll (transport state frame).2 frames).2) := rfl

/-- The answer that a replay gives to one request. -/
inductive Recording where
  /-- A frame that gets the reference of the request. -/
  | echo (frame : Bytes)
  /-- A frame as it stands. -/
  | verbatim (frame : Bytes)
  /-- No frame. -/
  | fault (cause : Fault)

namespace Recording

/-- A frame with the reference of a request, if it is long enough to have one. -/
def withReferenceOf (request frame : Bytes) : Bytes :=
  if frame.length < 13 then frame
  else frame.take 11 ++ (request.drop 11).take 2 ++ frame.drop 13

/-- What a recording answers to a request. -/
def answer (request : Bytes) : Recording → Except Fault Bytes
  | .echo frame => .ok (withReferenceOf request frame)
  | .verbatim frame => .ok frame
  | .fault cause => .error cause

end Recording

/-- The transport that answers each request with the next recording. -/
def Transport.replay : Transport (List Recording)
  | [], _ => (.error .timeout, [])
  | recording :: rest, request => (recording.answer request, rest)

/-! ## Traces -/

/-- A request that was handed to a transport, and what the transport gave. -/
structure Exchange where
  request : Bytes
  received : Except Fault Bytes

/-- The same transport with a trace, the latest exchange first. -/
def Transport.traced {σ : Type} (transport : Transport σ) : Transport (σ × List Exchange) :=
  fun (state, trace) request =>
    let (received, next) := transport state request
    (received, next, ⟨request, received⟩ :: trace)

end S7Link
