import S7Link.Plan.Batching
import S7Link.Reply.Basic
import S7Link.Session.Event
import S7Link.Session.Transport

/-!
# Sessions

A session sends the requests of its calls over one transport. Each request gets the next reference,
whether or not it is answered, and references start again at 0 after 65535. An answer counts only if
it carries the reference of the request that was sent right before it.

`Session.run` is the loop of every call: one request for each batch in order, up to the first that
fails.
-/

namespace S7Link

/-- The number of the TCP endpoint at which controllers accept connections. -/
def Session.defaultEndpoint : Nat := 102

/-- How long an answer may take, in milliseconds, if nothing else was asked for. -/
def Session.defaultTimeout : Nat := 2000

/-- What a session was set up with. -/
structure Session.Config where
  pduSize : UInt16
  maxItems : Nat
  /-- Whether neighbouring tags are read as one range of bytes. -/
  optimize : Bool
deriving DecidableEq, Repr

namespace Session.Config

/-- The PDU size that is used if none was negotiated. -/
def defaultPduSize : UInt16 := 240

/-- As many items as a request can have, with neighbouring tags read together. -/
def ofPduSize (pduSize : UInt16) : Config := ⟨pduSize, Request.maxItems, true⟩

/-- The set-up with a number of items that a request can have. -/
def withMaxItems (config : Config) (count : Nat) : Config :=
  { config with maxItems := Plan.clampItems count }

/-- The limits that the plans of a session keep to. -/
def limits (config : Config) : Plan.Limits :=
  (Plan.Limits.ofPduSize config.pduSize).withMaxItems config.maxItems

end Session.Config

/-- A session over a transport with states of type `σ`. -/
structure Session (σ : Type) where
  config : Session.Config
  /-- The state of the transport. -/
  peer : σ
  /-- The reference of the next request. -/
  nextReference : UInt16
  /-- What has happened, the latest event first. -/
  journal : List Event

namespace Session

variable {σ : Type}

/-- A new session. -/
def start (config : Config) (peer : σ) : Session σ := ⟨config, peer, 1, []⟩

/-- The session with events added to its journal, in the order given. -/
def record (session : Session σ) (events : List Event) : Session σ :=
  { session with journal := events.reverse ++ session.journal }

/-- Sends a frame under a reference and reads the answer to it. -/
def exchange (transport : Transport σ) (session : Session σ) (reference : UInt16) (frame : Bytes) :
    Except Fault Reply × Session σ :=
  let session := session.record [.sending reference frame]
  let (received, peer) := transport session.peer frame
  let reply := do
    let reply ← (Reply.read (← received)).mapError .malformed
    reply.checkReference reference
    return reply
  (reply, { session with peer })

/-- What a call does with its batches: the frame of a batch, what it takes from the answer to it,
and what it writes down about that. -/
structure Procedure (β α : Type) where
  frame : β → UInt16 → Except Fault Bytes
  decode : β → Reply → Except Fault α
  events : α → List Event

/-- Handles one batch under the next reference. -/
def runBatch {β α : Type} (transport : Transport σ) (procedure : Procedure β α)
    (session : Session σ) (batch : β) : Except Fault α × Session σ :=
  let reference := session.nextReference
  let session := { session with nextReference := reference + 1 }
  match procedure.frame batch reference with
  | .error fault => (.error fault, session)
  | .ok frame =>
    match session.exchange transport reference frame with
    | (.error fault, session) => (.error fault, session)
    | (.ok reply, session) =>
      match procedure.decode batch reply with
      | .error fault => (.error fault, session)
      | .ok result => (.ok result, session.record (procedure.events result))

/-- Handles batches in order, up to the first that fails. -/
def run {β α : Type} (transport : Transport σ) (procedure : Procedure β α) :
    Session σ → List β → Except Fault (List α) × Session σ
  | session, [] => (.ok [], session)
  | session, batch :: batches =>
    match session.runBatch transport procedure batch with
    | (.error fault, session) => (.error fault, session)
    | (.ok result, session) =>
      let (results, session) := run transport procedure session batches
      (results.map (result :: ·), session)

end Session

end S7Link
