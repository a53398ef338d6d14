import S7Link.Controller.Job
import S7Link.Controller.Memory
import S7Link.Reply.Entry
import S7Link.Session.Transport

/-!
# Controllers

What a controller does with the jobs that it gets. `Memory.fetch` and `Memory.replace` read and
write one item as its specification addresses it, by area code and bit address. `Controller.Serves`
says of any transport that it acts as a controller, whichever codes it puts in front of its
payloads. `Controller.answering` answers from a memory, with any way to tell the lengths of
payloads; `Controller.counting` is the one that counts most of them in bits.
-/

namespace S7Link

open Request

/-! ## Items as they are addressed -/

namespace Request.Specification

/-- The byte space that a specification addresses. -/
def region? (s : Specification) : Option Region := (Area.ofCode? s.area).map (⟨·, s.block⟩)

/-- The bytes of an element of the transfer. -/
def elementSize (s : Specification) : Nat :=
  match s.code with
  | 0x04 | 0x05 => 2
  | 0x06 | 0x07 | 0x08 => 4
  | _ => 1

/-- The bytes of an item. -/
def size (s : Specification) : Nat := s.count.toNat * s.elementSize

/-- Whether an item is one bit. -/
def isBit (s : Specification) : Bool := s.code == 0x01

/-- The offset of the first byte of an item. -/
def start (s : Specification) : Nat := s.address / 8

/-- The bit of that byte that the address points at. -/
def bit (s : Specification) : Nat := 7 - s.address % 8

end Request.Specification

namespace Memory

/-- The status of an access that a region has no bytes for. -/
def refusal (memory : Memory) (region : Region) : Status :=
  if (memory region).isSome then .outOfRange else .noBlock

/-- The bytes of an item, or the status of the failure. A bit is a byte of its own, 0 or 1. -/
def fetch (memory : Memory) (s : Specification) : Except Status Bytes :=
  match s.region? with
  | none => .error .noBlock
  | some region =>
    let found :=
      if s.isBit then
        (memory.bit? region s.start s.bit).map fun state => [if state then 1 else 0]
      else memory.bytes? region s.start s.size
    match found with
    | some bytes => .ok bytes
    | none => .error (memory.refusal region)

/-- Writes a payload to an item: the status and the memory afterwards. Of the payload of a bit only
whether it is zero matters. -/
def replace (memory : Memory) (s : Specification) (payload : Bytes) : Status × Memory :=
  match s.region? with
  | none => (.noBlock, memory)
  | some region =>
    let stored :=
      if s.isBit then memory.storeBit? region s.start s.bit (payload.head? != some 0)
      else memory.store? region s.start payload
    match stored with
    | some next => (.success, next)
    | none => (memory.refusal region, memory)

/-- Writes payloads to items, one after another: the statuses and the memory afterwards. -/
def replaceAll (memory : Memory) : List (Specification × Bytes) → List Status × Memory
  | [] => ([], memory)
  | (s, payload) :: rest =>
    let (status, next) := memory.replace s payload
    let (statuses, last) := next.replaceAll rest
    (status :: statuses, last)

end Memory

namespace Controller

/-! ## Answers -/

/-- The frame that answers a request without refusing it. -/
def answer (reference : UInt16) (function : UInt8) (count : Nat) (data : Bytes) : Bytes :=
  let header := Header.answer reference 2 (UInt16.ofNat data.length)
  Frame.wrap (header.write ++ [function, UInt8.ofNat count] ++ data)

/-- An entry tells what the memory holds at an item. -/
def Tells (memory : Memory) (s : Specification) (entry : Reply.Entry) : Prop :=
  match memory.fetch s with
  | .ok payload => entry.item = ⟨.success, payload⟩
  | .error _ => entry.item.status ≠ .success

/-- A read that has an answer: bits are asked for one by one, and the payloads of all items fit in
one frame. -/
structure Answerable (items : List Specification) : Prop where
  single : ∀ s ∈ items, s.isBit = true → s.count = 1
  short : replyOverhead + Frame.alignedLength (items.map fun s => itemHeaderSize + s.size) < 65536

/-- A transport acts as a controller whose memory is that of its state: reads are answered by
entries that tell what the memory holds and leave it as it is, writes are carried out in order. -/
structure Serves {σ : Type} (transport : Transport σ) (memory : σ → Memory) : Prop where
  read : ∀ (state : σ) (frame : Bytes) (reference : UInt16) (items : List Specification),
    Job.read? frame = some (reference, .read items) → Answerable items →
      memory (transport state frame).2 = memory state ∧
      ∃ entries : List Reply.Entry, (∀ p ∈ items.zip entries, Tells (memory state) p.1 p.2) ∧
        Reply.Entry.AnswerAll (items.map Specification.size) entries ∧
        (transport state frame).1 =
          .ok (answer reference readFunction items.length (entries.flatMap Reply.Entry.bytes))
  write : ∀ (state : σ) (frame : Bytes) (reference : UInt16) (items : List (Specification × Bytes)),
    Job.read? frame = some (reference, .write items) →
      let (statuses, after) := (memory state).replaceAll items
      memory (transport state frame).2 = after ∧
        (transport state frame).1 =
          .ok (answer reference writeFunction items.length (statuses.map Status.byte))

/-! ## Controllers that answer from a memory -/

/-- What stands in front of a payload, from the code of its item and the number of its bytes: a code
for the unit of the length, and the length. -/
abbrev ItemHeader := UInt8 → Nat → UInt8 × UInt16

/-- The entry for an item. -/
def entry (header : ItemHeader) (memory : Memory) (s : Specification) (isLast : Bool) :
    Reply.Entry :=
  match memory.fetch s with
  | .ok payload =>
    let (code, length) := header s.code payload.length
    .success code length payload (List.replicate (if isLast then 0 else payload.length % 2) 0)
  | .error status => .failure status [0, 0, 0]

/-- The entries for items. -/
def entries (header : ItemHeader) (memory : Memory) : List Specification → List Reply.Entry
  | [] => []
  | s :: rest => entry header memory s rest.isEmpty :: entries header memory rest

/-- The controller that answers what is a request and nothing else. -/
def answering (header : ItemHeader) : Transport Memory := fun memory frame =>
  match Job.read? frame with
  | none => (.error .timeout, memory)
  | some (reference, .read items) =>
    let data := (entries header memory items).flatMap Reply.Entry.bytes
    (.ok (answer reference readFunction items.length data), memory)
  | some (reference, .write items) =>
    let (statuses, next) := memory.replaceAll items
    (.ok (answer reference writeFunction items.length (statuses.map Status.byte)), next)

/-- The code and the length in front of the payload of an item: bits are counted one by one,
floating-point numbers in bytes, and all else in bits of whole bytes. The length is kept modulo
65536. -/
def announce : ItemHeader := fun code size =>
  match code with
  | 0x01 => (0x03, 1)
  | 0x05 | 0x07 => (0x05, UInt16.ofNat (8 * size))
  | 0x08 => (0x07, UInt16.ofNat size)
  | _ => (0x04, UInt16.ofNat (8 * size))

/-- The controller that counts most payloads in bits. -/
def counting : Transport Memory := answering announce

end Controller

end S7Link
