import S7Link.Request.Write

/-!
# What a request asks for

A controller takes a request apart by what it declares: the header tells the lengths of the two
sections, the parameter section the function and the number of items, and each payload of a write
its own length. `Job.read?` gives what is asked for only if nothing is missing and nothing is left
over.
-/

namespace S7Link

open Request

/-- What a request asks a controller to do. -/
inductive Job where
  /-- To read the items that are addressed. -/
  | read (items : List Specification)
  /-- To write payloads to the items that are addressed. -/
  | write (items : List (Specification × Bytes))
deriving DecidableEq, Repr

namespace Job

/-! ## Item specifications -/

/-- Takes an item specification from the front of a parameter section; gives it with the bytes
behind it. -/
def takeSpecification? : Bytes → Option (Specification × Bytes)
  | 0x12 :: 0x0A :: 0x10 :: code :: c₁ :: c₂ :: b₁ :: b₂ :: area :: a₁ :: a₂ :: a₃ :: rest =>
    some
      ({ code, count := BigEndian.toWord c₁ c₂, block := BigEndian.toWord b₁ b₂, area
         address := BigEndian.read [a₁, a₂, a₃] }, rest)
  | _ => none

/-- The specifications of a number of items. -/
def readSpecifications? : Nat → Bytes → Option (List Specification)
  | 0, bytes => if bytes = [] then some [] else none
  | count + 1, bytes => do
    let (specification, rest) ← takeSpecification? bytes
    return specification :: (← readSpecifications? count rest)

/-! ## Payloads -/

/-- The number of bytes of a payload, from the code for the unit of its length and the length. -/
def payloadSize (code : UInt8) (length : Nat) : Nat :=
  if 0x03 ≤ code ∧ code ≤ 0x05 then (length + 7) / 8 else length

/-- Takes a payload with its header and its fill byte from the front of a data section; gives it
with the bytes behind them. -/
def takePayload? (isLast : Bool) : Bytes → Option (Bytes × Bytes)
  | _ :: code :: high :: low :: body =>
    let size := payloadSize code (BigEndian.read [high, low])
    let used := if isLast then size else size + size % 2
    if used ≤ body.length then some (body.take size, body.drop used) else none
  | _ => none

/-- The payloads of a number of items. -/
def readPayloads? : Nat → Bytes → Option (List Bytes)
  | 0, bytes => if bytes = [] then some [] else none
  | count + 1, bytes => do
    let (payload, rest) ← takePayload? (count == 0) bytes
    return payload :: (← readPayloads? count rest)

/-! ## Requests -/

/-- What the two sections of a request ask for. -/
def ofSections? (parameters data : Bytes) : Option Job :=
  match parameters with
  | function :: count :: specifications => do
    let items ← readSpecifications? count.toNat specifications
    if function = readFunction then if data = [] then some (.read items) else none
    else if function = writeFunction then
      return .write (items.zip (← readPayloads? count.toNat data))
    else none
  | _ => none

/-- The reference of a request and what it asks for. -/
def read? (frame : Bytes) : Option (UInt16 × Job) := do
  let unit ← (Frame.unwrap frame).toOption
  let header ← (Header.read unit).toOption
  let parameterLength := header.parameterLength.toNat
  if header.kind = Header.jobKind ∧
      header.size + parameterLength + header.dataLength.toNat = unit.length then
    let sections := unit.drop header.size
    let job ← ofSections? (sections.take parameterLength) (sections.drop parameterLength)
    return (header.reference, job)
  else none

end Job

end S7Link
