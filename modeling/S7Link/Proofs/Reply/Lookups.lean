import S7Link.Reply.Basic
import S7Link.Proofs.Frame.Accepted

/-!
# Reading by offsets

Bytes can also be read by their offsets, where each offset has to lie within what is there. A
`Lookup` that leaves the bytes comes to nothing at all, which is another thing than to refuse them
as malformed. Read in this way, an answer comes to the same as before (`Lookup.reply_eq`): the
checks that are made on the way keep every offset within the bytes.
-/

namespace S7Link

/-- A computation that looks bytes up by their offsets: nothing if an offset lies outside them, and
otherwise a result or what is wrong with them. -/
abbrev Lookup := ExceptT Malformation Option

namespace Lookup

variable {α β : Type}

/-- The byte at an offset. -/
def byte (bytes : Bytes) (offset : Nat) : Lookup UInt8 := liftM bytes[offset]?

/-- The word at an offset. -/
def word (bytes : Bytes) (offset : Nat) : Lookup UInt16 := do
  let high ← byte bytes offset
  let low ← byte bytes (offset + 1)
  return BigEndian.toWord high low

/-- The bytes from one offset up to another. -/
def slice (bytes : Bytes) (start stop : Nat) : Lookup Bytes :=
  liftM (if start ≤ stop ∧ stop ≤ bytes.length then some ((bytes.take stop).drop start) else none)

/-- The data unit of a frame. -/
def unit (frame : Bytes) : Lookup Bytes :=
  if frame.length < Frame.envelopeSize then throw (.frameTooShort frame.length)
  else do
    let version ← byte frame 0
    if version ≠ Frame.envelopeVersion then throw (.envelopeVersion version)
    else
      let high ← byte frame 2
      let low ← byte frame 3
      let declared := BigEndian.read [high, low]
      if declared ≠ frame.length then throw (.envelopeLength declared frame.length)
      else
        let announced ← slice frame 4 Frame.envelopeSize
        if announced ≠ Frame.dataTransfer then throw .notData
        else slice frame Frame.envelopeSize frame.length

/-- The error class and the error code behind the header of an answer. -/
def errors (unit : Bytes) (kind : UInt8) : Lookup (UInt8 × UInt8) :=
  if kind = Header.answerKind then
    if unit.length < 12 then throw (.answerHeaderTooShort unit.length)
    else do
      let errorClass ← byte unit 10
      let errorCode ← byte unit 11
      return (errorClass, errorCode)
  else return (0, 0)

/-- The header at the front of a data unit. -/
def header (unit : Bytes) : Lookup Header :=
  if unit.length < 10 then throw (.headerTooShort unit.length)
  else do
    let id ← byte unit 0
    if id ≠ Header.protocolId then throw (.protocolId id)
    else
      let kind ← byte unit 1
      let (errorClass, errorCode) ← errors unit kind
      let reference ← word unit 4
      let parameterLength ← word unit 6
      let dataLength ← word unit 8
      return { kind, reference, parameterLength, dataLength, errorClass, errorCode }

/-- The answer that a frame holds. -/
def reply (frame : Bytes) : Lookup Reply := do
  let unit ← unit frame
  let header ← header unit
  if header.kind ≠ Header.answerKind then throw (.notAnswer header.kind)
  else
    let start := header.size + header.parameterLength.toNat
    let stop := start + header.dataLength.toNat
    if stop ≠ unit.length then throw (.sectionsTooLong stop unit.length)
    else
      let parameters ← slice unit header.size start
      let (function, itemCount) ← liftM (Reply.readParameters parameters)
      let data ← slice unit start stop
      return { header, function, itemCount, data }

/-! ## Offsets that lie within -/

theorem byte_cons_zero (b : UInt8) (bytes : Bytes) : byte (b :: bytes) 0 = pure b := rfl

theorem byte_cons_succ (b : UInt8) (bytes : Bytes) (offset : Nat) :
    byte (b :: bytes) (offset + 1) = byte bytes offset := rfl

theorem slice_eq {bytes : Bytes} {start stop : Nat} (ordered : start ≤ stop)
    (within : stop ≤ bytes.length) :
    slice bytes start stop = pure ((bytes.take stop).drop start) := by
  rw [slice, if_pos ⟨ordered, within⟩]
  rfl

/-- A look-up stays within the bytes behind a check if it does so whenever the check is passed. -/
theorem ite_throw_eq {refused : Prop} [Decidable refused] {cause : Malformation}
    {lookup : Lookup α} {result : Except Malformation α}
    (within : ¬refused → lookup = liftM result) :
    (if refused then throw cause else lookup) =
      (liftM (if refused then .error cause else result) : Lookup α) := by
  split
  · rfl
  · next passed => exact within passed

/-- Two look-ups in a row stay within the bytes if the second does so after whatever the first
gives. -/
theorem bind_eq {first : Lookup α} {next : α → Lookup β} {result : Except Malformation α}
    {after : α → Except Malformation β} (within : first = liftM result)
    (later : ∀ a, result = .ok a → next a = liftM (after a)) :
    first >>= next = (liftM (result >>= after) : Lookup β) := by
  rw [within]
  cases result with
  | error cause => rfl
  | ok a => exact later a rfl

/-! ## Reading stays within -/

theorem unit_eq (frame : Bytes) : unit frame = liftM (Frame.unwrap frame) := by
  unfold unit
  rcases Nat.lt_or_ge frame.length Frame.envelopeSize with short | long
  · rw [if_pos short, Frame.unwrap_of_lt short]
    rfl
  · rw [if_neg (Nat.not_lt_of_le long), slice_eq (by decide) long, slice_eq long (Nat.le_refl _),
      List.take_length]
    obtain ⟨version, reserved, high, low, c₁, c₂, c₃, unit, rfl⟩ :=
      Frame.exists_of_envelopeSize_le long
    simp only [byte_cons_zero, byte_cons_succ, pure_bind]
    exact ite_throw_eq fun _ => ite_throw_eq fun _ => ite_throw_eq fun _ => rfl

theorem header_eq (unit : Bytes) : header unit = liftM (Header.read unit) := by
  unfold header
  rcases Nat.lt_or_ge unit.length 10 with short | long
  · rw [if_pos short, Header.read_of_lt short]
    rfl
  · rw [if_neg (Nat.not_lt_of_le long)]
    obtain ⟨id, kind, x, y, r₁, r₂, p₁, p₂, d₁, d₂, rest, rfl⟩ := Header.exists_of_ten_le long
    simp only [word, byte_cons_zero, byte_cons_succ, pure_bind]
    refine ite_throw_eq fun _ => ?_
    by_cases isAnswer : kind = Header.answerKind
    · rw [if_neg (fun other => other isAnswer), errors, if_pos isAnswer]
      match rest with
      | [] => rfl
      | [_] => rfl
      | e₁ :: e₂ :: rest =>
        have complete : 12 ≤ (id :: kind :: x :: y :: r₁ :: r₂ :: p₁ :: p₂ :: d₁ :: d₂ :: e₁ ::
            e₂ :: rest).length := Nat.le_add_left 12 _
        rw [if_neg (Nat.not_lt_of_le complete)]
        rfl
    · rw [if_pos isAnswer, errors, if_neg isAnswer]
      rfl

theorem reply_eq (frame : Bytes) : reply frame = liftM (Reply.read frame) := by
  refine bind_eq (unit_eq frame) fun unit _ => bind_eq (header_eq unit) fun header _ => ?_
  refine ite_throw_eq fun _ => ite_throw_eq fun declared => ?_
  have fill := Decidable.not_not.mp declared
  have parameters := slice_eq (Nat.le_add_right header.size header.parameterLength.toNat)
    (fill ▸ Nat.le_add_right _ _)
  have data := slice_eq (Nat.le_add_right (header.size + header.parameterLength.toNat)
    header.dataLength.toNat) (Nat.le_of_eq fill)
  rw [List.drop_take, Nat.add_sub_cancel_left] at parameters
  rw [fill, List.take_length, ← List.drop_drop] at data
  rw [parameters, pure_bind]
  refine bind_eq rfl fun (function, itemCount) _ => ?_
  dsimp only
  rw [fill, data]
  rfl

end Lookup

end S7Link
