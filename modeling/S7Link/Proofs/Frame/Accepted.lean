import S7Link.Proofs.Frame.Sections
import S7Link.Proofs.Outcome

/-!
# Which envelopes and headers are accepted

A frame has a unit in its envelope, and a unit a header at its front, if and only if the bytes are
those that would be written, apart from the reserved ones, which are not looked at. A frame or unit
that is too short is refused for that alone. For a header it is enough that the unit opens with the
protocol byte and is long enough (`Header.exists_read_iff`).
-/

namespace S7Link

open Outcome

/-! ## Envelopes -/

namespace Frame

theorem exists_of_envelopeSize_le {frame : Bytes} (long : envelopeSize ≤ frame.length) :
    ∃ version reserved high low c₁ c₂ c₃ unit,
      frame = version :: reserved :: high :: low :: c₁ :: c₂ :: c₃ :: unit := by
  match frame, long with
  | version :: reserved :: high :: low :: c₁ :: c₂ :: c₃ :: unit, _ =>
    exact ⟨version, reserved, high, low, c₁, c₂, c₃, unit, rfl⟩

theorem unwrap_of_lt {frame : Bytes} (short : frame.length < envelopeSize) :
    unwrap frame = .error (.frameTooShort frame.length) := by
  unfold unwrap
  split
  · exact absurd short (Nat.not_lt_of_le (Nat.le_add_left envelopeSize _))
  · rfl

/-- A frame has a unit in its envelope if the envelope tells the length of the frame and announces a
data transfer. -/
theorem unwrap_eq_ok_iff {frame unit : Bytes} :
    unwrap frame = .ok unit ↔
      ∃ reserved high low,
        frame = envelopeVersion :: reserved :: high :: low :: (dataTransfer ++ unit) ∧
          BigEndian.read [high, low] = frame.length := by
  rcases Nat.lt_or_ge frame.length envelopeSize with short | long
  · rw [unwrap_of_lt short]
    refine ⟨nofun, ?_⟩
    rintro ⟨_, _, _, rfl, _⟩
    exact absurd short (Nat.not_lt_of_le (Nat.le_add_left envelopeSize _))
  · obtain ⟨version, reserved, high, low, c₁, c₂, c₃, rest, rfl⟩ := exists_of_envelopeSize_le long
    unfold unwrap
    dsimp only
    rw [ite_error_eq_ok_iff, ite_error_eq_ok_iff, ite_error_eq_ok_iff, Decidable.not_not,
      Decidable.not_not, Decidable.not_not, Except.ok.injEq]
    constructor
    · rintro ⟨rfl, declared, announced, rfl⟩
      exact ⟨reserved, high, low, by rw [← announced]; rfl, declared⟩
    · rintro ⟨_, _, _, same, declared⟩
      cases same
      exact ⟨rfl, declared, rfl, rfl⟩

end Frame

/-! ## Headers -/

namespace Header

/-- The bytes of a header between which the two reserved ones may be any. -/
def writeWith (header : Header) (x y : UInt8) : Bytes :=
  [protocolId, header.kind, x, y] ++ BigEndian.ofWord header.reference ++
    BigEndian.ofWord header.parameterLength ++ BigEndian.ofWord header.dataLength ++
    if header.kind = answerKind then [header.errorClass, header.errorCode] else []

theorem length_writeWith (header : Header) (x y : UInt8) :
    (header.writeWith x y).length = header.size := by
  unfold writeWith size
  split <;> rfl

/-- Whatever the reserved bytes are, the header is read. -/
theorem read_writeWith {header : Header} (x y : UInt8) (rest : Bytes)
    (kept : header.kind = answerKind ∨ header.errorClass = 0 ∧ header.errorCode = 0) :
    read (header.writeWith x y ++ rest) = .ok header := by
  -- the reserved bytes are skipped, so they may as well be those that are written
  have ignored : read (header.writeWith x y ++ rest) = read (header.write ++ rest) := by
    obtain ⟨r₁, r₂, reference, _, _⟩ := BigEndian.ofWord_eq header.reference
    obtain ⟨p₁, p₂, parameterLength, _, _⟩ := BigEndian.ofWord_eq header.parameterLength
    obtain ⟨d₁, d₂, dataLength, _, _⟩ := BigEndian.ofWord_eq header.dataLength
    rw [writeWith, write, reference, parameterLength, dataLength]
    rfl
  rw [ignored, read_write rest kept]

theorem exists_of_ten_le {unit : Bytes} (long : 10 ≤ unit.length) :
    ∃ id kind x y r₁ r₂ p₁ p₂ d₁ d₂ rest,
      unit = id :: kind :: x :: y :: r₁ :: r₂ :: p₁ :: p₂ :: d₁ :: d₂ :: rest := by
  match unit, long with
  | id :: kind :: x :: y :: r₁ :: r₂ :: p₁ :: p₂ :: d₁ :: d₂ :: rest, _ =>
    exact ⟨id, kind, x, y, r₁, r₂, p₁, p₂, d₁, d₂, rest, rfl⟩

theorem read_of_lt {unit : Bytes} (short : unit.length < 10) :
    read unit = .error (.headerTooShort unit.length) := by
  unfold read
  split
  · exact absurd short (Nat.not_lt_of_le (Nat.le_add_left 10 _))
  · rfl

/-- A header that is found at the front of a unit is written as these bytes. -/
theorem exists_of_read {unit : Bytes} {header : Header} (found : read unit = .ok header) :
    ∃ x y rest, unit = header.writeWith x y ++ rest := by
  rcases Nat.lt_or_ge unit.length 10 with short | long
  · rw [read_of_lt short] at found
    cases found
  · obtain ⟨id, kind, x, y, r₁, r₂, p₁, p₂, d₁, d₂, rest, rfl⟩ := exists_of_ten_le long
    unfold read at found
    dsimp only at found
    obtain ⟨opened, found⟩ := ite_error_eq_ok_iff.mp found
    obtain rfl := Decidable.not_not.mp opened
    refine ⟨x, y, ?_⟩
    by_cases isAnswer : kind = answerKind
    · rw [if_neg (fun other => other isAnswer)] at found
      match rest, found with
      | errorClass :: errorCode :: rest, rfl =>
        refine ⟨rest, ?_⟩
        rw [writeWith, if_pos isAnswer, (BigEndian.ofWord_toWord r₁ r₂).1,
          (BigEndian.ofWord_toWord p₁ p₂).1, (BigEndian.ofWord_toWord d₁ d₂).1]
        rfl
    · rw [if_pos isAnswer] at found
      obtain rfl := Except.ok.inj found
      refine ⟨rest, ?_⟩
      rw [writeWith, if_neg isAnswer, (BigEndian.ofWord_toWord r₁ r₂).1,
        (BigEndian.ofWord_toWord p₁ p₂).1, (BigEndian.ofWord_toWord d₁ d₂).1]
      rfl

/-- The first two bytes of a unit are the protocol byte and the kind of the header. -/
theorem opens_of_read {unit : Bytes} {header : Header} (found : read unit = .ok header) :
    unit[0]? = some protocolId ∧ unit[1]? = some header.kind := by
  obtain ⟨x, y, rest, rfl⟩ := exists_of_read found
  exact ⟨rfl, rfl⟩

/-- All bytes of a header that is read stand in the unit. -/
theorem size_le_of_read {unit : Bytes} {header : Header} (found : read unit = .ok header) :
    header.size ≤ unit.length := by
  obtain ⟨x, y, rest, rfl⟩ := exists_of_read found
  simp only [List.length_append, length_writeWith]
  omega

/-- A unit is refused for its length or for the byte that opens it, and the fault tells which length
or byte that was. It is looked at in this order: whether any header has room, whether the unit opens
as it should, and whether the header of an answer has room. -/
theorem read_eq_error_iff {unit : Bytes} {cause : Malformation} :
    read unit = .error cause ↔
      unit.length < 10 ∧ cause = .headerTooShort unit.length ∨
        10 ≤ unit.length ∧
          ((∃ id, unit[0]? = some id ∧ id ≠ protocolId ∧ cause = .protocolId id) ∨
            unit[0]? = some protocolId ∧ unit[1]? = some answerKind ∧ unit.length < 12 ∧
              cause = .answerHeaderTooShort unit.length) := by
  rcases Nat.lt_or_ge unit.length 10 with short | long
  · have notLong : ¬10 ≤ unit.length := Nat.not_le_of_lt short
    simp [read_of_lt short, short, notLong, eq_comm]
  · have notShort : ¬unit.length < 10 := Nat.not_lt_of_le long
    simp only [notShort, long, false_and, true_and, false_or]
    clear notShort
    obtain ⟨id, kind, x, y, r₁, r₂, p₁, p₂, d₁, d₂, rest, rfl⟩ := exists_of_ten_le long
    unfold read
    dsimp only
    by_cases opened : id = protocolId
    · by_cases isAnswer : kind = answerKind
      · match rest with
        | [] => simp [opened, isAnswer, eq_comm]
        | [_] => simp [opened, isAnswer, eq_comm]
        | errorClass :: errorCode :: rest => simp +arith [opened, isAnswer]
      · simp [opened, isAnswer]
    · simp [opened, eq_comm]

/-- A header is read if the unit opens with the protocol byte and is as long as its second byte asks
for. -/
theorem exists_read_iff {unit : Bytes} :
    (∃ header, read unit = .ok header) ↔
      unit[0]? = some protocolId ∧
        (if unit[1]? = some answerKind then 12 else 10) ≤ unit.length := by
  constructor
  · intro given
    obtain ⟨header, found⟩ := given
    obtain ⟨opened, kind⟩ := opens_of_read found
    have room := size_le_of_read found
    simp only [size] at room
    simp only [opened, kind, Option.some.injEq]
    exact ⟨trivial, room⟩
  · intro given
    obtain ⟨opened, room⟩ := given
    cases found : read unit with
    | ok header => exact ⟨header, rfl⟩
    | error cause =>
      exfalso
      rcases read_eq_error_iff.mp found with
        ⟨short, _⟩ | ⟨_, ⟨id, isFirst, other, _⟩ | ⟨_, isAnswer, short, _⟩⟩
      · split at room <;> omega
      · rw [isFirst] at opened
        exact other (Option.some.inj opened)
      · rw [if_pos isAnswer] at room
        omega

end Header

end S7Link
