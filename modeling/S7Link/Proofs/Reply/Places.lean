import S7Link.Proofs.Frame.Accepted
import S7Link.Proofs.Frame.Sections
import S7Link.Proofs.Reply.Lookups

/-!
# Which frames are answers

The frames that are read as answers are told by what stands at which place in them
(`Frame.HoldsAnswer`), and so is the answer that is read (`Reply.LaidOut`). On the way there the
frames are told as a whole (`Reply.Spells`): the bytes of the envelope and the header, and then the
two sections whose lengths the header tells.
-/

namespace S7Link

open Outcome

namespace BigEndian

/-- The bytes of a word denote it. -/
theorem read_ofWord (n : UInt16) : read (ofWord n) = n.toNat := by
  obtain ⟨_, _, written, back, _⟩ := ofWord_eq n
  rw [written, back]

/-- Words that are written the same are the same. -/
theorem eq_of_ofWord_eq {first second : UInt16} (same : ofWord first = ofWord second) :
    first = second := by
  apply UInt16.toNat_inj.mp
  rw [← read_ofWord, ← read_ofWord, same]

end BigEndian

/-! ## Places -/

/-- A frame holds an answer if it has the right bytes at the right places, and the lengths that it
tells of itself and of its sections fit each other. -/
structure Frame.HoldsAnswer (frame : Bytes) : Prop where
  long : 19 ≤ frame.length
  version : field frame 0 1 = [0x03]
  frameLength : number frame 2 = frame.length
  announced : field frame 4 3 = [0x02, 0xF0, 0x80]
  opened : field frame 7 2 = [0x32, 0x03]
  sections : 19 + number frame 13 + number frame 15 = frame.length
  /-- The parameter section does not end between the function and the item count. -/
  parameters : number frame 13 ≠ 1

namespace Reply

/-- What stands where in the frame of an answer. -/
structure LaidOut (reply : Reply) (frame : Bytes) : Prop where
  kind : reply.header.kind = 0x03
  /-- The reference, the lengths of the sections and the error, one behind the other. -/
  header : Frame.field frame 11 8 =
    BigEndian.ofWord reply.header.reference ++ BigEndian.ofWord reply.header.parameterLength ++
      BigEndian.ofWord reply.header.dataLength ++
      [reply.header.errorClass, reply.header.errorCode]
  named : Frame.number frame 13 ≠ 0 → Frame.field frame 19 2 = [reply.function, reply.itemCount]
  unnamed : Frame.number frame 13 = 0 → reply.function = 0 ∧ reply.itemCount = 0
  /-- The data stands at the end. -/
  data : reply.data <:+ frame
  length_data : reply.data.length = Frame.number frame 15

/-! ## Sections -/

theorem readParameters_eq_ok_iff {parameters : Bytes} {function itemCount : UInt8} :
    readParameters parameters = .ok (function, itemCount) ↔
      parameters = [] ∧ function = 0 ∧ itemCount = 0 ∨
        ∃ more, parameters = function :: itemCount :: more := by
  match parameters with
  | [] => simp [readParameters, eq_comm]
  | [b] => simp [readParameters]
  | b :: c :: more => simp [readParameters]

/-- A parameter section names a function unless it ends behind that. -/
theorem exists_of_length_ne_one {parameters : Bytes} (complete : parameters.length ≠ 1) :
    ∃ function itemCount, readParameters parameters = .ok (function, itemCount) := by
  match parameters, complete with
  | [], _ => exact ⟨0, 0, rfl⟩
  | [_], complete => exact absurd rfl complete
  | function :: itemCount :: _, _ => exact ⟨function, itemCount, rfl⟩

/-- A frame spells an answer if it is made of the header, some parameters and the data of the
answer, apart from the bytes that are reserved. -/
structure Spells (reply : Reply) (frame parameters : Bytes) : Prop where
  isAnswer : reply.header.kind = Header.answerKind
  unit : ∃ x y, Frame.unwrap frame =
    .ok (reply.header.writeWith x y ++ parameters ++ reply.data)
  length_parameters : parameters.length = reply.header.parameterLength.toNat
  length_data : reply.data.length = reply.header.dataLength.toNat
  named : readParameters parameters = .ok (reply.function, reply.itemCount)

/-- What is read as an answer spells it. -/
theorem exists_spells {frame : Bytes} {reply : Reply} (done : read frame = .ok reply) :
    ∃ parameters, reply.Spells frame parameters := by
  obtain ⟨unit, unwrapped, done⟩ := bind_eq_ok_iff.mp done
  obtain ⟨header, found, done⟩ := bind_eq_ok_iff.mp done
  obtain ⟨isAnswer, done⟩ := ite_error_eq_ok_iff.mp done
  obtain ⟨declared, done⟩ := ite_error_eq_ok_iff.mp done
  obtain ⟨⟨function, itemCount⟩, named, done⟩ := bind_eq_ok_iff.mp done
  obtain rfl := Except.ok.inj done
  obtain ⟨x, y, sections, rfl⟩ := Header.exists_of_read found
  have behind : (header.writeWith x y ++ sections).drop header.size = sections :=
    List.drop_left' (header.length_writeWith x y)
  have fill : header.parameterLength.toNat + header.dataLength.toNat = sections.length := by
    have length := Decidable.not_not.mp declared
    rw [List.length_append, header.length_writeWith x y, Nat.add_assoc] at length
    exact Nat.add_left_cancel length
  rw [behind] at named
  refine ⟨sections.take header.parameterLength.toNat, ?_⟩
  constructor
  case isAnswer => exact Decidable.not_not.mp isAnswer
  case unit =>
    refine ⟨x, y, ?_⟩
    dsimp only
    rw [unwrapped, behind, List.append_assoc, List.take_append_drop]
  case length_parameters => exact List.length_take_of_le (fill ▸ Nat.le_add_right ..)
  case length_data =>
    dsimp only
    rw [behind, List.length_drop, ← fill, Nat.add_sub_cancel_left]
  case named => exact named

/-- What spells an answer is read as it. -/
theorem Spells.read_eq {frame parameters : Bytes} {reply : Reply}
    (spells : reply.Spells frame parameters) : read frame = .ok reply := by
  obtain ⟨x, y, unwrapped⟩ := spells.unit
  rw [List.append_assoc] at unwrapped
  have behind : (reply.header.writeWith x y ++ (parameters ++ reply.data)).drop
      reply.header.size = parameters ++ reply.data :=
    List.drop_left' (reply.header.length_writeWith x y)
  have declared : reply.header.size + reply.header.parameterLength.toNat +
        reply.header.dataLength.toNat =
      (reply.header.writeWith x y ++ (parameters ++ reply.data)).length := by
    rw [List.length_append, List.length_append, Header.length_writeWith,
      spells.length_parameters, spells.length_data, Nat.add_assoc]
  refine bind_eq_ok_iff.mpr ⟨_, unwrapped, bind_eq_ok_iff.mpr ⟨reply.header, ?_, ?_⟩⟩
  · exact Header.read_writeWith x y _ (Or.inl spells.isAnswer)
  · refine ite_error_eq_ok_iff.mpr ⟨Decidable.not_not.mpr spells.isAnswer, ?_⟩
    refine ite_error_eq_ok_iff.mpr ⟨Decidable.not_not.mpr declared, ?_⟩
    dsimp only
    rw [behind, ← spells.length_parameters, List.take_left, List.drop_left]
    exact bind_eq_ok_iff.mpr ⟨_, spells.named, rfl⟩

/-! ## From the whole to the places -/

section

variable {frame : Bytes} {reply : Reply}

/-- The bytes of a frame that spells an answer, one by one up to the sections. -/
theorem Spells.exists_bytes {parameters : Bytes} (spells : reply.Spells frame parameters) :
    ∃ reserved high low x y r₁ r₂ p₁ p₂ d₁ d₂,
      frame = [0x03, reserved, high, low, 0x02, 0xF0, 0x80, 0x32, 0x03, x, y, r₁, r₂, p₁, p₂, d₁,
          d₂, reply.header.errorClass, reply.header.errorCode] ++ (parameters ++ reply.data) ∧
        BigEndian.read [high, low] = frame.length ∧
        BigEndian.ofWord reply.header.reference = [r₁, r₂] ∧
        BigEndian.ofWord reply.header.parameterLength = [p₁, p₂] ∧
        BigEndian.ofWord reply.header.dataLength = [d₁, d₂] := by
  obtain ⟨x, y, unwrapped⟩ := spells.unit
  obtain ⟨reserved, high, low, bytes, declared⟩ := Frame.unwrap_eq_ok_iff.mp unwrapped
  obtain ⟨r₁, r₂, reference, _, _⟩ := BigEndian.ofWord_eq reply.header.reference
  obtain ⟨p₁, p₂, parameterLength, _, _⟩ := BigEndian.ofWord_eq reply.header.parameterLength
  obtain ⟨d₁, d₂, dataLength, _, _⟩ := BigEndian.ofWord_eq reply.header.dataLength
  rw [Header.writeWith, if_pos spells.isAnswer, spells.isAnswer, reference, parameterLength,
    dataLength, List.append_assoc] at bytes
  exact ⟨reserved, high, low, x, y, r₁, r₂, p₁, p₂, d₁, d₂, bytes, declared, reference,
    parameterLength, dataLength⟩

/-- The lengths that stand in a frame are those of the sections. -/
theorem Spells.number_eq {parameters : Bytes} (spells : reply.Spells frame parameters) :
    Frame.number frame 13 = parameters.length ∧ Frame.number frame 15 = reply.data.length := by
  obtain ⟨_, _, _, _, _, _, _, p₁, p₂, d₁, d₂, bytes, _, _, parameterLength, dataLength⟩ :=
    spells.exists_bytes
  have parameterNumber : Frame.number frame 13 = BigEndian.read [p₁, p₂] := by
    rw [bytes]
    rfl
  have dataNumber : Frame.number frame 15 = BigEndian.read [d₁, d₂] := by
    rw [bytes]
    rfl
  rw [parameterNumber, dataNumber, ← parameterLength, ← dataLength, spells.length_parameters,
    spells.length_data]
  exact ⟨BigEndian.read_ofWord _, BigEndian.read_ofWord _⟩

/-- A frame that spells an answer has the right bytes at the right places. -/
theorem Spells.holdsAnswer {parameters : Bytes} (spells : reply.Spells frame parameters) :
    Frame.HoldsAnswer frame := by
  obtain ⟨_, high, low, _, _, _, _, _, _, _, _, bytes, declared, _⟩ := spells.exists_bytes
  obtain ⟨parameterNumber, dataNumber⟩ := spells.number_eq
  have length : frame.length = 19 + (parameters.length + reply.data.length) := by
    rw [bytes, List.length_append, List.length_append]
    rfl
  constructor
  case long => exact length ▸ Nat.le_add_right 19 _
  case version => rw [bytes]; rfl
  case frameLength =>
    rw [← declared, bytes]
    rfl
  case announced => rw [bytes]; rfl
  case opened => rw [bytes]; rfl
  case sections => rw [parameterNumber, dataNumber, length, Nat.add_assoc]
  case parameters =>
    rw [parameterNumber]
    intro truncated
    rcases readParameters_eq_ok_iff.mp spells.named with ⟨rfl, _⟩ | ⟨more, rfl⟩
    · cases truncated
    · cases truncated

/-- An answer has from the frame that spells it what stands there. -/
theorem Spells.laidOut {parameters : Bytes} (spells : reply.Spells frame parameters) :
    reply.LaidOut frame := by
  obtain ⟨_, _, _, _, _, _, _, _, _, _, _, bytes, _, reference, parameterLength, dataLength⟩ :=
    spells.exists_bytes
  obtain ⟨parameterNumber, dataNumber⟩ := spells.number_eq
  constructor
  case kind => exact spells.isAnswer
  case header => rw [reference, parameterLength, dataLength, bytes]; rfl
  case named =>
    intro some
    rcases readParameters_eq_ok_iff.mp spells.named with ⟨rfl, _⟩ | ⟨more, rfl⟩
    · exact absurd parameterNumber some
    · rw [bytes]
      rfl
  case unnamed =>
    intro none
    rw [parameterNumber] at none
    obtain rfl := List.length_eq_zero_iff.mp none
    obtain ⟨function, itemCount⟩ := Prod.mk.inj (Except.ok.inj spells.named)
    exact ⟨function.symm, itemCount.symm⟩
  case data =>
    rw [bytes, ← List.append_assoc]
    exact List.suffix_append _ _
  case length_data => exact dataNumber.symm

/-- A frame that is read as an answer has everything at its place. -/
theorem holdsAnswer_of_read (done : read frame = .ok reply) :
    Frame.HoldsAnswer frame ∧ reply.LaidOut frame := by
  obtain ⟨parameters, spells⟩ := exists_spells done
  exact ⟨spells.holdsAnswer, spells.laidOut⟩

/-- The first bytes of a frame that is long enough for an envelope and the header of an answer. -/
theorem exists_of_nineteen_le (long : 19 ≤ frame.length) :
    ∃ version reserved high low c₁ c₂ c₃ id kind x y r₁ r₂ p₁ p₂ d₁ d₂ e₁ e₂ sections,
      frame = version :: reserved :: high :: low :: c₁ :: c₂ :: c₃ :: id :: kind :: x :: y :: r₁ ::
        r₂ :: p₁ :: p₂ :: d₁ :: d₂ :: e₁ :: e₂ :: sections := by
  obtain ⟨_, _, _, _, _, _, _, unit, rfl⟩ :=
    Frame.exists_of_envelopeSize_le (Nat.le_trans (by decide) long)
  have unitLong : 12 ≤ unit.length :=
    Nat.le_of_add_le_add_right (show 12 + 7 ≤ unit.length + 7 from long)
  obtain ⟨_, _, _, _, _, _, _, _, _, _, rest, rfl⟩ :=
    Header.exists_of_ten_le (Nat.le_trans (by decide) unitLong)
  have restLong : 2 ≤ rest.length :=
    Nat.le_of_add_le_add_right (show 2 + 10 ≤ rest.length + 10 from unitLong)
  match rest, restLong with
  | _ :: _ :: sections, _ =>
    exact ⟨_, _, _, _, _, _, _, _, _, _, _, _, _, _, _, _, _, _, _, sections, rfl⟩

/-- A frame that has everything at its place is read as an answer. -/
theorem exists_read_of_holdsAnswer (holds : Frame.HoldsAnswer frame) :
    ∃ reply, read frame = .ok reply := by
  obtain ⟨version, reserved, high, low, c₁, c₂, c₃, id, kind, x, y, r₁, r₂, p₁, p₂, d₁, d₂, e₁, e₂,
    sections, rfl⟩ := exists_of_nineteen_le holds.long
  obtain rfl : version = 0x03 := (List.cons.inj holds.version).1
  obtain ⟨rfl, kind_eq⟩ : id = 0x32 ∧ [kind] = [0x03] := List.cons.inj holds.opened
  obtain rfl : kind = 0x03 := (List.cons.inj kind_eq).1
  have announced : [c₁, c₂, c₃] = Frame.dataTransfer := holds.announced
  have fill : BigEndian.read [p₁, p₂] + BigEndian.read [d₁, d₂] = sections.length := by
    have total : 19 + BigEndian.read [p₁, p₂] + BigEndian.read [d₁, d₂] = sections.length + 19 :=
      holds.sections
    omega
  have within : (sections.take (BigEndian.read [p₁, p₂])).length = BigEndian.read [p₁, p₂] :=
    List.length_take_of_le (fill ▸ Nat.le_add_right ..)
  have complete : (sections.take (BigEndian.read [p₁, p₂])).length ≠ 1 := by
    rw [within]
    exact holds.parameters
  obtain ⟨function, itemCount, named⟩ := exists_of_length_ne_one complete
  obtain ⟨reference, _⟩ := BigEndian.ofWord_toWord r₁ r₂
  obtain ⟨parameterLength, parameterNumber⟩ := BigEndian.ofWord_toWord p₁ p₂
  obtain ⟨dataLength, dataNumber⟩ := BigEndian.ofWord_toWord d₁ d₂
  refine ⟨⟨⟨0x03, BigEndian.toWord r₁ r₂, BigEndian.toWord p₁ p₂, BigEndian.toWord d₁ d₂, e₁, e₂⟩,
    function, itemCount, sections.drop (BigEndian.read [p₁, p₂])⟩,
    @Spells.read_eq _ (sections.take (BigEndian.read [p₁, p₂])) _ ?_⟩
  constructor
  case isAnswer => rfl
  case unit =>
    refine ⟨x, y, Frame.unwrap_eq_ok_iff.mpr ⟨reserved, high, low, ?_, holds.frameLength⟩⟩
    rw [← announced, Header.writeWith, reference, parameterLength, dataLength, List.append_assoc,
      List.take_append_drop]
    rfl
  case length_parameters => rw [within, parameterNumber]
  case length_data => rw [List.length_drop, dataNumber, ← fill, Nat.add_sub_cancel_left]
  case named => exact named

/-- What stands in a frame determines the answer. -/
theorem LaidOut.unique {other : Reply} (laidOut : reply.LaidOut frame)
    (laidOutToo : other.LaidOut frame) : reply = other := by
  obtain ⟨⟨kind, reference, parameterLength, dataLength, errorClass, errorCode⟩, function,
    itemCount, data⟩ := reply
  obtain ⟨⟨kind', reference', parameterLength', dataLength', errorClass', errorCode'⟩, function',
    itemCount', data'⟩ := other
  obtain rfl : kind = kind' := laidOut.kind.trans laidOutToo.kind.symm
  have headers := laidOut.header.symm.trans laidOutToo.header
  simp only [List.append_assoc] at headers
  obtain ⟨references, headers⟩ := List.append_inj headers rfl
  obtain ⟨parameterLengths, headers⟩ := List.append_inj headers rfl
  obtain ⟨dataLengths, errors⟩ := List.append_inj headers rfl
  obtain rfl := BigEndian.eq_of_ofWord_eq references
  obtain rfl := BigEndian.eq_of_ofWord_eq parameterLengths
  obtain rfl := BigEndian.eq_of_ofWord_eq dataLengths
  cases errors
  have lengths := laidOut.length_data.trans laidOutToo.length_data.symm
  obtain rfl : data = data' :=
    (List.suffix_of_suffix_length_le laidOut.data laidOutToo.data
      (Nat.le_of_eq lengths)).eq_of_length lengths
  by_cases none : Frame.number frame 13 = 0
  · obtain ⟨rfl, rfl⟩ := laidOut.unnamed none
    obtain ⟨rfl, rfl⟩ := laidOutToo.unnamed none
    rfl
  · have names := (laidOut.named none).symm.trans (laidOutToo.named none)
    cases names
    rfl

/-- A frame is read as an answer if and only if it has the right bytes at the right places and its
lengths fit each other, and the answer is then what stands at the others. Any other frame is refused
as malformed. No look-up that is made on the way leaves the bytes. -/
theorem read_placed (frame : Bytes) :
    (∀ reply, read frame = .ok reply ↔ Frame.HoldsAnswer frame ∧ reply.LaidOut frame) ∧
      ((∃ reply, read frame = .ok reply) ↔ Frame.HoldsAnswer frame) ∧
      ((∃ cause, read frame = .error cause) ↔ ¬Frame.HoldsAnswer frame) ∧
      (Lookup.reply frame).run = some (read frame) := by
  have accepted : (∃ reply, read frame = .ok reply) ↔ Frame.HoldsAnswer frame :=
    ⟨fun ⟨_, done⟩ => (holdsAnswer_of_read done).1, exists_read_of_holdsAnswer⟩
  refine ⟨fun reply => ⟨holdsAnswer_of_read, fun ⟨holds, laidOut⟩ => ?_⟩, accepted,
    exists_error_iff.trans (not_congr accepted), ?_⟩
  · obtain ⟨other, done⟩ := exists_read_of_holdsAnswer holds
    rw [laidOut.unique (holdsAnswer_of_read done).2, done]
  · rw [Lookup.reply_eq]
    rfl

/-- The answer to a write of one item, which succeeded. -/
example :
    read [0x03, 0x00, 0x00, 0x16, 0x02, 0xF0, 0x80, 0x32, 0x03, 0x00, 0x00, 0x00, 0x02, 0x00, 0x02,
        0x00, 0x01, 0x00, 0x00, 0x05, 0x01, 0xFF] =
      .ok ⟨⟨0x03, 2, 2, 1, 0, 0⟩, 0x05, 1, [0xFF]⟩ := rfl

end

end Reply

end S7Link
