import Mathlib.Algebra.Order.Group.Nat
import S7Link.Proofs.Controller.Answers
import S7Link.Proofs.Reply.Grammar
import S7Link.Proofs.Reply.Places

/-!
# Answers are as long as was predicted

A request predicts how long the frame of a full answer to it is. A reader takes an answer apart
entry by entry and counts on its own. Both counts agree: no frame from which the items of a request
are read is longer than was predicted, and it is as long if and only if every item was read
(`ReadRequest.length_le_replyLength`). A failure is shorter than the shortest success, since a
success has a payload of at least one byte behind its header.
-/

namespace S7Link

open Outcome Request

namespace Reply

/-! ## The length of a data section -/

namespace Entry

/-- An entry has the length of a full one if and only if it is a success. -/
theorem Answers.length_bytes_eq_iff {entry : Entry} {size : Nat} {isLast : Bool}
    (answers : entry.Answers size isLast) (pos : 0 < size) :
    (entry.bytes.length = itemHeaderSize + size + if isLast then 0 else size % 2) ↔
      entry.item.status.isSuccess = true := by
  cases entry with
  | success code length payload fill =>
    obtain ⟨_, payloadLength, fillLength⟩ := answers
    refine ⟨fun _ => rfl, fun _ => ?_⟩
    rw [bytes, List.length_append, List.length_append, List.length_append, payloadLength,
      fillLength, BigEndian.ofWord, BigEndian.length_write]
    rfl
  | failure status rest =>
    obtain ⟨failed, length⟩ := answers
    have short : (failure status rest).bytes.length ≤ itemHeaderSize := by
      rw [bytes, List.length_cons, itemHeaderSize]
      omega
    constructor
    · intro full
      omega
    · intro success
      exact absurd (eq_of_beq success) failed

/-- Entries have the length of a full answer if and only if all are successes. -/
theorem AnswerAll.length_flatMap_bytes_eq_iff {sizes : List Nat} {entries : List Entry}
    (answer : AnswerAll sizes entries) (pos : ∀ size ∈ sizes, 0 < size) :
    (entries.flatMap bytes).length = Frame.alignedLength (sizes.map (itemHeaderSize + ·)) ↔
      ∀ entry ∈ entries, entry.item.status.isSuccess = true := by
  fun_induction AnswerAll sizes entries with
  | case1 => exact ⟨fun _ => List.forall_mem_nil _, fun _ => rfl⟩
  | case2 size sizes entry entries ih =>
    obtain ⟨first, others⟩ := answer
    obtain ⟨posFirst, posOthers⟩ := List.forall_mem_cons.mp pos
    -- Neither part can be longer than in a full answer, so none makes up for the other.
    rw [List.flatMap_cons, List.length_append, alignedLength_cons,
      add_eq_add_iff_eq_and_eq (length_bytes_le first) (length_flatMap_bytes_le others),
      first.length_bytes_eq_iff posFirst, ih others posOthers, List.forall_mem_cons]
  | case3 => exact answer.elim

end Entry

/-! ## The length of a frame -/

/-- A frame is as long as the header and the two sections of the answer that it holds. -/
theorem length_of_read {frame : Bytes} {reply : Reply} (read : Reply.read frame = .ok reply) :
    frame.length = 19 + reply.header.parameterLength.toNat + reply.data.length := by
  obtain ⟨parameters, spells⟩ := exists_spells read
  obtain ⟨parameterNumber, dataNumber⟩ := spells.number_eq
  rw [← spells.holdsAnswer.sections, parameterNumber, dataNumber, spells.length_parameters]

end Reply

/-- A frame with a function and an item count, from which the items of a request are read, is no
longer than the request predicts and than the PDU size allows, and it is as long as predicted if and
only if every item was read. -/
theorem ReadRequest.length_le_replyLength {tags : List Tag} {reference pduSize : UInt16}
    {request : ReadRequest} (made : make tags reference pduSize = .ok request) {frame : Bytes}
    {reply : Reply} (read : Reply.read frame = .ok reply)
    (named : reply.header.parameterLength = 2) {items : List ItemReply}
    (told : reply.readItems request.tags = .ok items) :
    frame.length ≤ request.replyLength ∧ frame.length ≤ pduSize.toNat ∧
      (frame.length = request.replyLength ↔ ∀ item ∈ items, item.status.isSuccess = true) := by
  obtain ⟨entries, held, rfl⟩ := Reply.readItems_eq_ok_iff.mp told
  obtain ⟨_, fits⟩ := make_eq_ok_iff.mp made
  have length : frame.length = replyOverhead + (entries.flatMap Reply.Entry.bytes).length := by
    rw [Reply.length_of_read read, named, held.data]
    rfl
  have short : frame.length ≤ request.replyLength := by
    rw [length]
    exact Nat.add_le_add_left (Reply.Entry.length_flatMap_bytes_le held.answer) _
  have pos : ∀ size ∈ request.tags.map Tag.size, 0 < size :=
    List.forall_mem_map.mpr fun tag _ => tag.size_pos
  refine ⟨short, Nat.le_trans short fits.replyLength_le, ?_⟩
  rw [length, replyLength, replyLengthOf, Nat.add_left_cancel_iff,
    held.answer.length_flatMap_bytes_eq_iff pos, List.forall_mem_map]

/-- A byte with a fill byte, a word, and ten bytes at the end. -/
def Reply.threeOfThree : List Entry :=
  [.success 0x04 8 [1] [0], .success 0x04 16 [2, 3] [], .success 0x09 10 (List.replicate 10 4) []]

/-- The answer in full is as long as predicted, and one with two failures is shorter. -/
theorem ReadRequest.length_le_replyLength_byteWordBytes :
    let request : ReadRequest := ⟨1, Reply.byteWordBytes⟩
    let frame := fun entries : List Reply.Entry =>
      Controller.answer 1 readFunction 3 (entries.flatMap Reply.Entry.bytes)
    make Reply.byteWordBytes 1 240 = .ok request ∧
      (frame Reply.threeOfThree).length = request.replyLength ∧
      (frame Reply.oneOfThree).length < request.replyLength := by
  intro request frame
  have made : make Reply.byteWordBytes 1 240 = .ok request := rfl
  have sizes : Reply.byteWordBytes.map Tag.size = [1, 2, 10] := rfl
  refine ⟨made, ?_, ?_⟩
  · have answer : Reply.Entry.AnswerAll (Reply.byteWordBytes.map Tag.size)
        Reply.threeOfThree := by
      rw [sizes]
      exact ⟨⟨Or.inl (by decide), rfl, rfl⟩, ⟨Or.inl (by decide), rfl, rfl⟩,
        ⟨Or.inr (by decide), rfl, rfl⟩, trivial⟩
    have carried :
        replyOverhead + (Reply.threeOfThree.flatMap Reply.Entry.bytes).length < 65536 := by
      decide
    obtain ⟨_, _, full⟩ := length_le_replyLength made (Controller.read_answer 1 _ 3 carried) rfl
      (Reply.readItems_eq_ok_iff.mpr ⟨_, ⟨rfl, rfl, answer, rfl⟩, rfl⟩)
    exact full.mpr (by decide)
  · have answer : Reply.Entry.AnswerAll (Reply.byteWordBytes.map Tag.size) Reply.oneOfThree := by
      rw [sizes]
      exact ⟨⟨Or.inl (by decide), rfl, rfl⟩, ⟨by decide, Or.inl rfl⟩,
        ⟨by decide, Or.inr (by decide)⟩, trivial⟩
    have carried :
        replyOverhead + (Reply.oneOfThree.flatMap Reply.Entry.bytes).length < 65536 := by
      decide
    obtain ⟨short, _, full⟩ := length_le_replyLength made (Controller.read_answer 1 _ 3 carried) rfl
      (Reply.readItems_eq_ok_iff.mpr ⟨_, ⟨rfl, rfl, answer, rfl⟩, rfl⟩)
    exact Nat.lt_of_le_of_ne short fun same => absurd (full.mp same) (by decide)

end S7Link
