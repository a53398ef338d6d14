import S7Link.Controller.Service
import S7Link.Proofs.Frame.Sections
import S7Link.Proofs.Outcome

/-!
# Answers are read as they were given

A frame whose header tells the lengths of the sections behind it is read as an answer with these
sections. So is the frame with which a controller answers a request: it reports no error and has the
function, the number of items and the data section that the controller put into it. The frame has to
be short enough for its length to be told.
-/

namespace S7Link

open Outcome Request

theorem Reply.read_wrap {header : Header} {parameters data : Bytes} {function itemCount : UInt8}
    (isAnswer : header.kind = Header.answerKind)
    (parameterLength : header.parameterLength.toNat = parameters.length)
    (dataLength : header.dataLength.toNat = data.length)
    (short : Frame.envelopeSize + (header.size + parameters.length + data.length) < 65536)
    (named : readParameters parameters = .ok (function, itemCount)) :
    read (Frame.wrap (header.write ++ parameters ++ data)) =
      .ok ⟨header, function, itemCount, data⟩ := by
  have length := Header.length_sections header parameters data
  have headerRead := Header.read_sections header parameters data (Or.inl isAnswer)
  refine bind_eq_ok_iff.mpr ⟨_, Frame.unwrap_wrap (length.symm ▸ short), ?_⟩
  refine bind_eq_ok_iff.mpr ⟨header, headerRead, ?_⟩
  rw [if_neg (not_not.mpr isAnswer), parameterLength, dataLength,
    if_neg (not_not.mpr length.symm), Header.drop_sections]
  dsimp only
  rw [List.take_left, List.drop_left]
  exact bind_eq_ok_iff.mpr ⟨(function, itemCount), named, rfl⟩

theorem Controller.read_answer (reference : UInt16) (function : UInt8) (count : Nat) {data : Bytes}
    (short : replyOverhead + data.length < 65536) :
    Reply.read (answer reference function count data) =
      .ok ⟨Header.answer reference 2 (UInt16.ofNat data.length), function, UInt8.ofNat count,
        data⟩ := by
  have dataLength : (UInt16.ofNat data.length).toNat = data.length :=
    UInt16.toNat_ofNat_of_lt' (Nat.lt_of_le_of_lt (Nat.le_add_left _ _) short)
  refine Reply.read_wrap rfl rfl dataLength ?_ rfl
  rw [← Nat.add_assoc]
  exact short

end S7Link
