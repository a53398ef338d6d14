import S7Link.Proofs.Controller.Jobs
import S7Link.Proofs.Plan.Sendable
import S7Link.Reply.Basic
import S7Link.Session.Calls

/-!
# References in frames

The header of a frame carries a reference. The frame of a request carries the one that it was made
under, and an answer that is read has the one that its frame carries. Every batch of a plan has a
frame under every reference, because it can be sent.
-/

namespace S7Link

open Outcome Plan Request

/-- The reference that a frame carries in its header. -/
def Frame.reference? (frame : Bytes) : Option UInt16 := do
  let unit ← (unwrap frame).toOption
  let header ← (Header.read unit).toOption
  return header.reference

theorem Frame.reference?_request (reference : UInt16) {parameters data : Bytes}
    (short : envelopeSize + (10 + parameters.length + data.length) < 65536) :
    reference? (request reference parameters data) = some reference := by
  let header := Header.job reference (UInt16.ofNat parameters.length) (UInt16.ofNat data.length)
  have length : (header.write ++ parameters ++ data).length =
      10 + parameters.length + data.length := Header.length_sections header parameters data
  have headerRead := Header.read_sections header parameters data (Or.inr ⟨rfl, rfl⟩)
  unfold reference? request
  dsimp only
  rw [unwrap_wrap (length.symm ▸ short)]
  dsimp only [Except.toOption, Option.bind_eq_bind, Option.bind_some]
  rw [headerRead]
  rfl

/-- An answer has the reference that its frame carries. -/
theorem Reply.reference?_of_read {frame : Bytes} {reply : Reply} (found : read frame = .ok reply) :
    Frame.reference? frame = some reply.header.reference := by
  unfold read at found
  obtain ⟨unit, unwrapped, later⟩ := bind_eq_ok_iff.mp found
  obtain ⟨header, headerRead, later⟩ := bind_eq_ok_iff.mp later
  have same : reply.header = header := by
    split at later
    · cases later
    · dsimp only at later
      split at later
      · cases later
      · obtain ⟨_, _, done⟩ := bind_eq_ok_iff.mp later
        cases done
        rfl
  unfold Frame.reference?
  rw [unwrapped]
  dsimp only [Except.toOption, Option.bind_eq_bind, Option.bind_some]
  rw [headerRead, same]
  rfl

/-- A batch that can be sent has a frame under every reference, and the frame carries it. -/
theorem ReadBatch.Sendable.exists_frame {limits : Limits} {batch : ReadBatch}
    (sendable : batch.Sendable limits) (reference : UInt16) :
    ∃ frame, batch.frame limits.pduSize reference = .ok frame ∧
      Frame.reference? frame = some reference := by
  have few : batch.tags.length < 256 := by
    rw [batch.length_tags]
    exact Limits.lt_256_of_le_items sendable.few
  refine ⟨(⟨reference, batch.tags⟩ : ReadRequest).bytes, ?_, ?_⟩
  · unfold ReadBatch.frame
    rw [sendable.request_eq]
    rfl
  · rw [ReadRequest.bytes_eq_request]
    exact Frame.reference?_request reference (ReadRequest.sections_short few)

/-- A batch that can be sent has a frame under every reference, and the frame carries it. -/
theorem WriteBatch.Sendable.exists_frame {limits : Limits} {batch : WriteBatch}
    (sendable : batch.Sendable limits) (reference : UInt16) :
    ∃ frame, batch.frame limits.pduSize reference = .ok frame ∧
      Frame.reference? frame = some reference := by
  have short := Nat.lt_trans (sendable.length_lt reference) limits.pduSize.toNat_lt
  refine ⟨(⟨reference, batch.items⟩ : WriteRequest).bytes, ?_, ?_⟩
  · unfold WriteBatch.frame
    rw [sendable.request_eq]
    rfl
  · rw [WriteRequest.bytes_eq_request]
    exact Frame.reference?_request reference (WriteRequest.sections_short short)

end S7Link
