import S7Link.Proofs.Frame.Sections
import S7Link.Request.Write

/-!
# Lengths of a request

The lengths in the frame of a request are counted from the number and the sizes of its items, before
any of its sections is written. They are the lengths of what is written then: the frame is the one
that takes them from its sections (`ReadRequest.bytes_eq_request`,
`WriteRequest.bytes_eq_request`).
-/

namespace S7Link

open Request

/-! ## Sections -/

theorem Request.Specification.length_write (s : Specification) :
    s.write.length = specificationSize := by
  simp only [write, List.length_append, List.length_cons, List.length_nil, BigEndian.ofWord,
    BigEndian.length_write, specificationSize]

theorem Request.length_specifications (tags : List Tag) :
    (tags.flatMap fun tag => (Specification.of tag).write).length =
      specificationSize * tags.length := by
  induction tags with
  | nil => rfl
  | cons tag tags ih =>
    rw [List.flatMap_cons, List.length_append, ih, Specification.length_write, List.length_cons,
      Nat.mul_succ, Nat.add_comm]

theorem Request.length_parameters (function : UInt8) (tags : List Tag) :
    (parameters function tags).length = parametersLength tags.length := by
  rw [parameters, List.length_cons, List.length_cons, length_specifications, parametersLength]
  omega

theorem WriteItem.bytes_eq (item : WriteItem) :
    item.bytes = [0x00, item.extent.1] ++ BigEndian.write 2 item.extent.2 ++ item.data := rfl

theorem WriteItem.length_bytes (item : WriteItem) :
    item.bytes.length = itemHeaderSize + item.data.length := by
  simp only [bytes_eq, List.length_append, List.length_cons, List.length_nil,
    BigEndian.length_write, itemHeaderSize]

/-- The length that is counted for the data section of a write is that of its items. -/
theorem WriteRequest.dataLength_eq (request : WriteRequest) :
    request.dataLength = (Frame.align (request.items.map WriteItem.bytes)).length := by
  rw [Frame.length_align, dataLength, dataLengthOf, List.map_map, List.map_map]
  exact congrArg _ (List.map_congr_left fun item _ => item.length_bytes.symm)

/-! ## Frames -/

/-- The frame of a request with the given reference and sections. -/
def Frame.request (reference : UInt16) (parameters data : Bytes) : Bytes :=
  let header := Header.job reference (UInt16.ofNat parameters.length) (UInt16.ofNat data.length)
  wrap (header.write ++ parameters ++ data)

theorem Frame.request_eq (reference : UInt16) (parameters data : Bytes) :
    request reference parameters data =
      envelope (envelopeSize + (10 + parameters.length + data.length)) ++
        (Header.job reference (UInt16.ofNat parameters.length) (UInt16.ofNat data.length)).write ++
          parameters ++ data := by
  unfold request wrap
  dsimp only
  rw [Header.length_sections]
  simp only [List.append_assoc]
  rfl

/-- The length of a read counts its envelope, its header and its only section. -/
theorem ReadRequest.length_eq (request : ReadRequest) :
    request.length = Frame.envelopeSize +
      (10 + (parameters readFunction request.tags).length + ([] : Bytes).length) := by
  rw [length, lengthOf, length_parameters, parametersLength, Frame.envelopeSize, overhead,
    List.length_nil]
  omega

theorem ReadRequest.sections_short {request : ReadRequest} (few : request.tags.length < 256) :
    Frame.envelopeSize +
      (10 + (parameters readFunction request.tags).length + ([] : Bytes).length) < 65536 := by
  rw [← length_eq, length, lengthOf, overhead, specificationSize]
  omega

/-- The length of a write counts its envelope, its header and both of its sections. -/
theorem WriteRequest.length_eq (request : WriteRequest) :
    request.length = Frame.envelopeSize +
      (10 + (parameters writeFunction (request.items.map (·.tag))).length +
        (Frame.align (request.items.map WriteItem.bytes)).length) := by
  rw [length, lengthOf, ← dataLength, ← dataLength_eq, List.length_map, length_parameters,
    List.length_map, parametersLength, Frame.envelopeSize, overhead]
  omega

theorem WriteRequest.sections_short {request : WriteRequest} (short : request.length < 65536) :
    Frame.envelopeSize +
      (10 + (parameters writeFunction (request.items.map (·.tag))).length +
        (Frame.align (request.items.map WriteItem.bytes)).length) < 65536 :=
  request.length_eq ▸ short

/-- The frame of a read takes its lengths from its sections. -/
theorem ReadRequest.bytes_eq_request (request : ReadRequest) :
    request.bytes = Frame.request request.reference (parameters readFunction request.tags) [] := by
  rw [Frame.request_eq, ← length_eq, length_parameters, List.append_nil]
  rfl

/-- The frame of a write takes its lengths from its sections. -/
theorem WriteRequest.bytes_eq_request (request : WriteRequest) :
    request.bytes =
      Frame.request request.reference (parameters writeFunction (request.items.map (·.tag)))
        (Frame.align (request.items.map WriteItem.bytes)) := by
  rw [Frame.request_eq, ← length_eq, length_parameters, List.length_map, ← dataLength_eq]
  rfl

end S7Link
