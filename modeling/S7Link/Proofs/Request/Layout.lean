import Mathlib.Algebra.GroupWithZero.Nat
import S7Link.Proofs.Controller.Jobs
import S7Link.Proofs.Frame.Sections
import S7Link.Proofs.Request.Accepted
import S7Link.Proofs.Value.Payload

/-!
# What stands where in the frame of a request

A request that is made has a frame in which every number is the one that was meant
(`selfConsistent_of_make`). The lengths that the frame declares are those of the frame and of its
sections, the reference and the number of items read back unchanged, each specification leads back
to its tag, and in front of each payload stands its length. Numbers are narrowed to one, two or
three bytes on the way. None of them loses a bit, but for reasons that are not to be seen where they
are narrowed: a tag begins within the address space, the PDU size is a word, and no item is larger
than the largest that can travel alone.
-/

namespace S7Link

open Request

/-! ## What a frame declares -/

namespace Frame

/-- What a frame declares of itself: its own length, the reference, and the lengths of the two
sections that stand behind the header. -/
structure Declares (frame : Bytes) (reference : UInt16) (parameters data : Bytes) : Prop where
  frameLength : BigEndian.read (field frame 2 2) = frame.length
  reference : BigEndian.read (field frame 11 2) = reference.toNat
  parameterLength : BigEndian.read (field frame 13 2) = parameters.length
  dataLength : BigEndian.read (field frame 15 2) = data.length
  sections : frame.drop 17 = parameters ++ data

/-- A frame whose length a word can hold declares what it was made of. -/
theorem declares_request (reference : UInt16) {parameters data : Bytes}
    (short : envelopeSize + (10 + parameters.length + data.length) < 65536) :
    (request reference parameters data).length =
        envelopeSize + (10 + parameters.length + data.length) ∧
      Declares (request reference parameters data) reference parameters data := by
  let header := Header.job reference (UInt16.ofNat parameters.length) (UInt16.ofNat data.length)
  have unitLength : (header.write ++ parameters ++ data).length =
      10 + parameters.length + data.length := Header.length_sections header parameters data
  have length : (request reference parameters data).length =
      envelopeSize + (10 + parameters.length + data.length) :=
    (length_wrap _).trans (congrArg _ unitLength)
  have parametersShort : parameters.length < 65536 := by omega
  have dataShort : data.length < 65536 := by omega
  obtain ⟨t₁, t₂, totalWritten, total⟩ := BigEndian.write_two_eq short
  obtain ⟨r₁, r₂, referenceWritten, referenceRead, _⟩ := BigEndian.ofWord_eq reference
  obtain ⟨p₁, p₂, parameterWritten, parameterRead, _⟩ :=
    BigEndian.ofWord_eq (UInt16.ofNat parameters.length)
  obtain ⟨d₁, d₂, dataWritten, dataRead, _⟩ := BigEndian.ofWord_eq (UInt16.ofNat data.length)
  rw [UInt16.toNat_ofNat_of_lt' parametersShort] at parameterRead
  rw [UInt16.toNat_ofNat_of_lt' dataShort] at dataRead
  have bytes : request reference parameters data =
      [0x03, 0x00, t₁, t₂, 0x02, 0xF0, 0x80, 0x32, 0x01, 0x00, 0x00, r₁, r₂, p₁, p₂, d₁, d₂] ++
        (parameters ++ data) := by
    rw [request_eq, envelope, totalWritten, Header.write_job, referenceWritten, parameterWritten,
      dataWritten]
    simp only [List.append_assoc]
    rfl
  refine ⟨length, ?_, ?_, ?_, ?_, ?_⟩
  · rw [length, bytes]
    exact total
  · rw [bytes]
    exact referenceRead
  · rw [bytes]
    exact parameterRead
  · rw [bytes]
    exact dataRead
  · rw [bytes]
    rfl

end Frame

/-! ## Specifications -/

/-- A specification leads back to a tag: to its region, to its first byte and, if it is a bit, to
that bit, which the address counts from the other end of the byte. The elements of the transfer have
the bytes of the tag. Neither their number nor the address has lost a bit. -/
structure Request.Specification.Addresses (s : Specification) (tag : Tag) : Prop where
  area : s.area = tag.area.code
  block : s.block = tag.block
  count : s.count.toNat = (transfer tag).2
  address : s.address = bitAddress tag
  start : s.address / 8 = tag.start
  bit : tag.type = .bit → 7 - s.address % 8 = tag.bit
  wholeBytes : tag.type ≠ .bit → s.address % 8 = 0
  code : 1 ≤ s.code ∧ s.code ≤ 8
  size : s.count.toNat * s.elementSize = tag.size

namespace Request

theorem Specification.addresses_of {tag : Tag} (countable : tag.size ≤ 65535) :
    (of tag).Addresses tag where
  area := rfl
  block := rfl
  count := by
    have length := tag.length_le
    have small : (transfer tag).2 < 65536 := by
      unfold transfer
      cases tag.type <;> dsimp only <;> omega
    exact UInt16.toNat_ofNat_of_lt' small
  address := rfl
  start := start_of tag
  bit := bit_of
  wholeBytes := by
    intro wider
    have aligned : bitAddress tag = 8 * tag.start := by
      unfold bitAddress
      split
      · next isBit => exact absurd isBit wider
      · rfl
    exact (congrArg (· % 8) aligned).trans (Nat.mul_mod_right 8 tag.start)
  code := by
    change 1 ≤ (transfer tag).1 ∧ (transfer tag).1 ≤ 8
    unfold transfer
    cases tag.type <;> dsimp only <;> decide
  size := size_of countable

/-- A frame names tags: their number and, one behind the other, specifications that lead back to
them. -/
structure Names (frame : Bytes) (tags : List Tag) : Prop where
  count : BigEndian.read (Frame.field frame 18 1) = tags.length
  addressed : ∀ before tag after, tags = before ++ tag :: after →
    ∃ s, Job.takeSpecification? (Frame.field frame
        (overhead + specificationSize * before.length) specificationSize) = some (s, []) ∧
      s.Addresses tag

theorem names_of_sections {frame data : Bytes} {function : UInt8} {tags : List Tag}
    (sections : frame.drop 17 = parameters function tags ++ data) (few : tags.length < 256)
    (countable : ∀ tag ∈ tags, tag.size ≤ 65535) : Names frame tags where
  count := by
    have starts : [function] ++ [UInt8.ofNat tags.length] <+: frame.drop 17 := by
      rw [sections]
      exact List.prefix_append _ _
    have stands : Frame.field frame 18 1 = _ :=
      Frame.field_of_prefix (Frame.prefix_drop starts rfl) rfl
    rw [stands, BigEndian.read_singleton]
    exact UInt8.toNat_ofNat_of_lt' few
  addressed := by
    rintro before tag after rfl
    have starts : ([function, UInt8.ofNat (before ++ tag :: after).length] ++
        before.flatMap fun tag => (Specification.of tag).write) ++ (Specification.of tag).write <+:
          frame.drop 17 := by
      rw [sections, parameters, List.flatMap_append, List.flatMap_cons]
      refine ⟨after.flatMap (fun tag => (Specification.of tag).write) ++ data, ?_⟩
      simp only [List.append_assoc, List.cons_append, List.nil_append]
    have length : ([function, UInt8.ofNat (before ++ tag :: after).length] ++
        before.flatMap fun tag => (Specification.of tag).write).length =
          2 + specificationSize * before.length := by
      rw [List.length_append, length_specifications]
      rfl
    have stands :=
      Frame.field_of_prefix (Frame.prefix_drop starts length) (Specification.length_write _)
    rw [← Nat.add_assoc] at stands
    have alone := Job.takeSpecification?_write tag []
    rw [List.append_nil] at alone
    exact ⟨Specification.of tag, (congrArg _ stands).trans alone,
      Specification.addresses_of (countable tag List.mem_append_cons_self)⟩

end Request

/-! ## Payloads -/

/-- All items of a data section but the last stand with their fill bytes. -/
theorem Frame.align_append_cons (before : List Bytes) (item : Bytes) (after : List Bytes) :
    ∃ rest, align (before ++ item :: after) =
      (before.flatMap fun item => item ++ List.replicate (item.length % 2) 0) ++ item ++ rest := by
  induction before with
  | nil =>
    cases after with
    | nil => exact ⟨[], (List.append_nil item).symm⟩
    | cons next after => exact ⟨_, List.append_assoc ..⟩
  | cons first before ih =>
    obtain ⟨rest, aligned⟩ := ih
    refine ⟨rest, ?_⟩
    simp only [List.flatMap_cons, List.append_assoc] at aligned ⊢
    rw [← aligned]
    -- Something follows the first item in either case, so its fill byte is written.
    cases before <;> exact List.append_assoc ..

namespace WriteItem

/-- The number of bytes that items take with their headers and their fill bytes. -/
def filledSize (items : List WriteItem) : Nat :=
  (items.map fun item => itemHeaderSize + item.data.length + item.data.length % 2).sum

theorem length_filled (items : List WriteItem) :
    ((items.map bytes).flatMap fun item => item ++ List.replicate (item.length % 2) 0).length =
      filledSize items := by
  rw [List.flatMap_map, List.length_flatMap, filledSize]
  refine congrArg List.sum (List.map_congr_left fun item _ => ?_)
  rw [List.length_append, List.length_replicate, length_bytes, itemHeaderSize]
  omega

/-- At an offset of a frame stands an item: its header, from which a reader finds exactly the size
of the payload, and the payload. -/
structure StandsAt (item : WriteItem) (frame : Bytes) (offset : Nat) : Prop where
  header : Frame.field frame offset 2 = [0x00, item.extent.1]
  length : BigEndian.read (Frame.field frame (offset + 2) 2) = item.extent.2
  payloadSize : Job.payloadSize item.extent.1 (BigEndian.read (Frame.field frame (offset + 2) 2)) =
    item.data.length
  payload : Frame.field frame (offset + itemHeaderSize) item.data.length = item.data

theorem standsAt_of_prefix {item : WriteItem} {frame : Bytes} {offset : Nat}
    (wellFormed : item.WellFormed) (starts : item.bytes <+: frame.drop offset) :
    item.StandsAt frame offset := by
  obtain ⟨small, size⟩ := payloadSize_extent wellFormed
  rw [bytes_eq] at starts
  have length : BigEndian.read (Frame.field frame (offset + 2) 2) = item.extent.2 := by
    have behind : BigEndian.write 2 item.extent.2 <+: frame.drop (offset + 2) :=
      Frame.prefix_drop ((List.prefix_append _ _).trans starts) rfl
    rw [Frame.field_of_prefix behind (BigEndian.length_write _ _), BigEndian.read_write]
    exact Nat.mod_eq_of_lt small
  refine ⟨?_, length, length.symm ▸ size,
    Frame.field_of_prefix (Frame.prefix_drop starts rfl) rfl⟩
  rw [List.append_assoc] at starts
  exact Frame.field_of_prefix ((List.prefix_append _ _).trans starts) rfl

/-- A frame carries items, one behind the other, each but the last with its fill byte. -/
def Carried (frame : Bytes) (items : List WriteItem) : Prop :=
  ∀ before item after, items = before ++ item :: after →
    item.StandsAt frame (overhead + specificationSize * items.length + filledSize before)

theorem carried_of_sections {frame : Bytes} {function : UInt8} {items : List WriteItem}
    (sections : frame.drop 17 =
      parameters function (items.map (·.tag)) ++ Frame.align (items.map bytes))
    (wellFormed : ∀ item ∈ items, item.WellFormed) : Carried frame items := by
  rintro before item after rfl
  apply standsAt_of_prefix (wellFormed item List.mem_append_cons_self)
  obtain ⟨rest, aligned⟩ :=
    Frame.align_append_cons (before.map bytes) item.bytes (after.map bytes)
  rw [← List.map_cons, ← List.map_append] at aligned
  have length : (parameters function ((before ++ item :: after).map (·.tag))).length =
      2 + specificationSize * (before ++ item :: after).length := by
    rw [length_parameters, List.length_map, parametersLength]
  have whole : parameters function ((before ++ item :: after).map (·.tag)) ++
      Frame.align ((before ++ item :: after).map bytes) <+: frame.drop 17 :=
    ⟨[], (List.append_nil _).trans sections.symm⟩
  have inData := Frame.prefix_drop whole length
  rw [aligned, ← Nat.add_assoc] at inData
  exact Frame.prefix_drop ((List.prefix_append _ rest).trans inData) (length_filled before)

end WriteItem

/-! ## Requests -/

/-- The frame of a request that is made is as long as the request says, declares its own length and
those of its sections, and leads back to the tags; that of a write carries the payloads. -/
theorem selfConsistent_of_make (reference pduSize : UInt16) :
    (∀ (tags : List Tag) (request : ReadRequest),
        ReadRequest.make tags reference pduSize = .ok request →
        request.bytes.length = request.length ∧
          Frame.Declares request.bytes reference (parameters readFunction tags) [] ∧
          Names request.bytes tags) ∧
      ∀ (items : List WriteItem) (request : WriteRequest),
        (∀ item ∈ items, ∃ value, WriteItem.make item.tag value = .ok item) →
        WriteRequest.make items reference pduSize = .ok request →
        request.bytes.length = request.length ∧
          Frame.Declares request.bytes reference (parameters writeFunction (items.map (·.tag)))
            (Frame.align (items.map WriteItem.bytes)) ∧
          Names request.bytes (items.map (·.tag)) ∧ WriteItem.Carried request.bytes items := by
  constructor
  · intro tags request made
    obtain ⟨rfl, fits⟩ := ReadRequest.make_eq_ok_iff.mp made
    have few : tags.length < 256 := Nat.lt_of_le_of_lt fits.few (by decide)
    have short := @ReadRequest.sections_short ⟨reference, tags⟩ few
    obtain ⟨length, declares⟩ := Frame.declares_request reference short
    rw [ReadRequest.bytes_eq_request]
    refine ⟨length.trans (ReadRequest.length_eq _).symm, declares, ?_⟩
    exact names_of_sections declares.sections few fun tag member =>
      Nat.le_trans (fits.sizes tag member) (largestRead_le pduSize)
  · intro items request formed made
    obtain ⟨rfl, fits⟩ := WriteRequest.make_eq_ok_iff.mp made
    have few : (items.map (·.tag)).length < 256 := by
      rw [List.length_map]
      exact Nat.lt_of_le_of_lt fits.few (by decide)
    have wellFormed : ∀ item ∈ items, item.WellFormed := by
      intro item member
      obtain ⟨value, itemMade⟩ := formed item member
      obtain ⟨_, written⟩ := WriteItem.make_eq_ok_iff.mp itemMade
      exact ⟨Value.length_encode written,
        Nat.le_trans (fits.sizes item member) (Nat.min_le_right ..)⟩
    have short := WriteRequest.sections_short (Nat.lt_of_le_of_lt fits.length_le pduSize.toNat_lt)
    obtain ⟨length, declares⟩ := Frame.declares_request reference short
    rw [WriteRequest.bytes_eq_request]
    refine ⟨length.trans (WriteRequest.length_eq _).symm, declares, ?_,
      WriteItem.carried_of_sections declares.sections wellFormed⟩
    apply names_of_sections declares.sections few
    intro tag member
    obtain ⟨item, inItems, rfl⟩ := List.mem_map.mp member
    rw [← (wellFormed item inItems).length_eq]
    exact Nat.le_trans (wellFormed item inItems).countable (by decide)

/-- A bit, three bytes and an integer, of which the first two are followed by a fill byte. -/
def oddItems : List WriteItem :=
  [⟨(Tag.make .dataBlock 1 .bit 0 7 1).toOption.get rfl, [0x01]⟩,
    ⟨(Tag.make .dataBlock 1 .byte 2 0 3).toOption.get rfl, [0x01, 0x02, 0x03]⟩,
    ⟨(Tag.make .memory 0 .int 10 0 1).toOption.get rfl, [0xFF, 0xFE]⟩]

theorem selfConsistent_of_make_oddItems :
    (∃ request, ReadRequest.make (oddItems.map (·.tag)) 7 240 = .ok request ∧
        request.bytes.length = 55 ∧ Names request.bytes (oddItems.map (·.tag))) ∧
      ∃ request, WriteRequest.make oddItems 7 240 = .ok request ∧ request.bytes.length = 75 ∧
        Names request.bytes (oddItems.map (·.tag)) ∧
        WriteItem.Carried request.bytes oddItems := by
  have readMade : ReadRequest.make (oddItems.map (·.tag)) 7 240 =
      .ok ⟨7, oddItems.map (·.tag)⟩ := by
    cbv
  have writeMade : WriteRequest.make oddItems 7 240 = .ok ⟨7, oddItems⟩ := by
    cbv
  have formed : ∀ item ∈ oddItems, ∃ value, WriteItem.make item.tag value = .ok item := by
    rw [oddItems, List.forall_mem_cons, List.forall_mem_cons, List.forall_mem_singleton]
    refine ⟨⟨.bool true, ?_⟩, ⟨.list [.byte 1, .byte 2, .byte 3], ?_⟩, ⟨.int (-2), ?_⟩⟩ <;> cbv
  obtain ⟨readLength, _, readNames⟩ := (selfConsistent_of_make 7 240).1 _ _ readMade
  obtain ⟨writeLength, _, writeNames, carried⟩ :=
    (selfConsistent_of_make 7 240).2 _ _ formed writeMade
  exact ⟨⟨_, readMade, readLength, readNames⟩, ⟨_, writeMade, writeLength, writeNames, carried⟩⟩

end S7Link
