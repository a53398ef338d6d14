import S7Link.Proofs.Controller.Addressed
import S7Link.Proofs.Request.Frames

/-!
# Requests are read as what they ask for

A controller that takes the frame of a request apart finds in it, item by item, the specifications
of the tags and the payloads to be written, and nothing besides (`ReadRequest.read?_bytes`,
`WriteRequest.read?_bytes`). Each section is read by what it declares: the count of its items, the
length of each payload in its own unit, and a fill byte after each odd payload but the last. The
declared numbers are right as long as a word can hold them: the frame is short enough, and no
payload has more bits than a word can count.
-/

namespace S7Link

open Request

/-! ## The parameter section -/

namespace Job

theorem takeSpecification?_write (tag : Tag) (rest : Bytes) :
    takeSpecification? ((Specification.of tag).write ++ rest) =
      some (Specification.of tag, rest) := by
  have address := Specification.address_of_lt tag
  generalize Specification.of tag = s at address ⊢
  rcases s with ⟨code, count, block, area, address'⟩
  rcases BigEndian.ofWord_eq count with ⟨c₁, c₂, countWritten, _, countRead⟩
  rcases BigEndian.ofWord_eq block with ⟨b₁, b₂, blockWritten, _, blockRead⟩
  rcases BigEndian.write_three_eq address with ⟨a₁, a₂, a₃, addressWritten, addressRead⟩
  rw [Specification.write, countWritten, blockWritten, addressWritten]
  change some (Specification.mk code (BigEndian.toWord c₁ c₂) (BigEndian.toWord b₁ b₂) area
    (BigEndian.read [a₁, a₂, a₃]), rest) = _
  rw [countRead, blockRead, addressRead]

theorem readSpecifications?_flatMap (tags : List Tag) :
    readSpecifications? tags.length (tags.flatMap fun tag => (Specification.of tag).write) =
      some (tags.map Specification.of) := by
  induction tags with
  | nil => rfl
  | cons tag tags ih =>
    rw [List.flatMap_cons, List.length_cons, readSpecifications?, takeSpecification?_write]
    dsimp only [Option.bind_eq_bind, Option.bind_some]
    rw [ih]
    rfl

end Job

/-! ## The data section -/

/-- The item carries a payload of its tag, whose bits a word can count. -/
structure WriteItem.WellFormed (item : WriteItem) : Prop where
  length_eq : item.data.length = item.tag.size
  countable : item.data.length ≤ maxBitCountedSize

namespace WriteItem

/-- What an item asks a controller to do. -/
def job (item : WriteItem) : Specification × Bytes := (Specification.of item.tag, item.data)

/-- The code and the length of an item tell the size of its payload. -/
theorem payloadSize_extent {item : WriteItem} (wellFormed : item.WellFormed) :
    item.extent.2 < 65536 ∧ Job.payloadSize item.extent.1 item.extent.2 = item.data.length := by
  have length := wellFormed.length_eq
  have countable : item.data.length ≤ 8191 := wellFormed.countable
  unfold extent Job.payloadSize
  cases type : item.tag.type with
  | bit =>
    have one : item.data.length = 1 := by
      rw [length, Tag.size, type]
      rfl
    rw [one]
    exact ⟨by decide, rfl⟩
  | real | lreal | string | wstring => exact ⟨Nat.lt_of_le_of_lt countable (by decide), rfl⟩
  | _ =>
    constructor
    · dsimp only
      omega
    · rw [if_pos (by dsimp only; decide)]
      dsimp only
      omega

/-- The bytes that fill an item up to an even length. -/
def fill (item : WriteItem) (isLast : Bool) : Bytes :=
  List.replicate (if isLast then 0 else item.data.length % 2) 0

/-- The payload of an item is taken from the front of a data section, with what fills it up. -/
theorem takePayload?_bytes {item : WriteItem} (wellFormed : item.WellFormed) (isLast : Bool)
    (rest : Bytes) :
    Job.takePayload? isLast (item.bytes ++ item.fill isLast ++ rest) = some (item.data, rest) := by
  rcases payloadSize_extent wellFormed with ⟨small, size⟩
  rcases BigEndian.write_two_eq small with ⟨high, low, written, read⟩
  have used : (if isLast then item.data.length else item.data.length + item.data.length % 2) =
      (item.data ++ item.fill isLast).length := by
    rw [List.length_append, fill, List.length_replicate]
    cases isLast <;> rfl
  have bytes : item.bytes ++ item.fill isLast ++ rest =
      0x00 :: item.extent.1 :: high :: low :: (item.data ++ item.fill isLast ++ rest) := by
    rw [bytes_eq, written]
    simp only [List.append_assoc, List.cons_append, List.nil_append]
  rw [bytes]
  unfold Job.takePayload?
  dsimp only
  have enough : (item.data ++ item.fill isLast).length ≤
      (item.data ++ item.fill isLast ++ rest).length :=
    (List.prefix_append _ rest).length_le
  rw [read, size, used, if_pos enough, List.drop_left, List.append_assoc, List.take_left]

/-- The payloads of all items are taken one after another. -/
theorem readPayloads?_align {items : List WriteItem}
    (wellFormed : ∀ item ∈ items, item.WellFormed) :
    Job.readPayloads? items.length (Frame.align (items.map bytes)) = some (items.map (·.data)) := by
  induction items with
  | nil => rfl
  | cons item items ih =>
    have first := wellFormed item List.mem_cons_self
    have others := ih fun item' later => wellFormed item' (List.mem_cons_of_mem item later)
    have aligned : Frame.align ((item :: items).map bytes) =
        item.bytes ++ item.fill (items.length == 0) ++ Frame.align (items.map bytes) := by
      cases items with
      | nil =>
        rw [fill, List.map_singleton, Frame.align, List.length_nil, if_pos (beq_self_eq_true 0),
          List.replicate_zero, List.append_nil]
        exact (List.append_nil _).symm
      | cons next items =>
        -- The header is of even length, so it does not change where a fill byte is needed.
        have even : item.bytes.length % 2 = item.data.length % 2 := by
          rw [length_bytes, itemHeaderSize]
          omega
        rw [List.map_cons, List.map_cons, Frame.align, even]
        rfl
    rw [aligned, List.length_cons, Job.readPayloads?, takePayload?_bytes first]
    dsimp only [Option.bind_eq_bind, Option.bind_some]
    rw [others]
    rfl

end WriteItem

/-! ## Frames -/

namespace Job

/-- A request is read as what its sections ask for. -/
theorem read?_wrap {header : Header} {parameters data : Bytes}
    (isJob : header.kind = Header.jobKind)
    (noError : header.errorClass = 0 ∧ header.errorCode = 0)
    (parameterLength : header.parameterLength.toNat = parameters.length)
    (dataLength : header.dataLength.toNat = data.length)
    (short : Frame.envelopeSize + (header.size + parameters.length + data.length) < 65536) :
    read? (Frame.wrap (header.write ++ parameters ++ data)) =
      (ofSections? parameters data).map (header.reference, ·) := by
  have length := Header.length_sections header parameters data
  have headerRead := Header.read_sections header parameters data (Or.inr noError)
  unfold read?
  rw [Frame.unwrap_wrap (length.symm ▸ short)]
  dsimp only [Except.toOption, Option.bind_eq_bind, Option.bind_some]
  rw [headerRead]
  dsimp only [Except.toOption, Option.bind_some]
  rw [parameterLength, dataLength, if_pos ⟨isJob, length.symm⟩, Header.drop_sections,
    List.take_left, List.drop_left]
  cases ofSections? parameters data <;> rfl

theorem read?_request (reference : UInt16) {parameters data : Bytes}
    (short : Frame.envelopeSize + (10 + parameters.length + data.length) < 65536) :
    read? (Frame.request reference parameters data) =
      (ofSections? parameters data).map (reference, ·) := by
  have parameterLength : parameters.length < 65536 := by omega
  have dataLength : data.length < 65536 := by omega
  exact @read?_wrap (Header.job reference _ _) parameters data rfl ⟨rfl, rfl⟩
    (UInt16.toNat_ofNat_of_lt' parameterLength) (UInt16.toNat_ofNat_of_lt' dataLength) short

/-- The sections of a read ask for its tags. -/
theorem ofSections?_read {tags : List Tag} (few : tags.length < 256) :
    ofSections? (parameters readFunction tags) [] =
      some (.read (tags.map Specification.of)) := by
  have count : (UInt8.ofNat tags.length).toNat = tags.length := UInt8.toNat_ofNat_of_lt' few
  unfold ofSections? parameters
  dsimp only
  rw [count, readSpecifications?_flatMap]
  rfl

/-- The sections of a write ask for its payloads to be written to its tags. -/
theorem ofSections?_write {items : List WriteItem} (few : items.length < 256)
    (wellFormed : ∀ item ∈ items, item.WellFormed) :
    ofSections? (parameters writeFunction (items.map (·.tag)))
        (Frame.align (items.map WriteItem.bytes)) =
      some (.write (items.map WriteItem.job)) := by
  have length : (items.map (·.tag)).length = items.length := List.length_map _
  have count : (UInt8.ofNat items.length).toNat = items.length := UInt8.toNat_ofNat_of_lt' few
  have specifications := readSpecifications?_flatMap (items.map (·.tag))
  rw [length] at specifications
  unfold ofSections? parameters
  dsimp only
  rw [length, count, specifications, WriteItem.readPayloads?_align wellFormed]
  dsimp only [Option.bind_eq_bind, Option.bind_some]
  rw [if_neg (by decide), if_pos rfl, List.map_map, List.zip_map']
  rfl

end Job

/-- A controller finds in the frame of a read what it is to read. -/
theorem ReadRequest.read?_bytes {request : ReadRequest} (few : request.tags.length < 256) :
    Job.read? request.bytes =
      some (request.reference, .read (request.tags.map Specification.of)) := by
  rw [bytes_eq_request, Job.read?_request _ (sections_short few), Job.ofSections?_read few]
  rfl

/-- A controller finds in the frame of a write what it is to write. -/
theorem WriteRequest.read?_bytes {request : WriteRequest} (few : request.items.length < 256)
    (wellFormed : ∀ item ∈ request.items, item.WellFormed) (short : request.length < 65536) :
    Job.read? request.bytes =
      some (request.reference,
        .write (request.items.map WriteItem.job)) := by
  rw [bytes_eq_request, Job.read?_request _ (sections_short short),
    Job.ofSections?_write few wellFormed]
  rfl

end S7Link
