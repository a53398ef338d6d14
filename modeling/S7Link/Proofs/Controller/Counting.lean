import S7Link.Proofs.Controller.ReadBack
import S7Link.Proofs.Controller.Serving

/-!
# Payloads that cannot be counted

A controller that counts its payloads in bits tells their number in a word. The bits of 8192 bytes
are one too many for it, so of a larger payload it tells the remainder (`Tag.counted`), and a reader
refuses the item. Only floating-point numbers are counted in bytes. From such a controller a batch
gives values if and only if the memory holds every item and every item can be counted
(`ReadBatch.yields_values_counted`); if the memory holds all of them, the fault is that of the
first item that cannot be counted (`ReadPlan.exists_uncountable`).
-/

namespace S7Link

open Outcome Plan Request

namespace Tag

/-- The controller that counts in bits can tell the length of the payload. -/
def Countable (tag : Tag) : Prop := tag.type = .real ∨ tag.size ≤ maxBitCountedSize

/-- The number of bytes that the controller tells. -/
def counted (tag : Tag) : Nat :=
  if tag.type = .real then tag.size else tag.size % (maxBitCountedSize + 1)

theorem counted_eq_iff {tag : Tag} : tag.counted = tag.size ↔ tag.Countable := by
  unfold counted Countable maxBitCountedSize
  split
  · next real => exact ⟨fun _ => Or.inl real, fun _ => rfl⟩
  · next notReal =>
    rw [or_iff_right notReal]
    omega

end Tag

/-- The memory has nothing at the tag, or a payload that can be counted. -/
def Memory.Tellable (memory : Memory) (tag : Tag) : Prop :=
  memory.holds tag = true → tag.Countable

namespace Controller

variable {memory : Memory} {tag : Tag} {header : ItemHeader}

/-! ## One entry -/

/-- Bits are counted up to the end of the last byte, modulo the size of a word. -/
theorem bytes_of_bits (size : Nat) :
    ((UInt16.ofNat (8 * size)).toNat + 7) / 8 = size % (maxBitCountedSize + 1) := by
  have word : (UInt16.ofNat (8 * size)).toNat = 8 * size % 65536 := UInt16.toNat_ofNat'
  unfold maxBitCountedSize
  rw [word]
  omega

theorem payloadLength_announce (short : tag.size ≤ 65535) :
    let (code, length) := announce (Specification.of tag).code tag.size
    Reply.payloadLength code length.toNat = .ok tag.counted := by
  have bits := bytes_of_bits tag.size
  unfold announce Specification.of transfer Tag.counted
  cases type : tag.type with
  | bit =>
    have size : tag.size = 1 := by rw [Tag.size, type]; rfl
    rw [size]
    rfl
  | real => exact congrArg Except.ok (UInt16.toNat_ofNat_of_lt' (Nat.lt_succ_of_le short))
  | _ => exact congrArg Except.ok bits

/-- An entry answers a tag if the payload that the memory has is denoted by what stands before
it. -/
theorem answers_entry_of (short : tag.size ≤ 65535)
    (denotes : memory.holds tag = true →
      let (code, length) := header (Specification.of tag).code tag.size
      Reply.Denotes code length.toNat tag.size) (isLast : Bool) :
    (entry header memory (Specification.of tag) isLast).Answers tag.size isLast := by
  rw [← Memory.isSome_payload?] at denotes
  unfold entry
  cases told : memory.payload? tag with
  | none =>
    rw [Memory.fetch_of_none short told]
    exact ⟨memory.refusal_ne_success tag.region, Or.inl rfl⟩
  | some payload =>
    rw [told] at denotes
    have length := Memory.length_of_payload? told
    rw [Memory.fetch_of_some short told]
    dsimp only
    rw [length]
    exact ⟨denotes rfl, length, List.length_replicate⟩

theorem answers_announced (short : tag.size ≤ 65535) (tellable : memory.Tellable tag)
    (isLast : Bool) :
    (entry announce memory (Specification.of tag) isLast).Answers tag.size isLast := by
  refine answers_entry_of short (fun held => ?_) isLast
  have told := payloadLength_announce short
  rw [Tag.counted_eq_iff.mpr (tellable held)] at told
  exact Reply.payloadLength_eq_ok_iff.mp told

/-- What is told of a payload that cannot be counted is not its length, so it is refused. -/
theorem takeItem_announced (short : tag.size ≤ 65535) (untellable : ¬memory.Tellable tag)
    (isLast : Bool) (rest : Bytes) :
    Reply.takeItem tag isLast
        ((entry announce memory (Specification.of tag) isLast).bytes ++ rest) =
      .error (.itemSize tag tag.counted) := by
  obtain ⟨held, uncountable⟩ := Classical.not_imp.mp untellable
  rw [← Memory.isSome_payload?] at held
  obtain ⟨payload, told⟩ := Option.isSome_iff_exists.mp held
  have length := Memory.length_of_payload? told
  unfold entry
  rw [Memory.fetch_of_some short told]
  dsimp only
  rw [length]
  have announced := payloadLength_announce short
  generalize announce (Specification.of tag).code tag.size = front at announced ⊢
  obtain ⟨code, count⟩ := front
  obtain ⟨high, low, written, read, _⟩ := BigEndian.ofWord_eq count
  dsimp only at announced ⊢
  rw [← read] at announced
  rw [Reply.Entry.bytes, written]
  refine bind_eq_error_iff.mpr (Or.inr ⟨tag.counted, announced, ?_⟩)
  dsimp only
  rw [if_pos (mt Tag.counted_eq_iff.mp uncountable)]

/-! ## All entries -/

theorem entries_cons (header : ItemHeader) (memory : Memory) (tag : Tag) (tags : List Tag) :
    entries header memory ((tag :: tags).map Specification.of) =
      entry header memory (Specification.of tag) tags.isEmpty ::
        entries header memory (tags.map Specification.of) := by
  rw [List.map_cons, entries, List.isEmpty_map]

theorem length_entries (header : ItemHeader) (memory : Memory) (tags : List Tag) :
    (entries header memory (tags.map Specification.of)).length = tags.length := by
  induction tags with
  | nil => rfl
  | cons tag tags ih => rw [entries_cons, List.length_cons, List.length_cons, ih]

theorem answerAll_entries_of {tags : List Tag}
    (answers : ∀ tag ∈ tags, ∀ isLast,
      (entry header memory (Specification.of tag) isLast).Answers tag.size isLast) :
    Reply.Entry.AnswerAll (tags.map Tag.size)
      (entries header memory (tags.map Specification.of)) := by
  induction tags with
  | nil => trivial
  | cons tag tags ih =>
    rw [List.forall_mem_cons] at answers
    rw [entries_cons]
    refine ⟨?_, ih answers.2⟩
    rw [List.isEmpty_map]
    exact answers.1 tags.isEmpty

/-- The items before one that cannot be counted are taken, and this one is refused. -/
theorem takeItems_announced {tags : List Tag} (short : ∀ tag ∈ tags, tag.size ≤ 65535)
    (stops : StopsAt memory.Tellable tags tag) :
    Reply.takeItems tags
        ((entries announce memory (tags.map Specification.of)).flatMap Reply.Entry.bytes) =
      .error (.itemSize tag tag.counted) := by
  obtain ⟨before, after, rfl, tellable, untellable⟩ := stops
  induction before with
  | nil =>
    rw [List.nil_append] at short ⊢
    rw [entries_cons, List.flatMap_cons]
    exact bind_eq_error_iff.mpr
      (Or.inl (takeItem_announced (short tag List.mem_cons_self) untellable _ _))
  | cons first before ih =>
    rw [List.forall_mem_cons] at tellable
    rw [List.cons_append, List.forall_mem_cons] at short
    have notLast : (before ++ tag :: after).isEmpty = false := by simp
    rw [List.cons_append, entries_cons, List.flatMap_cons]
    refine bind_eq_error_iff.mpr (Or.inr ⟨_, Reply.takeItem_bytes
      (answers_announced short.1 tellable.1 _) _ ?_, ?_⟩)
    · intro last
      cases notLast.symm.trans last
    · exact bind_eq_error_iff.mpr (Or.inl (ih short.2 tellable.2))

/-- How a length is told does not change how long an entry is. -/
theorem length_flatMap_entries (header other : ItemHeader) (memory : Memory)
    (items : List Specification) :
    ((entries header memory items).flatMap Reply.Entry.bytes).length =
      ((entries other memory items).flatMap Reply.Entry.bytes).length := by
  induction items with
  | nil => rfl
  | cons s items ih =>
    rw [entries, entries, List.flatMap_cons, List.flatMap_cons, List.length_append,
      List.length_append, ih]
    congr 1
    unfold entry
    cases memory.fetch s with
    | ok payload => rfl
    | error status => rfl

theorem length_flatMap_entries_le (header : ItemHeader) (memory : Memory) {tags : List Tag}
    (short : ∀ tag ∈ tags, tag.size ≤ 65535) :
    ((entries header memory (tags.map Specification.of)).flatMap Reply.Entry.bytes).length ≤
      Frame.alignedLength ((tags.map Tag.size).map (itemHeaderSize + ·)) := by
  rw [length_flatMap_entries header (fun _ size => (0x09, UInt16.ofNat size))]
  apply Reply.Entry.length_flatMap_bytes_le
  apply answerAll_entries_of
  intro tag member isLast
  have counts := counts_bytes (Specification.of tag).code tag.size
    (Nat.lt_succ_of_le (short tag member))
  exact answers_entry_of (short tag member) (fun _ => counts) isLast

end Controller

namespace ReadBatch

variable {memory : Memory} {batch : ReadBatch} {reply : Reply}

/-- The answer to a batch from a controller that counts in bits. -/
def Counted (memory : Memory) (batch : ReadBatch) (reply : Reply) : Prop :=
  reply.Carries
    (Controller.entries Controller.announce memory (batch.tags.map Specification.of))

/-- A batch with an item that cannot be counted gives no values. -/
theorem values_eq_error_counted (short : ∀ tag ∈ batch.tags, tag.size ≤ 65535)
    (counted : batch.Counted memory reply) {tag : Tag}
    (stops : StopsAt memory.Tellable batch.tags tag) :
    batch.values reply = .error (.malformed (.itemSize tag tag.counted)) := by
  have taken := Controller.takeItems_announced short stops
  rw [← counted.data] at taken
  have asked : reply.checkFunction readFunction batch.tags.length = .ok () := by
    rw [Reply.checkFunction, if_neg (not_not.mpr counted.function),
      if_neg (not_not.mpr (counted.count.trans (Controller.length_entries _ _ _)))]
  have unread : reply.readItems batch.tags = .error (.itemSize tag tag.counted) :=
    bind_eq_error_iff.mpr (Or.inr ⟨(), asked, taken⟩)
  have success := Reply.checkError_eq_ok_iff.mpr counted.isSuccess
  refine bind_eq_error_iff.mpr (Or.inl (bind_eq_error_iff.mpr (Or.inr ⟨(), success, ?_⟩)))
  exact bind_eq_error_iff.mpr (Or.inl (mapError_eq_error_iff.mpr ⟨_, unread, rfl⟩))

/-- If all items can be counted, they are told as they are in the memory. -/
theorem reports_announced (short : ∀ tag ∈ batch.tags, tag.size ≤ 65535)
    (tellable : ∀ tag ∈ batch.tags, memory.Tellable tag) :
    batch.Reports memory
      (Controller.entries Controller.announce memory (batch.tags.map Specification.of)) where
  answer := Controller.answerAll_entries_of fun tag member isLast =>
    Controller.answers_announced (short tag member) (tellable tag member) isLast
  tells := by
    refine List.forall₂_map_left_iff.mp (List.forall₂_iff_zip.mpr ⟨?_, fun member => ?_⟩)
    · rw [Controller.length_entries, List.length_map]
    · exact Controller.tells_entries _ member

/-- A batch gives values if the memory holds every item and every item can be counted. -/
theorem yields_values_counted {largest : Nat}
    (covers : ∀ item ∈ batch.items, item.Covers largest)
    (short : ∀ item ∈ batch.items, item.tag.size ≤ 65535)
    (counted : batch.Counted memory reply) :
    Yields (batch.values reply)
      (∀ item ∈ batch.items, memory.holds item.tag = true ∧ item.tag.Countable)
      (memory.Valued (batch.items.flatMap (·.members))) := by
  have shortTags : ∀ tag ∈ batch.tags, tag.size ≤ 65535 := List.forall_mem_map.mpr short
  by_cases tellable : ∀ tag ∈ batch.tags, memory.Tellable tag
  · have reports := reports_announced shortTags tellable
    refine (yields_values covers short reports counted).congr ⟨fun held item inBatch => ?_, ?_⟩
    · have found := held item inBatch
      exact ⟨found, tellable item.tag (List.mem_map_of_mem inBatch) found⟩
    · exact fun given item inBatch => (given item inBatch).1
  · obtain ⟨tag, stops⟩ := exists_stopsAt tellable
    refine Yields.of_error (values_eq_error_counted shortTags counted stops) fun given => ?_
    refine tellable (List.forall_mem_map.mpr fun item inBatch _ => ?_)
    exact (given item inBatch).2

end ReadBatch

namespace ReadPlan

variable {memory : Memory} {tags : List Tag} {limits : Limits} {optimize : Bool}
  {plan : ReadPlan} {replies : List Reply}

theorem yields_values_counted_of_mem (made : make tags limits optimize = .ok plan)
    {batch : ReadBatch} (inBatches : batch ∈ plan.batches) {reply : Reply}
    (counted : batch.Counted memory reply) :
    Yields (batch.values reply)
      (∀ item ∈ batch.items, memory.holds item.tag = true ∧ item.tag.Countable)
      (memory.Valued (batch.items.flatMap (·.members))) :=
  ReadBatch.yields_values_counted
    (fun item inBatch => covers_of_make made item (mem_items inBatches inBatch))
    (fun item inBatch => size_le_of_make made item (mem_items inBatches inBatch)) counted

/-- A plan gives values if the memory holds every item and every item can be counted. -/
theorem yields_values_counted (made : make tags limits optimize = .ok plan)
    (told : List.Forall₂ (ReadBatch.Counted memory) plan.batches replies) :
    Yields (plan.values replies)
      (∀ item ∈ plan.items, memory.holds item.tag = true ∧ item.tag.Countable)
      (fun values => tags.map memory.value? = values.map some) := by
  have known := (List.forall₂_and_left _ _).mpr
    ⟨fun batch (inBatches : batch ∈ plan.batches) => inBatches, told⟩
  refine Yields.congr (yields_values_of_batches made (known.imp ?_)) List.forall_mem_flatMap.symm
  exact fun batch reply given => yields_values_counted_of_mem made given.1 given.2

/-- If the memory holds all items of a batch, the fault is that of the first which cannot be
counted. -/
theorem values_eq_error_of_stopsAt (made : make tags limits optimize = .ok plan)
    {batch : ReadBatch} (inBatches : batch ∈ plan.batches) {reply : Reply}
    (counted : batch.Counted memory reply)
    (held : ∀ item ∈ batch.items, memory.holds item.tag = true) {item : ReadItem}
    (stops : StopsAt (fun item => item.tag.Countable) batch.items item) :
    batch.values reply = .error (.malformed (.itemSize item.tag item.tag.counted)) := by
  have short : ∀ tag ∈ batch.tags, tag.size ≤ 65535 := List.forall_mem_map.mpr
    fun item inBatch => size_le_of_make made item (mem_items inBatches inBatch)
  refine ReadBatch.values_eq_error_counted short counted (StopsAt.map ?_)
  refine stops.congr fun item inBatch => ⟨fun countable _ => countable, fun tellable => ?_⟩
  exact tellable (held item inBatch)

/-- If the memory holds all tags, a plan fails for the first item that cannot be counted. -/
theorem exists_uncountable (made : make tags limits optimize = .ok plan)
    (told : List.Forall₂ (ReadBatch.Counted memory) plan.batches replies)
    (held : ∀ tag ∈ tags, memory.holds tag = true)
    (uncountable : ¬∀ item ∈ plan.items, item.tag.Countable) :
    ∃ item, StopsAt (fun item => item.tag.Countable) plan.items item ∧
      plan.values replies = .error (.malformed (.itemSize item.tag item.tag.counted)) := by
  have heldItems := (holds_items_iff memory made).mpr held
  have known : ∀ pair ∈ plan.batches.zip replies,
      pair.1 ∈ plan.batches ∧ pair.1.Counted memory pair.2 := fun pair member =>
    ⟨(List.of_mem_zip member).1, (List.forall₂_iff_zip.mp told).2 member⟩
  have whole : (plan.batches.zip replies).flatMap (·.1.items) = plan.items := by
    rw [items, ← List.map_fst_zip (Nat.le_of_eq told.length_eq), List.flatMap_map,
      List.map_fst_zip (Nat.le_of_eq told.length_eq)]
  rw [← whole, List.forall_mem_flatMap] at uncountable
  -- The first answer that is refused is the first with an item that cannot be counted.
  obtain ⟨pair, answersStop⟩ := exists_stopsAt uncountable
  obtain ⟨inBatches, counted⟩ := known pair answersStop.mem
  obtain ⟨before, after, split, through, untold⟩ := id answersStop
  obtain ⟨item, itemsStop⟩ := exists_stopsAt untold
  have refused :=
    values_eq_error_of_stopsAt made inBatches counted (heldItems _ inBatches) itemsStop
  have passed : ∀ pair ∈ before, ∃ values, pair.1.values pair.2 = .ok values := by
    intro pair earlier
    obtain ⟨inBatches, counted⟩ := known pair (split ▸ List.mem_append_left _ earlier)
    refine (yields_values_counted_of_mem made inBatches counted).ok_iff.mpr fun item inBatch => ?_
    exact ⟨heldItems pair.1 inBatches item inBatch, through pair earlier item inBatch⟩
  refine ⟨item, whole ▸ answersStop.flatMap itemsStop, ?_⟩
  refine bind_eq_error_iff.mpr (Or.inr ⟨(), checkAnswerCount_eq_ok_iff.mpr told.length_eq, ?_⟩)
  rw [split]
  exact bind_eq_error_iff.mpr (Or.inl (mapM_append_cons_eq_error passed refused))

end ReadPlan

end S7Link
