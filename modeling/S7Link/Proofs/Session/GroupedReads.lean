import S7Link.Proofs.Controller.Counting
import S7Link.Proofs.Session.ReadAfterWrite

/-!
# Grouped reads from a controller that counts in bits

Whether or not tags are grouped should make no difference to the values that are read. What is
written is kept below the size at which the bits of a payload no longer fit in a word, but what is
read, and with it a range of neighbours, grows with the PDU size alone. So a session that reads each
tag by itself may succeed where one that groups them fails: it does so exactly if a range has more
than 8191 bytes, and the fault is that of the first such range (`Session.read_grouped_iff`). Up to a
PDU size of 8217 there is no such range.
-/

namespace S7Link

open Outcome Plan Request

/-- The session with the grouping of tags switched on or off. -/
def Session.grouping {σ : Type} (session : Session σ) (optimize : Bool) : Session σ :=
  { session with config := { session.config with optimize } }

/-! ## Ranges that can be counted -/

/-- The bits of the item can be counted if it is a range of bytes. -/
def ReadItem.RangeCountable (item : ReadItem) : Prop :=
  item.isPacked = true → item.tag.size ≤ maxBitCountedSize

/-- An item that is no range of bytes is one of its tags. -/
theorem ReadItem.exists_member_of_not_isPacked {item : ReadItem} (plain : ¬item.isPacked = true) :
    ∃ member ∈ item.members, member.value = item.tag := by
  have first : item.members.head?.map (·.value) = some item.tag := by
    simp only [isPacked, Bool.or_eq_true, bne_iff_ne, not_or, not_not] at plain
    exact plain.2
  obtain ⟨member, found, same⟩ := Option.map_eq_some_iff.mp first
  exact ⟨member, List.mem_of_head? found, same⟩

theorem ReadItem.Covers.type_of_isPacked {largest : Nat} {item : ReadItem}
    (covers : item.Covers largest) (packed : item.isPacked = true) : item.tag.type = .byte := by
  refine covers.shape.resolve_left ?_
  rintro ⟨member, members, same⟩
  simp [isPacked, members, same] at packed

/-- An item of tags that can be counted can be counted itself unless it is too large a range. -/
theorem ReadItem.Covers.countable_iff {largest : Nat} {item : ReadItem}
    (covers : item.Covers largest)
    (countable : ∀ member ∈ item.members, member.value.Countable) :
    item.tag.Countable ↔ item.RangeCountable := by
  by_cases packed : item.isPacked = true
  · have wider : item.tag.type ≠ .real := by
      rw [covers.type_of_isPacked packed]
      nofun
    exact (or_iff_right wider).trans ⟨fun small _ => small, fun given => given packed⟩
  · obtain ⟨member, inItem, same⟩ := exists_member_of_not_isPacked packed
    exact iff_of_true (same ▸ countable member inItem) fun given => absurd given packed

/-- If all tags of a plan can be counted, so can its items, unless they are too large ranges. -/
theorem ReadPlan.countable_iff {tags : List Tag} {limits : Limits} {optimize : Bool}
    {plan : ReadPlan} (made : make tags limits optimize = .ok plan)
    (countable : ∀ tag ∈ tags, tag.Countable) :
    ∀ item ∈ plan.items, item.tag.Countable ↔ item.RangeCountable := by
  refine fun item inPlan => (covers_of_make made item inPlan).countable_iff ?_
  intro member inItem
  have inAll := (members_perm made).mem_iff.mp (List.mem_flatMap.mpr ⟨item, inPlan, inItem⟩)
  exact countable member.value (Indexed.value_mem_of_mem_all inAll)

/-- A small PDU size keeps every item below the size at which its bits no longer fit in a word. -/
theorem ReadPlan.rangeCountable_of_small {tags : List Tag} {limits : Limits} {optimize : Bool}
    {plan : ReadPlan} (made : make tags limits optimize = .ok plan)
    (small : limits.pduSize.toNat ≤ 8217) : ∀ item ∈ plan.items, item.RangeCountable := by
  intro item inPlan _
  refine Nat.le_trans (covers_of_make made item inPlan).size_le ?_
  unfold largestRead replyOverhead itemHeaderSize maxBitCountedSize
  split <;> omega

theorem Tag.counted_of_not_countable {tag : Tag} (uncountable : ¬tag.Countable) :
    tag.counted = tag.size % (maxBitCountedSize + 1) :=
  if_neg fun real => uncountable (Or.inl real)

/-! ## Reads from the controller -/

section

variable {memory : Memory} {limits : Limits}

/-- The frame with which the controller answers a batch is read. -/
theorem ReadBatch.Sendable.exists_counted {batch : ReadBatch} (sendable : batch.Sendable limits)
    (short : ∀ tag ∈ batch.tags, tag.size ≤ 65535) (memory : Memory) (reference : UInt16) :
    ∃ reply, Reply.read (Controller.answer reference readFunction batch.items.length
        ((Controller.entries Controller.announce memory (batch.tags.map Specification.of)).flatMap
          Reply.Entry.bytes)) = .ok reply ∧
      reply.header.reference = reference ∧ batch.Counted memory reply :=
  sendable.exists_reply_of_le ((Controller.length_entries _ _ _).trans batch.length_tags)
    (Controller.length_flatMap_entries_le _ _ short) reference

/-- The controller answers batches one after another from its memory. -/
theorem Controller.exists_counted_of_gave {batches : List ReadBatch} {exchanges : List Exchange}
    {last : Memory} (sendable : ∀ batch ∈ batches, batch.Sendable limits)
    (short : ∀ batch ∈ batches, ∀ tag ∈ batch.tags, tag.size ≤ 65535)
    (sent : List.Forall₂ (fun (batch : ReadBatch) exchange =>
      ∃ reference, batch.frame limits.pduSize reference = .ok exchange.request) batches exchanges)
    (gave : Transport.Gave counting memory exchanges last) :
    ∃ replies, List.Forall₂ Exchange.Answered exchanges replies ∧
      List.Forall₂ (ReadBatch.Counted memory) batches replies := by
  refine Transport.Gave.exists_replies (P := fun now => now = memory) ?_ sent gave rfl
  rintro batch member reference exchange now next rfl sent gave
  obtain ⟨carried, asked⟩ := (sendable batch member).asked sent
  obtain ⟨received, unchanged⟩ := Prod.mk.inj (gave.symm.trans (answering_read asked))
  rw [List.length_map, batch.length_tags] at received
  rcases (sendable batch member).exists_counted (short batch member) now reference with
    ⟨reply, read, same, counted⟩
  exact ⟨unchanged, reply, ⟨_, received, read, same ▸ carried⟩, counted⟩

end

namespace Session

open Controller

section

variable (session : Session Memory) {tags : List Tag} {plan : ReadPlan}

/-- A read comes to what its plan makes of the answers of the controller to all batches. -/
theorem exists_counted
    (made : ReadPlan.make tags session.config.limits session.config.optimize = .ok plan) :
    ∃ replies, List.Forall₂ (ReadBatch.Counted session.peer) plan.batches replies ∧
      (session.read counting tags).1 = plan.values replies := by
  obtain ⟨_, exchanges, gave, refines⟩ :=
    (read_asPlanned counting session tags).exists_exchanges made
  have sendable := ReadPlan.sendable_of_make made
  have short : ∀ batch ∈ plan.batches, ∀ tag ∈ batch.tags, tag.size ≤ 65535 :=
    fun batch member => List.forall_mem_map.mpr fun item inBatch =>
      ReadPlan.size_le_of_make made item (ReadPlan.mem_items member inBatch)
  rcases exists_counted_of_gave (fun batch member => sendable batch (List.mem_of_mem_take member))
    (fun batch member => short batch (List.mem_of_mem_take member)) refines.sent gave with
    ⟨replies, answered, counted⟩
  -- The call may end before its last batch; the others would have been answered in the same way.
  have rest : ∀ batch ∈ plan.batches.drop exchanges.length,
      ∃ reply, batch.Counted session.peer reply := by
    intro batch later
    have member := List.mem_of_mem_drop later
    rcases (sendable batch member).exists_counted (short batch member) session.peer 0 with
      ⟨reply, _, _, counted⟩
    exact ⟨reply, counted⟩
  rcases exists_forall₂ rest with ⟨others, countedRest⟩
  have all : List.Forall₂ (ReadBatch.Counted session.peer)
      (plan.batches.take exchanges.length ++ plan.batches.drop exchanges.length)
      (replies ++ others) := List.rel_append counted countedRest
  rw [List.take_append_drop] at all
  refine ⟨replies ++ others, all, refines.answered replies others answered ?_⟩
  rw [← List.length_append]
  exact all.length_eq.symm

/-- A read gives values if the memory holds every item of its plan and every item can be counted. -/
theorem yields_read_counted
    (made : ReadPlan.make tags session.config.limits session.config.optimize = .ok plan) :
    Yields (session.read counting tags).1
      (∀ item ∈ plan.items, session.peer.holds item.tag = true ∧ item.tag.Countable)
      (fun values => tags.map session.peer.value? = values.map some) := by
  rcases session.exists_counted made with ⟨replies, told, result⟩
  rw [result]
  exact ReadPlan.yields_values_counted made told

/-- Tags that are read one by one are there, and each can be counted. -/
theorem items_of_single_iff
    (made : ReadPlan.make tags session.config.limits false = .ok plan) {P : Tag → Prop} :
    (∀ item ∈ plan.items, P item.tag) ↔ ∀ tag ∈ tags, P tag := by
  rw [ReadPlan.items_of_single made, List.forall_mem_map]
  conv_rhs => rw [← Indexed.map_value_all tags, List.forall_mem_map]
  rfl

end

/-- Tags that are held, can be counted and are not too large are read one by one. -/
theorem exists_values_of_single (session : Session Memory) {tags : List Tag}
    (sizes : ∀ tag ∈ tags, tag.size ≤ largestRead session.config.pduSize)
    (known : ∀ tag ∈ tags, session.peer.holds tag = true ∧ tag.Countable) :
    ∃ values, ((session.grouping false).read counting tags).1 = .ok values := by
  have planned : ∃ plan, ReadPlan.make tags session.config.limits false = .ok plan :=
    ReadPlan.exists_make_iff.mpr sizes
  rcases planned with ⟨plan, made⟩
  exact ((session.grouping false).yields_read_counted made).ok_iff.mpr
    ((session.items_of_single_iff made).mpr known)

variable {session : Session Memory} {tags : List Tag} {values : List Value}

/-- Tags that were read one by one are held and can be counted. -/
theorem known_of_single
    (single : ((session.grouping false).read counting tags).1 = .ok values) :
    (∀ tag ∈ tags, tag.size ≤ largestRead session.config.pduSize) ∧
      (∀ tag ∈ tags, session.peer.holds tag = true ∧ tag.Countable) ∧
      tags.map session.peer.value? = values.map some := by
  obtain ⟨plan, made⟩ :=
    (read_asPlanned counting (session.grouping false) tags).exists_plan single
  have yields := (session.grouping false).yields_read_counted made
  exact ⟨(ReadPlan.make_eq_ok_iff.mp made).1,
    (session.items_of_single_iff made).mp (yields.ok_iff.mp ⟨values, single⟩),
    yields.result values single⟩

/-- Whenever tags are read one by one from a controller that counts in bits, the same values come of
grouped reads if and only if no range of neighbours has more than 8191 bytes; otherwise the first
such range is refused, because the controller tells only a remainder of its length. There is no such
range up to a PDU size of 8217. -/
theorem read_grouped_iff
    (single : ((session.grouping false).read counting tags).1 = .ok values) :
    ∃ plan, ReadPlan.make tags session.config.limits true = .ok plan ∧
      (((session.grouping true).read counting tags).1 = .ok values ↔
        ∀ item ∈ plan.items, item.RangeCountable) ∧
      ((¬∀ item ∈ plan.items, item.RangeCountable) →
        ∃ item, StopsAt ReadItem.RangeCountable plan.items item ∧
          ((session.grouping true).read counting tags).1 = .error
            (.malformed (.itemSize item.tag (item.tag.size % (maxBitCountedSize + 1))))) ∧
      (session.config.pduSize.toNat ≤ 8217 →
        ((session.grouping true).read counting tags).1 = .ok values) := by
  obtain ⟨sizes, known, inMemory⟩ := known_of_single single
  have planned : ∃ plan, ReadPlan.make tags session.config.limits true = .ok plan :=
    ReadPlan.exists_make_iff.mpr sizes
  rcases planned with ⟨plan, made⟩
  have held : ∀ tag ∈ tags, session.peer.holds tag = true := fun tag member => (known tag member).1
  have heldItems := List.forall_mem_flatMap.mpr
    ((ReadPlan.holds_items_iff session.peer made).mpr held)
  have countable := ReadPlan.countable_iff made fun tag member => (known tag member).2
  have yields := (session.grouping true).yields_read_counted made
  have grouped : (∀ item ∈ plan.items, item.RangeCountable) →
      ((session.grouping true).read counting tags).1 = .ok values := by
    intro ranges
    obtain ⟨values', done⟩ := yields.ok_iff.mpr fun item inPlan =>
      ⟨heldItems item inPlan, (countable item inPlan).mpr (ranges item inPlan)⟩
    have same := inMemory.symm.trans (yields.result values' done)
    rw [List.map_inj_right (fun _ _ => Option.some.inj)] at same
    rw [same, done]
  refine ⟨plan, made, ⟨fun done item inPlan => ?_, grouped⟩, fun large => ?_, fun small => ?_⟩
  · exact (countable item inPlan).mp (yields.ok_iff.mp ⟨values, done⟩ item inPlan).2
  · rcases (session.grouping true).exists_counted made with ⟨replies, told, result⟩
    have uncountable : ¬∀ item ∈ plan.items, item.tag.Countable := fun all =>
      large fun item inPlan => (countable item inPlan).mp (all item inPlan)
    obtain ⟨item, stops, refused⟩ := ReadPlan.exists_uncountable made told held uncountable
    obtain ⟨_, _, _, _, last⟩ := id stops
    refine ⟨item, stops.congr countable, ?_⟩
    rw [result, refused, Tag.counted_of_not_countable last]
  · exact grouped (ReadPlan.rangeCountable_of_small made small)

/-- A wide text and a word behind it, which together have 8192 bytes. -/
def textAndWord : List Tag :=
  [(Tag.make .dataBlock 1 .wstring 0 0 4093).toOption.get rfl,
    (Tag.make .dataBlock 1 .word 8190 0 1).toOption.get rfl]

/-- A memory that has these bytes. -/
def textAndWordMemory : Memory := fun region =>
  if region = ⟨.dataBlock, 1⟩ then some (List.replicate 8192 0) else none

/-- The memory holds both tags, and each can be counted by itself. -/
theorem known_textAndWord :
    ∀ tag ∈ textAndWord, textAndWordMemory.holds tag = true ∧ tag.Countable := by
  have held : ∀ tag ∈ textAndWord, tag.region = ⟨.dataBlock, 1⟩ ∧ tag.stop ≤ 8192 := by decide
  have small : ∀ tag ∈ textAndWord, tag.size ≤ maxBitCountedSize := by decide
  intro tag member
  obtain ⟨region, stop⟩ := held tag member
  have whole : tag.stop ≤ (List.replicate 8192 (0 : UInt8)).length := by
    rwa [List.length_replicate]
  exact ⟨Memory.holds_iff.mpr ⟨_, if_pos region, whole⟩, Or.inr (small tag member)⟩

/-- Grouped, they are one range. -/
theorem exists_range_textAndWord :
    ∃ plan item, ReadPlan.make textAndWord ⟨8300, 20⟩ true = .ok plan ∧ plan.items = [item] ∧
      item.tag.size = 8192 ∧ item.isPacked = true := by
  have seen : (ReadPlan.make textAndWord ⟨8300, 20⟩ true).toOption.map
      (·.items.map fun item => (item.tag.size, item.isPacked)) = some [(8192, true)] := by
    cbv
  obtain ⟨plan, made, shape⟩ := exists_of_map_toOption seen
  obtain ⟨item, items, given⟩ := List.map_eq_singleton_iff.mp shape
  obtain ⟨size, packed⟩ := Prod.mk.inj given
  exact ⟨plan, item, made, items, size, packed⟩

/-- Each tag can be read by itself, but of the range of both a length of zero is told. -/
theorem read_grouped_iff_textAndWord :
    let session := Session.start ⟨8300, 20, true⟩ textAndWordMemory
    (∃ values, ((session.grouping false).read counting textAndWord).1 = .ok values) ∧
      ∃ tag : Tag, tag.size = 8192 ∧
        ((session.grouping true).read counting textAndWord).1 =
          .error (.malformed (.itemSize tag 0)) := by
  intro session
  have sizes : ∀ tag ∈ textAndWord, tag.size ≤ largestRead session.config.pduSize := by decide
  obtain ⟨values, single⟩ := session.exists_values_of_single sizes known_textAndWord
  obtain ⟨plan, made, _, refused, _⟩ := read_grouped_iff single
  obtain ⟨_, item, made', items, size, packed⟩ := exists_range_textAndWord
  cases made.symm.trans made'
  have large : ¬∀ item ∈ plan.items, item.RangeCountable := by
    intro all
    have small := all item (items ▸ List.mem_singleton_self item) packed
    rw [size] at small
    exact absurd small (by decide)
  obtain ⟨first, stops, failed⟩ := refused large
  have same : first = item := List.mem_singleton.mp (items ▸ stops.mem)
  refine ⟨⟨values, single⟩, item.tag, size, ?_⟩
  rw [failed, same, size]
  rfl

/-- Grouping can make a read fail that succeeds without it. -/
theorem not_read_grouped :
    ¬∀ (pduSize : UInt16) (maxItems : Nat) (memory : Memory) (tags : List Tag)
      (values : List Value),
        ((Session.start ⟨pduSize, maxItems, false⟩ memory).read counting tags).1 = .ok values →
          ((Session.start ⟨pduSize, maxItems, true⟩ memory).read counting tags).1 =
            .ok values := by
  intro claim
  have sizes : ∀ tag ∈ textAndWord, tag.size ≤ largestRead 8300 := by decide
  let session := Session.start ⟨8300, 20, true⟩ textAndWordMemory
  obtain ⟨values, single⟩ := session.exists_values_of_single sizes known_textAndWord
  have grouped := claim 8300 20 textAndWordMemory textAndWord values single
  obtain ⟨plan, item, made, items, size, packed⟩ := exists_range_textAndWord
  have all := (session.yields_read_counted made).ok_iff.mp ⟨values, grouped⟩
  have countable := (all item (items ▸ List.mem_singleton_self item)).2
  have small := (ReadPlan.countable_iff made (fun tag member => (known_textAndWord tag member).2)
    item (items ▸ List.mem_singleton_self item)).mp countable packed
  rw [size] at small
  exact absurd small (by decide)

end Session

end S7Link
