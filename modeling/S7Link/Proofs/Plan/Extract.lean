import S7Link.Proofs.Controller.Cells
import S7Link.Proofs.Plan.Members

/-!
# Members have in their item what they have in memory

The payload of an item holds what the memory holds at the item, so what is cut out of it for a
member is what the member has in memory. A bit that is read alone comes as a byte of its own; in a
range of bytes it is one bit of a byte, counted from the other end than in its address. An item is
held by a memory if and only if all its members are, because one of them ends where the item ends
(`Covers.holds_iff`).
-/

namespace S7Link

open Plan

theorem Memory.value?_of_bit (memory : Memory) {tag : Tag} (isBit : tag.type = .bit) :
    memory.value? tag = (memory.bit? tag.region tag.start tag.bit).map .bool := by
  unfold value?
  rw [isBit]

theorem Memory.value?_of_bytes (memory : Memory) {tag : Tag} (wider : tag.type ≠ .bit) :
    memory.value? tag =
      (memory.bytes? tag.region tag.start tag.size).bind (Value.decode? tag.type tag.length) := by
  unfold value?
  split
  · next isBit => exact absurd isBit wider
  · rfl

namespace ReadItem

variable {memory : Memory} {largest : Nat} {item : ReadItem} {member : Indexed Tag}
  {payload : Bytes}

/-- A bit that is read alone. -/
theorem value?_of_bit (isBit : item.tag.type = .bit)
    (told : memory.payload? item.tag = some payload) :
    item.value? item.tag payload = memory.value? item.tag := by
  have size := Memory.length_of_payload? told
  rw [Memory.payload?_of_bit memory isBit] at told
  obtain ⟨state, found, rfl⟩ := Option.map_eq_some_iff.mp told
  unfold value?
  rw [if_neg fun wider => wider.1 isBit, slice_self item size,
    Memory.value?_of_bit memory isBit, found, isBit]
  cases state <;> rfl

/-- A tag within the bytes of an item. -/
theorem value?_of_bytes {tag : Tag} (wider : item.tag.type ≠ .bit)
    (contains : item.tag.contains tag = true) (told : memory.payload? item.tag = some payload) :
    item.value? tag payload = memory.value? tag := by
  rw [Memory.payload?_of_bytes memory wider] at told
  obtain ⟨region, low, high⟩ := Tag.contains_iff.mp contains
  have length := Memory.length_of_bytes? told
  have pos := tag.size_pos
  have reach : tag.start + tag.size ≤ item.tag.start + item.tag.size := high
  rw [region] at told
  unfold value? slice
  by_cases isBit : tag.type = .bit
  · have byte : tag.start - item.tag.start < payload.length := by omega
    rw [if_pos ⟨wider, isBit⟩, List.head?_take, if_neg (Nat.ne_of_gt pos), List.head?_drop,
      Memory.value?_of_bit memory isBit, Memory.bit?_within told tag.bit low (by omega),
      List.getElem?_eq_getElem byte]
    rfl
  · rw [if_neg fun both => isBit both.2, Memory.value?_of_bytes memory isBit,
      Memory.bytes?_within told low reach, Option.bind_some]

/-- What is cut out of a payload for a member is what the member has in memory. -/
theorem Covers.value?_eq (covers : item.Covers largest) (inItem : member ∈ item.members)
    (told : memory.payload? item.tag = some payload) :
    item.value? member.value payload = memory.value? member.value := by
  by_cases isBit : item.tag.type = .bit
  · rw [covers.value_eq_of_bit isBit inItem]
    exact value?_of_bit isBit told
  · exact value?_of_bytes isBit (covers.contains member inItem) told

/-- A memory holds an item if and only if it holds all members. -/
theorem Covers.holds_iff (covers : item.Covers largest) :
    memory.holds item.tag = true ↔ ∀ member ∈ item.members, memory.holds member.value = true := by
  constructor
  · intro held member inItem
    exact Memory.holds_of_contains (covers.contains member inItem) held
  · intro held
    obtain ⟨member, inItem, reached⟩ := covers.stop_reached
    obtain ⟨region, _, _⟩ := Tag.contains_iff.mp (covers.contains member inItem)
    obtain ⟨block, found, fits⟩ := Memory.holds_iff.mp (held member inItem)
    exact Memory.holds_iff.mpr ⟨block, region ▸ found, reached ▸ fits⟩

end ReadItem

end S7Link
