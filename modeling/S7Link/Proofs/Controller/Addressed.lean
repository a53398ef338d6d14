import S7Link.Controller.Service

/-!
# Tags as they are addressed

The specification of a tag leads a controller back to the tag: to its region, to its bytes and, if
it is a bit, to that bit, which the address counts from the other end of the byte. So a controller
fetches what the tag has in its memory and replaces nothing else (`Memory.fetch_of_some`,
`Memory.replace_of_some`). The count of a specification is a word, so the tag may have no more bytes
than a word can count.
-/

namespace S7Link

open Request

namespace Request.Specification

theorem region?_of (tag : Tag) : (of tag).region? = some tag.region := by
  unfold region? of
  rw [Area.ofCode?_code]
  rfl

theorem isBit_of (tag : Tag) : (of tag).isBit = decide (tag.type = .bit) := by
  unfold isBit of transfer
  cases tag.type <;> rfl

theorem start_of (tag : Tag) : (of tag).start = tag.start := by
  have bit := tag.bit_le
  unfold start of bitAddress
  cases tag.type <;> dsimp only <;> omega

theorem bit_of {tag : Tag} (isBit : tag.type = .bit) : (of tag).bit = tag.bit := by
  have small := tag.bit_le
  unfold bit of bitAddress
  rw [isBit]
  dsimp only
  omega

/-- A cell that is transferred element by element has the bytes of its elements; any other is
transferred byte by byte. -/
theorem size_of {tag : Tag} (countable : tag.size ≤ 65535) : (of tag).size = tag.size := by
  have length : (UInt16.ofNat tag.length).toNat = tag.length :=
    UInt16.toNat_ofNat_of_lt' (Nat.lt_succ_of_le tag.length_le)
  have size : (UInt16.ofNat tag.size).toNat = tag.size :=
    UInt16.toNat_ofNat_of_lt' (Nat.lt_succ_of_le countable)
  unfold Specification.size of transfer
  cases type : tag.type with
  | bit =>
    rw [Tag.size, type]
    rfl
  | byte | char =>
    rw [Tag.size, type]
    exact (congrArg (· * 1) length).trans (Nat.mul_one _)
  | word | int =>
    rw [Tag.size, type]
    exact (congrArg (· * 2) length).trans (Nat.mul_comm _ _)
  | dword | dint | real =>
    rw [Tag.size, type]
    exact (congrArg (· * 4) length).trans (Nat.mul_comm _ _)
  | lreal | string | wstring => exact (congrArg (· * 1) size).trans (Nat.mul_one _)

/-- The address of a tag fits in three bytes. -/
theorem address_of_lt (tag : Tag) : (of tag).address < 16777216 := by
  have start := tag.start_le
  have bound : Region.maxStart = 2097151 := rfl
  unfold of bitAddress
  cases tag.type <;> dsimp only <;> omega

end Request.Specification

namespace Memory

open Request.Specification

/-- What a controller sends of a tag: its bytes, or one byte that is 1 if the tag is a bit that is
set and 0 if it is a bit that is not. -/
def payload? (memory : Memory) (tag : Tag) : Option Bytes :=
  match tag.type with
  | .bit =>
    (memory.bit? tag.region tag.start tag.bit).map fun state => [if state then 1 else 0]
  | _ => memory.bytes? tag.region tag.start tag.size

theorem payload?_of_bit (memory : Memory) {tag : Tag} (isBit : tag.type = .bit) :
    memory.payload? tag =
      (memory.bit? tag.region tag.start tag.bit).map fun state => [if state then 1 else 0] := by
  unfold payload?
  rw [isBit]

theorem payload?_of_bytes (memory : Memory) {tag : Tag} (wider : tag.type ≠ .bit) :
    memory.payload? tag = memory.bytes? tag.region tag.start tag.size := by
  unfold payload?
  split
  · next isBit => exact absurd isBit wider
  · rfl

theorem put?_of_bit (memory : Memory) {tag : Tag} (isBit : tag.type = .bit) (payload : Bytes) :
    memory.put? tag payload =
      memory.storeBit? tag.region tag.start tag.bit (payload.head? != some 0) := by
  unfold put?
  rw [isBit]

theorem put?_of_bytes (memory : Memory) {tag : Tag} (wider : tag.type ≠ .bit) (payload : Bytes) :
    memory.put? tag payload = memory.store? tag.region tag.start payload := by
  unfold put?
  split
  · next isBit => exact absurd isBit wider
  · rfl

theorem refusal_ne_success (memory : Memory) (region : Region) :
    memory.refusal region ≠ .success := by
  unfold refusal
  split <;> decide

/-- What a controller looks for is what it sends of the tag. -/
theorem found_of (memory : Memory) {tag : Tag} (countable : tag.size ≤ 65535) :
    (if (of tag).isBit then
        (memory.bit? tag.region (of tag).start (of tag).bit).map fun state =>
          [if state then 1 else 0]
      else memory.bytes? tag.region (of tag).start (of tag).size) = memory.payload? tag := by
  rw [isBit_of, start_of, size_of countable]
  by_cases isBit : tag.type = .bit
  · rw [payload?_of_bit memory isBit, bit_of isBit, decide_eq_true isBit, if_pos rfl]
  · rw [payload?_of_bytes memory isBit, decide_eq_false isBit, if_neg Bool.false_ne_true]

/-- A controller fetches what a tag has in its memory. -/
theorem fetch_of_some {memory : Memory} {tag : Tag} {payload : Bytes}
    (countable : tag.size ≤ 65535) (told : memory.payload? tag = some payload) :
    memory.fetch (of tag) = .ok payload := by
  unfold fetch
  rw [region?_of]
  dsimp only
  rw [found_of memory countable, told]

theorem fetch_of_none {memory : Memory} {tag : Tag} (countable : tag.size ≤ 65535)
    (told : memory.payload? tag = none) :
    memory.fetch (of tag) = .error (memory.refusal tag.region) := by
  unfold fetch
  rw [region?_of]
  dsimp only
  rw [found_of memory countable, told]

/-- A controller replaces what a tag has in its memory. -/
theorem replace_of_some {memory next : Memory} {tag : Tag} {payload : Bytes}
    (stored : memory.put? tag payload = some next) :
    memory.replace (of tag) payload = (.success, next) := by
  unfold replace
  rw [region?_of, isBit_of, start_of]
  dsimp only
  by_cases isBit : tag.type = .bit
  · rw [put?_of_bit memory isBit] at stored
    rw [bit_of isBit, decide_eq_true isBit, if_pos rfl, stored]
  · rw [put?_of_bytes memory isBit] at stored
    rw [decide_eq_false isBit, if_neg Bool.false_ne_true, stored]

end Memory

end S7Link
