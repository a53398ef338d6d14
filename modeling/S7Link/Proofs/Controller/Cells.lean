import S7Link.Proofs.Byte.Bits
import S7Link.Proofs.Controller.Addressed

/-!
# Cells of a memory

A memory holds a tag if the block of the tag reaches to its end. What lies within bytes that were
read is found in them at the difference of the offsets (`Memory.bytes?_within`,
`Memory.bit?_within`). A payload of the size of a tag is stored if and only if the memory holds the
tag; storing it keeps every block as long as it was and every bit that is not one of the tag's
(`Memory.exists_put?`, `Memory.sameShape_of_put?`, `Memory.bit?_of_put?`).
-/

namespace S7Link

/-- A bit of a region belongs to a tag: it is one of the bits of its bytes, or the only one if the
tag is a bit. -/
def Tag.Touches (tag : Tag) (region : Region) (offset bit : Nat) : Prop :=
  tag.region = region ∧ tag.start ≤ offset ∧ offset < tag.stop ∧
    (tag.type = .bit → bit % 8 = tag.bit)

namespace Memory

variable {memory next : Memory} {region : Region} {tag : Tag}

/-! ## What is held -/

theorem bytes?_eq_some_iff {start count : Nat} {bytes : Bytes} :
    memory.bytes? region start count = some bytes ↔
      ∃ block, memory region = some block ∧ start + count ≤ block.length ∧
        (block.drop start).take count = bytes := by
  rw [bytes?, Option.bind_eq_some_iff]
  constructor
  · intro given
    rcases given with ⟨block, found, taken⟩
    split at taken
    · next fits => exact ⟨block, found, fits, Option.some.inj taken⟩
    · cases taken
  · intro given
    rcases given with ⟨block, found, fits, rfl⟩
    exact ⟨block, found, if_pos fits⟩

theorem isSome_bytes?_iff {start count : Nat} :
    (memory.bytes? region start count).isSome ↔
      ∃ block, memory region = some block ∧ start + count ≤ block.length := by
  rw [Option.isSome_iff_exists]
  constructor
  · intro given
    rcases given with ⟨bytes, found⟩
    obtain ⟨block, block_eq, fits, _⟩ := bytes?_eq_some_iff.mp found
    exact ⟨block, block_eq, fits⟩
  · intro given
    rcases given with ⟨block, block_eq, fits⟩
    exact ⟨_, bytes?_eq_some_iff.mpr ⟨block, block_eq, fits, rfl⟩⟩

theorem holds_iff :
    memory.holds tag = true ↔ ∃ block, memory tag.region = some block ∧ tag.stop ≤ block.length :=
  isSome_bytes?_iff

/-- A bit is found if its byte is. -/
theorem isSome_bit? {start : Nat} (bit : Nat) :
    (memory.bit? region start bit).isSome = (memory.bytes? region start 1).isSome := by
  cases found : memory.bytes? region start 1 with
  | none => rw [bit?, found]; rfl
  | some bytes =>
    obtain ⟨byte, rfl⟩ := List.length_eq_one_iff.mp (length_of_bytes? found)
    rw [bit?, found]
    rfl

/-- A controller has a payload for the tags that its memory holds. -/
theorem isSome_payload? : (memory.payload? tag).isSome = memory.holds tag := by
  by_cases isBit : tag.type = .bit
  · have size : tag.size = 1 := by rw [Tag.size, isBit]; rfl
    rw [payload?_of_bit memory isBit, Option.isSome_map, isSome_bit?, holds, size]
  · rw [payload?_of_bytes memory isBit]
    rfl

theorem length_of_payload? {payload : Bytes} (told : memory.payload? tag = some payload) :
    payload.length = tag.size := by
  by_cases isBit : tag.type = .bit
  · rw [payload?_of_bit memory isBit] at told
    obtain ⟨state, _, rfl⟩ := Option.map_eq_some_iff.mp told
    rw [Tag.size, isBit]
    rfl
  · rw [payload?_of_bytes memory isBit] at told
    exact length_of_bytes? told

/-- A tag is held if the one that contains it is. -/
theorem holds_of_contains {outer inner : Tag} (contains : outer.contains inner = true)
    (held : memory.holds outer = true) : memory.holds inner = true := by
  obtain ⟨region, _, stop⟩ := Tag.contains_iff.mp contains
  obtain ⟨block, found, fits⟩ := holds_iff.mp held
  exact holds_iff.mpr ⟨block, region ▸ found, Nat.le_trans stop fits⟩

/-! ## What lies within bytes that were read -/

section Within

variable {start count offset : Nat} {bytes : Bytes}

theorem bytes?_within (read : memory.bytes? region start count = some bytes) {size : Nat}
    (low : start ≤ offset) (high : offset + size ≤ start + count) :
    memory.bytes? region offset size = some ((bytes.drop (offset - start)).take size) := by
  obtain ⟨block, found, fits, rfl⟩ := bytes?_eq_some_iff.mp read
  refine bytes?_eq_some_iff.mpr ⟨block, found, Nat.le_trans high fits, ?_⟩
  rw [List.drop_take, List.drop_drop, Nat.add_sub_cancel' low, List.take_take, Nat.min_eq_left]
  omega

theorem bit?_within (read : memory.bytes? region start count = some bytes) (bit : Nat)
    (low : start ≤ offset) (high : offset < start + count) :
    memory.bit? region offset bit = bytes[offset - start]?.map (Byte.bit · bit) := by
  rw [bit?, bytes?_within read low high, Option.bind_some, List.head?_take, if_neg Nat.one_ne_zero,
    List.head?_drop]

end Within

/-! ## What is stored -/

/-- Two memories have the same blocks, each as long in one as in the other. -/
def SameShape (memory next : Memory) : Prop :=
  ∀ region, (next region).map List.length = (memory region).map List.length

theorem SameShape.trans {last : Memory} (first : memory.SameShape next)
    (second : next.SameShape last) : memory.SameShape last := fun region =>
  (second region).trans (first region)

theorem SameShape.holds_eq (shape : memory.SameShape next) (tag : Tag) :
    next.holds tag = memory.holds tag := by
  have length := shape tag.region
  rw [Bool.eq_iff_iff, holds_iff, holds_iff]
  cases before : memory tag.region with
  | none =>
    rw [before, Option.map_none, Option.map_eq_none_iff] at length
    rw [length]
  | some block =>
    rw [before, Option.map_some] at length
    rcases Option.map_eq_some_iff.mp length with ⟨after, found, same⟩
    rw [found]
    constructor
    · intro given
      rcases given with ⟨_, equal, fits⟩
      cases equal
      exact ⟨block, rfl, same ▸ fits⟩
    · intro given
      rcases given with ⟨_, equal, fits⟩
      cases equal
      exact ⟨after, rfl, same.symm ▸ fits⟩

section Store

variable {start offset bit : Nat} {data : Bytes} {state : Bool}

theorem store?_eq_some_iff :
    memory.store? region start data = some next ↔
      ∃ block, memory region = some block ∧ start + data.length ≤ block.length ∧
        memory.withBlock region (block.take start ++ data ++ block.drop (start + data.length)) =
          next := by
  rw [store?, Option.bind_eq_some_iff]
  constructor
  · intro given
    rcases given with ⟨block, found, stored⟩
    split at stored
    · next fits => exact ⟨block, found, fits, Option.some.inj stored⟩
    · cases stored
  · intro given
    rcases given with ⟨block, found, fits, rfl⟩
    exact ⟨block, found, if_pos fits⟩

theorem exists_store? {count : Nat} (held : (memory.bytes? region start count).isSome)
    (length : data.length = count) : ∃ next, memory.store? region start data = some next := by
  rcases isSome_bytes?_iff.mp held with ⟨block, found, fits⟩
  rw [← length] at fits
  exact ⟨_, store?_eq_some_iff.mpr ⟨block, found, fits, rfl⟩⟩

theorem sameShape_of_store? (stored : memory.store? region start data = some next) :
    memory.SameShape next := by
  rcases store?_eq_some_iff.mp stored with ⟨block, found, fits, rfl⟩
  intro other
  by_cases same : other = region
  · rw [same, withBlock_self, found, Option.map_some, Option.map_some]
    have length : (block.take start ++ data ++ block.drop (start + data.length)).length =
        block.length := by
      rw [List.length_append, List.length_append, List.length_take, List.length_drop]
      omega
    rw [length]
  · rw [withBlock_of_ne memory _ same]

theorem bit?_of_store? (stored : memory.store? region start data = some next) {other : Region}
    (apart : other ≠ region ∨ offset + 1 ≤ start ∨ start + data.length ≤ offset) :
    next.bit? other offset bit = memory.bit? other offset bit := by
  rw [bit?, bit?, bytes?_of_store?_of_disjoint stored apart]

theorem storeBit?_eq_some_iff :
    memory.storeBit? region start bit state = some next ↔
      ∃ byte, memory.bytes? region start 1 = some [byte] ∧
        memory.store? region start [Byte.setBit byte bit state] = some next := by
  rw [storeBit?, Option.bind_eq_some_iff]
  constructor
  · intro given
    rcases given with ⟨bytes, found, stored⟩
    rcases List.length_eq_one_iff.mp (length_of_bytes? found) with ⟨byte, rfl⟩
    exact ⟨byte, found, stored⟩
  · intro given
    rcases given with ⟨byte, found, stored⟩
    exact ⟨[byte], found, stored⟩

theorem bit?_of_storeBit? (stored : memory.storeBit? region start bit state = some next)
    {other : Region} {otherBit : Nat}
    (apart : other ≠ region ∨ offset ≠ start ∨ otherBit % 8 ≠ bit % 8) :
    next.bit? other offset otherBit = memory.bit? other offset otherBit := by
  rcases storeBit?_eq_some_iff.mp stored with ⟨byte, found, replaced⟩
  by_cases elsewhere : other ≠ region ∨ offset ≠ start
  · apply bit?_of_store? replaced
    rcases elsewhere with away | away
    · exact Or.inl away
    · exact Or.inr (Nat.lt_or_gt_of_ne away)
  · rw [not_or, Decidable.not_not, Decidable.not_not] at elsewhere
    rcases elsewhere with ⟨rfl, rfl⟩
    have bits : otherBit % 8 ≠ bit % 8 := by
      rcases apart with away | away | away
      · exact absurd rfl away
      · exact absurd rfl away
      · exact away
    have after := bytes?_of_store? replaced
    rw [List.length_singleton] at after
    rw [bit?, bit?, after, found]
    exact congrArg some (Byte.bit_setBit_of_ne byte state bits)

end Store

/-! ## Payloads of tags -/

theorem exists_put? {payload : Bytes} (held : memory.holds tag = true)
    (length : payload.length = tag.size) : ∃ next, memory.put? tag payload = some next := by
  by_cases isBit : tag.type = .bit
  · have size : tag.size = 1 := by rw [Tag.size, isBit]; rfl
    rw [holds, size] at held
    rcases Option.isSome_iff_exists.mp held with ⟨bytes, found⟩
    rcases List.length_eq_one_iff.mp (length_of_bytes? found) with ⟨byte, rfl⟩
    rw [put?_of_bit memory isBit]
    have room : ∃ next, memory.store? tag.region tag.start
        [Byte.setBit byte tag.bit (payload.head? != some 0)] = some next :=
      exists_store? held rfl
    rcases room with ⟨next, stored⟩
    exact ⟨next, storeBit?_eq_some_iff.mpr ⟨byte, found, stored⟩⟩
  · rw [put?_of_bytes memory isBit]
    exact exists_store? held length

theorem sameShape_of_put? {payload : Bytes} (stored : memory.put? tag payload = some next) :
    memory.SameShape next := by
  by_cases isBit : tag.type = .bit
  · rw [put?_of_bit memory isBit] at stored
    rcases storeBit?_eq_some_iff.mp stored with ⟨byte, _, replaced⟩
    exact sameShape_of_store? replaced
  · rw [put?_of_bytes memory isBit] at stored
    exact sameShape_of_store? stored

/-- A payload leaves every bit as it was that is not one of its tag's. -/
theorem bit?_of_put? {payload : Bytes} (stored : memory.put? tag payload = some next)
    (length : payload.length = tag.size) {offset bit : Nat}
    (apart : ¬tag.Touches region offset bit) :
    next.bit? region offset bit = memory.bit? region offset bit := by
  by_cases isBit : tag.type = .bit
  · have size : tag.size = 1 := by rw [Tag.size, isBit]; rfl
    have small := tag.bit_le
    rw [put?_of_bit memory isBit] at stored
    apply bit?_of_storeBit? stored
    apply Decidable.byContradiction
    intro together
    apply apart
    rw [not_or, not_or, Decidable.not_not, Decidable.not_not, Decidable.not_not] at together
    rcases together with ⟨rfl, rfl, bits⟩
    exact ⟨rfl, Nat.le_refl _, by rw [Tag.stop, size]; omega, fun _ => by omega⟩
  · rw [put?_of_bytes memory isBit] at stored
    apply bit?_of_store? stored
    rw [length]
    apply Decidable.byContradiction
    intro together
    apply apart
    rw [not_or, not_or, Decidable.not_not, Nat.not_le, Nat.not_le] at together
    rcases together with ⟨rfl, low, high⟩
    exact ⟨rfl, Nat.le_of_lt_succ low, high, fun bit => absurd bit isBit⟩

end Memory

end S7Link
