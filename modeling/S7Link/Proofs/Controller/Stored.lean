import S7Link.Proofs.Controller.WriteEffect
import S7Link.Proofs.Plan.Extract
import S7Link.Proofs.Value.Accepted

/-!
# Tags have what was stored in them

A tag whose payload was stored has the value that is read from the payload, and a tag that has no
bit in common with it has the value that it had before. So after payloads were stored in tags that
lie apart, each of the tags has the value of its own payload, in whatever order they were stored
(`Memory.value?_of_putAll?`).
-/

namespace S7Link

/-- Two tags have no bit in common: they lie in different regions or in different bytes, or they are
different bits of one byte. -/
def Tag.Apart (first second : Tag) : Prop :=
  first.region ≠ second.region ∨ first.stop ≤ second.start ∨ second.stop ≤ first.start ∨
    first.type = .bit ∧ second.type = .bit ∧ first.bit ≠ second.bit

instance (first second : Tag) : Decidable (first.Apart second) := by
  unfold Tag.Apart
  infer_instance

/-- The byte of a bit is no other tag's, or only its other bits are. -/
theorem Tag.Apart.not_touches {tag other : Tag} (apart : tag.Apart other)
    (isBit : tag.type = .bit) : ¬other.Touches tag.region tag.start tag.bit := by
  intro touches
  obtain ⟨region, low, high, bits⟩ := touches
  have size : tag.size = 1 := by rw [Tag.size, isBit]; rfl
  have small := tag.bit_le
  rcases apart with away | before | behind | ⟨_, isBit', differ⟩
  · exact away region.symm
  · rw [Tag.stop, size] at before
    omega
  · omega
  · have same := bits isBit'
    omega

namespace Memory

variable {memory next last : Memory} {tag other : Tag} {payload : Bytes}

theorem bit?_of_storeBit?_self {region : Region} {start bit : Nat} {state : Bool}
    (stored : memory.storeBit? region start bit state = some next) :
    next.bit? region start bit = some state := by
  rcases storeBit?_eq_some_iff.mp stored with ⟨byte, _, replaced⟩
  have after := bytes?_of_store? replaced
  rw [List.length_singleton] at after
  rw [bit?, after]
  exact congrArg some (Byte.bit_setBit_self byte bit state)

/-- A tag has the value of the payload that was stored in it. -/
theorem value?_of_put? (stored : memory.put? tag payload = some next)
    (length : payload.length = tag.size) :
    next.value? tag = Value.decode? tag.type tag.length payload := by
  by_cases isBit : tag.type = .bit
  · rw [put?_of_bit memory isBit] at stored
    have enough : tag.type.size tag.length ≤ payload.length := Nat.le_of_eq length.symm
    have all : payload.take (tag.type.size tag.length) = payload :=
      List.take_of_length_le (Nat.le_of_eq length)
    rw [isBit] at enough all
    rw [value?_of_bit next isBit, bit?_of_storeBit?_self stored, isBit, Value.decode?_bit enough,
      all]
    rfl
  · rw [put?_of_bytes memory isBit] at stored
    have found := bytes?_of_store? stored
    rw [length] at found
    rw [value?_of_bytes next isBit, found, Option.bind_some]

/-- Bytes that a payload was not stored in are as they were. -/
theorem bytes?_of_put? (stored : memory.put? other payload = some next)
    (length : payload.length = other.size) {region : Region} {start count : Nat}
    (apart : region ≠ other.region ∨ start + count ≤ other.start ∨ other.stop ≤ start) :
    next.bytes? region start count = memory.bytes? region start count := by
  by_cases isBit : other.type = .bit
  · rw [put?_of_bit memory isBit] at stored
    have size : other.size = 1 := by rw [Tag.size, isBit]; rfl
    rcases storeBit?_eq_some_iff.mp stored with ⟨byte, _, replaced⟩
    apply bytes?_of_store?_of_disjoint replaced
    rwa [List.length_singleton, ← size]
  · rw [put?_of_bytes memory isBit] at stored
    apply bytes?_of_store?_of_disjoint stored
    rwa [length]

/-- A tag has the value that it had before, if a payload was stored apart from it. -/
theorem value?_of_put?_of_apart (stored : memory.put? other payload = some next)
    (length : payload.length = other.size) (apart : tag.Apart other) :
    next.value? tag = memory.value? tag := by
  by_cases isBit : tag.type = .bit
  · rw [value?_of_bit next isBit, value?_of_bit memory isBit,
      bit?_of_put? stored length (apart.not_touches isBit)]
  · rw [value?_of_bytes next isBit, value?_of_bytes memory isBit, bytes?_of_put? stored length]
    rcases apart with away | before | behind | ⟨isBit', _⟩
    · exact Or.inl away
    · exact Or.inr (Or.inl before)
    · exact Or.inr (Or.inr behind)
    · exact absurd isBit' isBit

/-! ## Payloads one after another -/

variable {pairs : List (Tag × Bytes)}

theorem value?_of_putAll?_of_apart (stored : memory.putAll? pairs = some last)
    (lengths : ∀ pair ∈ pairs, pair.2.length = pair.1.size)
    (apart : ∀ pair ∈ pairs, tag.Apart pair.1) : last.value? tag = memory.value? tag := by
  induction pairs generalizing memory with
  | nil =>
    cases stored
    rfl
  | cons pair pairs ih =>
    obtain ⟨next, first, rest⟩ := Option.bind_eq_some_iff.mp stored
    rw [List.forall_mem_cons] at lengths apart
    rw [ih rest lengths.2 apart.2, value?_of_put?_of_apart first lengths.1 apart.1]

/-- Tags that lie apart have the values of the payloads that were stored in them. -/
theorem value?_of_putAll? (stored : memory.putAll? pairs = some last)
    (lengths : ∀ pair ∈ pairs, pair.2.length = pair.1.size)
    (apart : (pairs.map Prod.fst).Pairwise Tag.Apart) :
    ∀ pair ∈ pairs, last.value? pair.1 = Value.decode? pair.1.type pair.1.length pair.2 := by
  induction pairs generalizing memory with
  | nil => exact List.forall_mem_nil _
  | cons pair pairs ih =>
    obtain ⟨next, first, rest⟩ := Option.bind_eq_some_iff.mp stored
    rw [List.forall_mem_cons] at lengths
    rw [List.map_cons, List.pairwise_cons] at apart
    refine List.forall_mem_cons.mpr ⟨?_, ih rest lengths.2 apart.2⟩
    have others : ∀ later ∈ pairs, pair.1.Apart later.1 :=
      fun later member => apart.1 later.1 (List.mem_map_of_mem member)
    rw [value?_of_putAll?_of_apart rest lengths.2 others, value?_of_put? first lengths.1]

end Memory

end S7Link
