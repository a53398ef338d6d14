import S7Link.Value.Codec

/-!
# The memory of a controller

Each region has either no block or a finite block of bytes. Bytes are read and replaced only where
the block has them all; a block never grows. `Memory.value?` is the value that a tag has in a memory
and `Memory.put?` the memory in which a tag has another payload.
-/

namespace S7Link

/-- What a controller holds. -/
abbrev Memory := Region → Option Bytes

namespace Memory

/-! ## Bytes of a region -/

/-- `count` bytes of a region, if it has so many from `start` on. -/
def bytes? (memory : Memory) (region : Region) (start count : Nat) : Option Bytes :=
  (memory region).bind fun block =>
    if start + count ≤ block.length then some ((block.drop start).take count) else none

/-- The memory with another block in a region. -/
def withBlock (memory : Memory) (region : Region) (block : Bytes) : Memory :=
  fun other => if other = region then some block else memory other

/-- The memory with other bytes in a region, if it has so many from `start` on. -/
def store? (memory : Memory) (region : Region) (start : Nat) (data : Bytes) : Option Memory :=
  (memory region).bind fun block =>
    if start + data.length ≤ block.length then
      some (memory.withBlock region (block.take start ++ data ++ block.drop (start + data.length)))
    else none

/-- Whether a bit of a region is set, if there is such a byte. -/
def bit? (memory : Memory) (region : Region) (start bit : Nat) : Option Bool :=
  (memory.bytes? region start 1).bind fun bytes => bytes.head?.map (Byte.bit · bit)

/-- The memory with another bit in a region, if there is such a byte. -/
def storeBit? (memory : Memory) (region : Region) (start bit : Nat) (state : Bool) :
    Option Memory :=
  (memory.bytes? region start 1).bind fun bytes =>
    bytes.head?.bind fun byte => memory.store? region start [Byte.setBit byte bit state]

/-! ## Cells of a tag -/

/-- Whether the block of a tag has all its bytes. -/
def holds (memory : Memory) (tag : Tag) : Bool :=
  (memory.bytes? tag.region tag.start tag.size).isSome

/-- The value that a tag has, if its block has all its bytes. -/
def value? (memory : Memory) (tag : Tag) : Option Value :=
  match tag.type with
  | .bit => (memory.bit? tag.region tag.start tag.bit).map .bool
  | type => (memory.bytes? tag.region tag.start tag.size).bind (Value.decode? type tag.length)

/-- The memory in which a tag has a payload, if its block has all its bytes. Of the payload of a bit
only whether it is zero matters. -/
def put? (memory : Memory) (tag : Tag) (payload : Bytes) : Option Memory :=
  match tag.type with
  | .bit => memory.storeBit? tag.region tag.start tag.bit (payload.head? != some 0)
  | _ => memory.store? tag.region tag.start payload

/-! ## What is stored is found, and nothing else changes -/

theorem withBlock_self (memory : Memory) (region : Region) (block : Bytes) :
    memory.withBlock region block region = some block := if_pos rfl

theorem withBlock_of_ne (memory : Memory) {region other : Region} (block : Bytes)
    (h : other ≠ region) : memory.withBlock region block other = memory other := if_neg h

theorem length_of_bytes? {memory : Memory} {region : Region} {start count : Nat} {bytes : Bytes}
    (h : memory.bytes? region start count = some bytes) : bytes.length = count := by
  obtain ⟨block, _, h⟩ := Option.bind_eq_some_iff.mp h
  split at h
  · cases h
    simp only [List.length_take, List.length_drop]
    omega
  · cases h

/-- Bytes are found where they were stored. -/
theorem bytes?_of_store? {memory next : Memory} {region : Region} {start : Nat} {data : Bytes}
    (h : memory.store? region start data = some next) :
    next.bytes? region start data.length = some data := by
  obtain ⟨block, _, h⟩ := Option.bind_eq_some_iff.mp h
  split at h
  · next enough =>
    cases h
    have taken : (block.take start).length = start := by simp; omega
    have room : start + data.length ≤
        (block.take start ++ data ++ block.drop (start + data.length)).length := by
      simp only [List.length_append, taken]
      omega
    rw [bytes?, withBlock_self, Option.bind_some, if_pos room, List.append_assoc,
      List.drop_left' taken, List.take_left' rfl]
  · cases h

/-- Bytes of another region, or on either side of those that were stored, are as they were. -/
theorem bytes?_of_store?_of_disjoint {memory next : Memory} {region other : Region}
    {start begin count : Nat} {data : Bytes} (h : memory.store? region start data = some next)
    (apart : other ≠ region ∨ begin + count ≤ start ∨ start + data.length ≤ begin) :
    next.bytes? other begin count = memory.bytes? other begin count := by
  obtain ⟨block, found, h⟩ := Option.bind_eq_some_iff.mp h
  split at h
  · next enough =>
    cases h
    by_cases same : other = region
    · subst same
      have taken : (block.take start).length = start := by simp; omega
      have length : (block.take start ++ data ++ block.drop (start + data.length)).length =
          block.length := by
        simp only [List.length_append, taken, List.length_drop]
        omega
      rw [bytes?, bytes?, withBlock_self, found, Option.bind_some, Option.bind_some, length]
      split
      · next fits =>
        refine congrArg some (List.ext_getElem? fun i => ?_)
        simp only [List.getElem?_take, List.getElem?_drop, List.getElem?_append,
          List.length_append, taken]
        split
        · next inside =>
          rcases apart with apart | apart | apart
          · exact absurd rfl apart
          · simp [show begin + i < start + data.length by omega,
              show begin + i < start by omega]
          · simp only [show ¬ begin + i < start + data.length by omega, if_false]
            congr 1
            omega
        · rfl
      · rfl
    · rw [bytes?, bytes?, withBlock_of_ne _ _ same]
  · cases h

end Memory

end S7Link
