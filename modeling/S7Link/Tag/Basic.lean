import S7Link.Address.Fault

/-!
# Tags

A tag names one cell of the controller's memory: an area with its block number, a data type, a byte
offset, a bit number (bits only) and a length. `Tag.make` checks the fields once; the proof fields
of the type keep what it checked, so every tag there is names a cell that an item specification can
address.
-/

namespace S7Link

/-- One cell of the controller's memory. -/
structure Tag where
  area : Area
  /-- The number of the data block, 0 outside the data blocks. -/
  block : UInt16
  type : DataType
  /-- The offset of the first byte in its region. -/
  start : Nat
  /-- The bit of the first byte, 0 for all types but bits. -/
  bit : Nat
  /-- The number of elements, or of the characters that a text may have. -/
  length : Nat
  length_le : length ≤ 65535
  block_eq_zero : area ≠ .dataBlock → block = 0
  bit_le : bit ≤ 7
  bit_eq_zero : type ≠ .bit → bit = 0
  length_pos : 0 < length
  length_eq_one : type = .bit → length = 1
  length_le_of_string : type = .string → length ≤ DataType.maxStringLength
  start_le : start ≤ Region.maxStart
deriving DecidableEq, Repr

namespace Tag

/-- The tag with the given fields, or the first fault among them. -/
def make (area : Area) (block : UInt16) (type : DataType) (start bit length : Nat) :
    Except AddressFault Tag :=
  if tooLong : 65535 < length then .error (.rangeTooLong length)
  else if stray : block ≠ 0 ∧ area ≠ .dataBlock then .error (.blockOutsideDataBlock area block)
  else if noBit : 7 < bit then .error (.bitTooLarge bit)
  else if wider : bit ≠ 0 ∧ type ≠ .bit then .error (.bitOfWiderType type bit)
  else if none : length = 0 then .error .empty
  else if several : type = .bit ∧ length ≠ 1 then .error (.severalBits length)
  else if text : type = .string ∧ DataType.maxStringLength < length then
    .error (.stringTooLong length)
  else if far : Region.maxStart < start then .error (.startTooLarge start)
  else .ok
    { area, block, type, start, bit, length
      length_le := Nat.le_of_not_lt tooLong
      block_eq_zero := fun h => Decidable.byContradiction fun h' => stray ⟨h', h⟩
      bit_le := Nat.le_of_not_lt noBit
      bit_eq_zero := fun h => Decidable.byContradiction fun h' => wider ⟨h', h⟩
      length_pos := Nat.pos_of_ne_zero none
      length_eq_one := fun h => Decidable.byContradiction fun h' => several ⟨h, h'⟩
      length_le_of_string := fun h => Nat.le_of_not_lt fun h' => text ⟨h, h'⟩
      start_le := Nat.le_of_not_lt far }

/-- The cell of one bit. -/
def ofBit (area : Area) (block : UInt16) (start bit : Nat) : Except AddressFault Tag :=
  make area block .bit start bit 1

/-- The cell of `length` bytes from `start` on. -/
def ofBytes (region : Region) (start length : Nat) : Except AddressFault Tag :=
  make region.area region.block .byte start 0 length

/-- The byte space that a tag lies in. -/
def region (tag : Tag) : Region := ⟨tag.area, tag.block⟩

/-- The number of bytes that a tag covers. -/
def size (tag : Tag) : Nat := tag.type.size tag.length

/-- The offset one past the last byte of a tag. -/
def stop (tag : Tag) : Nat := tag.start + tag.size

/-- Whether `inner` lies within the bytes of `outer`. -/
def contains (outer inner : Tag) : Bool :=
  outer.region = inner.region && outer.start ≤ inner.start && inner.stop ≤ outer.stop

theorem size_pos (tag : Tag) : 0 < tag.size := tag.type.size_pos tag.length_pos

theorem start_lt_stop (tag : Tag) : tag.start < tag.stop := Nat.lt_add_of_pos_right tag.size_pos

theorem start_le_stop (tag : Tag) : tag.start ≤ tag.stop := Nat.le_of_lt tag.start_lt_stop

theorem contains_iff {outer inner : Tag} :
    outer.contains inner = true ↔
      outer.region = inner.region ∧ outer.start ≤ inner.start ∧ inner.stop ≤ outer.stop := by
  rw [contains, Bool.and_eq_true, Bool.and_eq_true, decide_eq_true_iff, decide_eq_true_iff,
    decide_eq_true_iff, and_assoc]

/-- A tag is rebuilt from its own fields. -/
theorem make_fields (tag : Tag) :
    make tag.area tag.block tag.type tag.start tag.bit tag.length = .ok tag := by
  have stray : ¬(tag.block ≠ 0 ∧ tag.area ≠ .dataBlock) := fun h => h.1 (tag.block_eq_zero h.2)
  have wider : ¬(tag.bit ≠ 0 ∧ tag.type ≠ .bit) := fun h => h.1 (tag.bit_eq_zero h.2)
  have several : ¬(tag.type = .bit ∧ tag.length ≠ 1) := fun h => h.2 (tag.length_eq_one h.1)
  have text : ¬(tag.type = .string ∧ DataType.maxStringLength < tag.length) := fun h =>
    Nat.not_lt_of_le (tag.length_le_of_string h.1) h.2
  unfold make
  rw [dif_neg (Nat.not_lt_of_le tag.length_le), dif_neg stray,
    dif_neg (Nat.not_lt_of_le tag.bit_le), dif_neg wider,
    dif_neg (Nat.ne_of_gt tag.length_pos), dif_neg several, dif_neg text,
    dif_neg (Nat.not_lt_of_le tag.start_le)]

/-- A tag that is made has the fields that it was made with. -/
theorem make_eq_ok_iff {area : Area} {block : UInt16} {type : DataType} {start bit length : Nat}
    {tag : Tag} :
    make area block type start bit length = .ok tag ↔
      tag.area = area ∧ tag.block = block ∧ tag.type = type ∧ tag.start = start ∧
        tag.bit = bit ∧ tag.length = length := by
  constructor
  · intro made
    unfold make at made
    iterate 8
      split at made
      · cases made
    cases made
    exact ⟨rfl, rfl, rfl, rfl, rfl, rfl⟩
  · rintro ⟨rfl, rfl, rfl, rfl, rfl, rfl⟩
    exact tag.make_fields

end Tag

end S7Link
