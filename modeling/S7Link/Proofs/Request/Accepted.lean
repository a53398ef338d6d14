import S7Link.Proofs.Outcome
import S7Link.Request.Write

/-!
# Which requests are accepted

A request is made if and only if it has one to twenty items, none of them too large to travel alone,
and neither its frame nor the frame of a full answer is longer than the PDU size
(`ReadRequest.make_eq_ok_iff`, `WriteRequest.make_eq_ok_iff`). The largest item is set so that a
request for it alone stays below the PDU size, and so does the answer (`le_largestRead_iff`,
`le_largestWrite_iff`).
-/

namespace S7Link

open Outcome Request

/-! ## Items that travel alone -/

namespace Request

/-- An item can be read alone if its request and its answer both stay below the PDU size. -/
theorem le_largestRead_iff {pduSize : UInt16} {size : Nat} (pos : 0 < size) :
    size ≤ largestRead pduSize ↔
      overhead + specificationSize < pduSize.toNat ∧
        replyOverhead + itemHeaderSize + size < pduSize.toNat := by
  unfold largestRead overhead specificationSize replyOverhead itemHeaderSize
  split <;> omega

/-- The bytes of an item that can be read alone can be counted in a word. -/
theorem largestRead_le (pduSize : UInt16) : largestRead pduSize ≤ 65535 := by
  have word := pduSize.toNat_lt
  unfold largestRead
  split <;> omega

/-- An item can be written alone if its request stays below the PDU size and its bits can be
counted. -/
theorem le_largestWrite_iff {pduSize : UInt16} {size : Nat} (pos : 0 < size) :
    size ≤ largestWrite pduSize ↔
      overhead + specificationSize + itemHeaderSize + size < pduSize.toNat ∧
        size ≤ maxBitCountedSize := by
  unfold largestWrite overhead specificationSize itemHeaderSize maxBitCountedSize
  omega

theorem checkCount_eq_ok_iff {count : Nat} :
    checkCount count = .ok () ↔ 0 < count ∧ count ≤ maxItems := by
  unfold checkCount
  split
  · next refused =>
    constructor
    · intro h
      cases h
    · intro allowed
      omega
  · next allowed =>
    refine ⟨fun _ => ?_, fun _ => rfl⟩
    omega

/-- No item is found to be too large if and only if none is. -/
theorem find?_too_large_eq_none_iff {α : Type} {largest : Nat} {size : α → Nat} {items : List α} :
    items.find? (largest < size ·) = none ↔ ∀ item ∈ items, size item ≤ largest := by
  simp only [List.find?_eq_none, decide_eq_true_eq, Nat.not_lt]

end Request

/-! ## Accepted requests -/

/-- An item is made of a tag and the payload of a value for it. -/
theorem WriteItem.make_eq_ok_iff {tag : Tag} {value : Value} {item : WriteItem} :
    make tag value = .ok item ↔ item.tag = tag ∧ value.encode tag = .ok item.data := by
  unfold make
  constructor
  · intro made
    split at made
    · next data written =>
      cases made
      exact ⟨rfl, written⟩
    · cases made
  · rintro ⟨rfl, written⟩
    rw [written]

/-- A request to read has some items but not too many, each of which can be read alone, and neither
its frame nor the frame of its full answer is longer than the PDU size. -/
structure ReadRequest.Fits (request : ReadRequest) (pduSize : UInt16) : Prop where
  nonempty : request.tags ≠ []
  few : request.tags.length ≤ maxItems
  sizes : ∀ tag ∈ request.tags, tag.size ≤ largestRead pduSize
  length_le : request.length ≤ pduSize.toNat
  replyLength_le : request.replyLength ≤ pduSize.toNat

theorem ReadRequest.make_eq_ok_iff {tags : List Tag} {reference pduSize : UInt16}
    {request : ReadRequest} :
    make tags reference pduSize = .ok request ↔
      request = ⟨reference, tags⟩ ∧ request.Fits pduSize := by
  constructor
  · intro made
    obtain ⟨_, counted, later⟩ := bind_eq_ok_iff.mp made
    obtain ⟨pos, few⟩ := checkCount_eq_ok_iff.mp counted
    dsimp only at later
    split at later
    · cases later
    · next small =>
      split at later
      · cases later
      · next short =>
        split at later
        · cases later
        · next replyShort =>
          cases later
          exact ⟨rfl, List.length_pos_iff.mp pos, few, find?_too_large_eq_none_iff.mp small,
            Nat.le_of_not_lt short, Nat.le_of_not_lt replyShort⟩
  · rintro ⟨rfl, fits⟩
    have counted := checkCount_eq_ok_iff.mpr ⟨List.length_pos_iff.mpr fits.nonempty, fits.few⟩
    refine bind_eq_ok_iff.mpr ⟨(), counted, ?_⟩
    dsimp only
    rw [find?_too_large_eq_none_iff.mpr fits.sizes]
    dsimp only
    rw [if_neg (Nat.not_lt_of_le fits.length_le), if_neg (Nat.not_lt_of_le fits.replyLength_le)]

/-- A request to write has some items but not too many, each of which can be written alone, and its
frame is not longer than the PDU size. -/
structure WriteRequest.Fits (request : WriteRequest) (pduSize : UInt16) : Prop where
  nonempty : request.items ≠ []
  few : request.items.length ≤ maxItems
  sizes : ∀ item ∈ request.items, item.data.length ≤ largestWrite pduSize
  length_le : request.length ≤ pduSize.toNat

theorem WriteRequest.make_eq_ok_iff {items : List WriteItem} {reference pduSize : UInt16}
    {request : WriteRequest} :
    make items reference pduSize = .ok request ↔
      request = ⟨reference, items⟩ ∧ request.Fits pduSize := by
  constructor
  · intro made
    obtain ⟨_, counted, later⟩ := bind_eq_ok_iff.mp made
    obtain ⟨pos, few⟩ := checkCount_eq_ok_iff.mp counted
    dsimp only at later
    split at later
    · cases later
    · next small =>
      split at later
      · cases later
      · next short =>
        cases later
        exact ⟨rfl, List.length_pos_iff.mp pos, few, find?_too_large_eq_none_iff.mp small,
          Nat.le_of_not_lt short⟩
  · rintro ⟨rfl, fits⟩
    have counted := checkCount_eq_ok_iff.mpr ⟨List.length_pos_iff.mpr fits.nonempty, fits.few⟩
    refine bind_eq_ok_iff.mpr ⟨(), counted, ?_⟩
    dsimp only
    rw [find?_too_large_eq_none_iff.mpr fits.sizes]
    dsimp only
    rw [if_neg (Nat.not_lt_of_le fits.length_le)]

end S7Link
