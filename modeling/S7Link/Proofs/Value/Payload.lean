import S7Link.Proofs.Value.Accepted

/-!
# Payloads fill their cells

What `Value.encode` writes for a tag is exactly as long as the tag (`length_encode`). The content of
the cell may be shorter, and zeros fill it up; it is never longer, because a text is refused beyond
its capacity and an array has as many elements as its cell.
-/

namespace S7Link

open Outcome

/-- Cells of elements are as long as their elements together. -/
theorem DataType.size_eq_mul {type : DataType} (elements : type ≠ .bit)
    (plain : type.isText = false) (length : Nat) : type.size length = length * type.size 1 := by
  cases type with
  | bit => exact absurd rfl elements
  | string => cases plain
  | wstring => cases plain
  | _ => simp only [size]; omega

namespace Value

theorem length_encodeElement {type : DataType} {value : Value} {bytes : Bytes}
    (written : encodeElement type value = .ok bytes) : bytes.length = type.size 1 := by
  obtain ⟨bytes', again, length⟩ := (IsElement.of_encodeElement written).encodeElement
  rw [written] at again
  cases again
  exact length

theorem length_encodeElements {type : DataType} {values : List Value} {bytes : Bytes}
    (written : encodeElements type values = .ok bytes) :
    bytes.length = values.length * type.size 1 := by
  induction values generalizing bytes with
  | nil =>
    cases written
    exact (Nat.zero_mul _).symm
  | cons value values ih =>
    obtain ⟨first, others, firstWritten, othersWritten, rfl⟩ :=
      encodeElements_cons_eq_ok_iff.mp written
    rw [List.length_append, length_encodeElement firstWritten, ih othersWritten, List.length_cons,
      Nat.succ_mul, Nat.add_comm]

theorem length_encodeLatin_le {capacity : Nat} {value : Value} {bytes : Bytes}
    (written : encodeLatin capacity value = .ok bytes) : bytes.length ≤ capacity := by
  obtain ⟨s, _, encoded, few⟩ := encodeLatin_eq_ok_iff.mp written
  exact (Text.Latin.length_of_encode? encoded).symm ▸ few

theorem length_encodeWide_le {capacity : Nat} {value : Value} {units : List UInt16}
    (written : encodeWide capacity value = .ok units) : units.length ≤ capacity := by
  obtain ⟨s, _, rfl, few⟩ := encodeWide_eq_ok_iff.mp written
  exact (length_encode_eq_codeUnits s).symm ▸ few

theorem length_flatMap_write (units : List UInt16) :
    (units.flatMap fun u => BigEndian.write 2 u.toNat).length = 2 * units.length := by
  induction units with
  | nil => rfl
  | cons u units ih =>
    rw [List.flatMap_cons, List.length_append, BigEndian.length_write, ih, List.length_cons]
    omega

/-- The content of a cell of elements fills the cell. -/
theorem length_encodeContent_elements {type : DataType} {length : Nat} {value : Value}
    {bytes : Bytes} (single : type = .bit → length = 1) (noChar : type ≠ .char)
    (plain : type.isText = false) (written : encodeContent type length value = .ok bytes) :
    bytes.length = type.size length := by
  obtain ⟨values, each, count, _⟩ := exists_elements_of_encodeContent noChar plain written
  rw [length_encodeElements each, count]
  by_cases one : length = 1
  · rw [one, Nat.one_mul]
  · exact (DataType.size_eq_mul (fun isBit => one (single isBit)) plain length).symm

/-- The content of a cell is never longer than the cell. -/
theorem length_encodeContent_le {type : DataType} {length : Nat} {value : Value} {bytes : Bytes}
    (single : type = .bit → length = 1)
    (written : encodeContent type length value = .ok bytes) : bytes.length ≤ type.size length := by
  cases type with
  | char => exact length_encodeLatin_le written
  | string =>
    obtain ⟨text, textWritten, done⟩ := bind_eq_ok_iff.mp written
    cases done
    have := length_encodeLatin_le textWritten
    simp only [List.length_cons, DataType.size]
    omega
  | wstring =>
    obtain ⟨units, unitsWritten, done⟩ := bind_eq_ok_iff.mp written
    cases done
    have := length_encodeWide_le unitsWritten
    rw [List.length_append, List.length_append, length_flatMap_write, BigEndian.length_write,
      BigEndian.length_write, DataType.size]
    omega
  | _ => exact Nat.le_of_eq (length_encodeContent_elements single (by decide) rfl written)

/-- A payload is exactly as long as its cell. -/
theorem length_encode {tag : Tag} {value : Value} {bytes : Bytes}
    (written : value.encode tag = .ok bytes) : bytes.length = tag.size := by
  obtain ⟨content, contentWritten, done⟩ := bind_eq_ok_iff.mp written
  cases done
  have := length_encodeContent_le tag.length_eq_one contentWritten
  rw [List.length_append, List.length_replicate]
  exact Nat.add_sub_cancel' this

end Value

end S7Link
