import S7Link.Plan.Read
import S7Link.Proofs.Frame.Sections
import S7Link.Proofs.Reply.Lookups
import S7Link.Proofs.Value.Accepted
import S7Link.Proofs.Value.Payload

/-!
# Values by offsets

The value of a cell can also be read by the offsets of its bytes: a bit and the lengths of texts by
single bytes, a text as a slice, and the elements byte by byte. If there are enough bytes for the
cell, none of these look-ups leaves them, and what is read is the value (`Lookup.value_eq`). A text
never ends behind its cell, because a length above the capacity counts as the capacity.
-/

namespace S7Link

open Text

/-! ## Runs of bytes -/

namespace Value

theorem length_of_mem_chunks {width count : Nat} {bytes : Bytes}
    (enough : count * width ≤ bytes.length) :
    ∀ chunk ∈ chunks width count bytes, chunk.length = width := by
  induction count generalizing bytes with
  | zero => exact List.forall_mem_nil _
  | succ count ih =>
    rw [Nat.succ_mul] at enough
    refine List.forall_mem_cons.mpr ⟨List.length_take_of_le (by omega), ih ?_⟩
    rw [List.length_drop]
    omega

/-- Bytes behind the last run do not matter. -/
theorem chunks_take (width count : Nat) (bytes : Bytes) :
    chunks width count (bytes.take (count * width)) = chunks width count bytes := by
  induction count generalizing bytes with
  | zero => rfl
  | succ count ih =>
    have whole : (count + 1) * width - width = count * width := by
      rw [Nat.succ_mul, Nat.add_sub_cancel]
    have least : min width ((count + 1) * width) = width :=
      Nat.min_eq_left (Nat.le_mul_of_pos_left width (Nat.succ_pos count))
    rw [chunks, chunks, List.take_take, least, List.drop_take, whole, ih]

end Value

namespace Lookup

/-! ## Cells by offsets -/

/-- How far one offset lies behind another, which is nothing if it lies before it. -/
def difference (offset origin : Nat) : Lookup Nat :=
  liftM (if origin ≤ offset then some (offset - origin) else none)

/-- So many bytes from an offset on, each looked up by itself. -/
def bytesAt (bytes : Bytes) (offset : Nat) : Nat → Lookup Bytes
  | 0 => pure []
  | count + 1 => do
    let first ← byte bytes offset
    let rest ← bytesAt bytes (offset + 1) count
    return first :: rest

/-- The element of a type that a run of bytes opens with. -/
def element (type : DataType) (bytes : Bytes) : Lookup Value := do
  let own ← bytesAt bytes 0 (type.size 1)
  return Value.decodeElement type own

/-- The value of a cell, from its own bytes. -/
def cell (type : DataType) (length : Nat) (bytes : Bytes) : Lookup Value :=
  match type with
  | .bit => do
    let state ← byte bytes 0
    return .bool (state != 0)
  | .char => return .text (Value.decodeChars bytes)
  | .string => do
    let told ← byte bytes 1
    let capacity ← difference (DataType.string.size length) 2
    let text ← slice bytes 2 (2 + min told.toNat capacity)
    return .text (String.ofList (Latin.decode text))
  | .wstring => do
    let told ← word bytes 2
    let count := min told.toNat length
    let text ← slice bytes 4 (4 + 2 * count)
    let units ← (Value.chunks 2 count text).mapM (word · 0)
    return .text (String.ofList (Utf16.decode units))
  | _ => do
    let elements ← (Value.chunks (type.size 1) length bytes).mapM (element type)
    return Value.ofElements elements

/-- The value of a cell at the front of a payload. -/
def value (type : DataType) (length : Nat) (payload : Bytes) : Lookup Value :=
  let size := type.size length
  if payload.length < size then throw (.payloadTooShort type size payload.length)
  else do
    let own ← slice payload 0 size
    cell type length own

/-! ## Offsets that lie within -/

theorem difference_eq {offset origin : Nat} (ordered : origin ≤ offset) :
    difference offset origin = pure (offset - origin) := by
  rw [difference, if_pos ordered]
  rfl

theorem byte_eq {bytes : Bytes} {offset : Nat} (within : offset < bytes.length) :
    byte bytes offset = pure bytes[offset] := by
  rw [byte, List.getElem?_eq_getElem within]
  rfl

theorem bytesAt_eq {bytes : Bytes} {offset count : Nat} (within : offset + count ≤ bytes.length) :
    bytesAt bytes offset count = pure ((bytes.drop offset).take count) := by
  induction count generalizing offset with
  | zero => rfl
  | succ count ih =>
    have first : offset < bytes.length := by omega
    have rest : offset + 1 + count ≤ bytes.length := by omega
    rw [bytesAt, byte_eq first, pure_bind, ih rest, pure_bind, List.drop_eq_getElem_cons first,
      List.take_succ_cons]

/-- A list is looked up element by element. -/
theorem mapM_eq {α β : Type} {lookup : α → Lookup β} {result : α → β} {xs : List α}
    (within : ∀ x ∈ xs, lookup x = pure (result x)) : xs.mapM lookup = pure (xs.map result) := by
  induction xs with
  | nil => rfl
  | cons x xs ih =>
    obtain ⟨first, others⟩ := List.forall_mem_cons.mp within
    rw [List.mapM_cons, first, pure_bind, ih others, pure_bind, List.map_cons]

theorem elements_eq {type : DataType} {count : Nat} {bytes : Bytes}
    (enough : count * type.size 1 ≤ bytes.length) :
    (Value.chunks (type.size 1) count bytes).mapM (element type) =
      pure ((Value.chunks (type.size 1) count bytes).map (Value.decodeElement type)) := by
  apply mapM_eq
  intro chunk member
  have length := Value.length_of_mem_chunks enough chunk member
  rw [element, bytesAt_eq (by omega), pure_bind, List.drop_zero, ← length, List.take_length]

theorem words_eq {count : Nat} {bytes : Bytes} (enough : count * 2 ≤ bytes.length) :
    (Value.chunks 2 count bytes).mapM (word · 0) =
      pure ((Value.chunks 2 count bytes).map fun unit => UInt16.ofNat (BigEndian.read unit)) := by
  apply mapM_eq
  intro chunk member
  obtain ⟨high, low, rfl⟩ := List.length_eq_two.mp (Value.length_of_mem_chunks enough chunk member)
  rfl

/-! ## Reading stays within -/

section Cell

variable {length : Nat} {bytes : Bytes}

theorem cell_bit (size : bytes.length = DataType.bit.size length) :
    cell .bit length bytes = pure (.bool (bytes.head? != some 0)) := by
  obtain ⟨state, rfl⟩ := List.length_eq_one_iff.mp size
  rfl

theorem cell_string (size : bytes.length = DataType.string.size length) :
    cell .string length bytes = pure (.text (Value.decodeString length bytes)) := by
  have total : bytes.length = length + 2 := size
  match bytes, total with
  | capacity :: told :: text, total =>
    have room : difference (DataType.string.size length) 2 = pure length :=
      difference_eq (Nat.le_add_left 2 length)
    have within : 2 + min told.toNat length ≤ (capacity :: told :: text).length := by omega
    have taken := slice_eq (Nat.le_add_right 2 (min told.toNat length)) within
    rw [List.drop_take, Nat.add_sub_cancel_left] at taken
    have read : ((capacity :: told :: text).drop 1).take 1 = [told] := rfl
    rw [cell, Value.decodeString, byte_cons_succ, byte_cons_zero, pure_bind, room, pure_bind,
      taken, pure_bind, read, BigEndian.read_singleton]

theorem cell_wstring (size : bytes.length = DataType.wstring.size length) :
    cell .wstring length bytes = pure (.text (Value.decodeWString length bytes)) := by
  have total : bytes.length = 2 * length + 4 := size
  match bytes, total with
  | c₁ :: c₂ :: high :: low :: text, total =>
    have told : word (c₁ :: c₂ :: high :: low :: text) 2 = pure (BigEndian.toWord high low) := rfl
    obtain ⟨_, number⟩ := BigEndian.ofWord_toWord high low
    rw [cell, told, pure_bind, number, Value.decodeWString]
    have read : ((c₁ :: c₂ :: high :: low :: text).drop 2).take 2 = [high, low] := rfl
    rw [read]
    generalize least : min (BigEndian.read [high, low]) length = count
    have few : count ≤ length := least ▸ Nat.min_le_right ..
    have textLength : text.length = 2 * length := by simpa using total
    have within : 4 + 2 * count ≤ (c₁ :: c₂ :: high :: low :: text).length := by omega
    have taken := slice_eq (Nat.le_add_right 4 (2 * count)) within
    rw [List.drop_take, Nat.add_sub_cancel_left, Nat.mul_comm 2] at taken
    dsimp only
    rw [Nat.mul_comm 2, taken, pure_bind, words_eq, pure_bind, Value.chunks_take]
    · rw [List.length_take, List.drop_succ_cons, List.drop_succ_cons, List.drop_succ_cons,
        List.drop_succ_cons, List.drop_zero]
      omega

/-- Cells of numbers hold one number or a list of them. -/
theorem cell_numeric {type : DataType} (numeric : type.IsNumeric)
    (size : bytes.length = type.size length) :
    cell type length bytes =
      pure (Value.ofElements
        ((Value.chunks (type.size 1) length bytes).map (Value.decodeElement type))) := by
  have whole := DataType.size_eq_mul numeric.wider numeric.plain length
  have elements := elements_eq (Nat.le_of_eq (whole.symm.trans size.symm))
  obtain ⟨wider, noChar, plain⟩ := numeric
  cases type with
  | bit => exact absurd rfl wider
  | char => exact absurd rfl noChar
  | string => cases plain
  | wstring => cases plain
  | _ =>
    unfold cell
    dsimp only
    rw [elements]
    rfl

end Cell

/-- The value of a cell is read without leaving the payload. -/
theorem value_eq (type : DataType) (length : Nat) (payload : Bytes) :
    value type length payload =
      liftM (match Value.decode? type length payload with
        | some value => Except.ok value
        | none =>
          .error (Malformation.payloadTooShort type (type.size length) payload.length)) := by
  unfold value
  dsimp only
  rcases Nat.lt_or_ge payload.length (type.size length) with short | enough
  · rw [if_pos short, Value.decode?, if_pos short]
    rfl
  · rw [if_neg (Nat.not_lt_of_le enough), slice_eq (Nat.zero_le _) enough, pure_bind,
      List.drop_zero]
    have own : (payload.take (type.size length)).length = type.size length :=
      List.length_take_of_le enough
    rcases type.bit_or_text_or_numeric with rfl | rfl | rfl | rfl | numeric
    · rw [cell_bit own, Value.decode?_bit enough]
      rfl
    · rw [Value.decode?_char enough]
      rfl
    · rw [cell_string own, Value.decode?_string enough]
      rfl
    · rw [cell_wstring own, Value.decode?_wstring enough]
      rfl
    · rw [cell_numeric numeric own, Value.decode?_numeric numeric enough]
      rfl

end Lookup

end S7Link
