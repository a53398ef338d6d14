import S7Link.Proofs.Value.RoundTrip

/-!
# What is read is written back

Whatever bytes a cell holds, the value that is read from them may be written to the cell, and is
then read again (`Value.encode_of_decode?`). Where the value tells all bytes of the cell, they are
the same as before: numbers are written as they stood, and the zeros that a `Char` text loses at its
end come back as filling. A bit is written as one for every byte but zero. A text with a stored
length is only cut off at its capacity, and what lay behind it becomes zero.
-/

namespace S7Link

open Outcome Text

namespace BigEndian

theorem write_read_of_length {width : Nat} {bytes : Bytes} (length : bytes.length = width) :
    write width (read bytes) = bytes := by
  rw [← length, write_read]

theorem read_lt_of_length {width : Nat} {bytes : Bytes} (length : bytes.length = width) :
    read bytes < weight width :=
  length ▸ read_lt bytes

end BigEndian

namespace Value

/-! ## Elements -/

/-- A number is written as the bytes that it was read from. -/
theorem encodeElement_decodeElement {type : DataType} {bytes : Bytes} (numeric : type.IsNumeric)
    (length : bytes.length = type.size 1) :
    encodeElement type (decodeElement type bytes) = .ok bytes := by
  obtain ⟨wider, noChar, plain⟩ := numeric
  have small := BigEndian.read_lt_of_length length
  have same := BigEndian.write_read_of_length length
  have word : BigEndian.read bytes < UInt16.size →
      (UInt16.ofNat (BigEndian.read bytes)).toNat = BigEndian.read bytes :=
    UInt16.toNat_ofNat_of_lt'
  have double : BigEndian.read bytes < UInt32.size →
      (UInt32.ofNat (BigEndian.read bytes)).toNat = BigEndian.read bytes :=
    UInt32.toNat_ofNat_of_lt'
  cases type with
  | bit => exact absurd rfl wider
  | char => exact absurd rfl noChar
  | string => cases plain
  | wstring => cases plain
  | byte =>
    obtain ⟨b, rfl⟩ := List.length_eq_one_iff.mp length
    have number : BigEndian.read [b] = b.toNat := Nat.mul_one b.toNat
    exact congrArg (fun n => Except.ok [n]) (by rw [number, UInt8.ofNat_toNat])
  | word => exact congrArg Except.ok (by rw [word small]; exact same)
  | int => exact congrArg Except.ok (by rw [UInt16.toUInt16_toInt16, word small]; exact same)
  | dword => exact congrArg Except.ok (by rw [double small]; exact same)
  | dint => exact congrArg Except.ok (by rw [UInt32.toUInt32_toInt32, double small]; exact same)
  | real => exact congrArg Except.ok (by rw [double small]; exact same)
  | lreal =>
    have quad : (UInt64.ofNat (BigEndian.read bytes)).toNat = BigEndian.read bytes :=
      UInt64.toNat_ofNat_of_lt' small
    exact congrArg Except.ok (by rw [quad]; exact same)

/-- Numbers are written as the bytes that they were read from, one by one. -/
theorem encodeElements_decodeElements {type : DataType} (numeric : type.IsNumeric) {count : Nat}
    {bytes : Bytes} (length : bytes.length = count * type.size 1) :
    encodeElements type ((chunks (type.size 1) count bytes).map (decodeElement type)) =
      .ok bytes := by
  induction count generalizing bytes with
  | zero =>
    rw [Nat.zero_mul] at length
    rw [List.length_eq_zero_iff.mp length]
    rfl
  | succ count ih =>
    rw [Nat.succ_mul] at length
    have first : (bytes.take (type.size 1)).length = type.size 1 :=
      List.length_take_of_le (by omega)
    have others : (bytes.drop (type.size 1)).length = count * type.size 1 := by
      rw [List.length_drop, length, Nat.add_sub_cancel]
    rw [chunks, List.map_cons, encodeElements, encodeElement_decodeElement numeric first, ih others]
    exact congrArg Except.ok (List.take_append_drop (type.size 1) bytes)

/-- A cell of numbers is written number by number, whether it holds one or a list of them. -/
theorem encodeContent_ofElements {type : DataType} (numeric : type.IsNumeric)
    (values : List Value) :
    encodeContent type values.length (ofElements values) = encodeElements type values := by
  rw [encodeContent_of_elements numeric.noChar numeric.plain]
  match values with
  | [] => rfl
  | [value] =>
    rw [if_pos (by rfl), encodeElements, ofElements]
    cases encodeElement type value with
    | error cause => rfl
    | ok bytes => exact congrArg Except.ok (List.append_nil bytes).symm
  | first :: second :: values =>
    have several : (first :: second :: values).length ≠ 1 := by
      rw [List.length_cons, List.length_cons]
      omega
    rw [if_neg several]
    exact if_pos rfl

/-! ## Texts -/

theorem decodeChars_eq (bytes : Bytes) :
    decodeChars bytes = String.ofList ((Latin.decode bytes).rdropWhile (· == '\x00')) := by
  rw [← decode_rdropWhile]
  rfl

/-- Bytes are their beginning up to the zeros at their end, filled up with zeros. -/
theorem rdropWhile_append_zeros (bytes : Bytes) :
    bytes.rdropWhile (· == 0) ++
      List.replicate (bytes.length - (bytes.rdropWhile (· == 0)).length) 0 = bytes := by
  have whole : bytes.rdropWhile (· == 0) ++ bytes.rtakeWhile (· == 0) = bytes := by
    rw [List.rdropWhile, List.rtakeWhile, ← List.reverse_append, List.takeWhile_append_dropWhile,
      List.reverse_reverse]
  have zeros : ∀ b ∈ bytes.rtakeWhile (· == 0), b = 0 := by
    intro b member
    rw [List.rtakeWhile, List.mem_reverse] at member
    have dropped := List.mem_takeWhile_imp member
    exact eq_of_beq dropped
  have count : bytes.length - (bytes.rdropWhile (· == 0)).length =
      (bytes.rtakeWhile (· == 0)).length := by
    have lengths := congrArg List.length whole
    rw [List.length_append] at lengths
    omega
  rw [count, ← List.eq_replicate_of_mem zeros]
  exact whole

/-- A text that was read from a cell has no zeros to lose. -/
theorem readBack_of_decode? {type : DataType} {length : Nat} {payload : Bytes} {value : Value}
    (read : decode? type length payload = some value) : value.readBack type = value := by
  by_cases char : type = .char
  · subst char
    have enough : DataType.char.size length ≤ payload.length := by
      unfold decode? at read
      split at read
      · cases read
      · next enough => exact Nat.le_of_not_lt enough
    rw [decode?_char enough, decodeChars_eq] at read
    cases read
    rw [readBack, String.toList_ofList, List.rdropWhile_idempotent]
  · exact readBack_of_ne char value

/-! ## Payloads -/

/-- The bytes that a cell has after the value read from it was written to it: those that it had,
unless it holds a bit or a text with a stored length. A bit becomes zero or one. -/
structure Restores (tag : Tag) (payload rewritten : Bytes) : Prop where
  same : tag.type ≠ .bit → tag.type.isText = false → rewritten = payload
  bit : tag.type = .bit → ∀ b, payload = [b] → rewritten = [if b = 0 then 0 else 1]

theorem encode_of_content {tag : Tag} {value : Value} {content : Bytes}
    (written : encodeContent tag.type tag.length value = .ok content) :
    value.encode tag = .ok (content ++ List.replicate (tag.size - content.length) 0) :=
  bind_eq_ok_iff.mpr ⟨content, written, rfl⟩

theorem encode_of_decode?_bit {tag : Tag} {b : UInt8} (bit : tag.type = .bit) {value : Value}
    (read : decode? tag.type tag.length [b] = some value) :
    value.encode tag = .ok [if b = 0 then 0 else 1] := by
  have noChar : DataType.bit ≠ .char := nofun
  have size : tag.size = 1 := by rw [Tag.size, bit, DataType.size]
  have enough : DataType.bit.size tag.length ≤ [b].length := Nat.le_refl 1
  rw [bit, decode?_bit enough] at read
  change some (Value.bool (some b != some 0)) = some value at read
  cases read
  have content : encodeContent tag.type tag.length (.bool (some b != some 0)) =
      .ok [if b = 0 then 0 else 1] := by
    rw [bit, encodeContent_of_elements noChar rfl, if_pos (tag.length_eq_one bit)]
    by_cases zero : b = 0
    · rw [if_pos zero, zero]
      rfl
    · rw [if_neg zero, bne_iff_ne.mpr fun same => zero (Option.some.inj same)]
      rfl
  rw [encode_of_content content, size]
  rfl

theorem encode_of_decode?_char {tag : Tag} {payload : Bytes} (char : tag.type = .char)
    (full : payload.length = tag.size) {value : Value}
    (read : decode? tag.type tag.length payload = some value) : value.encode tag = .ok payload := by
  have size : tag.size = tag.length := by rw [Tag.size, char, DataType.size]
  have length : payload.length = DataType.char.size tag.length := full.trans size
  rw [char, decode?_char (Nat.le_of_eq length.symm),
    List.take_of_length_le (Nat.le_of_eq length)] at read
  cases read
  have shorter := (List.rdropWhile_prefix (· == 0) payload).length_le
  have content : encodeContent tag.type tag.length (.text (decodeChars payload)) =
      .ok (payload.rdropWhile (· == 0)) := by
    rw [char]
    refine encodeLatin_eq_ok_iff.mpr ⟨_, rfl, ?_, ?_⟩
    · rw [decodeChars_eq, ← decode_rdropWhile, String.toList_ofList, Latin.encode?_decode]
    · rw [decodeChars_eq, ← decode_rdropWhile, String.length_ofList, Latin.decode, List.length_map]
      omega
  rw [encode_of_content content, ← full, rdropWhile_append_zeros]

theorem encode_of_decode?_numeric {tag : Tag} {payload : Bytes} (numeric : tag.type.IsNumeric)
    (full : payload.length = tag.size) {value : Value}
    (read : decode? tag.type tag.length payload = some value) : value.encode tag = .ok payload := by
  have length : payload.length = tag.type.size tag.length := full
  rw [decode?_numeric numeric (Nat.le_of_eq length.symm),
    List.take_of_length_le (Nat.le_of_eq length)] at read
  cases read
  generalize parts : (chunks (tag.type.size 1) tag.length payload).map (decodeElement tag.type) =
    values
  have count : values.length = tag.length := by rw [← parts, List.length_map, length_chunks]
  have content : encodeContent tag.type tag.length (ofElements values) = .ok payload := by
    rw [← count, encodeContent_ofElements numeric, ← parts]
    apply encodeElements_decodeElements numeric
    rw [length, DataType.size_eq_mul numeric.wider numeric.plain]
  rw [encode_of_content content, ← full, Nat.sub_self, List.replicate_zero, List.append_nil]

/-- Of a cell without a stored length, the bytes come back as they were, but for those of a bit. -/
theorem restores_of_decode? {tag : Tag} {payload rewritten : Bytes} {value : Value}
    (full : payload.length = tag.size) (read : decode? tag.type tag.length payload = some value)
    (written : value.encode tag = .ok rewritten) : Restores tag payload rewritten := by
  constructor
  · intro wider plain
    have known : value.encode tag = .ok payload := by
      by_cases char : tag.type = .char
      · exact encode_of_decode?_char char full read
      · exact encode_of_decode?_numeric ⟨wider, char, plain⟩ full read
    exact Except.ok.inj (written.symm.trans known)
  · intro bit b single
    subst single
    exact Except.ok.inj (written.symm.trans (encode_of_decode?_bit bit read))

/-- Whatever the bytes of a cell are, there is a value to read from them, it may be written back to
the cell, and it is then read again. -/
theorem encode_of_decode? (tag : Tag) (payload : Bytes) (full : payload.length = tag.size) :
    ∃ value rewritten, decode? tag.type tag.length payload = some value ∧
      value.encode tag = .ok rewritten ∧
      decode? tag.type tag.length rewritten = some value ∧ Restores tag payload rewritten := by
  have enough : ¬payload.length < tag.type.size tag.length :=
    Nat.not_lt_of_le (Nat.le_of_eq full.symm)
  obtain ⟨value, read⟩ : ∃ value, decode? tag.type tag.length payload = some value := by
    unfold decode?
    rw [if_neg enough]
    exact ⟨_, rfl⟩
  rcases (fits_of_decode? read).exists_encode with ⟨rewritten, written⟩
  have again := decode?_of_encode written
  rw [readBack_of_decode? read] at again
  exact ⟨value, rewritten, read, written, again, restores_of_decode? full read written⟩

/-- A cell of a text of three code units. -/
def wideCell : Tag := (Tag.make .dataBlock 1 .wstring 0 0 3).toOption.get rfl

/-- A length word far above the capacity, and two surrogates that are not a pair. -/
def loneSurrogates : Bytes := [0, 7, 0xFF, 0xFF, 0xDC, 0x00, 0xD8, 0x00, 0x00, 0x41]

theorem encode_of_decode?_loneSurrogates :
    loneSurrogates.length = wideCell.size ∧
      ∃ rewritten, decode? .wstring 3 loneSurrogates = some (.text "\ufffd\ufffdA") ∧
        encode wideCell (.text "\ufffd\ufffdA") = .ok rewritten ∧
        decode? .wstring 3 rewritten = some (.text "\ufffd\ufffdA") := by
  have full : loneSurrogates.length = wideCell.size := rfl
  have seen : decode? .wstring 3 loneSurrogates = some (.text "\ufffd\ufffdA") := rfl
  rcases encode_of_decode? wideCell loneSurrogates full with
    ⟨value, rewritten, read, written, again, _⟩
  obtain rfl : value = .text "\ufffd\ufffdA" := Option.some.inj (read.symm.trans seen)
  exact ⟨full, rewritten, read, written, again⟩

end Value

end S7Link
