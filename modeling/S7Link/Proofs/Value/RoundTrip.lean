import Mathlib.Data.List.DropRight
import S7Link.Proofs.Value.Accepted
import S7Link.Proofs.Value.Payload
import S7Link.Request.Write

/-!
# What is written is read back

The value that is read from a payload is the one that the payload was written for, bit by bit
(`Value.decode?_of_encode`). Only the zeros with which a `Char` cell is filled up cannot be told
from zeros at the end of its text, so that a text comes back without them (`Value.readBack`).
Together with what is accepted this says all about the writing of a value (`Value.encode_exact`).
-/

namespace S7Link

open Outcome Text

/-! ## Texts -/

namespace Text.Utf16

theorem isHigh_iff {u : UInt16} : isHigh u = true ↔ 0xD800 ≤ u.toNat ∧ u.toNat < 0xDC00 := by
  rw [isHigh, Bool.and_eq_true, decide_eq_true_iff, decide_eq_true_iff, UInt16.le_iff_toNat_le,
    UInt16.lt_iff_toNat_lt]
  rfl

theorem isLow_iff {u : UInt16} : isLow u = true ↔ 0xDC00 ≤ u.toNat ∧ u.toNat < 0xE000 := by
  rw [isLow, Bool.and_eq_true, decide_eq_true_iff, decide_eq_true_iff, UInt16.le_iff_toNat_le,
    UInt16.lt_iff_toNat_lt]
  rfl

/-- A code unit that opens no pair is read by itself. -/
theorem decode_cons {u : UInt16} (alone : isHigh u = false) (rest : List UInt16) :
    decode (u :: rest) = single u :: decode rest := by
  cases rest with
  | nil => rfl
  | cons v rest =>
    rw [decode, alone, Bool.false_and]
    rfl

/-- The code units of a character are read as the character. -/
theorem decode_units_append (c : Char) (rest : List UInt16) :
    decode (units c ++ rest) = c :: decode rest := by
  have valid : c.toNat < 0xD800 ∨ 0xDFFF < c.toNat ∧ c.toNat < 0x110000 := c.valid
  unfold units
  split
  · next small =>
    have number : (UInt16.ofNat c.toNat).toNat = c.toNat := UInt16.toNat_ofNat_of_lt' small
    have noHigh : isHigh (UInt16.ofNat c.toNat) = false := by
      rw [Bool.eq_false_iff, ne_eq, isHigh_iff, number]
      omega
    have noLow : isLow (UInt16.ofNat c.toNat) = false := by
      rw [Bool.eq_false_iff, ne_eq, isLow_iff, number]
      omega
    rw [List.singleton_append, decode_cons noHigh, single, noHigh, noLow, number, Char.ofNat_toNat]
    rfl
  · next large =>
    dsimp only
    generalize offset_eq : c.toNat - 0x10000 = offset
    have high : (UInt16.ofNat (0xD800 + offset / 0x400)).toNat = 0xD800 + offset / 0x400 :=
      UInt16.toNat_ofNat_of_lt' (by unfold UInt16.size; omega)
    have low : (UInt16.ofNat (0xDC00 + offset % 0x400)).toNat = 0xDC00 + offset % 0x400 :=
      UInt16.toNat_ofNat_of_lt' (by unfold UInt16.size; omega)
    have isHigh : isHigh (UInt16.ofNat (0xD800 + offset / 0x400)) = true := by
      rw [isHigh_iff, high]
      omega
    have isLow : isLow (UInt16.ofNat (0xDC00 + offset % 0x400)) = true := by
      rw [isLow_iff, low]
      omega
    have whole : 0x10000 + (0xD800 + offset / 0x400 - 0xD800) * 0x400 +
        (0xDC00 + offset % 0x400 - 0xDC00) = c.toNat := by
      omega
    rw [List.cons_append, List.cons_append, List.nil_append, decode, isHigh, isLow,
      if_pos (by rfl), pair, high, low, whole, Char.ofNat_toNat]

/-- A text is read back from its code units. -/
theorem decode_encode (cs : List Char) : decode (encode cs) = cs := by
  unfold encode
  induction cs with
  | nil => rfl
  | cons c cs ih => rw [List.flatMap_cons, decode_units_append, ih]

end Text.Utf16

namespace BigEndian

theorem read_write_of_lt (width : Nat) {n : Nat} (small : n < weight width) :
    read (write width n) = n := by
  rw [read_write, Nat.mod_eq_of_lt small]

end BigEndian

namespace Value

/-! ## Elements -/

/-- A number is read back from its bytes. -/
theorem decodeElement_of_encodeElement {type : DataType} {value : Value} {bytes : Bytes}
    (numeric : type.IsNumeric) (written : encodeElement type value = .ok bytes) :
    decodeElement type bytes = value := by
  cases IsElement.of_encodeElement written with
  | bit b => exact absurd rfl numeric.wider
  | byte n =>
    cases written
    have number : BigEndian.read [n] = n.toNat := Nat.mul_one n.toNat
    exact congrArg Value.byte (by rw [number, UInt8.ofNat_toNat])
  | word n =>
    cases written
    have number := BigEndian.read_write_of_lt 2 n.toNat_lt
    exact congrArg Value.word (by rw [number, UInt16.ofNat_toNat])
  | int n =>
    cases written
    have number := BigEndian.read_write_of_lt 2 n.toUInt16.toNat_lt
    exact congrArg (Value.int ∘ UInt16.toInt16) (by rw [number, UInt16.ofNat_toNat])
  | dword n =>
    cases written
    have number := BigEndian.read_write_of_lt 4 n.toNat_lt
    exact congrArg Value.dword (by rw [number, UInt32.ofNat_toNat])
  | dint n =>
    cases written
    have number := BigEndian.read_write_of_lt 4 n.toUInt32.toNat_lt
    exact congrArg (Value.dint ∘ UInt32.toInt32) (by rw [number, UInt32.ofNat_toNat])
  | real x =>
    cases written
    have number := BigEndian.read_write_of_lt 4 x.bits.toNat_lt
    exact congrArg (fun bits => Value.real ⟨bits⟩) (by rw [number, UInt32.ofNat_toNat])
  | lreal x =>
    cases written
    have number := BigEndian.read_write_of_lt 8 x.bits.toNat_lt
    exact congrArg (fun bits => Value.lreal ⟨bits⟩) (by rw [number, UInt64.ofNat_toNat])

/-- Numbers are read back one by one. -/
theorem decodeElements_of_encodeElements {type : DataType} {values : List Value} {bytes : Bytes}
    (numeric : type.IsNumeric) (written : encodeElements type values = .ok bytes) :
    (chunks (type.size 1) values.length bytes).map (decodeElement type) = values := by
  induction values generalizing bytes with
  | nil => rfl
  | cons value values ih =>
    obtain ⟨first, others, firstWritten, othersWritten, rfl⟩ :=
      encodeElements_cons_eq_ok_iff.mp written
    have width := length_encodeElement firstWritten
    rw [List.length_cons, chunks, List.take_left' width, List.drop_left' width, List.map_cons,
      decodeElement_of_encodeElement numeric firstWritten, ih othersWritten]

/-! ## Texts -/

/-- What a text cell of single bytes makes of zeros at the end of its text: they are gone. -/
def readBack (type : DataType) (value : Value) : Value :=
  match type, value with
  | .char, .text s => .text (String.ofList (s.toList.rdropWhile (· == '\x00')))
  | _, value => value

theorem readBack_of_ne {type : DataType} (noChar : type ≠ .char) (value : Value) :
    value.readBack type = value := by
  unfold readBack
  split
  · exact absurd rfl noChar
  · rfl

theorem rdropWhile_append_replicate {α : Type} {p : α → Bool} {x : α} (dropped : p x = true)
    (xs : List α) (count : Nat) :
    (xs ++ List.replicate count x).rdropWhile p = xs.rdropWhile p := by
  induction count with
  | zero => rw [List.replicate_zero, List.append_nil]
  | succ count ih =>
    rw [List.replicate_succ', ← List.append_assoc, List.rdropWhile_concat_pos _ _ _ dropped, ih]

theorem isZero_ofNat (b : UInt8) : (Char.ofNat b.toNat == '\x00') = (b == 0) := by
  rw [Bool.eq_iff_iff, beq_iff_eq, beq_iff_eq]
  constructor
  · intro zero
    have number := congrArg Char.toNat zero
    rw [Latin.toNat_ofNat] at number
    exact UInt8.toNat_inj.mp number
  · intro zero
    rw [zero]
    rfl

/-- Zeros at the end of Latin-1 bytes are those at the end of the text. -/
theorem decode_rdropWhile (bytes : Bytes) :
    Latin.decode (bytes.rdropWhile (· == 0)) =
      (Latin.decode bytes).rdropWhile (· == '\x00') := by
  have same : ((· == '\x00') ∘ fun b : UInt8 => Char.ofNat b.toNat) = (· == 0) :=
    funext isZero_ofNat
  rw [Latin.decode, Latin.decode, List.rdropWhile, List.rdropWhile, ← List.map_reverse,
    List.dropWhile_map, same, List.map_reverse]

/-- The zeros that fill up a cell are not part of its text. -/
theorem decodeChars_append_zeros {s : String} {text : Bytes}
    (encoded : Latin.encode? s.toList = some text) (count : Nat) :
    decodeChars (text ++ List.replicate count 0) =
      String.ofList (s.toList.rdropWhile (· == '\x00')) := by
  have dropped : ((text ++ List.replicate count 0).reverse.dropWhile (· == 0)).reverse =
      text.rdropWhile (· == 0) :=
    rdropWhile_append_replicate rfl text count
  rw [decodeChars, dropped, decode_rdropWhile, Latin.decode_of_encode? encoded]

theorem decodeString_eq {capacity : Nat} {text : Bytes} (few : text.length ≤ capacity)
    (small : capacity ≤ DataType.maxStringLength) (rest : Bytes) :
    decodeString capacity (UInt8.ofNat capacity :: UInt8.ofNat text.length :: (text ++ rest)) =
      String.ofList (Latin.decode text) := by
  have counted : (UInt8.ofNat text.length).toNat = text.length := by
    unfold DataType.maxStringLength at small
    exact UInt8.toNat_ofNat_of_lt' (by unfold UInt8.size; omega)
  have length : BigEndian.read [UInt8.ofNat text.length] = text.length :=
    (Nat.mul_one _).trans counted
  unfold decodeString
  rw [List.drop_succ_cons, List.drop_succ_cons, List.drop_zero, List.take_succ_cons, List.take_zero,
    length, Nat.min_eq_left few, List.drop_succ_cons, List.drop_zero]
  dsimp only
  rw [List.take_left]

/-- Code units are read back one by one. -/
theorem chunks_flatMap_write (units : List UInt16) (rest : Bytes) :
    (chunks 2 units.length ((units.flatMap fun u => BigEndian.write 2 u.toNat) ++ rest)).map
      (fun u => UInt16.ofNat (BigEndian.read u)) = units := by
  induction units with
  | nil => rfl
  | cons u units ih =>
    have width := BigEndian.length_write 2 u.toNat
    rw [List.flatMap_cons, List.append_assoc, List.length_cons, chunks, List.take_left' width,
      List.drop_left' width, List.map_cons, ih, BigEndian.read_write_of_lt 2 u.toNat_lt,
      UInt16.ofNat_toNat]

theorem decodeWString_eq {capacity : Nat} {units : List UInt16} (few : units.length ≤ capacity)
    (small : capacity ≤ 65535) (rest : Bytes) :
    decodeWString capacity
        (BigEndian.write 2 capacity ++ (BigEndian.write 2 units.length ++
          ((units.flatMap fun u => BigEndian.write 2 u.toNat) ++ rest))) =
      String.ofList (Utf16.decode units) := by
  have number : units.length < BigEndian.weight 2 :=
    Nat.lt_succ_of_le (Nat.le_trans few small)
  have width := BigEndian.length_write 2
  unfold decodeWString
  have behind : ∀ rest : Bytes, (BigEndian.write 2 capacity ++
      (BigEndian.write 2 units.length ++ rest)).drop 4 = rest := by
    intro rest
    rw [← List.append_assoc]
    exact List.drop_left' (by rw [List.length_append, width, width])
  rw [List.drop_left' (width capacity), List.take_left' (width units.length),
    BigEndian.read_write_of_lt 2 number, Nat.min_eq_left few, behind]
  dsimp only
  rw [chunks_flatMap_write]

/-! ## Payloads -/

theorem decode?_of_numeric {tag : Tag} {value : Value} {content : Bytes}
    (numeric : tag.type.IsNumeric)
    (written : encodeContent tag.type tag.length value = .ok content) :
    content.length = tag.type.size tag.length ∧
      decode? tag.type tag.length content = some (value.readBack tag.type) := by
  obtain ⟨values, each, count, whole⟩ :=
    exists_elements_of_encodeContent numeric.noChar numeric.plain written
  have length : content.length = tag.type.size tag.length := by
    rw [length_encodeElements each, count]
    exact (DataType.size_eq_mul numeric.wider numeric.plain tag.length).symm
  refine ⟨length, ?_⟩
  rw [decode?_numeric numeric (Nat.le_of_eq length.symm),
    List.take_of_length_le (Nat.le_of_eq length), ← count,
    decodeElements_of_encodeElements numeric each, whole, readBack_of_ne numeric.noChar]

/-- What is read from the payload that was written for a value is the value. -/
theorem decode?_of_encode {tag : Tag} {value : Value} {payload : Bytes}
    (written : value.encode tag = .ok payload) :
    decode? tag.type tag.length payload = some (value.readBack tag.type) := by
  have length : payload.length = tag.type.size tag.length := length_encode written
  have enough := Nat.le_of_eq length.symm
  have all := List.take_of_length_le (Nat.le_of_eq length)
  obtain ⟨content, contentWritten, done⟩ := bind_eq_ok_iff.mp written
  cases done
  rcases tag.type.bit_or_text_or_numeric with bit | char | string | wide | numeric
  · rw [bit] at contentWritten enough all ⊢
    rw [decode?_bit enough, all]
    have noChar : DataType.bit ≠ .char := nofun
    rw [encodeContent_of_elements noChar rfl, if_pos (tag.length_eq_one bit)] at contentWritten
    cases IsElement.of_encodeElement contentWritten with
    | bit b =>
      cases contentWritten
      cases b <;> rfl
  · rw [char] at contentWritten enough all ⊢
    rw [decode?_char enough, all]
    obtain ⟨s, rfl, encoded, _⟩ := encodeLatin_eq_ok_iff.mp contentWritten
    rw [decodeChars_append_zeros encoded]
    rfl
  · rw [string] at contentWritten enough all ⊢
    rw [decode?_string enough, all]
    obtain ⟨text, textWritten, done⟩ := bind_eq_ok_iff.mp contentWritten
    cases done
    obtain ⟨s, rfl, encoded, _⟩ := encodeLatin_eq_ok_iff.mp textWritten
    rw [List.cons_append, List.cons_append,
      decodeString_eq (length_encodeLatin_le textWritten) (tag.length_le_of_string string),
      Latin.decode_of_encode? encoded, String.ofList_toList]
    rfl
  · rw [wide] at contentWritten enough all ⊢
    rw [decode?_wstring enough, all]
    obtain ⟨units, unitsWritten, done⟩ := bind_eq_ok_iff.mp contentWritten
    cases done
    obtain ⟨s, rfl, rfl, _⟩ := encodeWide_eq_ok_iff.mp unitsWritten
    rw [List.append_assoc, List.append_assoc,
      decodeWString_eq (length_encodeWide_le unitsWritten) tag.length_le,
      Utf16.decode_encode, String.ofList_toList]
    rfl
  · obtain ⟨size, found⟩ := decode?_of_numeric numeric contentWritten
    rw [size, Tag.size, Nat.sub_self, List.replicate_zero, List.append_nil]
    exact found

theorem IsElement.list?_eq_none {type : DataType} {value : Value} (suits : IsElement type value) :
    value.list? = none := by
  cases suits <;> rfl

/-- Only arrays hold lists, and the elements of an array are no lists. -/
theorem Fits.several_of_list {tag : Tag} {values : List Value}
    (fits : (Value.list values).Fits tag) : 1 < tag.length ∧ ∀ v ∈ values, v.list? = none := by
  cases fits with
  | element _ suits => cases suits.list?_eq_none
  | elements several _ suit => exact ⟨several, fun v member => (suit v member).list?_eq_none⟩

/-- An item is refused for a value if and only if the value does not fit, and the fault names the
tag. -/
theorem not_fits_iff {tag : Tag} {value : Value} :
    ¬value.Fits tag ↔ ∃ cause, WriteItem.make tag value = .error (.invalidValue tag cause) := by
  rw [← exists_encode_iff, WriteItem.make]
  cases value.encode tag with
  | error cause =>
    refine ⟨fun _ => ⟨cause, rfl⟩, fun _ given => ?_⟩
    rcases given with ⟨bytes, written⟩
    cases written
  | ok bytes =>
    refine ⟨fun unwritten => absurd ⟨bytes, rfl⟩ unwritten, fun given => ?_⟩
    rcases given with ⟨cause, refused⟩
    cases refused

/-- A value is written to a tag if and only if it fits; what is written fills the cell and is read
back as the value, but for the zeros at the end of a `Char` text. Any other value is refused with
the tag, which holds of a list for a cell of one element and of a list of lists. -/
theorem encode_exact (tag : Tag) (value : Value) :
    (value.Fits tag ↔ ∃ payload, value.encode tag = .ok payload) ∧
      (∀ payload, value.encode tag = .ok payload → payload.length = tag.size ∧
        decode? tag.type tag.length payload = some (value.readBack tag.type)) ∧
      (¬value.Fits tag ↔
        ∃ cause, WriteItem.make tag value = .error (.invalidValue tag cause)) ∧
      ∀ values, value = .list values → value.Fits tag →
        1 < tag.length ∧ ∀ v ∈ values, v.list? = none := by
  refine ⟨exists_encode_iff.symm, fun payload written => ?_, not_fits_iff, ?_⟩
  · exact ⟨length_encode written, decode?_of_encode written⟩
  · intro values list fits
    subst list
    exact fits.several_of_list

/-- A text with zeros in it and at its end is written, and two numbers that are no numbers. -/
theorem encode_exact_zerosAndNaNs :
    let chars := (Tag.make .memory 0 .char 0 0 5).toOption.get rfl
    let reals := (Tag.make .memory 0 .real 0 0 2).toOption.get rfl
    let nans : Value := .list [.real ⟨0x7F800001⟩, .real ⟨0xFFC0BEEF⟩]
    (∃ payload, encode chars (.text "a\x00b\x00") = .ok payload ∧
        decode? .char 5 payload = some (.text "a\x00b")) ∧
      ∃ payload, encode reals nans = .ok payload ∧ payload.length = 8 ∧
        decode? .real 2 payload = some nans := by
  intro chars reals nans
  have charsWritten : encode chars (.text "a\x00b\x00") = .ok [97, 0, 98, 0, 0] := rfl
  have realsWritten : encode reals nans =
      .ok [0x7F, 0x80, 0x00, 0x01, 0xFF, 0xC0, 0xBE, 0xEF] := rfl
  have charsRead := ((encode_exact chars _).2.1 _ charsWritten).2
  have realsRead := (encode_exact reals _).2.1 _ realsWritten
  have trimmed : readBack .char (.text "a\x00b\x00") = .text "a\x00b" := rfl
  exact ⟨⟨_, charsWritten, charsRead.trans (congrArg some trimmed)⟩,
    ⟨_, realsWritten, realsRead.1, realsRead.2⟩⟩

end Value

end S7Link
