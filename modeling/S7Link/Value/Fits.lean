import S7Link.Value.Codec

/-!
# Which values suit a cell

`Value.Fits` tells which values a cell may hold, without a word about bytes: one element for a cell
of one, a list of elements for an array, and for a text cell a text of characters that it can store
and not too many of them. Arrays are flat, and a cell of one element takes no list.
-/

namespace S7Link.Value

/-- The value is one element of the type. -/
inductive IsElement : DataType → Value → Prop where
  | bit (b : Bool) : IsElement .bit (.bool b)
  | byte (n : UInt8) : IsElement .byte (.byte n)
  | word (n : UInt16) : IsElement .word (.word n)
  | int (n : Int16) : IsElement .int (.int n)
  | dword (n : UInt32) : IsElement .dword (.dword n)
  | dint (n : Int32) : IsElement .dint (.dint n)
  | real (x : Binary.Single) : IsElement .real (.real x)
  | lreal (x : Binary.Double) : IsElement .lreal (.lreal x)

/-- The number of 16-bit code units of a text: two for a character from U+10000 on, else one. -/
def codeUnits (s : String) : Nat :=
  s.toList.foldr (fun c count => (if c.toNat < 0x10000 then 1 else 2) + count) 0

/-- The value may be held by the cell of a tag. -/
inductive Fits (tag : Tag) : Value → Prop where
  /-- The only element of a cell. -/
  | element {value : Value} (single : tag.length = 1) (suits : IsElement tag.type value) :
      Fits tag value
  /-- The elements of an array. -/
  | elements {values : List Value} (several : 1 < tag.length)
      (count : values.length = tag.length) (suit : ∀ v ∈ values, IsElement tag.type v) :
      Fits tag (.list values)
  /-- A text of Latin-1 characters. -/
  | latin {s : String} (type : tag.type = .char ∨ tag.type = .string)
      (characters : ∀ c ∈ s.toList, c.toNat ≤ 0xFF) (length : s.length ≤ tag.length) :
      Fits tag (.text s)
  /-- A text of any characters. -/
  | wide {s : String} (type : tag.type = .wstring) (length : codeUnits s ≤ tag.length) :
      Fits tag (.text s)

/-! ## Elements are what can be written as elements -/

/-- An element has bytes, as many as its type takes. -/
theorem IsElement.encodeElement {type : DataType} {value : Value} (h : IsElement type value) :
    ∃ bytes, encodeElement type value = .ok bytes ∧ bytes.length = type.size 1 := by
  cases h <;> exact ⟨_, rfl, by simp [DataType.size]⟩

/-- What has bytes as an element of a type is an element of that type. -/
theorem IsElement.of_encodeElement {type : DataType} {value : Value} {bytes : Bytes}
    (h : Value.encodeElement type value = .ok bytes) : IsElement type value := by
  cases type <;> cases value <;> first | constructor | cases h

/-- The code units of a text are counted right. -/
theorem length_encode_eq_codeUnits (s : String) :
    (Text.Utf16.encode s.toList).length = codeUnits s := by
  unfold codeUnits Text.Utf16.encode
  induction s.toList with
  | nil => rfl
  | cons c rest ih =>
    simp only [List.flatMap_cons, List.length_append, List.foldr_cons, ih]
    unfold Text.Utf16.units
    split <;> simp

end S7Link.Value
