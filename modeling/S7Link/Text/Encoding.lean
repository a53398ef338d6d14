import S7Link.Byte

/-!
# Texts as bytes and as 16-bit code units

In Latin-1 every character up to U+00FF is one byte of the same number. A text with a character
above U+00FF has no such bytes; every run of bytes is a text.

As code units, a character below U+10000 is one unit, any other is a pair of surrogates: a high one
(`D800`–`DBFF`) and a low one (`DC00`–`DFFF`). Every list of code units denotes a text; a surrogate
that is not part of such a pair stands for the replacement character U+FFFD.
-/

namespace S7Link.Text

/-! ## Latin-1 -/

namespace Latin

/-- The bytes of a text, if all its characters lie at or below U+00FF. -/
def encode? (cs : List Char) : Option Bytes :=
  if cs.all (·.toNat ≤ 0xFF) then some (cs.map fun c => UInt8.ofNat c.toNat) else none

/-- The text that a run of bytes denotes. -/
def decode (bytes : Bytes) : List Char := bytes.map fun b => Char.ofNat b.toNat

/-! ### What is written is read back -/

theorem decode_of_encode? {cs : List Char} {bytes : Bytes} (h : encode? cs = some bytes) :
    decode bytes = cs := by
  unfold encode? at h
  split at h
  · next small =>
    cases h
    simp only [decode, List.map_map]
    conv => rhs; rw [← List.map_id cs]
    apply List.map_congr_left
    intro c member
    have bound : c.toNat ≤ 0xFF := by simpa using List.all_eq_true.mp small c member
    simp only [Function.comp, UInt8.toNat_ofNat', id]
    rw [Nat.mod_eq_of_lt (by omega), Char.ofNat_toNat]
  · cases h

theorem toNat_ofNat (b : UInt8) : (Char.ofNat b.toNat).toNat = b.toNat := by
  have scalar : b.toNat.isValidChar := Or.inl (by have := b.toNat_lt; omega)
  rw [Char.ofNat, dif_pos scalar]
  rfl

theorem encode?_decode (bytes : Bytes) : encode? (decode bytes) = some bytes := by
  have small (b : UInt8) : b.toNat ≤ 255 := by have := b.toNat_lt; omega
  simp [encode?, decode, toNat_ofNat, small, Function.comp_def]

end Latin

/-! ## Code units -/

namespace Utf16

/-- Whether a code unit opens a pair. -/
def isHigh (u : UInt16) : Bool := 0xD800 ≤ u && u < 0xDC00

/-- Whether a code unit closes a pair. -/
def isLow (u : UInt16) : Bool := 0xDC00 ≤ u && u < 0xE000

/-- The code units of one character. -/
def units (c : Char) : List UInt16 :=
  if c.toNat < 0x10000 then [UInt16.ofNat c.toNat]
  else
    let offset := c.toNat - 0x10000
    [UInt16.ofNat (0xD800 + offset / 0x400), UInt16.ofNat (0xDC00 + offset % 0x400)]

/-- The code units of a text. -/
def encode (cs : List Char) : List UInt16 := cs.flatMap units

/-- The character that a pair of surrogates denotes. -/
def pair (high low : UInt16) : Char :=
  Char.ofNat (0x10000 + (high.toNat - 0xD800) * 0x400 + (low.toNat - 0xDC00))

/-- What stands for a surrogate that is not part of a pair. -/
def replacement : Char := '\ufffd'

/-- The character that a code unit denotes by itself. -/
def single (u : UInt16) : Char :=
  if isHigh u || isLow u then replacement else Char.ofNat u.toNat

/-- The text that a list of code units denotes. -/
def decode : List UInt16 → List Char
  | [] => []
  | [u] => [single u]
  | u :: v :: rest =>
    if isHigh u && isLow v then pair u v :: decode rest else single u :: decode (v :: rest)

end Utf16

end S7Link.Text
