/-!
# Characters and numerals

A class of characters is a list of closed ranges of code points. Only membership is needed, so the
order of the ranges does not matter.

White space are the characters with the property White_Space: 25 of them, in ten ranges. `trim`
removes them from both ends of a text and leaves those inside it.

Decimal numerals have no leading zeros when written; when read they are one or more ASCII digits,
leading zeros included, and a reader may allow one plus sign in front and always has an upper limit.
Hexadecimal numerals are only written: padded to a width in upper case, or bare in lower case.
-/

namespace S7Link.Text

/-! ## Classes of characters -/

/-- Closed ranges of code points. -/
abbrev Ranges := List (Nat × Nat)

/-- Whether a character lies in one of the ranges. -/
def Ranges.contains (ranges : Ranges) (c : Char) : Bool :=
  ranges.any fun (first, last) => first ≤ c.toNat && c.toNat ≤ last

/-! ## White space -/

/-- The white-space characters. -/
def blankRanges : Ranges :=
  [(0x0009, 0x000D), (0x0020, 0x0020), (0x0085, 0x0085), (0x00A0, 0x00A0), (0x1680, 0x1680),
    (0x2000, 0x200A), (0x2028, 0x2029), (0x202F, 0x202F), (0x205F, 0x205F), (0x3000, 0x3000)]

/-- Whether a character is white space. -/
def isBlank (c : Char) : Bool := blankRanges.contains c

/-- The text without the white space that surrounds it. -/
def trim (cs : List Char) : List Char :=
  ((cs.dropWhile isBlank).reverse.dropWhile isBlank).reverse

/-- A text without white space at its ends is left as it is. -/
theorem trim_eq_self (cs : List Char) (first : ∀ c ∈ cs.head?, isBlank c = false)
    (last : ∀ c ∈ cs.getLast?, isBlank c = false) : trim cs = cs := by
  have keep : ∀ ds : List Char, (∀ c ∈ ds.head?, isBlank c = false) →
      ds.dropWhile isBlank = ds := by
    intro ds h
    cases ds with
    | nil => rfl
    | cons d ds => simp [h d (by simp)]
  rw [trim, keep cs first, keep cs.reverse (by simpa using last), List.reverse_reverse]

/-! ## Numerals -/

namespace Numeral

/-- The decimal numeral of a number. -/
def decimal (n : Nat) : List Char := Nat.toDigits 10 n

/-- The number that a run of decimal digits denotes. -/
def value (digits : List Char) : Nat :=
  digits.foldl (fun n c => 10 * n + (c.toNat - '0'.toNat)) 0

/-- Reads one or more decimal digits that denote a number of at most `limit`. -/
def read? (limit : Nat) (cs : List Char) : Option Nat :=
  if cs ≠ [] ∧ cs.all Char.isDigit ∧ value cs ≤ limit then some (value cs) else none

/-- Reads a decimal number of at most `limit` with an optional plus sign in front of it. -/
def readSigned? (limit : Nat) : List Char → Option Nat
  | '+' :: digits => read? limit digits
  | digits => read? limit digits

/-- The hexadecimal numeral in upper case, with zeros in front up to `width` digits. -/
def hexUpper (width n : Nat) : List Char :=
  let digits := (Nat.toDigits 16 n).map Char.toUpper
  List.replicate (width - digits.length) '0' ++ digits

/-- The hexadecimal numeral in lower case, without padding. -/
def hexLower (n : Nat) : List Char := Nat.toDigits 16 n

/-- A byte or word as it stands in messages: `0x` and at least `width` hexadecimal digits. -/
def hex (width n : Nat) : String := String.ofList ('0' :: 'x' :: hexUpper width n)

end Numeral

end S7Link.Text
