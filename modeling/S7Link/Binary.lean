/-!
# Binary floating-point numbers

An encoding of an interchange format is a sign, a biased exponent and a fraction, side by side in
one word. `Format.decode` says which number an encoding stands for: no number, an infinity, or a
sign with a magnitude `significand * 2 ^ exponent`. Numbers are compared by `Number.equals`: a NaN
differs from everything, itself included, and the two zeros are equal.

A floating-point number is kept as its encoding, so that a NaN keeps its payload from the wire to
the wire. `Single.widen` gives the encoding of the same number in 64 bits, which is always exact; a
NaN is made quiet and keeps its payload in the high bits of the wider fraction.
-/

namespace S7Link.Binary

/-! ## Formats and numbers -/

/-- The widths of the exponent and of the fraction of an encoding. -/
structure Format where
  exponentWidth : Nat
  fractionWidth : Nat
deriving DecidableEq, Repr

/-- The format of 32 bits. -/
def Format.single : Format := ⟨8, 23⟩

/-- The format of 64 bits. -/
def Format.double : Format := ⟨11, 52⟩

/-- The number `significand * 2 ^ exponent`. -/
structure Magnitude where
  significand : Nat
  exponent : Int
  /-- Whether the next smaller number is only half as far away as the next greater one. -/
  narrowBelow : Bool
deriving DecidableEq, Repr

/-- What an encoding stands for. -/
inductive Number where
  | nan
  | infinite (negative : Bool)
  | finite (negative : Bool) (magnitude : Magnitude)
deriving DecidableEq, Repr

/-- The number that an encoding stands for. An exponent of zeros has no hidden bit and the scale of
the least exponent with one; an exponent of ones is an infinity or no number. -/
def Format.decode (f : Format) (bits : Nat) : Number :=
  let fraction := bits % Nat.pow 2 f.fractionWidth
  let biased := bits / Nat.pow 2 f.fractionWidth % Nat.pow 2 f.exponentWidth
  let negative := bits / Nat.pow 2 (f.fractionWidth + f.exponentWidth) % 2 = 1
  let scale : Int := 2 - Nat.pow 2 (f.exponentWidth - 1) - f.fractionWidth
  if biased = Nat.pow 2 f.exponentWidth - 1 then
    if fraction = 0 then .infinite negative else .nan
  else if biased = 0 then .finite negative ⟨fraction, scale, false⟩
  else
    .finite negative
      ⟨Nat.pow 2 f.fractionWidth + fraction, scale + (biased - 1), fraction = 0 ∧ 1 < biased⟩

/-- Whether two numbers of one format are equal as numbers. -/
def Number.equals : Number → Number → Bool
  | .infinite s, .infinite t => s == t
  | .finite s x, .finite t y =>
    (x.significand == 0 && y.significand == 0) ||
      (s == t && x.significand == y.significand && x.exponent == y.exponent)
  | _, _ => false

/-! ## Encoded numbers -/

/-- A floating-point number of 32 bits, by its encoding. -/
structure Single where
  bits : UInt32
deriving DecidableEq, Repr

/-- A floating-point number of 64 bits, by its encoding. -/
structure Double where
  bits : UInt64
deriving DecidableEq, Repr

/-- The number that an encoding of 32 bits stands for. -/
def Single.number (x : Single) : Number := Format.single.decode x.bits.toNat

/-- The number that an encoding of 64 bits stands for. -/
def Double.number (x : Double) : Number := Format.double.decode x.bits.toNat

/-- Whether an encoding stands for no number. -/
def Double.isNaN (x : Double) : Bool := x.number == .nan

/-- The encoding in 64 bits of `significand * 2 ^ exponent`, for a significand that is neither zero
nor wider than the fraction and an exponent that needs no denormal encoding. -/
def doubleMagnitude (significand : Nat) (exponent : Int) : Nat :=
  let top := significand.log2
  let biased := (exponent + top + 1023).toNat
  biased * Nat.pow 2 52 + (significand * Nat.pow 2 (52 - top) - Nat.pow 2 52)

/-- The same number in 64 bits. -/
def Single.widen (x : Single) : Double :=
  let sign := x.bits.toNat / Nat.pow 2 31 * Nat.pow 2 63
  let magnitude :=
    match x.number with
    | .nan => 0x7FF8000000000000 ||| x.bits.toNat % Nat.pow 2 23 * Nat.pow 2 29
    | .infinite _ => 0x7FF0000000000000
    | .finite _ m => if m.significand = 0 then 0 else doubleMagnitude m.significand m.exponent
  ⟨UInt64.ofNat (sign + magnitude)⟩

end S7Link.Binary
