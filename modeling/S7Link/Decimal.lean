import S7Link.Binary
import S7Link.Text.Basic

/-!
# Floating-point numbers in messages

Every binary number is the nearest one, within its format, to a whole interval of real numbers.
`shortest` gives a decimal of that interval with the fewest digits, and of those the one nearest to
the number; if two are equally near, the greater.

All quantities are whole multiples of one power of ten, so the search is exact. The ends of the
interval lie halfway to the neighbours of the number and belong to it if the significand is even.

The shortest decimal is written positionally, with at least one digit on either side of the point,
if the weight of its first digit lies between `10 ^ -4` and `10 ^ 15`; else as digits and an
exponent, with a point only if there is more than one digit and a sign only if the exponent is
negative. NaN has no sign; zero has one.
-/

namespace S7Link

open Binary Text

/-- The number `digits * 10 ^ exponent`. -/
structure Decimal where
  digits : Nat
  exponent : Int
deriving DecidableEq, Repr

namespace Decimal

/-! ## Few digits -/

/-- A number between the ends of its rounding interval, all three in units of `10 ^ unit`. -/
structure Interval where
  low : Nat
  exact : Nat
  high : Nat
  /-- Whether the ends belong to the interval. -/
  closed : Bool
  unit : Int
deriving DecidableEq, Repr

/-- The rounding interval of a magnitude. A quarter of the gap to the next greater number is the
coarsest power of two that all three quantities are multiples of; its denominator is made a power of
ten. -/
def Interval.of (m : Magnitude) : Interval :=
  let quarter := m.exponent - 2
  let units (n : Nat) : Nat := n * Nat.pow 2 quarter.toNat * Nat.pow 5 (-quarter).toNat
  { low := units (4 * m.significand - if m.narrowBelow then 1 else 2)
    exact := units (4 * m.significand)
    high := units (4 * m.significand + 2)
    closed := m.significand % 2 = 0
    unit := min quarter 0 }

/-- Whether a number of units lies in the interval. -/
def Interval.contains (i : Interval) (n : Nat) : Bool :=
  if i.closed then i.low ≤ n && n ≤ i.high else i.low < n && n < i.high

/-- The multiple of `grid` in the interval that is nearest to the exact number, counted in grids.
Only the two multiples around the exact number can be it. -/
def Interval.nearest? (i : Interval) (grid : Nat) : Option Nat :=
  let below := i.exact / grid
  let fitsBelow := i.contains (below * grid)
  let fitsAbove := i.contains ((below + 1) * grid)
  if fitsAbove && (!fitsBelow || grid ≤ 2 * (i.exact % grid)) then some (below + 1)
  else if fitsBelow then some below
  else none

/-- The number on the coarsest grid, from `10 ^ places` down to one unit, that meets the
interval. -/
def Interval.search (i : Interval) : Nat → Decimal
  | 0 => ⟨i.exact, i.unit⟩
  | places + 1 =>
    match i.nearest? (Nat.pow 10 (places + 1)) with
    | some n => ⟨n, i.unit + (places + 1)⟩
    | none => i.search places

/-- The same number without zeros at the end of its digits; at most `fuel` of them are removed. -/
def strip : Nat → Decimal → Decimal
  | 0, d => d
  | fuel + 1, d =>
    if d.digits ≠ 0 ∧ d.digits % 10 = 0 then strip fuel ⟨d.digits / 10, d.exponent + 1⟩ else d

/-- The number of decimal digits. -/
def width (n : Nat) : Nat := (Nat.toDigits 10 n).length

/-- The shortest decimal that reads back as a magnitude other than zero. -/
def shortest (m : Magnitude) : Decimal :=
  let i := Interval.of m
  let d := i.search (width i.exact - 1)
  d.strip (width d.digits)

/-! ## Written forms -/

/-- Digits with a point, the last of them of weight `10 ^ exponent`. -/
def positional (digits : List Char) (exponent : Int) : List Char :=
  if 0 ≤ exponent then digits ++ List.replicate exponent.toNat '0' ++ ['.', '0']
  else
    let places := (-exponent).toNat
    let padded := List.replicate (places + 1 - digits.length) '0' ++ digits
    padded.take (padded.length - places) ++ '.' :: padded.drop (padded.length - places)

/-- Digits and an exponent, the first digit of weight `10 ^ lead`. -/
def scientific (digits : List Char) (lead : Int) : List Char :=
  let fraction := if digits.length = 1 then [] else '.' :: digits.drop 1
  let sign := if lead < 0 then ['-'] else []
  digits.take 1 ++ fraction ++ 'e' :: sign ++ Numeral.decimal lead.natAbs

/-- How a decimal is written. -/
def layout (d : Decimal) : List Char :=
  let digits := Numeral.decimal d.digits
  let lead := d.exponent + digits.length - 1
  if -4 ≤ lead ∧ lead ≤ 15 then positional digits d.exponent else scientific digits lead

/-- How a number is written. -/
def write : Number → List Char
  | .nan => ['N', 'a', 'N']
  | .infinite negative => (if negative then ['-'] else []) ++ ['i', 'n', 'f']
  | .finite negative m =>
    (if negative then ['-'] else []) ++
      (if m.significand = 0 then ['0', '.', '0'] else layout (shortest m))

end Decimal

end S7Link
