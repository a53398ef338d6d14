/-!
# Bytes

The bits of a byte are numbered 0 (least significant) to 7 (most significant); a number above 7
counts modulo 8. `Byte.bit` looks at one bit, `Byte.setBit` replaces it, and `Byte.binary` writes
all eight, most significant first.

A number of a fixed width is written most significant byte first. `BigEndian.write` gives exactly as
many bytes as asked for and keeps the number modulo `256 ^ width`; `BigEndian.read` takes any run of
bytes as one number. Between numbers below `256 ^ width` and runs of `width` bytes the two are
inverse to each other. That power is the `weight` of a byte with `width` bytes behind it.
-/

namespace S7Link

/-- A run of bytes as it stands in memory or on the wire. -/
abbrev Bytes := List UInt8

/-! ## Bits -/

namespace Byte

/-- The byte whose only set bit is `n`. -/
def mask (n : Nat) : UInt8 := 1 <<< UInt8.ofNat (n % 8)

/-- Whether bit `n` of `value` is set. -/
def bit (value : UInt8) (n : Nat) : Bool := value &&& mask n != 0

/-- `value` with bit `n` set to `state` and every other bit as it was. -/
def setBit (value : UInt8) (n : Nat) (state : Bool) : UInt8 :=
  if state then value ||| mask n else value &&& ~~~mask n

/-- The digits of `value`, most significant first, in two groups of four: `0b1000_0001`. -/
def binary (value : UInt8) : String :=
  let digit (n : Nat) : Char := if bit value n then '1' else '0'
  String.ofList
    (['0', 'b'] ++ [7, 6, 5, 4].map digit ++ ['_'] ++ [3, 2, 1, 0].map digit)

end Byte

/-! ## Big-endian numbers -/

namespace BigEndian

/-- The weight of a byte with so many bytes behind it, `256 ^ width`. -/
def weight : Nat → Nat
  | 0 => 1
  | width + 1 => 256 * weight width

/-- The `width` low bytes of `n`, most significant first. -/
def write : Nat → Nat → Bytes
  | 0, _ => []
  | width + 1, n => UInt8.ofNat (n / weight width) :: write width n

/-- The number that a run of bytes denotes. -/
def read : Bytes → Nat
  | [] => 0
  | b :: rest => b.toNat * weight rest.length + read rest

/-- The two bytes of a word. -/
def ofWord (n : UInt16) : Bytes := write 2 n.toNat

/-- The word of two bytes. -/
def toWord (high low : UInt8) : UInt16 := UInt16.ofNat (read [high, low])

/-! ### What is written is read back -/

theorem weight_pos (width : Nat) : 0 < weight width := by
  induction width with
  | zero => exact Nat.one_pos
  | succ width ih => exact Nat.mul_pos (by decide) ih

@[simp] theorem length_write (width n : Nat) : (write width n).length = width := by
  induction width with
  | zero => rfl
  | succ width ih => simp [write, ih]

theorem read_lt (bytes : Bytes) : read bytes < weight bytes.length := by
  induction bytes with
  | nil => exact Nat.one_pos
  | cons b rest ih =>
    have bound : b.toNat < 256 := b.toNat_lt
    have step : b.toNat * weight rest.length + weight rest.length ≤ 256 * weight rest.length := by
      rw [← Nat.succ_mul]
      exact Nat.mul_le_mul_right _ bound
    simp only [read, List.length_cons, weight]
    omega

theorem read_write (width n : Nat) : read (write width n) = n % weight width := by
  induction width with
  | zero => simp [write, read, weight, Nat.mod_one]
  | succ width ih =>
    have split : n % (weight width * 256) =
        n % weight width + weight width * (n / weight width % 256) :=
      Nat.mod_mul
    have byte : (UInt8.ofNat (n / weight width)).toNat = n / weight width % 256 :=
      UInt8.toNat_ofNat'
    simp only [write, read, length_write, ih, byte, weight]
    rw [Nat.mul_comm 256, split, Nat.mul_comm, Nat.add_comm]

theorem write_read (bytes : Bytes) : write bytes.length (read bytes) = bytes := by
  suffices general : ∀ k, write bytes.length (k * weight bytes.length + read bytes) = bytes by
    simpa using general 0
  induction bytes with
  | nil => intro k; rfl
  | cons b rest ih =>
    intro k
    have low : read rest < weight rest.length := read_lt rest
    have shape : k * weight (rest.length + 1) + (b.toNat * weight rest.length + read rest) =
        (k * 256 + b.toNat) * weight rest.length + read rest := by
      rw [weight, Nat.add_mul, Nat.mul_assoc k 256]
      omega
    have head : UInt8.ofNat (((k * 256 + b.toNat) * weight rest.length + read rest) /
        weight rest.length) = b := by
      rw [Nat.add_comm, Nat.add_mul_div_right _ _ (weight_pos rest.length),
        Nat.div_eq_of_lt low, Nat.zero_add]
      apply UInt8.toNat_inj.mp
      have := b.toNat_lt
      simp
    simp only [List.length_cons, read, write, shape, head, ih]

end BigEndian

end S7Link
