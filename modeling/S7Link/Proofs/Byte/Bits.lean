import S7Link.Byte

/-!
# Bits are set one by one

`Byte.bit` looks at one bit of a byte, so it may be told from the bits of the byte as a number in
base two (`bit_eq_getLsbD`). Setting a bit gives it the new state and leaves every other bit as it
was.
-/

namespace S7Link.Byte

/-- A mask has one bit set. -/
theorem getLsbD_mask (n : Nat) {i : Nat} (inByte : i < 8) :
    (mask n).toBitVec.getLsbD i = decide (i = n % 8) := by
  have all : ∀ k < 8, ∀ j < 8,
      (1 <<< UInt8.ofNat k : UInt8).toBitVec.getLsbD j = decide (j = k) := by
    decide
  exact all (n % 8) (Nat.mod_lt n (by decide)) i inByte

theorem bit_eq_getLsbD (value : UInt8) (n : Nat) :
    bit value n = value.toBitVec.getLsbD (n % 8) := by
  have inByte : n % 8 < 8 := Nat.mod_lt n (by decide)
  have masked : (value &&& mask n).toBitVec = value.toBitVec &&& (mask n).toBitVec :=
    UInt8.toBitVec_and ..
  rw [bit]
  cases state : value.toBitVec.getLsbD (n % 8) with
  | true =>
    apply bne_iff_ne.mpr
    intro zero
    have bit := congrArg (BitVec.getLsbD · (n % 8)) (congrArg UInt8.toBitVec zero)
    rw [masked] at bit
    simp [getLsbD_mask n inByte, state] at bit
  | false =>
    have zero : value &&& mask n = 0 := by
      apply UInt8.toBitVec_inj.mp
      rw [masked]
      apply BitVec.eq_of_getLsbD_eq
      intro i below
      rw [BitVec.getLsbD_and, getLsbD_mask n below]
      by_cases same : i = n % 8
      · simp [same, state]
      · simp [same]
    rw [zero]
    rfl

/-- A bit is in the state to which it was set. -/
theorem bit_setBit_self (value : UInt8) (n : Nat) (state : Bool) :
    bit (setBit value n state) n = state := by
  have inByte : n % 8 < 8 := Nat.mod_lt n (by decide)
  have masked := getLsbD_mask n inByte
  rw [decide_eq_true rfl] at masked
  rw [bit_eq_getLsbD, setBit]
  cases state with
  | true =>
    rw [if_pos rfl, UInt8.toBitVec_or, BitVec.getLsbD_or, masked, Bool.or_true]
  | false =>
    rw [if_neg Bool.false_ne_true, UInt8.toBitVec_and, BitVec.getLsbD_and, UInt8.toBitVec_not,
      BitVec.getLsbD_not, masked, Bool.not_true, Bool.and_false, Bool.and_false]

/-- Setting a bit leaves the others as they were. -/
theorem bit_setBit_of_ne (value : UInt8) {n other : Nat} (state : Bool)
    (apart : other % 8 ≠ n % 8) : bit (setBit value n state) other = bit value other := by
  have inByte : other % 8 < 8 := Nat.mod_lt other (by decide)
  have unmasked := getLsbD_mask n inByte
  rw [decide_eq_false apart] at unmasked
  rw [bit_eq_getLsbD, bit_eq_getLsbD, setBit]
  cases state with
  | true =>
    rw [if_pos rfl, UInt8.toBitVec_or, BitVec.getLsbD_or, unmasked, Bool.or_false]
  | false =>
    rw [if_neg Bool.false_ne_true, UInt8.toBitVec_and, BitVec.getLsbD_and, UInt8.toBitVec_not,
      BitVec.getLsbD_not, unmasked, decide_eq_true inByte]
    simp

end S7Link.Byte
