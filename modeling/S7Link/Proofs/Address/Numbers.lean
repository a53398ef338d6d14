import S7Link.Address.Spelling

/-!
# Numbers in addresses

A run of characters is read as a number if and only if it is digits that denote it
(`read?_eq_some_iff`), and with an optional plus sign if and only if it is the spelling of a number
of 16 bits (`readSigned?_eq_some_iff`). A number has many spellings, but the characters tell which
of them it is (`Count.eq_of_chars_eq`). The numeral that is written for a number is one of them.
-/

namespace S7Link

namespace Text.Numeral

/-- A number is read back from its numeral. -/
theorem value_decimal (n : Nat) : value (decimal n) = n := Nat.ofDigitChars_ten_toDigits

end Text.Numeral

namespace Address

open Text

/-! ## Digits -/

theorem AreDigits.notMem {cs : List Char} (digits : AreDigits cs) {c : Char}
    (other : c.isDigit = false) : c ∉ cs := by
  intro member
  rw [digits.2 c member] at other
  cases other

theorem AreDigits.plus_notMem {cs : List Char} (digits : AreDigits cs) : '+' ∉ cs :=
  digits.notMem rfl

theorem areDigits_decimal (n : Nat) : AreDigits (Numeral.decimal n) :=
  ⟨Nat.toDigits_ne_nil, fun _ member => Nat.isDigit_of_mem_toDigits (by decide) (by decide) member⟩

/-- A run of digits begins with a digit, whatever stands behind it. -/
theorem AreDigits.head?_append {cs : List Char} (digits : AreDigits cs) (rest : List Char) :
    (cs ++ rest).head?.any Char.isDigit = true := by
  cases cs with
  | nil => exact absurd rfl digits.1
  | cons c cs => exact digits.2 c List.mem_cons_self

theorem read?_eq_some_iff {limit n : Nat} {cs : List Char} :
    Numeral.read? limit cs = some n ↔ AreDigits cs ∧ Numeral.value cs = n ∧ n ≤ limit := by
  unfold Numeral.read?
  split
  · next given =>
    rw [Option.some.injEq]
    constructor
    · rintro rfl
      exact ⟨⟨given.1, List.all_eq_true.mp given.2.1⟩, rfl, given.2.2⟩
    · exact fun number => number.2.1
  · next refused =>
    constructor
    · intro none
      cases none
    · rintro ⟨digits, rfl, le⟩
      exact absurd ⟨digits.1, List.all_eq_true.mpr digits.2, le⟩ refused

/-! ## Numbers with an optional sign -/

namespace Count

theorem denotes_decimal {n : Nat} (le : n ≤ 65535) : Denotes ⟨false, Numeral.decimal n⟩ n :=
  ⟨areDigits_decimal n, Numeral.value_decimal n, le⟩

theorem mem_chars {count : Count} {c : Char} (member : c ∈ count.chars) :
    c = '+' ∨ c ∈ count.digits := by
  rcases count with ⟨plus, digits⟩
  cases plus with
  | false => exact Or.inr member
  | true => exact List.mem_cons.mp member

/-- The characters of a number tell its sign from its digits. -/
theorem eq_of_chars_eq {a b : Count} (digits : AreDigits a.digits) (digits' : AreDigits b.digits)
    (same : a.chars = b.chars) : a = b := by
  rcases a with ⟨plus, ds⟩
  rcases b with ⟨plus', ds'⟩
  cases plus with
  | false =>
    cases plus' with
    | false => exact congrArg (Count.mk false) same
    | true =>
      have signed : ds = '+' :: ds' := same
      exact absurd (signed ▸ List.mem_cons_self) digits.plus_notMem
  | true =>
    cases plus' with
    | false =>
      have signed : '+' :: ds = ds' := same
      exact absurd (signed ▸ List.mem_cons_self) digits'.plus_notMem
    | true => exact congrArg (Count.mk true) (List.cons.inj same).2

end Count

theorem readSigned?_eq_some_iff {n : Nat} {cs : List Char} :
    Numeral.readSigned? 65535 cs = some n ↔
      ∃ count : Count, count.chars = cs ∧ count.Denotes n := by
  constructor
  · intro read
    unfold Numeral.readSigned? at read
    split at read
    · next digits => exact ⟨⟨true, digits⟩, rfl, read?_eq_some_iff.mp read⟩
    · exact ⟨⟨false, cs⟩, rfl, read?_eq_some_iff.mp read⟩
  · rintro ⟨⟨plus, digits⟩, rfl, denotes⟩
    cases plus with
    | true => exact read?_eq_some_iff.mpr denotes
    | false =>
      change Numeral.readSigned? 65535 digits = some n
      unfold Numeral.readSigned?
      split
      · next digits =>
        exact absurd List.mem_cons_self denotes.1.plus_notMem
      · exact read?_eq_some_iff.mpr denotes

end Address

end S7Link
