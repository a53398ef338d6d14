import Mathlib.Data.List.TakeWhile
import S7Link.Address.Reader
import S7Link.Proofs.Address.Numbers
import S7Link.Proofs.Outcome

/-!
# The parts of an address

An address is read part by part, and a part is read if and only if the text begins with a spelling
of it: the place (`readRegion_eq_ok_iff`), the type letters (`readType_eq_ok_iff`), the offset
(`readStart_eq_ok_iff`) and the suffix (`readSuffix_eq_ok_iff`). So the parts of a spelling can be
told from its characters (`Spelling.Parts.eq_of_chars_eq`): a comma ends the number of a block, a
digit ends the type letters, and a point or a star ends the offset.
-/

namespace S7Link.Address

open Outcome Text

/-- The front of a list whose elements have a property, and what begins with the first element that
has not, are the only such parts of the list. -/
theorem takeWhile_dropWhile_iff {α : Type} {p : α → Bool} {xs front rest : List α} :
    xs.takeWhile p = front ∧ xs.dropWhile p = rest ↔
      xs = front ++ rest ∧ (∀ x ∈ front, p x = true) ∧ ∀ x ∈ rest.head?, p x = false := by
  constructor
  · rintro ⟨rfl, rfl⟩
    refine ⟨List.takeWhile_append_dropWhile.symm, fun x => List.mem_takeWhile_imp, ?_⟩
    intro x first
    have stopped := List.head?_dropWhile_not p xs
    rwa [Option.mem_def.mp first] at stopped
  · rintro ⟨rfl, inside, stopped⟩
    rw [List.takeWhile_append_of_pos inside, List.dropWhile_append_of_pos inside]
    cases rest with
    | nil => exact ⟨List.append_nil front, rfl⟩
    | cons x rest =>
      have outside : ¬p x = true := Bool.eq_false_iff.mp (stopped x rfl)
      rw [List.takeWhile_cons_of_neg outside, List.dropWhile_cons_of_neg outside, List.append_nil]
      exact ⟨rfl, rfl⟩

/-! ## Places -/

theorem splitComma?_eq_some_iff {cs number body : List Char} :
    splitComma? cs = some (number, body) ↔ cs = number ++ ',' :: body ∧ ',' ∉ number := by
  have inside : (∀ c ∈ number, decide (c ≠ ',') = true) ↔ ',' ∉ number := by
    simp only [ne_eq, decide_not, Bool.not_eq_eq_eq_not, Bool.not_true, decide_eq_false_iff_not]
    exact ⟨fun other member => other ',' member rfl, fun none c member same => none (same ▸ member)⟩
  constructor
  · intro split
    unfold splitComma? at split
    split at split
    · cases split
    · next comma after stopped =>
      cases split
      obtain ⟨whole, free, first⟩ := takeWhile_dropWhile_iff.mp ⟨rfl, stopped⟩
      obtain rfl : comma = ',' := by simpa using first comma rfl
      exact ⟨whole, inside.mp free⟩
  · rintro ⟨rfl, free⟩
    have stopped : ∀ c ∈ (',' :: body).head?, decide (c ≠ ',') = false := by
      intro c first
      cases first
      rfl
    obtain ⟨front, rest⟩ := takeWhile_dropWhile_iff.mpr ⟨rfl, inside.mpr free, stopped⟩
    unfold splitComma?
    rw [rest, front]

theorem areaOf?_eq_some_iff {letter : Char} {area : Area} :
    areaOf? letter = some area ↔ IsLetter letter area := by
  constructor
  · intro named
    unfold areaOf? at named
    split at named <;> cases named <;> constructor
  · intro is
    cases is <;> rfl

/-- A number and the comma behind it are split off. -/
theorem Count.Denotes.splitComma? {n : Count} {value : Nat} (denotes : n.Denotes value)
    (body : List Char) : splitComma? (n.chars ++ ',' :: body) = some (n.chars, body) := by
  refine splitComma?_eq_some_iff.mpr ⟨rfl, fun comma => ?_⟩
  rcases Count.mem_chars comma with plus | digit
  · cases plus
  · exact denotes.1.notMem rfl digit

theorem readRegion_eq_ok_iff {cs body : List Char} {region : Region} :
    readRegion cs = .ok (region, body) ↔
      ∃ place : Place, cs = place.chars ++ body ∧ place.Denotes region := by
  constructor
  · intro read
    unfold readRegion at read
    split at read
    · next rest =>
      split at read
      · cases read
      · next number body' split =>
        split at read
        · cases read
        · next block numbered =>
          cases read
          obtain ⟨rfl, _⟩ := splitComma?_eq_some_iff.mp split
          obtain ⟨count, rfl, denotes⟩ := readSigned?_eq_some_iff.mp numbered
          refine ⟨.block count, ?_, .block denotes⟩
          rw [Place.chars, List.append_assoc]
          rfl
    · next letter body' _ =>
      split at read
      · cases read
      · next area named =>
        cases read
        exact ⟨.area letter, rfl, .area (areaOf?_eq_some_iff.mp named)⟩
    · cases read
  · rintro ⟨place, rfl, denotes⟩
    cases denotes with
    | @block count n is =>
      have chars : (Place.block count).chars ++ body =
          'D' :: 'B' :: (count.chars ++ ',' :: body) := by
        rw [Place.chars, List.append_assoc]
        rfl
      rw [chars, readRegion, is.splitComma?]
      dsimp only
      rw [readSigned?_eq_some_iff.mpr ⟨count, rfl, is⟩]
    | area is => cases is <;> rfl

/-! ## Type letters -/

/-- What holds of the letters of every entry holds of every letter. -/
theorem forall_typeLetters {p : Char → Bool} (all : ∀ entry ∈ typeLetters, entry.1.all p = true) :
    ∀ entry ∈ typeLetters, ∀ c ∈ entry.1, p c = true :=
  fun entry known => List.all_eq_true.mp (all entry known)

theorem not_isDigit_of_typeLetters :
    ∀ entry ∈ typeLetters, ∀ c ∈ entry.1, (!c.isDigit) = true :=
  forall_typeLetters (by decide)

/-- The letters tell the type. -/
theorem eq_of_typeLetters :
    ∀ entry ∈ typeLetters, ∀ other ∈ typeLetters, entry.1 = other.1 → entry = other := by
  decide

/-- Where a digit follows, the letters before it are told from it. -/
theorem letters_numbers_unique {letters letters' numbers numbers' : List Char}
    {type type' : DataType} (known : (letters, type) ∈ typeLetters)
    (known' : (letters', type') ∈ typeLetters) (digit : numbers.head?.any Char.isDigit = true)
    (digit' : numbers'.head?.any Char.isDigit = true)
    (same : letters ++ numbers = letters' ++ numbers') :
    letters = letters' ∧ type = type' ∧ numbers = numbers' := by
  have stopped : ∀ {ds : List Char}, ds.head?.any Char.isDigit = true →
      ∀ c ∈ ds.head?, (!c.isDigit) = false := by
    intro ds digit c first
    rw [Option.mem_def.mp first, Option.any_some] at digit
    rw [digit]
    rfl
  obtain ⟨front, rest⟩ := takeWhile_dropWhile_iff.mpr
    ⟨rfl, not_isDigit_of_typeLetters _ known, stopped digit⟩
  obtain ⟨front', rest'⟩ := takeWhile_dropWhile_iff.mpr
    ⟨same, not_isDigit_of_typeLetters _ known', stopped digit'⟩
  obtain rfl : letters = letters' := front.symm.trans front'
  cases eq_of_typeLetters _ known _ known' rfl
  exact ⟨rfl, rfl, rest.symm.trans rest'⟩

/-- Letters fit a text that begins with them and goes on with a digit. -/
theorem fits_eq_some_iff {body letters : List Char} {type : DataType}
    {hit : List Char × DataType × List Char} :
    ((letters.isPrefixOf? body).bind fun numbers =>
        if numbers.head?.any Char.isDigit then some (letters, type, numbers) else .none) =
      some hit ↔
      ∃ numbers, body = letters ++ numbers ∧ numbers.head?.any Char.isDigit = true ∧
        (letters, type, numbers) = hit := by
  rw [Option.bind_eq_some_iff]
  refine exists_congr fun numbers => ?_
  rw [List.isPrefixOf?_eq_some_iff_append_eq, Option.ite_none_right_eq_some, Option.some.injEq]
  exact and_congr_left fun _ => eq_comm

theorem readType_eq_ok_iff {body letters numbers : List Char} {type : DataType} :
    readType body = .ok (letters, type, numbers) ↔
      (letters, type) ∈ typeLetters ∧ body = letters ++ numbers ∧
        numbers.head?.any Char.isDigit = true := by
  unfold readType
  dsimp only
  constructor
  · intro read
    split at read
    · next hit found =>
      cases read
      obtain ⟨⟨letters', type'⟩, known, fits⟩ := List.exists_of_findSome?_eq_some found
      obtain ⟨numbers', whole, digit, same⟩ := fits_eq_some_iff.mp fits
      cases same
      exact ⟨known, whole, digit⟩
    · cases read
  · rintro ⟨known, whole, digit⟩
    split
    · -- The order of the letters does not matter, since no other entry fits.
      next hit found =>
      obtain ⟨⟨letters', type'⟩, known', fits'⟩ := List.exists_of_findSome?_eq_some found
      obtain ⟨numbers', whole', digit', rfl⟩ := fits_eq_some_iff.mp fits'
      obtain ⟨rfl, rfl, rfl⟩ :=
        letters_numbers_unique known' known digit' digit (whole'.symm.trans whole)
      rfl
    · next none =>
      have refused := List.findSome?_eq_none_iff.mp none (letters, type) known
      cases refused.symm.trans (fits_eq_some_iff.mpr ⟨numbers, whole, digit, rfl⟩)

/-! ## Offsets and suffixes -/

theorem readStart_eq_ok_iff {numbers rest : List Char} {start : Nat} :
    readStart numbers = .ok (start, rest) ↔
      ∃ offset, numbers = offset ++ rest ∧ AreDigits offset ∧ Numeral.value offset = start ∧
        start ≤ 4294967295 ∧ ∀ c ∈ rest.head?, c = '.' ∨ c = '*' := by
  have inside {offset : List Char} (digits : AreDigits offset) :
      ∀ c ∈ offset, (decide (c ≠ '.') && decide (c ≠ '*')) = true := by
    intro c member
    have noPoint : '.' ∉ offset := digits.notMem rfl
    have noStar : '*' ∉ offset := digits.notMem rfl
    have point : c ≠ '.' := fun same => noPoint (same ▸ member)
    have star : c ≠ '*' := fun same => noStar (same ▸ member)
    rw [decide_eq_true point, decide_eq_true star]
    rfl
  have mark (c : Char) : (decide (c ≠ '.') && decide (c ≠ '*')) = false ↔ c = '.' ∨ c = '*' := by
    simp only [Bool.and_eq_false_iff, decide_eq_false_iff_not, not_not]
  unfold readStart
  dsimp only
  constructor
  · intro read
    split at read
    · next value found =>
      cases read
      obtain ⟨digits, value, le⟩ := read?_eq_some_iff.mp found
      obtain ⟨whole, _, stopped⟩ := takeWhile_dropWhile_iff.mp ⟨rfl, rfl⟩
      exact ⟨_, whole, digits, value, le, fun c first => (mark c).mp (stopped c first)⟩
    · cases read
  · rintro ⟨offset, rfl, digits, value, le, stopped⟩
    obtain ⟨front, behind⟩ := takeWhile_dropWhile_iff.mpr
      ⟨rfl, inside digits, fun c first => (mark c).mpr (stopped c first)⟩
    rw [front, behind, read?_eq_some_iff.mpr ⟨digits, value, le⟩]

/-- A point or a star ends the digits before it. -/
theorem digits_rest_unique {offset offset' rest rest' : List Char} (digits : AreDigits offset)
    (digits' : AreDigits offset') (mark : ∀ c ∈ rest.head?, c = '.' ∨ c = '*')
    (mark' : ∀ c ∈ rest'.head?, c = '.' ∨ c = '*') (same : offset ++ rest = offset' ++ rest') :
    offset = offset' ∧ rest = rest' := by
  have stopped : ∀ c, c = '.' ∨ c = '*' → c.isDigit = false := by
    rintro c (rfl | rfl) <;> rfl
  obtain ⟨front, behind⟩ := takeWhile_dropWhile_iff.mpr
    ⟨rfl, digits.2, fun c first => stopped c (mark c first)⟩
  obtain ⟨front', behind'⟩ := takeWhile_dropWhile_iff.mpr
    ⟨same, digits'.2, fun c first => stopped c (mark' c first)⟩
  exact ⟨front.symm.trans front', behind.symm.trans behind'⟩

/-- The suffix that an ending spells. -/
inductive Ending.Denotes : Ending → Suffix → Prop where
  | none : Denotes .none .none
  | point {n : Count} {value : Nat} (is : n.Denotes value) : Denotes (.point n) (.point value)
  | star {n : Count} {value : Nat} (is : n.Denotes value) : Denotes (.star n) (.star value)

namespace Ending

theorem head?_chars (ending : Ending) : ∀ c ∈ ending.chars.head?, c = '.' ∨ c = '*' := by
  cases ending with
  | none => exact fun c first => absurd first (Option.not_mem_none c)
  | point n => exact fun c first => Or.inl (Option.some.inj first).symm
  | star n => exact fun c first => Or.inr (Option.some.inj first).symm

theorem Denotes.eq_of_chars_eq {a b : Ending} {suffix suffix' : Suffix} (denotes : a.Denotes suffix)
    (denotes' : b.Denotes suffix') (same : a.chars = b.chars) : a = b := by
  cases denotes with
  | none =>
    cases denotes' with
    | none => rfl
    | point => cases same
    | star => cases same
  | point is =>
    cases denotes' with
    | none => cases same
    | point is' => rw [Count.eq_of_chars_eq is.1 is'.1 (List.cons.inj same).2]
    | star => cases (List.cons.inj same).1
  | star is =>
    cases denotes' with
    | none => cases same
    | point => cases (List.cons.inj same).1
    | star is' => rw [Count.eq_of_chars_eq is.1 is'.1 (List.cons.inj same).2]

theorem Denotes.unique {ending : Ending} {suffix suffix' : Suffix} (denotes : ending.Denotes suffix)
    (denotes' : ending.Denotes suffix') : suffix = suffix' := by
  cases denotes with
  | none =>
    cases denotes'
    rfl
  | point is =>
    cases denotes' with
    | point is' => rw [is.unique is']
  | star is =>
    cases denotes' with
    | star is' => rw [is.unique is']

end Ending

theorem readSuffix_eq_ok_iff {rest : List Char} (mark : ∀ c ∈ rest.head?, c = '.' ∨ c = '*')
    {suffix : Suffix} :
    readSuffix rest = .ok suffix ↔
      ∃ ending : Ending, ending.chars = rest ∧ ending.Denotes suffix := by
  constructor
  · intro read
    unfold readSuffix at read
    split at read
    · cases read
      exact ⟨.none, rfl, .none⟩
    · next sign number =>
      split at read
      · cases read
      · next n numbered =>
        cases read
        obtain ⟨count, rfl, denotes⟩ := readSigned?_eq_some_iff.mp numbered
        rcases mark sign rfl with rfl | rfl
        · exact ⟨.point count, rfl, .point denotes⟩
        · exact ⟨.star count, rfl, .star denotes⟩
  · rintro ⟨ending, rfl, denotes⟩
    cases denotes with
    | none => rfl
    | @point n value is =>
      rw [Ending.chars, readSuffix, readSigned?_eq_some_iff.mpr ⟨n, rfl, is⟩]
      rfl
    | @star n value is =>
      rw [Ending.chars, readSuffix, readSigned?_eq_some_iff.mpr ⟨n, rfl, is⟩]
      rfl

/-! ## Whole addresses -/

theorem Place.Denotes.eq_of_chars_eq {a b : Place} {region region' : Region}
    (denotes : a.Denotes region) (denotes' : b.Denotes region') (same : a.chars = b.chars) :
    a = b := by
  cases denotes with
  | block is =>
    cases denotes' with
    | block is' =>
      have numbers := (List.append_inj' same rfl).1
      rw [Count.eq_of_chars_eq is.1 is'.1 (List.append_cancel_left numbers)]
    | area => cases (List.cons.inj same).2
  | area =>
    cases denotes' with
    | block => cases (List.cons.inj same).2
    | area => rw [(List.cons.inj same).1]

namespace Spelling

/-- What the parts of a spelling are read as, one by one. -/
structure Parts (s : Spelling) (region : Region) (type : DataType) (start : Nat) (suffix : Suffix) :
    Prop where
  place : s.place.Denotes region
  letters : (s.letters, type) ∈ typeLetters
  offset : AreDigits s.offset
  start : Numeral.value s.offset = start
  ending : s.ending.Denotes suffix

theorem chars_eq (s : Spelling) :
    s.chars = s.place.chars ++ (s.letters ++ (s.offset ++ s.ending.chars)) := by
  rw [chars, List.append_assoc, List.append_assoc]

namespace Parts

variable {s t : Spelling} {region region' : Region} {type type' : DataType} {start start' : Nat}
  {suffix suffix' : Suffix}

/-- The parts of a spelling are told from its characters. -/
theorem eq_of_chars_eq (parts : s.Parts region type start suffix)
    (parts' : t.Parts region' type' start' suffix') (same : s.chars = t.chars) : s = t := by
  have read := readRegion_eq_ok_iff.mpr ⟨s.place, s.chars_eq, parts.place⟩
  have read' := readRegion_eq_ok_iff.mpr ⟨t.place, t.chars_eq, parts'.place⟩
  rw [same, read'] at read
  obtain ⟨_, body⟩ := Prod.mk.inj (Except.ok.inj read)
  obtain ⟨letters, _, numbers⟩ := letters_numbers_unique parts.letters parts'.letters
    (parts.offset.head?_append _) (parts'.offset.head?_append _) body.symm
  obtain ⟨offset, behind⟩ := digits_rest_unique parts.offset parts'.offset s.ending.head?_chars
    t.ending.head?_chars numbers
  have place := parts.place.eq_of_chars_eq parts'.place (by
    rw [s.chars_eq, t.chars_eq, body] at same
    exact List.append_cancel_right same)
  have ending := parts.ending.eq_of_chars_eq parts'.ending behind
  cases s
  cases t
  cases place
  cases letters
  cases offset
  cases ending
  rfl

/-- No spelling has parts that are read in two ways. -/
theorem unique (parts : s.Parts region type start suffix)
    (parts' : s.Parts region' type' start' suffix') :
    region = region' ∧ type = type' ∧ start = start' ∧ suffix = suffix' :=
  ⟨parts.place.unique parts'.place,
    congrArg Prod.snd (eq_of_typeLetters _ parts.letters _ parts'.letters rfl),
    parts.start.symm.trans parts'.start, parts.ending.unique parts'.ending⟩

/-- A spelling is read part by part, and only then is it seen whether the suffix suits the type. -/
theorem readFields_chars (parts : s.Parts region type start suffix) (small : start ≤ 4294967295) :
    readFields s.chars =
      (shape (denotedType region.area s.letters type suffix) suffix).map fun (bit, length) =>
        ⟨region, denotedType region.area s.letters type suffix, start, bit, length⟩ := by
  have place := readRegion_eq_ok_iff.mpr ⟨s.place, s.chars_eq, parts.place⟩
  have letters := readType_eq_ok_iff.mpr
    ⟨parts.letters, rfl, parts.offset.head?_append s.ending.chars⟩
  have offset := readStart_eq_ok_iff.mpr
    ⟨s.offset, rfl, parts.offset, parts.start, small, s.ending.head?_chars⟩
  have ending := (readSuffix_eq_ok_iff s.ending.head?_chars).mpr ⟨s.ending, rfl, parts.ending⟩
  rw [readFields, place, map_eq_bind]
  change (readType _ >>= _) = _
  rw [letters]
  change (readStart _ >>= _) = _
  rw [offset]
  change (readSuffix _ >>= _) = _
  rw [ending]
  rfl

end Parts

end Spelling

/-- Fields are read if and only if the text is a spelling of them whose suffix suits the type. -/
theorem readFields_eq_ok_iff {cs : List Char} {f : Fields} :
    readFields cs = .ok f ↔
      ∃ (s : Spelling) (type : DataType) (suffix : Suffix), s.chars = cs ∧
        s.Parts f.region type f.start suffix ∧ f.start ≤ 4294967295 ∧
        denotedType f.region.area s.letters type suffix = f.type ∧
        shape f.type suffix = .ok (f.bit, f.length) := by
  constructor
  · intro read
    obtain ⟨⟨region, body⟩, regionRead, later⟩ := bind_eq_ok_iff.mp read
    obtain ⟨⟨letters, type, numbers⟩, typeRead, later⟩ := bind_eq_ok_iff.mp later
    obtain ⟨⟨start, rest⟩, startRead, later⟩ := bind_eq_ok_iff.mp later
    obtain ⟨suffix, suffixRead, later⟩ := bind_eq_ok_iff.mp later
    obtain ⟨⟨bit, length⟩, shaped, done⟩ := bind_eq_ok_iff.mp later
    cases done
    obtain ⟨place, rfl, placed⟩ := readRegion_eq_ok_iff.mp regionRead
    obtain ⟨known, rfl, _⟩ := readType_eq_ok_iff.mp typeRead
    obtain ⟨offset, rfl, digits, value, small, mark⟩ := readStart_eq_ok_iff.mp startRead
    obtain ⟨ending, rfl, denoted⟩ := (readSuffix_eq_ok_iff mark).mp suffixRead
    exact ⟨⟨place, letters, offset, ending⟩, type, suffix, Spelling.chars_eq _,
      ⟨placed, known, digits, value, denoted⟩, small, rfl, shaped⟩
  · rintro ⟨s, type, suffix, rfl, parts, small, denoted, shaped⟩
    rw [parts.readFields_chars small, denoted, shaped]
    rfl

end S7Link.Address
