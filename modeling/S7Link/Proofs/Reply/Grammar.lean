import S7Link.Proofs.Reply.Entries

/-!
# Which answers are read

An answer to a read is read for some tags if and only if it has the function of a read, as many
items as there are tags, and the entries of these tags for its data section, one after another and
nothing behind them (`Reply.Holds`). Everything else is malformed. The entries can be told from the
bytes: the first byte says whether an entry is a success, the tag says how long a success is, and a
failure is shorter than four bytes only if nothing follows it (`Entry.AnswerAll.eq_of_bytes_eq`).
-/

namespace S7Link.Reply

open Outcome Request

/-- An answer to a read of some tags that holds one entry for each tag and nothing else. -/
structure Holds (reply : Reply) (tags : List Tag) (entries : List Entry) : Prop where
  function : reply.function = readFunction
  count : reply.itemCount.toNat = tags.length
  answer : Entry.AnswerAll (tags.map Tag.size) entries
  data : reply.data = entries.flatMap Entry.bytes

/-! ## Entries are told from their bytes -/

namespace Entry

variable {entry other : Entry}

/-- What an entry says and its bytes tell the parts that carry no meaning. -/
theorem Answers.eq_of_bytes_eq {size : Nat} {isLast : Bool} (answers : entry.Answers size isLast)
    (answers' : other.Answers size isLast) (said : entry.item = other.item)
    (same : entry.bytes = other.bytes) : entry = other := by
  cases entry with
  | success code length payload fill =>
    cases other with
    | success code' length' payload' fill' =>
      obtain ⟨high, low, written, _, word⟩ := BigEndian.ofWord_eq length
      obtain ⟨high', low', written', _, word'⟩ := BigEndian.ofWord_eq length'
      cases said
      rw [bytes, bytes, written, written'] at same
      simp only [List.cons_append, List.nil_append, List.cons.injEq, true_and] at same
      obtain ⟨rfl, rfl, rfl, behind⟩ := same
      rw [← word, ← word', List.append_cancel_left behind]
    | failure status rest => exact absurd (congrArg ItemReply.status said).symm answers'.1
  | failure status rest =>
    cases other with
    | success code length payload fill =>
      exact absurd (congrArg ItemReply.status said) answers.1
    | failure status' rest' =>
      cases said
      rw [bytes, bytes] at same
      rw [(List.cons.inj same).2]

/-- Two lists of entries that answer the same tags have different bytes. -/
theorem AnswerAll.eq_of_bytes_eq {tags : List Tag} {entries others : List Entry}
    (answer : AnswerAll (tags.map Tag.size) entries)
    (answer' : AnswerAll (tags.map Tag.size) others)
    (same : entries.flatMap bytes = others.flatMap bytes) : entries = others := by
  -- The reader takes the first entry off the bytes, so both lists begin with what it takes.
  induction tags generalizing entries others with
  | nil =>
    rw [List.length_eq_zero_iff.mp answer.length_eq, List.length_eq_zero_iff.mp answer'.length_eq]
  | cons tag tags ih =>
    match entries, others, answer, answer' with
    | entry :: entries, other :: others, answer, answer' =>
      obtain ⟨answers, answer⟩ := answer
      obtain ⟨answers', answer'⟩ := answer'
      have taken := takeItem_bytes answers _ answer.flatMap_bytes_eq_nil
      have taken' := takeItem_bytes answers' _ answer'.flatMap_bytes_eq_nil
      rw [List.flatMap_cons, List.flatMap_cons] at same
      rw [same, taken'] at taken
      obtain ⟨said, behind⟩ := Prod.mk.inj (Except.ok.inj taken)
      rw [behind] at same
      rw [answers.eq_of_bytes_eq answers' said.symm (List.append_cancel_right same),
        ih answer answer' behind.symm]

end Entry

/-! ## Answers that are read -/

variable {reply : Reply} {tags : List Tag}

theorem checkFunction_eq_ok_iff {function : UInt8} {count : Nat} :
    reply.checkFunction function count = .ok () ↔
      reply.function = function ∧ reply.itemCount.toNat = count := by
  unfold checkFunction
  split
  · next other =>
    refine ⟨fun passed => ?_, fun given => absurd given.1 other⟩
    cases passed
  · next same =>
    split
    · next other =>
      refine ⟨fun passed => ?_, fun given => absurd given.2 other⟩
      cases passed
    · next many =>
      exact ⟨fun _ => ⟨not_not.mp same, not_not.mp many⟩, fun _ => rfl⟩

theorem readItems_eq_ok_iff {items : List ItemReply} :
    reply.readItems tags = .ok items ↔
      ∃ entries, reply.Holds tags entries ∧ items = entries.map Entry.item := by
  rw [readItems, bind_eq_ok_iff]
  constructor
  · intro given
    rcases given with ⟨_, checked, taken⟩
    obtain ⟨function, count⟩ := checkFunction_eq_ok_iff.mp checked
    obtain ⟨entries, answer, data, said⟩ := takeItems_eq_ok_iff.mp taken
    exact ⟨entries, ⟨function, count, answer, data⟩, said⟩
  · intro given
    rcases given with ⟨entries, held, said⟩
    refine ⟨(), checkFunction_eq_ok_iff.mpr ⟨held.function, held.count⟩, ?_⟩
    exact takeItems_eq_ok_iff.mpr ⟨entries, held.answer, held.data, said⟩

theorem Holds.unique {entries others : List Entry} (held : reply.Holds tags entries)
    (held' : reply.Holds tags others) : entries = others :=
  held.answer.eq_of_bytes_eq held'.answer (held.data.symm.trans held'.data)

/-- An answer is read for some tags if and only if it holds entries for them, and what is read is
what the entries say. No answer holds two different lists of entries. Any other answer is refused
as malformed. -/
theorem readItems_exact (reply : Reply) (tags : List Tag) :
    (∀ items, reply.readItems tags = .ok items ↔
        ∃ entries, reply.Holds tags entries ∧ items = entries.map Entry.item) ∧
      (∀ entries others, reply.Holds tags entries → reply.Holds tags others → entries = others) ∧
      ((∀ entries, ¬reply.Holds tags entries) ↔ ∃ cause, reply.readItems tags = .error cause) := by
  refine ⟨fun _ => readItems_eq_ok_iff, fun _ _ => Holds.unique, ?_⟩
  cases read : reply.readItems tags with
  | ok items =>
    obtain ⟨entries, held, _⟩ := readItems_eq_ok_iff.mp read
    refine ⟨fun none => absurd held (none entries), fun given => ?_⟩
    rcases given with ⟨cause, refused⟩
    cases refused
  | error cause =>
    refine ⟨fun _ => ⟨cause, rfl⟩, fun _ entries held => ?_⟩
    cases read.symm.trans (readItems_eq_ok_iff.mpr ⟨entries, held, rfl⟩)

/-- A byte, a word and ten bytes. -/
def byteWordBytes : List Tag :=
  [(Tag.make .memory 0 .byte 0 0 1).toOption.get rfl,
    (Tag.make .memory 0 .word 2 0 1).toOption.get rfl,
    (Tag.make .memory 0 .byte 8 0 10).toOption.get rfl]

/-- A byte with a bit count that ends in the middle of it and a fill byte, a failure with three
bytes, and a failure at the end without any. -/
def oneOfThree : List Entry :=
  [.success 0x03 1 [0x01] [0xAA], .failure .noBlock [1, 2, 3], .failure .outOfRange []]

theorem readItems_exact_oneOfThree :
    let reply : Reply := ⟨Header.answer 1 2 11, readFunction, 3, oneOfThree.flatMap Entry.bytes⟩
    reply.Holds byteWordBytes oneOfThree ∧
      reply.readItems byteWordBytes =
        .ok [⟨.success, [0x01]⟩, ⟨.noBlock, []⟩, ⟨.outOfRange, []⟩] ∧
      ∀ entries, reply.Holds byteWordBytes entries → entries = oneOfThree := by
  intro reply
  have sizes : byteWordBytes.map Tag.size = [1, 2, 10] := rfl
  have answer : Entry.AnswerAll (byteWordBytes.map Tag.size) oneOfThree := by
    rw [sizes]
    refine ⟨⟨Or.inl (by decide), rfl, rfl⟩, ⟨by decide, Or.inl rfl⟩, ⟨by decide, ?_⟩, trivial⟩
    exact Or.inr (by decide)
  have held : reply.Holds byteWordBytes oneOfThree := ⟨rfl, rfl, answer, rfl⟩
  obtain ⟨read, unique, _⟩ := readItems_exact reply byteWordBytes
  exact ⟨held, (read _).mpr ⟨oneOfThree, held, rfl⟩, fun entries held' => unique _ _ held' held⟩

end S7Link.Reply
