import S7Link.Proofs.Frame.Sections
import S7Link.Proofs.Outcome
import S7Link.Proofs.Request.Accepted
import S7Link.Reply.Entry
import S7Link.Reply.Records

/-!
# Entries are read as they stand

The entries that answer some items are taken off a data section one after another, each with what
it says about its item, and nothing is left over; nothing else is read as the answer to these items
(`takeItems_eq_ok_iff`). A reader looks at the size of the item and at nothing else of its tag. What
an entry says suits the item: a payload of its size, or a failure without one (`ItemReply.Suits`).
All entries together are no longer than those of a full answer, so they fit wherever a full answer
does (`Entry.length_flatMap_bytes_le`).
-/

namespace S7Link

/-- What an item of a size may become: a success with that many bytes, or a failure with none. -/
def ItemReply.Suits (size : Nat) (item : ItemReply) : Prop :=
  if item.status.isSuccess then item.payload.length = size else item.payload = []

/-- An answer to a read that reports no error and whose data section is that of the entries. -/
structure Reply.Carries (reply : Reply) (entries : List Reply.Entry) : Prop where
  isSuccess : reply.isSuccess = true
  function : reply.function = Request.readFunction
  count : reply.itemCount.toNat = entries.length
  data : reply.data = entries.flatMap Reply.Entry.bytes

namespace Reply

open Outcome Request

theorem Denotes.payloadLength_eq {code : UInt8} {length : UInt16} {size : Nat}
    (denotes : Denotes code length.toNat size) {high low : UInt8}
    (read : BigEndian.read [high, low] = length.toNat) :
    payloadLength code (BigEndian.read [high, low]) = .ok size := by
  rw [read]
  exact payloadLength_eq_ok_iff.mpr denotes

/-! ## One entry -/

/-- The entry of a tag is taken from the front of the bytes. Behind the last one there are none. -/
theorem takeItem_bytes {tag : Tag} {isLast : Bool} {entry : Entry}
    (answers : entry.Answers tag.size isLast) (rest : Bytes) (last : isLast = true → rest = []) :
    takeItem tag isLast (entry.bytes ++ rest) = .ok (entry.item, rest) := by
  cases entry with
  | success code length payload fill =>
    obtain ⟨denotes, size, fillLength⟩ := answers
    obtain ⟨high, low, written, read, _⟩ := BigEndian.ofWord_eq length
    have used : (if isLast then tag.size else tag.size + tag.size % 2) =
        (payload ++ fill).length := by
      rw [List.length_append, size, fillLength]
      cases isLast <;> rfl
    have enough : ¬(payload ++ (fill ++ rest)).length < (payload ++ fill).length := by
      rw [List.length_append, List.length_append, List.length_append]
      omega
    have bytes : (Entry.success code length payload fill).bytes ++ rest =
        Status.success.byte :: code :: high :: low :: (payload ++ (fill ++ rest)) := by
      rw [Entry.bytes, written, List.append_assoc, List.append_assoc]
      rfl
    rw [bytes]
    refine bind_eq_ok_iff.mpr ⟨tag.size, denotes.payloadLength_eq read, ?_⟩
    dsimp only
    rw [used, if_neg (not_not.mpr rfl), if_neg enough, List.take_left' size, ← List.append_assoc,
      List.drop_left]
    rfl
  | failure status fill =>
    obtain ⟨failed, length⟩ := answers
    have noSuccess : ¬ (⟨status.byte⟩ : Status).isSuccess = true := by
      rw [Status.isSuccess, beq_iff_eq]
      exact failed
    have complete : ¬((fill ++ rest).length < 3 ∧ ¬isLast = true) := by
      intro given
      rcases given with ⟨short, notLast⟩
      rcases length with full | ⟨isLast, _⟩
      · rw [List.length_append, full] at short
        omega
      · exact notLast isLast
    have left : (fill ++ rest).drop 3 = rest := by
      rcases length with full | ⟨isLast, short⟩
      · exact List.drop_left' full
      · rw [last isLast, List.append_nil]
        exact List.drop_eq_nil_of_le (Nat.le_of_lt short)
    rw [Entry.bytes, List.cons_append]
    unfold takeItem
    dsimp only
    rw [if_neg noSuccess, if_neg complete, left]
    rfl

/-! ## All entries -/

/-- Where no item is left, no bytes are left either. -/
theorem Entry.AnswerAll.flatMap_bytes_eq_nil {sizes : List Nat} {entries : List Entry}
    (answer : AnswerAll sizes entries) (none : sizes.isEmpty = true) :
    entries.flatMap bytes = [] := by
  rw [List.isEmpty_iff] at none
  rw [none] at answer
  rw [List.length_eq_zero_iff.mp answer.length_eq, List.flatMap_nil]

/-- The entries of all tags are taken one after another. -/
theorem takeItems_flatMap {tags : List Tag} {entries : List Entry}
    (answer : Entry.AnswerAll (tags.map Tag.size) entries) :
    takeItems tags (entries.flatMap Entry.bytes) = .ok (entries.map Entry.item) := by
  induction tags generalizing entries with
  | nil =>
    cases entries with
    | nil => rfl
    | cons entry entries => exact answer.elim
  | cons tag tags ih =>
    cases entries with
    | nil => exact answer.elim
    | cons entry entries =>
      obtain ⟨first, others⟩ := answer
      have empty : tags.isEmpty = (tags.map Tag.size).isEmpty := List.isEmpty_map.symm
      rw [List.flatMap_cons]
      refine bind_eq_ok_iff.mpr ⟨(entry.item, entries.flatMap Entry.bytes), ?_, ?_⟩
      · rw [empty]
        exact takeItem_bytes first _ others.flatMap_bytes_eq_nil
      · exact bind_eq_ok_iff.mpr ⟨entries.map Entry.item, ih others, rfl⟩

/-- An answer with as many items as there are tags is read item by item. -/
theorem Carries.readItems_eq_ok {reply : Reply} {tags : List Tag} {entries : List Entry}
    (carries : reply.Carries entries)
    (answer : Entry.AnswerAll (tags.map Tag.size) entries) :
    reply.readItems tags = .ok (entries.map Entry.item) := by
  have length : entries.length = tags.length := by rw [answer.length_eq, List.length_map]
  refine bind_eq_ok_iff.mpr ⟨(), ?_, ?_⟩
  · rw [checkFunction, if_neg (not_not.mpr carries.function),
      if_neg (not_not.mpr (carries.count.trans length))]
  · rw [carries.data]
    exact takeItems_flatMap answer

/-! ## Nothing else is read -/

/-- What is taken for a success stood there as a payload with its header and what fills it up. -/
theorem exists_success_of_takeItem {tag : Tag} {isLast : Bool} {code high low : UInt8}
    {body rest : Bytes} {item : ItemReply}
    (taken : takeItem tag isLast (Status.success.byte :: code :: high :: low :: body) =
      .ok (item, rest)) :
    ∃ entry : Entry, entry.Answers tag.size isLast ∧ entry.item = item ∧
      Status.success.byte :: code :: high :: low :: body = entry.bytes ++ rest := by
  obtain ⟨written, number⟩ := BigEndian.ofWord_toWord high low
  obtain ⟨length, denoted, later⟩ := bind_eq_ok_iff.mp taken
  generalize used : (if isLast then length else length + length % 2) = total at later
  dsimp only at later
  split at later
  · cases later
  · next size =>
    split at later
    · cases later
    · next enough =>
      cases later
      have size : length = tag.size := not_not.mp size
      have within : length ≤ total := by
        rw [← used]
        split <;> omega
      have room : length ≤ body.length := by omega
      refine ⟨.success code (BigEndian.toWord high low) (body.take length)
        ((body.drop length).take (total - length)), ⟨?_, ?_, ?_⟩, rfl, ?_⟩
      · rw [number, ← payloadLength_eq_ok_iff, denoted, size]
      · rw [List.length_take, Nat.min_eq_left room, size]
      · rw [List.length_take, List.length_drop, Nat.min_eq_left (by omega), ← used, size]
        split <;> omega
      · have behind : body.drop total = (body.drop length).drop (total - length) := by
          rw [List.drop_drop, Nat.add_sub_cancel' within]
        have parts : body = body.take length ++ (body.drop length).take (total - length) ++
            body.drop total := by
          rw [behind, List.append_assoc, List.take_append_drop, List.take_append_drop]
        rw [Entry.bytes, written]
        exact congrArg (Status.success.byte :: code :: high :: low :: ·) parts

/-- What is taken for a tag stood there as an entry. -/
theorem exists_entry_of_takeItem {tag : Tag} {isLast : Bool} {bytes rest : Bytes}
    {item : ItemReply} (taken : takeItem tag isLast bytes = .ok (item, rest)) :
    ∃ entry : Entry, entry.Answers tag.size isLast ∧ entry.item = item ∧
      bytes = entry.bytes ++ rest := by
  cases bytes with
  | nil => cases taken
  | cons byte body =>
    by_cases success : (⟨byte⟩ : Status).isSuccess = true
    · have status : byte = Status.success.byte := congrArg Status.byte (eq_of_beq success)
      subst status
      match body, taken with
      | code :: high :: low :: body, taken => exact exists_success_of_takeItem taken
    · unfold takeItem at taken
      dsimp only at taken
      rw [if_neg success] at taken
      split at taken
      · cases taken
      · next complete =>
        cases taken
        refine ⟨.failure ⟨byte⟩ (body.take 3), ⟨?_, ?_⟩, rfl, ?_⟩
        · intro same
          exact success (beq_iff_eq.mpr same)
        · rw [List.length_take]
          by_cases short : body.length < 3
          · refine Or.inr ⟨?_, by omega⟩
            exact Decidable.byContradiction fun notLast => complete ⟨short, notLast⟩
          · exact Or.inl (Nat.min_eq_left (Nat.le_of_not_lt short))
        · rw [Entry.bytes, List.cons_append, List.take_append_drop]

/-- A data section is read if and only if it is that of entries which answer the items. -/
theorem takeItems_eq_ok_iff {tags : List Tag} {bytes : Bytes} {items : List ItemReply} :
    takeItems tags bytes = .ok items ↔
      ∃ entries, Entry.AnswerAll (tags.map Tag.size) entries ∧
        bytes = entries.flatMap Entry.bytes ∧ items = entries.map Entry.item := by
  refine ⟨fun taken => ?_, fun given => ?_⟩
  · induction tags generalizing bytes items with
    | nil =>
      cases bytes with
      | nil =>
        cases taken
        exact ⟨[], trivial, rfl, rfl⟩
      | cons byte bytes => cases taken
    | cons tag tags ih =>
      unfold takeItems at taken
      obtain ⟨⟨item, rest⟩, first, later⟩ := bind_eq_ok_iff.mp taken
      obtain ⟨others, second, done⟩ := bind_eq_ok_iff.mp later
      cases done
      obtain ⟨entry, answers, said, stood⟩ := exists_entry_of_takeItem first
      obtain ⟨entries, answer, behind, told⟩ := ih second
      refine ⟨entry :: entries, ⟨?_, answer⟩, ?_, ?_⟩
      · rwa [List.isEmpty_map]
      · rw [List.flatMap_cons, ← behind, stood]
      · rw [List.map_cons, said, told]
  · rcases given with ⟨entries, answer, rfl, rfl⟩
    exact takeItems_flatMap answer

/-! ## What entries may say -/

namespace Entry

theorem Answers.suits {entry : Entry} {size : Nat} {isLast : Bool}
    (answers : entry.Answers size isLast) : entry.item.Suits size := by
  unfold ItemReply.Suits
  cases entry with
  | success code length payload fill =>
    have success : Status.success.isSuccess = true := rfl
    rw [item, if_pos success]
    exact answers.2.1
  | failure status rest =>
    have failed : ¬status.isSuccess = true := fun same => answers.1 (eq_of_beq same)
    rw [item, if_neg failed]

/-- Whatever suits an item can be said in an entry, with the bytes counted one by one. -/
theorem exists_of_suits {size : Nat} {outcome : ItemReply} (countable : size ≤ 65535)
    (suits : outcome.Suits size) (isLast : Bool) :
    ∃ entry : Entry, entry.Answers size isLast ∧ entry.item = outcome := by
  obtain ⟨status, payload⟩ := outcome
  unfold ItemReply.Suits at suits
  split at suits
  · next success =>
    have counted : (UInt16.ofNat size).toNat = size :=
      UInt16.toNat_ofNat_of_lt' (Nat.lt_succ_of_le countable)
    cases (eq_of_beq success : status = Status.success)
    refine ⟨.success 0x09 (UInt16.ofNat size) payload
      (List.replicate (if isLast then 0 else size % 2) 0), ⟨?_, suits, ?_⟩, rfl⟩
    · exact Or.inr ⟨by decide, counted⟩
    · exact List.length_replicate
  · next failed =>
    cases (suits : payload = [])
    refine ⟨.failure status [0, 0, 0], ⟨?_, Or.inl rfl⟩, rfl⟩
    exact fun same => failed (beq_iff_eq.mpr same)

theorem AnswerAll.suits {sizes : List Nat} {entries : List Entry}
    (answer : AnswerAll sizes entries) :
    List.Forall₂ ItemReply.Suits sizes (entries.map item) := by
  fun_induction AnswerAll sizes entries with
  | case1 => exact .nil
  | case2 size sizes entry entries ih => exact .cons answer.1.suits (ih answer.2)
  | case3 => exact answer.elim

theorem exists_answerAll {sizes : List Nat} {outcomes : List ItemReply}
    (countable : ∀ size ∈ sizes, size ≤ 65535)
    (suits : List.Forall₂ ItemReply.Suits sizes outcomes) :
    ∃ entries, AnswerAll sizes entries ∧ entries.map item = outcomes := by
  induction suits with
  | nil => exact ⟨[], trivial, rfl⟩
  | @cons size outcome sizes outcomes first _ ih =>
    rw [List.forall_mem_cons] at countable
    rcases ih countable.2 with ⟨entries, answer, said⟩
    rcases exists_of_suits countable.1 first sizes.isEmpty with ⟨entry, answers, rfl⟩
    exact ⟨entry :: entries, ⟨answers, answer⟩, congrArg (entry.item :: ·) said⟩

end Entry

/-- What is read suits the items, one by one. -/
theorem suits_of_readItems {reply : Reply} {tags : List Tag} {items : List ItemReply}
    (read : reply.readItems tags = .ok items) :
    List.Forall₂ (fun tag item => item.Suits tag.size) tags items := by
  obtain ⟨_, _, taken⟩ := bind_eq_ok_iff.mp read
  obtain ⟨entries, answer, _, rfl⟩ := takeItems_eq_ok_iff.mp taken
  exact List.forall₂_map_left_iff.mp answer.suits

/-! ## The length of a data section -/

namespace Entry

/-- The first of several full entries is filled up to an even length, and the only one is not. -/
theorem alignedLength_cons (size : Nat) (sizes : List Nat) :
    Frame.alignedLength ((size :: sizes).map (itemHeaderSize + ·)) =
      (itemHeaderSize + size + if sizes.isEmpty then 0 else size % 2) +
        Frame.alignedLength (sizes.map (itemHeaderSize + ·)) := by
  cases sizes with
  | nil => rfl
  | cons next sizes =>
    -- The header is of even length, so it does not change where a fill byte is needed.
    have even : (itemHeaderSize + size) % 2 = size % 2 := by
      unfold itemHeaderSize
      omega
    rw [List.map_cons, List.map_cons, Frame.alignedLength, even]
    rfl

theorem length_bytes_le {entry : Entry} {size : Nat} {isLast : Bool}
    (answers : entry.Answers size isLast) :
    entry.bytes.length ≤ itemHeaderSize + size + if isLast then 0 else size % 2 := by
  cases entry with
  | success code length payload fill =>
    obtain ⟨_, size, fill⟩ := answers
    rw [bytes, List.length_append, List.length_append, List.length_append, size, fill,
      BigEndian.ofWord, BigEndian.length_write]
    exact Nat.le_refl _
  | failure status rest =>
    obtain ⟨_, length⟩ := answers
    rw [bytes, List.length_cons, itemHeaderSize]
    omega

/-- Entries are no longer than those of a full answer. -/
theorem length_flatMap_bytes_le {sizes : List Nat} {entries : List Entry}
    (answer : AnswerAll sizes entries) :
    (entries.flatMap bytes).length ≤ Frame.alignedLength (sizes.map (itemHeaderSize + ·)) := by
  fun_induction AnswerAll sizes entries with
  | case1 => exact Nat.le_refl 0
  | case2 size sizes entry entries ih =>
    obtain ⟨first, others⟩ := answer
    rw [List.flatMap_cons, List.length_append, alignedLength_cons]
    exact Nat.add_le_add (length_bytes_le first) (ih others)
  | case3 => exact answer.elim

end Entry

end Reply

end S7Link
