import S7Link.Proofs.Plan.Agreement
import S7Link.Proofs.Value.Accepted

/-!
# Results suit the tags

Whatever the controller answers, values come as one for each tag of the caller and records as one
for each tag, in the order of the tags, and every value may be written back to its tag. What is cut
out of an item for a member is a value of the member's type (`ReadItem.fits_of_value?`), and a
record tells in every way that it has whether its tag was read (`ReadRecord.Suits`). Nothing else
can happen than that an answer is refused as a whole or, among values, that an item was not read.
-/

namespace S7Link

open Outcome Plan

/-- A tag takes a value: it fits, so there is a payload that holds it. -/
def Tag.Takes (tag : Tag) (value : Value) : Prop :=
  value.Fits tag ∧ ∃ payload, value.encode tag = .ok payload

theorem Tag.takes_of_fits {tag : Tag} {value : Value} (fits : value.Fits tag) : tag.Takes value :=
  ⟨fits, fits.exists_encode⟩

/-- A record has a value or a fault, and has a value if and only if its status is a success; its tag
takes the value. -/
structure ReadRecord.Suits (record : ReadRecord) : Prop where
  fault_iff : record.fault? = none ↔ record.value?.isSome = true
  status_iff : record.status.byte = 0xFF ↔ record.value?.isSome = true
  takes : ∀ value, record.value? = some value → record.tag.Takes value

namespace ReadItem

variable {item : ReadItem} {outcome : ItemReply} {tag : Tag} {record : ReadRecord}

/-- What is cut out of an item for a tag fits the tag. -/
theorem fits_of_value? {payload : Bytes} {value : Value}
    (found : item.value? tag payload = some value) : value.Fits tag := by
  unfold value? at found
  split at found
  · next inRange =>
    obtain ⟨byte, _, rfl⟩ := Option.map_eq_some_iff.mp found
    exact .element (tag.length_eq_one inRange.2) (inRange.2 ▸ .bit _)
  · exact Value.fits_of_decode? found

theorem Gives.suits (gives : item.Gives outcome tag record) : record.Suits := by
  cases gives with
  | @read value success found =>
    refine ⟨⟨fun _ => rfl, fun _ => rfl⟩, ⟨fun _ => rfl, fun _ => rfl⟩, ?_⟩
    intro value' same
    cases (same : some value = some value')
    exact Tag.takes_of_fits (fits_of_value? found)
  | failed failure =>
    refine ⟨⟨fun none => ?_, fun some => ?_⟩, ⟨fun full => ?_, fun some => ?_⟩, ?_⟩
    · cases none
    · cases some
    · exact absurd (beq_iff_eq.mpr (congrArg Status.mk full)) failure
    · cases some
    · intro value same
      cases same

end ReadItem

/-- The records of a batch are those of its members, one by one, and suit them. -/
theorem ReadBatch.suits_of_records {batch : ReadBatch} {reply : Reply} {largest : Nat}
    {records : List (Indexed ReadRecord)} (covers : ∀ item ∈ batch.items, item.Covers largest)
    (recorded : batch.records reply = .ok records) :
    batch.items.flatMap (·.members) = records.map (Indexed.map ReadRecord.tag) ∧
      ∀ record ∈ records, record.value.Suits := by
  obtain ⟨pairs, told, _⟩ := bind_eq_ok_iff.mp recorded
  rcases exists_parts covers told with ⟨parts, recorded', givesAll⟩
  cases recorded.symm.trans recorded'
  constructor
  · rw [← (suits_of_answers told).1, List.flatMap_map]
    exact flatMap_eq_map_flatten (givesAll.imp fun _ _ gives => gives.members_eq)
  · intro record member
    obtain ⟨part, inParts, inPart⟩ := List.mem_flatten.mp member
    obtain ⟨pair, _, gives⟩ := exists_mem_of_forall₂ givesAll.flip inParts
    obtain ⟨_, _, given⟩ := exists_mem_of_forall₂ (List.Forall₂.flip gives) inPart
    exact given.2.suits

namespace ReadPlan

variable {tags : List Tag} {limits : Limits} {optimize : Bool} {plan : ReadPlan}
  {replies : List Reply}

theorem agree_of_make (made : make tags limits optimize = .ok plan) :
    ∀ batch ∈ plan.batches, ∀ reply, batch.Agree reply := by
  intro batch inBatches
  exact ReadBatch.agree fun item inBatch => covers_of_make made item (mem_items inBatches inBatch)

/-- There is one record for each tag, and it suits the tag. -/
theorem suits_of_records (made : make tags limits optimize = .ok plan) {records : List ReadRecord}
    (recorded : plan.records replies = .ok records) :
    records.map (·.tag) = tags ∧ ∀ record ∈ records, record.Suits := by
  obtain ⟨_, counted, later⟩ := bind_eq_ok_iff.mp recorded
  obtain ⟨parts, done, flat⟩ := bind_eq_ok_iff.mp later
  cases flat
  have each : List.Forall₂ (fun (pair : ReadBatch × Reply) part =>
      pair.1.items.flatMap (·.members) = part.map (Indexed.map ReadRecord.tag) ∧
        ∀ record ∈ part, record.value.Suits) (plan.batches.zip replies) parts := by
    have inPlan : ∀ pair ∈ plan.batches.zip replies, pair.1 ∈ plan.batches :=
      fun pair member => (List.of_mem_zip member).1
    refine ((List.forall₂_and_left _ _).mpr ⟨inPlan, mapM_eq_ok_iff.mp done⟩).imp ?_
    intro pair part given
    exact ReadBatch.suits_of_records
      (fun item inBatch => covers_of_make made item (mem_items given.1 inBatch)) given.2
  constructor
  · have members : plan.items.flatMap (·.members) =
        parts.flatten.map (Indexed.map ReadRecord.tag) :=
      calc plan.items.flatMap (·.members)
          = ((plan.batches.zip replies).map Prod.fst).flatMap (·.items.flatMap (·.members)) := by
            rw [List.map_fst_zip (Nat.le_of_eq (checkAnswerCount_eq_ok_iff.mp counted)), items,
              List.flatMap_assoc]
        _ = parts.flatten.map (Indexed.map ReadRecord.tag) := by
            rw [List.flatMap_map]
            exact flatMap_eq_map_flatten (each.imp fun _ _ => And.left)
    rw [← Indexed.inOrder_map, ← members]
    exact Indexed.inOrder_of_perm (members_perm made)
  · intro record member
    obtain ⟨placed, inAll, rfl⟩ :=
      List.mem_map.mp ((Indexed.inOrder_perm parts.flatten).mem_iff.mp member)
    obtain ⟨part, inParts, inPart⟩ := List.mem_flatten.mp inAll
    exact forall_mem_of_forall₂ (each.imp fun _ _ => And.right) part inParts placed inPart

/-- There is one value for each tag, and the tag takes it. -/
theorem takes_of_values (made : make tags limits optimize = .ok plan) {values : List Value}
    (valued : plan.values replies = .ok values) : List.Forall₂ Tag.Takes tags values := by
  rcases (values_eq_ok_iff (agree_of_make made)).mp valued with ⟨records, recorded, same⟩
  obtain ⟨rfl, suits⟩ := suits_of_records made recorded
  have each : List.Forall₂ (fun record value => ReadRecord.value? record = some value)
      records values := by
    rw [← List.forall₂_eq_eq_eq, List.forall₂_map_left_iff, List.forall₂_map_right_iff] at same
    exact same
  rw [List.forall₂_map_left_iff]
  refine ((List.forall₂_and_left _ _).mpr ⟨suits, each⟩).imp ?_
  exact fun record value given => given.1.takes value given.2

/-- Values fail to come only if an answer is refused as a whole, or is missing, or if an item was
not read. -/
theorem isOfAnswer_or_readFailed (made : make tags limits optimize = .ok plan) {fault : Fault}
    (refused : plan.values replies = .error fault) :
    fault.IsOfAnswer ∨ ∃ item ∈ plan.items, ∃ status : Status,
      ¬status.isSuccess = true ∧ fault = .readFailed item.tag status := by
  rcases bind_eq_error_iff.mp refused with miscounted | ⟨_, _, later⟩
  · exact Or.inl (isOfAnswer_of_checkAnswerCount miscounted)
  · rcases bind_eq_error_iff.mp later with stopped | ⟨_, _, none⟩
    · rcases exists_of_mapM_eq_error stopped with ⟨⟨batch, reply⟩, member, failed⟩
      have inBatches := (List.of_mem_zip member).1
      cases agree_of_make made batch inBatches reply with
      | refused whole strict _ =>
        cases failed.symm.trans strict
        exact Or.inl whole
      | read _ _ _ strict _ => cases failed.symm.trans strict
      | @failed _ _ item status _ _ _ first strict =>
        cases failed.symm.trans strict
        have inBatch := (List.of_mem_zip (List.mem_of_find?_eq_some first)).1
        refine Or.inr ⟨item, mem_items inBatches inBatch, status, ?_, rfl⟩
        simpa using List.find?_some first
    · cases none

/-- Whatever answers a plan is given: values are one for each tag, which takes it; records are one
for each tag and suit it; and the only faults are those of an answer as a whole and, among values,
that of an item that was not read. -/
theorem results_suit (made : make tags limits optimize = .ok plan) (replies : List Reply) :
    (∀ values, plan.values replies = .ok values → List.Forall₂ Tag.Takes tags values) ∧
      (∀ records, plan.records replies = .ok records →
        records.map (·.tag) = tags ∧ ∀ record ∈ records, record.Suits) ∧
      (∀ fault, plan.values replies = .error fault →
        fault.IsOfAnswer ∨ ∃ item ∈ plan.items, ∃ status : Status,
          ¬status.isSuccess = true ∧ fault = .readFailed item.tag status) ∧
      ∀ fault, plan.records replies = .error fault → fault.IsOfAnswer :=
  ⟨fun _ => takes_of_values made, fun _ => suits_of_records made,
    fun _ => isOfAnswer_or_readFailed made, fun _ => isOfAnswer_of_records (agree_of_make made)⟩

/-- A bit and a wide text in the same range of bytes. -/
def bitAndText : List Tag :=
  [(Tag.make .dataBlock 1 .wstring 2 0 3).toOption.get rfl,
    (Tag.make .dataBlock 1 .bit 0 5 1).toOption.get rfl]

/-- The answer to a read of the range. The length word of the text is far above its capacity, and
two of its code units are surrogates without a partner. -/
def bitAndTextAnswer : Reply :=
  ⟨Header.answer 1 2 16, Request.readFunction, 1,
    [0xFF, 0x04, 0x00, 0x60, 0xDF, 0, 0, 3, 0xFF, 0xFF, 0xDC, 0x00, 0xD8, 0x00, 0x00, 0x41]⟩

theorem results_suit_bitAndText :
    ∃ plan, make bitAndText ⟨240, 20⟩ true = .ok plan ∧
      plan.values [bitAndTextAnswer] = .ok [.text "\ufffd\ufffdA", .bool false] ∧
      List.Forall₂ Tag.Takes bitAndText [.text "\ufffd\ufffdA", .bool false] := by
  have seen : (make bitAndText ⟨240, 20⟩ true).toOption.map (·.values [bitAndTextAnswer]) =
      some (.ok [.text "\ufffd\ufffdA", .bool false]) := by
    cbv
  rcases exists_of_map_toOption seen with ⟨plan, made, valued⟩
  exact ⟨plan, made, valued, (results_suit made [bitAndTextAnswer]).1 _ valued⟩

end ReadPlan

end S7Link
