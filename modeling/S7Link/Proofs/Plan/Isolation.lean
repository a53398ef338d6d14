import S7Link.Proofs.Plan.Members
import S7Link.Proofs.Plan.Replies

/-!
# The outcome of an item stays with its members

Each tag of the caller is a member of one item of a plan. Whatever becomes of the items, if the
answers say so in entries of any form, there is one record for each tag, and it comes from the
outcome of that item alone (`ReadPlan.records_of_outcomes`). A failed entry is shorter than the
payload that would stand there, so that everything behind it in the frame moves; the records of
other items do not.
-/

namespace S7Link

open Outcome Plan Request Text

/-- Entries may stand in the answer to a batch, one for each item. -/
def ReadBatch.Admits (batch : ReadBatch) (entries : List Reply.Entry) : Prop :=
  Reply.Entry.AnswerAll (batch.tags.map Tag.size) entries

namespace ReadPlan

/-- The item at a place, in the order in which items are read, has a member. -/
structure Reads (plan : ReadPlan) (place : Nat) (item : ReadItem) (member : Indexed Tag) :
    Prop where
  found : plan.items[place]? = some item
  member : member ∈ item.members

/-- The entries answer the items of a plan, batch by batch, and say of each item what became of
it. -/
structure Encodes (plan : ReadPlan) (outcomes : List ItemReply)
    (entries : List (List Reply.Entry)) : Prop where
  answer : List.Forall₂ ReadBatch.Admits plan.batches entries
  tells : entries.flatten.map Reply.Entry.item = outcomes

/-- The answers to a plan say what became of its items. -/
def Answered (plan : ReadPlan) (outcomes : List ItemReply) (replies : List Reply) : Prop :=
  ∃ entries, plan.Encodes outcomes entries ∧ List.Forall₂ Reply.Carries replies entries

end ReadPlan

/-! ## Each tag is a member of one item -/

namespace ReadPlan

variable {tags : List Tag} {limits : Limits} {optimize : Bool} {plan : ReadPlan}

theorem exists_reads (made : make tags limits optimize = .ok plan) {i : Nat} {tag : Tag}
    (found : tags[i]? = some tag) : ∃ place item, plan.Reads place item ⟨i, tag⟩ := by
  have inAll : ⟨i, tag⟩ ∈ Indexed.all tags := Indexed.mem_all_iff.mpr found
  rw [← (members_perm made).mem_iff, List.mem_flatMap] at inAll
  rcases inAll with ⟨item, inPlan, inItem⟩
  obtain ⟨place, found⟩ := List.getElem?_of_mem inPlan
  exact ⟨place, item, found, inItem⟩

/-- No two items have a member in common. -/
theorem Reads.place_eq (made : make tags limits optimize = .ok plan) {member : Indexed Tag}
    {place place' : Nat} {item item' : ReadItem} (reads : plan.Reads place item member)
    (reads' : plan.Reads place' item' member) : place = place' := by
  have once := (members_perm made).nodup_iff.mpr (Indexed.nodup_all tags)
  have apart := List.pairwise_iff_getElem.mp (List.nodup_flatMap.mp once).2
  obtain ⟨bound, rfl⟩ := List.getElem?_eq_some_iff.mp reads.found
  obtain ⟨bound', rfl⟩ := List.getElem?_eq_some_iff.mp reads'.found
  rcases Nat.lt_trichotomy place place' with before | same | behind
  · exact absurd reads'.member (apart place place' bound bound' before reads.member)
  · exact same
  · exact absurd reads.member (apart place' place bound' bound behind reads'.member)

/-! ## Answers for all outcomes -/

/-- What the entries of some batches say suits the items. -/
theorem suits_of_admits {batches : List ReadBatch} {entries : List (List Reply.Entry)}
    (answer : List.Forall₂ ReadBatch.Admits batches entries) :
    List.Forall₂ (fun item outcome => outcome.Suits item.tag.size) (batches.flatMap (·.items))
      (entries.flatten.map Reply.Entry.item) := by
  induction answer with
  | nil => exact .nil
  | cons first _ ih =>
    have suits := first.suits
    rw [ReadBatch.map_size_tags, List.forall₂_map_left_iff] at suits
    rw [List.flatMap_cons, List.flatten_cons, List.map_append]
    exact List.rel_append suits ih

/-- Whatever suits the items of some batches can be said in entries. -/
theorem exists_admits {batches : List ReadBatch} {outcomes : List ItemReply}
    (countable : ∀ item ∈ batches.flatMap (·.items), item.tag.size ≤ 65535)
    (suits : List.Forall₂ (fun item outcome => outcome.Suits item.tag.size)
      (batches.flatMap (·.items)) outcomes) :
    ∃ entries, List.Forall₂ ReadBatch.Admits batches entries ∧
      entries.flatten.map Reply.Entry.item = outcomes := by
  induction batches generalizing outcomes with
  | nil =>
    cases suits
    exact ⟨[], .nil, rfl⟩
  | cons batch batches ih =>
    rw [List.flatMap_cons] at countable suits
    have first := (List.forall₂_take_append _ _ _ suits.flip).flip
    have later := (List.forall₂_drop_append _ _ _ suits.flip).flip
    rcases ih (fun item member => countable item (List.mem_append_right _ member)) later with
      ⟨entries, answer, told⟩
    have sizes : ∀ size ∈ batch.tags.map Tag.size, size ≤ 65535 := by
      rw [ReadBatch.map_size_tags]
      exact List.forall_mem_map.mpr fun item member =>
        countable item (List.mem_append_left _ member)
    have suits : List.Forall₂ ItemReply.Suits (batch.tags.map Tag.size)
        (outcomes.take batch.items.length) := by
      rw [ReadBatch.map_size_tags, List.forall₂_map_left_iff]
      exact first
    rcases Reply.Entry.exists_answerAll sizes suits with ⟨opening, opened, said⟩
    refine ⟨opening :: entries, .cons opened answer, ?_⟩
    rw [List.flatten_cons, List.map_append, said, told, List.take_append_drop]

/-- There are frames that answer the batches by the entries. -/
theorem exists_replies {batches : List ReadBatch} {entries : List (List Reply.Entry)}
    (sendable : ∀ batch ∈ batches, batch.Sendable limits)
    (answer : List.Forall₂ ReadBatch.Admits batches entries) :
    ∃ (frames : List Bytes) (replies : List Reply), frames.mapM Reply.read = .ok replies ∧
      List.Forall₂ Reply.Carries replies entries := by
  induction answer with
  | nil => exact ⟨[], [], rfl, .nil⟩
  | @cons batch opening batches entries first _ ih =>
    rw [List.forall_mem_cons] at sendable
    rcases ih sendable.2 with ⟨frames, replies, read, carried⟩
    rcases sendable.1.exists_reply first 0 with ⟨reply, readFirst, carries⟩
    exact ⟨_, _, mapM_eq_ok_iff.mpr (.cons readFirst (mapM_eq_ok_iff.mp read)),
      .cons carries carried⟩

/-! ## The records of a plan -/

/-- Batch by batch, the records come from the outcomes of the items. -/
theorem exists_parts_of_admits {largest : Nat} {batches : List ReadBatch}
    {replies : List Reply} {entries : List (List Reply.Entry)}
    (covers : ∀ item ∈ batches.flatMap (·.items), item.Covers largest)
    (answer : List.Forall₂ ReadBatch.Admits batches entries)
    (carried : List.Forall₂ Reply.Carries replies entries) :
    ∃ records parts,
      (batches.zip replies).mapM (fun (batch, reply) => batch.records reply) = .ok records ∧
        records.flatten = parts.flatten ∧
        List.Forall₂ (fun pair part => pair.1.GivesAll pair.2 part)
          ((batches.flatMap (·.items)).zip (entries.flatten.map Reply.Entry.item)) parts := by
  -- The items of the batches in order are those of the plan, so their parts stand in one row.
  induction answer generalizing replies with
  | nil =>
    cases carried
    exact ⟨[], [], rfl, rfl, .nil⟩
  | @cons batch opening batches entries first _ ih =>
    cases carried with
    | @cons reply _ replies _ carries others =>
      rw [List.flatMap_cons, List.forall_mem_append] at covers
      rcases ih covers.2 others with ⟨records, parts, recorded, flat, givesAll⟩
      have told := ReadBatch.answers_eq_ok first carries
      rcases ReadBatch.exists_parts covers.1 told with ⟨firstParts, firstRecorded, firstGives⟩
      have same : batch.items.length = (opening.map Reply.Entry.item).length := by
        rw [List.length_map, first.length_eq, List.length_map, ReadBatch.length_tags]
      refine ⟨firstParts.flatten :: records, firstParts ++ parts, ?_, ?_, ?_⟩
      · exact mapM_eq_ok_iff.mpr (.cons firstRecorded (mapM_eq_ok_iff.mp recorded))
      · rw [List.flatten_cons, List.flatten_append, flat]
      · rw [List.flatMap_cons, List.flatten_cons, List.map_append, List.zip_append same]
        exact List.rel_append firstGives givesAll

/-- A plan has records for all outcomes of its items: those of the members of each item come from
the outcome of that item. -/
theorem exists_parts {largest : Nat} {outcomes : List ItemReply} {replies : List Reply}
    (covers : ∀ item ∈ plan.items, item.Covers largest)
    (answered : plan.Answered outcomes replies) :
    ∃ parts, plan.records replies = .ok (Indexed.inOrder parts.flatten) ∧
      List.Forall₂ (fun pair part => pair.1.GivesAll pair.2 part) (plan.items.zip outcomes)
        parts := by
  rcases answered with ⟨entries, ⟨answer, rfl⟩, carried⟩
  rcases exists_parts_of_admits covers answer carried with
    ⟨records, parts, recorded, flat, givesAll⟩
  have counted : checkAnswerCount plan.batches.length replies.length = .ok () :=
    checkAnswerCount_eq_ok_iff.mpr (answer.length_eq.trans carried.length_eq.symm)
  refine ⟨parts, ?_, givesAll⟩
  rw [← flat]
  exact bind_eq_ok_iff.mpr ⟨(), counted, bind_eq_ok_iff.mpr ⟨records, recorded, rfl⟩⟩

/-- The records are those of the caller's tags, and the one of each tag is what the outcome of its
item gives to it. -/
theorem exists_records (made : make tags limits optimize = .ok plan) {outcomes : List ItemReply}
    {replies : List Reply} (answered : plan.Answered outcomes replies) :
    ∃ records, plan.records replies = .ok records ∧ records.map (·.tag) = tags ∧
      ∀ i tag place item, plan.Reads place item ⟨i, tag⟩ →
        ∃ outcome record, outcomes[place]? = some outcome ∧ records[i]? = some record ∧
          item.Gives outcome tag record := by
  rcases exists_parts (covers_of_make made) answered with ⟨parts, recorded, givesAll⟩
  have count : plan.items.length = outcomes.length := by
    rcases answered with ⟨entries, ⟨answer, rfl⟩, _⟩
    exact (suits_of_admits answer).length_eq
  have members : plan.items.flatMap (·.members) =
      parts.flatten.map (Indexed.map ReadRecord.tag) := by
    have items := List.map_fst_zip (Nat.le_of_eq count)
    rw [← flatMap_eq_map_flatten (givesAll.imp fun _ _ given => given.members_eq), ← items,
      List.flatMap_map, items]
  have perm := members_perm made
  rw [members] at perm
  refine ⟨_, recorded, ?_, ?_⟩
  · rw [← Indexed.inOrder_map, Indexed.inOrder_of_perm perm]
  · intro i tag place item reads
    obtain ⟨bound, _⟩ := List.getElem?_eq_some_iff.mp reads.found
    obtain ⟨outcome, told⟩ : ∃ outcome, outcomes[place]? = some outcome :=
      ⟨_, List.getElem?_eq_getElem (count ▸ bound)⟩
    have paired : (item, outcome) ∈ plan.items.zip outcomes := by
      apply List.mem_of_getElem?
      exact List.getElem?_zip_eq_some.mpr ⟨reads.found, told⟩
    rcases exists_mem_of_forall₂ givesAll paired with ⟨part, inParts, given⟩
    rcases exists_mem_of_forall₂ given reads.member with ⟨record, inPart, index, gives⟩
    have inAll := List.mem_flatten.mpr ⟨part, inParts, inPart⟩
    have found := Indexed.getElem?_inOrder perm inAll
    rw [← index] at found
    exact ⟨outcome, record.value, told, found, gives⟩

/-- Whatever becomes of the items of a plan, it can be told in answers, and every way to tell it
gives one record for each tag of the caller, which comes from the outcome of the one item that has
the tag as a member. Whatever else changes in the outcomes, and with it in the frames, this record
stays as it is. -/
theorem records_of_outcomes (made : make tags limits optimize = .ok plan) :
    (∀ i tag, tags[i]? = some tag → ∃! place, ∃ item, plan.Reads place item ⟨i, tag⟩) ∧
      (∀ batch ∈ plan.batches, ∀ entries, batch.Admits entries → ∀ reference,
        ∃ reply, Reply.read (Controller.answer reference readFunction batch.items.length
          (entries.flatMap Reply.Entry.bytes)) = .ok reply ∧ reply.Carries entries) ∧
      (∀ outcomes, List.Forall₂ (fun item outcome => outcome.Suits item.tag.size) plan.items
          outcomes →
        ∃ (frames : List Bytes) (replies : List Reply), frames.mapM Reply.read = .ok replies ∧
          plan.Answered outcomes replies) ∧
      (∀ outcomes replies, plan.Answered outcomes replies →
        ∃ records, plan.records replies = .ok records ∧ records.map (·.tag) = tags ∧
          ∀ i tag place item, plan.Reads place item ⟨i, tag⟩ →
            ∃ outcome record, outcomes[place]? = some outcome ∧ records[i]? = some record ∧
              item.Gives outcome tag record ∧
              record.fault?.map Fault.message =
                if outcome.status.isSuccess then none
                else some (s!"Read of {tag} failed: {outcome.status.text} (" ++
                  Numeral.hex 2 outcome.status.byte.toNat ++ ")")) ∧
      ∀ outcomes outcomes' replies replies' records records',
        plan.Answered outcomes replies → plan.Answered outcomes' replies' →
        plan.records replies = .ok records → plan.records replies' = .ok records' →
        ∀ i tag place item, plan.Reads place item ⟨i, tag⟩ →
          outcomes[place]? = outcomes'[place]? → records[i]? = records'[i]? := by
  refine ⟨?_, ?_, ?_, ?_, ?_⟩
  · intro i tag found
    rcases exists_reads made found with ⟨place, item, reads⟩
    refine ⟨place, ⟨item, reads⟩, ?_⟩
    intro place' given
    rcases given with ⟨item', reads'⟩
    exact reads'.place_eq made reads
  · intro batch inBatches entries admitted reference
    exact (sendable_of_make made batch inBatches).exists_reply admitted reference
  · intro outcomes suits
    rcases exists_admits (size_le_of_make made) suits with ⟨entries, answer, told⟩
    rcases exists_replies (sendable_of_make made) answer with ⟨frames, replies, read, carried⟩
    exact ⟨frames, replies, read, entries, ⟨answer, told⟩, carried⟩
  · intro outcomes replies answered
    rcases exists_records made answered with ⟨records, recorded, tags, each⟩
    refine ⟨records, recorded, tags, ?_⟩
    intro i tag place item reads
    rcases each i tag place item reads with ⟨outcome, record, told, found, gives⟩
    exact ⟨outcome, record, told, found, gives, gives.message_eq⟩
  · intro outcomes outcomes' replies replies' records records' answered answered' recorded
      recorded' i tag place item reads same
    rcases exists_records made answered with ⟨first, firstRecorded, _, each⟩
    rcases exists_records made answered' with ⟨second, secondRecorded, _, each'⟩
    cases recorded.symm.trans firstRecorded
    cases recorded'.symm.trans secondRecorded
    rcases each i tag place item reads with ⟨outcome, record, told, found, gives⟩
    rcases each' i tag place item reads with ⟨outcome', record', told', found', gives'⟩
    rw [told, told'] at same
    cases same
    rw [found, found', gives.unique gives']

theorem records_of_outcomes_closeBytes :
    ∃ plan replies replies' records records', make closeBytes ⟨240, 20⟩ true = .ok plan ∧
      plan.batches.length = 1 ∧
      plan.Answered [⟨.outOfRange, []⟩, ⟨.success, List.replicate 10 7⟩] replies ∧
      plan.Answered [⟨.success, List.replicate 17 1⟩, ⟨.success, List.replicate 10 7⟩] replies' ∧
      plan.records replies = .ok records ∧ plan.records replies' = .ok records' ∧
      records[2]? = records'[2]? := by
  -- The two close bytes are one item, and the ten bytes are the other.
  have seen : (make closeBytes ⟨240, 20⟩ true).toOption.map (fun plan =>
      (plan.batches.length, plan.items.map (·.tag.size), plan.items.map (·.members))) =
      some (1, [17, 10], [[⟨0, closeBytes[0]⟩, ⟨1, closeBytes[1]⟩], [⟨2, closeBytes[2]⟩]]) := by
    cbv
  rcases exists_of_map_toOption seen with ⟨plan, made, parts⟩
  obtain ⟨one, parts⟩ := Prod.mk.inj parts
  obtain ⟨sizes, members⟩ := Prod.mk.inj parts
  obtain ⟨_, _, answerable, recorded, isolated⟩ := records_of_outcomes made
  have suits : ∀ outcomes, List.Forall₂ ItemReply.Suits [17, 10] outcomes →
      List.Forall₂ (fun item outcome => ItemReply.Suits item.tag.size outcome) plan.items
        outcomes := by
    intro outcomes suits
    rw [← sizes, List.forall₂_map_left_iff] at suits
    exact suits
  have refused := suits [⟨.outOfRange, []⟩, ⟨.success, List.replicate 10 7⟩]
    (.cons rfl (.cons rfl .nil))
  have full := suits [⟨.success, List.replicate 17 1⟩, ⟨.success, List.replicate 10 7⟩]
    (.cons rfl (.cons rfl .nil))
  rcases answerable _ refused with ⟨_, replies, _, answered⟩
  rcases answerable _ full with ⟨_, replies', _, answered'⟩
  rcases recorded _ _ answered with ⟨records, done, _, _⟩
  rcases recorded _ _ answered' with ⟨records', done', _, _⟩
  have second := congrArg (·[1]?) members
  rw [List.getElem?_map] at second
  obtain ⟨item, found, only⟩ := Option.map_eq_some_iff.mp second
  have reads : plan.Reads 1 item ⟨2, closeBytes[2]⟩ := ⟨found, only ▸ List.mem_singleton_self _⟩
  exact ⟨plan, replies, replies', records, records', made, one, answered, answered', done, done',
    isolated _ _ _ _ _ _ answered answered' done done' 2 _ 1 item reads rfl⟩

end ReadPlan

end S7Link
