import S7Link.Proofs.Controller.Jobs
import S7Link.Proofs.Plan.Extract
import S7Link.Proofs.Plan.Replies

/-!
# What is read is what the memory holds

A controller answers the request of a batch by entries, of which each tells what the memory holds at
its item or that it holds nothing there. From such answers a plan gives values if and only if the
memory holds every tag that was asked for, and then each tag, in the caller's order, has the value
that it has in memory (`ReadPlan.values_of_answers`). Sorting, grouping, batching, alignment and the
two ways to number the bits of a byte have no part in the result.

One step of the argument is one item (`ReadItem.yields_values`); a batch and a plan go through their
parts one by one.
-/

namespace S7Link

open Outcome Plan Request

/-! ## Answers that tell what a memory holds -/

/-- The entries answer the items of a batch, one by one, from a memory. -/
structure ReadBatch.Reports (memory : Memory) (batch : ReadBatch) (entries : List Reply.Entry) :
    Prop where
  answer : Reply.Entry.AnswerAll (batch.tags.map Tag.size) entries
  tells : List.Forall₂ (fun tag entry => Controller.Tells memory (Specification.of tag) entry)
    batch.tags entries

/-- A frame that answers a batch from a memory. -/
def ReadBatch.AnsweredBy (memory : Memory) (batch : ReadBatch) (frame : Bytes) : Prop :=
  ∃ entries reply, batch.Reports memory entries ∧ Reply.read frame = .ok reply ∧
    reply.Carries entries

/-- Values are those that tags have in a memory, place by place. -/
def Memory.Valued (memory : Memory) (members : List (Indexed Tag)) (values : List (Indexed Value)) :
    Prop :=
  members.map (Indexed.map memory.value?) = values.map (Indexed.map some)

/-- Parts that are valued one by one are valued together. -/
theorem Memory.valued_flatten {α : Type} {memory : Memory} {members : α → List (Indexed Tag)}
    {xs : List α} {parts : List (List (Indexed Value))}
    (each : List.Forall₂ (fun x values => memory.Valued (members x) values) xs parts) :
    memory.Valued (xs.flatMap members) parts.flatten := by
  rw [Valued, List.map_flatMap]
  exact flatMap_eq_map_flatten each

/-! ## There is an answer to every batch -/

/-- The entry that holds the payload of a tag, or the one that refuses it. -/
theorem Controller.exists_entry (memory : Memory) {tag : Tag} (countable : tag.size ≤ 65535)
    (isLast : Bool) :
    ∃ entry : Reply.Entry, entry.Answers tag.size isLast ∧
      Tells memory (Specification.of tag) entry := by
  unfold Tells
  cases told : memory.payload? tag with
  | none =>
    rw [Memory.fetch_of_none countable told]
    have refused := memory.refusal_ne_success tag.region
    have suits : (⟨memory.refusal tag.region, []⟩ : ItemReply).Suits tag.size :=
      (if_neg fun same => refused (eq_of_beq same)).mpr rfl
    rcases Reply.Entry.exists_of_suits countable suits isLast with ⟨entry, answers, said⟩
    refine ⟨entry, answers, ?_⟩
    dsimp only
    rwa [said]
  | some payload =>
    rw [Memory.fetch_of_some countable told]
    have suits : (⟨.success, payload⟩ : ItemReply).Suits tag.size :=
      Memory.length_of_payload? told
    exact Reply.Entry.exists_of_suits countable suits isLast

theorem ReadBatch.exists_reports (memory : Memory) {batch : ReadBatch}
    (countable : ∀ tag ∈ batch.tags, tag.size ≤ 65535) :
    ∃ entries, batch.Reports memory entries := by
  suffices general : ∀ tags : List Tag, (∀ tag ∈ tags, tag.size ≤ 65535) →
      ∃ entries, Reply.Entry.AnswerAll (tags.map Tag.size) entries ∧
        List.Forall₂ (fun tag entry => Controller.Tells memory (Specification.of tag) entry)
          tags entries by
    rcases general batch.tags countable with ⟨entries, answer, tells⟩
    exact ⟨entries, answer, tells⟩
  intro tags
  induction tags with
  | nil => exact fun _ => ⟨[], trivial, .nil⟩
  | cons tag tags ih =>
    intro countable
    rcases ih fun tag' later => countable tag' (List.mem_cons_of_mem tag later) with
      ⟨entries, answer, tells⟩
    rcases Controller.exists_entry memory (countable tag List.mem_cons_self)
      (tags.map Tag.size).isEmpty with ⟨entry, answers, first⟩
    exact ⟨entry :: entries, ⟨answers, answer⟩, .cons first tells⟩

/-- A controller finds in the frame of a batch the tags that the batch reads. -/
theorem ReadBatch.Sendable.read?_bytes {limits : Limits} {batch : ReadBatch}
    (sendable : batch.Sendable limits) (reference : UInt16) :
    Job.read? (⟨reference, batch.tags⟩ : ReadRequest).bytes =
      some (reference, .read (batch.tags.map Specification.of)) := by
  apply ReadRequest.read?_bytes
  rw [batch.length_tags]
  exact Limits.lt_256_of_le_items sendable.few

/-- The frame with which a controller answers a batch carries the entries. -/
theorem ReadBatch.answeredBy_answer {memory : Memory} {limits : Limits} {batch : ReadBatch}
    {entries : List Reply.Entry} (sendable : batch.Sendable limits)
    (reports : batch.Reports memory entries) (reference : UInt16) :
    batch.AnsweredBy memory (Controller.answer reference readFunction batch.items.length
      (entries.flatMap Reply.Entry.bytes)) := by
  rcases sendable.exists_reply reports.answer reference with ⟨reply, read, carries⟩
  exact ⟨entries, reply, reports, read, carries⟩

/-! ## Items, batches and plans -/

/-- The entry of an item gives values if the memory holds the item, and these are the values of its
members. -/
theorem ReadItem.yields_values {memory : Memory} {largest : Nat} {item : ReadItem}
    {entry : Reply.Entry} (covers : item.Covers largest) (countable : item.tag.size ≤ 65535)
    (tells : Controller.Tells memory (Specification.of item.tag) entry) :
    Yields (item.values entry.item) (memory.holds item.tag = true)
      (memory.Valued item.members) := by
  unfold Controller.Tells at tells
  rw [← Memory.isSome_payload?]
  cases told : memory.payload? item.tag with
  | none =>
    rw [Memory.fetch_of_none countable told] at tells
    have failed : ¬entry.item.status.isSuccess = true := by
      rw [Status.isSuccess, beq_iff_eq]
      exact tells
    exact Yields.of_error (values_of_failure failed) Bool.false_ne_true
  | some payload =>
    rw [Memory.fetch_of_some countable told] at tells
    have tells : entry.item = ⟨.success, payload⟩ := tells
    have suits : (⟨.success, payload⟩ : ItemReply).Suits item.tag.size :=
      Memory.length_of_payload? told
    rw [tells]
    rcases covers.exists_values suits rfl with ⟨parts, done, found⟩
    refine Yields.of_ok done rfl ?_
    rw [Memory.Valued, ← found]
    apply List.map_congr_left
    intro member inItem
    exact congrArg (Indexed.mk member.index) (covers.value?_eq inItem told).symm

namespace ReadBatch

variable {memory : Memory} {batch : ReadBatch} {reply : Reply} {entries : List Reply.Entry}

/-- The answer to a batch gives values if the memory holds every item, and these are the values of
all members. -/
theorem yields_values {largest : Nat} (covers : ∀ item ∈ batch.items, item.Covers largest)
    (countable : ∀ item ∈ batch.items, item.tag.size ≤ 65535)
    (reports : batch.Reports memory entries) (carries : reply.Carries entries) :
    Yields (batch.values reply) (∀ item ∈ batch.items, memory.holds item.tag = true)
      (memory.Valued (batch.items.flatMap (·.members))) := by
  have tells := List.forall₂_map_left_iff.mp reports.tells
  have all := (List.forall₂_and_left _ _).mpr
    ⟨fun item inBatch => And.intro (covers item inBatch) (countable item inBatch), tells⟩
  have each : List.Forall₂ (fun item answer => Yields (item.values answer)
      (memory.holds item.tag = true) (memory.Valued item.members))
      batch.items (entries.map Reply.Entry.item) := by
    apply List.forall₂_map_right_iff.mpr
    apply all.imp
    intro item entry known
    rcases known with ⟨⟨covers, countable⟩, tells⟩
    exact ReadItem.yields_values covers countable tells
  unfold values
  rw [answers_eq_ok reports.answer carries]
  exact (Yields.mapM_zip each).map fun parts valued => Memory.valued_flatten valued

end ReadBatch

/-- The frames that answer the batches are read, and each carries what its batch is told. -/
theorem Reply.exists_mapM_read {memory : Memory} {batches : List ReadBatch} {frames : List Bytes}
    (answered : List.Forall₂ (ReadBatch.AnsweredBy memory) batches frames) :
    ∃ replies, frames.mapM Reply.read = .ok replies ∧
      List.Forall₂ (fun batch reply => ∃ entries, batch.Reports memory entries ∧
        reply.Carries entries) batches replies := by
  induction answered with
  | nil => exact ⟨[], rfl, .nil⟩
  | cons first _ ih =>
    rcases first with ⟨entries, reply, reports, read, carries⟩
    rcases ih with ⟨replies, others, told⟩
    rw [mapM_eq_ok_iff] at others
    exact ⟨reply :: replies, mapM_eq_ok_iff.mpr (.cons read others),
      .cons ⟨entries, reports, carries⟩ told⟩

namespace ReadPlan

section

variable {tags : List Tag} {limits : Limits} {optimize : Bool} {plan : ReadPlan}

/-- A memory holds all items of a plan if and only if it holds all tags that were asked for. -/
theorem holds_items_iff (memory : Memory) (made : make tags limits optimize = .ok plan) :
    (∀ batch ∈ plan.batches, ∀ item ∈ batch.items, memory.holds item.tag = true) ↔
      ∀ tag ∈ tags, memory.holds tag = true := by
  have covers := covers_of_make made
  have perm := members_perm made
  constructor
  · intro held tag member
    rw [← Indexed.map_value_all tags] at member
    rcases List.mem_map.mp member with ⟨indexed, inAll, rfl⟩
    rcases List.mem_flatMap.mp (perm.mem_iff.mpr inAll) with ⟨item, inPlan, inItem⟩
    rcases List.mem_flatMap.mp inPlan with ⟨batch, inBatches, inBatch⟩
    exact (covers item inPlan).holds_iff.mp (held batch inBatches item inBatch) indexed inItem
  · intro held batch inBatches item inBatch
    have inPlan := mem_items inBatches inBatch
    apply (covers item inPlan).holds_iff.mpr
    intro indexed inItem
    have inAll := perm.mem_iff.mp (List.mem_flatMap.mpr ⟨item, inPlan, inItem⟩)
    exact held indexed.value (Indexed.value_mem_of_mem_all inAll)

/-- The answer to a batch of a plan gives values if the memory holds every item of the batch. -/
theorem yields_values_of_mem {memory : Memory} (made : make tags limits optimize = .ok plan)
    {batch : ReadBatch} (inBatches : batch ∈ plan.batches) {entries : List Reply.Entry}
    {reply : Reply} (reports : batch.Reports memory entries) (carries : reply.Carries entries) :
    Yields (batch.values reply) (∀ item ∈ batch.items, memory.holds item.tag = true)
      (memory.Valued (batch.items.flatMap (·.members))) := by
  have covers := covers_of_make made
  have sizes := size_le_of_make made
  exact ReadBatch.yields_values (fun item inBatch => covers item (mem_items inBatches inBatch))
    (fun item inBatch => sizes item (mem_items inBatches inBatch)) reports carries

/-- If each batch gives values under a condition on its items, a plan does so under the condition on
all items, and the values stand in the caller's order. -/
theorem yields_values_of_batches {memory : Memory} {condition : ReadItem → Prop}
    (made : make tags limits optimize = .ok plan) {replies : List Reply}
    (each : List.Forall₂ (fun batch reply => Yields (batch.values reply)
      (∀ item ∈ batch.items, condition item)
      (memory.Valued (batch.items.flatMap (·.members)))) plan.batches replies) :
    Yields (plan.values replies) (∀ batch ∈ plan.batches, ∀ item ∈ batch.items, condition item)
      (fun values => tags.map memory.value? = values.map some) := by
  unfold values
  rw [checkAnswerCount_eq_ok_iff.mpr each.length_eq]
  apply (Yields.mapM_zip each).map
  intro parts valued
  have flat : memory.Valued (plan.items.flatMap (·.members)) parts.flatten := by
    rw [items, List.flatMap_assoc]
    exact Memory.valued_flatten valued
  have inOrder := congrArg Indexed.inOrder flat
  rw [Indexed.inOrder_map, Indexed.inOrder_map] at inOrder
  rwa [Indexed.inOrder_of_perm (members_perm made)] at inOrder

/-- The answers to a plan give values if the memory holds every tag, and these are, in the caller's
order, those that the tags have in the memory. -/
theorem yields_values (memory : Memory) (made : make tags limits optimize = .ok plan)
    {replies : List Reply}
    (told : List.Forall₂ (fun batch reply => ∃ entries, batch.Reports memory entries ∧
      reply.Carries entries) plan.batches replies) :
    Yields (plan.values replies) (∀ tag ∈ tags, memory.holds tag = true)
      (fun values => tags.map memory.value? = values.map some) := by
  have known := (List.forall₂_and_left _ _).mpr
    ⟨fun batch (inBatches : batch ∈ plan.batches) => inBatches, told⟩
  refine Yields.congr (yields_values_of_batches made (known.imp ?_)) (holds_items_iff memory made)
  intro batch reply answered
  rcases answered with ⟨inBatches, entries, reports, carries⟩
  exact yields_values_of_mem made inBatches reports carries

/-- Whatever answers a plan from a memory gives values if and only if the memory holds every tag,
and these are, in the caller's order, those that the tags have in the memory. Each batch asks, under
every reference, for its items and nothing else, and there is an answer to it. -/
theorem values_of_answers (memory : Memory) (made : make tags limits optimize = .ok plan) :
    (∀ batch ∈ plan.batches, ∀ reference,
        (∃ request, batch.request reference limits.pduSize = .ok request ∧
          Job.read? request.bytes = some (reference, .read (batch.tags.map Specification.of))) ∧
        (∃ entries, batch.Reports memory entries) ∧
        ∀ entries, batch.Reports memory entries →
          batch.AnsweredBy memory (Controller.answer reference readFunction batch.items.length
            (entries.flatMap Reply.Entry.bytes))) ∧
      ∀ frames, List.Forall₂ (ReadBatch.AnsweredBy memory) plan.batches frames →
        ∃ replies, frames.mapM Reply.read = .ok replies ∧
          ((∃ values, plan.values replies = .ok values) ↔
            ∀ tag ∈ tags, memory.holds tag = true) ∧
          ∀ values, plan.values replies = .ok values →
            tags.map memory.value? = values.map some := by
  constructor
  · intro batch inBatches reference
    have sendable := sendable_of_make made batch inBatches
    have countable : ∀ tag ∈ batch.tags, tag.size ≤ 65535 := by
      intro tag member
      rcases List.mem_map.mp member with ⟨item, inBatch, rfl⟩
      exact size_le_of_make made item (mem_items inBatches inBatch)
    refine ⟨⟨_, sendable.request_eq reference, sendable.read?_bytes reference⟩, ?_, ?_⟩
    · exact ReadBatch.exists_reports memory countable
    · exact fun entries reports => ReadBatch.answeredBy_answer sendable reports reference
  · intro frames answered
    rcases Reply.exists_mapM_read answered with ⟨replies, read, told⟩
    have yields := yields_values memory made told
    exact ⟨replies, read, yields.ok_iff, yields.result⟩

/-- Two words, a bit among their bytes and a byte before them in one block, and a bit by itself. -/
def nearAndFar : List Tag :=
  [(Tag.make .dataBlock 3 .word 2 0 2).toOption.get rfl,
    (Tag.make .memory 0 .bit 0 2 1).toOption.get rfl,
    (Tag.make .dataBlock 3 .bit 3 5 1).toOption.get rfl,
    (Tag.make .dataBlock 3 .byte 0 0 1).toOption.get rfl]

/-- A memory that ends with the last of these tags in both regions. -/
def nearAndFarMemory : Memory := fun region =>
  if region = ⟨.dataBlock, 3⟩ then some [7, 0, 1, 0x20, 0, 9]
  else if region = ⟨.memory, 0⟩ then some [4]
  else none

theorem values_of_answers_nearAndFar :
    ∃ plan frames replies, make nearAndFar ⟨240, 20⟩ true = .ok plan ∧ plan.items.length = 2 ∧
      List.Forall₂ (ReadBatch.AnsweredBy nearAndFarMemory) plan.batches frames ∧
      frames.mapM Reply.read = .ok replies ∧
      plan.values replies =
        .ok [.list [.word 0x0120, .word 9], .bool true, .bool true, .byte 7] := by
  have seen : (make nearAndFar ⟨240, 20⟩ true).toOption.map (·.items.length) = some 2 := by cbv
  rcases exists_of_map_toOption seen with ⟨plan, made, two⟩
  rcases values_of_answers nearAndFarMemory made with ⟨exist, answers⟩
  have answerable : ∀ batch ∈ plan.batches, ∃ frame, batch.AnsweredBy nearAndFarMemory frame := by
    intro batch inBatches
    rcases exist batch inBatches 1 with ⟨_, ⟨entries, reports⟩, carried⟩
    exact ⟨_, carried entries reports⟩
  rcases exists_forall₂ answerable with ⟨frames, answered⟩
  rcases answers frames answered with ⟨replies, read, held, valued⟩
  have inMemory : ∀ tag ∈ nearAndFar, nearAndFarMemory.holds tag = true := by decide
  rcases held.mpr inMemory with ⟨values, given⟩
  have found : nearAndFar.map nearAndFarMemory.value? =
      [.list [.word 0x0120, .word 9], .bool true, .bool true, .byte 7].map some := by
    cbv
  have same := (valued values given).symm.trans found
  rw [List.map_inj_right (fun _ _ => Option.some.inj)] at same
  exact ⟨plan, frames, replies, made, two, answered, read, same ▸ given⟩

end

end ReadPlan

end S7Link
