import S7Link.Proofs.Controller.Answers
import S7Link.Proofs.Plan.Members
import S7Link.Proofs.Plan.Sendable
import S7Link.Proofs.Reply.Entries

/-!
# Answers to the batches of a plan

An answer whose data section is that of entries which answer the items of a batch tells of each item
what its entry says (`ReadBatch.answers_eq_ok`), and whatever else an answer tells suits the items
(`ReadBatch.suits_of_answers`), so that there are records (`ReadBatch.exists_parts`). A batch that
can be sent has room in its answer for every such list of entries: the frame that holds them is read
as it was written.
-/

namespace S7Link

open Outcome Plan Request

theorem Reply.checkError_eq_ok_iff {reply : Reply} :
    reply.checkError = .ok () ↔ reply.isSuccess = true := by
  unfold checkError
  split
  · next success => exact ⟨fun _ => success, fun _ => rfl⟩
  · next failure =>
    refine ⟨fun passed => ?_, fun success => absurd success failure⟩
    cases passed

theorem Plan.checkAnswerCount_eq_ok_iff {batches answers : Nat} :
    checkAnswerCount batches answers = .ok () ↔ batches = answers := by
  unfold checkAnswerCount
  split
  · next same => exact ⟨fun _ => same, fun _ => rfl⟩
  · next differ =>
    refine ⟨fun passed => ?_, fun same => absurd same differ⟩
    cases passed

namespace ReadBatch

variable {batch : ReadBatch} {reply : Reply} {entries : List Reply.Entry}

theorem answers_eq_ok (answer : Reply.Entry.AnswerAll (batch.tags.map Tag.size) entries)
    (carries : reply.Carries entries) :
    batch.answers reply = .ok (batch.items.zip (entries.map Reply.Entry.item)) := by
  have success := Reply.checkError_eq_ok_iff.mpr carries.isSuccess
  have items := carries.readItems_eq_ok answer
  exact bind_eq_ok_iff.mpr
    ⟨(), success, bind_eq_ok_iff.mpr ⟨_, mapError_eq_ok_iff.mpr items, rfl⟩⟩

/-- What an answer tells of each item of a batch suits it. -/
theorem suits_of_answers {pairs : List (ReadItem × ItemReply)}
    (told : batch.answers reply = .ok pairs) :
    pairs.map Prod.fst = batch.items ∧ ∀ pair ∈ pairs, pair.2.Suits pair.1.tag.size := by
  obtain ⟨_, _, later⟩ := bind_eq_ok_iff.mp told
  obtain ⟨outcomes, read, done⟩ := bind_eq_ok_iff.mp later
  cases done
  have suits := Reply.suits_of_readItems (mapError_eq_ok_iff.mp read)
  unfold tags at suits
  rw [List.forall₂_map_left_iff] at suits
  refine ⟨List.map_fst_zip (Nat.le_of_eq suits.length_eq), ?_⟩
  intro pair member
  exact (List.forall₂_iff_zip.mp suits).2 member

/-- Whatever an answer tells of the items gives the members of each their records. -/
theorem exists_parts {largest : Nat} {pairs : List (ReadItem × ItemReply)}
    (covers : ∀ item ∈ batch.items, item.Covers largest)
    (told : batch.answers reply = .ok pairs) :
    ∃ parts, batch.records reply = .ok parts.flatten ∧
      List.Forall₂ (fun pair part => pair.1.GivesAll pair.2 part) pairs parts := by
  obtain ⟨items, suits⟩ := suits_of_answers told
  have each : ∀ pair ∈ pairs, ∃ part, pair.1.records pair.2 = .ok part ∧
      pair.1.GivesAll pair.2 part := by
    intro pair member
    have inBatch : pair.1 ∈ batch.items := by
      rw [← items]
      exact List.mem_map_of_mem member
    exact (covers pair.1 inBatch).exists_records (suits pair member)
  rcases exists_mapM_eq_ok each with ⟨parts, recorded, givesAll⟩
  refine ⟨parts, ?_, givesAll⟩
  exact bind_eq_ok_iff.mpr ⟨pairs, told, bind_eq_ok_iff.mpr ⟨parts, recorded, rfl⟩⟩

/-- Values stand at the places of the members. -/
theorem map_index_of_values {values : List (Indexed Value)}
    (valued : batch.values reply = .ok values) :
    (batch.items.flatMap (·.members)).map (·.index) = values.map (·.index) := by
  obtain ⟨pairs, told, later⟩ := bind_eq_ok_iff.mp valued
  obtain ⟨parts, done, flat⟩ := bind_eq_ok_iff.mp later
  cases flat
  have each : List.Forall₂ (fun (pair : ReadItem × ItemReply) part =>
      pair.1.members.map (·.index) = part.map (·.index)) pairs parts :=
    (mapM_eq_ok_iff.mp done).imp fun _ _ valued => ReadItem.map_index_of_values valued
  rw [← (suits_of_answers told).1, List.flatMap_map, List.map_flatMap,
    ← flatMap_eq_map_flatten each]

/-- A frame that answers a batch is read as it was written, if its entries are no longer than those
of a full answer. -/
theorem Sendable.exists_reply_of_le {limits : Limits} (sendable : batch.Sendable limits)
    (count : entries.length = batch.items.length)
    (dataLength : (entries.flatMap Reply.Entry.bytes).length ≤
      Frame.alignedLength ((batch.tags.map Tag.size).map (itemHeaderSize + ·)))
    (reference : UInt16) :
    ∃ reply, Reply.read (Controller.answer reference readFunction batch.items.length
        (entries.flatMap Reply.Entry.bytes)) = .ok reply ∧
      reply.header.reference = reference ∧ reply.Carries entries := by
  have replyLength := sendable.replyLength_lt reference
  have word := limits.pduSize.toNat_lt
  have short : replyOverhead + (entries.flatMap Reply.Entry.bytes).length < 65536 := by
    refine Nat.lt_of_le_of_lt (Nat.add_le_add_left dataLength _) ?_
    exact Nat.lt_trans replyLength word
  refine ⟨_, Controller.read_answer _ _ _ short, rfl, rfl, rfl, ?_, rfl⟩
  rw [count]
  exact UInt8.toNat_ofNat_of_lt' (Limits.lt_256_of_le_items sendable.few)

/-- The frame that answers a batch by entries is read as it was written. -/
theorem Sendable.exists_reply_under {limits : Limits} (sendable : batch.Sendable limits)
    (answer : Reply.Entry.AnswerAll (batch.tags.map Tag.size) entries) (reference : UInt16) :
    ∃ reply, Reply.read (Controller.answer reference readFunction batch.items.length
        (entries.flatMap Reply.Entry.bytes)) = .ok reply ∧
      reply.header.reference = reference ∧ reply.Carries entries := by
  refine sendable.exists_reply_of_le ?_ (Reply.Entry.length_flatMap_bytes_le answer) reference
  rw [answer.length_eq, List.length_map, batch.length_tags]

theorem Sendable.exists_reply {limits : Limits} (sendable : batch.Sendable limits)
    (answer : Reply.Entry.AnswerAll (batch.tags.map Tag.size) entries) (reference : UInt16) :
    ∃ reply, Reply.read (Controller.answer reference readFunction batch.items.length
        (entries.flatMap Reply.Entry.bytes)) = .ok reply ∧ reply.Carries entries := by
  rcases sendable.exists_reply_under answer reference with ⟨reply, read, _, carries⟩
  exact ⟨reply, read, carries⟩

end ReadBatch

/-- Values for all batches of a plan are as many as the tags that it was made for. -/
theorem ReadPlan.length_of_values {tags : List Tag} {limits : Limits} {optimize : Bool}
    {plan : ReadPlan} (made : make tags limits optimize = .ok plan)
    {parts : List (List (Indexed Value))}
    (valued : List.Forall₂ (fun batch part => ∃ reply, ReadBatch.values batch reply = .ok part)
      plan.batches parts) :
    (Indexed.inOrder parts.flatten).length = tags.length := by
  have each : List.Forall₂ (fun (batch : ReadBatch) part =>
      (batch.items.flatMap (·.members)).map (·.index) = part.map (·.index)) plan.batches parts := by
    refine valued.imp ?_
    intro batch part given
    rcases given with ⟨reply, valued⟩
    exact ReadBatch.map_index_of_values valued
  have indices := flatMap_eq_map_flatten each
  rw [← List.map_flatMap, ← List.flatMap_assoc] at indices
  calc (Indexed.inOrder parts.flatten).length
      = (parts.flatten.map (·.index)).length := by
        rw [(Indexed.inOrder_perm parts.flatten).length_eq, List.length_map, List.length_map]
    _ = (Indexed.all tags).length := by
        rw [← indices, List.length_map]
        exact (members_perm made).length_eq
    _ = tags.length := Indexed.length_all tags

end S7Link
