import S7Link.Proofs.Controller.ReadBack
import S7Link.Proofs.Controller.Serving
import S7Link.Proofs.Controller.Stored
import S7Link.Proofs.Session.Refinement
import S7Link.Proofs.Value.RoundTrip

/-!
# What was written is read

A session that has written values to tags reads these values from the tags, whichever transport
serves the memory, if the tags lie apart (`Session.read_of_write`). The write leaves a memory in
which each tag has its value (`Controller.Serves.stores`), since its exchanges hand over the
payloads of all tags; the read finds in every answer what this memory holds
(`Controller.Serves.told`). Tags may be read in any order and in other groups than they were written
in.
-/

namespace S7Link

open Outcome Plan Request

/-- What can be written alone can be read alone. -/
theorem Request.largestWrite_le_largestRead (pduSize : UInt16) :
    largestWrite pduSize ≤ largestRead pduSize := by
  have frame : overhead = 19 ∧ specificationSize = 12 ∧ itemHeaderSize = 4 ∧ replyOverhead = 21 :=
    ⟨rfl, rfl, rfl, rfl⟩
  unfold largestWrite largestRead
  refine Nat.le_trans (Nat.min_le_left ..) ?_
  split <;> omega

/-! ## What a transport does that serves a memory -/

/-- The items of a batch that can be sent have an answer. -/
theorem ReadBatch.Sendable.answerable {limits : Limits} {batch : ReadBatch}
    (sendable : batch.Sendable limits) (countable : ∀ tag ∈ batch.tags, tag.size ≤ 65535) :
    Controller.Answerable (batch.tags.map Specification.of) ∧
      (batch.tags.map Specification.of).map Specification.size = batch.tags.map Tag.size := by
  have sizes : (batch.tags.map Specification.of).map Specification.size =
      batch.tags.map Tag.size := by
    rw [List.map_map]
    exact List.map_congr_left fun tag member => Specification.size_of (countable tag member)
  refine ⟨⟨?_, ?_⟩, sizes⟩
  · intro s member isBit
    obtain ⟨tag, _, rfl⟩ := List.mem_map.mp member
    rw [Specification.isBit_of, decide_eq_true_iff] at isBit
    unfold Specification.of transfer
    rw [isBit]
    rfl
  · have short := Nat.lt_trans (sendable.replyLength_lt 0) limits.pduSize.toNat_lt
    have same : (batch.tags.map Specification.of).map (fun s => itemHeaderSize + s.size) =
        (batch.tags.map Tag.size).map (itemHeaderSize + ·) := by
      rw [← sizes]
      exact List.map_map.symm
    rw [same]
    exact short

/-- A frame of a batch that can be sent asks under its reference for the tags of the batch. -/
theorem ReadBatch.Sendable.asked {limits : Limits} {batch : ReadBatch} {reference : UInt16}
    {frame : Bytes} (sendable : batch.Sendable limits)
    (sent : batch.frame limits.pduSize reference = .ok frame) :
    Frame.reference? frame = some reference ∧
      Job.read? frame = some (reference, .read (batch.tags.map Specification.of)) := by
  rcases sendable.exists_frame reference with ⟨_, framed, carried⟩
  cases sent.symm.trans framed
  unfold ReadBatch.frame at sent
  rw [sendable.request_eq] at sent
  have request : (⟨reference, batch.tags⟩ : ReadRequest).bytes = frame := Except.ok.inj sent
  exact ⟨carried, request ▸ sendable.read?_bytes reference⟩

/-- Batches are answered one after another if each is in every state that the transport comes to. -/
theorem Transport.Gave.exists_replies {σ : Type} {transport : Transport σ} {pduSize : UInt16}
    {P : σ → Prop} {R : ReadBatch → Reply → Prop} {batches : List ReadBatch}
    {exchanges : List Exchange} {state last : σ}
    (answers : ∀ batch ∈ batches, ∀ reference (exchange : Exchange) state next, P state →
      batch.frame pduSize reference = .ok exchange.request →
      transport state exchange.request = (exchange.received, next) →
        P next ∧ ∃ reply, exchange.Answered reply ∧ R batch reply)
    (sent : List.Forall₂ (fun (batch : ReadBatch) exchange =>
      ∃ reference, batch.frame pduSize reference = .ok exchange.request) batches exchanges)
    (gave : transport.Gave state exchanges last) (begins : P state) :
    ∃ replies, List.Forall₂ Exchange.Answered exchanges replies ∧
      List.Forall₂ R batches replies := by
  induction sent generalizing state with
  | nil => exact ⟨[], .nil, .nil⟩
  | cons first _ ih =>
    cases gave with
    | cons gaveFirst rest =>
      rw [List.forall_mem_cons] at answers
      rcases first with ⟨reference, first⟩
      obtain ⟨goesOn, reply, answered, fine⟩ := answers.1 reference _ _ _ begins first gaveFirst
      rcases ih answers.2 rest goesOn with ⟨replies, others, all⟩
      exact ⟨reply :: replies, .cons answered others, .cons fine all⟩

namespace Controller.Serves

variable {σ : Type} {transport : Transport σ} {memory : σ → Memory} {limits : Limits}
  {state next last : σ} {exchange : Exchange} {exchanges : List Exchange}

/-- One batch that is read is answered from the memory. -/
theorem told_one (serves : Serves transport memory) {batch : ReadBatch} {reference : UInt16}
    (sendable : batch.Sendable limits) (countable : ∀ tag ∈ batch.tags, tag.size ≤ 65535)
    (sent : batch.frame limits.pduSize reference = .ok exchange.request)
    (gave : transport state exchange.request = (exchange.received, next)) :
    memory next = memory state ∧
      ∃ reply, exchange.Answered reply ∧
        ∃ entries, batch.Reports (memory state) entries ∧ reply.Carries entries := by
  obtain ⟨carried, asked⟩ := sendable.asked sent
  obtain ⟨answerable, sizes⟩ := sendable.answerable countable
  obtain ⟨unchanged, entries, tells, answer, received⟩ :=
    serves.read state exchange.request reference _ asked answerable
  rw [sizes] at answer
  rw [gave] at unchanged received
  have count : (batch.tags.map Specification.of).length = batch.items.length := by
    rw [List.length_map, batch.length_tags]
  rw [count] at received
  rcases sendable.exists_reply_under answer reference with ⟨reply, read, same, carries⟩
  refine ⟨unchanged, reply, ⟨_, received, read, same ▸ carried⟩, entries, ⟨answer, ?_⟩, carries⟩
  refine List.forall₂_map_left_iff.mp (List.forall₂_iff_zip.mpr ⟨?_, fun h => tells _ h⟩)
  rw [answer.length_eq, List.length_map, List.length_map]

/-- Batches that are read are answered from the memory, which stays as it is. -/
theorem told (serves : Serves transport memory) {batches : List ReadBatch}
    (sendable : ∀ batch ∈ batches, batch.Sendable limits)
    (countable : ∀ batch ∈ batches, ∀ tag ∈ batch.tags, tag.size ≤ 65535)
    (sent : List.Forall₂ (fun (batch : ReadBatch) exchange =>
      ∃ reference, batch.frame limits.pduSize reference = .ok exchange.request) batches exchanges)
    (gave : transport.Gave state exchanges last) :
    ∃ replies, List.Forall₂ Exchange.Answered exchanges replies ∧
      List.Forall₂ (fun batch reply =>
        ∃ entries, batch.Reports (memory state) entries ∧ reply.Carries entries)
        batches replies := by
  refine Transport.Gave.exists_replies (P := fun now => memory now = memory state) ?_ sent gave rfl
  intro batch member reference exchange now next same sent gave
  rw [← same]
  exact serves.told_one (sendable batch member) (countable batch member) sent gave

/-- Batches that are written are carried out in the memory. -/
theorem stores (serves : Serves transport memory) {batches : List WriteBatch}
    (sendable : ∀ batch ∈ batches, batch.Sendable limits)
    (wellFormed : ∀ item ∈ batches.flatMap (·.items), item.WellFormed)
    (held : ∀ item ∈ batches.flatMap (·.items), (memory state).holds item.tag = true)
    (sent : List.Forall₂ (fun (batch : WriteBatch) exchange =>
      ∃ reference, batch.frame limits.pduSize reference = .ok exchange.request) batches exchanges)
    (gave : transport.Gave state exchanges last) :
    (memory state).Stores (batches.flatMap (·.items)) (memory last) := by
  induction sent generalizing state with
  | nil =>
    cases gave
    exact Memory.stores_nil _
  | @cons batch exchange batches exchanges first _ ih =>
    cases gave with
    | @cons _ next _ _ _ gaveFirst rest =>
      rw [List.flatMap_cons] at wellFormed held ⊢
      rw [List.forall_mem_append] at wellFormed held
      rw [List.forall_mem_cons] at sendable
      rcases first with ⟨reference, sent⟩
      have request : (⟨reference, batch.items⟩ : WriteRequest).bytes = exchange.request := by
        unfold WriteBatch.frame at sent
        rw [sendable.1.request_eq] at sent
        exact Except.ok.inj sent
      have asked := sendable.1.read?_bytes wellFormed.1 reference
      rw [request] at asked
      rcases Memory.exists_stores wellFormed.1 held.1 with ⟨after, stores⟩
      have carriedOut := (serves.write state exchange.request reference _ asked).1
      rw [gaveFirst] at carriedOut
      have replaced : (memory state).replaceAll batch.job = _ := stores.replaceAll_eq
      rw [replaced] at carriedOut
      have carriedOut : memory next = after := carriedOut
      rw [← carriedOut] at stores
      refine stores.append (ih sendable.2 wellFormed.2 ?_ rest)
      intro item later
      rw [stores.shape.holds_eq]
      exact held.2 item later

end Controller.Serves

namespace Session

variable {σ : Type} {transport : Transport σ} {memory : σ → Memory} {tags : List Tag}
  {values : List Value}

/-! ## The two calls -/

/-- A read of tags that are held, and are not too large, gives the values that they have. -/
theorem exists_values_of_read (serves : Controller.Serves transport memory) (session : Session σ)
    (sizes : ∀ tag ∈ tags, tag.size ≤ largestRead session.config.pduSize)
    (held : ∀ tag ∈ tags, (memory session.peer).holds tag = true) :
    ∃ values, (session.read transport tags).1 = .ok values ∧
      tags.map (memory session.peer).value? = values.map some := by
  have planned : ∃ plan,
      ReadPlan.make tags session.config.limits session.config.optimize = .ok plan :=
    ReadPlan.exists_make_iff.mpr sizes
  rcases planned with ⟨plan, made⟩
  obtain ⟨_, exchanges, gave, refines⟩ :=
    (read_asPlanned transport session tags).exists_exchanges made
  have inPlan : ∀ batch ∈ plan.batches.take exchanges.length, batch ∈ plan.batches :=
    fun batch => List.mem_of_mem_take
  have sendable : ∀ batch ∈ plan.batches.take exchanges.length, batch.Sendable _ :=
    fun batch member => ReadPlan.sendable_of_make made batch (inPlan batch member)
  have countable : ∀ batch ∈ plan.batches.take exchanges.length, ∀ tag ∈ batch.tags,
      tag.size ≤ 65535 :=
    fun batch member => List.forall_mem_map.mpr fun item inBatch =>
      ReadPlan.size_le_of_make made item (ReadPlan.mem_items (inPlan batch member) inBatch)
  rcases serves.told sendable countable refines.sent gave with ⟨replies, answered, told⟩
  have heldBatches := (ReadPlan.holds_items_iff (memory session.peer) made).mpr held
  have zipped : plan.batches.zip replies = (plan.batches.take exchanges.length).zip replies := by
    conv_lhs =>
      rw [← List.take_append_drop exchanges.length plan.batches, ← List.append_nil replies]
    rw [List.zip_append told.length_eq, List.zip_nil_right, List.append_nil]
  -- Every answer that came gives values, so the call went through to its last batch.
  have decodes : ∀ pair ∈ plan.batches.zip replies, ∃ part, pair.1.values pair.2 = .ok part := by
    rintro ⟨batch, reply⟩ member
    rw [zipped] at member
    have inBatches := inPlan batch (List.of_mem_zip member).1
    rcases (List.forall₂_iff_zip.mp told).2 member with ⟨entries, reports, carries⟩
    have yields := ReadPlan.yields_values_of_mem made inBatches reports carries
    exact yields.ok_iff.mpr (heldBatches batch inBatches)
  have complete := refines.reached replies answered decodes
  rw [complete, List.take_length] at told
  have yields := ReadPlan.yields_values (memory session.peer) made told
  rcases yields.ok_iff.mpr held with ⟨values, valued⟩
  refine ⟨values, ?_, yields.result values valued⟩
  have whole := refines.answered replies [] answered (answered.length_eq.symm.trans complete)
  rwa [List.append_nil, valued] at whole

/-- After a write that succeeds the memory holds each tag with its value. -/
theorem value?_of_write (serves : Controller.Serves transport memory) (session : Session σ)
    (held : ∀ tag ∈ tags, (memory session.peer).holds tag = true)
    (apart : tags.Pairwise Tag.Apart)
    (written : (session.write transport tags values).1 = .ok ()) :
    ∀ pair ∈ tags.zip values,
      pair.1.size ≤ largestWrite session.config.pduSize ∧
        (memory (session.write transport tags values).2.peer).holds pair.1 = true ∧
        (memory (session.write transport tags values).2.peer).value? pair.1 =
          some (pair.2.readBack pair.1.type) := by
  have call := write_asPlanned transport session tags values
  rcases call.exists_plan written with ⟨plan, made⟩
  obtain ⟨_, exchanges, gave, refines⟩ := call.exists_exchanges made
  have named := WritePlan.map_tag_items made
  have wellFormed := WritePlan.wellFormed_of_make made
  have sent := refines.sent
  rw [refines.complete () written, List.take_length] at sent
  have heldItems : ∀ item ∈ plan.batches.flatMap (·.items),
      (memory session.peer).holds item.tag = true := by
    intro item member
    exact held item.tag (named ▸ List.mem_map_of_mem member)
  have stores := serves.stores (WritePlan.sendable_of_make made) wellFormed heldItems sent gave
  have lengths : ∀ pair ∈ (plan.batches.flatMap (·.items)).map fun item => (item.tag, item.data),
      pair.2.length = pair.1.size :=
    List.forall_mem_map.mpr fun item member => (wellFormed item member).length_eq
  have lieApart : (((plan.batches.flatMap (·.items)).map fun item =>
      (item.tag, item.data)).map Prod.fst).Pairwise Tag.Apart := by
    rw [List.map_map]
    exact named.symm ▸ apart
  have found := Memory.value?_of_putAll? stores.putAll?_eq lengths lieApart
  intro pair member
  obtain ⟨item, inPlan, formed⟩ := exists_mem_of_forall₂ (WritePlan.items_of_make made) member
  obtain ⟨tag, encoded, small⟩ := WritePlan.itemOf_eq_ok formed
  refine ⟨small, ?_, ?_⟩
  · rw [stores.shape.holds_eq]
    exact held pair.1 (List.of_mem_zip member).1
  · have value := List.forall_mem_map.mp found item inPlan
    dsimp only at value
    rw [tag, Value.decode?_of_encode encoded] at value
    exact value

/-- What was written to tags that lie apart is read from them, in any order and whether or not tags
are grouped. -/
theorem read_of_write (serves : Controller.Serves transport memory) (session : Session σ)
    (held : ∀ tag ∈ tags, (memory session.peer).holds tag = true)
    (apart : tags.Pairwise Tag.Apart)
    (written : (session.write transport tags values).1 = .ok ()) :
    let after := (session.write transport tags values).2
    tags.length = values.length ∧
      ∀ (optimize : Bool) (wanted : List (Tag × Value)),
        (∀ pair ∈ wanted, pair ∈ tags.zip values) →
          let reader := { after with config := { after.config with optimize } }
          (reader.read transport (wanted.map Prod.fst)).1 =
            .ok (wanted.map fun pair => pair.2.readBack pair.1.type) := by
  have stored := value?_of_write serves session held apart written
  have call := write_asPlanned transport session tags values
  rcases call.exists_plan written with ⟨plan, made⟩
  refine ⟨(WritePlan.make_eq_ok_iff.mp made).1, ?_⟩
  intro optimize wanted known reader
  have sameSize : reader.config.pduSize = session.config.pduSize :=
    congrArg (·.pduSize) (call.exists_exchanges made).1
  have sizes : ∀ tag ∈ wanted.map Prod.fst, tag.size ≤ largestRead reader.config.pduSize := by
    rw [sameSize]
    exact List.forall_mem_map.mpr fun pair member =>
      Nat.le_trans (stored pair (known pair member)).1 (largestWrite_le_largestRead _)
  have stillHeld : ∀ tag ∈ wanted.map Prod.fst, (memory reader.peer).holds tag = true :=
    List.forall_mem_map.mpr fun pair member => (stored pair (known pair member)).2.1
  rcases exists_values_of_read serves reader sizes stillHeld with ⟨found, gave, valued⟩
  have expected : (wanted.map Prod.fst).map (memory reader.peer).value? =
      (wanted.map fun pair => pair.2.readBack pair.1.type).map some := by
    rw [List.map_map, List.map_map]
    exact List.map_congr_left fun pair member => (stored pair (known pair member)).2.2
  have same := List.map_injective_iff.mpr (Option.some_injective Value) (valued.symm.trans expected)
  rw [gave, same]

/-- A number, two bits of one byte, a text and a floating-point number in one block. -/
def mixed : List Tag :=
  [(Tag.make .dataBlock 7 .int 0 0 1).toOption.get rfl,
    (Tag.make .dataBlock 7 .bit 2 0 1).toOption.get rfl,
    (Tag.make .dataBlock 7 .bit 2 7 1).toOption.get rfl,
    (Tag.make .dataBlock 7 .char 3 0 4).toOption.get rfl,
    (Tag.make .dataBlock 7 .real 8 0 1).toOption.get rfl]

/-- The text ends with a zero; the floating-point number is none that equals itself. -/
def mixedValues : List Value :=
  [.int (-2), .bool true, .bool false, .text "ab\x00", .real ⟨0x7FC00001⟩]

/-- A block of twelve bytes, of which all bits are set. -/
def mixedMemory : Memory := fun region =>
  if region = ⟨.dataBlock, 7⟩ then some (List.replicate 12 0xFF) else none

/-- A controller that counts in bytes, and a session that writes these tags with three requests and
reads them with one, the last one first. -/
theorem read_of_write_mixed :
    let transport := Controller.answering fun _ size => (0x09, UInt16.ofNat size)
    let after := ((start ⟨64, 20, false⟩ mixedMemory).write transport mixed mixedValues).2
    let reader := { after with config := { after.config with optimize := true } }
    (reader.read transport mixed.reverse).1 =
      .ok [.real ⟨0x7FC00001⟩, .text "ab", .bool false, .bool true, .int (-2)] := by
  intro transport after reader
  have held : ∀ tag ∈ mixed, mixedMemory.holds tag = true := by decide
  have apart : mixed.Pairwise Tag.Apart := by decide
  have written :
      ((start ⟨64, 20, false⟩ mixedMemory).write transport mixed mixedValues).1 = .ok () := by
    cbv
  have read := (read_of_write (Controller.serves_answering Controller.counts_bytes)
    (start ⟨64, 20, false⟩ mixedMemory) held apart written).2 true
    (mixed.zip mixedValues).reverse fun pair member => List.mem_reverse.mp member
  exact read

end Session

end S7Link
