import S7Link.Proofs.Plan.Lookups
import S7Link.Proofs.Plan.Planned
import S7Link.Proofs.Plan.Typing
import S7Link.Proofs.Reply.Grammar
import S7Link.Proofs.Session.Refinement
import S7Link.Proofs.Session.Unplanned

/-!
# Branches that are not reached

Three malformations are for what cannot happen: a payload that is too short for its cell, a member
that lies outside the payload of its item, and a single read that gives no value. No reader of
frames and entries names one of them (`Malformation.IsInternal`), and neither does a plan, because
its items contain their members and what is taken for an item has its size. So a call ends with one
of them only if its transport makes it up (`Session.exists_of_read_internal`). The ranges of groups
are tags, for the same sizes that let a plan be made (`internal_unreached`).
-/

namespace S7Link

open Outcome Plan Request

/-- The malformations of branches for what cannot happen. -/
def Malformation.IsInternal : Malformation → Prop
  | .payloadTooShort .. | .outsidePayload .. | .noValue .. => True
  | _ => False

/-- The faults of branches for what cannot happen. -/
def Fault.IsInternal : Fault → Prop
  | .malformed cause => cause.IsInternal
  | _ => False

/-! ## Readers of frames and entries -/

section Readers

variable {cause : Malformation}

theorem Frame.not_isInternal_of_unwrap {frame : Bytes} (refused : unwrap frame = .error cause) :
    ¬cause.IsInternal := by
  unfold unwrap at refused
  dsimp only at refused
  repeat' split at refused
  all_goals cases refused <;> exact id

theorem Header.not_isInternal_of_read {unit : Bytes} (refused : read unit = .error cause) :
    ¬cause.IsInternal := by
  rcases read_eq_error_iff.mp refused with
    ⟨_, rfl⟩ | ⟨_, ⟨_, _, _, rfl⟩ | ⟨_, _, _, rfl⟩⟩ <;> exact id

namespace Reply

theorem not_isInternal_of_readParameters {parameters : Bytes}
    (refused : readParameters parameters = .error cause) : ¬cause.IsInternal := by
  unfold readParameters at refused
  split at refused
  all_goals cases refused <;> exact id

/-- A frame that holds no answer is refused for what stands in it. -/
theorem not_isInternal_of_read {frame : Bytes} (refused : read frame = .error cause) :
    ¬cause.IsInternal := by
  rcases bind_eq_error_iff.mp refused with envelope | ⟨unit, _, later⟩
  · exact Frame.not_isInternal_of_unwrap envelope
  · rcases bind_eq_error_iff.mp later with header | ⟨header, _, later⟩
    · exact Header.not_isInternal_of_read header
    · dsimp only at later
      split at later
      · cases later
        exact id
      · split at later
        · cases later
          exact id
        · rcases bind_eq_error_iff.mp later with parameters | ⟨_, _, done⟩
          · exact not_isInternal_of_readParameters parameters
          · cases done

theorem not_isInternal_of_checkFunction {reply : Reply} {function : UInt8} {count : Nat}
    (refused : reply.checkFunction function count = .error cause) : ¬cause.IsInternal := by
  unfold checkFunction at refused
  repeat' split at refused
  all_goals cases refused <;> exact id

theorem not_isInternal_of_payloadLength {code : UInt8} {length : Nat}
    (refused : payloadLength code length = .error cause) : ¬cause.IsInternal := by
  unfold payloadLength at refused
  split at refused
  all_goals cases refused <;> exact id

theorem not_isInternal_of_takeItem {tag : Tag} {isLast : Bool} {bytes : Bytes}
    (refused : takeItem tag isLast bytes = .error cause) : ¬cause.IsInternal := by
  unfold takeItem at refused
  dsimp only at refused
  split at refused
  · cases refused
    exact id
  · split at refused
    · split at refused
      · rcases bind_eq_error_iff.mp refused with length | ⟨length, _, later⟩
        · exact not_isInternal_of_payloadLength length
        · repeat' split at later
          all_goals cases later <;> exact id
      · cases refused
        exact id
    · split at refused
      all_goals cases refused <;> exact id

theorem not_isInternal_of_takeItems {tags : List Tag} {bytes : Bytes}
    (refused : takeItems tags bytes = .error cause) : ¬cause.IsInternal := by
  induction tags generalizing bytes with
  | nil =>
    cases bytes with
    | nil => cases refused
    | cons byte bytes =>
      cases refused
      exact id
  | cons tag tags ih =>
    unfold takeItems at refused
    rcases bind_eq_error_iff.mp refused with first | ⟨⟨_, rest⟩, _, later⟩
    · exact not_isInternal_of_takeItem first
    · rcases bind_eq_error_iff.mp later with others | ⟨_, _, done⟩
      · exact ih others
      · cases done

/-- Items that are not read are refused for what stands in the answer. -/
theorem not_isInternal_of_readItems {reply : Reply} {tags : List Tag}
    (refused : reply.readItems tags = .error cause) : ¬cause.IsInternal := by
  rcases bind_eq_error_iff.mp refused with function | ⟨_, _, later⟩
  · exact not_isInternal_of_checkFunction function
  · exact not_isInternal_of_takeItems later

end Reply

end Readers

/-! ## Plans -/

theorem ReadBatch.not_isInternal_of_values {batch : ReadBatch} {reply : Reply} {largest : Nat}
    (covers : ∀ item ∈ batch.items, item.Covers largest) {fault : Fault}
    (failed : batch.values reply = .error fault) : ¬fault.IsInternal := by
  rcases bind_eq_error_iff.mp failed with refused | ⟨pairs, told, later⟩
  · rcases bind_eq_error_iff.mp refused with rejected | ⟨_, _, later⟩
    · unfold Reply.checkError at rejected
      split at rejected
      all_goals cases rejected <;> exact id
    · rcases bind_eq_error_iff.mp later with malformed | ⟨_, _, done⟩
      · obtain ⟨cause, unread, rfl⟩ := mapError_eq_error_iff.mp malformed
        exact Reply.not_isInternal_of_readItems unread
      · cases done
  · rcases bind_eq_error_iff.mp later with stopped | ⟨_, _, done⟩
    · obtain ⟨items, suits⟩ := suits_of_answers told
      obtain ⟨pair, member, failed⟩ := exists_of_mapM_eq_error stopped
      have inBatch : pair.1 ∈ batch.items := items ▸ List.mem_map_of_mem member
      by_cases success : pair.2.status.isSuccess = true
      · rcases (covers pair.1 inBatch).exists_values (suits pair member) success with
          ⟨values, valued, _⟩
        cases failed.symm.trans valued
      · cases failed.symm.trans (ReadItem.values_of_failure success)
        exact id
    · cases done

theorem ReadPlan.not_isInternal_of_values {tags : List Tag} {limits : Limits} {optimize : Bool}
    {plan : ReadPlan} (made : make tags limits optimize = .ok plan) {replies : List Reply}
    {fault : Fault} (failed : plan.values replies = .error fault) : ¬fault.IsInternal := by
  rcases bind_eq_error_iff.mp failed with miscounted | ⟨_, _, later⟩
  · unfold checkAnswerCount at miscounted
    split at miscounted
    all_goals cases miscounted <;> exact id
  · rcases bind_eq_error_iff.mp later with stopped | ⟨_, _, done⟩
    · obtain ⟨⟨batch, reply⟩, member, failed⟩ := exists_of_mapM_eq_error stopped
      have inPlan := (List.of_mem_zip member).1
      exact ReadBatch.not_isInternal_of_values
        (fun item inBatch => covers_of_make made item (mem_items inPlan inBatch)) failed
    · cases done

/-! ## Calls -/

/-- What an exchange received was given by the transport in some state. -/
theorem Transport.Gave.exists_of_mem {σ : Type} {transport : Transport σ} {state last : σ}
    {exchanges : List Exchange} (gave : transport.Gave state exchanges last) {exchange : Exchange}
    (member : exchange ∈ exchanges) :
    ∃ state, (transport state exchange.request).1 = exchange.received := by
  induction gave with
  | nil => cases member
  | @cons state next last exchange exchanges first _ ih =>
    rcases List.mem_cons.mp member with rfl | later
    · exact ⟨state, congrArg Prod.fst first⟩
    · exact ih later

/-- A frame that was received is refused for what stands in it. -/
theorem Exchange.Failed.received_of_isInternal {exchange : Exchange} {fault : Fault}
    (failed : exchange.Failed fault) (internal : fault.IsInternal) :
    exchange.received = .error fault := by
  cases failed with
  | unanswered none => exact none
  | unread _ malformed => exact absurd internal (Reply.not_isInternal_of_read malformed)
  | mismatched _ _ _ _ => exact internal.elim

namespace Session

variable {σ : Type} {transport : Transport σ} {session : Session σ} {tags : List Tag}

/-- A read with a plan comes to what the plan makes of some answers, or to the fault of an exchange
that the transport carried out. -/
theorem exists_replies_or_failed {plan : ReadPlan}
    (made : ReadPlan.make tags session.config.limits session.config.optimize = .ok plan) :
    (∃ replies, (session.read transport tags).1 = plan.values replies) ∨
      ∃ state, ∃ exchange : Exchange, ∃ fault,
        (transport state exchange.request).1 = exchange.received ∧ exchange.Failed fault ∧
          (session.read transport tags).1 = .error fault := by
  obtain ⟨_, exchanges, gave, refines⟩ :=
    (read_asPlanned transport session tags).exists_exchanges made
  by_cases all : ∀ exchange ∈ exchanges, ∃ reply, exchange.Answered reply
  · rcases exists_forall₂ all with ⟨replies, answered⟩
    have sent := refines.sent.length_eq
    rw [List.length_take] at sent
    -- Any answers will do for the batches that the call did not come to.
    refine Or.inl ⟨_, refines.answered replies
      (List.replicate (plan.batches.length - exchanges.length) ⟨Header.answer 0 0 0, 0, 0, []⟩)
      answered ?_⟩
    rw [List.length_replicate, ← answered.length_eq]
    omega
  · obtain ⟨exchange, member, unanswered⟩ : ∃ exchange ∈ exchanges,
        ¬∃ reply, exchange.Answered reply := by simpa using all
    obtain ⟨fault, failed⟩ := (refines.settled exchange member).resolve_left unanswered
    obtain ⟨state, given⟩ := gave.exists_of_mem member
    exact Or.inr
      ⟨state, exchange, fault, given, failed, refines.failed exchange member fault failed⟩

/-- A read gives as many values as it has tags. -/
theorem length_of_read {values : List Value} (done : (session.read transport tags).1 = .ok values) :
    values.length = tags.length := by
  obtain ⟨plan, made⟩ := (read_asPlanned transport session tags).exists_plan done
  rcases exists_replies_or_failed made with ⟨replies, result⟩ | ⟨_, _, _, _, _, result⟩
  · exact (ReadPlan.takes_of_values made (result.symm.trans done)).length_eq.symm
  · cases done.symm.trans result

/-- A read ends in a branch for what cannot happen only if its transport says that it did. -/
theorem exists_of_read_internal {fault : Fault}
    (failed : (session.read transport tags).1 = .error fault) (internal : fault.IsInternal) :
    ∃ state frame, (transport state frame).1 = .error fault := by
  cases made : ReadPlan.make tags session.config.limits session.config.optimize with
  | error cause =>
    have ended : (session.read transport tags).1 = .error cause :=
      congrArg Prod.fst (readWith_of_refused transport false ReadBatch.values (fun _ => []) made)
    cases failed.symm.trans ended
    obtain ⟨_, _, rfl⟩ := ReadPlan.make_eq_error_iff.mp made
    exact internal.elim
  | ok plan =>
    rcases exists_replies_or_failed made with
      ⟨replies, result⟩ | ⟨state, exchange, _, gave, broken, result⟩
    · exact absurd internal (ReadPlan.not_isInternal_of_values made (result.symm.trans failed))
    · cases failed.symm.trans result
      exact ⟨state, exchange.request, gave.trans (broken.received_of_isInternal internal)⟩

theorem readOne_eq (transport : Transport σ) (session : Session σ) (tag : Tag) :
    (session.readOne transport tag).1 = (session.read transport [tag]).1 >>= lastValue tag := rfl

/-- A read of one tag that succeeds gives one value. -/
theorem exists_value_of_read {tag : Tag} {values : List Value}
    (done : (session.read transport [tag]).1 = .ok values) :
    ∃ value, values = [value] ∧ (session.readOne transport tag).1 = .ok value := by
  obtain ⟨value, rfl⟩ := List.length_eq_one_iff.mp (length_of_read done)
  refine ⟨value, rfl, ?_⟩
  rw [readOne_eq, done]
  rfl

/-- A read of one tag fails as a read of a list with that tag does. -/
theorem readOne_eq_error_iff {tag : Tag} {fault : Fault} :
    (session.readOne transport tag).1 = .error fault ↔
      (session.read transport [tag]).1 = .error fault := by
  rw [readOne_eq, bind_eq_error_iff]
  refine ⟨fun failed => failed.resolve_right ?_, Or.inl⟩
  rintro ⟨values, done, none⟩
  obtain ⟨value, rfl, _⟩ := exists_value_of_read done
  cases none

end Session

/-- Branches for what cannot happen are not reached: a success that is taken for an item of a plan
has the bytes of each member and gives it a value, the range of each group of tags that can be read
is a tag, and a read of one tag gives the one value that there is or the fault of the read. Only a
transport can make up a fault of such a branch. -/
theorem internal_unreached :
    (∀ tags limits optimize plan, ReadPlan.make tags limits optimize = .ok plan →
      ∀ item ∈ plan.items, ∀ (reply : Reply) asked answers,
        reply.readItems asked = .ok answers → ∀ answer, (item.tag, answer) ∈ asked.zip answers →
          answer.status.isSuccess = true →
            ∀ member ∈ item.members, item.Located member.value answer.payload) ∧
      (∀ pduSize tags, (∀ tag ∈ tags, tag.size ≤ largestRead pduSize) →
        (∀ group ∈ Group.gather (largestRead pduSize) (byPlace (Indexed.all tags)),
          group.start < group.stop ∧ ∃ range,
            Tag.ofBytes group.first.value.region group.start (group.stop - group.start) =
              .ok range) ∧
        ∃ items, ReadPlan.itemsOf pduSize true tags = .ok items) ∧
      ∀ (σ : Type) (transport : Transport σ) (session : Session σ) (tag : Tag),
        (∀ values, (session.read transport [tag]).1 = .ok values →
          ∃ value, values = [value] ∧ (session.readOne transport tag).1 = .ok value) ∧
        (∀ fault, (session.readOne transport tag).1 = .error fault ↔
          (session.read transport [tag]).1 = .error fault) ∧
        ∀ fault, (session.readOne transport tag).1 = .error fault → fault.IsInternal →
          ∃ state frame, (transport state frame).1 = .error fault := by
  refine ⟨?_, ?_, ?_⟩
  · intro tags limits optimize plan made item inPlan reply asked answers told answer own success
    exact ReadPlan.located_of_readItems made inPlan told own success
  · intro pduSize tags sizes
    refine ⟨fun group member => ?_, ReadPlan.exists_itemsOf true sizes⟩
    have spans := ReadPlan.spans_of_sizes sizes group member
    exact ⟨spans.start_lt_stop, spans.exists_range (largestRead_le pduSize)⟩
  · intro σ transport session tag
    refine ⟨fun _ => Session.exists_value_of_read, fun _ => Session.readOne_eq_error_iff, ?_⟩
    intro fault failed internal
    exact Session.exists_of_read_internal (Session.readOne_eq_error_iff.mp failed) internal

/-- The entry of twelve zeros. -/
def twelveZeros : Reply.Entry := .success 0x04 96 (List.replicate 12 0) []

/-- The answer that says that a bit is set. -/
def setBitAnswer : Bytes := Controller.answer 0 readFunction 1 [0xFF, 0x03, 0x00, 0x01, 0x01]

/-- Two members in one range, and a bit by itself: it is read, and the fault that a transport makes
up is passed on. -/
theorem internal_unreached_bitAndText :
    let tag := ReadPlan.bitAndText[1]
    let session := fun recording : Recording => Session.start ⟨240, 20, true⟩ [recording]
    (∃ plan, ReadPlan.make ReadPlan.bitAndText ⟨240, 20⟩ true = .ok plan ∧
      ∃ item ∈ plan.items, item.members.length = 2 ∧
        ∀ member ∈ item.members, item.Located member.value (List.replicate 12 0)) ∧
      (∃ items, ReadPlan.itemsOf 240 true ReadPlan.bitAndText = .ok items) ∧
      ((session (.echo setBitAnswer)).readOne .replay tag).1 = .ok (.bool true) ∧
      ∃ state frame, (Transport.replay state frame).1 = .error (.malformed (.noValue tag)) := by
  intro tag session
  obtain ⟨located, ranges, single⟩ := internal_unreached
  refine ⟨?_, (ranges 240 ReadPlan.bitAndText (by decide)).2, ?_, ?_⟩
  · have seen : (ReadPlan.make ReadPlan.bitAndText ⟨240, 20⟩ true).toOption.map
        (·.items.map fun item => (item.tag.size, item.members.length)) = some [(12, 2)] := by
      cbv
    obtain ⟨plan, made, items⟩ := exists_of_map_toOption seen
    obtain ⟨item, inPlan, shape⟩ := List.map_eq_singleton_iff.mp items
    obtain ⟨size, several⟩ := Prod.mk.inj shape
    have member : item ∈ plan.items := inPlan ▸ List.mem_singleton_self item
    have answer : Reply.Entry.AnswerAll ([item.tag].map Tag.size) [twelveZeros] := by
      rw [List.map_singleton, size]
      exact ⟨⟨Or.inl (by decide), rfl, rfl⟩, trivial⟩
    have held : (⟨Header.answer 1 2 16, readFunction, 1, twelveZeros.bytes⟩ : Reply).Holds
        [item.tag] [twelveZeros] := ⟨rfl, rfl, answer, rfl⟩
    exact ⟨plan, made, item, member, several, located _ _ _ plan made item member _ _ _
      (Reply.readItems_eq_ok_iff.mpr ⟨_, held, rfl⟩) _ List.mem_cons_self rfl⟩
  · have done : ((session (.echo setBitAnswer)).read .replay [tag]).1 = .ok [.bool true] := by
      cbv
    obtain ⟨value, same, given⟩ := (single _ .replay _ tag).1 _ done
    cases same
    exact given
  · have failed : ((session (.fault (.malformed (.noValue tag)))).readOne .replay tag).1 =
        .error (.malformed (.noValue tag)) := by
      cbv
    exact (single _ .replay _ tag).2.2 _ failed trivial

end S7Link
