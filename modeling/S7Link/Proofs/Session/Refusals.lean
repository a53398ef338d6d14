import S7Link.Proofs.Plan.Agreement
import S7Link.Proofs.Session.Calls

/-!
# What ends a call

An exchange comes to an answer only if the frame that was received holds one with the reference of
the request. A frame that holds no answer, one with another reference, or one whose items are those
of no request is refused by every batch, and what is refused ends the call
(`Session.Call.Made.error_of_refused`).
-/

namespace S7Link

open Outcome Plan

/-- An answer whose items are those of no request. -/
structure Reply.Malformed (reply : Reply) : Prop where
  unread : ∀ tags items, tags ≠ [] → reply.readItems tags ≠ .ok items
  unwritten : ∀ count statuses, count ≠ 0 → reply.writeStatuses count ≠ .ok statuses

/-- A frame that holds no answer, or one whose items are those of no request. -/
def Frame.Malformed (frame : Bytes) : Prop :=
  ∀ reply, Reply.read frame = .ok reply → reply.Malformed

/-- A fault that tells no status of an item. -/
def Fault.HasNoStatus : Fault → Prop
  | .readFailed .. | .writeFailed .. => False
  | _ => True

/-! ## What an exchange comes to -/

/-- An exchange comes to what was received if this is an answer that carries the reference. -/
theorem Exchange.reply_eq_ok_iff {exchange : Exchange} {reference : UInt16} {reply : Reply} :
    exchange.reply reference = .ok reply ↔
      ∃ frame, exchange.received = .ok frame ∧ Reply.read frame = .ok reply ∧
        reply.header.reference = reference := by
  unfold Exchange.reply Reply.checkReference
  constructor
  · intro answered
    obtain ⟨frame, received, later⟩ := bind_eq_ok_iff.mp answered
    obtain ⟨found, read, later⟩ := bind_eq_ok_iff.mp later
    obtain ⟨_, checked, done⟩ := bind_eq_ok_iff.mp later
    cases done
    split at checked
    · next carried => exact ⟨frame, received, mapError_eq_ok_iff.mp read, carried⟩
    · cases checked
  · intro given
    rcases given with ⟨frame, received, read, carried⟩
    rw [received]
    refine bind_eq_ok_iff.mpr ⟨frame, rfl, ?_⟩
    refine bind_eq_ok_iff.mpr ⟨reply, mapError_eq_ok_iff.mpr read, ?_⟩
    rw [if_pos carried]
    rfl

theorem Exchange.reply_of_other {exchange : Exchange} {reference : UInt16} {frame : Bytes}
    {reply : Reply} (received : exchange.received = .ok frame) (read : Reply.read frame = .ok reply)
    (other : reply.header.reference ≠ reference) :
    exchange.reply reference = .error (.referenceMismatch reference reply.header.reference) := by
  unfold Exchange.reply Reply.checkReference
  rw [received]
  refine bind_eq_error_iff.mpr (Or.inr ⟨frame, rfl, ?_⟩)
  refine bind_eq_error_iff.mpr (Or.inr ⟨reply, mapError_eq_ok_iff.mpr read, ?_⟩)
  rw [if_neg other]
  rfl

/-! ## Malformed frames -/

theorem Fault.IsOfAnswer.hasNoStatus {fault : Fault} (whole : fault.IsOfAnswer) :
    fault.HasNoStatus := by
  cases fault <;> trivial

/-- A batch takes nothing from a malformed answer. -/
theorem ReadBatch.answers_of_malformed {batch : ReadBatch} {reply : Reply}
    (nonempty : batch.items ≠ []) (malformed : reply.Malformed) :
    ∃ fault, batch.answers reply = .error fault ∧ fault.HasNoStatus := by
  cases told : batch.answers reply with
  | error fault => exact ⟨fault, rfl, (isOfAnswer_of_answers told).hasNoStatus⟩
  | ok pairs =>
    obtain ⟨_, _, later⟩ := bind_eq_ok_iff.mp told
    obtain ⟨items, read, _⟩ := bind_eq_ok_iff.mp later
    have tags : batch.tags ≠ [] := mt List.map_eq_nil_iff.mp nonempty
    exact absurd (mapError_eq_ok_iff.mp read) (malformed.unread batch.tags items tags)

/-- A batch takes nothing from a malformed answer. -/
theorem WriteBatch.records_of_malformed {batch : WriteBatch} {reply : Reply}
    (nonempty : batch.items ≠ []) (malformed : reply.Malformed) :
    ∃ fault, (batch.check reply = .error fault ∧ batch.records reply = .error fault) ∧
      fault.HasNoStatus := by
  have unrecorded : ∀ records, batch.records reply ≠ .ok records := by
    intro records recorded
    obtain ⟨_, _, later⟩ := bind_eq_ok_iff.mp recorded
    obtain ⟨statuses, read, _⟩ := bind_eq_ok_iff.mp (mapError_eq_ok_iff.mp later)
    have tags : batch.tags ≠ [] := mt List.map_eq_nil_iff.mp nonempty
    exact malformed.unwritten _ statuses (mt List.length_eq_zero_iff.mp tags) read
  cases batch.agree reply with
  | refused whole strict lenient => exact ⟨_, ⟨strict, lenient⟩, whole.hasNoStatus⟩
  | written lenient _ _ _ => exact absurd lenient (unrecorded _)
  | failed lenient _ _ _ => exact absurd lenient (unrecorded _)

theorem Exchange.reply_eq_error_of_malformed {exchange : Exchange} {reference : UInt16}
    {frame : Bytes} (received : exchange.received = .ok frame) (malformed : Frame.Malformed frame)
    {accept : Reply → Except Fault Unit}
    (refuses : ∀ reply, reply.Malformed →
      ∃ fault, accept reply = .error fault ∧ fault.HasNoStatus) :
    ∃ fault, exchange.reply reference >>= accept = .error fault ∧ fault.HasNoStatus := by
  cases read : Reply.read frame with
  | error cause =>
    refine ⟨.malformed cause, ?_, trivial⟩
    unfold Exchange.reply
    rw [received]
    dsimp only [bind, Except.bind]
    rw [read]
    rfl
  | ok reply =>
    by_cases carried : reply.header.reference = reference
    · have answered : exchange.reply reference = .ok reply :=
        Exchange.reply_eq_ok_iff.mpr ⟨frame, received, read, carried⟩
      rw [answered]
      exact refuses reply (malformed reply read)
    · rw [Exchange.reply_of_other received read carried]
      exact ⟨_, rfl, trivial⟩

namespace Session

/-- A batch goes on after no malformed answer. -/
def Batch.Strict (batch : Batch) : Prop :=
  ∀ reply : Reply, reply.Malformed → ∃ fault, batch.accept reply = .error fault ∧ fault.HasNoStatus

theorem strict_of_readBatches {α : Type} {config : Config}
    {decode : ReadBatch → Reply → Except Fault α} {tags : List Tag} {batches : List Batch}
    (planned : readBatches config decode tags = .ok batches)
    (refuses : ∀ batch reply fault, batch.answers reply = .error fault →
      decode batch reply = .error fault) : ∀ batch ∈ batches, batch.Strict := by
  obtain ⟨plan, made, done⟩ := bind_eq_ok_iff.mp planned
  cases done
  intro batch member reply malformed
  obtain ⟨readBatch, inPlan, rfl⟩ := List.mem_map.mp member
  have sendable := ReadPlan.sendable_of_make made readBatch inPlan
  rcases readBatch.answers_of_malformed sendable.nonempty malformed with ⟨fault, told, without⟩
  exact ⟨fault, map_eq_error_iff.mpr (refuses _ _ _ told), without⟩

theorem strict_of_writeBatches {α : Type} {config : Config}
    {decode : WriteBatch → Reply → Except Fault α} {tags : List Tag} {values : List Value}
    {batches : List Batch} (planned : writeBatches config decode tags values = .ok batches)
    (refuses : ∀ batch reply fault,
      batch.check reply = .error fault ∧ batch.records reply = .error fault →
      decode batch reply = .error fault) : ∀ batch ∈ batches, batch.Strict := by
  obtain ⟨plan, made, done⟩ := bind_eq_ok_iff.mp planned
  cases done
  intro batch member reply malformed
  obtain ⟨writeBatch, inPlan, rfl⟩ := List.mem_map.mp member
  have sendable := WritePlan.sendable_of_make made writeBatch inPlan
  rcases writeBatch.records_of_malformed sendable.nonempty malformed with ⟨fault, told, without⟩
  exact ⟨fault, map_eq_error_iff.mpr (refuses _ _ _ told), without⟩

theorem Call.strict_of_batches {config : Config} {call : Call} {batches : List Batch}
    (planned : call.batches config = .ok batches) : ∀ batch ∈ batches, batch.Strict := by
  have values : ∀ (batch : ReadBatch) (reply : Reply) (fault : Fault),
      batch.answers reply = .error fault → batch.values reply = .error fault :=
    fun batch reply fault told => bind_eq_error_iff.mpr (Or.inl told)
  have records : ∀ (batch : ReadBatch) (reply : Reply) (fault : Fault),
      batch.answers reply = .error fault → batch.records reply = .error fault :=
    fun batch reply fault told => bind_eq_error_iff.mpr (Or.inl told)
  cases call with
  | read tags => exact strict_of_readBatches planned values
  | readRecords tags => exact strict_of_readBatches planned records
  | write tags values => exact strict_of_writeBatches planned fun _ _ _ told => told.1
  | writeRecords tags values => exact strict_of_writeBatches planned fun _ _ _ told => told.2
  | readOne tag => exact strict_of_readBatches planned values
  | writeOne tag value => exact strict_of_writeBatches planned fun _ _ _ told => told.1

/-! ## Faults of an exchange -/

/-- If every batch has to refuse what an exchange comes to, the run ends there. -/
theorem Handles.error_of_refused {P : Fault → Prop} {first : UInt16} {batches : List Batch}
    {exchanges : List Exchange} {result : Except Fault Unit}
    (handles : Handles first batches exchanges result) {i : Nat} {exchange : Exchange}
    (found : exchanges[i]? = some exchange)
    (refused : ∀ batch ∈ batches, ∃ fault,
      exchange.reply (first + UInt16.ofNat i) >>= batch.accept = .error fault ∧ P fault) :
    ∃ fault, result = .error fault ∧ P fault := by
  induction handles generalizing i with
  | done => cases found
  | @stopped first batch batches exchange' fault' _ last =>
    cases i with
    | zero =>
      cases found
      have same : first + UInt16.ofNat 0 = first := UInt16.add_zero first
      rcases refused batch List.mem_cons_self with ⟨fault, failed, holds⟩
      rw [same, last] at failed
      cases failed
      exact ⟨_, rfl, holds⟩
    | succ i => cases found
  | @next first batch batches exchange' exchanges result _ accepted _ ih =>
    cases i with
    | zero =>
      cases found
      have same : first + UInt16.ofNat 0 = first := UInt16.add_zero first
      rcases refused batch List.mem_cons_self with ⟨fault, failed, _⟩
      rw [same, accepted] at failed
      cases failed
    | succ i =>
      rw [add_ofNat_succ] at refused
      exact ih found fun batch later => refused batch (List.mem_cons_of_mem _ later)

theorem Call.Made.error_of_refused {P : Fault → Prop} {config : Config} {call : Call}
    {before i : Nat} {exchanges : List Exchange} {outcome : Except Fault Outcome}
    {exchange : Exchange} (made : call.Made config (referenceAfter before) exchanges outcome)
    (found : exchanges[i]? = some exchange)
    (refused : ∀ batch : Batch, batch.Strict → ∃ fault,
      exchange.reply (referenceAfter (before + i)) >>= batch.accept = .error fault ∧ P fault) :
    ∃ fault, outcome = .error fault ∧ P fault := by
  obtain ⟨follows, _⟩ := made
  cases planned : call.batches config with
  | error cause =>
    rw [planned] at follows
    rw [follows.of_error.1] at found
    cases found
  | ok batches =>
    rw [planned] at follows
    rw [referenceAfter_add] at refused
    rcases follows.of_ok.error_of_refused found fun batch member =>
      refused batch (call.strict_of_batches planned batch member) with ⟨fault, failed, holds⟩
    exact ⟨fault, map_eq_error_iff.mp failed, holds⟩

/-- The fault that an exchange comes to is the fault of the call. -/
theorem Call.Made.error_of_fault {config : Config} {call : Call} {before i : Nat}
    {exchanges : List Exchange} {outcome : Except Fault Outcome} {exchange : Exchange}
    {fault : Fault} (made : call.Made config (referenceAfter before) exchanges outcome)
    (found : exchanges[i]? = some exchange)
    (failed : exchange.reply (referenceAfter (before + i)) = .error fault) :
    outcome = .error fault := by
  have refused : ∀ batch : Batch,
      exchange.reply (referenceAfter (before + i)) >>= batch.accept = .error fault :=
    fun batch => bind_eq_error_iff.mpr (Or.inl failed)
  rcases made.error_of_refused found fun batch _ => ⟨fault, refused batch, rfl⟩ with
    ⟨_, ended, rfl⟩
  exact ended

end Session

end S7Link
