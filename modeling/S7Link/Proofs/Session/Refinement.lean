import S7Link.Proofs.Session.Loop
import S7Link.Proofs.Session.Refusals

/-!
# Calls give what their plans give

A call of a session sends and decodes batch by batch; a plan decodes all answers at once. Both come
to the same (`Session.Refines`): if every exchange of a call was answered, the call gives what its
plan makes of the answers, whatever answers are made up for the batches that the call did not come
to. An exchange that failed is the fault of the call. A call makes an exchange for every batch
unless one fails or its answer cannot be decoded.
-/

namespace S7Link

open Outcome Plan

/-! ## What an exchange comes to -/

namespace Exchange

/-- What was received is an answer that carries the reference of the request. -/
def Answered (exchange : Exchange) (reply : Reply) : Prop :=
  ∃ frame, exchange.received = .ok frame ∧ Reply.read frame = .ok reply ∧
    Frame.reference? exchange.request = some reply.header.reference

/-- No frame was received, or one that holds no answer, or an answer to another request. -/
inductive Failed (exchange : Exchange) : Fault → Prop
  | unanswered {fault : Fault} (none : exchange.received = .error fault) : Failed exchange fault
  | unread {frame : Bytes} {cause : Malformation} (received : exchange.received = .ok frame)
      (malformed : Reply.read frame = .error cause) : Failed exchange (.malformed cause)
  | mismatched {frame : Bytes} {reply : Reply} {reference : UInt16}
      (received : exchange.received = .ok frame) (read : Reply.read frame = .ok reply)
      (carried : Frame.reference? exchange.request = some reference)
      (other : reply.header.reference ≠ reference) :
      Failed exchange (.referenceMismatch reference reply.header.reference)

variable {exchange : Exchange} {reference : UInt16}

theorem answered_iff {reply : Reply}
    (carried : Frame.reference? exchange.request = some reference) :
    exchange.Answered reply ↔ exchange.reply reference = .ok reply := by
  rw [reply_eq_ok_iff, Answered, carried]
  constructor
  · intro given
    rcases given with ⟨frame, received, read, same⟩
    exact ⟨frame, received, read, (Option.some.inj same).symm⟩
  · intro given
    rcases given with ⟨frame, received, read, same⟩
    exact ⟨frame, received, read, congrArg some same.symm⟩

theorem failed_iff {fault : Fault} (carried : Frame.reference? exchange.request = some reference) :
    exchange.Failed fault ↔ exchange.reply reference = .error fault := by
  constructor
  · intro failed
    cases failed with
    | unanswered none => exact bind_eq_error_iff.mpr (Or.inl none)
    | @unread frame cause received malformed =>
      refine bind_eq_error_iff.mpr (Or.inr ⟨frame, received, bind_eq_error_iff.mpr (Or.inl ?_)⟩)
      exact mapError_eq_error_iff.mpr ⟨cause, malformed, rfl⟩
    | mismatched received read sent other =>
      cases sent.symm.trans carried
      exact reply_of_other received read other
  · intro failed
    rcases bind_eq_error_iff.mp failed with none | ⟨frame, received, later⟩
    · exact .unanswered none
    · cases read : Reply.read frame with
      | error cause =>
        rw [read] at later
        cases later
        exact .unread received read
      | ok reply =>
        by_cases same : reply.header.reference = reference
        · cases failed.symm.trans (reply_eq_ok_iff.mpr ⟨frame, received, read, same⟩)
        · cases failed.symm.trans (reply_of_other received read same)
          exact .mismatched received read carried same

/-- An exchange under a reference was answered or has failed. -/
theorem answered_or_failed (carried : Frame.reference? exchange.request = some reference) :
    (∃ reply, exchange.Answered reply) ∨ ∃ fault, exchange.Failed fault := by
  cases came : exchange.reply reference with
  | error fault => exact Or.inr ⟨fault, (failed_iff carried).mpr came⟩
  | ok reply => exact Or.inl ⟨reply, (answered_iff carried).mpr came⟩

end Exchange

namespace Session

/-- The exchanges of a call over batches give the same result as `whole`, which gets all answers at
once. -/
structure Refines {β α γ : Type} (frame : β → UInt16 → Except Fault Bytes)
    (decode : β → Reply → Except Fault α) (whole : List Reply → Except Fault γ) (batches : List β)
    (exchanges : List Exchange) (result : Except Fault γ) : Prop where
  /-- The requests are frames of the batches, in order. -/
  sent : List.Forall₂
    (fun batch exchange => ∃ reference, frame batch reference = .ok exchange.request)
    (batches.take exchanges.length) exchanges
  settled : ∀ exchange ∈ exchanges,
    (∃ reply, exchange.Answered reply) ∨ ∃ fault, exchange.Failed fault
  /-- Answers to the other batches do not matter. -/
  answered : ∀ replies others, List.Forall₂ Exchange.Answered exchanges replies →
    replies.length + others.length = batches.length → result = whole (replies ++ others)
  failed : ∀ exchange ∈ exchanges, ∀ fault, exchange.Failed fault → result = .error fault
  complete : ∀ value, result = .ok value → exchanges.length = batches.length
  /-- A call does not end before its last batch while everything goes well. -/
  reached : ∀ replies, List.Forall₂ Exchange.Answered exchanges replies →
    (∀ pair ∈ batches.zip replies, ∃ part, decode pair.1 pair.2 = .ok part) →
    exchanges.length = batches.length

/-! ## The loop -/

namespace Runs

variable {σ β α : Type} {transport : Transport σ} {procedure : Procedure β α}
  {reference : UInt16} {state last : σ} {batches : List β} {exchanges : List Exchange}
  {results : Except Fault (List α)}

theorem gave (runs : Runs transport procedure reference state batches exchanges results last) :
    transport.Gave state exchanges last := by
  induction runs with
  | done => exact .nil
  | stopped made _ => exact .cons made.gave .nil
  | next made _ _ ih => exact .cons made.gave ih

theorem sent (runs : Runs transport procedure reference state batches exchanges results last) :
    List.Forall₂
      (fun batch exchange => ∃ reference, procedure.frame batch reference = .ok exchange.request)
      (batches.take exchanges.length) exchanges := by
  induction runs with
  | done => exact .nil
  | stopped made _ => exact .cons ⟨_, made.sent⟩ .nil
  | next made _ _ ih => exact .cons ⟨_, made.sent⟩ ih

theorem settled (runs : Runs transport procedure reference state batches exchanges results last) :
    ∀ exchange ∈ exchanges,
      (∃ reply, exchange.Answered reply) ∨ ∃ fault, exchange.Failed fault := by
  induction runs with
  | done => exact List.forall_mem_nil _
  | stopped made _ =>
    exact List.forall_mem_singleton.mpr (Exchange.answered_or_failed made.carried)
  | next made _ _ ih =>
    exact List.forall_mem_cons.mpr ⟨Exchange.answered_or_failed made.carried, ih⟩

/-- The results of a run are what its batches make of the answers. -/
theorem results_eq (runs : Runs transport procedure reference state batches exchanges results last)
    {replies : List Reply} (answered : List.Forall₂ Exchange.Answered exchanges replies)
    (others : List Reply) :
    results = (batches.zip (replies ++ others)).mapM fun (batch, reply) =>
      procedure.decode batch reply := by
  induction runs generalizing replies with
  | done => rfl
  | stopped made failed =>
    rw [List.forall₂_cons_left_iff] at answered
    obtain ⟨reply, _, first, _, rfl⟩ := answered
    rw [(Exchange.answered_iff made.carried).mp first] at failed
    rw [List.cons_append, List.zip_cons_cons, List.mapM_cons]
    exact (bind_eq_error_iff.mpr (Or.inl failed)).symm
  | next made decoded _ ih =>
    rw [List.forall₂_cons_left_iff] at answered
    obtain ⟨reply, later, first, rest, rfl⟩ := answered
    rw [(Exchange.answered_iff made.carried).mp first] at decoded
    have decoded : procedure.decode _ reply = .ok _ := decoded
    rw [List.cons_append, List.zip_cons_cons, List.mapM_cons, ih rest]
    dsimp only
    rw [decoded]
    rfl

theorem failed (runs : Runs transport procedure reference state batches exchanges results last)
    {exchange : Exchange} (member : exchange ∈ exchanges) {fault : Fault}
    (broken : exchange.Failed fault) : results = .error fault := by
  induction runs with
  | done => cases member
  | stopped made failed =>
    cases List.mem_singleton.mp member
    rw [(Exchange.failed_iff made.carried).mp broken] at failed
    have same : Except.error fault = (Except.error _ : Except Fault α) := failed
    cases same
    rfl
  | next made decoded _ ih =>
    rcases List.mem_cons.mp member with rfl | later
    · rw [(Exchange.failed_iff made.carried).mp broken] at decoded
      cases decoded
    · rw [ih later]
      rfl

theorem length_eq_of_ok
    (runs : Runs transport procedure reference state batches exchanges results last)
    {parts : List α} (done : results = .ok parts) : exchanges.length = batches.length := by
  induction runs generalizing parts with
  | done => rfl
  | stopped _ _ => cases done
  | @next _ _ _ _ _ _ _ _ _ results _ _ _ ih =>
    cases results with
    | error fault => cases done
    | ok others => exact congrArg (· + 1) (ih rfl)

theorem reached (runs : Runs transport procedure reference state batches exchanges results last)
    {replies : List Reply} (answered : List.Forall₂ Exchange.Answered exchanges replies)
    (decodes : ∀ pair ∈ batches.zip replies, ∃ part, procedure.decode pair.1 pair.2 = .ok part) :
    exchanges.length = batches.length := by
  rcases exists_mapM_eq_ok_of_forall decodes with ⟨parts, all⟩
  have done := runs.results_eq answered []
  rw [List.append_nil] at done
  exact runs.length_eq_of_ok (done.trans all)

/-- A run comes to what is made of all answers at once. -/
theorem refines {γ : Type}
    (runs : Runs transport procedure reference state batches exchanges results last)
    (finish : List α → γ) :
    Refines procedure.frame procedure.decode
      (fun replies => do
        checkAnswerCount batches.length replies.length
        let parts ← (batches.zip replies).mapM fun (batch, reply) => procedure.decode batch reply
        return finish parts)
      batches exchanges (results.map finish) where
  sent := runs.sent
  settled := runs.settled
  answered := by
    intro replies others answered complete
    have counted : checkAnswerCount batches.length (replies ++ others).length = .ok () :=
      checkAnswerCount_eq_ok_iff.mpr (complete.symm.trans List.length_append.symm)
    rw [counted, runs.results_eq answered others, map_eq_bind]
    rfl
  failed := by
    intro exchange member fault broken
    rw [runs.failed member broken]
    rfl
  complete := by
    intro value done
    cases given : results with
    | error fault =>
      rw [given] at done
      cases done
    | ok _ => exact runs.length_eq_of_ok given
  reached := fun _ => runs.reached

end Runs

/-! ## The calls -/

/-- A call over the batches of a plan goes as the plan says: without a plan it ends where it is, and
with one its exchanges come to what the plan makes of the answers. The configuration stays. -/
inductive AsPlanned {σ π β α γ : Type} (transport : Transport σ) (session : Session σ)
    (planned : Except Fault π) (batches : π → List β) (frame : β → UInt16 → Except Fault Bytes)
    (decode : β → Reply → Except Fault α) (whole : π → List Reply → Except Fault γ) :
    Except Fault γ × Session σ → Prop
  | unplanned {fault : Fault} (unmade : planned = .error fault) :
      AsPlanned transport session planned batches frame decode whole (.error fault, session)
  | handled {plan : π} {exchanges : List Exchange} {result : Except Fault γ} {after : Session σ}
      (made : planned = .ok plan) (config : after.config = session.config)
      (gave : transport.Gave session.peer exchanges after.peer)
      (refines : Refines frame decode (whole plan) (batches plan) exchanges result) :
      AsPlanned transport session planned batches frame decode whole (result, after)

namespace AsPlanned

variable {σ π β α γ : Type} {transport : Transport σ} {session : Session σ}
  {planned : Except Fault π} {batches : π → List β} {frame : β → UInt16 → Except Fault Bytes}
  {decode : β → Reply → Except Fault α} {whole : π → List Reply → Except Fault γ}
  {outcome : Except Fault γ × Session σ}

/-- A call with a plan makes exchanges. -/
theorem exists_exchanges
    (call : AsPlanned transport session planned batches frame decode whole outcome) {plan : π}
    (made : planned = .ok plan) :
    outcome.2.config = session.config ∧
      ∃ exchanges, transport.Gave session.peer exchanges outcome.2.peer ∧
        Refines frame decode (whole plan) (batches plan) exchanges outcome.1 := by
  cases call with
  | unplanned unmade => cases made.symm.trans unmade
  | handled made' config gave refines =>
    cases made.symm.trans made'
    exact ⟨config, _, gave, refines⟩

/-- A call that succeeds has a plan. -/
theorem exists_plan
    (call : AsPlanned transport session planned batches frame decode whole outcome) {value : γ}
    (done : outcome.1 = .ok value) : ∃ plan, planned = .ok plan := by
  cases call with
  | unplanned _ => cases done
  | handled made _ _ _ => exact ⟨_, made⟩

end AsPlanned

section

variable {σ α : Type} (transport : Transport σ) (session : Session σ)

theorem readWith_asPlanned (lenient : Bool)
    (decode : ReadBatch → Reply → Except Fault (List (Indexed α)))
    (events : List (Indexed α) → List Event) (tags : List Tag) :
    AsPlanned transport session
      (ReadPlan.make tags session.config.limits session.config.optimize) ReadPlan.batches
      (ReadBatch.frame session.config.pduSize) decode
      (fun plan replies => do
        checkAnswerCount plan.batches.length replies.length
        let parts ← (plan.batches.zip replies).mapM fun (batch, reply) => decode batch reply
        return Indexed.inOrder parts.flatten)
      (session.readWith transport lenient decode events tags) := by
  unfold readWith
  dsimp only
  cases made : ReadPlan.make tags session.config.limits session.config.optimize with
  | error fault => exact .unplanned rfl
  | ok plan =>
    have framed := fun batch member => (ReadPlan.sendable_of_make made batch member).exists_frame
    dsimp only
    generalize Event.reading lenient tags.length plan.items.length plan.batches.length
      session.config.optimize = planned
    rcases exists_runs transport ⟨ReadBatch.frame session.config.pduSize, decode, events⟩
      (session.record [planned]) framed with ⟨exchanges, runs, config⟩
    exact .handled rfl config runs.gave (runs.refines fun parts => Indexed.inOrder parts.flatten)

theorem writeWith_asPlanned {γ : Type} (lenient : Bool)
    (decode : WriteBatch → Reply → Except Fault α) (events : α → List Event) (finish : List α → γ)
    (tags : List Tag) (values : List Value) :
    AsPlanned transport session (WritePlan.make tags values session.config.limits)
      WritePlan.batches (WriteBatch.frame session.config.pduSize) decode
      (fun plan replies => do
        checkAnswerCount plan.batches.length replies.length
        let parts ← (plan.batches.zip replies).mapM fun (batch, reply) => decode batch reply
        return finish parts)
      ((session.writeWith transport lenient decode events tags values).1.map finish,
        (session.writeWith transport lenient decode events tags values).2) := by
  unfold writeWith
  dsimp only
  cases made : WritePlan.make tags values session.config.limits with
  | error fault => exact .unplanned rfl
  | ok plan =>
    have framed := fun batch member => (WritePlan.sendable_of_make made batch member).exists_frame
    dsimp only
    generalize Event.writing lenient tags.length plan.batches.length = planned
    rcases exists_runs transport ⟨WriteBatch.frame session.config.pduSize, decode, events⟩
      (session.record [planned]) framed with ⟨exchanges, runs, config⟩
    exact .handled rfl config runs.gave (runs.refines finish)

/-- The check of a plan goes through all answers as the checks of its batches do. -/
theorem check_eq_bind (plan : WritePlan) :
    plan.check = fun replies => do
      checkAnswerCount plan.batches.length replies.length
      let _ ← (plan.batches.zip replies).mapM fun (batch, reply) => batch.check reply
      return () := by
  funext replies
  rw [WritePlan.check, forM_eq_map_mapM, map_eq_bind]
  rfl

theorem read_asPlanned (tags : List Tag) :
    AsPlanned transport session
      (ReadPlan.make tags session.config.limits session.config.optimize) ReadPlan.batches
      (ReadBatch.frame session.config.pduSize) ReadBatch.values ReadPlan.values
      (session.read transport tags) :=
  readWith_asPlanned transport session false ReadBatch.values (fun _ => []) tags

theorem write_asPlanned (tags : List Tag) (values : List Value) :
    AsPlanned transport session (WritePlan.make tags values session.config.limits)
      WritePlan.batches (WriteBatch.frame session.config.pduSize) WriteBatch.check WritePlan.check
      (session.write transport tags values) := by
  rw [funext check_eq_bind]
  exact writeWith_asPlanned transport session false WriteBatch.check (fun _ => [])
    (fun _ => ()) tags values

/-- Each of the four calls comes to what its plan makes of the answers. -/
theorem calls_asPlanned :
    (∀ tags, AsPlanned transport session
        (ReadPlan.make tags session.config.limits session.config.optimize) ReadPlan.batches
        (ReadBatch.frame session.config.pduSize) ReadBatch.values ReadPlan.values
        (session.read transport tags)) ∧
      (∀ tags, AsPlanned transport session
        (ReadPlan.make tags session.config.limits session.config.optimize) ReadPlan.batches
        (ReadBatch.frame session.config.pduSize) ReadBatch.records ReadPlan.records
        (session.readRecords transport tags)) ∧
      (∀ tags values, AsPlanned transport session
        (WritePlan.make tags values session.config.limits) WritePlan.batches
        (WriteBatch.frame session.config.pduSize) WriteBatch.check WritePlan.check
        (session.write transport tags values)) ∧
      ∀ tags values, AsPlanned transport session
        (WritePlan.make tags values session.config.limits) WritePlan.batches
        (WriteBatch.frame session.config.pduSize) WriteBatch.records WritePlan.records
        (session.writeRecords transport tags values) := by
  refine ⟨read_asPlanned transport session, fun tags => ?_, write_asPlanned transport session,
    fun tags values => ?_⟩
  · exact readWith_asPlanned transport session true ReadBatch.records _ tags
  · exact writeWith_asPlanned transport session true WriteBatch.records _ List.flatten tags values

end

end Session

end S7Link
