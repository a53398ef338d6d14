import S7Link.Proofs.Session.Calls

/-!
# What a session has sent

Over a whole run, whatever the transport does and whether or not calls succeed, the requests carry
the references 1, 2, 3 and so on, and 0 after 65535. The requests of one call are the first of the
frames of its plan: all of them if the call succeeds, and else those up to the one that failed. A
call without plan, or without tags, sends nothing (`Session.performAll_accounted`).
-/

namespace S7Link

open Outcome Plan

namespace Session

/-- What a call has sent, compared to the frames of its plan. -/
inductive Call.Accounted (config : Config) (first : UInt16) (call : Call) :
    List Exchange → Except Fault Outcome → Prop
  /-- Without a plan the call sends nothing and ends with the fault of planning. -/
  | unplanned {fault : Fault} (planned : call.batches config = .error fault) :
      Accounted config first call [] (.error fault)
  /-- The call has sent the frame of every batch in order, and every answer was accepted. -/
  | succeeded {batches : List Batch} {exchanges : List Exchange} {result : Outcome}
      (planned : call.batches config = .ok batches)
      (framed : call.frames config first = .ok (exchanges.map (·.request)))
      (complete : exchanges.length = batches.length)
      (accepted : verdicts first batches exchanges = List.replicate exchanges.length (.ok ())) :
      Accounted config first call exchanges (.ok result)
  /-- The call has sent the first of the frames, up to the one whose answer was not accepted. -/
  | failed {batches : List Batch} {frames : List Bytes} {exchanges : List Exchange} {n : Nat}
      {fault : Fault} (planned : call.batches config = .ok batches)
      (framed : call.frames config first = .ok frames) (complete : frames.length = batches.length)
      (begun : exchanges.map (·.request) <+: frames) (count : exchanges.length = n + 1)
      (last : verdicts first batches exchanges = List.replicate n (.ok ()) ++ [.error fault]) :
      Accounted config first call exchanges (.error fault)

/-! ## The frames of a call -/

theorem framesFrom_map {β : Type} (batch : β → Batch) (first : UInt16) (batches : List β) :
    framesFrom Batch.frame first (batches.map batch) =
      framesFrom (fun b => (batch b).frame) first batches := by
  induction batches generalizing first with
  | nil => rfl
  | cons b batches ih =>
    rw [List.map_cons, framesFrom, framesFrom, ih]

theorem readFrames_eq {α : Type} (config : Config)
    (decode : ReadBatch → Reply → Except Fault α) (first : UInt16) (tags : List Tag) :
    readFrames config first tags =
      readBatches config decode tags >>= framesFrom Batch.frame first := by
  unfold readFrames readBatches
  cases ReadPlan.make tags config.limits config.optimize with
  | error fault => rfl
  | ok plan => exact (framesFrom_map (Batch.ofRead config decode) first plan.batches).symm

theorem writeFrames_eq {α : Type} (config : Config)
    (decode : WriteBatch → Reply → Except Fault α) (first : UInt16) (tags : List Tag)
    (values : List Value) :
    writeFrames config first tags values =
      writeBatches config decode tags values >>= framesFrom Batch.frame first := by
  unfold writeFrames writeBatches
  cases WritePlan.make tags values config.limits with
  | error fault => rfl
  | ok plan => exact (framesFrom_map (Batch.ofWrite config decode) first plan.batches).symm

/-- The frames of a call are those of its batches. -/
theorem Call.frames_eq (config : Config) (first : UInt16) (call : Call) :
    call.frames config first = call.batches config >>= framesFrom Batch.frame first := by
  cases call with
  | read tags => exact readFrames_eq config ReadBatch.values first tags
  | readRecords tags => exact readFrames_eq config ReadBatch.records first tags
  | write tags values => exact writeFrames_eq config WriteBatch.check first tags values
  | writeRecords tags values => exact writeFrames_eq config WriteBatch.records first tags values
  | readOne tag => exact readFrames_eq config ReadBatch.values first [tag]
  | writeOne tag value => exact writeFrames_eq config WriteBatch.check first [tag] [value]

/-! ## Calls without tags -/

theorem readBatches_nil {α : Type} (config : Config) (decode : ReadBatch → Reply → Except Fault α) :
    readBatches config decode [] = .ok [] := by
  have sorted : byPlace (Indexed.all []) = [] := List.mergeSort_nil
  have made : ReadPlan.make [] config.limits config.optimize = .ok ⟨[]⟩ := by
    unfold ReadPlan.make ReadPlan.itemsOf
    rw [sorted]
    cases config.optimize <;> rfl
  unfold readBatches
  rw [made]
  rfl

theorem writeBatches_nil {α : Type} (config : Config)
    (decode : WriteBatch → Reply → Except Fault α) (values : List Value) {batches : List Batch}
    (planned : writeBatches config decode [] values = .ok batches) : batches = [] := by
  cases values with
  | nil =>
    cases planned
    rfl
  | cons value values => cases planned

theorem Call.batches_of_untagged {config : Config} {call : Call} (untagged : call.tags = [])
    {batches : List Batch} (planned : call.batches config = .ok batches) : batches = [] := by
  cases call with
  | read tags =>
    cases untagged
    cases (readBatches_nil config ReadBatch.values).symm.trans planned
    rfl
  | readRecords tags =>
    cases untagged
    cases (readBatches_nil config ReadBatch.records).symm.trans planned
    rfl
  | write tags values =>
    cases untagged
    exact writeBatches_nil config WriteBatch.check values planned
  | writeRecords tags values =>
    cases untagged
    exact writeBatches_nil config WriteBatch.records values planned
  | readOne tag => cases untagged
  | writeOne tag value => cases untagged

/-! ## Accounts -/

section

variable {config : Config} {first : UInt16} {call : Call} {exchanges : List Exchange}
  {outcome : Except Fault Outcome}

theorem Call.Made.accounted (made : call.Made config first exchanges outcome) :
    call.Accounted config first exchanges outcome := by
  obtain ⟨follows, _⟩ := made
  cases planned : call.batches config with
  | error cause =>
    rw [planned] at follows
    obtain ⟨rfl, failed⟩ := follows.of_error
    cases outcome with
    | ok result => cases failed
    | error fault =>
      cases failed
      exact .unplanned planned
  | ok batches =>
    rw [planned] at follows
    have handles := follows.of_ok
    rcases exists_framesFrom (call.framed_of_batches planned) first with ⟨frames, framed, complete⟩
    obtain ⟨begun, all⟩ := handles.requests_prefix framed
    have framed : call.frames config first = .ok frames := by
      rw [Call.frames_eq, planned]
      exact framed
    cases outcome with
    | ok result =>
      rw [← all rfl] at framed
      exact .succeeded planned framed (handles.length_eq_of_ok rfl) (handles.verdicts_of_ok rfl)
    | error fault =>
      rcases handles.verdicts_of_error rfl with ⟨n, count, last⟩
      exact .failed planned framed complete begun count last

theorem Call.Made.eq_nil_of_untagged (made : call.Made config first exchanges outcome)
    (untagged : call.tags = []) : exchanges = [] := by
  obtain ⟨follows, _⟩ := made
  cases planned : call.batches config with
  | error cause =>
    rw [planned] at follows
    exact follows.of_error.1
  | ok batches =>
    rw [planned] at follows
    cases Call.batches_of_untagged untagged planned
    exact follows.of_ok.eq_nil

end

/-- Over any run of a session, the requests carry the references from 1 on, and 0 after 65535; the
next reference is that of the request after the last. Every call accounts for its part of the
requests, and a call without tags has none. -/
theorem performAll_accounted {σ : Type} (config : Config) (transport : Transport σ) (peer : σ)
    (calls : List Call) :
    (∀ k exchange, (exchangesOf config transport peer calls)[k]? = some exchange →
        (Frame.reference? exchange.request).map UInt16.toNat = some ((k + 1) % 65536)) ∧
      ((start config (peer, [])).performAll transport.traced calls).2.nextReference =
        referenceAfter (exchangesOf config transport peer calls).length ∧
      Each (fun before call exchanges outcome =>
          call.Accounted config (referenceAfter before) exchanges outcome ∧
            (call.tags = [] → exchanges = []))
        0 calls (exchangesOf config transport peer calls)
        ((start config (peer, [])).performAll transport.traced calls).1 := by
  obtain ⟨numbered, next, each⟩ := made_of_exchangesOf config transport peer calls
  refine ⟨?_, next, each.imp List.drop_zero ?_⟩
  · intro k exchange found
    have carried := numbered k exchange found
    rw [← referenceAfter_add, Nat.zero_add] at carried
    rw [carried]
    exact congrArg some (toNat_referenceAfter k)
  · intro before call exchanges outcome _ made
    exact ⟨made.accounted, made.eq_nil_of_untagged⟩

end Session

end S7Link
