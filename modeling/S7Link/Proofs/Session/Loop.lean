import S7Link.Proofs.Session.Runs

/-!
# The loop of a session

`Session.Runs` is what a session does with the batches of a call, with what its transport gives:
one exchange under the next reference for each batch, whose result is what the batch makes of the
answer, up to the first that fails. Its constructors are the ways in which the loop goes on, so what
is claimed of a run is shown by induction on `Session.Runs`, without a look at the code of the loop
(`Session.exists_runs`).
-/

namespace S7Link

open Outcome

variable {σ : Type}

/-- A transport gave what was received in exchanges, one after another. -/
inductive Transport.Gave (transport : Transport σ) : σ → List Exchange → σ → Prop
  | nil {state : σ} : Gave transport state [] state
  | cons {state next last : σ} {exchange : Exchange} {exchanges : List Exchange}
      (first : transport state exchange.request = (exchange.received, next))
      (rest : Gave transport next exchanges last) :
      Gave transport state (exchange :: exchanges) last

/-- A frame was sent, and with it the reference that it was made under; the transport gave what was
received. -/
structure Exchange.Made (transport : Transport σ) (reference : UInt16)
    (frame : Except Fault Bytes) (state : σ) (exchange : Exchange) (next : σ) : Prop where
  sent : frame = .ok exchange.request
  carried : Frame.reference? exchange.request = some reference
  gave : transport state exchange.request = (exchange.received, next)

namespace Session

variable {β α : Type}

/-- Exchanges take a transport from one state to another and give batches, in order under successive
references, their results, up to the first that fails. -/
inductive Runs (transport : Transport σ) (procedure : Procedure β α) :
    UInt16 → σ → List β → List Exchange → Except Fault (List α) → σ → Prop
  | done {reference : UInt16} {state : σ} :
      Runs transport procedure reference state [] [] (.ok []) state
  | stopped {reference : UInt16} {state next : σ} {batch : β} {batches : List β}
      {exchange : Exchange} {fault : Fault}
      (made : exchange.Made transport reference (procedure.frame batch reference) state next)
      (failed : exchange.reply reference >>= procedure.decode batch = .error fault) :
      Runs transport procedure reference state (batch :: batches) [exchange] (.error fault) next
  | next {reference : UInt16} {state next last : σ} {batch : β} {batches : List β}
      {exchange : Exchange} {exchanges : List Exchange} {result : α}
      {results : Except Fault (List α)}
      (made : exchange.Made transport reference (procedure.frame batch reference) state next)
      (decoded : exchange.reply reference >>= procedure.decode batch = .ok result)
      (rest : Runs transport procedure (reference + 1) next batches exchanges results last) :
      Runs transport procedure reference state (batch :: batches) (exchange :: exchanges)
        (results.map (result :: ·)) last

section

variable (transport : Transport σ) (procedure : Procedure β α) (session : Session σ)

theorem exchange_eq (reference : UInt16) (frame : Bytes) :
    session.exchange transport reference frame =
      let exchange : Exchange := ⟨frame, (transport session.peer frame).1⟩
      (exchange.reply reference,
        { session.record [.sending reference frame] with
          peer := (transport session.peer frame).2 }) := rfl

/-- One batch takes one exchange, and its result is made of the answer. -/
theorem exists_made_of_runBatch {batch : β} (framed : (procedure.batch batch).Framed) :
    ∃ exchange : Exchange,
      exchange.Made transport session.nextReference (procedure.frame batch session.nextReference)
        session.peer (session.runBatch transport procedure batch).2.peer ∧
      (session.runBatch transport procedure batch).1 =
        exchange.reply session.nextReference >>= procedure.decode batch ∧
      (session.runBatch transport procedure batch).2.config = session.config ∧
      (session.runBatch transport procedure batch).2.nextReference = session.nextReference + 1 := by
  rcases framed session.nextReference with ⟨frame, made, carried⟩
  have made : procedure.frame batch session.nextReference = .ok frame := made
  refine ⟨⟨frame, (transport session.peer frame).1⟩, ?_⟩
  unfold runBatch
  dsimp only
  rw [made]
  dsimp only
  rw [exchange_eq]
  dsimp only
  cases Exchange.reply session.nextReference ⟨frame, (transport session.peer frame).1⟩ with
  | error fault => exact ⟨⟨rfl, carried, rfl⟩, rfl, rfl, rfl⟩
  | ok reply =>
    dsimp only
    cases decoded : procedure.decode batch reply with
    | error fault => exact ⟨⟨rfl, carried, rfl⟩, decoded.symm, rfl, rfl⟩
    | ok result => exact ⟨⟨rfl, carried, rfl⟩, decoded.symm, rfl, rfl⟩

/-- A run over batches that have frames is the loop over them. -/
theorem exists_runs {batches : List β}
    (framed : ∀ batch ∈ batches, (procedure.batch batch).Framed) :
    ∃ exchanges,
      Runs transport procedure session.nextReference session.peer batches exchanges
        (session.run transport procedure batches).1
        (session.run transport procedure batches).2.peer ∧
      (session.run transport procedure batches).2.config = session.config := by
  -- Each batch leaves a session of its own, so the rest is claimed of every session.
  induction batches generalizing session with
  | nil => exact ⟨[], .done, rfl⟩
  | cons batch batches ih =>
    rw [List.forall_mem_cons] at framed
    rcases exists_made_of_runBatch transport procedure session framed.1 with
      ⟨exchange, made, result, config, reference⟩
    unfold run
    generalize session.runBatch transport procedure batch = handled
      at made result config reference
    obtain ⟨outcome, later⟩ := handled
    dsimp only at made result config reference ⊢
    cases outcome with
    | error fault => exact ⟨[exchange], .stopped made result.symm, config⟩
    | ok value =>
      rcases ih later framed.2 with ⟨exchanges, runs, config'⟩
      rw [reference] at runs
      exact ⟨exchange :: exchanges, .next made result.symm runs, config'.trans config⟩

end

end Session

end S7Link
