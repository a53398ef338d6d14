import S7Link.Proofs.Outcome
import S7Link.Proofs.Session.References
import S7Link.Session.Call
import S7Link.Session.Transport

/-!
# One run over batches

A session handles batches in order, one exchange each, up to the first that fails
(`Session.Handles`). A traced transport shows the exchanges: the requests are the frames of the
batches under successive references, and the results are made of the answers and of nothing else
(`Session.exists_exchanges_of_run`).
-/

namespace S7Link

open Outcome

/-- What an exchange comes to: what was received, if it is an answer and carries the reference. -/
def Exchange.reply (reference : UInt16) (exchange : Exchange) : Except Fault Reply := do
  let reply ← (Reply.read (← exchange.received)).mapError .malformed
  reply.checkReference reference
  return reply

namespace Session

/-- What exchanges under successive references come to. -/
def replies : UInt16 → List Exchange → List (Except Fault Reply)
  | _, [] => []
  | reference, exchange :: exchanges =>
    exchange.reply reference :: replies (reference + 1) exchanges

/-- A batch as a session sees it: its frame under a reference, and whether the session goes on after
an answer. -/
structure Batch where
  frame : UInt16 → Except Fault Bytes
  accept : Reply → Except Fault Unit

/-- The batch has a frame under every reference, and the frame carries the reference. -/
def Batch.Framed (batch : Batch) : Prop :=
  ∀ reference, ∃ frame, batch.frame reference = .ok frame ∧
    Frame.reference? frame = some reference

/-- A batch that is handled in a certain way. -/
def Procedure.batch {β α : Type} (procedure : Procedure β α) (batch : β) : Batch where
  frame := procedure.frame batch
  accept reply := (procedure.decode batch reply).map fun _ => ()

theorem Procedure.bind_accept {β α : Type} (procedure : Procedure β α) (batch : β)
    (answered : Except Fault Reply) :
    answered >>= (procedure.batch batch).accept =
      (answered >>= procedure.decode batch).map fun _ => () := by
  cases answered <;> rfl

/-- Exchanges handle batches in order under successive references, up to the first that fails. -/
inductive Handles : UInt16 → List Batch → List Exchange → Except Fault Unit → Prop
  | done {reference : UInt16} : Handles reference [] [] (.ok ())
  | stopped {reference : UInt16} {batch : Batch} {batches : List Batch} {exchange : Exchange}
      {fault : Fault} (sent : batch.frame reference = .ok exchange.request)
      (failed : exchange.reply reference >>= batch.accept = .error fault) :
      Handles reference (batch :: batches) [exchange] (.error fault)
  | next {reference : UInt16} {batch : Batch} {batches : List Batch} {exchange : Exchange}
      {exchanges : List Exchange} {result : Except Fault Unit}
      (sent : batch.frame reference = .ok exchange.request)
      (accepted : exchange.reply reference >>= batch.accept = .ok ())
      (rest : Handles (reference + 1) batches exchanges result) :
      Handles reference (batch :: batches) (exchange :: exchanges) result

/-- A session has made exchanges and nothing else that matters to the next. -/
structure Advanced {σ : Type} (before : Session (σ × List Exchange)) (exchanges : List Exchange)
    (after : Session (σ × List Exchange)) : Prop where
  config : after.config = before.config
  trace : after.peer.2 = exchanges.reverse ++ before.peer.2
  reference : after.nextReference = before.nextReference + UInt16.ofNat exchanges.length

section

variable {σ : Type} {first second third : Session (σ × List Exchange)}
  {exchanges others : List Exchange}

theorem Advanced.of_record (session : Session (σ × List Exchange)) (events : List Event) :
    Advanced session [] (session.record events) where
  config := rfl
  trace := rfl
  reference := (UInt16.add_zero _).symm

theorem Advanced.trans (one : Advanced first exchanges second)
    (two : Advanced second others third) : Advanced first (exchanges ++ others) third where
  config := two.config.trans one.config
  trace := by rw [two.trace, one.trace, List.reverse_append, List.append_assoc]
  reference := by
    rw [two.reference, one.reference, List.length_append, UInt16.ofNat_add, UInt16.add_assoc]

end

section

variable {σ β α : Type} (transport : Transport σ) (procedure : Procedure β α)
  (session : Session (σ × List Exchange))

theorem exchange_traced (reference : UInt16) (frame : Bytes) :
    session.exchange transport.traced reference frame =
      let exchange : Exchange := ⟨frame, (transport session.peer.1 frame).1⟩
      let peer := (transport session.peer.1 frame).2
      (exchange.reply reference,
        { session.record [.sending reference frame] with
          peer := (peer, exchange :: session.peer.2) }) := rfl

/-- One batch takes one exchange, and its result is made of the answer. -/
theorem exists_exchange_of_runBatch {batch : β} {frame : Bytes}
    (made : procedure.frame batch session.nextReference = .ok frame) :
    ∃ exchange : Exchange, exchange.request = frame ∧
      Advanced session [exchange] (session.runBatch transport.traced procedure batch).2 ∧
      (session.runBatch transport.traced procedure batch).1 =
        exchange.reply session.nextReference >>= procedure.decode batch := by
  refine ⟨⟨frame, (transport session.peer.1 frame).1⟩, rfl, ?_⟩
  unfold runBatch
  dsimp only
  rw [made]
  dsimp only
  rw [exchange_traced]
  dsimp only
  cases Exchange.reply session.nextReference ⟨frame, (transport session.peer.1 frame).1⟩ with
  | error fault => exact ⟨⟨rfl, rfl, rfl⟩, rfl⟩
  | ok reply =>
    dsimp only
    cases decoded : procedure.decode batch reply with
    | error fault => exact ⟨⟨rfl, rfl, rfl⟩, decoded.symm⟩
    | ok result => exact ⟨⟨rfl, rfl, rfl⟩, decoded.symm⟩

/-- A run makes exchanges that handle its batches, and its results are made of the answers. -/
theorem exists_exchanges_of_run {batches : List β}
    (framed : ∀ batch ∈ batches, (procedure.batch batch).Framed) :
    ∃ exchanges, Advanced session exchanges (session.run transport.traced procedure batches).2 ∧
      Handles session.nextReference (batches.map procedure.batch) exchanges
        ((session.run transport.traced procedure batches).1.map fun _ => ()) ∧
      (session.run transport.traced procedure batches).1 =
        (batches.zip (replies session.nextReference exchanges)).mapM fun (batch, reply) =>
          reply >>= procedure.decode batch := by
  -- Each batch leaves a session of its own, so the rest is claimed of every session.
  induction batches generalizing session with
  | nil => exact ⟨[], ⟨rfl, rfl, (UInt16.add_zero _).symm⟩, .done, rfl⟩
  | cons batch batches ih =>
    rw [List.forall_mem_cons] at framed
    rcases framed.1 session.nextReference with ⟨frame, made, _⟩
    rcases exists_exchange_of_runBatch transport procedure session made with
      ⟨exchange, rfl, advanced, result⟩
    unfold run
    generalize session.runBatch transport.traced procedure batch = handled at advanced result
    obtain ⟨outcome, later⟩ := handled
    dsimp only at advanced result ⊢
    have accepted := procedure.bind_accept batch (exchange.reply session.nextReference)
    rw [← result] at accepted
    cases outcome with
    | error fault =>
      refine ⟨[exchange], advanced, .stopped made accepted, ?_⟩
      rw [replies, replies, List.zip_cons_cons, List.mapM_cons, ← result]
      rfl
    | ok value =>
      rcases ih later framed.2 with ⟨exchanges, others, handles, results⟩
      have reference : later.nextReference = session.nextReference + 1 := advanced.reference
      rw [reference] at handles results
      refine ⟨exchange :: exchanges, advanced.trans others, .next made accepted ?_, ?_⟩
      · dsimp only
        rwa [map_map]
      · rw [replies, List.zip_cons_cons, List.mapM_cons, ← result, ← results]
        rfl

end

/-! ## What the exchanges of a run are -/

/-- The requests carry successive references. -/
def Numbered (first : UInt16) (exchanges : List Exchange) : Prop :=
  ∀ (k : Nat) (exchange : Exchange), exchanges[k]? = some exchange →
    Frame.reference? exchange.request = some (first + UInt16.ofNat k)

/-- Whether the session went on, exchange by exchange. -/
def verdicts (first : UInt16) (batches : List Batch) (exchanges : List Exchange) :
    List (Except Fault Unit) :=
  (batches.zip (replies first exchanges)).map fun (batch, reply) => reply >>= batch.accept

section

variable {first : UInt16} {batches : List Batch} {exchanges others : List Exchange}
  {result : Except Fault Unit}

theorem verdicts_cons (first : UInt16) (batch : Batch) (batches : List Batch)
    (exchange : Exchange) (exchanges : List Exchange) :
    verdicts first (batch :: batches) (exchange :: exchanges) =
      (exchange.reply first >>= batch.accept) :: verdicts (first + 1) batches exchanges := rfl

theorem verdicts_nil (first : UInt16) (batches : List Batch) : verdicts first batches [] = [] := by
  rw [verdicts, replies, List.zip_nil_right, List.map_nil]

theorem add_ofNat_succ (first : UInt16) (k : Nat) :
    first + UInt16.ofNat (k + 1) = first + 1 + UInt16.ofNat k := by
  rw [Nat.add_comm, UInt16.ofNat_add, UInt16.add_assoc]
  rfl

theorem numbered_nil (first : UInt16) : Numbered first [] := by
  intro k exchange found
  cases found

theorem Numbered.cons {exchange : Exchange}
    (carried : Frame.reference? exchange.request = some first)
    (others : Numbered (first + 1) exchanges) : Numbered first (exchange :: exchanges) := by
  intro k other found
  cases k with
  | zero =>
    cases found
    rw [carried]
    exact congrArg some (UInt16.add_zero first).symm
  | succ k =>
    rw [add_ofNat_succ]
    exact others k other found

theorem Numbered.append (numbered : Numbered first exchanges)
    (later : Numbered (first + UInt16.ofNat exchanges.length) others) :
    Numbered first (exchanges ++ others) := by
  intro k exchange found
  by_cases inFirst : k < exchanges.length
  · rw [List.getElem?_append_left inFirst] at found
    exact numbered k exchange found
  · rw [List.getElem?_append_right (Nat.le_of_not_lt inFirst)] at found
    have carried := later (k - exchanges.length) exchange found
    rw [UInt16.add_assoc, ← UInt16.ofNat_add, Nat.add_sub_cancel' (Nat.le_of_not_lt inFirst)]
      at carried
    exact carried

namespace Handles

theorem eq_nil (handles : Handles first [] exchanges result) : exchanges = [] := by
  cases handles
  rfl

theorem numbered (handles : Handles first batches exchanges result)
    (framed : ∀ batch ∈ batches, batch.Framed) : Numbered first exchanges := by
  induction handles with
  | done => exact numbered_nil _
  | stopped sent _ =>
    rcases framed _ List.mem_cons_self _ with ⟨frame, made, carried⟩
    cases sent.symm.trans made
    exact .cons carried (numbered_nil _)
  | next sent _ _ ih =>
    rcases framed _ List.mem_cons_self _ with ⟨frame, made, carried⟩
    cases sent.symm.trans made
    exact .cons carried (ih fun batch later => framed batch (List.mem_cons_of_mem _ later))

/-- The requests are the first of the frames of the batches, and all of them after a success. -/
theorem requests_prefix (handles : Handles first batches exchanges result) {frames : List Bytes}
    (planned : framesFrom Batch.frame first batches = .ok frames) :
    exchanges.map (·.request) <+: frames ∧
      (result = .ok () → exchanges.map (·.request) = frames) := by
  induction handles generalizing frames with
  | done =>
    cases planned
    exact ⟨List.nil_prefix, fun _ => rfl⟩
  | stopped sent _ =>
    obtain ⟨frame, made, later⟩ := bind_eq_ok_iff.mp planned
    obtain ⟨others, _, done⟩ := bind_eq_ok_iff.mp later
    cases done
    cases sent.symm.trans made
    exact ⟨List.prefix_append [_] others, fun h => by cases h⟩
  | next sent _ _ ih =>
    obtain ⟨frame, made, later⟩ := bind_eq_ok_iff.mp planned
    obtain ⟨others, rest, done⟩ := bind_eq_ok_iff.mp later
    cases done
    cases sent.symm.trans made
    obtain ⟨begins, ends⟩ := ih rest
    exact ⟨(List.prefix_cons_inj _).mpr begins, fun done => congrArg (_ :: ·) (ends done)⟩

/-- After a success every exchange was accepted. -/
theorem verdicts_of_ok (handles : Handles first batches exchanges result) (done : result = .ok ()) :
    verdicts first batches exchanges = List.replicate exchanges.length (.ok ()) := by
  induction handles with
  | done => rfl
  | stopped _ _ => cases done
  | next _ accepted _ ih =>
    rw [verdicts_cons, accepted, ih done]
    rfl

/-- A failure is that of the last exchange, and every exchange before it was accepted. -/
theorem verdicts_of_error (handles : Handles first batches exchanges result) {fault : Fault}
    (failed : result = .error fault) :
    ∃ n, exchanges.length = n + 1 ∧
      verdicts first batches exchanges = List.replicate n (.ok ()) ++ [.error fault] := by
  induction handles with
  | done => cases failed
  | stopped _ last =>
    cases failed
    refine ⟨0, rfl, ?_⟩
    rw [verdicts_cons, verdicts_nil, last]
    rfl
  | next _ accepted _ ih =>
    rcases ih failed with ⟨n, length, others⟩
    refine ⟨n + 1, congrArg (· + 1) length, ?_⟩
    rw [verdicts_cons, accepted, others]
    rfl

theorem length_eq_of_ok (handles : Handles first batches exchanges result)
    (done : result = .ok ()) : exchanges.length = batches.length := by
  induction handles with
  | done => rfl
  | stopped _ _ => cases done
  | next _ _ _ ih => exact congrArg (· + 1) (ih done)

end Handles

/-- Batches that can be sent have frames under successive references. -/
theorem exists_framesFrom (framed : ∀ batch ∈ batches, batch.Framed) (first : UInt16) :
    ∃ frames, framesFrom Batch.frame first batches = .ok frames ∧
      frames.length = batches.length := by
  induction batches generalizing first with
  | nil => exact ⟨[], rfl, rfl⟩
  | cons batch batches ih =>
    rw [List.forall_mem_cons] at framed
    rcases framed.1 first with ⟨frame, made, _⟩
    rcases ih framed.2 (first + 1) with ⟨frames, others, length⟩
    refine ⟨frame :: frames, ?_, congrArg (· + 1) length⟩
    exact bind_eq_ok_iff.mpr ⟨frame, made, bind_eq_ok_iff.mpr ⟨frames, others, rfl⟩⟩

end

end Session

end S7Link
