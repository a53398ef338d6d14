import S7Link.Proofs.Plan.Replies
import S7Link.Proofs.Session.Runs

/-!
# What a call does

A call has a plan or it has none. Without a plan it ends where it is; with one, its exchanges handle
the batches of the plan (`Session.Follows`). What it gives in the end is made of the answers that
were accepted and of nothing else (`Session.Call.resultOf`). So each of the six calls is a run over
some batches, and calls that are made one after another are runs under successive references
(`Session.exists_exchanges_of_performAll`).
-/

namespace S7Link

open Outcome Plan

namespace Session

/-! ## Batches and results of a call -/

/-- A batch that is read, with what a call takes from the answer. -/
def Batch.ofRead {α : Type} (config : Config) (decode : ReadBatch → Reply → Except Fault α)
    (batch : ReadBatch) : Batch :=
  ⟨batch.frame config.pduSize, fun reply => (decode batch reply).map fun _ => ()⟩

/-- A batch that is written, with what a call takes from the answer. -/
def Batch.ofWrite {α : Type} (config : Config) (decode : WriteBatch → Reply → Except Fault α)
    (batch : WriteBatch) : Batch :=
  ⟨batch.frame config.pduSize, fun reply => (decode batch reply).map fun _ => ()⟩

/-- The batches of the plan that reads tags. -/
def readBatches {α : Type} (config : Config) (decode : ReadBatch → Reply → Except Fault α)
    (tags : List Tag) : Except Fault (List Batch) := do
  let plan ← ReadPlan.make tags config.limits config.optimize
  return plan.batches.map (Batch.ofRead config decode)

/-- The batches of the plan that writes values to tags. -/
def writeBatches {α : Type} (config : Config) (decode : WriteBatch → Reply → Except Fault α)
    (tags : List Tag) (values : List Value) : Except Fault (List Batch) := do
  let plan ← WritePlan.make tags values config.limits
  return plan.batches.map (Batch.ofWrite config decode)

/-- The batches of the plan of a call. -/
def Call.batches (config : Config) : Call → Except Fault (List Batch)
  | .read tags => readBatches config ReadBatch.values tags
  | .readRecords tags => readBatches config ReadBatch.records tags
  | .write tags values => writeBatches config WriteBatch.check tags values
  | .writeRecords tags values => writeBatches config WriteBatch.records tags values
  | .readOne tag => readBatches config ReadBatch.values [tag]
  | .writeOne tag value => writeBatches config WriteBatch.check [tag] [value]

/-- The tags of a call. -/
def Call.tags : Call → List Tag
  | .read tags | .readRecords tags | .write tags _ | .writeRecords tags _ => tags
  | .readOne tag | .writeOne tag _ => [tag]

/-- What the answers to a read make of its tags. -/
def readResult {α : Type} (config : Config)
    (decode : ReadBatch → Reply → Except Fault (List (Indexed α)))
    (answered : List (Except Fault Reply)) (tags : List Tag) : Except Fault (List α) := do
  let plan ← ReadPlan.make tags config.limits config.optimize
  let parts ← (plan.batches.zip answered).mapM fun (batch, reply) => reply >>= decode batch
  return Indexed.inOrder parts.flatten

/-- What the answers to a write make of its tags. -/
def writeResult {α : Type} (config : Config) (decode : WriteBatch → Reply → Except Fault α)
    (answered : List (Except Fault Reply)) (tags : List Tag) (values : List Value) :
    Except Fault (List α) := do
  let plan ← WritePlan.make tags values config.limits
  (plan.batches.zip answered).mapM fun (batch, reply) => reply >>= decode batch

/-- The last of the values of a tag. -/
def lastValue (tag : Tag) (values : List Value) : Except Fault Value :=
  match values.getLast? with
  | some value => .ok value
  | none => .error (.malformed (.noValue tag))

/-- What the answers to a call make of it. -/
def Call.resultOf (config : Config) (answered : List (Except Fault Reply)) :
    Call → Except Fault Outcome
  | .read tags => (readResult config ReadBatch.values answered tags).map .values
  | .readRecords tags => (readResult config ReadBatch.records answered tags).map .readRecords
  | .write tags values =>
    (writeResult config WriteBatch.check answered tags values).map fun _ => .written
  | .writeRecords tags values =>
    (writeResult config WriteBatch.records answered tags values).map fun parts =>
      .writeRecords parts.flatten
  | .readOne tag =>
    (readResult config ReadBatch.values answered [tag] >>= lastValue tag).map .value
  | .writeOne tag value =>
    (writeResult config WriteBatch.check answered [tag] [value]).map fun _ => .written

/-- Exchanges follow a plan, if there is one. -/
inductive Follows (first : UInt16) :
    Except Fault (List Batch) → List Exchange → Except Fault Unit → Prop
  | unplanned (fault : Fault) : Follows first (.error fault) [] (.error fault)
  | handled {batches : List Batch} {exchanges : List Exchange} {result : Except Fault Unit}
      (handles : Handles first batches exchanges result) :
      Follows first (.ok batches) exchanges result

theorem Follows.of_error {first : UInt16} {fault : Fault} {exchanges : List Exchange}
    {result : Except Fault Unit} (follows : Follows first (.error fault) exchanges result) :
    exchanges = [] ∧ result = .error fault := by
  cases follows
  exact ⟨rfl, rfl⟩

theorem Follows.of_ok {first : UInt16} {batches : List Batch} {exchanges : List Exchange}
    {result : Except Fault Unit} (follows : Follows first (.ok batches) exchanges result) :
    Handles first batches exchanges result := by
  cases follows with
  | handled handles => exact handles

/-- A success has a plan, and an exchange for every batch of it. -/
theorem Follows.exists_batches_of_ok {first : UInt16} {planned : Except Fault (List Batch)}
    {exchanges : List Exchange} (follows : Follows first planned exchanges (.ok ())) :
    ∃ batches, planned = .ok batches ∧ exchanges.length = batches.length := by
  cases follows with
  | handled handles => exact ⟨_, rfl, handles.length_eq_of_ok rfl⟩

/-- A call has made exchanges: they follow its plan, and its outcome is made of the answers. -/
structure Call.Made (config : Config) (first : UInt16) (call : Call) (exchanges : List Exchange)
    (outcome : Except Fault Outcome) : Prop where
  follows : Follows first (call.batches config) exchanges (outcome.map fun _ => ())
  outcome_eq : outcome = call.resultOf config (replies first exchanges)

/-- An outcome is a result in the form that the call gives it. -/
theorem Call.Made.of_result {α : Type} {config : Config} {first : UInt16} {call : Call}
    {exchanges : List Exchange} {result : Except Fault α} {outcome : α → Outcome}
    (follows : Follows first (call.batches config) exchanges (result.map fun _ => ()))
    (outcome_eq : result.map outcome = call.resultOf config (replies first exchanges)) :
    call.Made config first exchanges (result.map outcome) where
  follows := by
    rw [map_map]
    exact follows
  outcome_eq := outcome_eq

/-! ## Plans have frames -/

theorem framed_of_readBatches {α : Type} {config : Config}
    {decode : ReadBatch → Reply → Except Fault α} {tags : List Tag} {batches : List Batch}
    (planned : readBatches config decode tags = .ok batches) : ∀ batch ∈ batches, batch.Framed := by
  obtain ⟨plan, made, done⟩ := bind_eq_ok_iff.mp planned
  cases done
  intro batch member reference
  obtain ⟨readBatch, inPlan, rfl⟩ := List.mem_map.mp member
  exact (ReadPlan.sendable_of_make made readBatch inPlan).exists_frame reference

theorem framed_of_writeBatches {α : Type} {config : Config}
    {decode : WriteBatch → Reply → Except Fault α} {tags : List Tag} {values : List Value}
    {batches : List Batch} (planned : writeBatches config decode tags values = .ok batches) :
    ∀ batch ∈ batches, batch.Framed := by
  obtain ⟨plan, made, done⟩ := bind_eq_ok_iff.mp planned
  cases done
  intro batch member reference
  obtain ⟨writeBatch, inPlan, rfl⟩ := List.mem_map.mp member
  exact (WritePlan.sendable_of_make made writeBatch inPlan).exists_frame reference

theorem Call.framed_of_batches {config : Config} {call : Call} {batches : List Batch}
    (planned : call.batches config = .ok batches) : ∀ batch ∈ batches, batch.Framed := by
  cases call with
  | read tags => exact framed_of_readBatches planned
  | readRecords tags => exact framed_of_readBatches planned
  | write tags values => exact framed_of_writeBatches planned
  | writeRecords tags values => exact framed_of_writeBatches planned
  | readOne tag => exact framed_of_readBatches planned
  | writeOne tag value => exact framed_of_writeBatches planned

theorem Call.Made.numbered {config : Config} {first : UInt16} {call : Call}
    {exchanges : List Exchange} {outcome : Except Fault Outcome}
    (made : call.Made config first exchanges outcome) : Numbered first exchanges := by
  have follows := made.follows
  cases planned : call.batches config with
  | error fault =>
    rw [planned] at follows
    rw [follows.of_error.1]
    exact numbered_nil first
  | ok batches =>
    rw [planned] at follows
    exact follows.of_ok.numbered (call.framed_of_batches planned)

/-! ## The calls -/

section

variable {σ α : Type} (transport : Transport σ) (session : Session (σ × List Exchange))

/-- A read makes exchanges that follow its plan. -/
theorem exists_exchanges_of_readWith (lenient : Bool)
    (decode : ReadBatch → Reply → Except Fault (List (Indexed α)))
    (events : List (Indexed α) → List Event) (tags : List Tag) :
    ∃ exchanges,
      Advanced session exchanges
        (session.readWith transport.traced lenient decode events tags).2 ∧
      Follows session.nextReference (readBatches session.config decode tags) exchanges
        ((session.readWith transport.traced lenient decode events tags).1.map fun _ => ()) ∧
      (session.readWith transport.traced lenient decode events tags).1 =
        readResult session.config decode (replies session.nextReference exchanges) tags := by
  unfold readWith readBatches readResult
  dsimp only
  cases made : ReadPlan.make tags session.config.limits session.config.optimize with
  | error fault => exact ⟨[], ⟨rfl, rfl, (UInt16.add_zero _).symm⟩, .unplanned fault, rfl⟩
  | ok plan =>
    have framed := fun batch member => (ReadPlan.sendable_of_make made batch member).exists_frame
    dsimp only
    generalize Event.reading lenient tags.length plan.items.length plan.batches.length
      session.config.optimize = planned
    rcases exists_exchanges_of_run transport
      ⟨ReadBatch.frame session.config.pduSize, decode, events⟩ (session.record [planned])
      framed with ⟨exchanges, advanced, handles, results⟩
    refine ⟨exchanges, (Advanced.of_record session [planned]).trans advanced, ?_, ?_⟩
    · rw [map_map]
      exact .handled handles
    · rw [results, map_eq_bind]
      rfl

/-- A write makes exchanges that follow its plan. -/
theorem exists_exchanges_of_writeWith (lenient : Bool)
    (decode : WriteBatch → Reply → Except Fault α) (events : α → List Event) (tags : List Tag)
    (values : List Value) :
    ∃ exchanges,
      Advanced session exchanges
        (session.writeWith transport.traced lenient decode events tags values).2 ∧
      Follows session.nextReference (writeBatches session.config decode tags values) exchanges
        ((session.writeWith transport.traced lenient decode events tags values).1.map
          fun _ => ()) ∧
      (session.writeWith transport.traced lenient decode events tags values).1 =
        writeResult session.config decode (replies session.nextReference exchanges) tags
          values := by
  unfold writeWith writeBatches writeResult
  dsimp only
  cases made : WritePlan.make tags values session.config.limits with
  | error fault => exact ⟨[], ⟨rfl, rfl, (UInt16.add_zero _).symm⟩, .unplanned fault, rfl⟩
  | ok plan =>
    have framed := fun batch member => (WritePlan.sendable_of_make made batch member).exists_frame
    dsimp only
    generalize Event.writing lenient tags.length plan.batches.length = planned
    rcases exists_exchanges_of_run transport
      ⟨WriteBatch.frame session.config.pduSize, decode, events⟩ (session.record [planned]) framed
      with ⟨exchanges, advanced, handles, results⟩
    exact ⟨exchanges, (Advanced.of_record session [planned]).trans advanced, .handled handles,
      results⟩

theorem perform_write (tags : List Tag) (values : List Value) :
    (session.perform transport.traced (.write tags values)).1 =
      (session.writeWith transport.traced false WriteBatch.check (fun _ => []) tags values).1.map
        fun _ => .written :=
  map_map ..

theorem perform_writeRecords (tags : List Tag) (values : List Value) :
    (session.perform transport.traced (.writeRecords tags values)).1 =
      (session.writeWith transport.traced true WriteBatch.records
        (fun records => records.flatMap WriteRecord.events) tags values).1.map
        fun parts => .writeRecords parts.flatten :=
  map_map ..

theorem length_replies (first : UInt16) (exchanges : List Exchange) :
    (replies first exchanges).length = exchanges.length := by
  induction exchanges generalizing first with
  | nil => rfl
  | cons exchange exchanges ih => exact congrArg (· + 1) (ih (first + 1))

/-- Answers to all batches give as many values as there are tags. -/
theorem length_of_readResult {config : Config} {tags : List Tag} {batches : List Batch}
    (planned : readBatches config ReadBatch.values tags = .ok batches)
    {answered : List (Except Fault Reply)} (complete : answered.length = batches.length)
    {values : List Value} (result : readResult config ReadBatch.values answered tags = .ok values) :
    values.length = tags.length := by
  obtain ⟨plan, made, done⟩ := bind_eq_ok_iff.mp planned
  cases done
  obtain ⟨plan', made', later⟩ := bind_eq_ok_iff.mp result
  cases made.symm.trans made'
  obtain ⟨parts, valued, done⟩ := bind_eq_ok_iff.mp later
  cases done
  rw [List.length_map] at complete
  apply ReadPlan.length_of_values made
  rw [← List.map_fst_zip (Nat.le_of_eq complete.symm), List.forall₂_map_left_iff]
  refine (mapM_eq_ok_iff.mp valued).imp ?_
  intro pair part given
  obtain ⟨reply, _, valued⟩ := bind_eq_ok_iff.mp given
  exact ⟨reply, valued⟩

/-- A read of one tag goes as a read of a list with that tag: if this succeeds there is a value. -/
theorem exists_exchanges_of_readOne (tag : Tag) :
    ∃ exchanges, Advanced session exchanges (session.readOne transport.traced tag).2 ∧
      Follows session.nextReference (readBatches session.config ReadBatch.values [tag]) exchanges
        ((session.readOne transport.traced tag).1.map fun _ => ()) ∧
      (session.readOne transport.traced tag).1 =
        readResult session.config ReadBatch.values (replies session.nextReference exchanges) [tag]
          >>= lastValue tag := by
  rcases exists_exchanges_of_readWith transport session false ReadBatch.values (fun _ => []) [tag]
    with ⟨exchanges, advanced, follows, result⟩
  have last : (session.readOne transport.traced tag).1 =
      (session.read transport.traced [tag]).1 >>= lastValue tag := rfl
  refine ⟨exchanges, advanced, ?_, last.trans (congrArg (· >>= lastValue tag) result)⟩
  rw [last]
  have read : (session.readWith transport.traced false ReadBatch.values (fun _ => []) [tag]).1 =
      (session.read transport.traced [tag]).1 := rfl
  rw [read] at follows result
  cases given : (session.read transport.traced [tag]).1 with
  | error fault =>
    rw [given] at follows
    exact follows
  | ok values =>
    -- All batches were answered, so there is a value and the last one cannot be missing.
    rw [given] at follows result
    obtain ⟨batches, planned, complete⟩ := follows.exists_batches_of_ok
    rw [← length_replies session.nextReference] at complete
    obtain ⟨value, rfl⟩ := List.length_eq_one_iff.mp
      (length_of_readResult planned complete result.symm)
    exact follows

/-- Every call makes exchanges that follow its plan, and its outcome is made of the answers. -/
theorem exists_exchanges_of_perform (call : Call) :
    ∃ exchanges, Advanced session exchanges (session.perform transport.traced call).2 ∧
      call.Made session.config session.nextReference exchanges
        (session.perform transport.traced call).1 := by
  cases call with
  | read tags =>
    rcases exists_exchanges_of_readWith transport session false ReadBatch.values (fun _ => []) tags
      with ⟨exchanges, advanced, follows, result⟩
    exact ⟨exchanges, advanced, .of_result follows (congrArg (Except.map Outcome.values) result)⟩
  | readRecords tags =>
    rcases exists_exchanges_of_readWith transport session true ReadBatch.records
      (fun records => records.flatMap (·.value.events)) tags
      with ⟨exchanges, advanced, follows, result⟩
    exact ⟨exchanges, advanced,
      .of_result follows (congrArg (Except.map Outcome.readRecords) result)⟩
  | write tags values =>
    rcases exists_exchanges_of_writeWith transport session false WriteBatch.check (fun _ => []) tags
      values with ⟨exchanges, advanced, follows, result⟩
    refine ⟨exchanges, advanced, ?_⟩
    rw [perform_write]
    exact .of_result follows (congrArg (Except.map fun _ => Outcome.written) result)
  | writeRecords tags values =>
    rcases exists_exchanges_of_writeWith transport session true WriteBatch.records
      (fun records => records.flatMap WriteRecord.events) tags values with
      ⟨exchanges, advanced, follows, result⟩
    refine ⟨exchanges, advanced, ?_⟩
    rw [perform_writeRecords]
    exact .of_result follows
      (congrArg (Except.map fun parts => Outcome.writeRecords parts.flatten) result)
  | readOne tag =>
    rcases exists_exchanges_of_readOne transport session tag with
      ⟨exchanges, advanced, follows, result⟩
    exact ⟨exchanges, advanced, .of_result follows (congrArg (Except.map Outcome.value) result)⟩
  | writeOne tag value =>
    rcases exists_exchanges_of_writeWith transport session false WriteBatch.check (fun _ => [])
      [tag] [value] with ⟨exchanges, advanced, follows, result⟩
    have same : session.perform transport.traced (.writeOne tag value) =
        session.perform transport.traced (.write [tag] [value]) := rfl
    refine ⟨exchanges, advanced, ?_⟩
    rw [same, perform_write]
    exact .of_result follows (congrArg (Except.map fun _ => Outcome.written) result)

end

/-! ## Calls one after another -/

/-- Something holds of every call of a list, with the number of exchanges before it, its exchanges
and its outcome. -/
inductive Each (P : Nat → Call → List Exchange → Except Fault Outcome → Prop) :
    Nat → List Call → List Exchange → List (Except Fault Outcome) → Prop
  | nil {before : Nat} : Each P before [] [] []
  | cons {before : Nat} {call : Call} {calls : List Call} {exchanges others : List Exchange}
      {outcome : Except Fault Outcome} {outcomes : List (Except Fault Outcome)}
      (first : P before call exchanges outcome)
      (rest : Each P (before + exchanges.length) calls others outcomes) :
      Each P before (call :: calls) (exchanges ++ others) (outcome :: outcomes)

/-- What follows for a call from its exchanges, as the run has them, follows for every call. -/
theorem Each.imp {P Q : Nat → Call → List Exchange → Except Fault Outcome → Prop} {before : Nat}
    {calls : List Call} {exchanges whole : List Exchange} {outcomes : List (Except Fault Outcome)}
    (each : Each P before calls exchanges outcomes) (inRun : whole.drop before = exchanges)
    (follows : ∀ before call exchanges outcome, exchanges <+: whole.drop before →
      P before call exchanges outcome → Q before call exchanges outcome) :
    Each Q before calls exchanges outcomes := by
  induction each with
  | nil => exact .nil
  | @cons before call calls exchanges others outcome outcomes first _ ih =>
    have later : whole.drop (before + exchanges.length) = others := by
      rw [← List.drop_drop, inRun, List.drop_left]
    refine .cons (follows before call exchanges outcome ?_ first) (ih later)
    rw [inRun]
    exact List.prefix_append exchanges others

/-- The reference of the request that comes after some others. -/
def referenceAfter (before : Nat) : UInt16 := UInt16.ofNat (before + 1)

theorem referenceAfter_add (before count : Nat) :
    referenceAfter (before + count) = referenceAfter before + UInt16.ofNat count := by
  rw [referenceAfter, referenceAfter, Nat.add_right_comm, UInt16.ofNat_add]

theorem toNat_referenceAfter (before : Nat) :
    (referenceAfter before).toNat = (before + 1) % 65536 := UInt16.toNat_ofNat'

/-- Calls make exchanges under successive references, and each follows its plan. -/
theorem exists_exchanges_of_performAll {σ : Type} (transport : Transport σ)
    (session : Session (σ × List Exchange)) (calls : List Call) (before : Nat)
    (reference : session.nextReference = referenceAfter before) :
    ∃ exchanges, Advanced session exchanges (session.performAll transport.traced calls).2 ∧
      Numbered session.nextReference exchanges ∧
      Each (fun before => Call.Made session.config (referenceAfter before)) before calls exchanges
        (session.performAll transport.traced calls).1 := by
  -- The next reference is the one thing that a call leaves to the calls after it.
  induction calls generalizing session before with
  | nil => exact ⟨[], ⟨rfl, rfl, (UInt16.add_zero _).symm⟩, numbered_nil _, .nil⟩
  | cons call calls ih =>
    rcases exists_exchanges_of_perform transport session call with ⟨exchanges, advanced, made⟩
    unfold performAll
    generalize session.perform transport.traced call = performed at advanced made
    obtain ⟨outcome, later⟩ := performed
    dsimp only at advanced made ⊢
    have laterReference : later.nextReference = referenceAfter (before + exchanges.length) := by
      rw [advanced.reference, reference, referenceAfter_add]
    rcases ih later _ laterReference with ⟨others, advanced', numbered', each⟩
    rw [advanced.config] at each
    refine ⟨exchanges ++ others, advanced.trans advanced', ?_, .cons (reference ▸ made) each⟩
    rw [advanced.reference] at numbered'
    exact made.numbered.append numbered'

/-- The exchanges of calls that are made one after another in a new session. -/
def exchangesOf {σ : Type} (config : Config) (transport : Transport σ) (peer : σ)
    (calls : List Call) : List Exchange :=
  ((start config (peer, [])).performAll transport.traced calls).2.peer.2.reverse

/-- In a new session calls make exchanges under the references from 1 on. -/
theorem made_of_exchangesOf {σ : Type} (config : Config) (transport : Transport σ) (peer : σ)
    (calls : List Call) :
    Numbered (referenceAfter 0) (exchangesOf config transport peer calls) ∧
      ((start config (peer, [])).performAll transport.traced calls).2.nextReference =
        referenceAfter (exchangesOf config transport peer calls).length ∧
      Each (fun before => Call.Made config (referenceAfter before)) 0 calls
        (exchangesOf config transport peer calls)
        ((start config (peer, [])).performAll transport.traced calls).1 := by
  rcases exists_exchanges_of_performAll transport (start config (peer, [])) calls 0 rfl with
    ⟨exchanges, advanced, numbered, each⟩
  have same : exchangesOf config transport peer calls = exchanges := by
    rw [exchangesOf, advanced.trace, List.reverse_append, List.reverse_reverse]
    rfl
  have reference : (start config (peer, ([] : List Exchange))).nextReference = referenceAfter 0 :=
    rfl
  rw [same, advanced.reference, reference, ← referenceAfter_add, Nat.zero_add]
  exact ⟨numbered, rfl, each⟩

end Session

end S7Link
