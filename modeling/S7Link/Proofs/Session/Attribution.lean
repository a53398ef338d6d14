import S7Link.Proofs.Session.Refusals

/-!
# No answer to another request is used

A transport may lose answers, or give them late, twice or in any order; what it gives is malformed
or answers some request of the run, and an answer carries the reference of the request that it
answers. As long as references do not come round again, an answer counts only if it answers the
request that was sent right before it. Any other answer ends the call with a fault that names both
references, and a malformed frame ends it with a fault that tells nothing about an item
(`Session.performAll_current`).
-/

namespace S7Link

open Outcome Plan

namespace Session

/-- What a run received answers requests of the run, or is malformed: a frame from exchange `k`
carries the reference of the request of number `origin k`, if there is such a number. -/
structure Attributed (origin : Nat → Option Nat) (exchanges : List Exchange) : Prop where
  answers : ∀ k exchange frame, exchanges[k]? = some exchange → exchange.received = .ok frame →
    ∀ number, origin k = some number →
      ∃ answered, exchanges[number]? = some answered ∧
        Frame.reference? frame = Frame.reference? answered.request
  malformed : ∀ k exchange frame, exchanges[k]? = some exchange → exchange.received = .ok frame →
    origin k = none → Frame.Malformed frame

/-- A call uses no answers but those to its own requests, each to the request right before it. -/
structure Call.Current (config : Config) (origin : Nat → Option Nat) (before : Nat) (call : Call)
    (exchanges : List Exchange) (outcome : Except Fault Outcome) : Prop where
  /-- The outcome is made of what the exchanges came to. -/
  outcome_eq : outcome = call.resultOf config (replies (referenceAfter before) exchanges)
  /-- Where an exchange came to an answer to a request, it is the request that was sent. -/
  own : ∀ i reply, (replies (referenceAfter before) exchanges)[i]? = some (.ok reply) →
    ∀ number, origin (before + i) = some number → number = before + i
  /-- After a success every exchange came to the answer to its request. -/
  met : ∀ result, outcome = .ok result → ∀ i < exchanges.length,
    origin (before + i) = some (before + i)
  /-- An answer to another request is the fault of the call. -/
  refused : ∀ i exchange frame reply, exchanges[i]? = some exchange →
    exchange.received = .ok frame → Reply.read frame = .ok reply →
    ∀ number, origin (before + i) = some number → number ≠ before + i →
      outcome = .error
        (.referenceMismatch (referenceAfter (before + i)) (referenceAfter number))
  /-- A malformed frame ends the call, and no status comes out of it. -/
  spoiled : ∀ i exchange frame, exchanges[i]? = some exchange → exchange.received = .ok frame →
    origin (before + i) = none → ∃ fault, outcome = .error fault ∧ fault.HasNoStatus

/-! ## References tell requests apart -/

theorem referenceAfter_inj {i j : Nat} (inRun : i < 65536) (inRun' : j < 65536)
    (same : referenceAfter i = referenceAfter j) : i = j := by
  have numbers := congrArg UInt16.toNat same
  rw [toNat_referenceAfter, toNat_referenceAfter] at numbers
  omega

theorem getElem?_replies (first : UInt16) (exchanges : List Exchange) (i : Nat) :
    (replies first exchanges)[i]? =
      exchanges[i]?.map (Exchange.reply (first + UInt16.ofNat i)) := by
  induction exchanges generalizing first i with
  | nil => rfl
  | cons exchange exchanges ih =>
    cases i with
    | zero =>
      rw [replies, List.getElem?_cons_zero, List.getElem?_cons_zero]
      exact congrArg (fun reference => some (exchange.reply reference)) (UInt16.add_zero first).symm
    | succ i =>
      rw [replies, List.getElem?_cons_succ, List.getElem?_cons_succ, ih, add_ofNat_succ]

/-! ## Answers to other requests -/

section

variable {origin : Nat → Option Nat} {whole : List Exchange} {k number : Nat}
  {exchange : Exchange} {frame : Bytes} {reply : Reply}

/-- An answer carries the reference of the request that it answers. -/
theorem Attributed.reference_eq (attributed : Attributed origin whole)
    (numbered : Numbered (referenceAfter 0) whole) (found : whole[k]? = some exchange)
    (received : exchange.received = .ok frame) (read : Reply.read frame = .ok reply)
    (known : origin k = some number) :
    number < whole.length ∧ reply.header.reference = referenceAfter number := by
  rcases attributed.answers k exchange frame found received number known with
    ⟨answered, there, same⟩
  obtain ⟨bound, _⟩ := List.getElem?_eq_some_iff.mp there
  refine ⟨bound, ?_⟩
  have carried := numbered number answered there
  rw [Reply.reference?_of_read read, carried, ← referenceAfter_add, Nat.zero_add] at same
  exact Option.some.inj same

/-- The exchanges of a call are exchanges of the run. -/
theorem getElem?_of_prefix {before i : Nat} {exchanges : List Exchange}
    (inRun : exchanges <+: whole.drop before) (found : exchanges[i]? = some exchange) :
    whole[before + i]? = some exchange := by
  obtain ⟨rest, same⟩ := inRun
  obtain ⟨bound, _⟩ := List.getElem?_eq_some_iff.mp found
  rw [← List.getElem?_drop, ← same, List.getElem?_append_left bound]
  exact found

/-- The reference of an answer tells the request that it answers. -/
theorem Attributed.eq_of_reply (attributed : Attributed origin whole)
    (numbered : Numbered (referenceAfter 0) whole) (short : whole.length ≤ 65536)
    (found : whole[k]? = some exchange)
    (answered : exchange.reply (referenceAfter k) = .ok reply) (known : origin k = some number) :
    number = k := by
  obtain ⟨frame, received, read, carried⟩ := Exchange.reply_eq_ok_iff.mp answered
  obtain ⟨inRun, same⟩ := attributed.reference_eq numbered found received read known
  obtain ⟨bound, _⟩ := List.getElem?_eq_some_iff.mp found
  exact referenceAfter_inj (by omega) (by omega) (same.symm.trans carried)

/-- An answer to another request comes to a fault. -/
theorem Attributed.reply_of_other (attributed : Attributed origin whole)
    (numbered : Numbered (referenceAfter 0) whole) (short : whole.length ≤ 65536)
    (found : whole[k]? = some exchange) (received : exchange.received = .ok frame)
    (read : Reply.read frame = .ok reply) (known : origin k = some number) (other : number ≠ k) :
    exchange.reply (referenceAfter k) =
      .error (.referenceMismatch (referenceAfter k) (referenceAfter number)) := by
  obtain ⟨inRun, same⟩ := attributed.reference_eq numbered found received read known
  obtain ⟨bound, _⟩ := List.getElem?_eq_some_iff.mp found
  have differ : reply.header.reference ≠ referenceAfter k := by
    intro equal
    exact other (referenceAfter_inj (by omega) (by omega) (same.symm.trans equal))
  rw [Exchange.reply_of_other received read differ, same]

/-- A malformed frame ends the call. -/
theorem Call.Made.error_of_unknown {config : Config} {call : Call} {before i : Nat}
    {exchanges : List Exchange} {outcome : Except Fault Outcome}
    (made : call.Made config (referenceAfter before) exchanges outcome)
    (inRun : exchanges <+: whole.drop before) (attributed : Attributed origin whole)
    (found : exchanges[i]? = some exchange) (received : exchange.received = .ok frame)
    (unknown : origin (before + i) = none) :
    ∃ fault, outcome = .error fault ∧ fault.HasNoStatus := by
  have there := getElem?_of_prefix inRun found
  have malformed := attributed.malformed _ exchange frame there received unknown
  exact made.error_of_refused found fun _ strict =>
    Exchange.reply_eq_error_of_malformed received malformed strict

theorem Call.Made.current {config : Config} {call : Call} {before : Nat}
    {exchanges : List Exchange} {outcome : Except Fault Outcome}
    (made : call.Made config (referenceAfter before) exchanges outcome)
    (inRun : exchanges <+: whole.drop before) (short : whole.length ≤ 65536)
    (attributed : Attributed origin whole) (numbered : Numbered (referenceAfter 0) whole) :
    call.Current config origin before exchanges outcome where
  outcome_eq := made.outcome_eq
  own := by
    intro i reply found number known
    rw [getElem?_replies, ← referenceAfter_add] at found
    obtain ⟨exchange, there, answered⟩ := Option.map_eq_some_iff.mp found
    have there := getElem?_of_prefix inRun there
    exact attributed.eq_of_reply numbered short there answered known
  met := by
    intro result done i bound
    have found := List.getElem?_eq_getElem bound
    cases answered : exchanges[i].reply (referenceAfter (before + i)) with
    | error fault =>
      -- An exchange without answer would have ended the call.
      rcases made.error_of_fault found answered with rfl
      cases done
    | ok reply =>
      cases known : origin (before + i) with
      | none =>
        obtain ⟨frame, received, _⟩ := Exchange.reply_eq_ok_iff.mp answered
        rcases made.error_of_unknown inRun attributed found received known with ⟨fault, failed, _⟩
        cases done.symm.trans failed
      | some number =>
        have there := getElem?_of_prefix inRun found
        exact congrArg some (attributed.eq_of_reply numbered short there answered known)
  refused := by
    intro i exchange frame reply found received read number known other
    have there := getElem?_of_prefix inRun found
    exact made.error_of_fault found
      (attributed.reply_of_other numbered short there received read known other)
  spoiled := by
    intro i exchange frame found received unknown
    exact made.error_of_unknown inRun attributed found received unknown

end

/-- In a run of no more requests than there are references, every call uses the answers to its own
requests and no others, whatever else the transport gives. -/
theorem performAll_current {σ : Type} (config : Config) (transport : Transport σ) (peer : σ)
    (calls : List Call) (origin : Nat → Option Nat)
    (short : (exchangesOf config transport peer calls).length ≤ 65536)
    (attributed : Attributed origin (exchangesOf config transport peer calls)) :
    Each (fun before call exchanges outcome => call.Current config origin before exchanges outcome)
      0 calls (exchangesOf config transport peer calls)
      ((start config (peer, [])).performAll transport.traced calls).1 := by
  obtain ⟨numbered, _, each⟩ := made_of_exchangesOf config transport peer calls
  refine each.imp List.drop_zero ?_
  intro before call exchanges outcome inRun made
  exact made.current inRun short attributed numbered

/-- The request to read one byte, under a reference. -/
def byteRequest (reference : UInt16) : Bytes :=
  Frame.request reference
    [0x04, 0x01, 0x12, 0x0A, 0x10, 0x02, 0x00, 0x01, 0x00, 0x01, 0x84, 0x00, 0x00, 0x00] []

/-- The answer to that request under a reference, with a data section. -/
def byteAnswer (reference : UInt16) (data : Bytes) : Bytes :=
  Frame.wrap ((Header.answer reference 2 (UInt16.ofNat data.length)).write ++ [0x04, 0x01] ++ data)

/-- The first request times out, the second is met by the answer to the first, the third by an
answer without its payload, and the fourth by its own answer. -/
def lateAnswer : List Recording :=
  [.fault .timeout, .verbatim (byteAnswer 1 [0xFF, 0x04, 0x00, 0x08, 0x11]),
    .verbatim (byteAnswer 3 [0xFF]), .verbatim (byteAnswer 4 [0xFF, 0x04, 0x00, 0x08, 0x22])]

/-- The numbers of the requests that are answered. -/
def lateOrigin : Nat → Option Nat
  | 1 => some 0
  | 2 => none
  | k => some k

/-- Four reads of one byte. -/
def fourReads : List Call := List.replicate 4 (.readOne closeBytes[0])

/-- The exchanges of four reads over a transport that gives the first answer late. -/
def lateExchanges : List Exchange :=
  exchangesOf ⟨240, 20, true⟩ Transport.replay lateAnswer fourReads

theorem lateExchanges_eq : lateExchanges =
    [⟨byteRequest 1, .error .timeout⟩,
      ⟨byteRequest 2, .ok (byteAnswer 1 [0xFF, 0x04, 0x00, 0x08, 0x11])⟩,
      ⟨byteRequest 3, .ok (byteAnswer 3 [0xFF])⟩,
      ⟨byteRequest 4, .ok (byteAnswer 4 [0xFF, 0x04, 0x00, 0x08, 0x22])⟩] := by
  cbv

/-- An answer without payload is malformed. -/
theorem malformed_byteAnswer : Frame.Malformed (byteAnswer 3 [0xFF]) := by
  have held : Reply.read (byteAnswer 3 [0xFF]) =
      .ok ⟨Header.answer 3 2 1, Request.readFunction, 1, [0xFF]⟩ := by
    cbv
  intro reply read
  cases held.symm.trans read
  refine ⟨?_, ?_⟩
  · intro tags items nonempty taken
    obtain ⟨tag, tags, rfl⟩ := List.exists_cons_of_ne_nil nonempty
    obtain ⟨_, _, later⟩ := bind_eq_ok_iff.mp taken
    obtain ⟨_, first, _⟩ := bind_eq_ok_iff.mp later
    cases first
  · intro count statuses _ read
    obtain ⟨_, wrong, _⟩ := bind_eq_ok_iff.mp read
    cases wrong

/-- The second exchange is met by the answer to the first request. -/
theorem attributed_lateExchanges : Attributed lateOrigin lateExchanges := by
  rw [lateExchanges_eq]
  refine ⟨?_, ?_⟩
  · intro k exchange frame found received number known
    rcases k with _ | _ | _ | _ | k
    · cases found
      cases received
    · cases found
      cases received
      cases known
      refine ⟨_, rfl, ?_⟩
      cbv
    · cases known
    · cases found
      cases received
      cases known
      refine ⟨_, rfl, ?_⟩
      cbv
    · cases found
  · intro k exchange frame found received unknown
    rcases k with _ | _ | _ | k
    · cases unknown
    · cases unknown
    · cases found
      cases received
      exact malformed_byteAnswer
    · cases unknown

theorem performAll_current_lateAnswer :
    lateExchanges.length = 4 ∧ Attributed lateOrigin lateExchanges ∧
      Each (fun before call exchanges outcome =>
          call.Current ⟨240, 20, true⟩ lateOrigin before exchanges outcome)
        0 fourReads lateExchanges
        [.error .timeout, .error (.referenceMismatch 2 1),
          .error (.malformed (.itemHeaderTruncated closeBytes[0])), .ok (.value (.byte 0x22))] := by
  have length : lateExchanges.length = 4 := by rw [lateExchanges_eq]; rfl
  have outcomes : ((start ⟨240, 20, true⟩ (lateAnswer, [])).performAll Transport.replay.traced
      fourReads).1 =
      [.error .timeout, .error (.referenceMismatch 2 1),
        .error (.malformed (.itemHeaderTruncated closeBytes[0])), .ok (.value (.byte 0x22))] := by
    cbv
  refine ⟨length, attributed_lateExchanges, ?_⟩
  rw [← outcomes]
  exact performAll_current ⟨240, 20, true⟩ Transport.replay lateAnswer fourReads lateOrigin
    (length.trans_le (by decide)) attributed_lateExchanges

end Session

end S7Link
