import S7Link.Stream.Exchange

/-!
# What queues of outcomes come to

A queue of read outcomes comes to a run of bytes and a failure behind it: into which portions the
bytes are cut and which calls were interrupted in between makes no difference (`Supply`). Reading a
number of bytes takes them off the front of the run (`Stream.readFrom_of_le`); if the run is too
short, the bytes are lost and the failure ends the reading (`Stream.readFrom_of_lt`).

A queue of write outcomes comes to the number of bytes that it takes before a call fails, if one
does (`Acceptance.limit?`).
-/

namespace S7Link

/-! ## Calls that fail -/

namespace Failure

/-- The failure of a read call that finds the end of the stream. -/
def endOfStream : Failure := ⟨.unexpectedEnd, "failed to fill whole buffer"⟩

/-- The failure of a write call that takes no bytes. -/
def stalled : Failure := ⟨.other, "failed to write whole buffer"⟩

/-- The failure of a read or write call, unless the call was interrupted and is made again. -/
def fatal? (cause : Failure) : Option Failure := if cause.isTransient then none else some cause

theorem fatal?_eq_some_iff {cause other : Failure} :
    cause.fatal? = some other ↔ cause.kind ≠ .interrupted ∧ cause = other := by
  unfold fatal? isTransient
  split
  · next interrupted => simp_all
  · next lasting => simp_all

end Failure

/-- The failure with which the outcome of a read call ends the reading, if it does. -/
def Arrival.failure? : Arrival → Option Failure
  | .data [] => some .endOfStream
  | .data (_ :: _) => none
  | .failure cause => cause.fatal?

/-- The bytes that a read call gave. -/
def Arrival.bytes : Arrival → Bytes
  | .data bytes => bytes
  | .failure _ => []

/-- The failure with which the outcome of a write call ends the writing, if it does. -/
def Acceptance.failure? : Acceptance → Option Failure
  | .upTo 0 => some .stalled
  | .upTo (_ + 1) => none
  | .failure cause => cause.fatal?

/-- An interrupted call ends no reading. -/
theorem Arrival.kind_of_failure? {entry : Arrival} {cause : Failure}
    (failed : entry.failure? = some cause) : cause.kind ≠ .interrupted := by
  match entry, failed with
  | .data [], rfl => decide
  | .failure _, failed =>
    obtain ⟨lasting, rfl⟩ := Failure.fatal?_eq_some_iff.mp failed
    exact lasting

/-- An interrupted call ends no writing. -/
theorem Acceptance.kind_of_failure? {entry : Acceptance} {cause : Failure}
    (failed : entry.failure? = some cause) : cause.kind ≠ .interrupted := by
  match entry, failed with
  | .upTo 0, rfl => decide
  | .failure _, failed =>
    obtain ⟨lasting, rfl⟩ := Failure.fatal?_eq_some_iff.mp failed
    exact lasting

/-! ## Supplies -/

/-- What a queue of read outcomes comes to. -/
structure Supply where
  /-- The bytes that arrive before a call fails. -/
  bytes : Bytes
  /-- The failure. -/
  stop : Failure
  /-- The outcomes behind the failure. -/
  behind : List Arrival

namespace Supply

/-- A supply with bytes in front of it. -/
def prepend (bytes : Bytes) (supply : Supply) : Supply :=
  { supply with bytes := bytes ++ supply.bytes }

/-- A supply without its first bytes. -/
def skip (count : Nat) (supply : Supply) : Supply :=
  { supply with bytes := supply.bytes.drop count }

/-- What a queue of read outcomes comes to. Behind the last of them stands the end of the stream. -/
def of : List Arrival → Supply
  | [] => ⟨[], .endOfStream, []⟩
  | entry :: queue =>
    match entry.failure? with
    | some cause => ⟨[], cause, queue⟩
    | none => (of queue).prepend entry.bytes

theorem of_cons_of_failure {entry : Arrival} {cause : Failure}
    (failed : entry.failure? = some cause) (queue : List Arrival) :
    of (entry :: queue) = ⟨[], cause, queue⟩ := by
  rw [of, failed]

theorem of_cons_of_harmless {entry : Arrival} (harmless : entry.failure? = none)
    (queue : List Arrival) : of (entry :: queue) = (of queue).prepend entry.bytes := by
  rw [of, harmless]

theorem of_cons_data {portion : Bytes} (nonempty : portion ≠ []) (queue : List Arrival) :
    of (.data portion :: queue) = (of queue).prepend portion := by
  cases portion with
  | nil => exact absurd rfl nonempty
  | cons b portion => rfl

theorem of_cons_interrupted {cause : Failure} (interrupted : cause.isTransient = true)
    (queue : List Arrival) : of (.failure cause :: queue) = of queue := by
  have harmless : (Arrival.failure cause).failure? = none := if_pos interrupted
  exact of_cons_of_harmless harmless queue

theorem of_cons_lasting {cause : Failure} (lasting : ¬cause.isTransient = true)
    (queue : List Arrival) : of (.failure cause :: queue) = ⟨[], cause, queue⟩ := by
  have failed : (Arrival.failure cause).failure? = some cause := if_neg lasting
  exact of_cons_of_failure failed queue

theorem skip_prepend_of_le {count : Nat} {bytes : Bytes} (within : count ≤ bytes.length)
    (supply : Supply) : (supply.prepend bytes).skip count = supply.prepend (bytes.drop count) := by
  rw [skip, prepend, prepend, List.drop_append_of_le_length within]

theorem skip_prepend_of_ge {count : Nat} {bytes : Bytes} (beyond : bytes.length ≤ count)
    (supply : Supply) : (supply.prepend bytes).skip count = supply.skip (count - bytes.length) := by
  rw [skip, skip, prepend, List.drop_append, List.drop_eq_nil_of_le beyond, List.nil_append]

/-- The bytes of a queue are those of its supply and those behind the failure. -/
theorem flatMap_bytes (queue : List Arrival) :
    queue.flatMap Arrival.bytes = (of queue).bytes ++ (of queue).behind.flatMap Arrival.bytes := by
  induction queue with
  | nil => rfl
  | cons entry queue ih =>
    rw [List.flatMap_cons]
    cases failed : entry.failure? with
    | some cause =>
      have silent : entry.bytes = [] := by
        match entry, failed with
        | .data [], _ => rfl
        | .failure _, _ => rfl
      rw [of_cons_of_failure failed, silent]
    | none => rw [of_cons_of_harmless failed, ih, prepend, List.append_assoc]

/-- Bytes taken off the front of a supply are taken off the queue, whatever stands behind the
failure. -/
theorem flatMap_bytes_of_append {queue left : List Arrival} {front rest : Bytes}
    (supplied : (of queue).bytes = front ++ rest)
    (supply : of left = { of queue with bytes := rest }) :
    queue.flatMap Arrival.bytes = front ++ left.flatMap Arrival.bytes := by
  rw [flatMap_bytes queue, flatMap_bytes left, supply, supplied, List.append_assoc]

/-- A queue without a failure supplies all of its bytes, and then the stream ends. -/
theorem of_harmless {queue : List Arrival} (harmless : ∀ entry ∈ queue, entry.failure? = none) :
    of queue = ⟨queue.flatMap Arrival.bytes, .endOfStream, []⟩ := by
  induction queue with
  | nil => rfl
  | cons entry queue ih =>
    rw [List.forall_mem_cons] at harmless
    rw [of_cons_of_harmless harmless.1, ih harmless.2, List.flatMap_cons, prepend]

/-- The failure behind a supply is no interruption. -/
theorem kind_stop (queue : List Arrival) : (of queue).stop.kind ≠ .interrupted := by
  induction queue with
  | nil => decide
  | cons entry queue ih =>
    cases failed : entry.failure? with
    | some cause =>
      rw [of_cons_of_failure failed]
      exact Arrival.kind_of_failure? failed
    | none =>
      rw [of_cons_of_harmless failed]
      exact ih

end Supply

/-! ## Limits -/

namespace Acceptance

/-- The most bytes that a write call takes. -/
def room : Acceptance → Nat
  | .upTo count => count
  | .failure _ => 0

/-- The number of bytes that a queue of write outcomes takes before a call fails, and the failure.
Once the queue is empty, everything is taken. -/
def limit? : List Acceptance → Option (Nat × Failure)
  | [] => none
  | entry :: queue =>
    match entry.failure? with
    | some cause => some (0, cause)
    | none => (limit? queue).map fun limit => (entry.room + limit.1, limit.2)

theorem limit?_cons_of_failure {entry : Acceptance} {cause : Failure}
    (failed : entry.failure? = some cause) (queue : List Acceptance) :
    limit? (entry :: queue) = some (0, cause) := by
  rw [limit?, failed]

theorem limit?_cons_of_harmless {entry : Acceptance} (harmless : entry.failure? = none)
    (queue : List Acceptance) :
    limit? (entry :: queue) = (limit? queue).map fun limit => (entry.room + limit.1, limit.2) := by
  rw [limit?, harmless]

theorem exists_of_limit?_cons {entry : Acceptance} {queue : List Acceptance} {size : Nat}
    {cause : Failure} (harmless : entry.failure? = none)
    (found : limit? (entry :: queue) = some (size, cause)) :
    ∃ rest, limit? queue = some (rest, cause) ∧ entry.room + rest = size := by
  rw [limit?_cons_of_harmless harmless, Option.map_eq_some_iff] at found
  obtain ⟨⟨rest, cause'⟩, later, same⟩ := found
  obtain ⟨sum, rfl⟩ := Prod.mk.inj same
  exact ⟨rest, later, sum⟩

theorem limit?_cons_interrupted {cause : Failure} (interrupted : cause.isTransient = true)
    (queue : List Acceptance) : limit? (.failure cause :: queue) = limit? queue := by
  have harmless : (Acceptance.failure cause).failure? = none := if_pos interrupted
  have same : (fun limit : Nat × Failure => (0 + limit.1, limit.2)) = id := by
    funext limit
    rw [Nat.zero_add, id]
  rw [limit?_cons_of_harmless harmless, room, same, Option.map_id, id]

theorem limit?_cons_lasting {cause : Failure} (lasting : ¬cause.isTransient = true)
    (queue : List Acceptance) : limit? (.failure cause :: queue) = some (0, cause) := by
  have failed : (Acceptance.failure cause).failure? = some cause := if_neg lasting
  exact limit?_cons_of_failure failed queue

/-- A queue without a failure takes everything. -/
theorem limit?_harmless {queue : List Acceptance}
    (harmless : ∀ entry ∈ queue, entry.failure? = none) : limit? queue = none := by
  induction queue with
  | nil => rfl
  | cons entry queue ih =>
    rw [List.forall_mem_cons] at harmless
    rw [limit?_cons_of_harmless harmless.1, ih harmless.2, Option.map_none]

/-- The failure at a limit is no interruption. -/
theorem kind_of_limit? {queue : List Acceptance} {size : Nat} {cause : Failure}
    (found : limit? queue = some (size, cause)) : cause.kind ≠ .interrupted := by
  induction queue generalizing size with
  | nil => cases found
  | cons entry queue ih =>
    cases failed : entry.failure? with
    | some cause' =>
      rw [limit?_cons_of_failure failed] at found
      cases found
      exact kind_of_failure? failed
    | none =>
      obtain ⟨_, later, _⟩ := exists_of_limit?_cons failed found
      exact ih later

/-- A queue takes so many bytes before a call fails. -/
def Takes (queue : List Acceptance) (count : Nat) : Prop :=
  ∀ size cause, limit? queue = some (size, cause) → count ≤ size

/-- Either a queue takes all of so many bytes, or a call fails before. -/
theorem takes_or_limit (queue : List Acceptance) (count : Nat) :
    Takes queue count ∨ ∃ size cause, limit? queue = some (size, cause) ∧ size < count := by
  cases found : limit? queue with
  | none =>
    refine Or.inl fun size cause limit => ?_
    rw [found] at limit
    cases limit
  | some limit =>
    rcases Nat.lt_or_ge limit.1 count with short | enough
    · exact Or.inr ⟨limit.1, limit.2, rfl, short⟩
    · refine Or.inl fun size cause same => ?_
      rw [found] at same
      cases same
      exact enough

theorem Takes.of_cons {entry : Acceptance} {queue : List Acceptance} {count : Nat}
    (takes : Takes (entry :: queue) count) (harmless : entry.failure? = none) :
    Takes queue (count - entry.room) := by
  intro size cause found
  apply Nat.sub_le_iff_le_add'.mpr
  apply takes _ cause
  rw [limit?_cons_of_harmless harmless, found, Option.map_some]

end Acceptance

namespace Stream

/-! ## Reading from a supply -/

/-- Bytes that are supplied are read, and the others stay. -/
theorem readFrom_of_le {queue : List Arrival} {count : Nat}
    (enough : count ≤ (Supply.of queue).bytes.length) :
    ∃ left, readFrom queue count = (.ok ((Supply.of queue).bytes.take count), left) ∧
      Supply.of left = (Supply.of queue).skip count := by
  fun_induction readFrom queue count with
  | case1 queue => exact ⟨queue, rfl, rfl⟩
  | case2 => cases enough
  | case3 queue count => cases enough
  | case4 b bytes queue count portion more =>
    rw [Supply.of_cons_data (List.cons_ne_nil b bytes)]
    have within := Nat.le_of_lt more
    have rest : portion.drop (count + 1) ≠ [] := mt List.drop_eq_nil_iff.mp (Nat.not_le_of_lt more)
    refine ⟨.data (portion.drop (count + 1)) :: queue, ?_, ?_⟩
    · rw [Supply.prepend, List.take_append_of_le_length within]
    · rw [Supply.skip_prepend_of_le within, Supply.of_cons_data rest]
  | case5 b bytes queue count portion rest result left later ih =>
    rw [Supply.of_cons_data (List.cons_ne_nil b bytes)] at enough ⊢
    have within := Nat.le_of_not_lt rest
    rw [Supply.prepend, List.length_append] at enough
    obtain ⟨left', read, supply⟩ := ih (Nat.sub_le_iff_le_add'.mpr enough)
    obtain ⟨rfl, rfl⟩ := Prod.mk.inj (later.symm.trans read)
    refine ⟨left, ?_, ?_⟩
    · rw [Supply.prepend, List.take_append, List.take_of_length_le within]
      rfl
    · rw [supply, Supply.skip_prepend_of_ge within]
  | case6 cause queue count interrupted ih =>
    rw [Supply.of_cons_interrupted interrupted] at enough ⊢
    exact ih enough
  | case7 cause queue count lasting =>
    rw [Supply.of_cons_lasting lasting] at enough
    cases enough

/-- Bytes that are not supplied are not read, and those that are there are lost. -/
theorem readFrom_of_lt {queue : List Arrival} {count : Nat}
    (short : (Supply.of queue).bytes.length < count) :
    readFrom queue count = (.error (Supply.of queue).stop.fault, (Supply.of queue).behind) := by
  fun_induction readFrom queue count with
  | case1 queue => cases short
  | case2 => rfl
  | case3 queue count => rfl
  | case4 b bytes queue count portion more =>
    rw [Supply.of_cons_data (List.cons_ne_nil b bytes), Supply.prepend, List.length_append] at short
    exact absurd (Nat.lt_of_le_of_lt (Nat.le_add_right ..) short) (Nat.lt_asymm more)
  | case5 b bytes queue count portion rest result left later ih =>
    rw [Supply.of_cons_data (List.cons_ne_nil b bytes)] at short ⊢
    rw [Supply.prepend, List.length_append] at short
    have failed := ih (Nat.lt_sub_iff_add_lt'.mpr short)
    obtain ⟨rfl, rfl⟩ := Prod.mk.inj (later.symm.trans failed)
    rfl
  | case6 cause queue count interrupted ih =>
    rw [Supply.of_cons_interrupted interrupted] at short ⊢
    exact ih short
  | case7 cause queue count lasting => rw [Supply.of_cons_lasting lasting]

/-! ## Writing up to a limit -/

/-- Bytes that are all taken are written, and a queue without a failure stays one. -/
theorem writeTo_of_takes {queue : List Acceptance} {bytes : Bytes}
    (takes : Acceptance.Takes queue bytes.length) :
    ∃ left, writeTo queue bytes = (.ok (), left, bytes) ∧
      (Acceptance.limit? queue = none → Acceptance.limit? left = none) := by
  fun_induction writeTo queue bytes with
  | case1 queue => exact ⟨queue, rfl, id⟩
  | case2 bytes nonempty => exact ⟨[], rfl, id⟩
  | case3 queue b bytes => cases takes 0 .stalled rfl
  | case4 count queue bytes nonempty result left taken later ih =>
    have takesRest := takes.of_cons rfl
    rw [Acceptance.room, ← List.length_drop] at takesRest
    obtain ⟨left', written, stays⟩ := ih takesRest
    obtain ⟨rfl, rfl, rfl⟩ := later.symm.trans written
    refine ⟨left, ?_, fun endless => stays ?_⟩
    · rw [List.take_append_drop]
    · exact Option.map_eq_none_iff.mp endless
  | case5 cause queue bytes nonempty interrupted ih =>
    unfold Acceptance.Takes at takes
    rw [Acceptance.limit?_cons_interrupted interrupted] at takes ⊢
    exact ih takes
  | case6 cause queue bytes nonempty lasting =>
    have none := takes 0 cause (Acceptance.limit?_cons_lasting lasting queue)
    exact absurd (List.length_eq_zero_iff.mp (Nat.le_zero.mp none)) nonempty

/-- If a call fails before all bytes are taken, those before it are written. -/
theorem writeTo_of_limit {queue : List Acceptance} {bytes : Bytes} {size : Nat} {cause : Failure}
    (limit : Acceptance.limit? queue = some (size, cause)) (short : size < bytes.length) :
    ∃ left, writeTo queue bytes = (.error cause.fault, left, bytes.take size) := by
  fun_induction writeTo queue bytes generalizing size with
  | case1 queue => cases short
  | case2 bytes nonempty => cases limit
  | case3 queue b bytes =>
    cases limit
    exact ⟨queue, rfl⟩
  | case4 count queue bytes nonempty result left taken later ih =>
    obtain ⟨rest, limitRest, rfl⟩ := Acceptance.exists_of_limit?_cons rfl limit
    have shortRest : rest < (bytes.drop (count + 1)).length := by
      rw [List.length_drop]
      exact Nat.lt_sub_iff_add_lt'.mpr short
    obtain ⟨left', written⟩ := ih limitRest shortRest
    obtain ⟨rfl, rfl, rfl⟩ := later.symm.trans written
    have split : bytes.take (count.succ + rest) =
        bytes.take (count + 1) ++ (bytes.drop (count + 1)).take rest := List.take_add
    exact ⟨left, by rw [Acceptance.room, split]⟩
  | case5 cause' queue bytes nonempty interrupted ih =>
    rw [Acceptance.limit?_cons_interrupted interrupted] at limit
    exact ih limit short
  | case6 cause' queue bytes nonempty lasting =>
    rw [Acceptance.limit?_cons_lasting lasting] at limit
    cases limit
    exact ⟨queue, rfl⟩

end Stream

end S7Link
