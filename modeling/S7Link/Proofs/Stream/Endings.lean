import S7Link.Proofs.Stream.Frames

/-!
# How exchanges end

An exchange ends in one of five ways (`Stream.Course`): the request is not taken in full, it is not
passed on, no complete frame follows, the opening of the frame is refused, or a frame is received.
Each way tells what has become of the stream. The failure that ended an exchange is told by the
queues alone (`Stream.EndedBy`), and the fault of the exchange by that failure.
-/

namespace S7Link

namespace Failure

/-- A call on a stream that was not ready in time. -/
def IsLate (cause : Failure) : Prop := cause.kind = .wouldBlock ∨ cause.kind = .timedOut

instance (cause : Failure) : Decidable cause.IsLate := inferInstanceAs (Decidable (_ ∨ _))

theorem fault_of_isLate {cause : Failure} (late : cause.IsLate) : cause.fault = .timeout := by
  rcases late with kind | kind
  · rw [fault, kind]
  · rw [fault, kind]

theorem fault_of_not_isLate {cause : Failure} (inTime : ¬cause.IsLate) :
    cause.fault = .connection cause.text := by
  unfold fault
  split
  · next kind => exact absurd (Or.inl kind) inTime
  · next kind => exact absurd (Or.inr kind) inTime
  · rfl

theorem fault_eq_timeout_iff {cause : Failure} : cause.fault = .timeout ↔ cause.IsLate := by
  refine ⟨fun same => Decidable.byContradiction fun inTime => ?_, fault_of_isLate⟩
  rw [fault_of_not_isLate inTime] at same
  cases same

theorem fault_eq_connection_iff {cause : Failure} {text : String} :
    cause.fault = .connection text ↔ ¬cause.IsLate ∧ cause.text = text := by
  refine ⟨fun same => ?_, fun ⟨inTime, told⟩ => told ▸ fault_of_not_isLate inTime⟩
  have inTime : ¬cause.IsLate := by
    intro late
    rw [fault_of_isLate late] at same
    cases same
  rw [fault_of_not_isLate inTime] at same
  exact ⟨inTime, Fault.connection.inj same⟩

theorem fault_ne_malformed (cause : Failure) {malformation : Malformation} :
    cause.fault ≠ .malformed malformation := by
  unfold fault
  split
  · exact nofun
  · exact nofun
  · exact nofun

end Failure

namespace Stream

/-- A request is taken in full and passed on. -/
structure Sent (stream : Stream) (request : Bytes) : Prop where
  taken : Acceptance.Takes stream.writes request.length
  flushed : stream.flushes = []

/-- A request is sent if writing and flushing succeed. -/
theorem sent_iff {stream : Stream} {request : Bytes} :
    Sent stream request ↔
      (stream.writeAll request).1 = .ok () ∧ (stream.writeAll request).2.flush.1 = .ok () := by
  rcases Acceptance.takes_or_limit stream.writes request.length with taken | limited
  · obtain ⟨writes, written, _⟩ := writeAll_of_takes taken
    rw [written]
    dsimp only
    refine ⟨fun sent => ⟨rfl, by rw [flush, sent.flushed]⟩, fun ⟨_, passed⟩ => ⟨taken, ?_⟩⟩
    cases flushes : stream.flushes with
    | nil => rfl
    | cons cause flushes =>
      rw [flush, flushes] at passed
      cases passed
  · obtain ⟨size, cause, limit, short⟩ := limited
    obtain ⟨writes, written⟩ := writeAll_of_limit limit short
    rw [written]
    refine ⟨fun sent => absurd short (Nat.not_lt_of_le (sent.taken _ _ limit)), fun passed => ?_⟩
    cases passed.1

/-- The failure that ends an exchange: the first that no further call makes up for. -/
inductive EndedBy (stream : Stream) (request : Bytes) (cause : Failure) : Prop
  /-- A write call fails before the whole request is taken. -/
  | writing {size : Nat} (limit : Acceptance.limit? stream.writes = some (size, cause))
      (short : size < request.length)
  /-- The request is taken, but not passed on. -/
  | flushing {flushes : List Failure} (taken : Acceptance.Takes stream.writes request.length)
      (failed : stream.flushes = cause :: flushes)
  /-- The request is sent, but a read call fails before there is a frame. -/
  | reading (sent : Sent stream request) (short : Incomplete (Supply.of stream.reads).bytes)
      (stop : (Supply.of stream.reads).stop = cause)

/-- The ways in which an exchange goes, each with its result and the stream afterwards. -/
inductive Course (stream : Stream) (request : Bytes) : Except Fault Bytes → Stream → Prop
  | unwritten {cause : Failure} {size : Nat} {writes : List Acceptance}
      (limit : Acceptance.limit? stream.writes = some (size, cause))
      (short : size < request.length) :
      Course stream request (.error cause.fault)
        { stream with writes, written := stream.written ++ request.take size }
  | unflushed {cause : Failure} {writes : List Acceptance} {flushes : List Failure}
      (taken : Acceptance.Takes stream.writes request.length)
      (failed : stream.flushes = cause :: flushes) :
      Course stream request (.error cause.fault)
        { stream with writes, flushes, written := stream.written ++ request }
  | unfinished {writes : List Acceptance} (sent : Sent stream request)
      (short : Incomplete (Supply.of stream.reads).bytes) :
      Course stream request (.error (Supply.of stream.reads).stop.fault)
        { stream with
          reads := (Supply.of stream.reads).behind, writes, written := stream.written ++ request }
  | refused {cause : Malformation} {front : Bytes} {reads : List Arrival}
      {writes : List Acceptance} (sent : Sent stream request) (opening : front.length = frontSize)
      (refused : frameLength front = .error cause)
      (left : stream.reads.flatMap Arrival.bytes = front ++ reads.flatMap Arrival.bytes) :
      Course stream request (.error (.malformed cause))
        { stream with reads, writes, written := stream.written ++ request }
  | received {frame : Bytes} {reads : List Arrival} {writes : List Acceptance}
      (sent : Sent stream request) (complete : IsFrame frame)
      (left : stream.reads.flatMap Arrival.bytes = frame ++ reads.flatMap Arrival.bytes) :
      Course stream request (.ok frame)
        { stream with reads, writes, written := stream.written ++ request }

section

variable {stream after : Stream} {request : Bytes} {result : Except Fault Bytes}

/-! ## Exchanges that a failure ends -/

/-- If a write call fails, what was taken before it is written and nothing is read. -/
theorem exchange_of_limit {size : Nat} {cause : Failure}
    (limit : Acceptance.limit? stream.writes = some (size, cause)) (short : size < request.length) :
    ∃ writes, stream.exchange request = (.error cause.fault,
      { stream with writes, written := stream.written ++ request.take size }) := by
  obtain ⟨writes, written⟩ := writeAll_of_limit limit short
  exact ⟨writes, by rw [exchange, written]⟩

/-- If the stream does not pass the request on, nothing is read. -/
theorem exchange_of_unflushed {cause : Failure} {flushes : List Failure}
    (taken : Acceptance.Takes stream.writes request.length)
    (failed : stream.flushes = cause :: flushes) :
    ∃ writes, stream.exchange request = (.error cause.fault,
      { stream with writes, flushes, written := stream.written ++ request }) := by
  obtain ⟨writes, written, _⟩ := writeAll_of_takes taken
  refine ⟨writes, ?_⟩
  rw [exchange, written]
  dsimp only
  rw [flush, failed]

/-- If no frame follows, what arrived instead of it is lost. -/
theorem exchange_of_incomplete (sent : Sent stream request)
    (short : Incomplete (Supply.of stream.reads).bytes) :
    ∃ writes, stream.exchange request = (.error (Supply.of stream.reads).stop.fault,
      { stream with
        reads := (Supply.of stream.reads).behind, writes
        written := stream.written ++ request }) := by
  obtain ⟨writes, written, _⟩ := exchange_of_takes sent.taken sent.flushed
  exact ⟨writes, written.trans (readFrame_of_incomplete _ short)⟩

/-- The failure that ends an exchange tells its fault. -/
theorem EndedBy.exchange_eq {cause : Failure} (ended : EndedBy stream request cause) :
    (stream.exchange request).1 = .error cause.fault := by
  cases ended with
  | writing limit short =>
    obtain ⟨_, failed⟩ := exchange_of_limit limit short
    rw [failed]
  | flushing taken failed =>
    obtain ⟨_, failed⟩ := exchange_of_unflushed taken failed
    rw [failed]
  | reading sent short stop =>
    obtain ⟨_, failed⟩ := exchange_of_incomplete sent short
    rw [failed, stop]

/-- Read and write calls that are interrupted end no exchange. -/
theorem EndedBy.flushing_of_interrupted {cause : Failure} (ended : EndedBy stream request cause)
    (interrupted : cause.kind = .interrupted) :
    Acceptance.Takes stream.writes request.length ∧ stream.flushes.head? = some cause := by
  cases ended with
  | writing limit _ => exact absurd interrupted (Acceptance.kind_of_limit? limit)
  | flushing taken failed => exact ⟨taken, by rw [failed, List.head?_cons]⟩
  | reading _ _ stop => exact absurd interrupted (stop ▸ Supply.kind_stop stream.reads)

/-! ## Every exchange takes one of the courses -/

theorem exchange_course (stream : Stream) (request : Bytes) :
    Course stream request (stream.exchange request).1 (stream.exchange request).2 := by
  rcases Acceptance.takes_or_limit stream.writes request.length with taken | limited
  · cases flushed : stream.flushes with
    | cons cause flushes =>
      obtain ⟨writes, failed⟩ := exchange_of_unflushed taken flushed
      rw [failed]
      exact .unflushed taken flushed
    | nil =>
      have sent : Sent stream request := ⟨taken, flushed⟩
      rcases opening (Supply.of stream.reads).bytes with short | refused | framed
      · obtain ⟨writes, failed⟩ := exchange_of_incomplete sent short
        rw [failed]
        exact .unfinished sent short
      · obtain ⟨front, rest, cause, supplied, opening, refused⟩ := refused
        obtain ⟨writes, written, _⟩ := exchange_of_takes taken flushed
        obtain ⟨reads, read, supply⟩ := readFrame_of_refused
          { stream with writes, written := stream.written ++ request } supplied opening refused
        rw [written, read]
        exact .refused sent opening refused (Supply.flatMap_bytes_of_append supplied supply)
      · obtain ⟨frame, rest, supplied, complete⟩ := framed
        obtain ⟨writes, written, _⟩ := exchange_of_takes taken flushed
        obtain ⟨reads, read, supply⟩ := readFrame_of_isFrame
          { stream with writes, written := stream.written ++ request } supplied complete
        rw [written, read]
        exact .received sent complete (Supply.flatMap_bytes_of_append supplied supply)
  · obtain ⟨size, cause, limit, short⟩ := limited
    obtain ⟨writes, failed⟩ := exchange_of_limit limit short
    rw [failed]
    exact .unwritten limit short

namespace Course

/-- Nothing is read unless the request was sent. -/
theorem reads_eq (course : Course stream request result after) (unsent : ¬Sent stream request) :
    after.reads = stream.reads := by
  cases course with
  | unwritten | unflushed => rfl
  | unfinished sent | refused sent | received sent => exact absurd sent unsent

/-- A part of the request is written. -/
theorem written_eq (course : Course stream request result after) :
    ∃ part, part <+: request ∧ after.written = stream.written ++ part := by
  cases course with
  | unwritten => exact ⟨_, List.take_prefix .., rfl⟩
  | unflushed | unfinished | refused | received => exact ⟨request, List.prefix_rfl, rfl⟩

/-- The request is written in full unless a write call fails before its end. -/
theorem written_eq_of_takes (course : Course stream request result after)
    (taken : Acceptance.Takes stream.writes request.length) :
    after.written = stream.written ++ request := by
  cases course with
  | unwritten limit short => exact absurd short (Nat.not_lt_of_le (taken _ _ limit))
  | unflushed | unfinished | refused | received => rfl

/-- A frame that is received is what was taken off the unread bytes. -/
theorem unread_of_ok {frame : Bytes} (course : Course stream request (.ok frame) after) :
    Sent stream request ∧ IsFrame frame ∧ stream.unread = frame ++ after.unread := by
  cases course with
  | received sent complete left => exact ⟨sent, complete, left⟩

/-- A failure ends an exchange without a frame, unless the frame is refused for its opening. -/
theorem of_error {fault : Fault} (course : Course stream request result after)
    (failed : result = .error fault) :
    (∃ cause, fault = cause.fault ∧ EndedBy stream request cause) ∨
      ∃ cause front, fault = .malformed cause ∧ Sent stream request ∧
        front.length = frontSize ∧ frameLength front = .error cause ∧
        stream.unread = front ++ after.unread := by
  cases course with
  | unwritten limit short => exact Or.inl ⟨_, (Except.error.inj failed).symm, .writing limit short⟩
  | unflushed taken unflushed =>
    exact Or.inl ⟨_, (Except.error.inj failed).symm, .flushing taken unflushed⟩
  | unfinished sent short =>
    exact Or.inl ⟨_, (Except.error.inj failed).symm, .reading sent short rfl⟩
  | refused sent opening refused left =>
    exact Or.inr ⟨_, _, (Except.error.inj failed).symm, sent, opening, refused, left⟩
  | received => cases failed

end Course

/-! ## The account of an exchange -/

/-- What an exchange has done to a stream, and why it gave no frame if it gave none. -/
structure Account (stream : Stream) (request : Bytes) (result : Except Fault Bytes)
    (after : Stream) : Prop where
  sent_iff : Sent stream request ↔
    (stream.writeAll request).1 = .ok () ∧ (stream.writeAll request).2.flush.1 = .ok ()
  /-- Nothing is read before the whole request is taken and passed on. -/
  reads_eq : ¬Sent stream request → after.reads = stream.reads
  written_eq : ∃ part, part <+: request ∧ after.written = stream.written ++ part
  written_eq_of_takes : Acceptance.Takes stream.writes request.length →
    after.written = stream.written ++ request
  /-- As many bytes are read as the frame has that is received. -/
  received : ∀ frame, result = .ok frame →
    Sent stream request ∧ IsFrame frame ∧ stream.unread = frame ++ after.unread
  /-- Four bytes are read of a frame that is refused, and they are the reason. -/
  refused : ∀ cause, result = .error (.malformed cause) →
    Sent stream request ∧ ∃ front, front.length = 4 ∧ frameLength front = .error cause ∧
      stream.unread = front ++ after.unread
  timeout_iff : result = .error .timeout ↔ ∃ cause, EndedBy stream request cause ∧ cause.IsLate
  connection_iff : ∀ text, result = .error (.connection text) ↔
    ∃ cause, EndedBy stream request cause ∧ ¬cause.IsLate ∧ cause.text = text
  /-- A frame that is refused is the only other reason to give none. -/
  malformed : ∀ fault, result = .error fault → (∀ cause, ¬EndedBy stream request cause) →
    ∃ cause, fault = .malformed cause
  /-- Read and write calls that are interrupted are made again, and flush calls are not. -/
  interrupted : ∀ cause, EndedBy stream request cause → cause.kind = .interrupted →
    Acceptance.Takes stream.writes request.length ∧ stream.flushes.head? = some cause

theorem exchange_accounted (stream : Stream) (request : Bytes) :
    Account stream request (stream.exchange request).1 (stream.exchange request).2 := by
  have course := exchange_course stream request
  have decided {cause} (ended : EndedBy stream request cause) := ended.exchange_eq
  generalize (stream.exchange request).1 = result at course decided
  generalize (stream.exchange request).2 = after at course
  refine ⟨sent_iff, course.reads_eq, course.written_eq, course.written_eq_of_takes, ?received,
    ?refused, ?timeout_iff, ?connection_iff, ?malformed, fun _ => EndedBy.flushing_of_interrupted⟩
  case received =>
    rintro frame rfl
    exact course.unread_of_ok
  case refused =>
    intro cause refused
    rcases course.of_error refused with ⟨failure, same, _⟩ | ⟨_, front, same, sent, opened⟩
    · exact absurd same.symm failure.fault_ne_malformed
    · cases same
      exact ⟨sent, front, opened⟩
  case timeout_iff =>
    refine ⟨fun failed => ?_, fun ⟨cause, ended, late⟩ => ?_⟩
    · rcases course.of_error failed with ⟨cause, same, ended⟩ | ⟨_, _, same, _⟩
      · exact ⟨cause, ended, Failure.fault_eq_timeout_iff.mp same.symm⟩
      · cases same
    · rw [decided ended, Failure.fault_of_isLate late]
  case connection_iff =>
    refine fun text => ⟨fun failed => ?_, ?_⟩
    · rcases course.of_error failed with ⟨cause, same, ended⟩ | ⟨_, _, same, _⟩
      · exact ⟨cause, ended, Failure.fault_eq_connection_iff.mp same.symm⟩
      · cases same
    · rintro ⟨cause, ended, told⟩
      rw [decided ended, Failure.fault_eq_connection_iff.mpr told]
  case malformed =>
    intro fault failed endless
    rcases course.of_error failed with ⟨cause, _, ended⟩ | ⟨cause, _, same, _⟩
    · exact absurd ended (endless cause)
    · exact ⟨cause, same⟩

end

/-- A request of which one byte is taken before the stream is late: nothing is read. -/
example :
    exchange ⟨[.data [3, 0, 0, 4]], [.upTo 1, .failure ⟨.timedOut, "timed out"⟩], [], []⟩ [1, 2] =
      (.error .timeout, ⟨[.data [3, 0, 0, 4]], [], [], [1]⟩) := rfl

end Stream

end S7Link
