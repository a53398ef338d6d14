import S7Link.Proofs.Stream.Frames
import S7Link.Session.Transport

/-!
# Portions

A stream on which calls are at most interrupted may cut what arrives into any portions and take
what is written in any others. Its exchanges come to what they would on the bytes alone: the state
of such a stream is abstracted to its unread bytes, and `Stream.cut` takes the next frame off them.
One exchange cuts once (`Stream.Delivers.exchange`), so exchanges in a row cut one answer after
another (`Stream.Delivers.exchangeAll`).
-/

namespace S7Link.Stream

/-- A stream on which a call fails only by being interrupted, before it is made again. In
particular no read call gives an empty portion and no write call takes nothing. -/
structure Smooth (stream : Stream) : Prop where
  reads : ∀ entry ∈ stream.reads, entry.failure? = none
  writes : ∀ entry ∈ stream.writes, entry.failure? = none
  flushes : stream.flushes = []

/-- A stream that takes everything and has the given bytes arrive before it ends. -/
structure Delivers (stream : Stream) (bytes : Bytes) : Prop where
  reads : Supply.of stream.reads = ⟨bytes, .endOfStream, []⟩
  writes : Acceptance.limit? stream.writes = none
  flushes : stream.flushes = []

theorem unread_eq (stream : Stream) : stream.unread = stream.reads.flatMap Arrival.bytes :=
  rfl

theorem Smooth.delivers {stream : Stream} (smooth : stream.Smooth) :
    stream.Delivers stream.unread where
  reads := by rw [Supply.of_harmless smooth.reads, unread_eq]
  writes := Acceptance.limit?_harmless smooth.writes
  flushes := smooth.flushes

theorem Delivers.unread_eq {stream : Stream} {bytes : Bytes} (delivers : stream.Delivers bytes) :
    stream.unread = bytes := by
  rw [Stream.unread_eq, Supply.flatMap_bytes, delivers.reads, List.flatMap_nil, List.append_nil]

/-! ## One answer off the bytes -/

/-- The answer to a request that is found at the front of bytes behind which a stream ends, and the
bytes that are left. -/
def cut : Transport Bytes := fun bytes _ =>
  if bytes.length < frontSize then (.error readEnded, [])
  else
    match frameLength (bytes.take frontSize) with
    | .error cause => (.error (.malformed cause), bytes.drop frontSize)
    | .ok length =>
      if bytes.length < length then (.error readEnded, [])
      else (.ok (bytes.take length), bytes.drop length)

/-- A frame is cut off. -/
theorem cut_of_isFrame {frame : Bytes} (complete : IsFrame frame) (rest request : Bytes) :
    cut (frame ++ rest) request = (.ok frame, rest) := by
  have within : frame.length ≤ (frame ++ rest).length := by
    rw [List.length_append]
    exact Nat.le_add_right ..
  have opening : (frame ++ rest).take frontSize = frame.take frontSize :=
    List.take_append_of_le_length complete.long
  rw [cut, if_neg (Nat.not_lt_of_le (Nat.le_trans complete.long within)), opening,
    frameLength_eq_ok_of_isFrame complete]
  dsimp only
  rw [if_neg (Nat.not_lt_of_le within), List.take_left, List.drop_left]

/-- Frames are cut off one after another. -/
theorem exchangeAll_cut {frames requests : List Bytes} (complete : ∀ frame ∈ frames, IsFrame frame)
    (few : frames.length ≤ requests.length) (rest : Bytes) :
    (Transport.exchangeAll cut (frames.flatten ++ rest) requests).1.take frames.length =
        frames.map .ok ∧
      (Transport.exchangeAll cut (frames.flatten ++ rest) (requests.take frames.length)).2 =
        rest := by
  induction frames generalizing requests with
  | nil => exact ⟨rfl, rfl⟩
  | cons frame frames ih =>
    cases requests with
    | nil => cases few
    | cons request requests =>
      rw [List.forall_mem_cons] at complete
      obtain ⟨answers, left⟩ := ih complete.2 (Nat.le_of_succ_le_succ few)
      rw [List.length_cons, List.take_succ_cons, Transport.exchangeAll_cons,
        Transport.exchangeAll_cons, List.flatten_cons, List.append_assoc,
        cut_of_isFrame complete.1, List.take_succ_cons, answers, List.map_cons]
      exact ⟨rfl, left⟩

/-! ## One exchange after another -/

/-- Reading a frame cuts an answer off the bytes that arrive. -/
theorem Delivers.readFrame {stream : Stream} {bytes : Bytes} (delivers : stream.Delivers bytes)
    (request : Bytes) :
    ∃ reads, stream.readFrame = ((cut bytes request).1, { stream with reads }) ∧
      Supply.of reads = ⟨(cut bytes request).2, .endOfStream, []⟩ := by
  have supplied : (Supply.of stream.reads).bytes = bytes := by rw [delivers.reads]
  have lost (short : Incomplete bytes) :
      stream.readFrame = (.error readEnded, { stream with reads := [] }) := by
    rw [readFrame_of_incomplete stream (supplied ▸ short), delivers.reads]
    rfl
  have split (count : Nat) :
      (Supply.of stream.reads).bytes = bytes.take count ++ bytes.drop count := by
    rw [supplied, List.take_append_drop]
  unfold cut
  split
  · next none => exact ⟨[], lost (Or.inl none), rfl⟩
  · next opened =>
    have opening := List.length_take_of_le (Nat.le_of_not_lt opened)
    split
    · next cause refused =>
      obtain ⟨reads, read, supply⟩ := readFrame_of_refused stream (split frontSize) opening refused
      exact ⟨reads, read, by rw [supply, delivers.reads]⟩
    · next length told =>
      split
      · next short => exact ⟨[], lost (Or.inr ⟨length, told, short⟩), rfl⟩
      · next enough =>
        have complete := isFrame_of_frameLength told (Nat.le_of_not_lt enough)
        obtain ⟨reads, read, supply⟩ := readFrame_of_isFrame stream (split length) complete
        exact ⟨reads, read, by rw [supply, delivers.reads]⟩

/-- An exchange writes the request and cuts an answer off the bytes that arrive. -/
theorem Delivers.exchange {stream : Stream} {bytes : Bytes} (delivers : stream.Delivers bytes)
    (request : Bytes) :
    ∃ after, stream.exchange request = ((cut bytes request).1, after) ∧
      after.Delivers (cut bytes request).2 ∧ after.written = stream.written ++ request := by
  have takes : Acceptance.Takes stream.writes request.length := by
    intro size cause found
    rw [delivers.writes] at found
    cases found
  obtain ⟨writes, sent, endless⟩ := exchange_of_takes takes delivers.flushes
  have ready : Delivers { stream with writes, written := stream.written ++ request } bytes :=
    ⟨delivers.reads, endless delivers.writes, delivers.flushes⟩
  obtain ⟨reads, read, supply⟩ := ready.readFrame request
  exact ⟨_, sent.trans read, ⟨supply, ready.writes, ready.flushes⟩, rfl⟩

/-- Exchanges in a row write the requests and cut one answer after another. -/
theorem Delivers.exchangeAll {stream : Stream} {bytes : Bytes} (delivers : stream.Delivers bytes)
    (requests : List Bytes) :
    ∃ after, Transport.exchangeAll Stream.exchange stream requests =
        ((Transport.exchangeAll cut bytes requests).1, after) ∧
      after.Delivers (Transport.exchangeAll cut bytes requests).2 ∧
      after.written = stream.written ++ requests.flatten := by
  induction requests generalizing stream bytes with
  | nil => exact ⟨stream, rfl, delivers, (List.append_nil _).symm⟩
  | cons request requests ih =>
    obtain ⟨next, exchanged, deliversNext, written⟩ := delivers.exchange request
    obtain ⟨after, others, deliversAfter, writtenAfter⟩ := ih deliversNext
    refine ⟨after, ?_, deliversAfter, ?_⟩
    · rw [Transport.exchangeAll_cons, Transport.exchangeAll_cons, exchanged, others]
    · rw [writtenAfter, written, List.append_assoc, List.flatten_cons]

/-- What exchanges over a stream that at most interrupts come to depends on the concatenation of
what arrives alone: streams that cut the same bytes into other portions, and take what is written in
others, give the same answers. All requests are written one after another. As long as the bytes go
on with frames, the answers are these frames, and once the last of them is received, what is left to
read begins behind it. -/
theorem Smooth.exchangeAll_framed {stream : Stream} (smooth : stream.Smooth)
    (requests : List Bytes) :
    let (answers, after) := Transport.exchangeAll Stream.exchange stream requests
    (∀ other : Stream, other.Smooth → other.unread = stream.unread →
      (Transport.exchangeAll Stream.exchange other requests).1 = answers ∧
        (Transport.exchangeAll Stream.exchange other requests).2.unread = after.unread) ∧
    after.written = stream.written ++ requests.flatten ∧
    ∀ (frames : List Bytes) (rest : Bytes), stream.unread = frames.flatten ++ rest →
      (∀ frame ∈ frames, IsFrame frame) → frames.length ≤ requests.length →
        answers.take frames.length = frames.map .ok ∧
          (Transport.exchangeAll Stream.exchange stream
            (requests.take frames.length)).2.unread = rest := by
  obtain ⟨after, exchanged, left, written⟩ := smooth.delivers.exchangeAll requests
  rw [exchanged]
  refine ⟨fun other smoothOther same => ?_, written, fun frames rest bytes complete few => ?_⟩
  · obtain ⟨afterOther, exchangedOther, leftOther, _⟩ := smoothOther.delivers.exchangeAll requests
    rw [same] at exchangedOther leftOther
    rw [exchangedOther, leftOther.unread_eq, left.unread_eq]
    exact ⟨rfl, rfl⟩
  · obtain ⟨received, exchangedSome, leftSome, _⟩ :=
      smooth.delivers.exchangeAll (requests.take frames.length)
    rw [exchangedSome, leftSome.unread_eq, bytes]
    exact exchangeAll_cut complete few rest

/-- Two frames and a byte behind them, cut in the middle of a length and across the border of the
frames. -/
def scattered : Stream where
  reads := [.data [3, 0, 0], .failure ⟨.interrupted, "call interrupted"⟩, .data [6, 1],
    .data [2, 3, 0], .data [0, 4, 9]]
  writes := [.upTo 1, .failure ⟨.interrupted, "call interrupted"⟩, .upTo 2]
  flushes := []
  written := []

/-- The same bytes in one portion, on a stream that takes everything. -/
def gathered : Stream := ⟨[.data [3, 0, 0, 6, 1, 2, 3, 0, 0, 4, 9]], [], [], []⟩

theorem smooth_scattered : scattered.Smooth where
  reads := by decide
  writes := by decide
  flushes := rfl

theorem smooth_gathered : gathered.Smooth where
  reads := by decide
  writes := by decide
  flushes := rfl

/-- In any portions, two requests are answered by the two frames, and the byte behind them stays. -/
theorem exchangeAll_framed_scattered :
    let (answers, after) := Transport.exchangeAll Stream.exchange scattered [[7, 8], [5]]
    (Transport.exchangeAll Stream.exchange gathered [[7, 8], [5]]).1 = answers ∧
      answers = [.ok [3, 0, 0, 6, 1, 2], .ok [3, 0, 0, 4]] ∧ after.unread = [9] ∧
      after.written = [7, 8, 5] := by
  obtain ⟨same, written, framed⟩ := smooth_scattered.exchangeAll_framed [[7, 8], [5]]
  have complete : ∀ frame ∈ [[3, 0, 0, 6, 1, 2], [3, 0, 0, 4]], IsFrame frame := by
    intro frame member
    have cases : frame = [3, 0, 0, 6, 1, 2] ∨ frame = [3, 0, 0, 4] := by simpa using member
    rcases cases with rfl | rfl
    · exact ⟨by decide, rfl, rfl⟩
    · exact ⟨by decide, rfl, rfl⟩
  obtain ⟨answers, left⟩ := framed _ [9] rfl complete (Nat.le_refl 2)
  exact ⟨(same gathered smooth_gathered rfl).1, answers, left, written⟩

end S7Link.Stream
