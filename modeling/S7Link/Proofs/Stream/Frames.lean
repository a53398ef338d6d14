import S7Link.Proofs.Outcome
import S7Link.Proofs.Stream.Supply

/-!
# Frames off a supply

The bytes of a supply begin with a frame, with four bytes that open none, or they end too early
(`Stream.opening`). What reading a frame comes to is told for each of the three in terms of the
supply alone: a frame is taken off the front of the bytes, an opening that is refused costs four of
them, and an incomplete frame is lost together with the failure that cut it off. An exchange comes
to that once its request is taken in full and passed on (`Stream.exchange_of_takes`).
-/

namespace S7Link.Stream

open Outcome

/-! ## How bytes begin -/

/-- Bytes that are one frame: they begin with the version and the length of them all. -/
structure IsFrame (frame : Bytes) : Prop where
  long : frontSize ≤ frame.length
  version : frame.head? = some Frame.envelopeVersion
  length_eq : BigEndian.read ((frame.drop 2).take 2) = frame.length

/-- Bytes that end before they make up a frame or even the opening of one. -/
def Incomplete (bytes : Bytes) : Prop :=
  bytes.length < frontSize ∨
    ∃ length, frameLength (bytes.take frontSize) = .ok length ∧ bytes.length < length

/-- A length is told by the version and a number that counts at least the opening. -/
theorem frameLength_eq_ok_iff {front : Bytes} {length : Nat} :
    frameLength front = .ok length ↔
      front.head? = some Frame.envelopeVersion ∧ BigEndian.read (front.drop 2) = length ∧
        frontSize ≤ length := by
  unfold frameLength
  cases front with
  | nil => simp
  | cons version front =>
    dsimp only
    rw [List.head?_cons, Option.some_inj, ite_error_eq_ok_iff, ite_error_eq_ok_iff,
      Decidable.not_not, Nat.not_lt, Except.ok.injEq]
    constructor
    · rintro ⟨version, large, rfl⟩
      exact ⟨version, rfl, large⟩
    · rintro ⟨version, rfl, large⟩
      exact ⟨version, large, rfl⟩

theorem drop_take_front (bytes : Bytes) :
    (bytes.take frontSize).drop 2 = (bytes.drop 2).take 2 := List.drop_take

/-- The opening of a frame tells its length. -/
theorem frameLength_eq_ok_of_isFrame {frame : Bytes} (complete : IsFrame frame) :
    frameLength (frame.take frontSize) = .ok frame.length := by
  refine frameLength_eq_ok_iff.mpr ⟨?_, ?_, complete.long⟩
  · rw [List.head?_take, if_neg (by decide), complete.version]
  · rw [drop_take_front, complete.length_eq]

/-- As many bytes as their opening tells are a frame. -/
theorem isFrame_of_frameLength {bytes : Bytes} {length : Nat}
    (told : frameLength (bytes.take frontSize) = .ok length) (enough : length ≤ bytes.length) :
    IsFrame (bytes.take length) := by
  obtain ⟨version, number, long⟩ := frameLength_eq_ok_iff.mp told
  rw [List.head?_take, if_neg (by decide)] at version
  rw [drop_take_front] at number
  have size : (bytes.take length).length = length := List.length_take_of_le enough
  have opening : (bytes.take length).take frontSize = bytes.take frontSize := by
    rw [List.take_take, Nat.min_eq_left long]
  refine ⟨size.symm ▸ long, ?_, ?_⟩
  · rw [List.head?_take, if_neg (Nat.ne_of_gt (Nat.lt_of_lt_of_le (by decide) long)), version]
  · rw [← drop_take_front, opening, drop_take_front, number, size]

/-- Bytes end too early, or begin with four bytes that open no frame, or begin with a frame. -/
theorem opening (bytes : Bytes) :
    Incomplete bytes ∨
      (∃ front rest cause, bytes = front ++ rest ∧ front.length = frontSize ∧
        frameLength front = .error cause) ∨
      ∃ frame rest, bytes = frame ++ rest ∧ IsFrame frame := by
  rcases Nat.lt_or_ge bytes.length frontSize with short | long
  · exact Or.inl (Or.inl short)
  · cases told : frameLength (bytes.take frontSize) with
    | error cause =>
      refine Or.inr (Or.inl ⟨_, bytes.drop frontSize, cause, ?_, ?_, told⟩)
      · exact (List.take_append_drop ..).symm
      · exact List.length_take_of_le long
    | ok length =>
      rcases Nat.lt_or_ge bytes.length length with short | enough
      · exact Or.inl (Or.inr ⟨length, told, short⟩)
      · exact Or.inr (Or.inr ⟨_, bytes.drop length, (List.take_append_drop ..).symm,
          isFrame_of_frameLength told enough⟩)

/-! ## Reading one frame -/

section

variable (stream : Stream) {front frame rest : Bytes}

/-- Bytes at the front of a supply are read, and the others stay. -/
theorem readExact_of_append (supplied : (Supply.of stream.reads).bytes = front ++ rest) :
    ∃ left, stream.readExact front.length = (.ok front, { stream with reads := left }) ∧
      Supply.of left = { Supply.of stream.reads with bytes := rest } := by
  have enough : front.length ≤ (Supply.of stream.reads).bytes.length := by
    rw [supplied, List.length_append]
    exact Nat.le_add_right ..
  obtain ⟨left, read, supply⟩ := readFrom_of_le enough
  rw [supplied, List.take_left] at read
  rw [Supply.skip, supplied, List.drop_left] at supply
  exact ⟨left, by rw [readExact, read], supply⟩

/-- An opening that tells no length is refused, and no more is read. -/
theorem readFrame_of_refused {cause : Malformation}
    (supplied : (Supply.of stream.reads).bytes = front ++ rest)
    (opening : front.length = frontSize) (refused : frameLength front = .error cause) :
    ∃ left, stream.readFrame = (.error (.malformed cause), { stream with reads := left }) ∧
      Supply.of left = { Supply.of stream.reads with bytes := rest } := by
  obtain ⟨left, read, supply⟩ := readExact_of_append stream supplied
  rw [opening] at read
  refine ⟨left, ?_, supply⟩
  rw [readFrame, read]
  dsimp only
  rw [refused]

/-- A frame that is supplied is read, and what is behind it stays. -/
theorem readFrame_of_isFrame (supplied : (Supply.of stream.reads).bytes = frame ++ rest)
    (complete : IsFrame frame) :
    ∃ left, stream.readFrame = (.ok frame, { stream with reads := left }) ∧
      Supply.of left = { Supply.of stream.reads with bytes := rest } := by
  have split : frame = frame.take frontSize ++ frame.drop frontSize :=
    (List.take_append_drop ..).symm
  have opening : (frame.take frontSize).length = frontSize := List.length_take_of_le complete.long
  have body : (frame.drop frontSize).length = frame.length - frontSize := List.length_drop
  rw [split, List.append_assoc] at supplied
  obtain ⟨middle, readFront, supplyMiddle⟩ := readExact_of_append stream supplied
  have suppliedMiddle : (Supply.of middle).bytes = frame.drop frontSize ++ rest := by
    rw [supplyMiddle]
  obtain ⟨left, readBody, supply⟩ :=
    readExact_of_append { stream with reads := middle } suppliedMiddle
  rw [opening] at readFront
  rw [body] at readBody
  refine ⟨left, ?_, ?_⟩
  · rw [readFrame, readFront]
    dsimp only
    rw [frameLength_eq_ok_of_isFrame complete]
    dsimp only
    rw [readBody]
    dsimp only
    rw [← split]
  · rw [supply, supplyMiddle]

/-- Fewer bytes than asked for are lost, and the failure that comes instead ends the reading. -/
theorem readExact_of_lt {count : Nat} (short : (Supply.of stream.reads).bytes.length < count) :
    stream.readExact count = (.error (Supply.of stream.reads).stop.fault,
      { stream with reads := (Supply.of stream.reads).behind }) := by
  rw [readExact, readFrom_of_lt short]

/-- A frame that does not arrive in full ends with the failure that comes instead. -/
theorem readFrame_of_incomplete (short : Incomplete (Supply.of stream.reads).bytes) :
    stream.readFrame = (.error (Supply.of stream.reads).stop.fault,
      { stream with reads := (Supply.of stream.reads).behind }) := by
  rcases Nat.lt_or_ge (Supply.of stream.reads).bytes.length frontSize with none | opened
  · rw [readFrame, readExact_of_lt stream none]
  · obtain ⟨length, told, shortBody⟩ := short.resolve_left (Nat.not_lt_of_le opened)
    have split := (List.take_append_drop frontSize (Supply.of stream.reads).bytes).symm
    obtain ⟨middle, readFront, supply⟩ := readExact_of_append stream split
    rw [List.length_take_of_le opened] at readFront
    have shortMiddle : (Supply.of middle).bytes.length < length - frontSize := by
      rw [supply, List.length_drop]
      exact Nat.sub_lt_sub_right opened shortBody
    have failed := readExact_of_lt { stream with reads := middle } shortMiddle
    rw [readFrame, readFront]
    dsimp only
    rw [told]
    dsimp only
    rw [failed, supply]

end

/-! ## Sending a request -/

section

variable {stream : Stream} {request : Bytes}

theorem writeAll_of_takes (takes : Acceptance.Takes stream.writes request.length) :
    ∃ writes, stream.writeAll request =
        (.ok (), { stream with writes, written := stream.written ++ request }) ∧
      (Acceptance.limit? stream.writes = none → Acceptance.limit? writes = none) := by
  obtain ⟨writes, written, endless⟩ := writeTo_of_takes takes
  exact ⟨writes, by rw [writeAll, written], endless⟩

theorem writeAll_of_limit {size : Nat} {cause : Failure}
    (limit : Acceptance.limit? stream.writes = some (size, cause)) (short : size < request.length) :
    ∃ writes, stream.writeAll request = (.error cause.fault,
      { stream with writes, written := stream.written ++ request.take size }) := by
  obtain ⟨writes, written⟩ := writeTo_of_limit limit short
  exact ⟨writes, by rw [writeAll, written]⟩

/-- A request that is taken in full and passed on leaves a frame to be read. -/
theorem exchange_of_takes (takes : Acceptance.Takes stream.writes request.length)
    (flushed : stream.flushes = []) :
    ∃ writes, stream.exchange request =
        readFrame { stream with writes, written := stream.written ++ request } ∧
      (Acceptance.limit? stream.writes = none → Acceptance.limit? writes = none) := by
  obtain ⟨writes, written, endless⟩ := writeAll_of_takes takes
  refine ⟨writes, ?_, endless⟩
  rw [exchange, written]
  dsimp only
  rw [flush, flushed]

end

end S7Link.Stream
