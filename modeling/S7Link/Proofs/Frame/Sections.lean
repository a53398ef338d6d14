import S7Link.Frame.Basic
import S7Link.Frame.Header

/-!
# Frames are read as they were written

A unit comes out of its envelope, and a header off the front of its unit, as they were put there.
The envelope holds the length of the frame in one word, so the frame may not be longer than a word
can tell; nothing else can go wrong. What stands at a known offset of a frame is a field of it,
which is told from the bytes that the frame goes on with there.
-/

namespace S7Link

/-! ## Numbers of one, two and three bytes -/

namespace BigEndian

/-- A byte denotes itself. -/
theorem read_singleton (b : UInt8) : read [b] = b.toNat := by simp [read, weight]

/-- A word is written as two bytes, which denote it. -/
theorem ofWord_eq (n : UInt16) :
    ∃ high low, ofWord n = [high, low] ∧ read [high, low] = n.toNat ∧ toWord high low = n := by
  have back : read (ofWord n) = n.toNat :=
    (read_write 2 n.toNat).trans (Nat.mod_eq_of_lt n.toNat_lt)
  refine ⟨_, _, rfl, back, ?_⟩
  exact (congrArg UInt16.ofNat back).trans (UInt16.ofNat_toNat)

/-- Two bytes are those of the word that they denote. -/
theorem ofWord_toWord (high low : UInt8) :
    ofWord (toWord high low) = [high, low] ∧ (toWord high low).toNat = read [high, low] := by
  have small : read [high, low] < 65536 := read_lt [high, low]
  have number : (toWord high low).toNat = read [high, low] := UInt16.toNat_ofNat_of_lt' small
  refine ⟨?_, number⟩
  rw [ofWord, number]
  exact write_read [high, low]

/-- A number below 65536 is written as two bytes, which denote it. -/
theorem write_two_eq {n : Nat} (small : n < 65536) :
    ∃ high low, write 2 n = [high, low] ∧ read [high, low] = n :=
  ⟨_, _, rfl, (read_write 2 n).trans (Nat.mod_eq_of_lt small)⟩

/-- A number below 16777216 is written as three bytes, which denote it. -/
theorem write_three_eq {n : Nat} (small : n < 16777216) :
    ∃ high middle low, write 3 n = [high, middle, low] ∧ read [high, middle, low] = n :=
  ⟨_, _, _, rfl, (read_write 3 n).trans (Nat.mod_eq_of_lt small)⟩

end BigEndian

/-! ## Envelopes -/

namespace Frame

theorem length_envelope (length : Nat) : (envelope length).length = envelopeSize := by
  simp only [envelope, List.length_append, BigEndian.length_write, dataTransfer, envelopeSize,
    List.length_cons, List.length_nil]

theorem length_wrap (unit : Bytes) : (wrap unit).length = envelopeSize + unit.length := by
  rw [wrap, List.length_append, length_envelope]

theorem unwrap_wrap {unit : Bytes} (short : envelopeSize + unit.length < 65536) :
    unwrap (wrap unit) = .ok unit := by
  obtain ⟨high, low, written, length⟩ := BigEndian.write_two_eq short
  have frame : wrap unit = 0x03 :: 0x00 :: high :: low :: 0x02 :: 0xF0 :: 0x80 :: unit := by
    rw [wrap, envelope, written]
    rfl
  have declared : BigEndian.read [high, low] = (wrap unit).length :=
    length.trans (length_wrap unit).symm
  rw [frame] at declared ⊢
  unfold unwrap
  dsimp only
  rw [if_neg (fun other => other rfl), if_neg (fun other => other declared),
    if_neg (fun other => other rfl)]

/-! ## Fields

The bytes of a frame at an offset are a field of it. A field of two bytes denotes a number. -/

/-- The bytes of a frame from an offset on. -/
def field (frame : Bytes) (offset count : Nat) : Bytes := (frame.drop offset).take count

/-- The number that the word at an offset denotes. -/
def number (frame : Bytes) (offset : Nat) : Nat := BigEndian.read (field frame offset 2)

/-- The bytes that a frame goes on with at an offset are the field there. -/
theorem field_of_prefix {frame bytes : Bytes} {offset count : Nat}
    (starts : bytes <+: frame.drop offset) (length : bytes.length = count) :
    field frame offset count = bytes :=
  length ▸ (List.prefix_iff_eq_take.mp starts).symm

/-- What follows some bytes at an offset stands behind them. -/
theorem prefix_drop {frame before bytes : Bytes} {offset count : Nat}
    (starts : before ++ bytes <+: frame.drop offset) (length : before.length = count) :
    bytes <+: frame.drop (offset + count) := by
  obtain ⟨after, same⟩ := starts
  rw [← List.drop_drop, ← same, List.append_assoc, List.drop_left' length]
  exact List.prefix_append bytes after

end Frame

/-! ## Headers -/

namespace Header

/-- A header is read off the front of a unit. That of a request has no error to be kept. -/
theorem read_write {header : Header} (rest : Bytes)
    (kept : header.kind = answerKind ∨ header.errorClass = 0 ∧ header.errorCode = 0) :
    read (header.write ++ rest) = .ok header := by
  obtain ⟨kind, reference, parameterLength, dataLength, errorClass, errorCode⟩ := header
  obtain ⟨r₁, r₂, referenceWritten, _, referenceRead⟩ := BigEndian.ofWord_eq reference
  obtain ⟨p₁, p₂, parameterWritten, _, parameterRead⟩ := BigEndian.ofWord_eq parameterLength
  obtain ⟨d₁, d₂, dataWritten, _, dataRead⟩ := BigEndian.ofWord_eq dataLength
  rw [write, referenceWritten, parameterWritten, dataWritten]
  by_cases isAnswer : kind = answerKind
  · subst isAnswer
    simp only [List.cons_append, List.nil_append, if_pos, read, referenceRead, parameterRead,
      dataRead]
    rfl
  · obtain ⟨rfl, rfl⟩ := kept.resolve_left isAnswer
    simp only [List.cons_append, List.nil_append, if_neg isAnswer, read, referenceRead,
      parameterRead, dataRead]
    rw [if_neg (fun other => other rfl), if_pos isAnswer]

theorem length_write (header : Header) : header.write.length = header.size := by
  unfold write size
  split <;> rfl

/-- The header of a request ends with the lengths of the sections. -/
theorem write_job (reference parameterLength dataLength : UInt16) :
    (job reference parameterLength dataLength).write =
      [0x32, 0x01, 0x00, 0x00] ++ BigEndian.ofWord reference ++ BigEndian.ofWord parameterLength ++
        BigEndian.ofWord dataLength := List.append_nil _

/-! ## Sections behind a header -/

section

variable (header : Header) (parameters data : Bytes)

theorem length_sections :
    (header.write ++ parameters ++ data).length =
      header.size + parameters.length + data.length := by
  rw [List.length_append, List.length_append, length_write]

theorem drop_sections :
    (header.write ++ parameters ++ data).drop header.size = parameters ++ data := by
  rw [List.append_assoc, ← length_write]
  exact List.drop_left

theorem read_sections
    (kept : header.kind = answerKind ∨ header.errorClass = 0 ∧ header.errorCode = 0) :
    read (header.write ++ parameters ++ data) = .ok header := by
  rw [List.append_assoc]
  exact read_write _ kept

end

end Header

end S7Link
