import S7Link.Proofs.Frame.Accepted

/-!
# Headers both ways

A header is written and read back, and a header that is read is written again. On the way out the
error of a request is lost, for which its bytes have no room. On the way back the two reserved bytes
become zeros. Nothing else is lost in either direction (`read_write_exact`). Writer and reader
choose between the two sizes by the same byte, which is written as it is and stands in front of all
that depends on it.
-/

namespace S7Link.Header

/-- What the bytes of a header tell of it: an error in answers only. -/
def carried (header : Header) : Header :=
  if header.kind = answerKind then header else { header with errorClass := 0, errorCode := 0 }

/-! ## Written and read back -/

section

variable (header : Header) (x y : UInt8)

theorem kept_carried : header.carried.kind = answerKind ∨
    header.carried.errorClass = 0 ∧ header.carried.errorCode = 0 := by
  unfold carried
  split
  · next isAnswer => exact Or.inl isAnswer
  · exact Or.inr ⟨rfl, rfl⟩

/-- The error of a request is not written. -/
theorem writeWith_carried : header.carried.writeWith x y = header.writeWith x y := by
  unfold carried
  split
  · rfl
  · next isOther => simp only [writeWith, if_neg isOther]

/-- Whatever the reserved bytes and whatever follows, a header is read as what its bytes tell. -/
theorem read_writeWith_carried (rest : Bytes) :
    read (header.writeWith x y ++ rest) = .ok header.carried := by
  rw [← writeWith_carried]
  exact read_writeWith x y rest header.kept_carried

/-! ## Read and written again -/

/-- The reserved bytes are the third and the fourth. -/
theorem set_writeWith (a b : UInt8) :
    ((header.writeWith x y).set 2 a).set 3 b = header.writeWith a b := rfl

theorem take_writeWith (rest : Bytes) :
    (header.writeWith x y ++ rest).take header.size = header.writeWith x y := by
  rw [← length_writeWith header x y, List.take_left]

end

/-- A header that is read is written in the first bytes of its unit, but for the reserved ones. -/
theorem write_of_read {unit : Bytes} {header : Header} (found : read unit = .ok header) :
    header.write = ((unit.take header.size).set 2 0).set 3 0 := by
  obtain ⟨x, y, rest, rfl⟩ := exists_of_read found
  rw [take_writeWith, set_writeWith]
  rfl

/-- A header is written in as many bytes as its size says and read back from them, whatever follows,
but for the error of a request. Written again, a header that is read gives the first bytes of its
unit, but for the two reserved ones. A header is read if and only if the unit opens with the
protocol byte and is as long as its kind asks for. -/
theorem read_write_exact (header : Header) (unit : Bytes) :
    (header.write.length = header.size ∧
        ∀ rest, read (header.write ++ rest) = .ok header.carried) ∧
      (read unit = .ok header → header.size ≤ unit.length ∧
        header.write = ((unit.take header.size).set 2 0).set 3 0) ∧
      ((∃ found, read unit = .ok found) ↔
        unit[0]? = some 0x32 ∧ (if unit[1]? = some 0x03 then 12 else 10) ≤ unit.length) := by
  refine ⟨⟨length_write header, fun rest => ?_⟩, fun found => ?_, exists_read_iff⟩
  · exact read_writeWith_carried header 0 0 rest
  · exact ⟨size_le_of_read found, write_of_read found⟩

/-- An answer with an error, with reserved bytes that are not zero and with one byte behind it. -/
theorem read_write_exact_reservedBytes :
    let header : Header := ⟨0x03, 9, 2, 40, 0x85, 0x01⟩
    let unit : Bytes :=
      [0x32, 0x03, 0xAB, 0xCD, 0x00, 0x09, 0x00, 0x02, 0x00, 0x28, 0x85, 0x01, 0xFF]
    read unit = .ok header ∧
      header.write =
        [0x32, 0x03, 0x00, 0x00, 0x00, 0x09, 0x00, 0x02, 0x00, 0x28, 0x85, 0x01] := by
  intro header unit
  have found : read unit = .ok header := by decide
  exact ⟨found, ((read_write_exact header unit).2.1 found).2⟩

end S7Link.Header
