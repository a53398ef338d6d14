import S7Link.Proofs.Controller.WriteEffect

/-!
# There are controllers

A controller that answers from a memory serves it, if what it puts in front of each payload denotes
the length of the payload (`Controller.serves_answering`). To count in bytes is one way to do so for
all payloads that fit in a frame.
-/

namespace S7Link

open Request

theorem Frame.le_alignedLength {n : Nat} {sizes : List Nat} (member : n ∈ sizes) :
    n ≤ alignedLength sizes := by
  fun_induction alignedLength sizes with
  | case1 => cases member
  | case2 size => exact Nat.le_of_eq (List.mem_singleton.mp member)
  | case3 size next rest ih =>
    rcases List.mem_cons.mp member with rfl | later
    · omega
    · exact Nat.le_trans (ih later) (Nat.le_add_left _ _)

/-- What is fetched is as long as the item. -/
theorem Memory.length_of_fetch {memory : Memory} {s : Specification} {payload : Bytes}
    (single : s.isBit = true → s.count = 1) (fetched : memory.fetch s = .ok payload) :
    payload.length = s.size := by
  unfold fetch at fetched
  split at fetched
  · cases fetched
  · next region _ =>
    dsimp only at fetched
    split at fetched
    · next bytes found =>
      cases fetched
      by_cases isBit : s.isBit = true
      · rw [if_pos isBit] at found
        obtain ⟨state, _, rfl⟩ := Option.map_eq_some_iff.mp found
        have code : s.code = 0x01 := eq_of_beq isBit
        rw [Specification.size, Specification.elementSize, single isBit, code]
        rfl
      · rw [if_neg isBit] at found
        exact length_of_bytes? found
    · cases fetched

theorem Memory.status_of_fetch {memory : Memory} {s : Specification} {status : Status}
    (refused : memory.fetch s = .error status) : status ≠ .success := by
  unfold fetch at refused
  split at refused
  · cases refused
    decide
  · dsimp only at refused
    split at refused
    · cases refused
    · cases refused
      exact memory.refusal_ne_success _

namespace Controller

variable {header : ItemHeader} {memory : Memory} {s : Specification} {items : List Specification}

theorem answering_read {frame : Bytes} {reference : UInt16}
    (asked : Job.read? frame = some (reference, .read items)) :
    answering header memory frame =
      (.ok (answer reference readFunction items.length
        ((entries header memory items).flatMap Reply.Entry.bytes)), memory) := by
  unfold answering
  rw [asked]

/-- The lengths in front of payloads denote them. -/
def Counts (header : ItemHeader) : Prop :=
  ∀ code size, size < 65536 → Reply.Denotes (header code size).1 (header code size).2.toNat size

theorem tells_entry (isLast : Bool) : Tells memory s (entry header memory s isLast) := by
  unfold Tells entry
  cases fetched : memory.fetch s with
  | ok payload => rfl
  | error status => exact Memory.status_of_fetch fetched

theorem answers_entry (counts : Counts header) (single : s.isBit = true → s.count = 1)
    (short : s.size < 65536) (isLast : Bool) :
    (entry header memory s isLast).Answers s.size isLast := by
  unfold entry
  cases fetched : memory.fetch s with
  | ok payload =>
    have length := Memory.length_of_fetch single fetched
    dsimp only
    rw [length]
    exact ⟨counts s.code s.size short, length, List.length_replicate⟩
  | error status => exact ⟨Memory.status_of_fetch fetched, Or.inl rfl⟩

theorem tells_entries :
    ∀ p ∈ items.zip (entries header memory items), Tells memory p.1 p.2 := by
  induction items with
  | nil => exact List.forall_mem_nil _
  | cons s items ih => exact List.forall_mem_cons.mpr ⟨tells_entry _, ih⟩

theorem answerAll_entries (counts : Counts header)
    (single : ∀ s ∈ items, s.isBit = true → s.count = 1) (short : ∀ s ∈ items, s.size < 65536) :
    Reply.Entry.AnswerAll (items.map Specification.size) (entries header memory items) := by
  induction items with
  | nil => trivial
  | cons s items ih =>
    rw [List.forall_mem_cons] at single short
    refine ⟨?_, ih single.2 short.2⟩
    rw [List.isEmpty_map]
    exact answers_entry counts single.1 short.1 items.isEmpty

/-- A controller that answers from a memory serves it. -/
theorem serves_answering (counts : Counts header) : Serves (answering header) id where
  read := by
    intro memory frame reference items asked answerable
    rw [answering_read asked]
    refine ⟨rfl, entries header memory items, tells_entries, ?_, rfl⟩
    apply answerAll_entries counts answerable.single
    intro s member
    have part := Frame.le_alignedLength
      (List.mem_map_of_mem (f := fun s => itemHeaderSize + s.size) member)
    have whole := answerable.short
    omega
  write := by
    intro memory frame reference items asked
    rw [answering_write asked]
    exact ⟨rfl, rfl⟩

/-- To count in bytes is possible for every payload. -/
theorem counts_bytes : Counts fun _ size => (0x09, UInt16.ofNat size) := by
  intro code size short
  exact Or.inr ⟨List.mem_cons_of_mem 0x07 List.mem_cons_self, UInt16.toNat_ofNat_of_lt' short⟩

end Controller

end S7Link
