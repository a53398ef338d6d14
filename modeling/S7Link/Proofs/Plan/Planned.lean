import S7Link.Proofs.Plan.Items
import S7Link.Proofs.Plan.Sendable

/-!
# Which plans are made

A plan is made if and only if everything in it could be sent in a request of its own. If not, it is
refused for the first tag, or the first pair of a tag and a value, that could not, in the caller's
order. Neither the grouping of tags nor the number of items per request has a part in this: a group
is never larger than the largest item that can be read alone.
-/

namespace S7Link

open Outcome Request Plan

/-! ## Reading -/

/-- A tag that can be read alone: the request and the answer both stay below the PDU size. -/
def Tag.Readable (pduSize : UInt16) (tag : Tag) : Prop :=
  31 < pduSize.toNat ∧ 25 + tag.size < pduSize.toNat

theorem Tag.readable_iff {tag : Tag} {pduSize : UInt16} :
    tag.Readable pduSize ↔ tag.size ≤ largestRead pduSize :=
  (le_largestRead_iff tag.size_pos).symm

/-- The fault of a tag that cannot be read alone. -/
def Tag.tooLargeToRead (pduSize : UInt16) (tag : Tag) : Fault :=
  .itemTooLarge tag tag.size (largestRead pduSize) pduSize

namespace ReadRequest

variable {tag : Tag} {reference pduSize : UInt16}

/-- A tag that can be read alone has a request of its own. -/
theorem exists_make_singleton (readable : tag.Readable pduSize) :
    ∃ request, make [tag] reference pduSize = .ok request := by
  refine ⟨⟨reference, [tag]⟩, make_eq_ok_iff.mpr ⟨rfl, ?_⟩⟩
  constructor
  case nonempty => exact List.cons_ne_nil tag []
  case few => exact (by decide : 1 ≤ maxItems)
  case sizes => exact List.forall_mem_singleton.mpr (Tag.readable_iff.mp readable)
  case length_le => exact Nat.le_of_lt readable.1
  case replyLength_le =>
    have length : ReadRequest.replyLength ⟨reference, [tag]⟩ = 21 + (4 + tag.size) := rfl
    rw [length, ← Nat.add_assoc]
    exact Nat.le_of_lt readable.2

theorem make_singleton_of_not_readable (unreadable : ¬tag.Readable pduSize) :
    make [tag] reference pduSize = .error (tag.tooLargeToRead pduSize) := by
  have large : largestRead pduSize < tag.size :=
    Nat.lt_of_not_le (mt Tag.readable_iff.mpr unreadable)
  have found : [tag].find? (largestRead pduSize < ·.size) = some tag :=
    List.find?_cons_of_pos (decide_eq_true large)
  have counted : checkCount [tag].length = .ok () := rfl
  refine bind_eq_error_iff.mpr (Or.inr ⟨(), counted, ?_⟩)
  dsimp only
  rw [found]
  rfl

theorem exists_make_singleton_iff :
    (∃ request, make [tag] reference pduSize = .ok request) ↔ tag.Readable pduSize := by
  refine ⟨fun ⟨request, made⟩ => ?_, exists_make_singleton⟩
  by_contra unreadable
  rw [make_singleton_of_not_readable unreadable] at made
  cases made

end ReadRequest

namespace ReadPlan

theorem checkSizes_eq_error_iff {pduSize : UInt16} {tags : List Tag} {fault : Fault} :
    checkSizes pduSize tags = .error fault ↔
      ∃ tag, StopsAt (Tag.Readable pduSize) tags tag ∧ fault = tag.tooLargeToRead pduSize := by
  have first (tag : Tag) : StopsAt (Tag.Readable pduSize) tags tag ↔
      tags.find? (largestRead pduSize < ·.size) = some tag := by
    rw [find?_eq_some_iff_stopsAt]
    have same : Tag.Readable pduSize = fun tag => ¬decide (largestRead pduSize < tag.size) := by
      funext tag
      rw [decide_eq_true_eq, Nat.not_lt, Tag.readable_iff]
    rw [same]
  unfold checkSizes
  dsimp only
  split
  · next tag found =>
    rw [Except.error.injEq]
    constructor
    · rintro rfl
      exact ⟨tag, (first tag).mpr found, rfl⟩
    · rintro ⟨other, stops, rfl⟩
      obtain rfl := Option.some.inj (found.symm.trans ((first other).mp stops))
      rfl
  · next none =>
    refine ⟨nofun, ?_⟩
    rintro ⟨tag, stops, _⟩
    cases none.symm.trans ((first tag).mp stops)

/-- A plan is refused for the first tag that cannot be read alone, whether or not tags are
grouped. -/
theorem make_eq_error_iff {tags : List Tag} {limits : Limits} {optimize : Bool} {fault : Fault} :
    make tags limits optimize = .error fault ↔
      ∃ tag, StopsAt (Tag.Readable limits.pduSize) tags tag ∧
        fault = tag.tooLargeToRead limits.pduSize := by
  rw [← checkSizes_eq_error_iff, make, bind_eq_error_iff]
  refine ⟨fun given => given.resolve_right ?_, Or.inl⟩
  rintro ⟨_, sizes, later⟩
  obtain ⟨items, formed⟩ := exists_itemsOf optimize (checkSizes_eq_ok_iff.mp sizes)
  rw [formed] at later
  cases later

/-- What decides whether a plan is made: each tag by itself. -/
structure Decided (tags : List Tag) (limits : Limits) (optimize : Bool) (reference : UInt16) :
    Prop where
  made_iff_requests : (∃ plan, make tags limits optimize = .ok plan) ↔
    ∀ tag ∈ tags, ∃ request, ReadRequest.make [tag] reference limits.pduSize = .ok request
  made_iff_readable : (∃ plan, make tags limits optimize = .ok plan) ↔
    ∀ tag ∈ tags, tag.Readable limits.pduSize
  /-- The fault is that of the first tag that cannot be read alone, as its own request has it. -/
  refused_iff : ∀ fault, make tags limits optimize = .error fault ↔
    ∃ tag, StopsAt (Tag.Readable limits.pduSize) tags tag ∧
      fault = .itemTooLarge tag tag.size (largestRead limits.pduSize) limits.pduSize ∧
      ReadRequest.make [tag] reference limits.pduSize = .error fault

theorem decided (tags : List Tag) (limits : Limits) (optimize : Bool) (reference : UInt16) :
    Decided tags limits optimize reference where
  made_iff_requests := by
    simp only [exists_make_iff, ReadRequest.exists_make_singleton_iff, Tag.readable_iff]
  made_iff_readable := by simp only [exists_make_iff, Tag.readable_iff]
  refused_iff := by
    intro fault
    rw [make_eq_error_iff]
    constructor
    · rintro ⟨tag, stops, rfl⟩
      obtain ⟨before, after, rfl, readable, unreadable⟩ := stops
      exact ⟨tag, ⟨before, after, rfl, readable, unreadable⟩, rfl,
        ReadRequest.make_singleton_of_not_readable unreadable⟩
    · rintro ⟨tag, stops, rfl, _⟩
      exact ⟨tag, stops, rfl⟩

end ReadPlan

/-! ## Writing -/

/-- A tag that can be written alone: the request stays below the PDU size, and the bits of the
payload can be counted. -/
def Tag.Writable (pduSize : UInt16) (tag : Tag) : Prop :=
  35 + tag.size < pduSize.toNat ∧ tag.size ≤ 8191

theorem Tag.writable_iff {tag : Tag} {pduSize : UInt16} :
    tag.Writable pduSize ↔ tag.size ≤ largestWrite pduSize :=
  (le_largestWrite_iff tag.size_pos).symm

namespace WritePlan

/-- What is wrong with a pair of a tag and a value. Of a tag that is too large, the value is not
looked at. -/
inductive Offends (pduSize : UInt16) (tag : Tag) (value : Value) : Fault → Prop
  | tooLarge (large : ¬tag.Writable pduSize) :
      Offends pduSize tag value (.itemTooLarge tag tag.size (largestWrite pduSize) pduSize)
  | invalid {cause : ValueFault} (small : tag.Writable pduSize)
      (refused : value.encode tag = .error cause) :
      Offends pduSize tag value (.invalidValue tag cause)

/-- A pair of a tag and a value that can be written alone. -/
def Passes (pduSize : UInt16) (pair : Tag × Value) : Prop :=
  pair.1.Writable pduSize ∧ ∃ data, pair.2.encode pair.1 = .ok data

theorem itemOf_eq_error_iff {pduSize : UInt16} {tag : Tag} {value : Value} {fault : Fault} :
    itemOf pduSize tag value = .error fault ↔ Offends pduSize tag value fault := by
  by_cases small : tag.Writable pduSize
  · have fits : ¬largestWrite pduSize < tag.size := Nat.not_lt_of_le (Tag.writable_iff.mp small)
    unfold itemOf
    dsimp only
    rw [if_neg fits, WriteItem.make]
    constructor
    · intro failed
      cases written : value.encode tag with
      | ok data =>
        rw [written] at failed
        cases failed
      | error cause =>
        rw [written] at failed
        cases failed
        exact .invalid small written
    · rintro (⟨large⟩ | ⟨_, refused⟩)
      · exact absurd small large
      · rw [refused]
  · have large : largestWrite pduSize < tag.size :=
      Nat.lt_of_not_le (mt Tag.writable_iff.mpr small)
    unfold itemOf
    dsimp only
    rw [if_pos large, Except.error.injEq]
    constructor
    · rintro rfl
      exact .tooLarge small
    · rintro (⟨_⟩ | ⟨fits, _⟩)
      · rfl
      · exact absurd fits small

/-- A pair has an item unless something is wrong with it. -/
theorem exists_itemOf_iff {pduSize : UInt16} {pair : Tag × Value} :
    (∃ item, itemOf pduSize pair.1 pair.2 = .ok item) ↔ Passes pduSize pair := by
  constructor
  · rintro ⟨item, made⟩
    obtain ⟨_, written, small⟩ := itemOf_eq_ok made
    exact ⟨Tag.writable_iff.mpr small, item.data, written⟩
  · rintro ⟨small, data, written⟩
    refine ⟨⟨pair.1, data⟩, ite_error_eq_ok_iff.mpr ⟨?_, ?_⟩⟩
    · exact Nat.not_lt_of_le (Tag.writable_iff.mp small)
    · exact WriteItem.make_eq_ok_iff.mpr ⟨rfl, written⟩

/-- If the counts agree, a plan is refused as the first pair is with which something is wrong. -/
theorem make_eq_error_iff_of_length_eq {tags : List Tag} {values : List Value} {limits : Limits}
    {fault : Fault} (same : tags.length = values.length) :
    make tags values limits = .error fault ↔
      ∃ pair, StopsAt (Passes limits.pduSize) (tags.zip values) pair ∧
        Offends limits.pduSize pair.1 pair.2 fault := by
  have passes : (fun pair : Tag × Value => ∃ item, itemOf limits.pduSize pair.1 pair.2 = .ok item) =
      Passes limits.pduSize := funext fun _ => propext exists_itemOf_iff
  unfold make
  rw [if_neg (not_not.mpr same), bind_eq_error_iff]
  constructor
  · rintro (stopped | ⟨_, _, none⟩)
    · obtain ⟨pair, stops, failed⟩ := mapM_eq_error_iff.mp stopped
      exact ⟨pair, passes ▸ stops, itemOf_eq_error_iff.mp failed⟩
    · cases none
  · rintro ⟨pair, stops, offends⟩
    exact Or.inl (mapM_eq_error_iff.mpr
      ⟨pair, passes ▸ stops, itemOf_eq_error_iff.mpr offends⟩)

/-- What decides whether a plan is made: the counts, and then each pair by itself. -/
structure Decided (tags : List Tag) (values : List Value) (limits : Limits) : Prop where
  made_iff : (∃ plan, make tags values limits = .ok plan) ↔
    tags.length = values.length ∧ ∀ pair ∈ tags.zip values, Passes limits.pduSize pair
  /-- The fault is that of the first pair with which something is wrong, if the counts agree. -/
  refused_iff : ∀ fault, make tags values limits = .error fault ↔
    tags.length ≠ values.length ∧ fault = .countMismatch tags.length values.length ∨
      tags.length = values.length ∧
        ∃ pair, StopsAt (Passes limits.pduSize) (tags.zip values) pair ∧
          Offends limits.pduSize pair.1 pair.2 fault

theorem decided (tags : List Tag) (values : List Value) (limits : Limits) :
    Decided tags values limits where
  made_iff := by
    constructor
    · rintro ⟨plan, made⟩
      obtain ⟨same, items, formed, _⟩ := make_eq_ok_iff.mp made
      refine ⟨same, fun pair member => ?_⟩
      obtain ⟨item, _, made⟩ := exists_mem_of_forall₂ formed member
      exact exists_itemOf_iff.mp ⟨item, made⟩
    · rintro ⟨same, pass⟩
      obtain ⟨items, formed⟩ :=
        exists_forall₂ fun pair member => exists_itemOf_iff.mpr (pass pair member)
      exact ⟨_, make_eq_ok_iff.mpr ⟨same, items, formed, rfl⟩⟩
  refused_iff := by
    intro fault
    by_cases same : tags.length = values.length
    · rw [make_eq_error_iff_of_length_eq same]
      exact ⟨fun refused => Or.inr ⟨same, refused⟩,
        fun given => (given.resolve_left fun differ => differ.1 same).2⟩
    · unfold make
      rw [if_pos same, Except.error.injEq]
      refine ⟨fun refused => Or.inl ⟨same, refused.symm⟩, fun given => ?_⟩
      exact (given.resolve_right fun agree => same agree.1).2.symm

end WritePlan

end S7Link
