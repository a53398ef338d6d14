import Mathlib
import S7Link.Plan.Write
import S7Link.Proofs.Plan.Cut
import S7Link.Proofs.Plan.Items
import S7Link.Proofs.Request.Accepted
import S7Link.Proofs.Value.Payload

/-!
# Every batch of a plan can be sent

A plan counts the fill byte of every item, also of the last one, and checks no item that opens a
batch; a request counts fill bytes as they are sent and allows a frame as long as the PDU size. The
two agree in that every batch of a plan makes a request, of which neither the frame nor the answer
reaches the PDU size. For a batch of several items this is what `fits` says; an item alone is below
the size because no plan takes an item that is not.
-/

namespace S7Link

open Outcome Plan Request

/-! ## What a plan allows for -/

namespace Plan.Limits

theorem fits_iff {limits : Limits} {costs : List Cost} :
    limits.fits costs = true ↔
      overhead + Cost.total (·.request) costs < limits.pduSize.toNat ∧
        replyOverhead + Cost.total (·.reply) costs < limits.pduSize.toNat ∧
        costs.length ≤ limits.items := by
  rw [fits, Bool.and_eq_true, Bool.and_eq_true, decide_eq_true_iff, decide_eq_true_iff,
    decide_eq_true_iff, and_assoc]

theorem one_le_items (limits : Limits) : 1 ≤ limits.items := by
  have := Nat.le_max_right limits.maxItems 1
  exact Nat.le_min.mpr ⟨this, by decide⟩

theorem items_le_maxItems (limits : Limits) : limits.items ≤ Request.maxItems :=
  Nat.min_le_right ..

/-- The number of items of a request is told in one byte. -/
theorem lt_256_of_le_items {limits : Limits} {count : Nat} (few : count ≤ limits.items) :
    count < 256 := by
  have most : count ≤ 20 := Nat.le_trans few limits.items_le_maxItems
  omega

end Plan.Limits

/-! ## Costs and lengths

A cost counts a fill byte for every item of odd length. The frame has none after the last, so the
costs of items bound the lengths of their frames. -/

namespace Plan.Cost

theorem total_append (part : Cost → Nat) (first second : List Cost) :
    total part (first ++ second) = total part first + total part second := by
  induction first with
  | nil => exact (Nat.zero_add _).symm
  | cons cost first ih => rw [List.cons_append, total, total, ih, Nat.add_assoc]

/-- Items that cost the same, whatever their sizes, cost so much together. -/
theorem total_map_of_same {part : Cost → Nat} {cost : Nat → Cost} {each : Nat}
    (same : ∀ size, part (cost size) = each) (sizes : List Nat) :
    total part (sizes.map cost) = each * sizes.length := by
  induction sizes with
  | nil => rfl
  | cons size sizes ih =>
    rw [List.map_cons, total, ih, same, List.length_cons, Nat.mul_succ, Nat.add_comm]

theorem total_request_ofRead (sizes : List Nat) :
    total (·.request) (sizes.map ofRead) = specificationSize * sizes.length :=
  total_map_of_same (fun size => (rfl : (ofRead size).request = specificationSize)) sizes

theorem total_reply_ofWrite (sizes : List Nat) :
    total (·.reply) (sizes.map ofWrite) = statusSize * sizes.length :=
  total_map_of_same (fun size => (rfl : (ofWrite size).reply = statusSize)) sizes

/-- The entries of a full answer are no longer than what the items cost. -/
theorem alignedLength_le_total_reply (sizes : List Nat) :
    Frame.alignedLength (sizes.map (itemHeaderSize + ·)) ≤
      total (·.reply) (sizes.map ofRead) := by
  have even : itemHeaderSize % 2 = 0 := rfl
  induction sizes with
  | nil => exact Nat.le_refl 0
  | cons size sizes ih =>
    have cost : (ofRead size).reply = itemHeaderSize + (size + size % 2) := rfl
    cases sizes with
    | nil =>
      rw [List.map_singleton, List.map_singleton, Frame.alignedLength, total, total, cost]
      omega
    | cons next sizes =>
      rw [List.map_cons, List.map_cons, Frame.alignedLength, List.map_cons, total, cost]
      rw [List.map_cons] at ih
      omega

/-- The two sections of a write are no longer than what the items cost. -/
theorem alignedLength_le_total_request (sizes : List Nat) :
    specificationSize * sizes.length + Frame.alignedLength (sizes.map (itemHeaderSize + ·)) ≤
      total (·.request) (sizes.map ofWrite) := by
  have payloads := alignedLength_le_total_reply sizes
  have apart : total (·.request) (sizes.map ofWrite) =
      specificationSize * sizes.length + total (·.reply) (sizes.map ofRead) := by
    clear payloads
    induction sizes with
    | nil => rfl
    | cons size sizes ih =>
      have cost : (ofWrite size).request = specificationSize + (ofRead size).reply :=
        Nat.add_assoc ..
      rw [List.map_cons, List.map_cons, total, total, ih, cost, List.length_cons, Nat.mul_succ]
      omega
  rw [apart]
  exact Nat.add_le_add_left payloads _

end Plan.Cost

/-! ## Batches that are read -/

/-- A batch can be sent: it is not empty and keeps to the limits, its request is made under every
reference, and both the frame and the full answer stay below the PDU size. -/
structure ReadBatch.Sendable (limits : Limits) (batch : ReadBatch) : Prop where
  nonempty : batch.items ≠ []
  few : batch.items.length ≤ limits.items
  request_eq : ∀ reference,
    batch.request reference limits.pduSize = .ok ⟨reference, batch.tags⟩
  length_lt : ∀ reference,
    (⟨reference, batch.tags⟩ : ReadRequest).length < limits.pduSize.toNat
  replyLength_lt : ∀ reference,
    (⟨reference, batch.tags⟩ : ReadRequest).replyLength < limits.pduSize.toNat

theorem ReadRequest.lengths_of_run {limits : Limits} {items : List ReadItem}
    (isRun : IsRun (ReadPlan.fits limits) items)
    (sizes : ∀ item ∈ items, item.tag.size ≤ largestRead limits.pduSize) :
    items.length ≤ limits.items ∧
      lengthOf items.length < limits.pduSize.toNat ∧
      replyLengthOf (items.map (·.tag.size)) < limits.pduSize.toNat := by
  rcases isRun with single | fit
  · obtain ⟨item, rfl⟩ := List.length_eq_one_iff.mp single
    obtain ⟨request, reply⟩ :=
      (le_largestRead_iff item.tag.size_pos).mp (sizes item List.mem_cons_self)
    refine ⟨limits.one_le_items, request, ?_⟩
    rw [replyLengthOf, List.map_singleton, List.map_singleton, Frame.alignedLength, ← Nat.add_assoc]
    exact reply
  · have costs : items.map (fun item => Cost.ofRead item.tag.size) =
        (items.map (·.tag.size)).map Cost.ofRead := by
      rw [List.map_map]
      rfl
    rw [ReadPlan.fits, costs, Limits.fits_iff, Cost.total_request_ofRead] at fit
    simp only [List.length_map] at fit
    obtain ⟨request, reply, few⟩ := fit
    have entries := Cost.alignedLength_le_total_reply (items.map (·.tag.size))
    exact ⟨few, request, Nat.lt_of_le_of_lt (Nat.add_le_add_left entries _) reply⟩

namespace ReadBatch

theorem length_tags (batch : ReadBatch) : batch.tags.length = batch.items.length :=
  List.length_map _

theorem map_size_tags (batch : ReadBatch) :
    batch.tags.map Tag.size = batch.items.map (·.tag.size) := List.map_map

theorem sendable_of_run {limits : Limits} {batch : ReadBatch} (nonempty : batch.items ≠ [])
    (isRun : IsRun (ReadPlan.fits limits) batch.items)
    (sizes : ∀ item ∈ batch.items, item.tag.size ≤ largestRead limits.pduSize) :
    batch.Sendable limits := by
  obtain ⟨few, length, reply⟩ := ReadRequest.lengths_of_run isRun sizes
  rw [← map_size_tags] at reply
  rw [← length_tags] at length
  refine ⟨nonempty, few, fun reference => ?_, fun _ => length, fun _ => reply⟩
  refine ReadRequest.make_eq_ok_iff.mpr
    ⟨rfl, ?_, ?_, ?_, Nat.le_of_lt length, Nat.le_of_lt reply⟩
  · exact fun none => nonempty (List.map_eq_nil_iff.mp none)
  · rw [length_tags]
    exact Nat.le_trans few limits.items_le_maxItems
  · intro tag member
    obtain ⟨item, inItems, rfl⟩ := List.mem_map.mp member
    exact sizes item inItems

end ReadBatch

/-- Every batch of a read plan can be sent. -/
theorem ReadPlan.sendable_of_make {tags : List Tag} {limits : Limits} {optimize : Bool}
    {plan : ReadPlan} (made : make tags limits optimize = .ok plan) :
    ∀ batch ∈ plan.batches, batch.Sendable limits := by
  intro batch member
  obtain ⟨nonempty, isRun⟩ := mem_cut (items_mem_cut made member)
  apply ReadBatch.sendable_of_run nonempty isRun
  intro item inBatch
  exact (covers_of_make made item (mem_items member inBatch)).size_le

/-! ## Batches that are written -/

/-- A batch can be sent: it is not empty and keeps to the limits, its request is made under every
reference, and both the frame and the answer, which has one status for each item, stay below the
PDU size. -/
structure WriteBatch.Sendable (limits : Limits) (batch : WriteBatch) : Prop where
  nonempty : batch.items ≠ []
  few : batch.items.length ≤ limits.items
  request_eq : ∀ reference,
    batch.request reference limits.pduSize = .ok ⟨reference, batch.items⟩
  length_lt : ∀ reference,
    (⟨reference, batch.items⟩ : WriteRequest).length < limits.pduSize.toNat
  replyLength_lt : replyOverhead + statusSize * batch.items.length < limits.pduSize.toNat

theorem WriteRequest.lengths_of_run {limits : Limits} {items : List WriteItem}
    (isRun : IsRun (WritePlan.fits limits) items)
    (sizes : ∀ item ∈ items,
      0 < item.data.length ∧ item.data.length ≤ largestWrite limits.pduSize) :
    items.length ≤ limits.items ∧
      lengthOf (items.map (·.data.length)) < limits.pduSize.toNat ∧
      replyOverhead + statusSize * items.length < limits.pduSize.toNat := by
  rcases isRun with single | fit
  · obtain ⟨item, rfl⟩ := List.length_eq_one_iff.mp single
    obtain ⟨pos, small⟩ := sizes item List.mem_cons_self
    obtain ⟨request, _⟩ := (le_largestWrite_iff pos).mp small
    refine ⟨limits.one_le_items, ?_, ?_⟩
    · rw [lengthOf, dataLengthOf, List.map_singleton, List.map_singleton, Frame.alignedLength,
        ← Nat.add_assoc]
      exact request
    · -- The frame has room for an item header, the answer only for a status.
      refine Nat.lt_of_le_of_lt ?_ request
      rw [List.length_singleton]
      exact Nat.le_trans (by decide) (Nat.le_add_right _ _)
  · have costs : items.map (fun item => Cost.ofWrite item.data.length) =
        (items.map (·.data.length)).map Cost.ofWrite := by
      rw [List.map_map]
      rfl
    rw [WritePlan.fits, costs, Limits.fits_iff, Cost.total_reply_ofWrite] at fit
    simp only [List.length_map] at fit
    obtain ⟨request, reply, few⟩ := fit
    have sections := Cost.alignedLength_le_total_request (items.map (·.data.length))
    refine ⟨few, Nat.lt_of_le_of_lt ?_ request, reply⟩
    rw [lengthOf, Nat.add_assoc]
    exact Nat.add_le_add_left sections _

namespace WritePlan

/-- An item carries the payload of its pair, whose tag is not too large. -/
theorem itemOf_eq_ok {pduSize : UInt16} {tag : Tag} {value : Value} {item : WriteItem}
    (made : itemOf pduSize tag value = .ok item) :
    item.tag = tag ∧ value.encode tag = .ok item.data ∧ tag.size ≤ largestWrite pduSize := by
  unfold itemOf at made
  dsimp only at made
  split at made
  · cases made
  · next small =>
    obtain ⟨named, written⟩ := WriteItem.make_eq_ok_iff.mp made
    exact ⟨named, written, Nat.le_of_not_lt small⟩

/-- A plan is made if there are as many values as tags and each pair has an item, and its batches
are a cut of these items. -/
theorem make_eq_ok_iff {tags : List Tag} {values : List Value} {limits : Limits}
    {plan : WritePlan} :
    make tags values limits = .ok plan ↔
      tags.length = values.length ∧
        ∃ items, List.Forall₂ (fun pair item => itemOf limits.pduSize pair.1 pair.2 = .ok item)
            (tags.zip values) items ∧
          plan = ⟨(cut (fits limits) items).map WriteBatch.mk⟩ := by
  unfold make
  split
  · next differ =>
    constructor
    · intro h
      cases h
    · intro given
      rcases given with ⟨same, _⟩
      exact absurd same differ
  · next same =>
    rw [bind_eq_ok_iff]
    constructor
    · intro given
      rcases given with ⟨items, formed, done⟩
      cases done
      exact ⟨Decidable.not_not.mp same, items, mapM_eq_ok_iff.mp formed, rfl⟩
    · intro given
      rcases given with ⟨_, items, formed, rfl⟩
      exact ⟨items, mapM_eq_ok_iff.mpr formed, rfl⟩

theorem items_of_cut (limits : Limits) (items : List WriteItem) :
    ((cut (fits limits) items).map WriteBatch.mk).flatMap (·.items) = items := by
  rw [List.flatMap_map]
  exact List.flatMap_id.trans (flatten_cut (fits limits) items)

theorem sizes_of_itemOf {pduSize : UInt16} {pairs : List (Tag × Value)} {items : List WriteItem}
    (formed : List.Forall₂ (fun pair item => itemOf pduSize pair.1 pair.2 = .ok item)
      pairs items) :
    ∀ item ∈ items, 0 < item.data.length ∧ item.data.length ≤ largestWrite pduSize := by
  apply forall_mem_of_forall₂
  apply formed.imp
  intro pair item made
  obtain ⟨_, written, small⟩ := itemOf_eq_ok made
  rw [Value.length_encode written]
  exact ⟨pair.1.size_pos, small⟩

section Made

variable {tags : List Tag} {values : List Value} {limits : Limits} {plan : WritePlan}

/-- The batches of a plan have one item for each pair of a tag and a value, in order. -/
theorem items_of_make (made : make tags values limits = .ok plan) :
    List.Forall₂ (fun pair item => itemOf limits.pduSize pair.1 pair.2 = .ok item)
      (tags.zip values) (plan.batches.flatMap (·.items)) := by
  rcases make_eq_ok_iff.mp made with ⟨_, items, formed, rfl⟩
  dsimp only
  rw [items_of_cut]
  exact formed

/-- The tags of the items are the caller's. -/
theorem map_tag_items (made : make tags values limits = .ok plan) :
    (plan.batches.flatMap (·.items)).map (·.tag) = tags := by
  rcases make_eq_ok_iff.mp made with ⟨count, _⟩
  have each := (items_of_make made).imp fun _ _ formed => (itemOf_eq_ok formed).1
  rw [map_eq_map_of_forall₂ (f := WriteItem.tag) (g := Prod.fst) each.flip]
  exact List.map_fst_zip (Nat.le_of_eq count)

theorem map_items_batches (made : make tags values limits = .ok plan) :
    plan.batches.map (·.items) = cut (fits limits) (plan.batches.flatMap (·.items)) := by
  rcases make_eq_ok_iff.mp made with ⟨_, items, _, rfl⟩
  dsimp only
  rw [items_of_cut, List.map_map]
  exact List.map_id _

end Made

end WritePlan

theorem WriteBatch.sendable_of_run {limits : Limits} {batch : WriteBatch}
    (nonempty : batch.items ≠ []) (isRun : IsRun (WritePlan.fits limits) batch.items)
    (sizes : ∀ item ∈ batch.items,
      0 < item.data.length ∧ item.data.length ≤ largestWrite limits.pduSize) :
    batch.Sendable limits := by
  obtain ⟨few, length, reply⟩ := WriteRequest.lengths_of_run isRun sizes
  refine ⟨nonempty, few, fun reference => ?_, fun _ => length, reply⟩
  exact WriteRequest.make_eq_ok_iff.mpr
    ⟨rfl, nonempty, Nat.le_trans few limits.items_le_maxItems,
      fun item member => (sizes item member).2, Nat.le_of_lt length⟩

/-- Every batch of a write plan can be sent. -/
theorem WritePlan.sendable_of_make {tags : List Tag} {values : List Value} {limits : Limits}
    {plan : WritePlan} (made : make tags values limits = .ok plan) :
    ∀ batch ∈ plan.batches, batch.Sendable limits := by
  intro batch member
  have inCut : batch.items ∈ plan.batches.map (·.items) := List.mem_map_of_mem member
  rw [map_items_batches made] at inCut
  obtain ⟨nonempty, isRun⟩ := mem_cut inCut
  apply WriteBatch.sendable_of_run nonempty isRun
  intro item inBatch
  exact sizes_of_itemOf (items_of_make made) item (List.mem_flatMap.mpr ⟨batch, member, inBatch⟩)

/-! ## Both kinds of plan -/

/-- Whatever is planned can be sent, batch by batch, under any references. -/
theorem sendable_of_planned (limits : Limits) :
    (∀ (tags : List Tag) (optimize : Bool) (plan : ReadPlan),
        ReadPlan.make tags limits optimize = .ok plan →
        ∀ batch ∈ plan.batches, batch.Sendable limits) ∧
      ∀ (tags : List Tag) (values : List Value) (plan : WritePlan),
        WritePlan.make tags values limits = .ok plan →
        ∀ batch ∈ plan.batches, batch.Sendable limits :=
  ⟨fun _ _ _ made => ReadPlan.sendable_of_make made,
    fun _ _ _ made => WritePlan.sendable_of_make made⟩

/-- Two bytes of one block with fifteen bytes between them, and ten bytes of another block. -/
def Plan.closeBytes : List Tag :=
  [(Tag.make .dataBlock 1 .byte 0 0 1).toOption.get rfl,
    (Tag.make .dataBlock 1 .byte 16 0 1).toOption.get rfl,
    (Tag.make .dataBlock 2 .byte 0 0 10).toOption.get rfl]

theorem sendable_of_planned_closeBytes :
    (∃ plan, ReadPlan.make closeBytes ⟨56, 0⟩ true = .ok plan ∧ plan.batches.length = 2 ∧
        ∀ batch ∈ plan.batches, batch.Sendable ⟨56, 0⟩) ∧
      ∃ plan, WritePlan.make closeBytes [.byte 1, .byte 2, .list (List.replicate 10 (.byte 3))]
          ⟨56, 0⟩ = .ok plan ∧ plan.batches.length = 3 ∧
        ∀ batch ∈ plan.batches, batch.Sendable ⟨56, 0⟩ := by
  have seenRead : (ReadPlan.make closeBytes ⟨56, 0⟩ true).toOption.map (·.batches.length) =
      some 2 := by
    cbv
  have seenWrite : (WritePlan.make closeBytes
      [.byte 1, .byte 2, .list (List.replicate 10 (.byte 3))] ⟨56, 0⟩).toOption.map
      (·.batches.length) = some 3 := by
    cbv
  obtain ⟨readPlan, readMade, readCount⟩ := exists_of_map_toOption seenRead
  obtain ⟨writePlan, writeMade, writeCount⟩ := exists_of_map_toOption seenWrite
  exact ⟨⟨readPlan, readMade, readCount, (sendable_of_planned ⟨56, 0⟩).1 _ _ _ readMade⟩,
    ⟨writePlan, writeMade, writeCount, (sendable_of_planned ⟨56, 0⟩).2 _ _ _ writeMade⟩⟩

end S7Link
