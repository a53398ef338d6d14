import S7Link.Proofs.Plan.Sendable

/-!
# No other batches are fewer

A plan lists its items and sends them in runs, one for each batch. Which items may share a request
is a matter of three bounds: their number, the length of the frame and the length of the full
answer, each item counted with a fill byte if it is odd (`ReadPlan.MayShare`, `WritePlan.MayShare`).
Every way to cut the same list into runs of items that may share a request, where an item that no
run has room for is a run of its own, takes at least as many runs as the plan has batches
(`fewestRuns_of_planned`): what fits fits in part, so filling each batch before the next one is
opened reaches as far as any other cut does.
-/

namespace S7Link

open Outcome Plan Request

namespace Plan

/-- Runs that make up a list, each of them a single element or allowed, as few as there can be. -/
structure FewestRuns {α : Type} (allowed : List α → Prop) (xs : List α) (runs : List (List α)) :
    Prop where
  flatten_eq : runs.flatten = xs
  nonempty : ∀ run ∈ runs, run ≠ []
  isRun : ∀ run ∈ runs, run.length = 1 ∨ allowed run
  fewest : ∀ others : List (List α), others.flatten = xs →
    (∀ run ∈ others, run.length = 1 ∨ allowed run) → runs.length ≤ others.length

theorem fewestRuns_cut {α : Type} {fits : List α → Bool} {allowed : List α → Prop}
    (closed : FitsInPart fits) (same : ∀ run, fits run = true ↔ allowed run) (xs : List α) :
    FewestRuns allowed xs (cut fits xs) where
  flatten_eq := flatten_cut fits xs
  nonempty := fun _ member => (mem_cut member).1
  isRun := fun run member => (mem_cut member).2.imp_right (same run).mp
  fewest := by
    rintro others rfl areAllowed
    exact length_cut_le closed fun run member => (areAllowed run member).imp_right (same run).mpr

namespace Cost

theorem total_eq_sum (part : Cost → Nat) (costs : List Cost) :
    total part costs = (costs.map part).sum := by
  induction costs with
  | nil => rfl
  | cons cost costs ih => rw [total, ih, List.map_cons, List.sum_cons]

end Cost

theorem Limits.fits_map_iff {α : Type} {limits : Limits} {cost : α → Cost} {items : List α} :
    limits.fits (items.map cost) = true ↔
      items.length ≤ limits.items ∧
        overhead + (items.map fun item => (cost item).request).sum < limits.pduSize.toNat ∧
        replyOverhead + (items.map fun item => (cost item).reply).sum < limits.pduSize.toNat := by
  rw [fits_iff, Cost.total_eq_sum, Cost.total_eq_sum, List.map_map, List.map_map, List.length_map,
    ← and_rotate]
  rfl

/-- What fits without some of its items fits. -/
theorem Limits.fits_part {limits : Limits} {part whole : List Cost} (inside : part <:+: whole)
    (fit : limits.fits whole = true) : limits.fits part = true := by
  obtain ⟨before, after, rfl⟩ := inside
  obtain ⟨request, reply, few⟩ := fits_iff.mp fit
  simp only [Cost.total_append, List.length_append] at request reply few
  exact fits_iff.mpr ⟨by omega, by omega, by omega⟩

end Plan

/-! ## Items that are read -/

namespace ReadPlan

theorem fitsInPart (limits : Limits) : FitsInPart (fits limits) := fun _ _ inside fit =>
  Limits.fits_part (inside.map _) fit

/-- Items may share a read request: there are no more than a request may have, and both the request
and the full answer stay below the PDU size. -/
structure MayShare (limits : Limits) (items : List ReadItem) : Prop where
  few : items.length ≤ clampItems limits.maxItems
  request_lt : overhead + specificationSize * items.length < limits.pduSize.toNat
  reply_lt : replyOverhead +
    (items.map fun item => itemHeaderSize + item.tag.size + item.tag.size % 2).sum <
      limits.pduSize.toNat

theorem fits_iff_mayShare {limits : Limits} (items : List ReadItem) :
    fits limits items = true ↔ MayShare limits items := by
  have requests : (items.map fun item => (Cost.ofRead item.tag.size).request).sum =
      specificationSize * items.length := by
    simp [Cost.ofRead, Nat.mul_comm]
  have replies : (items.map fun item => (Cost.ofRead item.tag.size).reply) =
      items.map fun item => itemHeaderSize + item.tag.size + item.tag.size % 2 :=
    List.map_congr_left fun item _ => (Nat.add_assoc ..).symm
  rw [fits, Limits.fits_map_iff, requests, replies]
  exact ⟨fun given => ⟨given.1, given.2.1, given.2.2⟩,
    fun given => ⟨given.few, given.request_lt, given.reply_lt⟩⟩

end ReadPlan

/-! ## Items that are written -/

namespace WritePlan

theorem fitsInPart (limits : Limits) : FitsInPart (fits limits) := fun _ _ inside fit =>
  Limits.fits_part (inside.map _) fit

/-- Items may share a write request: there are no more than a request may have, and both the request
and the answer stay below the PDU size. -/
structure MayShare (limits : Limits) (items : List WriteItem) : Prop where
  few : items.length ≤ clampItems limits.maxItems
  request_lt : overhead +
    (items.map fun item => specificationSize + itemHeaderSize + item.data.length +
      item.data.length % 2).sum < limits.pduSize.toNat
  reply_lt : replyOverhead + statusSize * items.length < limits.pduSize.toNat

theorem fits_iff_mayShare {limits : Limits} (items : List WriteItem) :
    fits limits items = true ↔ MayShare limits items := by
  have requests : (items.map fun item => (Cost.ofWrite item.data.length).request) =
      items.map fun item => specificationSize + itemHeaderSize + item.data.length +
        item.data.length % 2 :=
    List.map_congr_left fun item _ => (Nat.add_assoc ..).symm
  have replies : (items.map fun item => (Cost.ofWrite item.data.length).reply).sum =
      statusSize * items.length := by
    simp [Cost.ofWrite, Nat.mul_comm]
  rw [fits, Limits.fits_map_iff, requests, replies]
  exact ⟨fun given => ⟨given.1, given.2.1, given.2.2⟩,
    fun given => ⟨given.few, given.request_lt, given.reply_lt⟩⟩

end WritePlan

/-! ## Both kinds of plan -/

/-- Whatever is planned is sent in as few batches as its items, in their order, can be cut into. The
items of a read are the groups of its tags or the tags in the caller's order; those of a write are
the tags in the caller's order with the payloads of their values. -/
theorem fewestRuns_of_planned (limits : Limits) :
    (∀ (tags : List Tag) (optimize : Bool) (plan : ReadPlan),
        ReadPlan.make tags limits optimize = .ok plan →
        ∃ items, ReadPlan.itemsOf limits.pduSize optimize tags = .ok items ∧
          (optimize = false → items = (Indexed.all tags).map ReadItem.ofTag) ∧
          FewestRuns (ReadPlan.MayShare limits) items (plan.batches.map (·.items))) ∧
      ∀ (tags : List Tag) (values : List Value) (plan : WritePlan),
        WritePlan.make tags values limits = .ok plan →
        ∃ items : List WriteItem, items.map (·.tag) = tags ∧
          (tags.zip values).mapM (fun (tag, value) => value.encode tag) =
            .ok (items.map (·.data)) ∧
          FewestRuns (WritePlan.MayShare limits) items (plan.batches.map (·.items)) := by
  constructor
  · intro tags optimize plan made
    refine ⟨plan.items, ReadPlan.itemsOf_of_make made, ?_, ?_⟩
    · rintro rfl
      exact ReadPlan.items_of_single made
    · rw [ReadPlan.map_items_batches made]
      exact fewestRuns_cut (ReadPlan.fitsInPart limits) ReadPlan.fits_iff_mayShare _
  · intro tags values plan made
    refine ⟨plan.batches.flatMap (·.items), WritePlan.map_tag_items made, ?_, ?_⟩
    · rw [mapM_eq_ok_iff, List.forall₂_map_right_iff]
      exact (WritePlan.items_of_make made).imp fun _ _ formed =>
        (WritePlan.itemOf_eq_ok formed).2.1
    · rw [WritePlan.map_items_batches made]
      exact fewestRuns_cut (WritePlan.fitsInPart limits) WritePlan.fits_iff_mayShare _

theorem fewestRuns_of_planned_closeBytes :
    (∃ plan, ReadPlan.make closeBytes ⟨56, 20⟩ true = .ok plan ∧ plan.batches.length = 2 ∧
        ∃ items, ReadPlan.itemsOf 56 true closeBytes = .ok items ∧
          FewestRuns (ReadPlan.MayShare ⟨56, 20⟩) items (plan.batches.map (·.items))) ∧
      ∃ plan, WritePlan.make closeBytes [.byte 1, .byte 2, .list (List.replicate 10 (.byte 3))]
          ⟨56, 20⟩ = .ok plan ∧ plan.batches.length = 2 ∧
        ∃ items : List WriteItem, items.map (·.tag) = closeBytes ∧
          FewestRuns (WritePlan.MayShare ⟨56, 20⟩) items (plan.batches.map (·.items)) := by
  have seenRead : (ReadPlan.make closeBytes ⟨56, 20⟩ true).toOption.map (·.batches.length) =
      some 2 := by
    cbv
  have seenWrite : (WritePlan.make closeBytes
      [.byte 1, .byte 2, .list (List.replicate 10 (.byte 3))] ⟨56, 20⟩).toOption.map
      (·.batches.length) = some 2 := by
    cbv
  obtain ⟨readPlan, readMade, readCount⟩ := exists_of_map_toOption seenRead
  obtain ⟨writePlan, writeMade, writeCount⟩ := exists_of_map_toOption seenWrite
  obtain ⟨groups, formed, _, groupRuns⟩ := (fewestRuns_of_planned ⟨56, 20⟩).1 _ _ _ readMade
  obtain ⟨items, named, _, itemRuns⟩ := (fewestRuns_of_planned ⟨56, 20⟩).2 _ _ _ writeMade
  exact ⟨⟨readPlan, readMade, readCount, groups, formed, groupRuns⟩,
    ⟨writePlan, writeMade, writeCount, items, named, itemRuns⟩⟩

end S7Link
