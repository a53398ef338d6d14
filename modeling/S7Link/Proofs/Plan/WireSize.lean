import S7Link.Proofs.Plan.Neighbours

/-!
# Grouping sends no more bytes

What an item costs on the wire is its overhead, its payload and a fill byte if the payload is odd. A
tag joins a group only if the bytes between them are fewer than the overhead of an item, so a group
with one more tag costs no more than the group and the tag apart (`Group.wireSize_join_le`): fifteen
bytes between them and a fill byte are just what an item of its own would cost. Hence a grouped plan
costs no more than one that reads every tag by itself (`ReadPlan.exists_wireSize_le`), whatever
batches the two are cut into.
-/

namespace S7Link

open Outcome Plan Request

namespace Plan

/-- The bytes on the wire, in request and answer, for an item with a payload of a size. -/
def wireSize (size : Nat) : Nat := itemOverhead + size + size % 2

theorem wireSize_le_add {joined first second : Nat}
    (joins : joined < first + second + itemOverhead) :
    wireSize joined ≤ wireSize first + wireSize second := by
  have overhead : itemOverhead = 16 := rfl
  unfold wireSize
  omega

namespace Group

/-- The bytes on the wire for the item of a group. -/
def wireSize (group : Group) : Nat := Plan.wireSize (group.stop - group.start)

/-- The bytes on the wire for tags that are read one by one. -/
def wireSizeApart (tags : List (Indexed Tag)) : Nat :=
  (tags.map fun tag => Plan.wireSize tag.value.size).sum

theorem wireSize_ofTag (tag : Indexed Tag) :
    (ofTag tag).wireSize = Plan.wireSize tag.value.size :=
  congrArg Plan.wireSize (Nat.add_sub_cancel_left ..)

/-- A tag costs no more in a group that accepts it than by itself. -/
theorem wireSize_join_le {largest : Nat} {group : Group} {tag : Indexed Tag}
    (accepted : group.accepts largest tag.value = true) :
    (group.join tag).wireSize ≤ group.wireSize + Plan.wireSize tag.value.size := by
  obtain ⟨_, near, _⟩ := accepts_iff.mp accepted
  have close := mergeIsBeneficial_iff.mp near
  have begins : (group.join tag).start = group.start := rfl
  have ends : tag.value.stop = tag.value.start + tag.value.size := rfl
  have overhead : 0 < itemOverhead := by decide
  apply wireSize_le_add
  rw [begins, stop_join, ends]
  omega

theorem wireSize_gatherAfter_le (largest : Nat) (group : Group) (tags : List (Indexed Tag)) :
    ((gatherAfter largest group tags).map wireSize).sum ≤ group.wireSize + wireSizeApart tags := by
  induction tags generalizing group with
  | nil => exact Nat.le_refl _
  | cons tag tags ih =>
    have apart : wireSizeApart (tag :: tags) =
        Plan.wireSize tag.value.size + wireSizeApart tags := List.sum_cons
    rw [gatherAfter, apart]
    split
    · next accepted =>
      have joined := ih (group.join tag)
      have cheaper := wireSize_join_le accepted
      omega
    · have opened := ih (ofTag tag)
      rw [wireSize_ofTag] at opened
      rw [List.map_cons, List.sum_cons]
      omega

/-- Groups cost no more than their tags one by one. -/
theorem wireSize_gather_le (largest : Nat) (tags : List (Indexed Tag)) :
    ((gather largest tags).map wireSize).sum ≤ wireSizeApart tags := by
  cases tags with
  | nil => exact Nat.le_refl 0
  | cons tag tags =>
    have opened := wireSize_gatherAfter_le largest (ofTag tag) tags
    rwa [wireSize_ofTag] at opened

end Group

end Plan

namespace ReadPlan

/-- The bytes on the wire for the items of a plan. -/
def wireSize (plan : ReadPlan) : Nat := (plan.items.map fun item => Plan.wireSize item.tag.size).sum

variable {tags : List Tag} {limits : Limits}

theorem wireSize_of_single {plan : ReadPlan} (made : make tags limits false = .ok plan) :
    plan.wireSize = Group.wireSizeApart (Indexed.all tags) := by
  rw [wireSize, items_of_single made, List.map_map]
  rfl

theorem wireSize_of_grouped_le {plan : ReadPlan} (made : make tags limits true = .ok plan) :
    plan.wireSize ≤ Group.wireSizeApart (Indexed.all tags) := by
  have spans := spans_of_sizes (make_eq_ok_iff.mp made).1
  have each := ReadItem.forall₂_reads spans (mapM_eq_ok_iff.mp (itemsOf_of_make made))
  have sizes := map_eq_map_of_forall₂ (f := Group.wireSize)
    (g := fun item => Plan.wireSize item.tag.size)
    (each.imp fun _ _ given => congrArg Plan.wireSize given.1.size_eq.symm)
  have sorted : Group.wireSizeApart (byPlace (Indexed.all tags)) =
      Group.wireSizeApart (Indexed.all tags) := ((byPlace_perm _).map _).sum_nat
  rw [wireSize, ← sizes, ← sorted]
  exact Group.wireSize_gather_le _ _

/-- Tags that can be planned can be planned both ways; grouping sends no more bytes for items. -/
theorem exists_wireSize_le {optimize : Bool} {plan : ReadPlan}
    (made : make tags limits optimize = .ok plan) :
    ∃ grouped single, make tags limits true = .ok grouped ∧ make tags limits false = .ok single ∧
      grouped.wireSize ≤ single.wireSize := by
  have sizes := exists_make_iff.mp ⟨plan, made⟩
  rcases exists_make_iff.mpr sizes with ⟨grouped, groupedMade⟩
  rcases exists_make_iff.mpr sizes with ⟨single, singleMade⟩
  refine ⟨grouped, single, groupedMade, singleMade, ?_⟩
  rw [wireSize_of_single singleMade]
  exact wireSize_of_grouped_le groupedMade

theorem exists_wireSize_le_nestedTags :
    (∃ plan, make nestedTags ⟨240, 20⟩ false = .ok plan ∧ plan.wireSize = 80) ∧
      ∃ grouped single, make nestedTags ⟨240, 20⟩ true = .ok grouped ∧
        make nestedTags ⟨240, 20⟩ false = .ok single ∧ grouped.wireSize ≤ single.wireSize := by
  have seen : (make nestedTags ⟨240, 20⟩ false).toOption.map (·.wireSize) = some 80 := by
    cbv
  obtain ⟨plan, made, bytes⟩ := exists_of_map_toOption seen
  exact ⟨⟨plan, made, bytes⟩, exists_wireSize_le made⟩

end ReadPlan

end S7Link
