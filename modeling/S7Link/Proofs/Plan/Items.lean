import S7Link.Plan.Read
import S7Link.Proofs.Outcome
import S7Link.Proofs.Plan.Grouping
import S7Link.Proofs.Plan.Indexed
import S7Link.Proofs.Request.Accepted

/-!
# Items of a read plan

Whether or not tags are grouped, an item covers its tags: they lie within the bytes that are read,
one of them ends where the item ends, and the item is the tag itself if it is not a range of bytes
(`ReadItem.Covers`). No item is too large to be read alone. The items of a plan carry each tag of
the caller once, with its place in the caller's list (`ReadPlan.members_perm`). The range of a group
is always a tag, so that nothing but the size of a tag stands in the way of a plan
(`ReadPlan.exists_make_iff`).
-/

namespace S7Link

open Outcome Plan Request

/-- A range of bytes that begins where a tag begins is a tag. -/
theorem Tag.exists_ofBytes (tag : Tag) {length : Nat} (pos : 0 < length)
    (countable : length ≤ 65535) : ∃ range, ofBytes tag.region tag.start length = .ok range := by
  have stray : ¬(tag.block ≠ 0 ∧ tag.area ≠ .dataBlock) := fun h => h.1 (tag.block_eq_zero h.2)
  unfold ofBytes make region
  rw [dif_neg (Nat.not_lt_of_le countable), dif_neg stray, dif_neg (by decide),
    dif_neg (by decide), dif_neg (Nat.ne_of_gt pos), dif_neg (fun h => by cases h.1),
    dif_neg (fun h => by cases h.1), dif_neg (Nat.not_lt_of_le tag.start_le)]
  exact ⟨_, rfl⟩

/-- The range of a group is not empty. -/
theorem Plan.Group.Spans.start_lt_stop {largest : Nat} {group : Group}
    (spans : group.Spans largest) : group.start < group.stop :=
  Nat.lt_of_lt_of_le group.first.value.start_lt_stop
    (spans.stop_le group.first group.first_mem_members)

/-- The range of a group is a tag. -/
theorem Plan.Group.Spans.exists_range {largest : Nat} {group : Group}
    (spans : group.Spans largest) (countable : largest ≤ 65535) :
    ∃ range, Tag.ofBytes group.first.value.region group.start (group.stop - group.start) =
      .ok range :=
  Tag.exists_ofBytes group.first.value (Nat.sub_pos_of_lt spans.start_lt_stop)
    (Nat.le_trans spans.size_le countable)

namespace ReadItem

/-- An item reads the bytes of its tags and nothing beyond them, as the one tag that it has or as a
range of bytes, and is no larger than `largest`. -/
structure Covers (largest : Nat) (item : ReadItem) : Prop where
  contains : ∀ member ∈ item.members, item.tag.contains member.value = true
  stop_reached : ∃ member ∈ item.members, member.value.stop = item.tag.stop
  shape : (∃ member, item.members = [member] ∧ member.value = item.tag) ∨ item.tag.type = .byte
  size_le : item.tag.size ≤ largest

/-- An item that is a bit is its only tag. -/
theorem Covers.value_eq_of_bit {largest : Nat} {item : ReadItem} {member : Indexed Tag}
    (covers : item.Covers largest) (isBit : item.tag.type = .bit)
    (inItem : member ∈ item.members) : member.value = item.tag := by
  rcases covers.shape with ⟨only, members, same⟩ | bytes
  · rw [members, List.mem_singleton] at inItem
    rw [inItem, same]
  · rw [bytes] at isBit
    cases isBit

theorem covers_ofTag {largest : Nat} {tag : Indexed Tag} (fits : tag.value.size ≤ largest) :
    (ofTag tag).Covers largest where
  contains := fun member h => by
    rw [List.mem_singleton.mp h]
    exact Tag.contains_iff.mpr ⟨rfl, Nat.le_refl _, Nat.le_refl _⟩
  stop_reached := ⟨tag, List.mem_singleton.mpr rfl, rfl⟩
  shape := Or.inl ⟨tag, rfl, rfl⟩
  size_le := fits

/-- An item reads the range of a group: as the only tag of the group, or as a range of bytes. -/
structure Reads (group : Group) (item : ReadItem) : Prop where
  members_eq : item.members = group.members
  region_eq : item.tag.region = group.first.value.region
  start_eq : item.tag.start = group.start
  stop_eq : item.tag.stop = group.stop
  shape : (∃ member, item.members = [member] ∧ member.value = item.tag) ∨
    1 < item.members.length ∧ item.tag.type = .byte

/-- The item of a group reads the range of the group. -/
theorem reads_ofGroup {largest : Nat} {group : Group} {item : ReadItem}
    (spans : group.Spans largest) (made : ofGroup group = .ok item) : item.Reads group := by
  unfold ofGroup at made
  split at made
  · next alone =>
    cases made
    have members : group.members = [group.first] := by rw [Group.members, alone]
    obtain ⟨member, inGroup, reached⟩ := spans.stop_reached
    rw [members, List.mem_singleton] at inGroup
    rw [inGroup] at reached
    exact ⟨members.symm, rfl, rfl, reached, Or.inl ⟨group.first, rfl, rfl⟩⟩
  · next several =>
    split at made
    · next tag range =>
      cases made
      obtain ⟨area, block, type, start, _, length⟩ := Tag.make_eq_ok_iff.mp range
      have first := spans.stop_le group.first group.first_mem_members
      refine ⟨rfl, by rw [Tag.region, area, block], start, ?_, Or.inr ⟨?_, type⟩⟩
      · rw [Tag.stop, start, Tag.size, type, DataType.size, length]
        exact Nat.add_sub_cancel' (Nat.le_trans group.first.value.start_le_stop first)
      · exact Nat.succ_lt_succ (List.length_pos_iff.mpr several)
    · cases made

theorem Reads.size_eq {group : Group} {item : ReadItem} (reads : item.Reads group) :
    item.tag.size = group.stop - group.start := by
  rw [← reads.stop_eq, ← reads.start_eq]
  exact (Nat.add_sub_cancel_left ..).symm

/-- An item that reads the range of a group covers the tags of the group. -/
theorem Reads.covers {largest : Nat} {group : Group} {item : ReadItem} (reads : item.Reads group)
    (spans : group.Spans largest) : item.Covers largest where
  contains := by
    intro member inItem
    rw [reads.members_eq] at inItem
    refine Tag.contains_iff.mpr
      ⟨reads.region_eq.trans (spans.region_eq member inItem).symm, ?_, ?_⟩
    · exact reads.start_eq ▸ spans.start_le member inItem
    · exact reads.stop_eq ▸ spans.stop_le member inItem
  stop_reached := by
    rw [reads.members_eq, reads.stop_eq]
    exact spans.stop_reached
  shape := reads.shape.imp_right And.right
  size_le := reads.size_eq ▸ spans.size_le

/-- A group has an item. -/
theorem exists_ofGroup {largest : Nat} {group : Group} (spans : group.Spans largest)
    (countable : largest ≤ 65535) : ∃ item, ofGroup group = .ok item := by
  rcases spans.exists_range countable with ⟨range, formed⟩
  unfold ofGroup
  split
  · exact ⟨_, rfl⟩
  · rw [formed]
    exact ⟨_, rfl⟩

/-- The items of groups, one by one. -/
theorem forall₂_reads {largest : Nat} {groups : List Group} {items : List ReadItem}
    (spans : ∀ group ∈ groups, group.Spans largest)
    (made : List.Forall₂ (fun group item => ofGroup group = .ok item) groups items) :
    List.Forall₂ (fun group item => item.Reads group ∧ group.Spans largest) groups items := by
  induction made with
  | nil => exact .nil
  | @cons group item groups items first _ ih =>
    obtain ⟨spansFirst, spansLater⟩ := List.forall_mem_cons.mp spans
    exact .cons ⟨reads_ofGroup spansFirst first, spansFirst⟩ (ih spansLater)

theorem covers_of_groups {largest : Nat} {groups : List Group} {items : List ReadItem}
    (spans : ∀ group ∈ groups, group.Spans largest)
    (made : List.Forall₂ (fun group item => ofGroup group = .ok item) groups items) :
    items.flatMap (·.members) = groups.flatMap Group.members ∧
      ∀ item ∈ items, item.Covers largest := by
  have each := forall₂_reads spans made
  constructor
  · have members := map_eq_map_of_forall₂ (each.imp fun _ _ given => given.1.members_eq.symm)
    rw [List.flatMap_def, List.flatMap_def, members]
  · exact forall_mem_of_forall₂ (each.imp fun _ _ given => given.1.covers given.2)

end ReadItem

namespace ReadPlan

theorem checkSizes_eq_ok_iff {pduSize : UInt16} {tags : List Tag} :
    checkSizes pduSize tags = .ok () ↔ ∀ tag ∈ tags, tag.size ≤ largestRead pduSize := by
  unfold checkSizes
  dsimp only
  split
  · next tag found =>
    have large : largestRead pduSize < tag.size := by simpa using List.find?_some found
    constructor
    · intro h
      cases h
    · intro all
      exact absurd (all tag (List.mem_of_find?_eq_some found)) (Nat.not_le_of_lt large)
  · next none =>
    refine ⟨fun _ tag member => ?_, fun _ => rfl⟩
    have small := List.find?_eq_none.mp none tag member
    simpa using small

/-- The groups of tags that are not too large span their tags. -/
theorem spans_of_sizes {pduSize : UInt16} {tags : List Tag}
    (sizes : ∀ tag ∈ tags, tag.size ≤ largestRead pduSize) :
    ∀ group ∈ Group.gather (largestRead pduSize) (byPlace (Indexed.all tags)),
      group.Spans (largestRead pduSize) := by
  apply Group.spans_gather (pairwise_byPlace (Indexed.all tags))
  intro tag member
  apply sizes tag.value
  exact Indexed.value_mem_of_mem_all ((byPlace_perm _).mem_iff.mp member)

/-- A plan is made if no tag is too large and the items can be formed, and its batches are a cut of
these items. -/
theorem make_eq_ok_iff {tags : List Tag} {limits : Limits} {optimize : Bool} {plan : ReadPlan} :
    make tags limits optimize = .ok plan ↔
      (∀ tag ∈ tags, tag.size ≤ largestRead limits.pduSize) ∧
        ∃ items, itemsOf limits.pduSize optimize tags = .ok items ∧
          plan = ⟨(cut (fits limits) items).map ReadBatch.mk⟩ := by
  rw [make, bind_eq_ok_iff, ← checkSizes_eq_ok_iff]
  constructor
  · intro given
    rcases given with ⟨_, sizes, later⟩
    obtain ⟨items, formed, done⟩ := bind_eq_ok_iff.mp later
    cases done
    exact ⟨sizes, items, formed, rfl⟩
  · intro given
    rcases given with ⟨sizes, items, formed, rfl⟩
    exact ⟨(), sizes, bind_eq_ok_iff.mpr ⟨items, formed, rfl⟩⟩

/-- Groups of tags that are not too large have items. -/
theorem exists_itemsOf {pduSize : UInt16} {tags : List Tag} (optimize : Bool)
    (sizes : ∀ tag ∈ tags, tag.size ≤ largestRead pduSize) :
    ∃ items, itemsOf pduSize optimize tags = .ok items := by
  unfold itemsOf
  split
  · have spans := spans_of_sizes sizes
    rcases exists_forall₂ fun group member =>
      ReadItem.exists_ofGroup (spans group member) (largestRead_le pduSize) with ⟨items, formed⟩
    exact ⟨items, mapM_eq_ok_iff.mpr formed⟩
  · exact ⟨_, rfl⟩

/-- A plan is made if and only if no tag is too large, whether or not tags are grouped. -/
theorem exists_make_iff {tags : List Tag} {limits : Limits} {optimize : Bool} :
    (∃ plan, make tags limits optimize = .ok plan) ↔
      ∀ tag ∈ tags, tag.size ≤ largestRead limits.pduSize := by
  constructor
  · intro given
    rcases given with ⟨plan, made⟩
    exact (make_eq_ok_iff.mp made).1
  · intro sizes
    rcases exists_itemsOf optimize sizes with ⟨items, formed⟩
    exact ⟨_, make_eq_ok_iff.mpr ⟨sizes, items, formed, rfl⟩⟩

theorem items_of_cut (limits : Limits) (items : List ReadItem) :
    (⟨(cut (fits limits) items).map ReadBatch.mk⟩ : ReadPlan).items = items := by
  rw [ReadPlan.items, List.flatMap_map]
  exact List.flatMap_id.trans (flatten_cut (fits limits) items)

/-- However the items are formed, each covers its tags and carries the caller's tags in some
order. -/
theorem covers_of_itemsOf {pduSize : UInt16} {optimize : Bool} {tags : List Tag}
    {items : List ReadItem} (sizes : ∀ tag ∈ tags, tag.size ≤ largestRead pduSize)
    (formed : itemsOf pduSize optimize tags = .ok items) :
    (∀ item ∈ items, item.Covers (largestRead pduSize)) ∧
      (items.flatMap (·.members)).Perm (Indexed.all tags) := by
  unfold itemsOf at formed
  split at formed
  · obtain ⟨members, covers⟩ :=
      ReadItem.covers_of_groups (spans_of_sizes sizes) (mapM_eq_ok_iff.mp formed)
    refine ⟨covers, ?_⟩
    rw [members, Group.members_gather]
    exact byPlace_perm (Indexed.all tags)
  · cases formed
    constructor
    · intro item member
      obtain ⟨tag, tagMember, rfl⟩ := List.mem_map.mp member
      exact ReadItem.covers_ofTag (sizes tag.value (Indexed.value_mem_of_mem_all tagMember))
    · rw [List.flatMap_map]
      exact List.Perm.of_eq (List.flatMap_singleton' _)

section Made

variable {tags : List Tag} {limits : Limits} {optimize : Bool} {plan : ReadPlan}

/-- The items of a plan are those that its tags have. -/
theorem itemsOf_of_make (made : make tags limits optimize = .ok plan) :
    itemsOf limits.pduSize optimize tags = .ok plan.items := by
  obtain ⟨_, items, formed, rfl⟩ := make_eq_ok_iff.mp made
  rw [items_of_cut]
  exact formed

/-- Without grouping each tag is an item, in the order of the caller. -/
theorem items_of_single (made : make tags limits false = .ok plan) :
    plan.items = (Indexed.all tags).map ReadItem.ofTag :=
  (Except.ok.inj (itemsOf_of_make made)).symm

theorem map_items_batches (made : make tags limits optimize = .ok plan) :
    plan.batches.map (·.items) = cut (fits limits) plan.items := by
  obtain ⟨_, items, _, rfl⟩ := make_eq_ok_iff.mp made
  rw [items_of_cut, List.map_map]
  exact List.map_id _

theorem items_mem_cut (made : make tags limits optimize = .ok plan) {batch : ReadBatch}
    (member : batch ∈ plan.batches) : batch.items ∈ cut (fits limits) plan.items := by
  rw [← map_items_batches made]
  exact List.mem_map_of_mem member

theorem mem_items {plan : ReadPlan} {batch : ReadBatch} {item : ReadItem}
    (member : batch ∈ plan.batches) (inBatch : item ∈ batch.items) : item ∈ plan.items :=
  List.mem_flatMap.mpr ⟨batch, member, inBatch⟩

theorem covers_of_make (made : make tags limits optimize = .ok plan) :
    ∀ item ∈ plan.items, item.Covers (largestRead limits.pduSize) :=
  (covers_of_itemsOf (make_eq_ok_iff.mp made).1 (itemsOf_of_make made)).1

/-- No item of a plan has more bytes than a word can count. -/
theorem size_le_of_make (made : make tags limits optimize = .ok plan) :
    ∀ item ∈ plan.items, item.tag.size ≤ 65535 := fun item member =>
  Nat.le_trans (covers_of_make made item member).size_le (largestRead_le limits.pduSize)

/-- Each tag of the caller is carried once, with its place. -/
theorem members_perm (made : make tags limits optimize = .ok plan) :
    (plan.items.flatMap (·.members)).Perm (Indexed.all tags) :=
  (covers_of_itemsOf (make_eq_ok_iff.mp made).1 (itemsOf_of_make made)).2

end Made

end ReadPlan

end S7Link
