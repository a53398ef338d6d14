import Mathlib
import S7Link.Proofs.Plan.Items

/-!
# Neighbours share an item

Grouping goes through the tags once, in the order of their places, and leaves none out and none
twice (`StableByPlace`). The range of an item begins with the first byte of any of its members and
ends with the last, and each member begins close enough to those before it (`ReadItem.IsRange`). An
item is as large as it can be: the first tag of the next item is of another region, or lies too far
away, or would make the item too large (`ReadItem.Apart`). While tags are gathered the end of the
open range is the greatest end of any of its tags, which need not be that of the last one.
-/

namespace S7Link

open Outcome Plan Request

namespace Plan

/-! ## The order in which tags are gone through -/

/-- All tags of a list, each with its index, in the order of their places; those at one place are in
the order of the list. -/
structure StableByPlace (tags : List Tag) (members : List (Indexed Tag)) : Prop where
  perm : members.Perm (Indexed.all tags)
  ordered : members.Pairwise fun a b =>
    Tag.placeOrder a.value b.value = .lt ∨
      Tag.placeOrder a.value b.value = .eq ∧ a.index < b.index

theorem stableByPlace_byPlace (tags : List Tag) :
    StableByPlace tags (byPlace (Indexed.all tags)) where
  perm := byPlace_perm (Indexed.all tags)
  ordered := by
    apply List.pairwise_iff_forall_sublist.mpr
    intro a b inOrder
    have order := List.pairwise_iff_forall_sublist.mp (sorted_byPlace _) inOrder
    cases place : Tag.placeOrder a.value b.value with
    | lt => exact Or.inl rfl
    | gt =>
      rw [place] at order
      cases order
    | eq =>
      -- Both are among the tags at the place of the second, which sorting leaves as they came.
      have self : Tag.placeOrder b.value b.value = .eq := Std.ReflCmp.compare_self
      have both : [a, b].filter (Tag.placeOrder ·.value b.value == .eq) = [a, b] := by
        simp [place, self]
      have tied := inOrder.filter (Tag.placeOrder ·.value b.value == .eq)
      rw [both, filter_byPlace] at tied
      exact Or.inr ⟨rfl, List.pairwise_iff_forall_sublist.mp (Indexed.pairwise_lt_all tags)
        (tied.trans List.filter_sublist)⟩

/-! ## Tags that lie close together -/

/-- The offsets at which tags begin. -/
def starts (tags : List (Indexed Tag)) : Set Nat :=
  {start | ∃ tag ∈ tags, tag.value.start = start}

/-- The offsets at which tags end. -/
def stops (tags : List (Indexed Tag)) : Set Nat :=
  {stop | ∃ tag ∈ tags, tag.value.stop = stop}

/-- Each tag but the first begins less than an item's overhead beyond the greatest end of those
before it. -/
def Close (tags : List (Indexed Tag)) : Prop :=
  ∀ before tag after, tags = before ++ tag :: after → before ≠ [] →
    ∃ stop, IsGreatest (stops before) stop ∧ tag.value.start < stop + itemOverhead

theorem close_singleton (tag : Indexed Tag) : Close [tag] := by
  intro before other after split some
  rcases List.append_eq_cons_iff.mp split.symm with ⟨none, _⟩ | ⟨_, _, none⟩
  · exact absurd none some
  · cases List.append_eq_nil_iff.mp none.symm with
    | intro _ impossible => cases impossible

theorem Close.concat {tags : List (Indexed Tag)} {tag : Indexed Tag} {stop : Nat}
    (close : Close tags) (greatest : IsGreatest (stops tags) stop)
    (near : tag.value.start < stop + itemOverhead) : Close (tags ++ [tag]) := by
  intro before other after split some
  rcases List.eq_nil_or_concat after with rfl | ⟨inner, last, rfl⟩
  · obtain ⟨rfl, same⟩ := List.append_inj' split rfl
    cases same
    exact ⟨stop, greatest, near⟩
  · rw [List.concat_eq_append, ← List.cons_append, ← List.append_assoc] at split
    exact close before other inner (List.append_inj' split rfl).1 some

theorem mergeIsBeneficial_iff {start stop : Nat} :
    mergeIsBeneficial ((start : Int) - stop) = true ↔ start < stop + itemOverhead := by
  have overhead : 0 < itemOverhead := by decide
  rw [mergeIsBeneficial, decide_eq_true_iff]
  omega

/-! ## Groups cannot grow -/

namespace Group

theorem Spans.isGreatest_stop {largest : Nat} {group : Group} (spans : group.Spans largest) :
    IsGreatest (stops group.members) group.stop := by
  refine ⟨spans.stop_reached, ?_⟩
  intro stop given
  obtain ⟨member, inGroup, rfl⟩ := given
  exact spans.stop_le member inGroup

theorem Spans.isLeast_start {largest : Nat} {group : Group} (spans : group.Spans largest) :
    IsLeast (starts group.members) group.start := by
  refine ⟨⟨group.first, group.first_mem_members, rfl⟩, ?_⟩
  intro start given
  obtain ⟨member, inGroup, rfl⟩ := given
  exact spans.start_le member inGroup

/-- The tags of every group lie close together. -/
theorem close_gather {largest : Nat} {tags : List (Indexed Tag)} (order : tags.Pairwise InPlace)
    (fit : ∀ tag ∈ tags, tag.value.size ≤ largest) :
    ∀ group ∈ gather largest tags, Close group.members := by
  have both : ∀ group ∈ gather largest tags, group.Spans largest ∧ Close group.members := by
    refine forall_gather (P := fun group => group.Spans largest ∧ Close group.members) order
      (fun tag member => ⟨spans_ofTag (fit tag member), close_singleton tag⟩) ?_
    rintro group tag ⟨spans, close⟩ inPlace accepted
    obtain ⟨_, near, _⟩ := accepts_iff.mp accepted
    refine ⟨spans.join inPlace accepted, ?_⟩
    rw [members_join]
    exact close.concat spans.isGreatest_stop (mergeIsBeneficial_iff.mp near)
  exact fun group member => (both group member).2

/-- A group does not accept the first tag of the next one. -/
def Ends (largest : Nat) (earlier later : Group) : Prop :=
  ¬earlier.accepts largest later.first.value = true

/-- The first group after an open one is the open one with some tags more. -/
theorem exists_gatherAfter_eq (largest : Nat) (group : Group) (tags : List (Indexed Tag)) :
    ∃ next rest, gatherAfter largest group tags = next :: rest ∧ next.first = group.first := by
  induction tags generalizing group with
  | nil => exact ⟨group, [], rfl, rfl⟩
  | cons tag tags ih =>
    rw [gatherAfter]
    split
    · obtain ⟨next, rest, groups, first⟩ := ih (group.join tag)
      exact ⟨next, rest, groups, first⟩
    · exact ⟨group, _, rfl, rfl⟩

theorem isChain_gatherAfter (largest : Nat) (group : Group) (tags : List (Indexed Tag)) :
    (gatherAfter largest group tags).IsChain (Ends largest) := by
  induction tags generalizing group with
  | nil => exact .singleton group
  | cons tag tags ih =>
    rw [gatherAfter]
    split
    · exact ih (group.join tag)
    · next refused =>
      obtain ⟨next, rest, groups, first⟩ := exists_gatherAfter_eq largest (ofTag tag) tags
      have later := ih (ofTag tag)
      rw [groups] at later ⊢
      refine List.isChain_cons_cons.mpr ⟨?_, later⟩
      rw [Ends, first]
      exact refused

theorem isChain_gather (largest : Nat) (tags : List (Indexed Tag)) :
    (gather largest tags).IsChain (Ends largest) := by
  cases tags with
  | nil => exact .nil
  | cons tag tags => exact isChain_gatherAfter largest (ofTag tag) tags

end Group

end Plan

/-! ## Items of groups -/

namespace ReadItem

/-- An item reads the bytes from the first of its members to the last, all in one region: as its
only member, or as a range of bytes that is no larger than `largest`. Its members lie close
together. -/
structure IsRange (largest : Nat) (item : ReadItem) : Prop where
  nonempty : item.members ≠ []
  region_eq : ∀ member ∈ item.members, member.value.region = item.tag.region
  tag_eq : ∀ member, item.members = [member] → item.tag = member.value
  type_eq : 1 < item.members.length → item.tag.type = .byte
  isLeast_start : IsLeast (starts item.members) item.tag.start
  isGreatest_stop : IsGreatest (stops item.members) item.tag.stop
  size_le : item.tag.size ≤ largest
  close : Close item.members

/-- The first member of the later item is of another region, begins at least an item's overhead
beyond the earlier item, or would stretch that item beyond `largest`. -/
def Apart (largest : Nat) (earlier later : ReadItem) : Prop :=
  ∃ first rest, later.members = first :: rest ∧
    (first.value.region ≠ earlier.tag.region ∨
      earlier.tag.stop + itemOverhead ≤ first.value.start ∨
      largest < max earlier.tag.stop first.value.stop - earlier.tag.start)

variable {largest : Nat} {group later : Group} {item next : ReadItem}

theorem Reads.isRange (reads : item.Reads group) (spans : group.Spans largest)
    (close : Close group.members) : item.IsRange largest where
  nonempty := by
    rw [reads.members_eq]
    exact List.cons_ne_nil _ _
  region_eq := by
    rw [reads.members_eq, reads.region_eq]
    exact spans.region_eq
  tag_eq := by
    intro member alone
    rcases reads.shape with ⟨only, members, same⟩ | ⟨several, _⟩
    · rw [alone, List.singleton_inj] at members
      rw [members, same]
    · rw [alone] at several
      exact absurd several (Nat.lt_irrefl 1)
  type_eq := by
    intro several
    rcases reads.shape with ⟨only, members, _⟩ | ⟨_, bytes⟩
    · rw [members] at several
      exact absurd several (Nat.lt_irrefl 1)
    · exact bytes
  isLeast_start := by
    rw [reads.members_eq, reads.start_eq]
    exact spans.isLeast_start
  isGreatest_stop := by
    rw [reads.members_eq, reads.stop_eq]
    exact spans.isGreatest_stop
  size_le := (reads.covers spans).size_le
  close := reads.members_eq ▸ close

theorem Reads.apart (reads : item.Reads group) (readsNext : next.Reads later)
    (ends : Group.Ends largest group later) : item.Apart largest next := by
  refine ⟨later.first, later.rest, readsNext.members_eq, ?_⟩
  rw [reads.region_eq, reads.start_eq, reads.stop_eq]
  by_cases region : group.first.value.region = later.first.value.region
  · by_cases near : later.first.value.start < group.stop + itemOverhead
    · refine Or.inr (Or.inr (Nat.lt_of_not_le fun small => ends ?_))
      exact Group.accepts_iff.mpr ⟨region, mergeIsBeneficial_iff.mpr near, small⟩
    · exact Or.inr (Or.inl (Nat.le_of_not_lt near))
  · exact Or.inl fun same => region same.symm

end ReadItem

/-! ## Grouped plans -/

namespace ReadPlan

/-- Items that group tags: they carry the tags in the order of their places, each is the range of
its members, and none of them could have had the first member of the next. -/
structure Groups (largest : Nat) (tags : List Tag) (items : List ReadItem) : Prop where
  members_eq : items.flatMap (·.members) = byPlace (Indexed.all tags)
  stable : StableByPlace tags (items.flatMap (·.members))
  isRange : ∀ item ∈ items, item.IsRange largest
  apart : items.IsChain (ReadItem.Apart largest)

variable {tags : List Tag} {limits : Limits} {plan : ReadPlan}

/-- A grouped plan groups its tags, each group as large as it can be. -/
theorem groups_of_make (made : make tags limits true = .ok plan) :
    Groups (largestRead limits.pduSize) tags plan.items := by
  have sizes := (make_eq_ok_iff.mp made).1
  have order := pairwise_byPlace (Indexed.all tags)
  have fit : ∀ tag ∈ byPlace (Indexed.all tags), tag.value.size ≤ largestRead limits.pduSize :=
    fun tag member =>
      sizes tag.value (Indexed.value_mem_of_mem_all ((byPlace_perm _).mem_iff.mp member))
  have spans := Group.spans_gather order fit
  have formed := mapM_eq_ok_iff.mp (itemsOf_of_make made)
  have each := ReadItem.forall₂_reads spans formed
  have members := (ReadItem.covers_of_groups spans formed).1
  rw [Group.members_gather] at members
  refine ⟨members, members ▸ stableByPlace_byPlace tags, ?_, ?_⟩
  · intro item member
    obtain ⟨group, inGroups, reads, spans⟩ := exists_mem_of_forall₂ each.flip member
    exact reads.isRange spans (Group.close_gather order fit group inGroups)
  · exact isChain_of_forall₂ each (Group.isChain_gather _ _)
      fun _ _ _ _ first second ends => first.1.apart second.1 ends

/-- A byte of a block, ten bytes of it that end fourteen bytes before, a bit among these, and a byte
of another area. -/
def nestedTags : List Tag :=
  [(Tag.make .dataBlock 1 .byte 24 0 1).toOption.get rfl,
    (Tag.make .dataBlock 1 .byte 0 0 10).toOption.get rfl,
    (Tag.make .dataBlock 1 .bit 3 1 1).toOption.get rfl,
    (Tag.make .memory 0 .byte 4 0 1).toOption.get rfl]

theorem groups_of_make_nestedTags :
    ∃ plan, make nestedTags ⟨240, 20⟩ true = .ok plan ∧ plan.items.length = 2 ∧
      Groups 214 nestedTags plan.items := by
  have seen : (make nestedTags ⟨240, 20⟩ true).toOption.map (·.items.length) = some 2 := by
    cbv
  obtain ⟨plan, made, two⟩ := exists_of_map_toOption seen
  exact ⟨plan, made, two, groups_of_make made⟩

end ReadPlan

end S7Link
