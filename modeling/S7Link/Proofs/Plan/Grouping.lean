import S7Link.Plan.Grouping

/-!
# What groups keep

A group stands for one range of bytes. While tags are gathered it keeps that its tags are of one
region, that the range begins with its first tag and ends with the last byte of any of them, and
that it does not outgrow the largest item (`Group.Spans`). A tag that joins begins no earlier than
the first one, because the tags come in the order of their places: `byPlace` gives every tag of its
list once, in that order, and leaves the tags at one place as they came (`filter_byPlace`).
Gathering loses no tag and changes no order (`members_gather`).
-/

namespace S7Link.Plan

open Tag

/-! ## The order of places -/

/-- If two tags are of one region, the first begins no later. -/
def InPlace (a b : Indexed Tag) : Prop :=
  a.value.region = b.value.region → a.value.start ≤ b.value.start

theorem byPlace_perm (tags : List (Indexed Tag)) : (byPlace tags).Perm tags :=
  List.mergeSort_perm tags _

theorem isLE_placeOrder_trans (a b c : Indexed Tag)
    (first : (placeOrder a.value b.value).isLE = true)
    (second : (placeOrder b.value c.value).isLE = true) :
    (placeOrder a.value c.value).isLE = true :=
  Std.TransCmp.isLE_trans first second

theorem isLE_placeOrder_total (a b : Indexed Tag) :
    ((placeOrder a.value b.value).isLE || (placeOrder b.value a.value).isLE) = true :=
  isLE_total placeOrder a.value b.value

theorem sorted_byPlace (tags : List (Indexed Tag)) :
    (byPlace tags).Pairwise fun a b => (placeOrder a.value b.value).isLE = true :=
  List.pairwise_mergeSort isLE_placeOrder_trans isLE_placeOrder_total tags

theorem pairwise_byPlace (tags : List (Indexed Tag)) : (byPlace tags).Pairwise InPlace :=
  (sorted_byPlace tags).imp fun order region => start_le_of_placeOrder order region

/-- Tags at one place stay in the order in which they came. -/
theorem filter_byPlace (place : Tag) (tags : List (Indexed Tag)) :
    (byPlace tags).filter (placeOrder ·.value place == .eq) =
      tags.filter (placeOrder ·.value place == .eq) := by
  have tied : (tags.filter (placeOrder ·.value place == .eq)).Pairwise fun a b =>
      (placeOrder a.value b.value).isLE = true := by
    apply List.pairwise_iff_forall_sublist.mpr
    intro a b both
    have first := (List.mem_filter.mp (both.subset List.mem_cons_self)).2
    have second := (List.mem_filter.mp (both.subset (List.mem_cons_of_mem a List.mem_cons_self))).2
    rw [Std.TransCmp.eq_trans (eq_of_beq first) (Std.OrientedCmp.eq_symm (eq_of_beq second))]
    rfl
  have kept : (tags.filter (placeOrder ·.value place == .eq)).Sublist (byPlace tags) :=
    List.sublist_mergeSort isLE_placeOrder_trans isLE_placeOrder_total tied List.filter_sublist
  have within := kept.filter (placeOrder ·.value place == .eq)
  simp only [List.filter_filter, Bool.and_self] at within
  exact (within.eq_of_length ((byPlace_perm tags).filter _).length_eq.symm).symm

namespace Group

/-! ## Ranges -/

/-- The range of a group spans its tags and nothing beyond them, and is no larger than an item. -/
structure Spans (largest : Nat) (group : Group) : Prop where
  region_eq : ∀ member ∈ group.members, member.value.region = group.first.value.region
  start_le : ∀ member ∈ group.members, group.start ≤ member.value.start
  stop_le : ∀ member ∈ group.members, member.value.stop ≤ group.stop
  stop_reached : ∃ member ∈ group.members, member.value.stop = group.stop
  size_le : group.stop - group.start ≤ largest

theorem first_mem_members (group : Group) : group.first ∈ group.members := List.mem_cons_self

theorem members_join (group : Group) (tag : Indexed Tag) :
    (group.join tag).members = group.members ++ [tag] := rfl

theorem stop_join (group : Group) (tag : Indexed Tag) :
    (group.join tag).stop = max group.stop tag.value.stop := rfl

theorem accepts_iff {largest : Nat} {group : Group} {tag : Tag} :
    group.accepts largest tag = true ↔
      group.first.value.region = tag.region ∧
        mergeIsBeneficial ((tag.start : Int) - group.stop) = true ∧
        max group.stop tag.stop - group.start ≤ largest := by
  rw [accepts, Bool.and_eq_true, Bool.and_eq_true, decide_eq_true_iff, decide_eq_true_iff,
    and_assoc]

/-! ## One step keeps the range -/

theorem spans_ofTag {largest : Nat} {tag : Indexed Tag} (fits : tag.value.size ≤ largest) :
    (ofTag tag).Spans largest where
  region_eq := fun member h => by rw [List.mem_singleton.mp h]
  start_le := fun member h => by rw [List.mem_singleton.mp h]; exact Nat.le_refl _
  stop_le := fun member h => by rw [List.mem_singleton.mp h]; exact Nat.le_refl _
  stop_reached := ⟨tag, List.mem_singleton.mpr rfl, rfl⟩
  size_le := by
    have : (ofTag tag).stop - (ofTag tag).start = tag.value.size := Nat.add_sub_cancel_left ..
    omega

theorem Spans.join {largest : Nat} {group : Group} {tag : Indexed Tag}
    (spans : group.Spans largest) (order : InPlace group.first tag)
    (accepted : group.accepts largest tag.value = true) : (group.join tag).Spans largest := by
  obtain ⟨region, _, size⟩ := accepts_iff.mp accepted
  constructor
  · intro member h
    rw [members_join, List.mem_append, List.mem_singleton] at h
    rcases h with old | rfl
    · exact spans.region_eq member old
    · exact region.symm
  · intro member h
    rw [members_join, List.mem_append, List.mem_singleton] at h
    rcases h with old | rfl
    · exact spans.start_le member old
    · exact order region
  · intro member h
    rw [members_join, List.mem_append, List.mem_singleton] at h
    rw [stop_join]
    rcases h with old | rfl
    · exact Nat.le_trans (spans.stop_le member old) (Nat.le_max_left ..)
    · exact Nat.le_max_right ..
  · rw [stop_join]
    rcases Nat.le_total group.stop tag.value.stop with later | earlier
    · exact ⟨tag, by simp [members_join], (Nat.max_eq_right later).symm⟩
    · obtain ⟨member, old, reached⟩ := spans.stop_reached
      refine ⟨member, by simp [members_join, old], ?_⟩
      rw [reached, Nat.max_eq_left earlier]
  · exact size

/-! ## So does gathering -/

/-- Gathering keeps every tag, in order. -/
theorem members_gatherAfter (largest : Nat) (group : Group) (tags : List (Indexed Tag)) :
    (gatherAfter largest group tags).flatMap members = group.members ++ tags := by
  induction tags generalizing group with
  | nil => simp [gatherAfter]
  | cons tag tags ih =>
    rw [gatherAfter]
    split
    · rw [ih, members_join, List.append_assoc, List.singleton_append]
    · rw [List.flatMap_cons, ih]
      rfl

theorem members_gather (largest : Nat) (tags : List (Indexed Tag)) :
    (gather largest tags).flatMap members = tags := by
  cases tags with
  | nil => rfl
  | cons tag tags => exact members_gatherAfter largest (ofTag tag) tags

/-- What holds of every group of one tag, and of a group with one more tag that it accepts, holds of
all groups of tags in the order of their places. -/
theorem forall_gather {P : Group → Prop} {largest : Nat} {tags : List (Indexed Tag)}
    (order : tags.Pairwise InPlace) (one : ∀ tag ∈ tags, P (ofTag tag))
    (more : ∀ group tag, P group → InPlace group.first tag →
      group.accepts largest tag.value = true → P (group.join tag)) :
    ∀ group ∈ gather largest tags, P group := by
  -- Every tag that is still to come stands behind the first tag of the open group.
  have after : ∀ (tags : List (Indexed Tag)) (group : Group), P group →
      (group.first :: tags).Pairwise InPlace → (∀ tag ∈ tags, P (ofTag tag)) →
      ∀ group' ∈ gatherAfter largest group tags, P group' := by
    intro tags
    induction tags with
    | nil =>
      intro group holds _ _ group' member
      rw [List.mem_singleton.mp member]
      exact holds
    | cons tag tags ih =>
      intro group holds order one
      obtain ⟨first, later⟩ := List.pairwise_cons.mp order
      obtain ⟨opens, others⟩ := List.forall_mem_cons.mp one
      rw [gatherAfter]
      split
      · next accepted =>
        refine ih _ (more group tag holds (first tag List.mem_cons_self) accepted) ?_ others
        exact List.pairwise_cons.mpr
          ⟨fun tag' member => first tag' (List.mem_cons_of_mem tag member), later.of_cons⟩
      · intro group' member
        rcases List.mem_cons.mp member with rfl | member
        · exact holds
        · exact ih (ofTag tag) opens later others group' member
  cases tags with
  | nil =>
    intro group member
    cases member
  | cons tag tags =>
    obtain ⟨opens, others⟩ := List.forall_mem_cons.mp one
    exact after tags (ofTag tag) opens order others

/-- Every group of tags in the order of their places spans its tags. -/
theorem spans_gather {largest : Nat} {tags : List (Indexed Tag)} (order : tags.Pairwise InPlace)
    (fit : ∀ tag ∈ tags, tag.value.size ≤ largest) :
    ∀ group ∈ gather largest tags, group.Spans largest :=
  forall_gather order (fun tag member => spans_ofTag (fit tag member))
    fun _ _ spans order accepted => spans.join order accepted

end Group

end S7Link.Plan
