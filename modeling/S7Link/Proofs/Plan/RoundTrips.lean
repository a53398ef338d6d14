import S7Link.Proofs.Plan.FewestBatches

/-!
# Round trips of grouped and of single reads

Grouping never makes more items (`length_items_le`), and every plan cuts its own items into as few
requests as they can be cut into. Yet a grouped plan may need more requests than one that reads
every tag by itself, for two reasons. The bytes between neighbours are weighed against what an item
costs in the request and in the answer together, while the answer alone may be what is full; and
items are cut in the order of their places, which may pack worse than the caller's order. Grouping
costs no request if and only if every way to cut the single tags is matched by a way to cut the
groups (`length_batches_le_iff`), and so it is where only the number of items limits a request
(`length_batches_le_of_room`).
-/

namespace S7Link

open Outcome Plan Request

/-! ## Fewest requests for given items -/

namespace ReadPlan

/-- A way to send items in their order: runs, of which each is a single item or may share a
request. -/
structure IsCut (limits : Limits) (items : List ReadItem) (runs : List (List ReadItem)) : Prop where
  flatten_eq : runs.flatten = items
  isRun : ∀ run ∈ runs, IsRun (fits limits) run

theorem isCut_cut (limits : Limits) (items : List ReadItem) :
    IsCut limits items (cut (fits limits) items) where
  flatten_eq := flatten_cut (fits limits) items
  isRun := fun _ member => (mem_cut member).2

section

variable {tags : List Tag} {limits : Limits} {optimize : Bool} {plan : ReadPlan}

theorem length_batches (made : make tags limits optimize = .ok plan) :
    plan.batches.length = (cut (fits limits) plan.items).length := by
  rw [← map_items_batches made, List.length_map]

/-- No way to send the items of a plan takes fewer requests than the plan has batches. -/
theorem length_batches_le (made : make tags limits optimize = .ok plan)
    {runs : List (List ReadItem)} (isCut : IsCut limits plan.items runs) :
    plan.batches.length ≤ runs.length := by
  have fewest := fewestRuns_cut (fitsInPart limits) (fun _ => Iff.rfl) plan.items
  rw [length_batches made]
  exact fewest.fewest runs isCut.flatten_eq isCut.isRun

end

/-! ## Grouping makes no more items -/

theorem length_le_length_members {largest : Nat} {items : List ReadItem}
    (covers : ∀ item ∈ items, item.Covers largest) :
    items.length ≤ (items.flatMap (·.members)).length := by
  induction items with
  | nil => exact Nat.le_refl 0
  | cons item items ih =>
    obtain ⟨member, inItem, _⟩ := (covers item List.mem_cons_self).stop_reached
    have some := List.length_pos_of_mem inItem
    have rest := ih fun item' later => covers item' (List.mem_cons_of_mem item later)
    rw [List.flatMap_cons, List.length_append, List.length_cons]
    omega

/-- A plan has no more items than it reads tags. -/
theorem length_items_le {tags : List Tag} {limits : Limits} {optimize : Bool} {plan : ReadPlan}
    (made : make tags limits optimize = .ok plan) : plan.items.length ≤ tags.length := by
  have each := length_le_length_members (covers_of_make made)
  rwa [(members_perm made).length_eq, Indexed.length_all] at each

theorem length_items_of_single {tags : List Tag} {limits : Limits} {plan : ReadPlan}
    (made : make tags limits false = .ok plan) : plan.items.length = tags.length := by
  rw [items_of_single made, List.length_map, Indexed.length_all]

/-! ## When grouping costs no request -/

/-- The plans that read three tags as two groups, and each by itself. -/
theorem exists_grouped_closeBytes :
    ∃ grouped single, make closeBytes ⟨56, 20⟩ true = .ok grouped ∧
      make closeBytes ⟨56, 20⟩ false = .ok single ∧
      grouped.batches.length = 2 ∧ single.batches.length = 1 := by
  have seenGrouped : (make closeBytes ⟨56, 20⟩ true).toOption.map (·.batches.length) = some 2 := by
    cbv
  have seenSingle : (make closeBytes ⟨56, 20⟩ false).toOption.map (·.batches.length) = some 1 := by
    cbv
  obtain ⟨grouped, groupedMade, two⟩ := exists_of_map_toOption seenGrouped
  obtain ⟨single, singleMade, one⟩ := exists_of_map_toOption seenSingle
  exact ⟨grouped, single, groupedMade, singleMade, two, one⟩

section

variable {tags : List Tag} {limits : Limits} {grouped single : ReadPlan}

/-- Tags that can be planned can be planned both ways. Grouping makes no more items, and it makes no
more batches if and only if every way to send the single tags in the caller's order is matched by a
way to send the groups in the order of their places that takes no more requests. -/
theorem length_batches_le_iff {optimize : Bool} {plan : ReadPlan}
    (made : make tags limits optimize = .ok plan) :
    ∃ grouped single, make tags limits true = .ok grouped ∧ make tags limits false = .ok single ∧
      grouped.items.length ≤ single.items.length ∧
      (grouped.batches.length ≤ single.batches.length ↔
        ∀ runs, IsCut limits single.items runs →
          ∃ runs', IsCut limits grouped.items runs' ∧ runs'.length ≤ runs.length) := by
  have sizes := exists_make_iff.mp ⟨plan, made⟩
  rcases exists_make_iff.mpr sizes with ⟨grouped, groupedMade⟩
  rcases exists_make_iff.mpr sizes with ⟨single, singleMade⟩
  refine ⟨grouped, single, groupedMade, singleMade, ?_, ?_, ?_⟩
  · rw [length_items_of_single singleMade]
    exact length_items_le groupedMade
  · intro fewer runs isCut
    refine ⟨_, isCut_cut limits grouped.items, ?_⟩
    rw [← length_batches groupedMade]
    exact Nat.le_trans fewer (length_batches_le singleMade isCut)
  · intro matched
    rcases matched _ (isCut_cut limits single.items) with ⟨runs, isCut, fewer⟩
    rw [← length_batches singleMade] at fewer
    exact Nat.le_trans (length_batches_le groupedMade isCut) fewer

/-- The condition may fail: three tags that share a request are read as two groups that do not. -/
theorem length_batches_le_iff_closeBytes :
    ∃ grouped single, make closeBytes ⟨56, 20⟩ true = .ok grouped ∧
      make closeBytes ⟨56, 20⟩ false = .ok single ∧
      grouped.batches.length = 2 ∧ single.batches.length = 1 ∧
      ¬ ∀ runs, IsCut ⟨56, 20⟩ single.items runs →
          ∃ runs', IsCut ⟨56, 20⟩ grouped.items runs' ∧ runs'.length ≤ runs.length := by
  rcases exists_grouped_closeBytes with ⟨grouped, single, groupedMade, singleMade, two, one⟩
  rcases length_batches_le_iff groupedMade with
    ⟨grouped', single', groupedMade', singleMade', _, matched⟩
  cases groupedMade.symm.trans groupedMade'
  cases singleMade.symm.trans singleMade'
  refine ⟨grouped, single, groupedMade, singleMade, two, one, ?_⟩
  rw [← matched]
  omega

/-- Grouping may cost a request. -/
theorem not_length_batches_le :
    ¬ ∀ (tags : List Tag) (limits : Limits) (grouped single : ReadPlan),
      make tags limits true = .ok grouped → make tags limits false = .ok single →
        grouped.batches.length ≤ single.batches.length := by
  intro fewer
  obtain ⟨grouped, single, groupedMade, singleMade, two, one⟩ := exists_grouped_closeBytes
  have := fewer _ _ _ _ groupedMade singleMade
  omega

/-- The largest number of items that a request may have and still stay below the PDU size. -/
def mostItems (limits : Limits) : Nat :=
  min limits.items ((limits.pduSize.toNat - 1 - overhead) / specificationSize)

theorem length_le_mostItems {batch : ReadBatch} (sendable : batch.Sendable limits) :
    batch.items.length ≤ mostItems limits := by
  have named := sendable.length_lt 0
  rw [ReadRequest.length, ReadRequest.lengthOf, batch.length_tags, Nat.mul_comm] at named
  exact Nat.le_min.mpr
    ⟨sendable.few, (Nat.le_div_iff_mul_le (by decide)).mpr (by omega)⟩

theorem length_items_le_mul {most : Nat} {batches : List ReadBatch}
    (few : ∀ batch ∈ batches, batch.items.length ≤ most) :
    (batches.flatMap (·.items)).length ≤ most * batches.length := by
  induction batches with
  | nil => exact Nat.zero_le _
  | cons batch batches ih =>
    have first := few batch List.mem_cons_self
    have rest := ih fun batch' later => few batch' (List.mem_cons_of_mem batch later)
    rw [List.flatMap_cons, List.length_append, List.length_cons, Nat.mul_succ, Nat.add_comm]
    exact Nat.add_le_add rest first

theorem exists_chunks {α : Type} (most count : Nat) (xs : List α)
    (few : xs.length ≤ most * count) :
    ∃ chunks : List (List α), chunks.flatten = xs ∧ chunks.length = count ∧
      ∀ chunk ∈ chunks, chunk.length ≤ most ∧ chunk <:+: xs := by
  induction count generalizing xs with
  | zero =>
    have none : xs = [] := List.length_eq_zero_iff.mp (Nat.le_zero.mp few)
    exact ⟨[], none.symm, rfl, fun chunk member => by cases member⟩
  | succ count ih =>
    have left : (xs.drop most).length ≤ most * count := by
      rw [List.length_drop]
      rw [Nat.mul_succ] at few
      omega
    obtain ⟨chunks, flatten, length, small⟩ := ih (xs.drop most) left
    refine ⟨xs.take most :: chunks, ?_, congrArg Nat.succ length, ?_⟩
    · rw [List.flatten_cons, flatten, List.take_append_drop]
    · intro chunk member
      rcases List.mem_cons.mp member with rfl | later
      · exact ⟨List.length_take_le .., (List.take_prefix most xs).isInfix⟩
      · obtain ⟨short, inside⟩ := small chunk later
        exact ⟨short, inside.trans (List.drop_suffix most xs).isInfix⟩

/-- Grouping costs no request where answers are never what is full: if any groups that a request can
name may also share it, there are no more batches than without grouping. -/
theorem length_batches_le_of_room (groupedMade : make tags limits true = .ok grouped)
    (singleMade : make tags limits false = .ok single)
    (room : ∀ part, part <:+: grouped.items → part.length ≤ mostItems limits →
      IsRun (fits limits) part) :
    grouped.batches.length ≤ single.batches.length := by
  have fewer := length_items_le groupedMade
  rw [← length_items_of_single singleMade] at fewer
  have named : single.items.length ≤ mostItems limits * single.batches.length :=
    length_items_le_mul fun batch member =>
      length_le_mostItems (sendable_of_make singleMade batch member)
  obtain ⟨chunks, flatten, length, small⟩ :=
    exists_chunks _ _ grouped.items (Nat.le_trans fewer named)
  rw [← length]
  exact length_batches_le groupedMade
    ⟨flatten, fun chunk member => room chunk (small chunk member).2 (small chunk member).1⟩

end

end ReadPlan

end S7Link
