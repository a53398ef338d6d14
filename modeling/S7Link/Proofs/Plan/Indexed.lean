import S7Link.Plan.Grouping

/-!
# Back into the caller's order

What a list holds at a place is the element that goes with that place, so no two places go with
different elements. Whatever order the elements of a list come in, putting them back into the order
of their places gives the list (`inOrder_of_perm`), and so it does for what was made of each of them
(`inOrder_map`, `getElem?_inOrder`).
-/

namespace S7Link.Plan.Indexed

variable {α β : Type}

/-- The same place with what is made of its element. -/
def map (f : α → β) (x : Indexed α) : Indexed β := ⟨x.index, f x.value⟩

theorem map_eq_map {γ : Type} {f : α → γ} {g : β → γ} {x : Indexed α} {y : Indexed β}
    (index : x.index = y.index) (value : f x.value = g y.value) : map f x = map g y := by
  unfold map
  rw [index, value]

theorem length_all (xs : List α) : (all xs).length = xs.length := by
  rw [all, List.length_map, List.length_zipIdx]

theorem map_value_all (xs : List α) : (all xs).map (·.value) = xs := by
  rw [all, List.map_map]
  exact List.zipIdx_map_fst 0 xs

theorem value_mem_of_mem_all {xs : List α} {x : Indexed α} (member : x ∈ all xs) :
    x.value ∈ xs := by
  rw [← map_value_all xs]
  exact List.mem_map_of_mem member

theorem mem_all_iff {xs : List α} {x : Indexed α} : x ∈ all xs ↔ xs[x.index]? = some x.value := by
  constructor
  · intro member
    obtain ⟨⟨value, index⟩, inList, rfl⟩ := List.mem_map.mp member
    exact List.mem_zipIdx_iff_getElem?.mp inList
  · intro found
    exact List.mem_map.mpr ⟨(x.value, x.index), List.mem_zipIdx_iff_getElem?.mpr found, rfl⟩

theorem index_of_getElem?_all {xs : List α} {place : Nat} {x : Indexed α}
    (found : (all xs)[place]? = some x) : x.index = place := by
  rw [all, List.getElem?_map, List.getElem?_zipIdx, Option.map_map] at found
  obtain ⟨value, _, rfl⟩ := Option.map_eq_some_iff.mp found
  exact Nat.zero_add place

theorem map_index_all (xs : List α) : (all xs).map (·.index) = List.range' 0 xs.length := by
  rw [all, List.map_map]
  exact List.zipIdx_map_snd 0 xs

theorem nodup_all (xs : List α) : (all xs).Nodup := by
  have places : (List.range' 0 xs.length).Nodup := List.nodup_range'
  rw [← map_index_all] at places
  exact List.Pairwise.of_map _ (fun _ _ differ same => differ (congrArg _ same)) places

/-- The places come in order. -/
theorem pairwise_lt_all (xs : List α) : (all xs).Pairwise fun a b => a.index < b.index := by
  have sorted : (List.range' 0 xs.length).Pairwise (· < ·) := List.pairwise_lt_range' 1
  rw [← map_index_all] at sorted
  exact List.pairwise_map.mp sorted

theorem pairwise_all (xs : List α) : (all xs).Pairwise fun a b => a.index ≤ b.index :=
  (pairwise_lt_all xs).imp Nat.le_of_lt

/-- Elements that come in any order are sorted into that of the list. -/
theorem mergeSort_of_perm {xs : List α} {members : List (Indexed α)}
    (perm : members.Perm (all xs)) :
    (members.mergeSort fun a b => a.index ≤ b.index) = all xs := by
  let le (a b : Indexed α) : Bool := decide (a.index ≤ b.index)
  have byPlace : (members.mergeSort le).Pairwise fun a b => le a b = true := by
    refine List.pairwise_mergeSort ?_ ?_ members
    · intro a b c first second
      exact decide_eq_true
        (Nat.le_trans (decide_eq_true_iff.mp first) (decide_eq_true_iff.mp second))
    · intro a b
      rw [Bool.or_eq_true, decide_eq_true_iff, decide_eq_true_iff]
      exact Nat.le_total ..
  have sorted := byPlace.imp fun order => decide_eq_true_iff.mp order
  have same : (members.mergeSort le).Perm (all xs) := (List.mergeSort_perm members le).trans perm
  refine List.Perm.eq_of_pairwise ?_ sorted (pairwise_all xs) same
  intro a b inFirst inSecond first second
  have index : a.index = b.index := Nat.le_antisymm first second
  have value := mem_all_iff.mp (same.mem_iff.mp inFirst)
  rw [index, mem_all_iff.mp inSecond] at value
  cases a
  cases b
  cases index
  cases value
  rfl

/-- Elements that come in any order are put back. -/
theorem inOrder_of_perm {xs : List α} {members : List (Indexed α)} (perm : members.Perm (all xs)) :
    inOrder members = xs := by
  rw [inOrder, mergeSort_of_perm perm, map_value_all]

theorem inOrder_perm (xs : List (Indexed α)) : (inOrder xs).Perm (xs.map (·.value)) :=
  (List.mergeSort_perm xs _).map _

theorem map_mergeSort (f : α → β) (xs : List (Indexed α)) :
    (xs.mergeSort fun a b => a.index ≤ b.index).map (map f) =
      (xs.map (map f)).mergeSort fun a b => a.index ≤ b.index :=
  List.map_mergeSort (f := map f) fun _ _ _ _ => rfl

theorem inOrder_map (f : α → β) (xs : List (Indexed α)) :
    inOrder (xs.map (map f)) = (inOrder xs).map f := by
  rw [inOrder, inOrder, ← map_mergeSort, List.map_map, List.map_map]
  rfl

/-- What is made of the elements of a list stands, in the order of the places, at the place of its
element. -/
theorem getElem?_inOrder {xs : List (Indexed α)} {ys : List β} {f : α → β}
    (perm : (xs.map (map f)).Perm (all ys)) {x : Indexed α} (member : x ∈ xs) :
    (inOrder xs)[x.index]? = some x.value := by
  have sorted := mergeSort_of_perm perm
  rw [← map_mergeSort] at sorted
  rw [← (List.mergeSort_perm xs fun a b => a.index ≤ b.index).mem_iff] at member
  obtain ⟨place, found⟩ := List.getElem?_of_mem member
  have there : (all ys)[place]? = some (map f x) := by
    rw [← sorted, List.getElem?_map, found]
    rfl
  have index : (map f x).index = place := index_of_getElem?_all there
  change x.index = place at index
  rw [inOrder, List.getElem?_map, index, found]
  rfl

end S7Link.Plan.Indexed
