import S7Link.Plan.Batching

/-!
# Runs of a cut

`cut` closes a run as soon as the next element does not fit. Every run it gives is a single element
or fits (`mem_cut`), and if what fits also fits in part, no way to cut the list into such runs has
fewer of them (`length_cut_le`). The reason is that a run of `cut` reaches at least as far as any
other run from the same place (`exists_cutAfter_eq`), and that less is left to cut then.
-/

namespace S7Link.Plan

variable {α : Type} {fits : List α → Bool}

/-- A run that may be sent as one: it fits, or it is a single element, which nothing can divide. -/
def IsRun (fits : List α → Bool) (run : List α) : Prop := run.length = 1 ∨ fits run = true

/-- What fits also fits in part. -/
def FitsInPart (fits : List α → Bool) : Prop :=
  ∀ part whole : List α, part <:+: whole → fits whole = true → fits part = true

/-! ## What the runs are -/

theorem mem_cutAfter {first run : List α} {xs : List α} (nonempty : first ≠ [])
    (isRun : IsRun fits first) (member : run ∈ cutAfter fits first xs) :
    run ≠ [] ∧ IsRun fits run := by
  induction xs generalizing first with
  | nil =>
    rw [cutAfter, List.mem_singleton] at member
    subst member
    exact ⟨nonempty, isRun⟩
  | cons x xs ih =>
    rw [cutAfter] at member
    split at member
    · next joined => exact ih (by simp) (Or.inr joined) member
    · rcases List.mem_cons.mp member with rfl | later
      · exact ⟨nonempty, isRun⟩
      · exact ih (by simp) (Or.inl rfl) later

/-- Every run of a cut has an element, and it is a single one or fits. -/
theorem mem_cut {run xs : List α} (member : run ∈ cut fits xs) : run ≠ [] ∧ IsRun fits run := by
  cases xs with
  | nil => cases member
  | cons x xs => exact mem_cutAfter (by simp) (Or.inl rfl) member

/-! ## No cut has fewer runs -/

/-- A run that may still grow by `next` takes all of it. -/
theorem cutAfter_append {first next rest : List α}
    (grows : ∀ part, part ≠ [] → part <+: next → fits (first ++ part) = true) :
    cutAfter fits first (next ++ rest) = cutAfter fits (first ++ next) rest := by
  induction next generalizing first with
  | nil => simp
  | cons x next ih =>
    have joined : fits (first ++ [x]) = true := grows [x] (by simp) ⟨next, rfl⟩
    rw [List.cons_append, cutAfter, if_pos joined, ih]
    · rw [List.append_assoc, List.singleton_append]
    · intro part nonempty inside
      rw [List.append_assoc, List.singleton_append]
      exact grows (x :: part) (by simp) (List.cons_prefix_cons.mpr ⟨rfl, inside⟩)

/-- The open run takes some of the list, and the rest is cut by itself. -/
theorem exists_cutAfter_eq (fits : List α → Bool) (first xs : List α) :
    ∃ taken rest, xs = taken ++ rest ∧
      cutAfter fits first xs = (first ++ taken) :: cut fits rest := by
  induction xs generalizing first with
  | nil => exact ⟨[], [], rfl, by simp [cutAfter, cut]⟩
  | cons x xs ih =>
    rw [cutAfter]
    split
    · obtain ⟨taken, rest, split, runs⟩ := ih (first ++ [x])
      exact ⟨x :: taken, rest, by rw [split, List.cons_append], by simp [runs]⟩
    · exact ⟨[], x :: xs, rfl, by rw [List.append_nil, cut]⟩

/-- A part of a run is a run. -/
theorem IsRun.part (closed : FitsInPart fits) {part run : List α} (isRun : IsRun fits run)
    (inside : part <:+: run) (nonempty : part ≠ []) : IsRun fits part := by
  rcases isRun with single | whole
  · have := inside.length_le
    have := List.length_pos_iff.mpr nonempty
    exact Or.inl (by omega)
  · exact Or.inr (closed part run inside whole)

/-- If a list begins with a run, its first run reaches at least as far as that one. -/
theorem exists_cut_append_eq (closed : FitsInPart fits) {run rest : List α} (nonempty : run ≠ [])
    (isRun : IsRun fits run) :
    ∃ first left, left <:+ rest ∧ cut fits (run ++ rest) = first :: cut fits left := by
  obtain ⟨x, next, rfl⟩ := List.exists_cons_of_ne_nil nonempty
  have grows : ∀ part, part ≠ [] → part <+: next → fits ([x] ++ part) = true := by
    intro part some inside
    have inRun : [x] ++ part <+: x :: next := List.cons_prefix_cons.mpr ⟨rfl, inside⟩
    rcases isRun with single | whole
    · have empty : next = [] := by simpa using single
      subst empty
      exact absurd (List.prefix_nil.mp inside) some
    · exact closed _ _ inRun.isInfix whole
  obtain ⟨taken, left, split, runs⟩ := exists_cutAfter_eq fits ([x] ++ next) rest
  exact ⟨_, left, ⟨taken, split.symm⟩, (cutAfter_append grows).trans runs⟩

/-- What is left of a list can be cut into no more runs than the whole list. -/
theorem length_cut_le_of_suffix (closed : FitsInPart fits) {runs : List (List α)} {xs : List α}
    (left : xs <:+ runs.flatten) (areRuns : ∀ run ∈ runs, IsRun fits run) :
    (cut fits xs).length ≤ runs.length := by
  induction runs generalizing xs with
  | nil =>
    rw [List.suffix_nil.mp left]
    exact Nat.le_refl 0
  | cons run runs ih =>
    have later : ∀ run' ∈ runs, IsRun fits run' := fun run' member =>
      areRuns run' (List.mem_cons_of_mem run member)
    rw [List.flatten_cons] at left
    rcases List.suffix_or_suffix_of_suffix left (List.suffix_append run _) with behind | within
    · exact Nat.le_succ_of_le (ih behind later)
    · obtain ⟨part, rfl⟩ := within
      have inside : part <:+ run := List.suffix_append_self_iff.mp left
      by_cases nonempty : part = []
      · subst nonempty
        exact Nat.le_succ_of_le (ih (List.suffix_refl _) later)
      · have partRun : IsRun fits part :=
          (areRuns run List.mem_cons_self).part closed inside.isInfix nonempty
        obtain ⟨first, rest, behind, runsEq⟩ := exists_cut_append_eq closed nonempty partRun
        rw [runsEq]
        exact Nat.succ_le_succ (ih behind later)

/-- No way to cut a list into runs has fewer of them than `cut`. -/
theorem length_cut_le (closed : FitsInPart fits) {runs : List (List α)}
    (areRuns : ∀ run ∈ runs, IsRun fits run) :
    (cut fits runs.flatten).length ≤ runs.length :=
  length_cut_le_of_suffix closed (List.suffix_refl _) areRuns

end S7Link.Plan
