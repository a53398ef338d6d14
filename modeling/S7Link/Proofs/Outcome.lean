import Mathlib.Data.List.Forall2

/-!
# Computations that may fail

A computation in `Except` succeeds if and only if each of its steps does. The lemmas here take a
successful computation apart; a list goes through a step as a whole if and only if every element
does, and the results stand in the order of the elements. Otherwise the fault is that of the element
at which the list stops (`StopsAt`). `Yields` says under which condition a computation succeeds and
what its result then is.
-/

namespace S7Link.Outcome

variable {α β γ ε ε' : Type}

theorem bind_eq_ok_iff {x : Except ε α} {f : α → Except ε β} {b : β} :
    x >>= f = .ok b ↔ ∃ a, x = .ok a ∧ f a = .ok b := by
  cases x with
  | error fault =>
    constructor
    · intro h
      cases h
    · intro given
      rcases given with ⟨a, h, _⟩
      cases h
  | ok a =>
    constructor
    · exact fun h => ⟨a, rfl, h⟩
    · intro given
      rcases given with ⟨a', h, done⟩
      cases h
      exact done

/-- What does not succeed fails. -/
theorem exists_error_iff {x : Except ε α} : (∃ fault, x = .error fault) ↔ ¬∃ a, x = .ok a := by
  cases x with
  | error fault =>
    refine ⟨fun _ => ?_, fun _ => ⟨fault, rfl⟩⟩
    rintro ⟨_, done⟩
    cases done
  | ok a =>
    refine ⟨?_, fun failed => absurd ⟨a, rfl⟩ failed⟩
    rintro ⟨_, failed⟩
    cases failed

/-- A computation behind a check succeeds if the check lets it begin and it then succeeds. -/
theorem ite_error_eq_ok_iff {refused : Prop} [Decidable refused] {fault : ε} {x : Except ε α}
    {a : α} : (if refused then .error fault else x) = .ok a ↔ ¬refused ∧ x = .ok a := by
  split
  · next given => exact ⟨nofun, fun passed => absurd given passed.1⟩
  · next given => exact ⟨fun done => ⟨given, done⟩, And.right⟩

theorem mapError_eq_ok_iff {x : Except ε α} {f : ε → ε'} {a : α} :
    x.mapError f = .ok a ↔ x = .ok a := by
  cases x <;> simp [Except.mapError]

theorem map_map (x : Except ε α) (f : α → β) (g : β → γ) :
    (x.map f).map g = x.map fun a => g (f a) := by
  cases x <;> rfl

theorem map_eq_bind (x : Except ε α) (f : α → β) : x.map f = x >>= fun a => .ok (f a) := by
  cases x <;> rfl

theorem map_eq_error_iff {x : Except ε α} {f : α → β} {fault : ε} :
    x.map f = .error fault ↔ x = .error fault := by
  cases x <;> simp [Except.map]

theorem bind_eq_error_iff {x : Except ε α} {f : α → Except ε β} {fault : ε} :
    x >>= f = .error fault ↔ x = .error fault ∨ ∃ a, x = .ok a ∧ f a = .error fault := by
  cases x with
  | error cause =>
    constructor
    · intro failed
      cases failed
      exact Or.inl rfl
    · intro given
      rcases given with failed | ⟨a, h, _⟩
      · cases failed
        rfl
      · cases h
  | ok a =>
    refine ⟨fun failed => Or.inr ⟨a, rfl, failed⟩, fun given => ?_⟩
    rcases given with h | ⟨a', h, failed⟩
    · cases h
    · cases h
      exact failed

theorem mapError_eq_error_iff {x : Except ε α} {f : ε → ε'} {fault : ε'} :
    x.mapError f = .error fault ↔ ∃ cause, x = .error cause ∧ f cause = fault := by
  cases x <;> simp [Except.mapError]

theorem toOption_eq_some_iff {x : Except ε α} {a : α} : x.toOption = some a ↔ x = .ok a := by
  cases x <;> simp [Except.toOption]

/-- A computation of which something is seen has succeeded. -/
theorem exists_of_map_toOption {x : Except ε α} {f : α → β} {b : β}
    (seen : x.toOption.map f = some b) : ∃ a, x = .ok a ∧ f a = b := by
  obtain ⟨a, found, same⟩ := Option.map_eq_some_iff.mp seen
  exact ⟨a, toOption_eq_some_iff.mp found, same⟩

/-- A list goes through element by element. -/
theorem mapM_eq_ok_iff {f : α → Except ε β} {xs : List α} {ys : List β} :
    xs.mapM f = .ok ys ↔ List.Forall₂ (fun x y => f x = .ok y) xs ys := by
  induction xs generalizing ys with
  | nil =>
    rw [List.mapM_nil, List.forall₂_nil_left_iff]
    exact ⟨fun h => by cases h; rfl, fun h => by rw [h]; rfl⟩
  | cons x xs ih =>
    rw [List.mapM_cons, bind_eq_ok_iff, List.forall₂_cons_left_iff]
    constructor
    · intro given
      rcases given with ⟨y, first, later⟩
      obtain ⟨rest, others, done⟩ := bind_eq_ok_iff.mp later
      cases done
      exact ⟨y, rest, first, ih.mp others, rfl⟩
    · intro given
      rcases given with ⟨y, rest, first, others, rfl⟩
      exact ⟨y, first, bind_eq_ok_iff.mpr ⟨rest, ih.mpr others, rfl⟩⟩

/-- A list stops at the first element that does not go through. -/
theorem mapM_append_cons_eq_error {f : α → Except ε β} {before after : List α} {x : α} {fault : ε}
    (through : ∀ y ∈ before, ∃ z, f y = .ok z) (stopped : f x = .error fault) :
    (before ++ x :: after).mapM f = .error fault := by
  induction before with
  | nil =>
    rw [List.nil_append, List.mapM_cons, stopped]
    rfl
  | cons y before ih =>
    rw [List.forall_mem_cons] at through
    rcases through.1 with ⟨z, first⟩
    rw [List.cons_append, List.mapM_cons, first, bind_eq_error_iff]
    exact Or.inr ⟨z, rfl, bind_eq_error_iff.mpr (Or.inl (ih through.2))⟩

/-- An element of a list up to which every other one passes. -/
def StopsAt (passes : α → Prop) (xs : List α) (x : α) : Prop :=
  ∃ before after, xs = before ++ x :: after ∧ (∀ y ∈ before, passes y) ∧ ¬passes x

/-- A list stops unless all of it passes. -/
theorem exists_stopsAt {passes : α → Prop} {xs : List α} (stopped : ¬∀ x ∈ xs, passes x) :
    ∃ x, StopsAt passes xs x := by
  induction xs with
  | nil => exact absurd (List.forall_mem_nil _) stopped
  | cons x xs ih =>
    by_cases first : passes x
    · obtain ⟨y, before, after, rfl, through, stops⟩ :=
        ih fun others => stopped (List.forall_mem_cons.mpr ⟨first, others⟩)
      exact ⟨y, x :: before, after, rfl, List.forall_mem_cons.mpr ⟨first, through⟩, stops⟩
    · exact ⟨x, [], xs, rfl, List.forall_mem_nil _, first⟩

theorem StopsAt.mem {passes : α → Prop} {xs : List α} {x : α} (stops : StopsAt passes xs x) :
    x ∈ xs := by
  obtain ⟨before, after, rfl, _⟩ := stops
  exact List.mem_append_right before List.mem_cons_self

theorem StopsAt.congr {passes passes' : α → Prop} {xs : List α} {x : α}
    (stops : StopsAt passes xs x) (same : ∀ x ∈ xs, passes x ↔ passes' x) :
    StopsAt passes' xs x := by
  have last := same x stops.mem
  obtain ⟨before, after, rfl, through, stops⟩ := stops
  refine ⟨before, after, rfl, fun y earlier => ?_, mt last.mpr stops⟩
  exact (same y (List.mem_append_left _ earlier)).mp (through y earlier)

theorem StopsAt.map {f : α → β} {passes : β → Prop} {xs : List α} {x : α}
    (stops : StopsAt (fun x => passes (f x)) xs x) : StopsAt passes (xs.map f) (f x) := by
  obtain ⟨before, after, rfl, through, stops⟩ := stops
  exact ⟨before.map f, after.map f, List.map_append, List.forall_mem_map.mpr through, stops⟩

/-- Parts in a row stop where the first part stops that does. -/
theorem StopsAt.flatMap {f : α → List β} {passes : β → Prop} {xs : List α} {x : α} {y : β}
    (part : StopsAt (fun x => ∀ y ∈ f x, passes y) xs x) (stops : StopsAt passes (f x) y) :
    StopsAt passes (xs.flatMap f) y := by
  obtain ⟨before, after, rfl, through, _⟩ := part
  obtain ⟨before', after', split, through', stops⟩ := stops
  refine ⟨before.flatMap f ++ before', after' ++ after.flatMap f, ?_, ?_, stops⟩
  · rw [List.flatMap_append, List.flatMap_cons, split]
    simp only [List.append_assoc, List.cons_append]
  · refine List.forall_mem_append.mpr ⟨fun y member => ?_, through'⟩
    obtain ⟨x', earlier, inPart⟩ := List.mem_flatMap.mp member
    exact through x' earlier y inPart

/-- A list does not go through if and only if an element up to which it goes through does not. -/
theorem mapM_eq_error_iff {f : α → Except ε β} {xs : List α} {fault : ε} :
    xs.mapM f = .error fault ↔
      ∃ x, StopsAt (fun y => ∃ z, f y = .ok z) xs x ∧ f x = .error fault := by
  constructor
  · intro stopped
    induction xs with
    | nil => cases stopped
    | cons x xs ih =>
      rw [List.mapM_cons, bind_eq_error_iff] at stopped
      rcases stopped with first | ⟨z, first, later⟩
      · refine ⟨x, ⟨[], xs, rfl, List.forall_mem_nil _, ?_⟩, first⟩
        exact exists_error_iff.mp ⟨fault, first⟩
      · rcases bind_eq_error_iff.mp later with others | ⟨_, _, none⟩
        · obtain ⟨x', ⟨before, after, rfl, through, stops⟩, failed⟩ := ih others
          exact ⟨x', ⟨x :: before, after, rfl, List.forall_mem_cons.mpr ⟨⟨z, first⟩, through⟩,
            stops⟩, failed⟩
        · cases none
  · rintro ⟨x, ⟨before, after, rfl, through, _⟩, failed⟩
    exact mapM_append_cons_eq_error through failed

/-- The fault of a list is that of an element. -/
theorem exists_of_mapM_eq_error {f : α → Except ε β} {xs : List α} {fault : ε}
    (stopped : xs.mapM f = .error fault) : ∃ x ∈ xs, f x = .error fault := by
  obtain ⟨x, ⟨before, after, rfl, _⟩, failed⟩ := mapM_eq_error_iff.mp stopped
  exact ⟨x, List.mem_append_right before List.mem_cons_self, failed⟩

/-- The first element that is found is where the search stops. -/
theorem find?_eq_some_iff_stopsAt {p : α → Bool} {xs : List α} {x : α} :
    xs.find? p = some x ↔ StopsAt (fun y => ¬p y) xs x := by
  rw [List.find?_eq_some_iff_append]
  constructor
  · rintro ⟨found, before, after, rfl, none⟩
    exact ⟨before, after, rfl, fun y earlier => by simpa using none y earlier, not_not.mpr found⟩
  · rintro ⟨before, after, rfl, none, found⟩
    exact ⟨not_not.mp found, before, after, rfl, fun y earlier => by simpa using none y earlier⟩

/-- A list of checks passes if and only if each of them does. -/
theorem forM_eq_ok_iff {f : α → Except ε Unit} {xs : List α} :
    xs.forM f = .ok () ↔ ∀ x ∈ xs, f x = .ok () := by
  induction xs with
  | nil => exact ⟨fun _ => List.forall_mem_nil _, fun _ => rfl⟩
  | cons x xs ih =>
    rw [List.forM, bind_eq_ok_iff, List.forall_mem_cons, ← ih]
    constructor
    · intro given
      rcases given with ⟨_, first, others⟩
      exact ⟨first, others⟩
    · exact fun given => ⟨(), given.1, given.2⟩

/-- Checks are computations without a result. -/
theorem forM_eq_map_mapM (f : α → Except ε Unit) (xs : List α) :
    xs.forM f = (xs.mapM f).map fun _ => () := by
  induction xs with
  | nil => rfl
  | cons x xs ih =>
    rw [List.forM, List.mapM_cons, ih]
    cases f x with
    | error fault => rfl
    | ok _ => cases xs.mapM f <;> rfl

/-- What every element has a partner for, the list has a list of partners for. -/
theorem exists_forall₂ {R : α → β → Prop} {xs : List α} (all : ∀ x ∈ xs, ∃ y, R x y) :
    ∃ ys, List.Forall₂ R xs ys := by
  induction xs with
  | nil => exact ⟨[], .nil⟩
  | cons x xs ih =>
    rcases all x List.mem_cons_self with ⟨y, first⟩
    rcases ih fun x' member => all x' (List.mem_cons_of_mem x member) with ⟨ys, others⟩
    exact ⟨y :: ys, .cons first others⟩

theorem exists_mapM_eq_ok_of_forall {f : α → Except ε β} {xs : List α}
    (all : ∀ x ∈ xs, ∃ y, f x = .ok y) : ∃ ys, xs.mapM f = .ok ys := by
  rcases exists_forall₂ all with ⟨ys, each⟩
  exact ⟨ys, mapM_eq_ok_iff.mpr each⟩

theorem exists_mem_of_forall₂ {R : α → β → Prop} {xs : List α} {ys : List β}
    (each : List.Forall₂ R xs ys) {x : α} (member : x ∈ xs) : ∃ y ∈ ys, R x y := by
  induction each with
  | nil => cases member
  | @cons x' y xs ys first _ ih =>
    rcases List.mem_cons.mp member with rfl | later
    · exact ⟨y, List.mem_cons_self, first⟩
    · rcases ih later with ⟨y', inRest, related⟩
      exact ⟨y', List.mem_cons_of_mem y inRest, related⟩

/-- A list goes through if every element does, and what holds of every step holds of all. -/
theorem exists_mapM_eq_ok {f : α → Except ε β} {R : α → β → Prop} {xs : List α}
    (all : ∀ x ∈ xs, ∃ y, f x = .ok y ∧ R x y) :
    ∃ ys, xs.mapM f = .ok ys ∧ List.Forall₂ R xs ys := by
  rcases exists_forall₂ all with ⟨ys, each⟩
  exact ⟨ys, mapM_eq_ok_iff.mpr (each.imp fun _ _ => And.left), each.imp fun _ _ => And.right⟩

theorem forall_mem_of_forall₂ {P : β → Prop} {xs : List α} {ys : List β}
    (each : List.Forall₂ (fun _ y => P y) xs ys) : ∀ y ∈ ys, P y := by
  induction each with
  | nil =>
    intro y member
    cases member
  | cons first _ ih => exact List.forall_mem_cons.mpr ⟨first, ih⟩

/-- Lists of which the elements agree in some respect, one by one, agree in it as a whole. -/
theorem map_eq_map_of_forall₂ {f : α → γ} {g : β → γ} {xs : List α} {ys : List β}
    (each : List.Forall₂ (fun x y => f x = g y) xs ys) : xs.map f = ys.map g := by
  have mapped := List.forall₂_map_left_iff.mpr (List.forall₂_map_right_iff.mpr each)
  rwa [List.forall₂_eq_eq_eq] at mapped

/-- What two lists have to do with a third, element by element, ties them to each other. -/
theorem forall₂_of_forall₂ {R : α → β → Prop} {S : α → γ → Prop} {T : β → γ → Prop} {xs : List α}
    {ys : List β} {zs : List γ} (first : List.Forall₂ R xs ys) (second : List.Forall₂ S xs zs)
    (tie : ∀ x y z, R x y → S x z → T y z) : List.Forall₂ T ys zs := by
  induction first generalizing zs with
  | nil =>
    cases second
    exact .nil
  | cons head _ ih =>
    cases second with
    | cons head' tail => exact .cons (tie _ _ _ head head') (ih tail)

/-- What ties each element of a list to the next ties their partners. -/
theorem isChain_of_forall₂ {R : α → β → Prop} {S : α → α → Prop} {T : β → β → Prop} {xs : List α}
    {ys : List β} (each : List.Forall₂ R xs ys) (chain : xs.IsChain S)
    (carry : ∀ x x' y y', R x y → R x' y' → S x x' → T y y') : ys.IsChain T := by
  induction each with
  | nil => exact .nil
  | cons first later ih =>
    cases later with
    | nil => exact .singleton _
    | cons second others =>
      obtain ⟨tied, rest⟩ := List.isChain_cons_cons.mp chain
      exact List.isChain_cons_cons.mpr ⟨carry _ _ _ _ first second tied, ih rest⟩

/-- Parts that agree in some respect with what each element of a list stands for agree in it
together. -/
theorem flatMap_eq_map_flatten {f : α → List γ} {g : β → γ} {xs : List α} {parts : List (List β)}
    (each : List.Forall₂ (fun x part => f x = part.map g) xs parts) :
    xs.flatMap f = parts.flatten.map g := by
  induction each with
  | nil => rfl
  | cons first _ ih => rw [List.flatMap_cons, List.flatten_cons, List.map_append, first, ih]

theorem map_flatten_eq_map_flatten {f : α → γ} {g : β → γ} {xss : List (List α)}
    {yss : List (List β)} (each : List.Forall₂ (fun xs ys => xs.map f = ys.map g) xss yss) :
    xss.flatten.map f = yss.flatten.map g := by
  rw [List.map_flatten, ← flatMap_eq_map_flatten each, List.flatMap_def]

/-! ## Computations that succeed under a condition -/

/-- A computation succeeds if and only if a condition holds, and then its result is as required. -/
structure Yields (x : Except ε α) (condition : Prop) (required : α → Prop) : Prop where
  ok_iff : (∃ a, x = .ok a) ↔ condition
  result : ∀ a, x = .ok a → required a

namespace Yields

variable {x : Except ε α} {condition : Prop} {required : α → Prop}

theorem of_ok {a : α} (done : x = .ok a) (met : condition) (fine : required a) :
    Yields x condition required where
  ok_iff := ⟨fun _ => met, fun _ => ⟨a, done⟩⟩
  result := by
    intro a' done'
    rw [done] at done'
    cases done'
    exact fine

theorem of_error {fault : ε} (failed : x = .error fault) (unmet : ¬condition) :
    Yields x condition required where
  ok_iff := by
    refine ⟨?_, fun met => absurd met unmet⟩
    intro given
    rcases given with ⟨a, done⟩
    rw [failed] at done
    cases done
  result := by
    intro a done
    rw [failed] at done
    cases done

theorem congr (yields : Yields x condition required) {condition' : Prop}
    (same : condition ↔ condition') : Yields x condition' required :=
  ⟨yields.ok_iff.trans same, yields.result⟩

/-- The last step of a computation takes its result elsewhere. -/
theorem map (yields : Yields x condition required) {f : α → β} {required' : β → Prop}
    (fine : ∀ a, required a → required' (f a)) :
    Yields (x >>= fun a => .ok (f a)) condition required' where
  ok_iff := by
    rw [← yields.ok_iff]
    constructor
    · intro given
      rcases given with ⟨b, done⟩
      obtain ⟨a, first, _⟩ := bind_eq_ok_iff.mp done
      exact ⟨a, first⟩
    · intro given
      rcases given with ⟨a, first⟩
      exact ⟨f a, bind_eq_ok_iff.mpr ⟨a, first, rfl⟩⟩
  result := by
    intro b done
    obtain ⟨a, first, last⟩ := bind_eq_ok_iff.mp done
    cases last
    exact fine a (yields.result a first)

/-- Two lists go through pair by pair if the condition of every pair holds. -/
theorem mapM_zip {f : α × β → Except ε γ} {condition : α → Prop} {required : α → γ → Prop}
    {xs : List α} {ys : List β}
    (each : List.Forall₂ (fun x y => Yields (f (x, y)) (condition x) (required x)) xs ys) :
    Yields ((xs.zip ys).mapM f) (∀ x ∈ xs, condition x) (List.Forall₂ required xs) := by
  induction each with
  | nil => exact of_ok rfl (fun x member => by cases member) .nil
  | @cons x y xs ys first _ ih =>
    rw [List.zip_cons_cons]
    constructor
    · rw [List.forall_mem_cons, ← first.ok_iff, ← ih.ok_iff]
      constructor
      · intro given
        rcases given with ⟨zs, done⟩
        rw [mapM_eq_ok_iff, List.forall₂_cons_left_iff] at done
        obtain ⟨z, rest, firstDone, restDone, _⟩ := done
        exact ⟨⟨z, firstDone⟩, ⟨rest, mapM_eq_ok_iff.mpr restDone⟩⟩
      · intro given
        rcases given with ⟨⟨z, firstDone⟩, ⟨rest, restDone⟩⟩
        rw [mapM_eq_ok_iff] at restDone
        exact ⟨z :: rest, mapM_eq_ok_iff.mpr (.cons firstDone restDone)⟩
    · intro zs done
      rw [mapM_eq_ok_iff, List.forall₂_cons_left_iff] at done
      obtain ⟨z, rest, firstDone, restDone, rfl⟩ := done
      exact .cons (first.result z firstDone) (ih.result rest (mapM_eq_ok_iff.mpr restDone))

end Yields

end S7Link.Outcome
