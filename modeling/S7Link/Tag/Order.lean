import S7Link.Tag.Basic

/-!
# The order of tags

Tags are ordered by place first: area code, block number and offset. Tags at one place are ordered
by bit number, type and length, so two tags compare as equal only if they are the same tag.

The order of places is a chain of three keys, so it is transitive and any two places compare. Within
one region the only key that differs is the offset: of two tags in the order of their places the
first begins no later (`start_le_of_placeOrder`).
-/

namespace S7Link.Tag

/-- The order of places: area code, then block number, then offset. -/
def placeOrder (a b : Tag) : Ordering :=
  ((compare a.area.code b.area.code).then (compare a.block b.block)).then (compare a.start b.start)

/-- The order of tags: their places, then bit number, type and length. -/
def order (a b : Tag) : Ordering :=
  (((placeOrder a b).then (compare a.bit b.bit)).then (compare a.type.rank b.type.rank)).then
    (compare a.length b.length)

/-- The tags in ascending order. -/
def sort (tags : List Tag) : List Tag := tags.mergeSort fun a b => (order a b).isLE

/-! ## The order of places -/

theorem placeOrder_eq : placeOrder =
    compareLex (compareLex (compareOn (·.area.code)) (compareOn (·.block))) (compareOn (·.start)) :=
  rfl

instance transCmp_placeOrder : Std.TransCmp placeOrder := by
  rw [placeOrder_eq]
  infer_instance

/-- Of any two elements, one comes no later than the other. -/
theorem isLE_total {α : Type} (cmp : α → α → Ordering) [Std.OrientedCmp cmp] (a b : α) :
    ((cmp a b).isLE || (cmp b a).isLE) = true := by
  have swapped : (cmp a b).isGE = true ↔ (cmp b a).isLE = true := Std.OrientedCmp.isGE_iff_isLE
  rw [Bool.or_eq_true, ← swapped]
  cases cmp a b <;> simp

/-- Of two tags of one region, the one that comes first in the order of places begins no later. -/
theorem start_le_of_placeOrder {a b : Tag} (order : (placeOrder a b).isLE = true)
    (region : a.region = b.region) : a.start ≤ b.start := by
  obtain ⟨area, block⟩ := Region.mk.inj region
  rw [placeOrder, area, block, Std.ReflOrd.compare_self, Std.ReflOrd.compare_self] at order
  exact Nat.isLE_compare.mp order

end S7Link.Tag
