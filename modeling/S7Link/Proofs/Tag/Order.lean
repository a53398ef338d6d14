import S7Link.Tag.Order

/-!
# The order of tags is total

The order of tags is the order of their places with three keys more. Between them the keys tell all
six fields of a tag, the area by its code and the type by its rank, and no two areas share a code
and no two types a rank. So tags that compare as equal are the same tag, any two tags compare, and a
list of tags has only one ascending order, however it is sorted (`Tag.eq_sort_of_pairwise`). Tags at
different places are ordered as their places are.
-/

namespace S7Link.Tag

theorem order_eq : order =
    compareLex (compareLex (compareLex placeOrder (compareOn (·.bit))) (compareOn (·.type.rank)))
      (compareOn (·.length)) :=
  rfl

instance transCmp_order : Std.TransCmp order := by
  rw [order_eq]
  infer_instance

variable {a b : Tag}

/-! ## Equality -/

/-- Two tags are at one place if they begin at the same byte. -/
theorem placeOrder_eq_eq_iff :
    placeOrder a b = .eq ↔ a.area = b.area ∧ a.block = b.block ∧ a.start = b.start := by
  have area : a.area.code = b.area.code ↔ a.area = b.area :=
    ⟨Area.code_injective, congrArg Area.code⟩
  rw [placeOrder, Ordering.then_eq_eq, Ordering.then_eq_eq, Std.LawfulEqOrd.compare_eq_iff_eq,
    Std.LawfulEqOrd.compare_eq_iff_eq, Std.LawfulEqOrd.compare_eq_iff_eq, area, and_assoc]

/-- Two tags compare as equal if all their fields are equal. -/
theorem order_eq_eq_iff :
    order a b = .eq ↔
      a.area = b.area ∧ a.block = b.block ∧ a.type = b.type ∧ a.start = b.start ∧
        a.bit = b.bit ∧ a.length = b.length := by
  have type : a.type.rank = b.type.rank ↔ a.type = b.type :=
    ⟨DataType.rank_injective, congrArg DataType.rank⟩
  rw [order, Ordering.then_eq_eq, Ordering.then_eq_eq, Ordering.then_eq_eq, placeOrder_eq_eq_iff,
    Std.LawfulEqOrd.compare_eq_iff_eq, Std.LawfulEqOrd.compare_eq_iff_eq,
    Std.LawfulEqOrd.compare_eq_iff_eq, type]
  constructor
  · rintro ⟨⟨⟨⟨area, block, start⟩, bit⟩, type⟩, length⟩
    exact ⟨area, block, type, start, bit, length⟩
  · rintro ⟨area, block, type, start, bit, length⟩
    exact ⟨⟨⟨⟨area, block, start⟩, bit⟩, type⟩, length⟩

/-- The fields that compare are all that a tag has. -/
theorem eq_of_order_eq (same : order a b = .eq) : a = b := by
  obtain ⟨area, block, type, start, bit, length⟩ := order_eq_eq_iff.mp same
  cases a
  cases b
  cases area
  cases block
  cases type
  cases start
  cases bit
  cases length
  rfl

instance lawfulEqCmp_order : Std.LawfulEqCmp order where
  eq_of_compare := eq_of_order_eq

/-- Tags at different places are ordered as their places are. -/
theorem order_eq_lt_of_placeOrder (before : placeOrder a b = .lt) : order a b = .lt := by
  rw [order, before]
  rfl

/-! ## Sorting -/

theorem sort_perm (tags : List Tag) : (sort tags).Perm tags := List.mergeSort_perm tags _

theorem pairwise_sort (tags : List Tag) :
    (sort tags).Pairwise fun a b => (order a b).isLE = true :=
  List.pairwise_mergeSort (fun _ _ _ => Std.TransCmp.isLE_trans) (isLE_total order) tags

/-- A list of tags has one ascending order. -/
theorem eq_sort_of_pairwise {tags sorted : List Tag} (perm : sorted.Perm tags)
    (ascending : sorted.Pairwise fun a b => (order a b).isLE = true) : sorted = sort tags := by
  refine List.Perm.eq_of_pairwise ?_ ascending (pairwise_sort tags)
    (perm.trans (sort_perm tags).symm)
  intro a b _ _ first second
  exact eq_of_order_eq (Std.OrientedCmp.isLE_antisymm first second)

/-- Tags compare as equal if and only if they have the same fields, which makes them the same tag;
any two tags compare, one way or the other; what comes before a third tag by way of a second comes
before it; places are never contradicted; and tags come out of sorting in the one ascending order
that they have, however they went in. -/
theorem order_total :
    (∀ a b : Tag,
        (order a b = .eq ↔
          a.area = b.area ∧ a.block = b.block ∧ a.type = b.type ∧ a.start = b.start ∧
            a.bit = b.bit ∧ a.length = b.length) ∧
        (order a b = .eq ↔ a = b) ∧
        order b a = (order a b).swap ∧
        (placeOrder a b = .lt → order a b = .lt)) ∧
      (∀ a b c : Tag, order a b = .lt → order b c = .lt → order a c = .lt) ∧
      ∀ tags others : List Tag, tags.Perm others →
        sort tags = sort others ∧
          ∀ sorted : List Tag, sorted.Perm tags →
            (sorted.Pairwise (fun a b => (order a b).isLE = true) ↔ sorted = sort tags) := by
  refine ⟨fun a b => ⟨order_eq_eq_iff, ?_, ?_, order_eq_lt_of_placeOrder⟩, ?_, ?_⟩
  · exact Std.LawfulEqCmp.compare_eq_iff_eq
  · exact Std.OrientedCmp.eq_swap
  · exact fun a b c => Std.TransCmp.lt_trans
  · intro tags others perm
    constructor
    · exact eq_sort_of_pairwise ((sort_perm tags).trans perm) (pairwise_sort tags)
    · intro sorted same
      refine ⟨eq_sort_of_pairwise same, ?_⟩
      rintro rfl
      exact pairwise_sort tags

/-- A counter, which comes before an input by the code of its area. -/
def counter : Tag := (Tag.make .counter 0 .word 5 0 1).toOption.get rfl

/-- The first bit of an input byte. -/
def firstBit : Tag := (Tag.make .input 0 .bit 3 0 1).toOption.get rfl

/-- The byte itself, which its type tells from its first bit. -/
def wholeByte : Tag := (Tag.make .input 0 .byte 3 0 1).toOption.get rfl

/-- A later bit of this byte. -/
def laterBit : Tag := (Tag.make .input 0 .bit 3 6 1).toOption.get rfl

theorem order_total_inputByte :
    placeOrder counter firstBit = .lt ∧ order counter firstBit = .lt ∧
      order firstBit wholeByte = .lt ∧ order counter wholeByte = .lt ∧
      [laterBit, wholeByte, firstBit, counter].Perm [wholeByte, counter, laterBit, firstBit] ∧
      sort [laterBit, wholeByte, firstBit, counter] =
        [counter, firstBit, wholeByte, laterBit] ∧
      sort [laterBit, wholeByte, firstBit, counter] =
        sort [wholeByte, counter, laterBit, firstBit] := by
  obtain ⟨pairs, chain, sorting⟩ := order_total
  have place : placeOrder counter firstBit = .lt := by decide
  have before := (pairs counter firstBit).2.2.2 place
  have type : order firstBit wholeByte = .lt := by decide
  have perm : [laterBit, wholeByte, firstBit, counter].Perm
      [wholeByte, counter, laterBit, firstBit] := by
    decide
  obtain ⟨same, unique⟩ := sorting _ _ perm
  have ascending := (unique [counter, firstBit, wholeByte, laterBit] (by decide)).mp (by decide)
  exact ⟨place, before, type, chain _ _ _ before type, perm, ascending.symm, same⟩

end S7Link.Tag
