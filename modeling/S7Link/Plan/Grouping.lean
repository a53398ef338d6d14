import S7Link.Request.Limits
import S7Link.Tag.Order

/-!
# Groups of neighbouring tags

A plan may handle tags in another order than the caller gave them. Each keeps the place it had, and
what belongs to it is put back there in the end (`Indexed`).

Tags that lie close together in one region are read as one range of bytes. Reading a few bytes
between them costs less than a further item, so a tag joins the group before it if fewer bytes than
an item's own overhead lie between them and the range does not outgrow the largest item. Tags are
gone through in the order of their places, so the group before a tag is the only one that it can
join.
-/

namespace S7Link.Plan

/-! ## Places in the caller's list -/

/-- Something that belongs to a place in the caller's list. -/
structure Indexed (α : Type) where
  index : Nat
  value : α
deriving DecidableEq, Repr

/-- The elements of a list with their places. -/
def Indexed.all {α : Type} (xs : List α) : List (Indexed α) :=
  xs.zipIdx.map fun (value, index) => ⟨index, value⟩

/-- What belongs to the places, in the order of the places. -/
def Indexed.inOrder {α : Type} (xs : List (Indexed α)) : List α :=
  (xs.mergeSort fun a b => a.index ≤ b.index).map (·.value)

/-! ## Groups -/

/-- The bytes that an item adds to a request and its answer besides its payload. -/
def itemOverhead : Nat := Request.specificationSize + Request.itemHeaderSize

/-- Whether reading the bytes of a gap costs less than a further item. A negative gap is an
overlap. -/
def mergeIsBeneficial (gap : Int) : Bool := max gap 0 < itemOverhead

/-- Tags of one region whose bytes are read as one range. -/
structure Group where
  first : Indexed Tag
  /-- The tags that have joined the first, in order. -/
  rest : List (Indexed Tag)
  /-- The end of the range: the greatest end of a tag. -/
  stop : Nat
deriving DecidableEq, Repr

namespace Group

/-- The group of one tag. -/
def ofTag (tag : Indexed Tag) : Group := ⟨tag, [], tag.value.stop⟩

/-- The tags of a group. -/
def members (group : Group) : List (Indexed Tag) := group.first :: group.rest

/-- The beginning of the range, which is that of the first tag. -/
def start (group : Group) : Nat := group.first.value.start

/-- Whether a tag, whose place is not before that of any member, may join a group. -/
def accepts (largest : Nat) (group : Group) (tag : Tag) : Bool :=
  group.first.value.region = tag.region &&
    mergeIsBeneficial ((tag.start : Int) - group.stop) &&
    max group.stop tag.stop - group.start ≤ largest

/-- The group with one more tag. -/
def join (group : Group) (tag : Indexed Tag) : Group :=
  { group with rest := group.rest ++ [tag], stop := max group.stop tag.value.stop }

/-- The groups of a list of tags after an open group. -/
def gatherAfter (largest : Nat) (group : Group) : List (Indexed Tag) → List Group
  | [] => [group]
  | tag :: tags =>
    if group.accepts largest tag.value then gatherAfter largest (group.join tag) tags
    else group :: gatherAfter largest (ofTag tag) tags

/-- The groups of a list of tags in the order of their places. -/
def gather (largest : Nat) : List (Indexed Tag) → List Group
  | [] => []
  | tag :: tags => gatherAfter largest (ofTag tag) tags

end Group

/-- Tags in the order of their places; tags at one place stay in the caller's order. -/
def byPlace (tags : List (Indexed Tag)) : List (Indexed Tag) :=
  tags.mergeSort fun a b => (Tag.placeOrder a.value b.value).isLE

end S7Link.Plan
