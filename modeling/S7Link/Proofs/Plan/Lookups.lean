import S7Link.Proofs.Plan.Members
import S7Link.Proofs.Value.Lookups

/-!
# Members by offsets

A member is cut out of the payload of its item at the difference of their offsets. As long as it
begins no earlier than the item this difference is there, and nothing that is looked up behind it
leaves the payload (`Lookup.extract_eq`). An item contains its members, so a payload of its size
has the bytes of each (`ReadItem.Covers.within`), and whatever is taken for the item gives each
member a value (`ReadItem.Covers.located`).
-/

namespace S7Link

open Outcome Plan

namespace Lookup

/-- The value of a member, from the payload of its item. -/
def extract (item : ReadItem) (member : Tag) (payload : Bytes) : Lookup Value :=
  if item.tag.type = .bit then value .bit 1 payload
  else do
    let offset ← difference member.start item.tag.start
    if payload.length < offset then throw (.outsidePayload member item.tag)
    else if member.type = .bit then
      match (payload.drop offset).head? with
      | some byte => return .bool (Byte.bit byte member.bit)
      | none => throw (.outsidePayload member item.tag)
    else value member.type member.length (payload.drop offset)

theorem value_tag_eq (tag : Tag) (payload : Bytes) :
    value tag.type tag.length payload = liftM (tag.decode payload) :=
  value_eq tag.type tag.length payload

/-- A member is cut out without leaving the payload. -/
theorem extract_eq {item : ReadItem} {member : Tag} (ordered : item.tag.start ≤ member.start)
    (payload : Bytes) :
    extract item member payload = liftM (item.extract member payload) := by
  unfold extract ReadItem.extract
  by_cases single : item.tag.type = .bit
  · have whole := value_tag_eq item.tag payload
    rw [single, item.tag.length_eq_one single] at whole
    rw [if_pos single, if_pos single, whole]
  · rw [if_neg single, if_neg single, difference_eq ordered, pure_bind]
    refine ite_throw_eq fun _ => ?_
    by_cases isBit : member.type = .bit
    · rw [if_pos isBit, if_pos isBit, List.head?_drop]
      cases payload[member.start - item.tag.start]? <;> rfl
    · rw [if_neg isBit, if_neg isBit, value_tag_eq]

end Lookup

namespace ReadItem

/-- A member has its bytes in a payload of its item, and they give it a value, by whichever way they
are read. -/
structure Located (item : ReadItem) (member : Tag) (payload : Bytes) : Prop where
  start_le : item.tag.start ≤ member.start
  stop_le : member.start - item.tag.start + member.size ≤ payload.length
  extracted : ∃ value, item.extract member payload = .ok value ∧
    (Lookup.extract item member payload).run = some (.ok value)

variable {largest : Nat} {item : ReadItem} {member : Indexed Tag} {payload : Bytes}

/-- A payload of the size of an item has the bytes of each member. -/
theorem Covers.located (covers : item.Covers largest) (inItem : member ∈ item.members)
    (size : payload.length = item.tag.size) : item.Located member.value payload := by
  obtain ⟨_, low, high⟩ := Tag.contains_iff.mp (covers.contains member inItem)
  have reach : member.value.start + member.value.size ≤ item.tag.start + item.tag.size := high
  obtain ⟨value, extracted, _⟩ := covers.exists_extract inItem size
  refine ⟨low, by omega, value, extracted, ?_⟩
  rw [Lookup.extract_eq low, extracted]
  rfl

end ReadItem

/-- What is taken for the tag of an item as a success has the bytes of each of its members. -/
theorem ReadPlan.located_of_readItems {tags : List Tag} {limits : Limits} {optimize : Bool}
    {plan : ReadPlan} (made : make tags limits optimize = .ok plan) {item : ReadItem}
    (inPlan : item ∈ plan.items) {reply : Reply} {asked : List Tag} {answers : List ItemReply}
    (told : reply.readItems asked = .ok answers) {answer : ItemReply}
    (own : (item.tag, answer) ∈ asked.zip answers) (success : answer.status.isSuccess = true) :
    ∀ member ∈ item.members, item.Located member.value answer.payload := by
  have suits := (List.forall₂_iff_zip.mp (Reply.suits_of_readItems told)).2 own
  unfold ItemReply.Suits at suits
  rw [if_pos success] at suits
  exact fun member inItem => (covers_of_make made item inPlan).located inItem suits

end S7Link
