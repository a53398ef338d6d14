import S7Link.Proofs.Plan.Items
import S7Link.Proofs.Reply.Entries

/-!
# Members within the payload of their item

An item contains its members, so every payload of the size of an item holds the bytes of each
member, at the difference of their offsets, and gives the member a value
(`ReadItem.Covers.exists_extract`). So a success gives each member its value, by itself and in a
record; a failure is the one fault of the item among values and the failure of each member among
records (`ReadItem.Gives`). Nothing else can come of an item.
-/

namespace S7Link

open Outcome Plan Text

/-! ## Values depend on the bytes of their cell -/

namespace Value

theorem decode?_take (type : DataType) (length : Nat) (bytes : Bytes) :
    decode? type length (bytes.take (type.size length)) = decode? type length bytes := by
  unfold decode?
  rw [List.length_take, List.take_take, Nat.min_self]
  by_cases short : bytes.length < type.size length
  · rw [if_pos short, if_pos (Nat.lt_of_le_of_lt (Nat.min_le_right ..) short)]
  · rw [if_neg short, if_neg (by omega)]

theorem exists_decode?_eq {type : DataType} {length : Nat} {bytes : Bytes}
    (enough : type.size length ≤ bytes.length) :
    ∃ value, decode? type length bytes = some value := by
  unfold decode?
  rw [if_neg (Nat.not_lt_of_le enough)]
  exact ⟨_, rfl⟩

end Value

theorem Tag.decode_eq_ok {tag : Tag} {payload : Bytes} {value : Value}
    (found : Value.decode? tag.type tag.length payload = some value) :
    tag.decode payload = .ok value := by
  unfold decode
  rw [found]

namespace ReadItem

/-- The bytes of a tag in the payload of an item that contains it. -/
def slice (item : ReadItem) (tag : Tag) (payload : Bytes) : Bytes :=
  (payload.drop (tag.start - item.tag.start)).take tag.size

/-- The value that a payload of an item holds for a tag. A bit that is read alone comes as a byte of
its own; in a range of bytes it is one bit of its byte. -/
def value? (item : ReadItem) (tag : Tag) (payload : Bytes) : Option Value :=
  if item.tag.type ≠ .bit ∧ tag.type = .bit then
    (item.slice tag payload).head?.map fun byte => .bool (Byte.bit byte tag.bit)
  else Value.decode? tag.type tag.length (item.slice tag payload)

variable {largest : Nat} {item : ReadItem} {member : Indexed Tag} {payload : Bytes}

theorem slice_self (item : ReadItem) (size : payload.length = item.tag.size) :
    item.slice item.tag payload = payload := by
  rw [slice, Nat.sub_self, List.drop_zero, ← size, List.take_length]

/-- A bit that is read alone is in a payload of one byte. -/
theorem exists_extract_of_bit (isBit : item.tag.type = .bit)
    (size : payload.length = item.tag.size) :
    ∃ value, item.extract item.tag payload = .ok value ∧
      item.value? item.tag payload = some value := by
  have enough : item.tag.type.size item.tag.length ≤ payload.length := Nat.le_of_eq size.symm
  obtain ⟨value, decoded⟩ := Value.exists_decode?_eq enough
  refine ⟨value, ?_, ?_⟩
  · unfold extract
    rw [if_pos isBit]
    exact Tag.decode_eq_ok decoded
  · unfold value?
    rw [if_neg fun wider => wider.1 isBit, slice_self item size]
    exact decoded

/-- A tag within the bytes of an item is in a payload of the size of the item. -/
theorem exists_extract_of_bytes {tag : Tag} (wider : item.tag.type ≠ .bit)
    (contains : item.tag.contains tag = true) (size : payload.length = item.tag.size) :
    ∃ value, item.extract tag payload = .ok value ∧ item.value? tag payload = some value := by
  obtain ⟨_, low, high⟩ := Tag.contains_iff.mp contains
  have pos := tag.size_pos
  have reach : tag.start + tag.size ≤ item.tag.start + item.tag.size := high
  have inside : ¬payload.length < tag.start - item.tag.start := by omega
  unfold extract value? slice
  rw [if_neg wider]
  dsimp only
  rw [if_neg inside]
  by_cases isBit : tag.type = .bit
  · have byte : tag.start - item.tag.start < payload.length := by omega
    rw [if_pos isBit, if_pos ⟨wider, isBit⟩, List.getElem?_eq_getElem byte,
      List.head?_take, if_neg (Nat.ne_of_gt pos), List.head?_drop, List.getElem?_eq_getElem byte]
    exact ⟨_, rfl, rfl⟩
  · have enough :
        tag.type.size tag.length ≤ (payload.drop (tag.start - item.tag.start)).length := by
      rw [List.length_drop]
      exact Nat.le_sub_of_add_le (by unfold Tag.size at reach size; omega)
    obtain ⟨value, decoded⟩ := Value.exists_decode?_eq enough
    rw [if_neg isBit, if_neg fun both => isBit both.2]
    refine ⟨value, Tag.decode_eq_ok decoded, ?_⟩
    exact (Value.decode?_take tag.type tag.length _).trans decoded

/-- Every payload of the size of an item gives each member its value. -/
theorem Covers.exists_extract (covers : item.Covers largest) (inItem : member ∈ item.members)
    (size : payload.length = item.tag.size) :
    ∃ value, item.extract member.value payload = .ok value ∧
      item.value? member.value payload = some value := by
  by_cases isBit : item.tag.type = .bit
  · rw [covers.value_eq_of_bit isBit inItem]
    exact exists_extract_of_bit isBit size
  · exact exists_extract_of_bytes isBit (covers.contains member inItem) size

/-! ## What comes of an item -/

/-- The record that an outcome of an item gives to a tag: the value of its bytes, or the status of
the item. -/
inductive Gives (item : ReadItem) (outcome : ItemReply) (tag : Tag) : ReadRecord → Prop
  | read {value : Value} (success : outcome.status.isSuccess = true)
      (found : item.value? tag outcome.payload = some value) :
      Gives item outcome tag ⟨tag, .ok value⟩
  | failed (failure : ¬outcome.status.isSuccess = true) :
      Gives item outcome tag ⟨tag, .error outcome.status⟩

variable {outcome : ItemReply} {tag : Tag} {record other : ReadRecord}

theorem Gives.tag_eq (gives : item.Gives outcome tag record) : record.tag = tag := by
  cases gives <;> rfl

theorem Gives.status_eq (gives : item.Gives outcome tag record) :
    record.status = outcome.status := by
  cases gives with
  | read success found => exact (eq_of_beq success).symm
  | failed failure => rfl

/-- A record without value says which tag was not read, and why. -/
theorem Gives.message_eq (gives : item.Gives outcome tag record) :
    record.fault?.map Fault.message =
      if outcome.status.isSuccess then none
      else some (s!"Read of {tag} failed: {outcome.status.text} (" ++
        Numeral.hex 2 outcome.status.byte.toNat ++ ")") := by
  cases gives with
  | read success found =>
    rw [if_pos success]
    rfl
  | failed failure =>
    rw [if_neg failure]
    rfl

/-- An outcome gives one record to a tag. -/
theorem Gives.unique (first : item.Gives outcome tag record)
    (second : item.Gives outcome tag other) : record = other := by
  cases first with
  | read success found =>
    cases second with
    | read _ found' =>
      rw [found] at found'
      cases found'
      rfl
    | failed failure => exact absurd success failure
  | failed failure =>
    cases second with
    | read success found => exact absurd success failure
    | failed _ => rfl

/-- The value of a record is that of its tag. -/
theorem Gives.value?_eq (gives : item.Gives outcome tag record)
    (success : outcome.status.isSuccess = true) :
    record.value? = item.value? tag outcome.payload := by
  cases gives with
  | read _ found => exact found.symm
  | failed failure => exact absurd success failure

/-- The records that an outcome of an item gives to its members. -/
def GivesAll (item : ReadItem) (outcome : ItemReply) (records : List (Indexed ReadRecord)) : Prop :=
  List.Forall₂ (fun member record => member.index = record.index ∧
    item.Gives outcome member.value record.value) item.members records

/-- What all records have of their members and of the outcome of the item. -/
theorem GivesAll.map_eq {records : List (Indexed ReadRecord)} {α : Type} {f : Tag → α}
    {g : ReadRecord → α} (givesAll : item.GivesAll outcome records)
    (same : ∀ tag record, item.Gives outcome tag record → f tag = g record) :
    item.members.map (Indexed.map f) = records.map (Indexed.map g) := by
  apply map_eq_map_of_forall₂
  apply List.Forall₂.imp ?_ givesAll
  intro member record given
  exact Indexed.map_eq_map given.1 (same member.value record.value given.2)

/-- There is one record for each member. -/
theorem GivesAll.members_eq {records : List (Indexed ReadRecord)}
    (givesAll : item.GivesAll outcome records) :
    item.members = records.map (Indexed.map ReadRecord.tag) := by
  have same : item.members.map (Indexed.map id) = records.map (Indexed.map ReadRecord.tag) :=
    givesAll.map_eq fun _ _ gives => gives.tag_eq.symm
  have unchanged : (Indexed.map id : Indexed Tag → Indexed Tag) = id := rfl
  rwa [unchanged, List.map_id] at same

/-- Every outcome that suits an item gives each member a record. -/
theorem Covers.exists_records (covers : item.Covers largest)
    (suits : outcome.Suits item.tag.size) :
    ∃ records, item.records outcome = .ok records ∧ item.GivesAll outcome records := by
  apply exists_mapM_eq_ok
  intro member inItem
  unfold ItemReply.Suits at suits
  split at suits
  · next success =>
    rcases covers.exists_extract inItem suits with ⟨value, extracted, found⟩
    refine ⟨⟨member.index, member.value, .ok value⟩, ?_, rfl, .read success found⟩
    rw [if_pos success]
    exact bind_eq_ok_iff.mpr ⟨value, mapError_eq_ok_iff.mpr extracted, rfl⟩
  · next failure =>
    refine ⟨⟨member.index, member.value, .error outcome.status⟩, ?_, rfl, .failed failure⟩
    rw [if_neg failure]
    rfl

/-- A success gives each member its value. -/
theorem Covers.exists_values (covers : item.Covers largest)
    (suits : outcome.Suits item.tag.size) (success : outcome.status.isSuccess = true) :
    ∃ values, item.values outcome = .ok values ∧
      item.members.map (Indexed.map (item.value? · outcome.payload)) =
        values.map (Indexed.map some) := by
  unfold ItemReply.Suits at suits
  rw [if_pos success] at suits
  have cut : ∀ member ∈ item.members, ∃ value : Indexed Value,
      (do
        let value ← (item.extract member.value outcome.payload).mapError Fault.malformed
        return (⟨member.index, value⟩ : Indexed Value)) = Except.ok value ∧
      Indexed.map (item.value? · outcome.payload) member = Indexed.map some value := by
    intro member inItem
    rcases covers.exists_extract inItem suits with ⟨value, extracted, found⟩
    refine ⟨⟨member.index, value⟩, ?_, congrArg (Indexed.mk member.index) found⟩
    exact bind_eq_ok_iff.mpr ⟨value, mapError_eq_ok_iff.mpr extracted, rfl⟩
  rcases exists_mapM_eq_ok cut with ⟨values, done, each⟩
  refine ⟨values, ?_, map_eq_map_of_forall₂ each⟩
  unfold ReadItem.values
  rw [if_pos success]
  exact done

/-- A failure is the fault of the item as it was read. -/
theorem values_of_failure (failure : ¬outcome.status.isSuccess = true) :
    item.values outcome = .error (.readFailed item.tag outcome.status) := by
  unfold ReadItem.values
  rw [if_neg failure]

/-- Values stand at the places of the members. -/
theorem map_index_of_values {values : List (Indexed Value)}
    (valued : item.values outcome = .ok values) :
    item.members.map (·.index) = values.map (·.index) := by
  unfold ReadItem.values at valued
  split at valued
  · rw [mapM_eq_ok_iff] at valued
    refine map_eq_map_of_forall₂ (valued.imp ?_)
    intro member value given
    obtain ⟨_, _, done⟩ := bind_eq_ok_iff.mp given
    cases done
    rfl
  · cases valued

end ReadItem

end S7Link
