import S7Link.Plan.Write
import S7Link.Proofs.Plan.Members
import S7Link.Proofs.Plan.Replies

/-!
# Strict and lenient results agree

A batch turns an answer into values or into records. Whatever the bytes of the answer are, both ways
refuse it with the same fault, or there are records; then the values are those of the records if
all of them have one, and the fault of the first failed item in the order of the batch if not
(`ReadBatch.Agree`). The strict way stops at that item and the lenient way goes on, but behind an
answer that is read there is nothing left that could go wrong. Of a whole plan the same holds batch
by batch, and of writes item by item (`WriteBatch.Agree`).
-/

namespace S7Link

open Outcome Plan

/-- A fault of an answer as a whole: the request was rejected, or the bytes are wrong. -/
def Fault.IsOfAnswer : Fault → Prop
  | .rejected .. | .malformed _ => True
  | _ => False

theorem Reply.isOfAnswer_of_checkError {reply : Reply} {fault : Fault}
    (rejected : reply.checkError = .error fault) : fault.IsOfAnswer := by
  unfold checkError at rejected
  split at rejected
  · cases rejected
  · cases rejected
    trivial

/-! ## What agreement means -/

namespace ReadBatch

/-- Each item has one status, and the records of its members have it too. -/
def Share (batch : ReadBatch) (statuses : List Status) (records : List (Indexed ReadRecord)) :
    Prop :=
  statuses.length = batch.items.length ∧
    records.map (Indexed.map fun record => (record.tag, record.status)) =
      (batch.items.zip statuses).flatMap fun (item, status) =>
        item.members.map (Indexed.map fun tag => (tag, status))

/-- What a batch makes of an answer in the two ways. -/
inductive Agree (batch : ReadBatch) (reply : Reply) : Prop
  /-- Both refuse the answer for the same reason. -/
  | refused {fault : Fault} (whole : fault.IsOfAnswer) (strict : batch.values reply = .error fault)
      (lenient : batch.records reply = .error fault)
  /-- Every record has a value, and these are the values. -/
  | read {statuses : List Status} {records : List (Indexed ReadRecord)}
      {values : List (Indexed Value)} (lenient : batch.records reply = .ok records)
      (share : batch.Share statuses records) (all : ∀ status ∈ statuses, status.isSuccess = true)
      (strict : batch.values reply = .ok values)
      (same : records.map (Indexed.map ReadRecord.value?) = values.map (Indexed.map some))
  /-- A record has no value, and the first item without success is the fault. -/
  | failed {statuses : List Status} {records : List (Indexed ReadRecord)} {item : ReadItem}
      {status : Status} (lenient : batch.records reply = .ok records)
      (share : batch.Share statuses records)
      (without : ∃ record ∈ records, record.value.value? = none)
      (first : (batch.items.zip statuses).find? (fun pair => !pair.2.isSuccess) =
        some (item, status))
      (strict : batch.values reply = .error (.readFailed item.tag status))

end ReadBatch

namespace WriteBatch

/-- What a batch makes of an answer in the two ways. -/
inductive Agree (batch : WriteBatch) (reply : Reply) : Prop
  /-- Both refuse the answer for the same reason. -/
  | refused {fault : Fault} (whole : fault.IsOfAnswer) (strict : batch.check reply = .error fault)
      (lenient : batch.records reply = .error fault)
  /-- Every tag was written. -/
  | written {records : List WriteRecord} (lenient : batch.records reply = .ok records)
      (tags : records.map (·.tag) = batch.tags)
      (all : ∀ record ∈ records, record.status.isSuccess = true)
      (strict : batch.check reply = .ok ())
  /-- A tag was not written, and the first such tag is the fault. -/
  | failed {records : List WriteRecord} {record : WriteRecord}
      (lenient : batch.records reply = .ok records) (tags : records.map (·.tag) = batch.tags)
      (first : records.find? (fun record => !record.status.isSuccess) = some record)
      (strict : batch.check reply = .error (.writeFailed record.tag record.status))

end WriteBatch

/-! ## Batches that are read -/

theorem ReadRecord.value?_of_failure {record : ReadRecord}
    (failure : ¬record.status.isSuccess = true) : record.value? = none := by
  obtain ⟨tag, value | status⟩ := record
  · rfl
  · exact absurd rfl failure

namespace ReadBatch

variable {batch : ReadBatch} {reply : Reply} {largest : Nat} {pairs : List (ReadItem × ItemReply)}

theorem isOfAnswer_of_answers {fault : Fault} (refused : batch.answers reply = .error fault) :
    fault.IsOfAnswer := by
  rcases bind_eq_error_iff.mp refused with rejected | ⟨_, _, later⟩
  · exact Reply.isOfAnswer_of_checkError rejected
  · rcases bind_eq_error_iff.mp later with malformed | ⟨_, _, none⟩
    · obtain ⟨cause, _, rfl⟩ := mapError_eq_error_iff.mp malformed
      trivial
    · cases none

theorem share_of_parts {parts : List (List (Indexed ReadRecord))}
    (items : pairs.map Prod.fst = batch.items)
    (givesAll : List.Forall₂ (fun pair part => pair.1.GivesAll pair.2 part) pairs parts) :
    batch.Share (pairs.map (·.2.status)) parts.flatten := by
  refine ⟨?_, ?_⟩
  · rw [← items, List.length_map, List.length_map]
  · rw [← items, List.zip_map', List.flatMap_map]
    refine (flatMap_eq_map_flatten (givesAll.imp ?_)).symm
    intro pair part given
    apply given.map_eq
    intro tag record gives
    rw [gives.tag_eq, gives.status_eq]

/-- If all items are successes, the values are those of the records. -/
theorem exists_values {parts : List (List (Indexed ReadRecord))}
    (covers : ∀ pair ∈ pairs, pair.1.Covers largest)
    (suits : ∀ pair ∈ pairs, pair.2.Suits pair.1.tag.size)
    (told : batch.answers reply = .ok pairs)
    (all : ∀ pair ∈ pairs, pair.2.status.isSuccess = true)
    (givesAll : List.Forall₂ (fun pair part => pair.1.GivesAll pair.2 part) pairs parts) :
    ∃ values, batch.values reply = .ok values ∧
      parts.flatten.map (Indexed.map ReadRecord.value?) = values.map (Indexed.map some) := by
  have each : ∀ pair ∈ pairs, ∃ values, pair.1.values pair.2 = .ok values ∧
      pair.1.members.map (Indexed.map (pair.1.value? · pair.2.payload)) =
        values.map (Indexed.map some) :=
    fun pair member =>
      (covers pair member).exists_values (suits pair member) (all pair member)
  rcases exists_mapM_eq_ok each with ⟨values, done, found⟩
  refine ⟨values.flatten, ?_, ?_⟩
  · exact bind_eq_ok_iff.mpr ⟨pairs, told, bind_eq_ok_iff.mpr ⟨values, done, rfl⟩⟩
  · have successes := (List.forall₂_and_left _ _).mpr ⟨all, givesAll⟩
    apply map_flatten_eq_map_flatten
    refine forall₂_of_forall₂ successes found ?_
    intro pair part values given found
    rw [← found]
    refine (given.2.map_eq ?_).symm
    exact fun tag record gives => (gives.value?_eq given.1).symm

/-- The first item without success is the fault. -/
theorem values_eq_error (covers : ∀ pair ∈ pairs, pair.1.Covers largest)
    (suits : ∀ pair ∈ pairs, pair.2.Suits pair.1.tag.size)
    (told : batch.answers reply = .ok pairs) {item : ReadItem} {outcome : ItemReply}
    (first : pairs.find? (fun pair => !pair.2.status.isSuccess) = some (item, outcome)) :
    batch.values reply = .error (.readFailed item.tag outcome.status) := by
  obtain ⟨failure, before, after, rfl, through⟩ := List.find?_eq_some_iff_append.mp first
  refine bind_eq_error_iff.mpr (Or.inr ⟨_, told, bind_eq_error_iff.mpr (Or.inl ?_)⟩)
  apply mapM_append_cons_eq_error
  · intro pair member
    have inPairs := List.mem_append_left ((item, outcome) :: after) member
    have success : pair.2.status.isSuccess = true := by simpa using through pair member
    rcases (covers pair inPairs).exists_values (suits pair inPairs) success with
      ⟨values, valued, _⟩
    exact ⟨values, valued⟩
  · exact ReadItem.values_of_failure (by simpa using failure)

/-- An item without success leaves a record without value. -/
theorem exists_without_value {statuses : List Status} {records : List (Indexed ReadRecord)}
    (covers : ∀ item ∈ batch.items, item.Covers largest) (share : batch.Share statuses records)
    {item : ReadItem} {status : Status} (member : (item, status) ∈ batch.items.zip statuses)
    (failure : ¬status.isSuccess = true) :
    ∃ record ∈ records, record.value.value? = none := by
  obtain ⟨tag, inItem, _⟩ := (covers item (List.of_mem_zip member).1).stop_reached
  have inAll : tag.map (·, status) ∈ (batch.items.zip statuses).flatMap fun (item, status) =>
      item.members.map (Indexed.map fun tag => (tag, status)) :=
    List.mem_flatMap.mpr ⟨(item, status), member, List.mem_map_of_mem inItem⟩
  rw [← share.2] at inAll
  obtain ⟨record, inRecords, same⟩ := List.mem_map.mp inAll
  have shared : record.value.status = status := congrArg (·.value.2) same
  exact ⟨record, inRecords, ReadRecord.value?_of_failure (shared ▸ failure)⟩

/-- Whatever the answer is, a batch turns it into values and into records in agreement. -/
theorem agree (covers : ∀ item ∈ batch.items, item.Covers largest) (reply : Reply) :
    batch.Agree reply := by
  cases told : batch.answers reply with
  | error fault =>
    refine .refused (isOfAnswer_of_answers told) ?_ ?_
    · exact bind_eq_error_iff.mpr (Or.inl told)
    · exact bind_eq_error_iff.mpr (Or.inl told)
  | ok pairs =>
    -- What was read suits the items, so from here on only their statuses can differ.
    obtain ⟨items, suits⟩ := suits_of_answers told
    have inBatch : ∀ pair ∈ pairs, pair.1.Covers largest := by
      intro pair member
      apply covers
      rw [← items]
      exact List.mem_map_of_mem member
    rcases exists_parts covers told with ⟨parts, lenient, givesAll⟩
    have share := share_of_parts items givesAll
    cases found : pairs.find? (fun pair => !pair.2.status.isSuccess) with
    | none =>
      have all : ∀ pair ∈ pairs, pair.2.status.isSuccess = true := by
        simpa using List.find?_eq_none.mp found
      rcases exists_values inBatch suits told all givesAll with ⟨values, strict, same⟩
      exact .read lenient share (List.forall_mem_map.mpr all) strict same
    | some pair =>
      obtain ⟨item, outcome⟩ := pair
      have first : (batch.items.zip (pairs.map (·.2.status))).find? (fun pair =>
          !pair.2.isSuccess) = some (item, outcome.status) := by
        rw [← items, List.zip_map', List.find?_map]
        exact congrArg (Option.map fun pair => (pair.1, pair.2.status)) found
      have failure : ¬outcome.status.isSuccess = true := by simpa using List.find?_some found
      have without :=
        exists_without_value covers share (List.mem_of_find?_eq_some first) failure
      have strict := values_eq_error inBatch suits told found
      exact .failed lenient share without first strict

namespace Agree

/-- Where there are values, there are records. -/
theorem exists_records (agree : batch.Agree reply) {values : List (Indexed Value)}
    (strict : batch.values reply = .ok values) :
    ∃ records, batch.records reply = .ok records := by
  cases agree with
  | refused _ strict' _ => cases strict.symm.trans strict'
  | read lenient _ _ _ _ => exact ⟨_, lenient⟩
  | failed lenient _ _ _ _ => exact ⟨_, lenient⟩

/-- Where all records have a value, there are values. -/
theorem exists_values (agree : batch.Agree reply) {records : List (Indexed ReadRecord)}
    (lenient : batch.records reply = .ok records)
    (all : ∀ record ∈ records, record.value.value? ≠ none) :
    ∃ values, batch.values reply = .ok values := by
  cases agree with
  | refused _ _ lenient' => cases lenient.symm.trans lenient'
  | read _ _ _ strict _ => exact ⟨_, strict⟩
  | failed lenient' _ without _ _ =>
    cases lenient.symm.trans lenient'
    rcases without with ⟨record, member, none⟩
    exact absurd none (all record member)

/-- Where there are both, the values are those of the records. -/
theorem same (agree : batch.Agree reply) {records : List (Indexed ReadRecord)}
    {values : List (Indexed Value)} (lenient : batch.records reply = .ok records)
    (strict : batch.values reply = .ok values) :
    records.map (Indexed.map ReadRecord.value?) = values.map (Indexed.map some) := by
  cases agree with
  | refused _ strict' _ => cases strict.symm.trans strict'
  | read lenient' _ _ strict' same =>
    cases lenient.symm.trans lenient'
    cases strict.symm.trans strict'
    exact same
  | failed _ _ _ _ strict' => cases strict.symm.trans strict'

theorem isOfAnswer (agree : batch.Agree reply) {fault : Fault}
    (refused : batch.records reply = .error fault) : fault.IsOfAnswer := by
  cases agree with
  | refused whole _ lenient =>
    cases refused.symm.trans lenient
    exact whole
  | read lenient _ _ _ _ => cases refused.symm.trans lenient
  | failed lenient _ _ _ _ => cases refused.symm.trans lenient

end Agree

end ReadBatch

/-! ## Plans that are read -/

namespace ReadPlan

variable {plan : ReadPlan} {replies : List Reply}

/-- The results of the batches in the caller's order. -/
theorem same_of_agree {pairs : List (ReadBatch × Reply)}
    (agree : ∀ pair ∈ pairs, pair.1.Agree pair.2) {records : List (List (Indexed ReadRecord))}
    {values : List (List (Indexed Value))}
    (recorded : pairs.mapM (fun (batch, reply) => batch.records reply) = .ok records)
    (valued : pairs.mapM (fun (batch, reply) => batch.values reply) = .ok values) :
    (Indexed.inOrder records.flatten).map ReadRecord.value? =
      (Indexed.inOrder values.flatten).map some := by
  have lenient := (List.forall₂_and_left _ _).mpr ⟨agree, mapM_eq_ok_iff.mp recorded⟩
  have parts : List.Forall₂ (fun records values =>
      records.map (Indexed.map ReadRecord.value?) = values.map (Indexed.map some))
      records values := by
    refine forall₂_of_forall₂ lenient (mapM_eq_ok_iff.mp valued) ?_
    exact fun pair records values lenient strict => lenient.1.same lenient.2 strict
  rw [← Indexed.inOrder_map, ← Indexed.inOrder_map, map_flatten_eq_map_flatten parts]

/-- A plan gives values if and only if it gives records that all have one, and these are the
values. -/
theorem values_eq_ok_iff (agree : ∀ batch ∈ plan.batches, ∀ reply, batch.Agree reply)
    {values : List Value} :
    plan.values replies = .ok values ↔
      ∃ records, plan.records replies = .ok records ∧
        records.map ReadRecord.value? = values.map some := by
  have agree : ∀ pair ∈ plan.batches.zip replies, pair.1.Agree pair.2 :=
    fun pair member => agree pair.1 (List.of_mem_zip member).1 pair.2
  constructor
  · intro strict
    obtain ⟨_, counted, later⟩ := bind_eq_ok_iff.mp strict
    obtain ⟨parts, valued, flat⟩ := bind_eq_ok_iff.mp later
    cases flat
    have each : ∀ pair ∈ plan.batches.zip replies, ∃ part, pair.1.records pair.2 = .ok part := by
      intro pair member
      rcases exists_mem_of_forall₂ (mapM_eq_ok_iff.mp valued) member with ⟨_, _, strict⟩
      exact (agree pair member).exists_records strict
    rcases exists_mapM_eq_ok_of_forall each with ⟨records, recorded⟩
    refine ⟨_, ?_, same_of_agree agree recorded valued⟩
    exact bind_eq_ok_iff.mpr ⟨_, counted, bind_eq_ok_iff.mpr ⟨records, recorded, rfl⟩⟩
  · intro given
    rcases given with ⟨_, lenient, same⟩
    obtain ⟨_, counted, later⟩ := bind_eq_ok_iff.mp lenient
    obtain ⟨records, recorded, flat⟩ := bind_eq_ok_iff.mp later
    cases flat
    have all : ∀ record ∈ records.flatten, record.value.value? ≠ none := by
      intro record member none
      have inOrder := (Indexed.inOrder_perm records.flatten).mem_iff.mpr
        (List.mem_map_of_mem member)
      have found : record.value.value? ∈ (Indexed.inOrder records.flatten).map ReadRecord.value? :=
        List.mem_map_of_mem inOrder
      rw [same, none] at found
      obtain ⟨value, _, h⟩ := List.mem_map.mp found
      cases h
    have each : ∀ pair ∈ plan.batches.zip replies, ∃ part, pair.1.values pair.2 = .ok part := by
      intro pair member
      rcases exists_mem_of_forall₂ (mapM_eq_ok_iff.mp recorded) member with ⟨part, inParts, lenient⟩
      refine (agree pair member).exists_values lenient ?_
      exact fun record inPart => all record (List.mem_flatten.mpr ⟨part, inParts, inPart⟩)
    rcases exists_mapM_eq_ok_of_forall each with ⟨parts, valued⟩
    have values := (same_of_agree agree recorded valued).symm.trans same
    rw [List.map_inj_right fun _ _ => Option.some.inj] at values
    rw [← values]
    exact bind_eq_ok_iff.mpr ⟨_, counted, bind_eq_ok_iff.mpr ⟨parts, valued, rfl⟩⟩

theorem isOfAnswer_of_checkAnswerCount {batches answers : Nat} {fault : Fault}
    (miscounted : checkAnswerCount batches answers = .error fault) : fault.IsOfAnswer := by
  unfold checkAnswerCount at miscounted
  split at miscounted
  · cases miscounted
  · cases miscounted
    trivial

/-- Records fail to come only if an answer is refused as a whole, or is missing. -/
theorem isOfAnswer_of_records (agree : ∀ batch ∈ plan.batches, ∀ reply, batch.Agree reply)
    {fault : Fault} (refused : plan.records replies = .error fault) : fault.IsOfAnswer := by
  rcases bind_eq_error_iff.mp refused with miscounted | ⟨_, _, later⟩
  · exact isOfAnswer_of_checkAnswerCount miscounted
  · rcases bind_eq_error_iff.mp later with stopped | ⟨_, _, none⟩
    · rcases exists_of_mapM_eq_error stopped with ⟨⟨batch, reply⟩, member, failed⟩
      exact (agree batch (List.of_mem_zip member).1 reply).isOfAnswer failed
    · cases none

end ReadPlan

/-! ## Writes -/

/-- There is one record for each tag that was to be written. -/
theorem Reply.map_tag_of_writeRecords {reply : Reply} {tags : List Tag}
    {records : List WriteRecord} (recorded : reply.writeRecords tags = .ok records) :
    records.map (·.tag) = tags := by
  obtain ⟨statuses, read, done⟩ := bind_eq_ok_iff.mp recorded
  cases done
  obtain ⟨_, _, later⟩ := bind_eq_ok_iff.mp read
  split at later
  · cases later
  · next count =>
    cases later
    have enough : tags.length ≤ (reply.data.map Status.mk).length := by
      rw [List.length_map, not_not.mp count, Request.statusSize, Nat.mul_one]
    rw [← List.map_uncurry_zip_eq_zipWith, List.map_map]
    exact List.map_fst_zip enough

/-- A write is checked for the first failure among its records. -/
theorem Reply.checkWrite_eq (reply : Reply) (tags : List Tag) :
    reply.checkWrite tags = (do
      let records ← (reply.writeRecords tags).mapError .malformed
      match records.find? fun record => !record.status.isSuccess with
      | some record => .error (.writeFailed record.tag record.status)
      | none => .ok ()) := by
  unfold checkWrite writeRecords
  cases reply.writeStatuses tags.length with
  | error cause => rfl
  | ok statuses =>
    have records : tags.zipWith WriteRecord.mk statuses =
        (statuses.zip tags).map fun pair => ⟨pair.2, pair.1⟩ := by
      rw [List.zipWith_comm, List.zip, List.map_zipWith]
    have first : (tags.zipWith WriteRecord.mk statuses).find? (!·.status.isSuccess) =
        ((statuses.zip tags).find? (!·.1.isSuccess)).map fun pair => ⟨pair.2, pair.1⟩ := by
      rw [records, List.find?_map]
      rfl
    dsimp only [Except.mapError, bind, Except.bind, pure, Except.pure]
    rw [first]
    cases (statuses.zip tags).find? (!·.1.isSuccess) with
    | none => rfl
    | some pair => rfl

namespace WriteBatch

/-- Whatever the answer is, a batch checks it and turns it into records in agreement. -/
theorem agree (batch : WriteBatch) (reply : Reply) : batch.Agree reply := by
  cases passed : reply.checkError with
  | error fault =>
    exact .refused (Reply.isOfAnswer_of_checkError passed) (bind_eq_error_iff.mpr (Or.inl passed))
      (bind_eq_error_iff.mpr (Or.inl passed))
  | ok _ =>
    cases recorded : reply.writeRecords batch.tags with
    | error cause =>
      have whole : (Fault.malformed cause).IsOfAnswer := trivial
      have malformed : (reply.writeRecords batch.tags).mapError Fault.malformed =
          .error (.malformed cause) := mapError_eq_error_iff.mpr ⟨cause, recorded, rfl⟩
      have checked : reply.checkWrite batch.tags = .error (.malformed cause) :=
        (reply.checkWrite_eq batch.tags).trans (bind_eq_error_iff.mpr (Or.inl malformed))
      refine .refused whole ?_ ?_
      · exact bind_eq_error_iff.mpr (Or.inr ⟨_, passed, checked⟩)
      · exact bind_eq_error_iff.mpr (Or.inr ⟨_, passed, malformed⟩)
    | ok records =>
      have lenient : batch.records reply = .ok records :=
        bind_eq_ok_iff.mpr ⟨_, passed, mapError_eq_ok_iff.mpr recorded⟩
      have tags := Reply.map_tag_of_writeRecords recorded
      have checked := reply.checkWrite_eq batch.tags
      cases found : records.find? fun record => !record.status.isSuccess with
      | none =>
        have written : reply.checkWrite batch.tags = .ok () :=
          checked.trans (bind_eq_ok_iff.mpr ⟨_, mapError_eq_ok_iff.mpr recorded, by rw [found]⟩)
        refine .written lenient tags ?_ (bind_eq_ok_iff.mpr ⟨_, passed, written⟩)
        simpa using List.find?_eq_none.mp found
      | some record =>
        have failed : reply.checkWrite batch.tags =
            .error (.writeFailed record.tag record.status) :=
          checked.trans
            (bind_eq_error_iff.mpr (Or.inr ⟨_, mapError_eq_ok_iff.mpr recorded, by rw [found]⟩))
        exact .failed lenient tags found (bind_eq_error_iff.mpr (Or.inr ⟨_, passed, failed⟩))

variable {batch : WriteBatch} {reply : Reply}

/-- The check of a batch passes if and only if there are records, all of them successes. -/
theorem check_eq_ok_iff :
    batch.check reply = .ok () ↔
      ∃ records, batch.records reply = .ok records ∧
        ∀ record ∈ records, record.status.isSuccess = true := by
  cases batch.agree reply with
  | refused _ strict lenient =>
    rw [strict, lenient]
    refine ⟨fun passed => ?_, fun given => ?_⟩
    · cases passed
    · rcases given with ⟨_, recorded, _⟩
      cases recorded
  | written lenient _ all strict =>
    exact ⟨fun _ => ⟨_, lenient, all⟩, fun _ => strict⟩
  | @failed records record lenient _ first strict =>
    rw [strict, lenient]
    refine ⟨fun passed => ?_, fun given => ?_⟩
    · cases passed
    · rcases given with ⟨_, recorded, all⟩
      cases recorded
      have success := all record (List.mem_of_find?_eq_some first)
      have failure : ¬record.status.isSuccess = true := by simpa using List.find?_some first
      exact absurd success failure

end WriteBatch

/-- The check of a plan passes if and only if there are records, all of them successes. -/
theorem WritePlan.check_eq_ok_iff {plan : WritePlan} {replies : List Reply} :
    plan.check replies = .ok () ↔
      ∃ records, plan.records replies = .ok records ∧
        ∀ record ∈ records, record.status.isSuccess = true := by
  unfold check records
  rw [bind_eq_ok_iff]
  constructor
  · intro given
    rcases given with ⟨_, counted, checked⟩
    rw [forM_eq_ok_iff] at checked
    have each : ∀ pair ∈ plan.batches.zip replies, ∃ part, pair.1.records pair.2 = .ok part ∧
        ∀ record ∈ part, record.status.isSuccess = true :=
      fun pair member => WriteBatch.check_eq_ok_iff.mp (checked pair member)
    rcases exists_mapM_eq_ok each with ⟨parts, recorded, all⟩
    refine ⟨parts.flatten, ?_, ?_⟩
    · exact bind_eq_ok_iff.mpr ⟨_, counted, bind_eq_ok_iff.mpr ⟨parts, recorded, rfl⟩⟩
    · intro record member
      obtain ⟨part, inParts, inPart⟩ := List.mem_flatten.mp member
      exact forall_mem_of_forall₂ all part inParts record inPart
  · intro given
    rcases given with ⟨records, lenient, all⟩
    obtain ⟨_, counted, later⟩ := bind_eq_ok_iff.mp lenient
    obtain ⟨parts, recorded, flat⟩ := bind_eq_ok_iff.mp later
    cases flat
    refine ⟨_, counted, forM_eq_ok_iff.mpr ?_⟩
    intro pair member
    rcases exists_mem_of_forall₂ (mapM_eq_ok_iff.mp recorded) member with ⟨part, inParts, lenient⟩
    refine WriteBatch.check_eq_ok_iff.mpr ⟨part, lenient, ?_⟩
    exact fun record inPart => all record (List.mem_flatten.mpr ⟨part, inParts, inPart⟩)

/-! ## Both ways, for reads and writes -/

/-- Whatever is answered, the strict and the lenient results agree: those of each batch of a read
plan, those of the plan, and the same for writes. -/
theorem strict_and_lenient_agree :
    (∀ (tags : List Tag) (limits : Limits) (optimize : Bool) (plan : ReadPlan),
        ReadPlan.make tags limits optimize = .ok plan →
        (∀ batch ∈ plan.batches, ∀ reply, batch.Agree reply) ∧
          ∀ replies,
            (∀ values, plan.values replies = .ok values ↔
              ∃ records, plan.records replies = .ok records ∧
                records.map ReadRecord.value? = values.map some) ∧
            ∀ fault, plan.records replies = .error fault → fault.IsOfAnswer) ∧
      (∀ (batch : WriteBatch) (reply : Reply), batch.Agree reply) ∧
      ∀ (plan : WritePlan) (replies : List Reply),
        plan.check replies = .ok () ↔
          ∃ records, plan.records replies = .ok records ∧
            ∀ record ∈ records, record.status.isSuccess = true := by
  refine ⟨?_, WriteBatch.agree, fun _ _ => WritePlan.check_eq_ok_iff⟩
  intro tags limits optimize plan made
  have agree : ∀ batch ∈ plan.batches, ∀ reply, batch.Agree reply := by
    intro batch inBatches
    exact ReadBatch.agree fun item inBatch =>
      ReadPlan.covers_of_make made item (ReadPlan.mem_items inBatches inBatch)
  exact ⟨agree, fun replies =>
    ⟨fun _ => ReadPlan.values_eq_ok_iff agree, fun _ => ReadPlan.isOfAnswer_of_records agree⟩⟩

theorem strict_and_lenient_agree_closeBytes :
    ∃ plan, ReadPlan.make closeBytes ⟨56, 0⟩ true = .ok plan ∧ plan.batches.length = 2 ∧
      (∀ batch ∈ plan.batches, ∀ reply, batch.Agree reply) ∧
      ∀ replies values, plan.values replies = .ok values ↔
        ∃ records, plan.records replies = .ok records ∧
          records.map ReadRecord.value? = values.map some := by
  have seen : (ReadPlan.make closeBytes ⟨56, 0⟩ true).toOption.map (·.batches.length) =
      some 2 := by
    cbv
  rcases exists_of_map_toOption seen with ⟨plan, made, two⟩
  obtain ⟨batches, together⟩ := strict_and_lenient_agree.1 closeBytes ⟨56, 0⟩ true plan made
  exact ⟨plan, made, two, batches, fun replies => (together replies).1⟩

end S7Link
