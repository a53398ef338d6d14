import S7Link.Proofs.Controller.Cells
import S7Link.Proofs.Controller.Jobs
import S7Link.Proofs.Plan.Sendable

/-!
# What is written is what the memory holds afterwards

A controller finds in the frames of a write plan one payload for each tag of the caller, in the
caller's order, and carries all of them out. The memory it ends with is the one in which the tags
were given their payloads one after another, and no bit has changed that is not one of a tag's
(`WritePlan.exists_effect`).

One step of the argument is one item (`Memory.Stores.cons`). Items in a row are carried out like the
batches they are cut into (`Memory.Stores.append`), since a controller keeps nothing between two
requests but its memory.
-/

namespace S7Link

open Outcome Plan Request

/-! ## Items that are carried out -/

namespace Memory

/-- The memory after tags were given payloads, one after another. -/
def putAll? (memory : Memory) : List (Tag × Bytes) → Option Memory
  | [] => some memory
  | (tag, payload) :: rest => (memory.put? tag payload).bind fun next => next.putAll? rest

theorem replaceAll_cons (memory : Memory) (pair : Specification × Bytes)
    (rest : List (Specification × Bytes)) :
    memory.replaceAll (pair :: rest) =
      ((memory.replace pair.1 pair.2).1 :: ((memory.replace pair.1 pair.2).2.replaceAll rest).1,
        ((memory.replace pair.1 pair.2).2.replaceAll rest).2) := rfl

/-- Carrying out items takes one memory to the other: every item succeeds, the tags have got their
payloads, and nothing else has changed. -/
structure Stores (memory : Memory) (items : List WriteItem) (last : Memory) : Prop where
  putAll?_eq : memory.putAll? (items.map fun item => (item.tag, item.data)) = some last
  replaceAll_eq :
    memory.replaceAll (items.map WriteItem.job) = (List.replicate items.length .success, last)
  shape : memory.SameShape last
  untouched : ∀ region offset bit, (∀ item ∈ items, ¬item.tag.Touches region offset bit) →
    last.bit? region offset bit = memory.bit? region offset bit

variable {memory next last : Memory} {item : WriteItem} {items others : List WriteItem}

theorem stores_nil (memory : Memory) : memory.Stores [] memory where
  putAll?_eq := rfl
  replaceAll_eq := rfl
  shape := fun _ => rfl
  untouched := fun _ _ _ _ => rfl

/-- One item more, before the others. -/
theorem Stores.cons (wellFormed : item.WellFormed)
    (stored : memory.put? item.tag item.data = some next) (stores : next.Stores items last) :
    memory.Stores (item :: items) last where
  putAll?_eq := by
    rw [List.map_cons, putAll?, stored, Option.bind_some]
    exact stores.putAll?_eq
  replaceAll_eq := by
    have first : memory.replace item.job.1 item.job.2 = (.success, next) :=
      replace_of_some stored
    rw [List.map_cons, replaceAll_cons, first]
    dsimp only
    rw [stores.replaceAll_eq]
    rfl
  shape := (sameShape_of_put? stored).trans stores.shape
  untouched := by
    intro region offset bit apart
    rw [List.forall_mem_cons] at apart
    rw [stores.untouched region offset bit apart.2]
    exact bit?_of_put? stored wellFormed.length_eq apart.1

/-- A memory that holds the tags of items lets them be carried out. -/
theorem exists_stores (wellFormed : ∀ item ∈ items, item.WellFormed)
    (held : ∀ item ∈ items, memory.holds item.tag = true) : ∃ last, memory.Stores items last := by
  induction items generalizing memory with
  | nil => exact ⟨memory, stores_nil memory⟩
  | cons item items ih =>
    rw [List.forall_mem_cons] at wellFormed held
    rcases exists_put? held.1 wellFormed.1.length_eq with ⟨next, stored⟩
    have heldNext : ∀ item ∈ items, next.holds item.tag = true := by
      intro item' later
      rw [(sameShape_of_put? stored).holds_eq]
      exact held.2 item' later
    rcases ih wellFormed.2 heldNext with ⟨last, stores⟩
    exact ⟨last, stores.cons wellFormed.1 stored⟩

theorem putAll?_append (memory : Memory) (first second : List (Tag × Bytes)) :
    memory.putAll? (first ++ second) =
      (memory.putAll? first).bind fun next => next.putAll? second := by
  induction first generalizing memory with
  | nil => rfl
  | cons pair first ih =>
    rw [List.cons_append, putAll?, putAll?, Option.bind_assoc]
    exact congrArg _ (funext fun next => ih next)

theorem replaceAll_append (memory : Memory) (first second : List (Specification × Bytes)) :
    memory.replaceAll (first ++ second) =
      ((memory.replaceAll first).1 ++ ((memory.replaceAll first).2.replaceAll second).1,
        ((memory.replaceAll first).2.replaceAll second).2) := by
  induction first generalizing memory with
  | nil => rfl
  | cons pair first ih =>
    rw [List.cons_append, replaceAll_cons, replaceAll_cons, ih]
    rfl

/-- Items in a row are carried out part by part. -/
theorem Stores.append (first : memory.Stores items next) (second : next.Stores others last) :
    memory.Stores (items ++ others) last where
  putAll?_eq := by
    rw [List.map_append, putAll?_append, first.putAll?_eq]
    exact second.putAll?_eq
  replaceAll_eq := by
    rw [List.map_append, replaceAll_append, first.replaceAll_eq, List.length_append,
      List.replicate_add]
    dsimp only
    rw [second.replaceAll_eq]
  shape := first.shape.trans second.shape
  untouched := by
    intro region offset bit apart
    rw [second.untouched region offset bit fun item later =>
      apart item (List.mem_append_right items later)]
    exact first.untouched region offset bit fun item earlier =>
      apart item (List.mem_append_left others earlier)

end Memory

/-! ## Requests one after another -/

/-- A controller carries out the writes that it finds in a frame. -/
theorem Controller.answering_write {header : ItemHeader} {memory : Memory} {frame : Bytes}
    {reference : UInt16} {items : List (Specification × Bytes)}
    (asked : Job.read? frame = some (reference, .write items)) :
    answering header memory frame =
      (.ok (answer reference writeFunction items.length
        ((memory.replaceAll items).1.map Status.byte)), (memory.replaceAll items).2) := by
  unfold answering
  rw [asked]

theorem Controller.counting_write {memory : Memory} {frame : Bytes} {reference : UInt16}
    {items : List (Specification × Bytes)}
    (asked : Job.read? frame = some (reference, .write items)) :
    counting memory frame =
      (.ok (answer reference writeFunction items.length
        ((memory.replaceAll items).1.map Status.byte)), (memory.replaceAll items).2) :=
  answering_write asked

namespace WriteBatch

/-- What a batch asks a controller to do. -/
def job (batch : WriteBatch) : List (Specification × Bytes) := batch.items.map WriteItem.job

/-- The answer that reports a success for every item of a batch. -/
def fullSuccess (batch : WriteBatch) (reference : UInt16) : Bytes :=
  Controller.answer reference writeFunction batch.items.length
    ((List.replicate batch.items.length Status.success).map Status.byte)

/-- A controller finds in the frame of a batch what the batch asks for. -/
theorem Sendable.read?_bytes {limits : Limits} {batch : WriteBatch}
    (sendable : batch.Sendable limits)
    (wellFormed : ∀ item ∈ batch.items, item.WellFormed) (reference : UInt16) :
    Job.read? (⟨reference, batch.items⟩ : WriteRequest).bytes =
      some (reference, .write batch.job) := by
  have few := Limits.lt_256_of_le_items sendable.few
  have short := Nat.lt_trans (sendable.length_lt reference) limits.pduSize.toNat_lt
  exact WriteRequest.read?_bytes few wellFormed short

/-- The frames of batches are carried out one after another. -/
theorem exchangeAll_eq {limits : Limits} {batches : List WriteBatch} {references : List UInt16}
    {memory : Memory} (count : references.length = batches.length)
    (sendable : ∀ batch ∈ batches, batch.Sendable limits)
    (wellFormed : ∀ item ∈ batches.flatMap (·.items), item.WellFormed)
    (held : ∀ item ∈ batches.flatMap (·.items), memory.holds item.tag = true) :
    ∃ last, memory.Stores (batches.flatMap (·.items)) last ∧
      Controller.counting.exchangeAll memory
          ((batches.zip references).map fun (batch, reference) =>
            (⟨reference, batch.items⟩ : WriteRequest).bytes) =
        ((batches.zip references).map fun (batch, reference) =>
          .ok (batch.fullSuccess reference), last) := by
  induction batches generalizing references memory with
  | nil => exact ⟨memory, Memory.stores_nil memory, rfl⟩
  | cons batch batches ih =>
    rcases references with _ | ⟨reference, references⟩
    · cases count
    · rw [List.flatMap_cons] at wellFormed held ⊢
      rw [List.forall_mem_append] at wellFormed held
      rw [List.forall_mem_cons] at sendable
      rcases Memory.exists_stores wellFormed.1 held.1 with ⟨next, stores⟩
      have heldNext : ∀ item ∈ batches.flatMap (·.items), next.holds item.tag = true := by
        intro item later
        rw [stores.shape.holds_eq]
        exact held.2 item later
      rcases ih (Nat.succ.inj count) sendable.2 wellFormed.2 heldNext with
        ⟨last, others, exchanged⟩
      refine ⟨last, stores.append others, ?_⟩
      have asked := sendable.1.read?_bytes wellFormed.1 reference
      have carriedOut : memory.replaceAll batch.job = _ := stores.replaceAll_eq
      have length : batch.job.length = batch.items.length := List.length_map _
      rw [List.zip_cons_cons, List.map_cons, Transport.exchangeAll_cons,
        Controller.counting_write asked, carriedOut, exchanged, length]
      rfl

end WriteBatch

namespace WritePlan

variable {tags : List Tag} {values : List Value} {limits : Limits} {plan : WritePlan}

theorem wellFormed_of_make (made : make tags values limits = .ok plan) :
    ∀ item ∈ plan.batches.flatMap (·.items), item.WellFormed := by
  apply forall_mem_of_forall₂
  apply (items_of_make made).imp
  intro pair item formed
  rcases itemOf_eq_ok formed with ⟨tag, written, small⟩
  have length := Value.length_encode written
  rw [← tag] at length small
  rw [← length] at small
  exact ⟨length, Nat.le_trans small (Nat.min_le_right ..)⟩

/-- What becomes of a plan at a controller: the requests that are sent, the jobs that the controller
finds in their frames, the payloads that the tags are to get, and the memory afterwards. -/
structure Effect (plan : WritePlan) (tags : List Tag) (values : List Value)
    (references : List UInt16) (pduSize : UInt16) (memory : Memory) (requests : List WriteRequest)
    (jobs : List (List (Specification × Bytes))) (payloads : List Bytes) (last : Memory) :
    Prop where
  requests_eq : (plan.batches.zip references).mapM
    (fun (batch, reference) => batch.request reference pduSize) = .ok requests
  /-- In each frame the controller finds one job, with nothing missing and nothing left over. -/
  jobs_read : requests.map (fun request => Job.read? request.bytes) =
    (jobs.zip references).map fun (job, reference) => some (reference, .write job)
  payloads_eq :
    (tags.zip values).mapM (fun (tag, value) => value.encode tag) = .ok payloads
  /-- Together the jobs are the caller's tags with their payloads, in the caller's order. -/
  jobs_eq : jobs.flatten =
    (tags.zip payloads).map fun (tag, payload) => (Specification.of tag, payload)
  length_jobs : jobs.flatten.length = tags.length
  replaceAll_eq :
    memory.replaceAll jobs.flatten = (List.replicate tags.length .success, last)
  putAll?_eq : memory.putAll? (tags.zip payloads) = some last
  exchanged : Controller.counting.exchangeAll memory (requests.map WriteRequest.bytes) =
    ((plan.batches.zip references).map fun (batch, reference) =>
      .ok (batch.fullSuccess reference), last)
  shape : memory.SameShape last
  untouched : ∀ region offset bit, (∀ tag ∈ tags, ¬tag.Touches region offset bit) →
    last.bit? region offset bit = memory.bit? region offset bit

/-- The tags and payloads of items, and what the items ask for. -/
theorem zip_data_items {items : List WriteItem} (named : items.map (·.tag) = tags) :
    tags.zip (items.map (·.data)) = items.map (fun item => (item.tag, item.data)) ∧
      (tags.zip (items.map (·.data))).map (fun (tag, payload) => (Specification.of tag, payload)) =
        items.map WriteItem.job := by
  have pairs : tags.zip (items.map (·.data)) = items.map fun item => (item.tag, item.data) := by
    rw [← named, List.zip_map']
  refine ⟨pairs, ?_⟩
  rw [pairs, List.map_map]
  rfl

theorem flatten_map_job (batches : List WriteBatch) :
    (batches.map WriteBatch.job).flatten = (batches.flatMap (·.items)).map WriteItem.job := by
  rw [List.map_flatMap, List.flatMap]
  rfl

/-- A plan is carried out under any references by a controller that holds all its tags. -/
theorem exists_effect (memory : Memory) (made : make tags values limits = .ok plan)
    (held : ∀ tag ∈ tags, memory.holds tag = true) (references : List UInt16)
    (count : references.length = plan.batches.length) :
    ∃ requests jobs payloads last,
      plan.Effect tags values references limits.pduSize memory requests jobs payloads last := by
  have named := map_tag_items made
  have wellFormed := wellFormed_of_make made
  have sendable := sendable_of_make made
  have heldItems : ∀ item ∈ plan.batches.flatMap (·.items), memory.holds item.tag = true := by
    intro item member
    exact held item.tag (named ▸ List.mem_map_of_mem member)
  rcases WriteBatch.exchangeAll_eq count sendable wellFormed heldItems with
    ⟨last, stores, exchanged⟩
  rcases zip_data_items named with ⟨pairs, asked⟩
  have length : (plan.batches.flatMap (·.items)).length = tags.length := by
    rw [← named, List.length_map]
  refine ⟨(plan.batches.zip references).map fun (batch, reference) => ⟨reference, batch.items⟩,
    plan.batches.map WriteBatch.job, (plan.batches.flatMap (·.items)).map (·.data), last, ?_⟩
  constructor
  case requests_eq =>
    refine mapM_eq_ok_iff.mpr (List.forall₂_map_right_iff.mpr (List.forall₂_same.mpr ?_))
    intro (batch, reference) member
    exact (sendable batch (List.of_mem_zip member).1).request_eq reference
  case jobs_read =>
    rw [List.zip_map_left, List.map_map, List.map_map]
    apply List.map_congr_left
    intro (batch, reference) member
    have inPlan := (List.of_mem_zip member).1
    refine (sendable batch inPlan).read?_bytes (fun item inBatch => ?_) reference
    exact wellFormed item (List.mem_flatMap.mpr ⟨batch, inPlan, inBatch⟩)
  case payloads_eq =>
    apply mapM_eq_ok_iff.mpr
    apply List.forall₂_map_right_iff.mpr
    exact (items_of_make made).imp fun pair item formed => (itemOf_eq_ok formed).2.1
  case jobs_eq => rw [flatten_map_job, asked]
  case length_jobs => rw [flatten_map_job, List.length_map, length]
  case replaceAll_eq => rw [flatten_map_job, stores.replaceAll_eq, length]
  case putAll?_eq => rw [pairs, stores.putAll?_eq]
  case exchanged =>
    rw [List.map_map]
    exact exchanged
  case shape => exact stores.shape
  case untouched =>
    intro region offset bit apart
    apply stores.untouched region offset bit
    intro item member
    apply apart item.tag
    exact named ▸ List.mem_map_of_mem member

/-- A byte, a bit of it, and two words behind it. -/
def overlapping : List Tag :=
  [(Tag.make .dataBlock 5 .byte 0 0 1).toOption.get rfl,
    (Tag.make .dataBlock 5 .bit 0 3 1).toOption.get rfl,
    (Tag.make .dataBlock 5 .word 1 0 2).toOption.get rfl]

def overlappingValues : List Value :=
  [.byte 0x81, .bool true, .list [.word 0x0102, .word 0x0304]]

/-- A block of six bytes, of which all bits are set. -/
def setMemory : Memory := fun region =>
  if region = ⟨.dataBlock, 5⟩ then some (List.replicate 6 0xFF) else none

/-- The frames of three tags, of which two share a byte, are carried out in two exchanges. The bit
is set in the byte that was written before it. -/
theorem exists_effect_overlapping :
    ∃ plan requests jobs payloads last,
      make overlapping overlappingValues ⟨60, 20⟩ = .ok plan ∧ plan.batches.length = 2 ∧
      plan.Effect overlapping overlappingValues [7, 8] 60 setMemory requests jobs payloads last ∧
      last ⟨.dataBlock, 5⟩ = some [0x89, 1, 2, 3, 4, 0xFF] := by
  have seen : (make overlapping overlappingValues ⟨60, 20⟩).toOption.map (·.batches.length) =
      some 2 := by
    cbv
  rcases exists_of_map_toOption seen with ⟨plan, made, two⟩
  have held : ∀ tag ∈ overlapping, setMemory.holds tag = true := by decide
  rcases exists_effect setMemory made held [7, 8] two.symm with
    ⟨requests, jobs, payloads, last, effect⟩
  have written : ((overlapping.zip overlappingValues).mapM
      fun (tag, value) => value.encode tag) = .ok [[0x81], [1], [1, 2, 3, 4]] := by
    cbv
  have stored : (setMemory.putAll? (overlapping.zip [[0x81], [1], [1, 2, 3, 4]])).map
      (· ⟨.dataBlock, 5⟩) = some (some [0x89, 1, 2, 3, 4, 0xFF]) := by
    cbv
  have bytes := Except.ok.inj (effect.payloads_eq.symm.trans written)
  rw [← bytes, effect.putAll?_eq] at stored
  exact ⟨plan, requests, jobs, payloads, last, made, two, effect, Option.some.inj stored⟩

end WritePlan

end S7Link
