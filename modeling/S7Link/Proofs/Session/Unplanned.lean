import S7Link.Proofs.Plan.Planned
import S7Link.Session.Call

/-!
# Calls without a plan

A call for which no plan is made has done nothing: it gives the fault of planning, and the session
is the one before, with the transport, the next reference and the journal as they were. Which calls
these are is decided by their tags and values one at a time (`Session.planning_decided`).
-/

namespace S7Link.Session

open Plan

/-- The plan of a call is refused. -/
def Call.Unplanned (config : Config) (fault : Fault) : Call → Prop
  | .read tags | .readRecords tags =>
    ReadPlan.make tags config.limits config.optimize = .error fault
  | .write tags values | .writeRecords tags values =>
    WritePlan.make tags values config.limits = .error fault
  | .readOne tag => ReadPlan.make [tag] config.limits config.optimize = .error fault
  | .writeOne tag value => WritePlan.make [tag] [value] config.limits = .error fault

section

variable {σ α : Type} (transport : Transport σ) {session : Session σ} (lenient : Bool)
  {tags : List Tag} {fault : Fault}

theorem readWith_of_refused (decode : ReadBatch → Reply → Except Fault (List (Indexed α)))
    (events : List (Indexed α) → List Event)
    (refused : ReadPlan.make tags session.config.limits session.config.optimize = .error fault) :
    session.readWith transport lenient decode events tags = (.error fault, session) := by
  unfold readWith
  dsimp only
  rw [refused]

theorem writeWith_of_refused (decode : WriteBatch → Reply → Except Fault α)
    (events : α → List Event) {values : List Value}
    (refused : WritePlan.make tags values session.config.limits = .error fault) :
    session.writeWith transport lenient decode events tags values = (.error fault, session) := by
  unfold writeWith
  dsimp only
  rw [refused]

/-- A call for which no plan is made leaves the session as it was. -/
theorem perform_of_unplanned {call : Call} (unplanned : call.Unplanned session.config fault) :
    session.perform transport call = (.error fault, session) := by
  cases call with
  | read tags =>
    rw [perform, read, readWith_of_refused transport false _ _ unplanned]
    rfl
  | readRecords tags =>
    rw [perform, readRecords, readWith_of_refused transport true _ _ unplanned]
    rfl
  | write tags values =>
    rw [perform, write, writeWith_of_refused transport false _ _ unplanned]
    rfl
  | writeRecords tags values =>
    rw [perform, writeRecords, writeWith_of_refused transport true _ _ unplanned]
    rfl
  | readOne tag =>
    rw [perform, readOne, read, readWith_of_refused transport false _ _ unplanned]
    rfl
  | writeOne tag value =>
    rw [perform, writeOne, write, writeWith_of_refused transport false _ _ unplanned]
    rfl

end

/-- Whether a plan is made is decided by the tags and values one at a time, and the first that is
refused is the fault. A call for which no plan is made leaves the session as it was. -/
theorem planning_decided :
    (∀ (tags : List Tag) (limits : Limits) (optimize : Bool) (reference : UInt16),
        ReadPlan.Decided tags limits optimize reference) ∧
      (∀ (tags : List Tag) (values : List Value) (limits : Limits),
        WritePlan.Decided tags values limits) ∧
      ∀ {σ : Type} (transport : Transport σ) (session : Session σ) (call : Call) (fault : Fault),
        call.Unplanned session.config fault →
          session.perform transport call = (.error fault, session) :=
  ⟨ReadPlan.decided, WritePlan.decided,
    fun transport _ _ _ unplanned => perform_of_unplanned transport unplanned⟩

/-- Ten bytes are one too many for a PDU of 35 bytes. Nothing is sent of the two tags before. -/
theorem planning_decided_closeBytes :
    ∃ tag ∈ closeBytes,
      let fault := Fault.itemTooLarge tag 10 9 35
      let session := Session.start ⟨35, 20, true⟩ [Recording.fault .timeout]
      (Call.read closeBytes).Unplanned session.config fault ∧
        session.perform Transport.replay (.read closeBytes) = (.error fault, session) := by
  have refused : ∃ tag ∈ closeBytes, ReadPlan.make closeBytes ⟨35, 20⟩ true =
      .error (.itemTooLarge tag 10 9 35) :=
    ⟨_, List.getLast_mem (by decide), rfl⟩
  obtain ⟨tag, member, unplanned⟩ := refused
  exact ⟨tag, member, unplanned, planning_decided.2.2 _ _ _ _ unplanned⟩

end S7Link.Session
