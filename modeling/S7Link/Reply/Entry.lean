import S7Link.Reply.Items

/-!
# Entries

What an item looks like in the data section of an answer. An `Entry` keeps all of it, the parts that
carry no meaning included, so that `Entry.bytes` gives back the bytes as they stand. `Entry.Answers`
tells which entries may stand for an item of a size, and `Entry.AnswerAll` which lists of entries
answer items of some sizes: a data section is read if and only if it is the bytes of such a list.
-/

namespace S7Link.Reply

/-- One entry of the data section of the answer to a read. -/
inductive Entry where
  /-- A success: a code for the unit of the length, the length, the payload and what fills it up. -/
  | success (code : UInt8) (length : UInt16) (payload fill : Bytes)
  /-- A failure: its status and the bytes behind it. -/
  | failure (status : Status) (rest : Bytes)
deriving DecidableEq, Repr

/-- A length of `count` units, of the size that `code` tells, is the length of `size` bytes. Bits
are counted up to the last one, so they may end anywhere in the last byte. -/
def Denotes (code : UInt8) (count size : Nat) : Prop :=
  code ∈ [0x03, 0x04, 0x05] ∧ count ≤ 8 * size ∧ 8 * size < count + 8 ∨
    code ∈ [0x07, 0x09] ∧ count = size

namespace Entry

/-- The bytes of an entry. -/
def bytes : Entry → Bytes
  | .success code length payload fill =>
    [Status.success.byte, code] ++ BigEndian.ofWord length ++ payload ++ fill
  | .failure status rest => status.byte :: rest

/-- What an entry says about its item. -/
def item : Entry → ItemReply
  | .success _ _ payload _ => ⟨.success, payload⟩
  | .failure status _ => ⟨status, []⟩

/-- The entry may stand for an item of a size. A payload has this size and is filled up to an even
length unless the entry is the last; three bytes follow a failure, or fewer if it is the last. -/
def Answers (size : Nat) (isLast : Bool) : Entry → Prop
  | .success code length payload fill =>
    Denotes code length.toNat size ∧ payload.length = size ∧
      fill.length = if isLast then 0 else size % 2
  | .failure status rest =>
    status ≠ .success ∧ (rest.length = 3 ∨ isLast = true ∧ rest.length < 3)

/-- The entries may stand for items of the sizes, one by one. -/
def AnswerAll : List Nat → List Entry → Prop
  | [], [] => True
  | size :: sizes, entry :: entries => entry.Answers size sizes.isEmpty ∧ AnswerAll sizes entries
  | _, _ => False

theorem AnswerAll.length_eq {sizes : List Nat} {entries : List Entry}
    (h : AnswerAll sizes entries) : entries.length = sizes.length := by
  fun_induction AnswerAll sizes entries with
  | case1 => rfl
  | case2 size sizes entry entries ih => simp [ih h.2]
  | case3 => exact h.elim

end Entry

/-- The number of bytes that a code and a length tell is the one that they denote. -/
theorem payloadLength_eq_ok_iff {code : UInt8} {count size : Nat} :
    payloadLength code count = .ok size ↔ Denotes code count size := by
  unfold payloadLength Denotes
  split <;> simp_all <;> omega

end S7Link.Reply
