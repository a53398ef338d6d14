import S7Link.Request.Limits

/-!
# Batches

A plan is made for a PDU size and a number of items per request. Any number may be given; what
counts is the nearest one that a request can have.

A list of items is cut into batches, one request each, without reordering. An item joins the batch
before it if the request for both and the full answer to it stay below the PDU size and the batch
has room for one more item; otherwise it opens a batch. An item that fits nowhere is a batch of its
own.
-/

namespace S7Link.Plan

/-! ## Limits of a plan -/

/-- The PDU size and the number of items per request that a plan keeps to. -/
structure Limits where
  pduSize : UInt16
  maxItems : Nat
deriving DecidableEq, Repr

/-- The nearest number of items that a request can have. -/
def clampItems (count : Nat) : Nat := min (max count 1) Request.maxItems

namespace Limits

/-- As many items as a request can have. -/
def ofPduSize (pduSize : UInt16) : Limits := ⟨pduSize, Request.maxItems⟩

/-- The limits with a number of items that a request can have. -/
def withMaxItems (limits : Limits) (count : Nat) : Limits :=
  { limits with maxItems := clampItems count }

/-- The number of items that a request may have. -/
def items (limits : Limits) : Nat := clampItems limits.maxItems

end Limits

/-! ## Costs and runs -/

/-- The bytes that an item adds to a request and to the answer, fill bytes included. -/
structure Cost where
  request : Nat
  reply : Nat
deriving DecidableEq, Repr

/-- The bytes that an item of a size takes behind its header when it may be filled up to an even
length. -/
def evenSize (size : Nat) : Nat := size + size % 2

/-- The cost of an item that is read. -/
def Cost.ofRead (size : Nat) : Cost :=
  ⟨Request.specificationSize, Request.itemHeaderSize + evenSize size⟩

/-- The cost of an item that is written. -/
def Cost.ofWrite (size : Nat) : Cost :=
  ⟨Request.specificationSize + Request.itemHeaderSize + evenSize size, Request.statusSize⟩

/-- What items cost together in one respect. -/
def Cost.total (part : Cost → Nat) : List Cost → Nat
  | [] => 0
  | cost :: costs => part cost + total part costs

/-- Whether items of the given costs may share a request. -/
def Limits.fits (limits : Limits) (costs : List Cost) : Bool :=
  Request.overhead + Cost.total (·.request) costs < limits.pduSize.toNat &&
    Request.replyOverhead + Cost.total (·.reply) costs < limits.pduSize.toNat &&
    costs.length ≤ limits.items

/-- Cuts a list after an open run: each element joins the run if the longer run fits and else opens
the next. -/
def cutAfter {α : Type} (fits : List α → Bool) (run : List α) : List α → List (List α)
  | [] => [run]
  | x :: rest =>
    if fits (run ++ [x]) then cutAfter fits (run ++ [x]) rest else run :: cutAfter fits [x] rest

/-- Cuts a list into runs, each as long as it fits. -/
def cut {α : Type} (fits : List α → Bool) : List α → List (List α)
  | [] => []
  | x :: rest => cutAfter fits [x] rest

/-! ## Nothing is lost -/

theorem flatten_cutAfter {α : Type} (fits : List α → Bool) (run xs : List α) :
    (cutAfter fits run xs).flatten = run ++ xs := by
  induction xs generalizing run with
  | nil => simp [cutAfter]
  | cons x rest ih =>
    unfold cutAfter
    split <;> simp [ih]

theorem flatten_cut {α : Type} (fits : List α → Bool) (xs : List α) :
    (cut fits xs).flatten = xs := by
  cases xs with
  | nil => rfl
  | cons x rest => simp [cut, flatten_cutAfter]

end S7Link.Plan
