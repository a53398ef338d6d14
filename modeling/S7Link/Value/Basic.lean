import S7Link.Decimal
import S7Link.Text.Quoted

/-!
# Values

What a tag holds: one element, a text, or the list of the elements of an array. Lean's equality
compares values bit by bit; `Value.equals` compares their floating-point numbers as numbers, so that
a list with a NaN differs from itself.

A message shows a value as its kind and, in parentheses, its content: `Int(-5)`, `Text("x")`,
`List([Word(1), Word(2)])`.
-/

namespace S7Link

open Binary Text

/-- A value read from a tag or to be written to one. -/
inductive Value where
  | bool (b : Bool)
  | byte (n : UInt8)
  | word (n : UInt16)
  | int (n : Int16)
  | dword (n : UInt32)
  | dint (n : Int32)
  | real (x : Single)
  | lreal (x : Double)
  | text (s : String)
  /-- The elements of an array, in the order of their addresses. -/
  | list (elements : List Value)
deriving Repr

namespace Value

/-! ## What a value is -/

/-- The truth value of a bit. -/
def bool? : Value → Option Bool
  | .bool b => some b
  | _ => none

/-- The number of any whole-number value. -/
def integer? : Value → Option Int
  | .byte n => some n.toNat
  | .word n => some n.toNat
  | .int n => some n.toInt
  | .dword n => some n.toNat
  | .dint n => some n.toInt
  | _ => none

/-- The number of any floating-point value, in 64 bits. -/
def float? : Value → Option Double
  | .real x => some x.widen
  | .lreal x => some x
  | _ => none

/-- The text of a text value. -/
def text? : Value → Option String
  | .text s => some s
  | _ => none

/-- The elements of a list. -/
def list? : Value → Option (List Value)
  | .list elements => some elements
  | _ => none

/-! ## Equality as values -/

mutual

/-- Whether two values are of one kind and equal, floating-point numbers compared as numbers. -/
def equals : Value → Value → Bool
  | .bool a, .bool b => a == b
  | .byte a, .byte b => a == b
  | .word a, .word b => a == b
  | .int a, .int b => a == b
  | .dword a, .dword b => a == b
  | .dint a, .dint b => a == b
  | .real a, .real b => a.number.equals b.number
  | .lreal a, .lreal b => a.number.equals b.number
  | .text a, .text b => a == b
  | .list a, .list b => equalLists a b
  | _, _ => false

/-- Whether two lists have the same length and equal values at each place. -/
def equalLists : List Value → List Value → Bool
  | [], [] => true
  | a :: as, b :: bs => equals a b && equalLists as bs
  | _, _ => false

end

/-! ## Values in messages -/

mutual

/-- How a message shows a value. -/
def display : Value → String
  | .bool b => "Bool(" ++ (if b then "true" else "false") ++ ")"
  | .byte n => s!"Byte({n.toNat})"
  | .word n => s!"Word({n.toNat})"
  | .int n => s!"Int({n.toInt})"
  | .dword n => s!"DWord({n.toNat})"
  | .dint n => s!"DInt({n.toInt})"
  | .real x => "Real(" ++ String.ofList (Decimal.write x.number) ++ ")"
  | .lreal x => "LReal(" ++ String.ofList (Decimal.write x.number) ++ ")"
  | .text s => "Text(" ++ Quoted.quote s ++ ")"
  | .list elements => "List([" ++ ", ".intercalate (displayAll elements) ++ "])"

/-- How a message shows each value of a list. -/
def displayAll : List Value → List String
  | [] => []
  | v :: rest => display v :: displayAll rest

end

end Value

end S7Link
