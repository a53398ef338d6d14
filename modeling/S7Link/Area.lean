/-!
# Memory areas

A controller's memory is divided into areas. Data blocks are many, each with a number; every other
area is one flat byte space. A `Region` is one such byte space: an area and, in the data-block area,
the block's number.
-/

namespace S7Link

/-- A memory area of the controller. -/
inductive Area where
  | dataBlock
  /-- The process image of the inputs. -/
  | input
  /-- The process image of the outputs. -/
  | output
  | memory
  | counter
  | timer
deriving DecidableEq, Repr

namespace Area

/-- The byte that names an area on the wire. -/
def code : Area → UInt8
  | .input => 0x81
  | .output => 0x82
  | .memory => 0x83
  | .dataBlock => 0x84
  | .counter => 0x1C
  | .timer => 0x1D

/-- The letters that name an area in an address. -/
def letters : Area → List Char
  | .dataBlock => ['D', 'B']
  | .input => ['I']
  | .output => ['Q']
  | .memory => ['M']
  | .counter => ['C']
  | .timer => ['T']

/-- The letters of an area as a text. -/
def text (area : Area) : String := String.ofList area.letters

/-- Whether the area is divided into numbered blocks. -/
def hasBlocks (area : Area) : Bool := area == .dataBlock

/-- The area that a byte names on the wire. -/
def ofCode? : UInt8 → Option Area
  | 0x81 => some .input
  | 0x82 => some .output
  | 0x83 => some .memory
  | 0x84 => some .dataBlock
  | 0x1C => some .counter
  | 0x1D => some .timer
  | _ => none

theorem ofCode?_code (area : Area) : ofCode? area.code = some area := by cases area <;> rfl

theorem code_injective {a b : Area} (h : a.code = b.code) : a = b := by
  have := congrArg ofCode? h
  simpa only [ofCode?_code, Option.some.injEq] using this

end Area

/-- One byte space: an area, and the number of the block if the area has blocks, else 0. -/
structure Region where
  area : Area
  block : UInt16
deriving DecidableEq, Repr

/-- The largest offset of a byte whose bit addresses, up to `8 * start + 7`, fit in three bytes. -/
def Region.maxStart : Nat := 2097151

end S7Link
