import S7Link.Tag.Basic
import S7Link.Text.Basic

/-!
# Writing addresses

The address of a tag is its region, the letters of its type, its offset and a suffix: `DB3,I4*10`,
`MW10`, `Q1.2`. Outside the data blocks a bit has no type letters, and neither has a word of a
counter or timer. A bit is followed by a point and its number, a text by a point and its length, any
other cell by a star and its length unless the length is one.
-/

namespace S7Link.Address

open Text

/-- How an address names a region. -/
def writeRegion (region : Region) : List Char :=
  match region.area with
  | .dataBlock => region.area.letters ++ Numeral.decimal region.block.toNat ++ [',']
  | area => area.letters

/-- How an address names a type in an area. -/
def writeType : Area → DataType → List Char
  | .dataBlock, type => type.letters
  | _, .bit => []
  | .counter, .word => []
  | .timer, .word => []
  | _, type => type.letters

/-- What follows the offset in the address of a tag. -/
def writeSuffix (tag : Tag) : List Char :=
  match tag.type with
  | .bit => '.' :: Numeral.decimal tag.bit
  | .string | .wstring => '.' :: Numeral.decimal tag.length
  | _ => if 1 < tag.length then '*' :: Numeral.decimal tag.length else []

/-- The address of a tag. -/
def write (tag : Tag) : List Char :=
  writeRegion tag.region ++ writeType tag.area tag.type ++ Numeral.decimal tag.start ++
    writeSuffix tag

end S7Link.Address

namespace S7Link.Tag

/-- The address of a tag as a text. -/
def text (tag : Tag) : String := String.ofList (Address.write tag)

instance : ToString Tag := ⟨text⟩

end S7Link.Tag
