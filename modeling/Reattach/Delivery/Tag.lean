import Reattach.Text.Hex

/-!
# Delivery tags

A tag names one delivery within its terminus.  It is a row of bytes, ordered byte
by byte and written in hexadecimal digits.
-/

namespace Reattach

/-- The name of a delivery within its terminus. -/
structure Tag where
  bytes : List UInt8
  deriving DecidableEq, Inhabited, Repr

namespace Tag

instance : Ord Tag := ⟨fun left right => compare left.bytes right.bytes⟩

instance : Std.TransOrd Tag := inferInstanceAs (Std.TransCmp (compareOn Tag.bytes))

instance : Std.LawfulEqOrd Tag where
  eq_of_compare := by
    intro left right order
    cases left
    cases right
    exact congrArg Tag.mk (Std.LawfulEqCmp.eq_of_compare order)

/-- The tag spelled by the bytes of a text. -/
def ofText (text : String) : Tag := ⟨text.toUTF8.data.toList⟩

/-- A tag in lower-case digits, two for each byte. -/
def toHex (tag : Tag) : String := Text.hexOfBytes tag.bytes

/-- The tag that a row of digits spells. -/
def ofHex? (text : String) : Option Tag := (Text.bytesOfPairs? text.toList).map Tag.mk

/-- What a tag is written as spells that tag. -/
@[simp] theorem ofHex?_toHex (tag : Tag) : ofHex? tag.toHex = some tag := by
  rw [ofHex?, toHex, Text.hexOfBytes, String.toList_ofList, Text.bytesOfPairs?_hexPairs]
  rfl

end Tag

end Reattach
