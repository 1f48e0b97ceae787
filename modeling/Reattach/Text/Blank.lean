import Reattach.Text.CodeSpan

/-!
# Blank characters

The characters with the property White_Space, and texts without them at either
end.
-/

namespace Reattach.Text

/-- Characters with the property White_Space. -/
def blankSpans : List CodeSpan :=
  [ ⟨0x9, 0xd⟩, ⟨0x20, 0x20⟩, ⟨0x85, 0x85⟩, ⟨0xa0, 0xa0⟩, ⟨0x1680, 0x1680⟩, ⟨0x2000, 0x200a⟩,
    ⟨0x2028, 0x2029⟩, ⟨0x202f, 0x202f⟩, ⟨0x205f, 0x205f⟩, ⟨0x3000, 0x3000⟩ ]

/-- Whether a character is blank. -/
def isBlank (char : Char) : Bool := inSpans blankSpans char

/-- A text without the blanks at its two ends. -/
def trimmed (text : String) : String :=
  String.ofList (((text.toList.dropWhile isBlank).reverse.dropWhile isBlank).reverse)

end Reattach.Text
