import Reattach.Text.UnprintableTable

/-!
# Quoted texts in messages

A text that a message repeats stands in double quotes.  Quotes, backslashes, line
ends and the other characters that would not show are written as escapes.
-/

namespace Reattach.Text

/-- Whether a character shows as itself. -/
def isPrintable (char : Char) : Bool :=
  if char.toNat < 0x80 then
    0x20 ≤ char.toNat && char.toNat < 0x7f
  else
    !inSpans unprintableSpans char

/-- A code point in lower-case hexadecimal digits, without leading zeros. -/
def hexOfCode (code : Nat) : String := String.ofList (Nat.toDigits 16 code)

/-- One character as it stands between the quotes. -/
def quotedChar (char : Char) : String :=
  if char = '"' then "\\\""
  else if char = '\\' then "\\\\"
  else if char = '\n' then "\\n"
  else if char = '\r' then "\\r"
  else if char = '\t' then "\\t"
  else if char = Char.ofNat 0 then "\\0"
  else if isPrintable char then char.toString
  else "\\u\x7b" ++ hexOfCode char.toNat ++ "\x7d"

/-- A text in double quotes. -/
def quoted (text : String) : String :=
  "\"" ++ String.join (text.toList.map quotedChar) ++ "\""

end Reattach.Text
