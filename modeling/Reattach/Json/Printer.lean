import Reattach.Json.Basic
import Reattach.Text.Hex

/-!
# Writing JSON

`compact` writes a value on one line without blanks.  `pretty` gives every item of
an array and every member of an object its own line, indented by two spaces a
level; an empty array or object stays on one line.
-/

namespace Reattach.Json

/-- One character inside a string.  Quotes, backslashes and the characters below the
blank are escaped, all others stand for themselves. -/
def escapedChar (char : Char) : String :=
  if char = '"' then "\\\""
  else if char = '\\' then "\\\\"
  else if char = '\n' then "\\n"
  else if char = '\r' then "\\r"
  else if char = '\t' then "\\t"
  else if char = Char.ofNat 8 then "\\b"
  else if char = Char.ofNat 12 then "\\f"
  else if char.toNat < 0x20 then "\\u00" ++ String.ofList (Text.hexPair char.toNat.toUInt8)
  else char.toString

/-- A string with its quotes. -/
def string (text : String) : String :=
  "\"" ++ String.join (text.toList.map escapedChar) ++ "\""

mutual

/-- A value on one line. -/
def compact : Json → String
  | .null => "null"
  | .bool value => if value then "true" else "false"
  | .int value => toString value
  | .fractional text => text
  | .str text => string text
  | .arr items => "[" ++ compactItems items ++ "]"
  | .obj members => "\x7b" ++ compactMembers members ++ "\x7d"
  | .unsound => "null"

def compactItems : List Json → String
  | [] => ""
  | [item] => compact item
  | item :: next :: rest => compact item ++ "," ++ compactItems (next :: rest)

def compactMembers : List (String × Json) → String
  | [] => ""
  | [(name, value)] => string name ++ ":" ++ compact value
  | (name, value) :: next :: rest =>
      string name ++ ":" ++ compact value ++ "," ++ compactMembers (next :: rest)

end

/-- The start of a line at a level of nesting. -/
def newLine (level : Nat) : String := "\n" ++ String.ofList (List.replicate (2 * level) ' ')

mutual

/-- A value over several lines, the first of which is already indented. -/
def prettyAt (level : Nat) : Json → String
  | .arr (item :: rest) =>
      "[" ++ newLine (level + 1) ++ prettyItems (level + 1) (item :: rest) ++ newLine level ++ "]"
  | .obj (member :: rest) =>
      "\x7b" ++ newLine (level + 1) ++ prettyMembers (level + 1) (member :: rest) ++
        newLine level ++ "\x7d"
  | .arr [] => "[]"
  | .obj [] => "\x7b\x7d"
  | .null => "null"
  | .bool value => if value then "true" else "false"
  | .int value => toString value
  | .fractional text => text
  | .str text => string text
  | .unsound => "null"

def prettyItems (level : Nat) : List Json → String
  | [] => ""
  | [item] => prettyAt level item
  | item :: next :: rest =>
      prettyAt level item ++ "," ++ newLine level ++ prettyItems level (next :: rest)

def prettyMembers (level : Nat) : List (String × Json) → String
  | [] => ""
  | [(name, value)] => string name ++ ": " ++ prettyAt level value
  | (name, value) :: next :: rest =>
      string name ++ ": " ++ prettyAt level value ++ "," ++ newLine level ++
        prettyMembers level (next :: rest)

end

/-- A value over several lines. -/
def pretty (value : Json) : String := prettyAt 0 value

end Reattach.Json
