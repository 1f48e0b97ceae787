import Reattach.Json.Basic
import Reattach.Text.Decimal
import Reattach.Text.FloatRange
import Reattach.Text.Hex

/-!
# Reading JSON

Every function takes the characters that are left and gives back what it read and
the characters after it.  Two steps of fuel go with at least one character, so fuel
of twice the length of the text, and two to begin with, is never used up.

A text can be of the right form and have parts that stand for nothing.  Those are
read as `unsound` values, and whoever needs them refuses them.
-/

namespace Reattach.Json.Reader

/-- The blanks of the format. -/
def isBlank (char : Char) : Bool :=
  char = ' ' || char = '\n' || char = '\t' || char = '\r'

/-- The characters after any blanks. -/
def skipBlanks (text : List Char) : List Char := text.dropWhile isBlank

/-- The rest of a text that starts with the given characters. -/
def expect? : List Char → List Char → Option (List Char)
  | [], text => some text
  | _ :: _, [] => none
  | char :: chars, head :: rest => if char = head then expect? chars rest else none

/-- The value of four hexadecimal digits. -/
def codeUnit? : List Char → Option (Nat × List Char)
  | a :: b :: c :: d :: rest => do
      let a ← Text.hexValue? a
      let b ← Text.hexValue? b
      let c ← Text.hexValue? c
      let d ← Text.hexValue? d
      some (((a * 16 + b) * 16 + c) * 16 + d, rest)
  | _ => none

/-- The second half of a surrogate pair, written as an escape. -/
def lowHalf? (text : List Char) : Option (Nat × List Char) := do
  let rest ← expect? ['\\', 'u'] text
  let (low, rest) ← codeUnit? rest
  if 0xdc00 ≤ low && low < 0xe000 then some (low, rest) else none

/-- The character of a code unit, with the second half it needs if it is the first half
of a pair.  Halves on their own stand for no character. -/
def unicodeEscape? (text : List Char) : Option (Option Char × List Char) := do
  let (unit, rest) ← codeUnit? text
  if 0xd800 ≤ unit && unit < 0xdc00 then
    match lowHalf? rest with
    | some (low, rest) =>
        some (some (Char.ofNat (0x10000 + (unit - 0xd800) * 0x400 + (low - 0xdc00))), rest)
    | none => some (none, rest)
  else if 0xdc00 ≤ unit && unit < 0xe000 then
    some (none, rest)
  else
    some (some (Char.ofNat unit), rest)

/-- The character that an escape stands for, if it stands for one, after its backslash. -/
def escape? : List Char → Option (Option Char × List Char)
  | [] => none
  | char :: rest =>
      match char with
      | '"' => some (some '"', rest)
      | '\\' => some (some '\\', rest)
      | '/' => some (some '/', rest)
      | 'b' => some (some (Char.ofNat 8), rest)
      | 'f' => some (some (Char.ofNat 12), rest)
      | 'n' => some (some '\n', rest)
      | 'r' => some (some '\r', rest)
      | 't' => some (some '\t', rest)
      | 'u' => unicodeEscape? rest
      | _ => none

/-- The characters of a string up to its closing quote, in reverse, if all that it is
written with stand for characters. -/
def stringBody? :
    Nat → Option (List Char) → List Char → Option (Option (List Char) × List Char)
  | 0, _, _ => none
  | _ + 1, _, [] => none
  | fuel + 1, read, char :: rest =>
      if char = '"' then some (read, rest)
      else if char = '\\' then do
        let (escaped, rest) ← escape? rest
        stringBody? fuel (escaped.bind fun char => read.map (char :: ·)) rest
      else if char.toNat < 0x20 then none
      else stringBody? fuel (read.map (char :: ·)) rest

/-- A string after its opening quote, if it stands for a text. -/
def string? (fuel : Nat) (text : List Char) : Option (Option String × List Char) := do
  let (read, rest) ← stringBody? fuel (some []) text
  some (read.map fun chars => String.ofList chars.reverse, rest)

/-- The digits of a whole part: a zero alone, or a row that starts with no zero. -/
def wholeDigits? (text : List Char) : Option (List Char × List Char) :=
  let digits := text.takeWhile Char.isDigit
  let rest := text.dropWhile Char.isDigit
  match digits with
  | [] => none
  | '0' :: _ :: _ => none
  | _ => some (digits, rest)

/-- A mark followed by at least one digit, or nothing where the mark is absent. -/
def fraction? : List Char → Option (List Char × List Char)
  | '.' :: rest =>
      match rest.takeWhile Char.isDigit with
      | [] => none
      | digits => some ('.' :: digits, rest.dropWhile Char.isDigit)
  | text => some ([], text)

/-- An exponent with at least one digit, or nothing where there is none. -/
def exponent? : List Char → Option (List Char × List Char)
  | [] => some ([], [])
  | mark :: rest =>
      if mark = 'e' || mark = 'E' then
        let (sign, rest) :=
          match rest with
          | '+' :: after => (['+'], after)
          | '-' :: after => (['-'], after)
          | after => ([], after)
        match rest.takeWhile Char.isDigit with
        | [] => none
        | digits => some (mark :: sign ++ digits, rest.dropWhile Char.isDigit)
      else
        some ([], mark :: rest)

/-- A number without fraction and exponent, if sixty-four bits hold it.  A negative zero
is no whole number. -/
def whole? (negative : Bool) (value : Nat) : Option Int :=
  if negative then
    if value = 0 || value > UInt64.size / 2 then none else some (-(value : Int))
  else if value < UInt64.size then some value
  else none

/-- The value of an exponent with its mark and sign; zero where there is none. -/
def exponentValue : List Char → Int
  | [] => 0
  | _ :: '-' :: digits => -(Text.natOfDigits digits : Int)
  | _ :: '+' :: digits => Text.natOfDigits digits
  | _ :: digits => Text.natOfDigits digits

/-- A number, if it is in range. -/
def number? (text : List Char) : Option (Json × List Char) := do
  let (negative, unsigned) :=
    match text with
    | '-' :: rest => (true, rest)
    | rest => (false, rest)
  let (digits, rest) ← wholeDigits? unsigned
  let (decimals, rest) ← fraction? rest
  let (power, rest) ← exponent? rest
  let exact :=
    if decimals.isEmpty && power.isEmpty then whole? negative (Text.natOfDigits digits)
    else none
  match exact with
  | some value => some (.int value, rest)
  | none =>
      if Text.isInFloatRange digits (decimals.drop 1) (exponentValue power) then
        let sign := if negative then ['-'] else []
        some (.fractional (String.ofList (sign ++ digits ++ decimals ++ power)), rest)
      else
        some (.unsound, rest)

/-- A text, or nothing sound. -/
def ofText : Option String → Json
  | some text => .str text
  | none => .unsound

/-- An array, where there is room for it. -/
def ofItems (room : Nat) (items : List Json) : Json :=
  if room = 0 then .unsound else .arr items

/-- An object, where there is room for it and all its names are texts. -/
def ofMembers (room : Nat) (members : Option (List (String × Json))) : Json :=
  match members with
  | none => .unsound
  | some members => if room = 0 then .unsound else .obj members

/-- A member before others, if its name is a text. -/
def addMember (name : Option String) (value : Json) (rest : Option (List (String × Json))) :
    Option (List (String × Json)) := do
  some ((← name, value) :: (← rest))

mutual

/-- A value, blanks before it included.  There is room for so many arrays and objects
inside one another. -/
def value? (room : Nat) : Nat → List Char → Option (Json × List Char)
  | 0, _ => none
  | fuel + 1, text =>
      match skipBlanks text with
      | [] => none
      | char :: rest =>
          match char with
          | 'n' => (expect? ['u', 'l', 'l'] rest).map fun rest => (.null, rest)
          | 't' => (expect? ['r', 'u', 'e'] rest).map fun rest => (.bool true, rest)
          | 'f' => (expect? ['a', 'l', 's', 'e'] rest).map fun rest => (.bool false, rest)
          | '"' => (string? fuel rest).map fun (text, rest) => (ofText text, rest)
          | '[' =>
              match skipBlanks rest with
              | ']' :: rest => some (ofItems room [], rest)
              | rest =>
                  (items? (room - 1) fuel rest).map fun (items, rest) =>
                    (ofItems room items, rest)
          | '\x7b' =>
              match skipBlanks rest with
              | '\x7d' :: rest => some (ofMembers room (some []), rest)
              | rest =>
                  (members? (room - 1) fuel rest).map fun (members, rest) =>
                    (ofMembers room members, rest)
          | _ => number? (char :: rest)

/-- The items of an array, up to and with its closing bracket. -/
def items? (room : Nat) : Nat → List Char → Option (List Json × List Char)
  | 0, _ => none
  | fuel + 1, text => do
      let (item, rest) ← value? room fuel text
      match skipBlanks rest with
      | ',' :: rest => do
          let (items, rest) ← items? room fuel rest
          some (item :: items, rest)
      | ']' :: rest => some ([item], rest)
      | _ => none

/-- The members of an object, up to and with its closing brace, if all their names are
texts. -/
def members? (room : Nat) :
    Nat → List Char → Option (Option (List (String × Json)) × List Char)
  | 0, _ => none
  | fuel + 1, text => do
      let rest ← expect? ['"'] (skipBlanks text)
      let (name, rest) ← string? fuel rest
      let rest ← expect? [':'] (skipBlanks rest)
      let (value, rest) ← value? room fuel rest
      match skipBlanks rest with
      | ',' :: rest => do
          let (members, rest) ← members? room fuel rest
          some (addMember name value members, rest)
      | '\x7d' :: rest => some (addMember name value (some []), rest)
      | _ => none

end

end Reattach.Json.Reader

namespace Reattach.Json

/-- How many arrays and objects may stand inside one another. -/
def maxNesting : Nat := 127

/-- The value that a whole text spells. -/
def ofText? (text : String) : Option Json := do
  let chars := text.toList
  let (value, rest) ← Reader.value? maxNesting (2 * chars.length + 2) chars
  if (Reader.skipBlanks rest).isEmpty then some value else none

end Reattach.Json
