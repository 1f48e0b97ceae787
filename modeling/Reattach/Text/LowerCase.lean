import Reattach.Text.CaseTable

/-!
# Lower case

Two lower-casings of a text are in use.  `fold` treats every character on its own
and serves comparison: texts that differ in case alone fold to the same
characters.  `lower` also knows that a capital sigma at the end of a word is
written `ς`, and serves ordering.
-/

namespace Reattach.Text

/-- The lower-case form of one character.  Only `İ` has a form of two characters, the
letter and its dot. -/
def lowerChar (char : Char) : List Char :=
  if char = 'İ' then
    ['i', Char.ofNat 0x307]
  else
    match lowerCaseSpans.findSome? (·.move? char.toNat) with
    | some code => [Char.ofNat code]
    | none => [char]

/-- Every character of a text in lower case, each treated on its own. -/
def fold (text : String) : List Char := text.toList.flatMap lowerChar

/-- The folded characters as a text. -/
def folded (text : String) : String := String.ofList (fold text)

/-- Whether a character has a case: it is upper, lower or title case. -/
def isCased (char : Char) : Bool := inSpans casedSpans char

/-- Whether a character is skipped when looking for a cased neighbour. -/
def isCaseIgnorable (char : Char) : Bool := inSpans caseIgnorableSpans char

/-- Whether the first character that counts is a cased one. -/
def meetsCased : List Char → Bool
  | [] => false
  | char :: rest => if isCaseIgnorable char then meetsCased rest else isCased char

/-- Lower case with the characters before the point at hand, nearest first.  A sigma
after a letter and before none ends a word. -/
def lowerAfter (before : List Char) : List Char → List Char
  | [] => []
  | char :: rest =>
      let image :=
        if char = 'Σ' then
          if meetsCased before && !meetsCased rest then ['ς'] else ['σ']
        else
          lowerChar char
      image ++ lowerAfter (char :: before) rest

/-- A text in lower case, a sigma that ends a word written in its final form. -/
def lower (text : String) : String := String.ofList (lowerAfter [] text.toList)

/-- A text with its ASCII letters in lower case and all else as it is. -/
def lowerAscii (text : String) : String := text.map Char.toLower

end Reattach.Text
