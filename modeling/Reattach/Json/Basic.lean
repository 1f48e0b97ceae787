/-!
# JSON values

Whole numbers that fit sixty-four bits, signed or unsigned, are kept as numbers.
No member of this library is anything but whole, so any other number is kept only
as the text it was read from.
-/

namespace Reattach

/-- A JSON value.  The members of an object keep the order they were written in. -/
inductive Json where
  | null
  | bool (value : Bool)
  | int (value : Int)
  | fractional (text : String)
  | str (text : String)
  | arr (items : List Json)
  | obj (members : List (String × Json))
  /-- What is written as a value and stands for none: a text, or the name of a member,
  with half of a surrogate pair in it; a number out of range; nesting that is too deep.
  It can only be skipped. -/
  | unsound
  deriving Inhabited, BEq, Repr

namespace Json

/-- An absent value is written as null. -/
def ofOption {α : Type} (write : α → Json) : Option α → Json
  | none => null
  | some value => write value

/-- A natural number. -/
def nat (value : Nat) : Json := int value

mutual

/-- Whether a value stands for something, in all its parts. -/
def isSound : Json → Bool
  | .unsound => false
  | .arr items => areSound items
  | .obj members => haveSoundValues members
  | _ => true

def areSound : List Json → Bool
  | [] => true
  | item :: rest => isSound item && areSound rest

def haveSoundValues : List (String × Json) → Bool
  | [] => true
  | (_, value) :: rest => isSound value && haveSoundValues rest

end

end Json

end Reattach
