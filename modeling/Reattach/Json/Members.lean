import Reattach.Json.Basic

/-!
# Reading records from JSON

A record is written as an object of named members, or as an array of the values of
its leading fields in their order.  Members that no field asks for are skipped; a
field given twice is refused.  A field is required, or nullable (absent means null,
in an object), or has a value of its own for when it is absent.

Some records come in kinds, and a tag tells which.  The tag may stand anywhere among
the members, so the others are set aside until the kind is known and read then.  What
is set aside has to be sound as a whole, and two things may be written in it that may
not be written elsewhere: a kind as its number, and the null of a named value as an
empty object.
-/

namespace Reattach

/-- The values given for the fields of a record. -/
structure Members where
  /-- Values under the names of their fields. -/
  named : List (String × Json)
  /-- Whether the record was written as an array. -/
  positional : Bool

namespace Members

/-- Whether no field is given more than once. -/
def unambiguous (fields : List String) (members : List (String × Json)) : Bool :=
  fields.all fun field => (members.filter fun member => member.1 == field).length ≤ 1

/-- The members of a record with the given fields. -/
def ofJson? (fields : List String) : Json → Option Members
  | .obj members => if unambiguous fields members then some ⟨members, false⟩ else none
  | .arr items => if items.length ≤ fields.length then some ⟨fields.zip items, true⟩ else none
  | _ => none

/-- The value given for a field. -/
def find? (members : Members) (field : String) : Option Json := members.named.lookup field

/-- A field that has to be given. -/
def required {α : Type} (members : Members) (field : String) (read : Json → Option α) :
    Option α :=
  (members.find? field).bind read

/-- A field that may be null, or left out of an object. -/
def nullable {α : Type} (members : Members) (field : String) (read : Json → Option α) :
    Option (Option α) :=
  match members.find? field with
  | none => if members.positional then none else some none
  | some .null => some none
  | some value => (read value).map some

/-- A field with a value of its own for when it is not given. -/
def orElse {α : Type} (members : Members) (field : String) (read : Json → Option α)
    (absent : α) : Option α :=
  match members.find? field with
  | none => some absent
  | some value => read value

end Members

namespace Json

/-- A null, or a value. -/
def readNullable {α : Type} (read : Json → Option α) : Json → Option (Option α)
  | .null => some none
  | value => (read value).map some

def readBool : Json → Option Bool
  | .bool value => some value
  | _ => none

def readString : Json → Option String
  | .str text => some text
  | _ => none

/-- A whole number from zero to below `bound`. -/
def readNat (bound : Nat) : Json → Option Nat
  | .int value => if 0 ≤ value ∧ value < bound then some value.toNat else none
  | _ => none

def readUInt16 (value : Json) : Option UInt16 := (readNat UInt16.size value).map UInt16.ofNat

def readUInt32 (value : Json) : Option UInt32 := (readNat UInt32.size value).map UInt32.ofNat

def readUInt64 (value : Json) : Option UInt64 := (readNat UInt64.size value).map UInt64.ofNat

/-- The items of an array, all of one kind. -/
def readList {α : Type} (read : Json → Option α) : Json → Option (List α)
  | .arr items => items.mapM read
  | _ => none

/-- The members of an object, all values of one kind. -/
def readDictionary {α : Type} (read : Json → Option α) : Json → Option (List (String × α))
  | .obj members => members.mapM fun member => (read member.2).map fun value => (member.1, value)
  | _ => none

/-- When a value is read. -/
inductive Timing where
  /-- As it comes. -/
  | direct
  /-- When the kind of a record around it is known. -/
  | deferred
  deriving DecidableEq

/-- One of a set of names, as a text or as the name of a lone null member. -/
def readName {α : Type} (names : List (String × α)) (timing : Timing) : Json → Option α
  | .str name => names.lookup name
  | .obj [(name, .null)] => names.lookup name
  | .obj [(name, .obj [])] => if timing = .deferred then names.lookup name else none
  | _ => none

/-- One of a set of kinds, by its name or its number. -/
def readKind {α : Type} (kinds : List (String × α)) (timing : Timing) : Json → Option α
  | .str name => kinds.lookup name
  | .int number =>
      if timing = .deferred ∧ 0 ≤ number then kinds[number.toNat]?.map (·.2) else none
  | _ => none

/-- A record by its kind, given how the rest of each kind is read.  The kind is the member
`tag` of an object or the first item of an array. -/
def readTagged {α : Type} (tag : String) (kinds : List (String × (Json → Option α)))
    (timing : Timing) : Json → Option α
  | .obj members =>
      if Members.unambiguous [tag] members then do
        let read ← readKind kinds timing (← members.lookup tag)
        let rest := obj (members.filter fun member => member.1 != tag)
        if rest.isSound then read rest else none
      else
        none
  | .arr (kind :: items) => do
      let read ← readKind kinds timing kind
      if (arr items).isSound then read (arr items) else none
  | _ => none

/-- A record without fields: any object, or an array without items. -/
def readFieldless {α : Type} (record : α) : Json → Option α
  | .obj _ => some record
  | .arr [] => some record
  | _ => none

end Json

end Reattach
