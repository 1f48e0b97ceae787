import Reattach.Delivery.Record
import Reattach.SortedMap

/-!
# What can go wrong in a store

A store refuses a record that would move a delivery back, finds a stored row that it
cannot read, or is out of order altogether.
-/

namespace Reattach

/-- Why a store does not do what it is asked. -/
inductive StoreError where
  /-- A stored row that spells no record. -/
  | undecodable (terminus tag : String) (fault : Fault)
  /-- The medium does not answer. -/
  | unavailable (identifier : Identifier)
  /-- A record that does not follow from the stored one. -/
  | transition (fault : Fault)

namespace StoreError

def message : StoreError → String
  | undecodable terminus tag fault =>
      "corrupt delivery row for " ++ terminus ++ " tag " ++ tag ++ ": " ++ fault.message
  | unavailable identifier =>
      "corrupt delivery row for " ++ identifier.display ++ " tag : disk unavailable"
  | transition fault => fault.message

end StoreError

/-- Whether a record may take the place of the stored one: its state has to be one that
the stored one may advance to. -/
def Record.mayReplace (existing : Option Record) (next : Record) : Except StoreError Unit :=
  match existing with
  | none => .ok ()
  | some existing =>
      match existing.advance next.state with
      | .ok _ => .ok ()
      | .error fault => .error (.transition fault)

/-- The records of one terminus, by tag. -/
abbrev Records := SortedMap Tag Record

end Reattach
