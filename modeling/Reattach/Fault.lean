import Reattach.Delivery.State
import Reattach.Delivery.Tag
import Reattach.Identifier

/-!
# What can go wrong with a link

Every fault names its cause; `Fault.message` is the only place where one is put
into words.
-/

namespace Reattach

/-- Why an operation on a link, its terminus or its deliveries is refused. -/
inductive Fault where
  /-- An identifier without a link name. -/
  | emptyName
  /-- A text that spells no tag. -/
  | notHex (text : String)
  /-- A text that names no outcome. -/
  | unknownOutcome (text : String)
  /-- An exclusive attach to a terminus that another live link holds. -/
  | duplicateTerminus (identifier : Identifier)
  /-- The link was closed because a newer one took its terminus. -/
  | linkStolen (identifier : Identifier)
  /-- An attach to a terminus that has expired. -/
  | terminusExpired (identifier : Identifier)
  /-- A text that is the symbol of no expiry policy. -/
  | unknownPolicy (text : String)
  /-- A delivery that would move back, or off its track. -/
  | backward (tag : Tag) (current next : State)

namespace Fault

def message : Fault → String
  | emptyName => "invalid argument: link name must not be empty"
  | notHex text => "invalid argument: invalid hex delivery tag: " ++ text
  | unknownOutcome text => "invalid argument: unknown outcome: " ++ text
  | duplicateTerminus identifier =>
      "link terminus " ++ identifier.display ++ " is already attached to a live link"
  | linkStolen identifier =>
      "link " ++ identifier.display ++ " was closed due to link stealing"
  | terminusExpired identifier => "link terminus " ++ identifier.display ++ " has expired"
  | unknownPolicy text => "unknown terminus expiry policy: " ++ text
  | backward tag current next =>
      "delivery " ++ tag.toHex ++ " cannot move from " ++ current.name ++ " to " ++ next.name

end Fault

end Reattach
