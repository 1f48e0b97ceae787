import Reattach.Fault
import Reattach.Scope
import Reattach.Settings

/-!
# Live links

A link is open until it is detached or a newer link takes over its terminus.  A
link that is taken over is told so, and may fail to close in good order, which
changes nothing about its being closed.
-/

namespace Reattach

/-- A link as its terminus sees it. -/
structure Link where
  identifier : Identifier
  settings : Settings
  scope : Scope
  isOpen : Bool := true
  /-- What the link was last closed with, if it was taken over. -/
  closedWith : Option Fault := none
  /-- Whether closing fails when the link is taken over. -/
  failsOnSteal : Bool := false
  /-- How often the link was taken over. -/
  steals : Nat := 0

namespace Link

/-- The link after a detach. -/
def close (link : Link) : Link := { link with isOpen := false }

/-- The link after it was taken over, and whether it closed in good order. -/
def takenOver (link : Link) (fault : Fault) : Bool × Link :=
  (!link.failsOnSteal,
    { link with isOpen := false, closedWith := some fault, steals := link.steals + 1 })

end Link

end Reattach
