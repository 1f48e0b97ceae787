import Reattach.Delivery.State
import Reattach.Delivery.Tag
import Reattach.SortedMap

/-!
# Maps of unsettled deliveries

When a link is attached, each end tells the other which deliveries it has not
settled.  On the wire a delivery of unknown state has no state at all.
-/

namespace Reattach

/-- The deliveries that one end has not settled, with their states. -/
abbrev Unsettled := SortedMap Tag State

namespace Unsettled

/-- The map of a list of entries as they come over the wire.  Of two entries with one tag
the later counts, and no state means an unknown one. -/
def ofWire (entries : List (Tag × Option State)) : Unsettled :=
  SortedMap.ofList (entries.map fun entry => (entry.1, entry.2.getD .unknown))

/-- The state of a delivery as it goes over the wire. -/
def wireState (state : State) : Option State :=
  if state = .unknown then none else some state

/-- The entries of a map as they go over the wire, in the order of their tags. -/
def toWire (unsettled : Unsettled) : List (Tag × Option State) :=
  unsettled.toList.map fun entry => (entry.1, wireState entry.2)

@[simp] theorem getD_wireState (state : State) : (wireState state).getD .unknown = state := by
  unfold wireState
  split
  · next isUnknown => exact isUnknown.symm
  · rfl

theorem get?_ofWire (entries : List (Tag × Option State)) (tag : Tag) :
    (ofWire entries).get? tag =
      SortedMap.lookup tag (entries.map fun entry => (entry.1, entry.2.getD .unknown)).reverse :=
  SortedMap.get?_ofList _ tag

end Unsettled

end Reattach
