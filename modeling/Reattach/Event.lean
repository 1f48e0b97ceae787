import Reattach.Identifier

/-!
# Events in the life of a terminus

Events are published in the order in which they happen.  A subscriber reads them
in that order from where it joined.  If it falls further behind than the number of
events kept, it learns how many it missed and goes on with the oldest one kept.
-/

namespace Reattach

/-- Something that happened to a terminus or its link. -/
inductive Event where
  /-- A link was attached. -/
  | associated (identifier : Identifier)
  /-- A live link lost its terminus to a newer one. -/
  | stolen (identifier : Identifier)
  /-- The terminus lost its link; the epoch numbers the episode that begins. -/
  | suspended (identifier : Identifier) (epoch : Nat)
  /-- The terminus is gone for good. -/
  | expired (identifier : Identifier)

/-- The terminus that an event is about. -/
def Event.identifier : Event → Identifier
  | associated identifier => identifier
  | stolen identifier => identifier
  | suspended identifier _ => identifier
  | expired identifier => identifier

/-- An event and when it was published, in milliseconds. -/
structure Notice where
  time : Nat
  event : Event

/-- All that was published so far, and how much of it a subscriber can fall behind. -/
structure Channel where
  capacity : Nat
  published : Array Notice := #[]

/-- What a subscriber finds when it reads on. -/
structure Reading where
  /-- How many events it missed. -/
  missed : Nat
  /-- The events that it did not miss, the oldest first. -/
  notices : List Notice
  /-- Where it reads on the next time. -/
  next : Nat

namespace Channel

/-- The channel with one more event. -/
def publish (channel : Channel) (time : Nat) (event : Event) : Channel :=
  { channel with published := channel.published.push ⟨time, event⟩ }

/-- Where a subscriber starts that joins now. -/
def subscribe (channel : Channel) : Nat := channel.published.size

/-- The oldest position whose event is still kept. -/
def oldest (channel : Channel) : Nat := channel.published.size - channel.capacity

/-- What a subscriber finds at its position. -/
def readFrom (channel : Channel) (position : Nat) : Reading :=
  { missed := channel.oldest - position
    notices := channel.published.toList.drop (max position channel.oldest)
    next := channel.published.size }

@[simp] theorem toList_published_publish (channel : Channel) (time : Nat) (event : Event) :
    (channel.publish time event).published.toList = channel.published.toList ++ [⟨time, event⟩] :=
  Array.toList_push

/-- A subscriber that joins now has missed nothing and finds nothing. -/
theorem readFrom_subscribe (channel : Channel) :
    channel.readFrom channel.subscribe = ⟨0, [], channel.published.size⟩ := by
  have atEnd : max channel.subscribe channel.oldest = channel.published.toList.length :=
    Nat.max_eq_left (Nat.sub_le _ _)
  unfold readFrom
  rw [atEnd, List.drop_length]
  congr 1
  exact Nat.sub_eq_zero_of_le (Nat.sub_le _ _)

end Channel

end Reattach
