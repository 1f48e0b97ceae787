/-!
# Roles of a link's two ends
-/

namespace Reattach

/-- The end of a link that a terminus stands for. -/
inductive Role where
  | sender
  | receiver
  deriving DecidableEq, Inhabited, Repr

namespace Role

/-- The role at the other end of the same link. -/
def peer : Role → Role
  | sender => receiver
  | receiver => sender

/-- Whether this is the receiving end. -/
def isReceiver : Role → Bool
  | sender => false
  | receiver => true

def name : Role → String
  | sender => "sender"
  | receiver => "receiver"

def byName : List (String × Role) := [(sender.name, sender), (receiver.name, receiver)]

/-- Senders come before receivers. -/
def index : Role → Nat
  | sender => 0
  | receiver => 1

instance : Ord Role := ⟨fun left right => compare left.index right.index⟩

instance : Std.TransOrd Role :=
  inferInstanceAs (Std.TransCmp (compareOn Role.index))

instance : Std.LawfulEqOrd Role where
  compare_self := by intro role; cases role <;> rfl
  eq_of_compare := by intro left right; cases left <;> cases right <;> decide

end Role

end Reattach
