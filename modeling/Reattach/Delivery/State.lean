import Reattach.Text.LowerCase

/-!
# States of unsettled deliveries

A delivery starts without a state, may be acknowledged as received, and ends with
an outcome.  Within a transaction it goes its own way, from a pending decision to
a transactional outcome, and never leaves it.
-/

namespace Reattach

/-- How a delivery ended. -/
inductive Outcome where
  | accepted
  | rejected
  | released
  | modified
  deriving DecidableEq, Inhabited, Repr

namespace Outcome

def name : Outcome → String
  | accepted => "accepted"
  | rejected => "rejected"
  | released => "released"
  | modified => "modified"

def all : List Outcome := [accepted, rejected, released, modified]

def byName : List (String × Outcome) := all.map fun outcome => (outcome.name, outcome)

def ofName? (text : String) : Option Outcome := byName.lookup (Text.lowerAscii text)

end Outcome

/-- What one end of a link has on record for a delivery. -/
inductive State where
  /-- Sent or received, with nothing known about its progress. -/
  | unknown
  /-- Received by the other end, and not decided. -/
  | received
  /-- Decided. -/
  | terminal (outcome : Outcome)
  /-- To be decided by an open transaction. -/
  | transactionalPending
  /-- Decided within a transaction. -/
  | transactionalTerminal (outcome : Outcome)
  deriving DecidableEq, Inhabited, Repr

namespace State

/-- The outcome of a decided delivery. -/
def outcome? : State → Option Outcome
  | terminal outcome => some outcome
  | transactionalTerminal outcome => some outcome
  | _ => none

/-- Whether the delivery is decided. -/
def isTerminal (state : State) : Bool := state.outcome?.isSome

/-- Whether a transaction decides the delivery. -/
def isTransactional : State → Bool
  | transactionalPending => true
  | transactionalTerminal _ => true
  | _ => false

/-- How far the delivery has come: not at all, some way, or to its end. -/
def rank : State → Nat
  | unknown => 0
  | received => 1
  | transactionalPending => 1
  | terminal _ => 2
  | transactionalTerminal _ => 2

/-- Whether a record may move on from one state to another.  Staying is always allowed, a
decision is final, a transaction is never left, and a received delivery may still
enter one. -/
def canAdvanceTo (state next : State) : Bool :=
  if state = next then true
  else if state.isTerminal then false
  else if state.isTransactional && !next.isTransactional then false
  else state.rank < next.rank || (state = received && next = transactionalPending)

def name : State → String
  | unknown => "unknown"
  | received => "received"
  | terminal outcome => outcome.name
  | transactionalPending => "txn"
  | transactionalTerminal outcome => "txn:" ++ outcome.name

/-- The rest of a text after `txn:`. -/
def afterTransaction? (text : String) : Option String :=
  match text.toList with
  | 't' :: 'x' :: 'n' :: ':' :: rest => some (String.ofList rest)
  | _ => none

/-- The state that a text in any case names, or the part of it that should name an
outcome and does not. -/
def ofText (text : String) : Except String State :=
  let text := Text.lowerAscii text
  if text = "unknown" || text = "null" then .ok unknown
  else if text = "received" then .ok received
  else if text = "txn" then .ok transactionalPending
  else
    match afterTransaction? text with
    | some rest =>
        match Outcome.ofName? rest with
        | some outcome => .ok (transactionalTerminal outcome)
        | none => .error rest
    | none =>
        match Outcome.ofName? text with
        | some outcome => .ok (terminal outcome)
        | none => .error text

@[simp] theorem canAdvanceTo_self (state : State) : state.canAdvanceTo state = true := by
  simp [canAdvanceTo]

/-- A decision is final. -/
theorem eq_of_canAdvanceTo_of_isTerminal {state next : State} (decided : state.isTerminal = true)
    (advances : state.canAdvanceTo next = true) : next = state := by
  by_cases same : state = next
  · exact same.symm
  · rw [canAdvanceTo, if_neg same, if_pos decided] at advances
    cases advances

end State

end Reattach
