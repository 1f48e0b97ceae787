import Reattach.Fault

/-!
# Records of unsettled deliveries

A record moves on from state to state and never back.  Once its delivery has been
sent again as a resumed transfer, it is marked, and waits to be settled afresh.
-/

namespace Reattach

/-- What is stored about one unsettled delivery. -/
structure Record where
  tag : Tag
  state : State
  resumed : Bool := false
  deriving DecidableEq

namespace Record

/-- The record moved on to another state. -/
def advance (record : Record) (next : State) : Except Fault Record :=
  if record.state.canAdvanceTo next then
    .ok { record with state := next }
  else
    .error (.backward record.tag record.state next)

/-- A record moves on exactly where its state may, and nothing else about it changes. -/
theorem advance_eq_ok_iff {record moved : Record} {next : State} :
    record.advance next = .ok moved ↔
      record.state.canAdvanceTo next = true ∧ moved = { record with state := next } := by
  unfold advance
  split
  · next can => simp [can, eq_comm]
  · next cannot => simp [cannot]

end Record

end Reattach
