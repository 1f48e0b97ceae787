import Reattach.Registry.Basic
import Reattach.Text.Duration

/-!
# Waiting for a reattach

A wait ends well once its identifier has a terminus with a live link.  It looks at
the registry when it begins, and after that only when an event tells it to: at an
attach of its identifier, and whenever it missed events.  It ends badly if it is
cancelled, if its time is up, or if it hears that the terminus has expired; of
these the first that applies counts, before any event.
-/

namespace Reattach

/-- Why a wait ended without a reattach. -/
inductive WaitError where
  | timedOut (timeout : Nat)
  | cancelled
  | expired
  deriving DecidableEq

def WaitError.message : WaitError → String
  | timedOut timeout => "no reattach within " ++ Text.durationOfMillis timeout
  | cancelled => "reattach wait cancelled"
  | expired => "terminus expired before reattach"

/-- How a wait ended: with a terminus, or without. -/
abbrev WaitResult := Except WaitError TerminusId

/-- A wait that has begun. -/
structure Wait where
  identifier : Identifier
  timeout : Nat
  deadline : Nat
  /-- Position of the first event that the wait has not seen. -/
  position : Nat
  isCancelled : Bool := false

namespace Registry

/-- The terminus of an identifier, if it is active and has a live link. -/
def attached? (registry : Registry) (identifier : Identifier) : Option TerminusId :=
  match registry.find? identifier with
  | none => none
  | some id =>
      if registry.termini[id]?.any (·.phase == .active) && registry.hasLiveLink id then
        some id
      else
        none

end Registry

namespace Wait

/-- What an event means to a wait, if it ends it. -/
def react? (registry : Registry) (identifier : Identifier) : Event → Option WaitResult
  | .associated other =>
      if other == identifier then (registry.attached? identifier).map .ok else none
  | .expired other => if other == identifier then some (.error .expired) else none
  | .stolen _ => none
  | .suspended _ _ => none

/-- How a wait ends by what it reads, if it does.  Having missed events, it looks at the
registry first. -/
def read? (registry : Registry) (identifier : Identifier) (reading : Reading) :
    Option WaitResult :=
  let afresh := if reading.missed = 0 then none else registry.attached? identifier
  match afresh with
  | some id => some (.ok id)
  | none => reading.notices.findSome? fun notice => react? registry identifier notice.event

/-- Where a wait stands that goes on. -/
inductive Progress where
  | goesOn (wait : Wait)
  | ended (result : WaitResult)

/-- Let a wait see what has happened. -/
def poll (registry : Registry) (wait : Wait) : Progress :=
  if wait.isCancelled then .ended (.error .cancelled)
  else if wait.deadline ≤ registry.now then .ended (.error (.timedOut wait.timeout))
  else
    let reading := registry.channel.readFrom wait.position
    match read? registry wait.identifier reading with
    | some result => .ended result
    | none => .goesOn { wait with position := reading.next }

/-- Begin a wait, which may have been cancelled before. -/
def start (registry : Registry) (identifier : Identifier) (timeout : Nat) (isCancelled : Bool) :
    Progress :=
  match registry.attached? identifier with
  | some id => .ended (.ok id)
  | none =>
      poll registry
        { identifier, timeout, deadline := registry.wakeTime timeout
          position := registry.channel.subscribe, isCancelled }

end Wait

end Reattach
