import Reattach.Registry.Expire
import Reattach.Registry.Wait

/-!
# The passing of time

A watch is a registry with those that follow it: waits for a reattach, and a
listener that hears every event unless it falls behind.  Time stands still while
they catch up, and goes on from one instant at which something is due to the next,
or on to a later one: then what was due before is done late.
-/

namespace Reattach

/-- Where a waiter is. -/
inductive WaiterState where
  /-- It has not begun. -/
  | idle
  | waiting (wait : Wait)
  | ended (time : Nat) (result : WaitResult)

/-- A wait under a name. -/
structure Waiter where
  name : String
  identifier : Identifier
  timeout : Nat
  state : WaiterState := .idle
  isCancelled : Bool := false

/-- What the listener hears. -/
inductive Heard where
  | missed (time : Nat) (count : Nat)
  | notice (notice : Notice)

/-- A registry and those that follow it. -/
structure Watch where
  registry : Registry
  waiters : List Waiter := []
  /-- Position of the first event that the listener has not heard. -/
  position : Nat := 0
  /-- What the listener has heard and nobody has asked for yet. -/
  heard : List Heard := []

namespace Waiter

/-- The waiter after a step of its wait. -/
def after (waiter : Waiter) (time : Nat) : Wait.Progress → Waiter
  | .goesOn wait => { waiter with state := .waiting wait }
  | .ended result => { waiter with state := .ended time result }

/-- Let a waiter begin, or see what has happened. -/
def visit (registry : Registry) (waiter : Waiter) : Waiter :=
  match waiter.state with
  | .idle =>
      waiter.after registry.now
        (Wait.start registry waiter.identifier waiter.timeout waiter.isCancelled)
  | .waiting wait =>
      waiter.after registry.now
        (Wait.poll registry { wait with isCancelled := waiter.isCancelled })
  | .ended _ _ => waiter

/-- When the waiter's time is up, while it waits. -/
def deadline? (waiter : Waiter) : Option Nat :=
  match waiter.state with
  | .waiting wait => some wait.deadline
  | _ => none

/-- How the wait ended, if it has. -/
def result? (waiter : Waiter) : Option (Nat × WaitResult) :=
  match waiter.state with
  | .ended time result => some (time, result)
  | _ => none

end Waiter

namespace Watch

/-- Let the listener hear what has been published. -/
def listen (watch : Watch) : Watch :=
  let reading := watch.registry.channel.readFrom watch.position
  let lag := if reading.missed = 0 then [] else [.missed watch.registry.now reading.missed]
  { watch with
    position := reading.next
    heard := watch.heard ++ lag ++ reading.notices.map .notice }

/-- Let all that follow the registry catch up. -/
def settle (watch : Watch) : Watch :=
  { watch.listen with waiters := watch.waiters.map (·.visit watch.registry) }

/-- Run the timers that are due, and let all catch up. -/
def catchUp (watch : Watch) : Watch :=
  settle { watch with registry := watch.registry.runTimers }

/-- Go on to an instant, and do what is due at it. -/
def moveTo (watch : Watch) (time : Nat) : Watch :=
  catchUp { watch with registry := { watch.registry with now := time } }

/-- Insert a number into a strictly increasing list. -/
def insertInstant (time : Nat) : List Nat → List Nat
  | [] => [time]
  | head :: rest =>
      if time < head then time :: head :: rest
      else if time = head then head :: rest
      else head :: insertInstant time rest

/-- The instants before `target` at which something is due, in order. -/
def instantsBefore (watch : Watch) (target : Nat) : List Nat :=
  let due := watch.registry.timers.map (·.due) ++ watch.waiters.filterMap (·.deadline?)
  (due.filter (· < target)).foldl (fun instants time => insertInstant time instants) []

/-- The instants of a list at which the clock stops, from `now` on.  It may pass over any but the
last: `passesOver` tells whether, having stopped at one, it goes on past another. -/
def stops (passesOver : Nat → Nat → Bool) (now : Nat) : List Nat → List Nat
  | [] => []
  | [last] => [last]
  | time :: later =>
      if passesOver now time then stops passesOver now later
      else time :: stops passesOver time later

theorem stops_of_never (now : Nat) (instants : List Nat) :
    stops (fun _ _ => false) now instants = instants := by
  induction instants generalizing now with
  | nil => rfl
  | cons time later ih =>
      cases later with
      | nil => rfl
      | cons next rest => exact congrArg (time :: ·) (ih time)

/-- Let time pass while someone sleeps, from now on.  What is due at the instant of waking is
left undone, so the sleeper acts before it. -/
def sleepPassing (watch : Watch) (passesOver : Nat → Nat → Bool) (millis : Nat) : Watch :=
  let now := watch.registry.now
  let target := watch.registry.wakeTime millis
  let watch := watch.catchUp
  let watch := (stops passesOver now (watch.instantsBefore target)).foldl moveTo watch
  { watch with registry := { watch.registry with now := target } }

/-- Let time pass while someone sleeps, and let nothing be late. -/
def sleep (watch : Watch) (millis : Nat) : Watch := watch.sleepPassing (fun _ _ => false) millis

/-- Whether the waiter at an index has ended. -/
def hasEnded (watch : Watch) (index : Nat) : Bool :=
  watch.waiters[index]?.all (·.result?.isSome)

/-- Let time pass from one instant to the next until a waiter has ended. -/
def advanceUntilEnded (watch : Watch) (index : Nat) : List Nat → Watch
  | [] => watch
  | time :: later =>
      if watch.hasEnded index then watch else advanceUntilEnded (watch.moveTo time) index later

/-- Let time pass until a waiter has ended, which it has at the latest when its time is
up. -/
def awaitEnd (watch : Watch) (passesOver : Nat → Nat → Bool) (index : Nat) : Watch :=
  if watch.hasEnded index then
    watch
  else
    let watch := watch.catchUp
    let now := watch.registry.now
    let deadline := (watch.waiters[index]?.bind (·.deadline?)).getD now
    watch.advanceUntilEnded index (stops passesOver now (watch.instantsBefore (deadline + 1)))

/-! ## Those that follow -/

/-- Begin a wait under a name. -/
def await (watch : Watch) (name : String) (identifier : Identifier) (timeout : Nat) : Watch :=
  { watch with waiters := watch.waiters ++ [{ name, identifier, timeout }] }

/-- Ask the waits under a name to end. -/
def cancel (watch : Watch) (name : String) : Watch :=
  { watch with
    waiters := watch.waiters.map fun waiter =>
      if waiter.name = name then { waiter with isCancelled := true } else waiter }

/-- Take the waits that have ended, with when and how they did. -/
def takeEnded (watch : Watch) : List (Waiter × Nat × WaitResult) × Watch :=
  (watch.waiters.filterMap fun waiter => waiter.result?.map fun result => (waiter, result),
    { watch with waiters := watch.waiters.filter fun waiter => waiter.result?.isNone })

/-- Take what the listener has heard. -/
def takeHeard (watch : Watch) : List Heard × Watch := (watch.heard, { watch with heard := [] })

/-- Cancel all waits, and go on with a new registry at the same time. -/
def restart (watch : Watch) (config : Config) (storage : Storage) : Watch :=
  let ended := settle
    { watch with waiters := watch.waiters.map fun waiter => { waiter with isCancelled := true } }
  let registry := Registry.create config storage
  { registry := { registry with now := watch.registry.now, hasTimers := watch.registry.hasTimers }
    waiters := ended.waiters }

end Watch

end Reattach
