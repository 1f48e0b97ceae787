import Reattach.Registry.Basic

/-!
# Expiry

A suspended terminus expires when it is told to, when its timer runs in the epoch
it was set for, or on the spot if it has no time at all.  It leaves the table and
its records are dropped.  Records that the store would not drop are dropped before
the identifier is used again.
-/

namespace Reattach.Registry

/-- Drop the records of an expired terminus, or remember that they are to be dropped. -/
def dropRecords (registry : Registry) (identifier : Identifier) : Registry :=
  match registry.storage.removeAll identifier with
  | (.ok _, storage) => { registry with storage }
  | (.error _, storage) =>
      { registry with storage, purging := registry.purging.insert identifier.key () }

/-- Take the terminus of an identifier out of the table if it is suspended, in the given
epoch if one is given; tells whether it was. -/
def expireEpoch (registry : Registry) (identifier : Identifier) (epoch : Option Nat) :
    Bool × Registry :=
  match registry.suspended.get? identifier.key with
  | none => (false, registry)
  | some current =>
      if epoch.all (· == current) then
        let registry := { registry with suspended := registry.suspended.erase identifier.key }
        match registry.entries.get? identifier.key with
        | none => (false, registry)
        | some entry =>
            let registry := { registry with entries := registry.entries.erase identifier.key }
            let registry := (registry.expireTerminus entry.terminus (some current)).2
            (true, registry.dropRecords identifier)
      else
        (false, registry)

/-- Expire the terminus of an identifier now, if it is suspended. -/
def expire (registry : Registry) (identifier : Identifier) : Bool × Registry :=
  registry.expireEpoch identifier none

/-- Drop the records that an expired terminus of the identifier has left. -/
def finishPurge (registry : Registry) (identifier : Identifier) :
    Except StoreError Unit × Registry :=
  if registry.isPurgePending identifier then
    match registry.storage.removeAll identifier with
    | (.error error, storage) => (.error error, { registry with storage })
    | (.ok _, storage) =>
        (.ok (), { registry with storage, purging := registry.purging.erase identifier.key })
  else
    (.ok (), registry)

/-! ## Expiry after a while -/

/-- The expiry that a suspension calls for. -/
structure PendingExpiry where
  identifier : Identifier
  epoch : Nat
  delay : Nat

/-- Set a timer. -/
def setTimer (registry : Registry) (pending : PendingExpiry) : Registry :=
  if registry.hasTimers then
    let timer := ⟨pending.identifier, pending.epoch, registry.wakeTime pending.delay⟩
    { registry with timers := registry.timers ++ [timer] }
  else
    registry

/-- Expire on the spot where there is no delay, and set a timer where there is one; tells
whether the terminus expired. -/
def arrange (registry : Registry) (pending : PendingExpiry) : Bool × Registry :=
  if pending.delay = 0 then
    registry.expireEpoch pending.identifier (some pending.epoch)
  else
    (false, registry.setTimer pending)

/-- Run the timers that are due, in the order in which they were set. -/
def runTimers (registry : Registry) : Registry :=
  let (due, later) := registry.timers.partition fun timer => timer.due ≤ registry.now
  due.foldl (fun registry timer =>
    (registry.expireEpoch timer.identifier (some timer.epoch)).2)
    { registry with timers := later }

end Reattach.Registry
