import Reattach.Registry.Expire

/-!
# Putting termini in and taking them out

A terminus made elsewhere can be put into the table where its identifier is free.
If it is suspended, it expires as if its suspension began at that moment.  Taking a
terminus out leaves its records in the store.
-/

namespace Reattach.Registry

/-- Enter a terminus into the table; tells the expiry that its suspension calls for. -/
def seed (registry : Registry) (id : TerminusId) (terminus : Terminus) :
    Option PendingExpiry × Registry :=
  let identifier := terminus.identifier
  let (policy, timeout) := registry.config.resolve terminus.settings
  let entry := { terminus := id, scope := none, policy, timeout }
  let registry := { registry with entries := registry.entries.insert identifier.key entry }
  if terminus.phase = .suspended then
    (some ⟨identifier, terminus.epoch, timeout⟩,
      { registry with suspended := registry.suspended.insert identifier.key terminus.epoch })
  else
    (none, registry)

/-- Put a terminus, whose number is `id`, into the table. -/
def addKnown (registry : Registry) (id : TerminusId) (terminus : Terminus) : Bool × Registry :=
  match registry.entry? terminus.identifier with
  | some _ => (false, registry)
  | none =>
      match registry.finishPurge terminus.identifier with
      | (.error _, registry) => (false, registry)
      | (.ok (), registry) =>
          if terminus.phase = .expired then
            (false, registry)
          else
            match registry.seed id terminus with
            | (none, registry) => (true, registry)
            | (some pending, registry) => (true, (registry.arrange pending).2)

/-- Put a terminus into the table, unless it has expired, its identifier is taken or
records of an earlier terminus cannot be dropped; tells whether it is in. -/
def tryAdd (registry : Registry) (id : TerminusId) : Bool × Registry :=
  match registry.termini[id]? with
  | none => (false, registry)
  | some terminus => registry.addKnown id terminus

/-- Take the terminus of an identifier out of the table, together with any expiry that
waits for it. -/
def tryRemove (registry : Registry) (identifier : Identifier) :
    Option TerminusId × Registry :=
  (registry.find? identifier,
    { registry with
      suspended := registry.suspended.erase identifier.key
      entries := registry.entries.erase identifier.key })

end Reattach.Registry
