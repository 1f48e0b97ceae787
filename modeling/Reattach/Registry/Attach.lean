import Reattach.Registry.Expire

/-!
# Attaching links

A link is attached to the terminus of its identifier, which comes to be if there is
none.  A live link that holds the terminus already is closed in its favour, unless
the attach is exclusive: then it is refused.
-/

namespace Reattach.Registry

/-- Whether another live link holds the terminus of an identifier. -/
def isHeldByOther (registry : Registry) (identifier : Identifier) (link : LinkId) : Bool :=
  (registry.entry? identifier).any fun entry =>
    registry.hasLiveLink entry.terminus && !registry.isAssociated entry.terminus link

/-- The terminus of a link, newly made if the table has none, with the link's scope, expiry
and settings written to the table. -/
def enter (registry : Registry) (link : Link) : TerminusId × Registry :=
  let (policy, timeout) := registry.config.resolve link.settings
  let (terminus, registry) :=
    match registry.entry? link.identifier with
    | some entry => (entry.terminus, registry)
    | none =>
        registry.addTerminus
          { identifier := link.identifier, settings := link.settings, isShared := true }
  let entry := { terminus, scope := some link.scope, policy, timeout }
  let registry :=
    { registry with entries := registry.entries.insert link.identifier.key entry }
  (terminus, registry.updateSettings terminus link.settings)

/-- Close a link that has lost its terminus to a newer one.  Whether it closes in good
order makes no difference. -/
def steal (registry : Registry) (identifier : Identifier) (previous : LinkId) : Registry :=
  match registry.links[previous]? with
  | none => registry
  | some link =>
      if link.isOpen then
        let (_, closed) := link.takenOver (.linkStolen link.identifier)
        (registry.putLink previous closed).publish (.stolen identifier)
      else
        registry

/-- Attach a link that is entered in the table, and close the one it displaces. -/
def takeOver (registry : Registry) (link : Link) (id : LinkId) :
    Except RegistryError TerminusId × Registry :=
  let (terminus, registry) := registry.enter link
  match registry.associate terminus id with
  | (.error error, registry) => (.error error, registry)
  | (.ok displaced, registry) =>
      let registry :=
        { registry with suspended := registry.suspended.erase link.identifier.key }
      match displaced with
      | none => (.ok terminus, registry)
      | some previous => (.ok terminus, registry.steal link.identifier previous)

/-- Make an identifier that is not in the table ready for a new terminus. -/
def prepare (registry : Registry) (identifier : Identifier) : Except StoreError Unit × Registry :=
  match registry.entry? identifier with
  | some _ => (.ok (), registry)
  | none => registry.finishPurge identifier

/-- Attach a link, whose number is `id`. -/
def attach (registry : Registry) (link : Link) (id : LinkId) (exclusive : Bool) :
    Except RegistryError TerminusId × Registry :=
  match registry.prepare link.identifier with
  | (.error error, registry) => (.error (.store error), registry)
  | (.ok (), registry) =>
      if exclusive && registry.isHeldByOther link.identifier id then
        (.error (.fault (.duplicateTerminus link.identifier)), registry)
      else
        registry.takeOver link id

/-- Attach a link to the terminus of its identifier. -/
def register (registry : Registry) (id : LinkId) (exclusive : Bool) :
    Except RegistryError TerminusId × Registry :=
  match registry.links[id]? with
  | none => (.error .noSuchLink, registry)
  | some link => registry.attach link id exclusive

end Reattach.Registry
