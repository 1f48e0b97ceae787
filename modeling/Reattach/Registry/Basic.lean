import Reattach.Config
import Reattach.Event
import Reattach.Link
import Reattach.Store
import Reattach.Terminus

/-!
# A registry of link termini

The registry holds a table of termini by identifier, the identifiers whose terminus
is suspended, and the identifiers of expired termini whose records could not be
dropped yet.  Links and termini are shared with those who use the registry, so
they are known by number; a number that was never given out names nothing, and an
operation on it changes nothing.

Time is what the registry is told it is.  It moves only in `Reattach.Watch`.  What is to
happen after a while is due at the end of a sleep that begins at once.
-/

namespace Reattach

/-- What the table says about a terminus. -/
structure Entry where
  terminus : TerminusId
  /-- Where the latest link was attached; none while there was no link. -/
  scope : Option Scope
  policy : ExpiryPolicy
  /-- How long the terminus stays suspended, in milliseconds. -/
  timeout : Nat
  deriving DecidableEq

/-- An expiry arranged for a terminus that was suspended in an epoch. -/
structure Timer where
  identifier : Identifier
  epoch : Nat
  due : Nat

/-- A table of termini with all that it works on. -/
structure Registry where
  config : Config
  storage : Storage
  /-- Whether there is someone to set timers with. -/
  hasTimers : Bool := true
  /-- Milliseconds since the beginning. -/
  now : Nat := 0
  links : Array Link := #[]
  termini : Array Terminus := #[]
  entries : SortedMap Identifier.Key Entry := ∅
  /-- The suspended termini, and the epoch in which each is to expire. -/
  suspended : SortedMap Identifier.Key Nat := ∅
  /-- Expired termini that still have records. -/
  purging : SortedMap Identifier.Key Unit := ∅
  channel : Channel
  /-- Timers that have not run yet, the earliest set first. -/
  timers : List Timer := []

/-- Why an operation of the registry fails. -/
inductive RegistryError where
  | fault (cause : Fault)
  | store (cause : StoreError)
  | noSuchLink
  | noSuchTerminus

def RegistryError.message : RegistryError → String
  | fault cause => cause.message
  | store cause => "delivery store: " ++ cause.message
  | noSuchLink => "no such link"
  | noSuchTerminus => "no such terminus"

namespace Registry

/-- A registry without termini. -/
def create (config : Config) (storage : Storage) : Registry :=
  { config, storage, channel := { capacity := config.eventsKept } }

/-- The end of a sleep that begins now. -/
def wakeTime (registry : Registry) (millis : Nat) : Nat :=
  registry.now + millis

/-! ## Links and termini by number -/

/-- Give a link a number. -/
def openLink (registry : Registry) (link : Link) : LinkId × Registry :=
  (registry.links.size, { registry with links := registry.links.push link })

/-- Give a terminus a number. -/
def addTerminus (registry : Registry) (terminus : Terminus) : TerminusId × Registry :=
  (registry.termini.size, { registry with termini := registry.termini.push terminus })

/-- Put another link in the place of one. -/
def putLink (registry : Registry) (id : LinkId) (link : Link) : Registry :=
  { registry with links := registry.links.setIfInBounds id link }

/-- Put another terminus in the place of one. -/
def putTerminus (registry : Registry) (id : TerminusId) (terminus : Terminus) : Registry :=
  { registry with termini := registry.termini.setIfInBounds id terminus }

/-- Close a link, as when it is detached. -/
def closeLink (registry : Registry) (id : LinkId) : Registry :=
  match registry.links[id]? with
  | none => registry
  | some link => registry.putLink id link.close

/-- Whether a link is open. -/
def isOpen (registry : Registry) (id : LinkId) : Bool :=
  registry.links[id]?.any (·.isOpen)

/-- The link of a terminus. -/
def linkOf (registry : Registry) (id : TerminusId) : Option LinkId :=
  registry.termini[id]?.bind (·.link)

/-- Whether a terminus has an open link. -/
def hasLiveLink (registry : Registry) (id : TerminusId) : Bool :=
  (registry.linkOf id).any registry.isOpen

/-- Whether a link is the one of a terminus. -/
def isAssociated (registry : Registry) (id : TerminusId) (link : LinkId) : Bool :=
  registry.linkOf id == some link

/-! ## The table -/

/-- What the table says about an identifier. -/
def entry? (registry : Registry) (identifier : Identifier) : Option Entry :=
  registry.entries.get? identifier.key

/-- The terminus in the table for an identifier. -/
def find? (registry : Registry) (identifier : Identifier) : Option TerminusId :=
  (registry.entry? identifier).map (·.terminus)

/-- Whether the table has a suspended terminus for an identifier. -/
def isSuspended (registry : Registry) (identifier : Identifier) : Bool :=
  registry.suspended.contains identifier.key

/-- Whether an expired terminus of the identifier still has records. -/
def isPurgePending (registry : Registry) (identifier : Identifier) : Bool :=
  registry.purging.contains identifier.key

/-! ## The life of one terminus

What happens to a terminus is published if it shares the registry's channel. -/

/-- Publish an event. -/
def publish (registry : Registry) (event : Event) : Registry :=
  { registry with channel := registry.channel.publish registry.now event }

/-- Put a terminus in its new state in place, and publish what happened to it. -/
def moveTerminus (registry : Registry) (id : TerminusId) (terminus : Terminus)
    (event : Event) : Registry :=
  let registry := registry.putTerminus id terminus
  if terminus.isShared then registry.publish event else registry

/-- Attach a link to a terminus; tells which other link it had. -/
def associate (registry : Registry) (id : TerminusId) (link : LinkId) :
    Except RegistryError (Option LinkId) × Registry :=
  match registry.termini[id]? with
  | none => (.error .noSuchTerminus, registry)
  | some terminus =>
      match terminus.associate link with
      | .error fault => (.error (.fault fault), registry)
      | .ok (displaced, terminus) =>
          (.ok displaced, registry.moveTerminus id terminus (.associated terminus.identifier))

/-- Suspend a terminus; tells the epoch that begins, if it was active. -/
def suspendTerminus (registry : Registry) (id : TerminusId) : Option Nat × Registry :=
  match registry.termini[id]?.bind (·.suspend registry.now) with
  | none => (none, registry)
  | some terminus =>
      (some terminus.epoch,
        registry.moveTerminus id terminus (.suspended terminus.identifier terminus.epoch))

/-- Expire a terminus, in the given epoch if one is given; tells whether it did. -/
def expireTerminus (registry : Registry) (id : TerminusId) (epoch : Option Nat) :
    Bool × Registry :=
  match registry.termini[id]?.bind (·.expire epoch) with
  | none => (false, registry)
  | some terminus => (true, registry.moveTerminus id terminus (.expired terminus.identifier))

/-- Replace the settings of a terminus. -/
def updateSettings (registry : Registry) (id : TerminusId) (settings : Settings) : Registry :=
  match registry.termini[id]? with
  | none => registry
  | some terminus => registry.putTerminus id { terminus with settings }

end Registry

end Reattach
