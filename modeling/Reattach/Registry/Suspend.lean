import Reattach.Registry.Expire

/-!
# Suspension

A terminus is suspended when its link goes away by an event that its policy
qualifies for: by the link's own detach, or together with all others when their
session or connection ends.
-/

namespace Reattach

/-- What a link's going away does to its terminus. -/
inductive SuspendOutcome where
  /-- There is no terminus for the link. -/
  | unknown
  /-- The terminus has another link by now, or none. -/
  | notAssociated
  /-- The event does not reach the policy; the terminus stays active. -/
  | retained
  /-- The terminus was suspended before. -/
  | alreadySuspended
  /-- Suspended, to expire later. -/
  | suspended
  /-- Expired on the spot. -/
  | expired
  deriving DecidableEq, Repr

def SuspendOutcome.name : SuspendOutcome → String
  | unknown => "Unknown"
  | notAssociated => "NotAssociated"
  | retained => "Retained"
  | alreadySuspended => "AlreadySuspended"
  | suspended => "Suspended"
  | expired => "Expired"

/-- An order in which the keys of a table are come upon: those with a lower number first.  A table
promises none, so whoever goes through one says in which order that is. -/
abbrev TableOrder := Identifier.Key → Nat

namespace TableOrder

/-- The order of the keys themselves. -/
def byKey : TableOrder := fun _ => 0

/-- Insert an entry before the first that does not come before it. -/
def insert (order : TableOrder) (entry : Identifier × Entry) :
    List (Identifier × Entry) → List (Identifier × Entry)
  | [] => [entry]
  | head :: rest =>
      if order head.1.key < order entry.1.key then head :: order.insert entry rest
      else entry :: head :: rest

/-- Entries in the order in which they are come upon; those with one number stay as they are. -/
def arrange (order : TableOrder) (entries : List (Identifier × Entry)) :
    List (Identifier × Entry) :=
  entries.foldr order.insert []

theorem perm_insert (order : TableOrder) (entry : Identifier × Entry)
    (entries : List (Identifier × Entry)) :
    (order.insert entry entries).Perm (entry :: entries) := by
  induction entries with
  | nil => exact .refl _
  | cons head rest ih =>
      rw [insert]
      split
      · exact (ih.cons head).trans (.swap entry head rest)
      · exact .refl _

theorem perm_arrange (order : TableOrder) (entries : List (Identifier × Entry)) :
    (order.arrange entries).Perm entries := by
  induction entries with
  | nil => exact .refl _
  | cons entry rest ih => exact (order.perm_insert entry (order.arrange rest)).trans (ih.cons entry)

end TableOrder

namespace Registry

/-- Suspend the terminus of an identifier that is in the table; tells the expiry this calls
for, if the terminus was active. -/
def suspendEntry (registry : Registry) (identifier : Identifier) (entry : Entry) :
    Option PendingExpiry × Registry :=
  match registry.suspendTerminus entry.terminus with
  | (none, registry) => (none, registry)
  | (some epoch, registry) =>
      (some ⟨identifier, epoch, entry.timeout⟩,
        { registry with suspended := registry.suspended.insert identifier.key epoch })

/-- Suspend the terminus of a link that goes away.  Only the link that the terminus has can
suspend it. -/
def suspendFor (registry : Registry) (link : Link) (id : LinkId) (departure : Departure) :
    SuspendOutcome × Registry :=
  match registry.entry? link.identifier with
  | none => (.unknown, registry)
  | some entry =>
      if !registry.isAssociated entry.terminus id then (.notAssociated, registry)
      else if !entry.policy.qualifies departure then (.retained, registry)
      else
        match registry.suspendEntry link.identifier entry with
        | (none, registry) => (.alreadySuspended, registry)
        | (some pending, registry) =>
            let (hasExpired, registry) := registry.arrange pending
            (if hasExpired then .expired else .suspended, registry)

/-- Tell the registry that a link goes away. -/
def suspend (registry : Registry) (id : LinkId) (departure : Departure) :
    SuspendOutcome × Registry :=
  match registry.links[id]? with
  | none => (.unknown, registry)
  | some link => registry.suspendFor link id departure

/-! ## Many at once -/

/-- The termini whose latest link was attached in the scope and whose policy the event
reaches, each with its identifier, listed by key. -/
def candidates (registry : Registry) (departure : Departure) (inScope : Scope → Bool) :
    List (Identifier × Entry) :=
  registry.entries.values.filterMap fun entry =>
    if entry.scope.any inScope && entry.policy.qualifies departure then
      registry.termini[entry.terminus]?.map fun terminus => (terminus.identifier, entry)
    else
      none

/-- Suspend the termini of a list; tells the expiries this calls for. -/
def suspendAll (registry : Registry) :
    List (Identifier × Entry) → List PendingExpiry × Registry
  | [] => ([], registry)
  | (identifier, entry) :: rest =>
      let (pending, registry) := registry.suspendEntry identifier entry
      let (others, registry) := suspendAll registry rest
      (pending.toList ++ others, registry)

/-- Arrange the expiries of a list. -/
def arrangeAll (registry : Registry) (pending : List PendingExpiry) : Registry :=
  pending.foldl (fun registry expiry => (registry.arrange expiry).2) registry

/-- Suspend all active termini of a scope that an event reaches, as they are come upon, and
only then expire those that have no time; tells how many were suspended. -/
def suspendScope (registry : Registry) (departure : Departure) (inScope : Scope → Bool)
    (order : TableOrder) : Nat × Registry :=
  let candidates := order.arrange (registry.candidates departure inScope)
  let (pending, registry) := registry.suspendAll candidates
  (pending.length, registry.arrangeAll pending)

/-- Tell the registry that a session ends. -/
def endSession (registry : Registry) (session : Session) (order : TableOrder) : Nat × Registry :=
  registry.suspendScope .sessionEnd (fun scope => scope.session == session) order

/-- Tell the registry that a connection is closed. -/
def closeConnection (registry : Registry) (connection : UInt64) (order : TableOrder) :
    Nat × Registry :=
  registry.suspendScope .connectionClose (fun scope => scope.connection == connection) order

end Registry

end Reattach
