import Reattach.Deliveries
import Reattach.Registry.Basic

/-!
# Snapshots of a registry

A snapshot lists the termini of the table by name, container and role, names and
containers in lower case and an absent container before any other.
-/

namespace Reattach

/-- What a snapshot says about a terminus. -/
structure Snapshot where
  identifier : Identifier
  phase : Phase
  policy : ExpiryPolicy
  timeoutMillis : Nat
  scope : Option Scope
  hasLiveLink : Bool
  suspendedAt : Option Nat
  /-- Number of records in the store, and zero if they cannot be read. -/
  unsettled : Nat

/-- What snapshots are ordered by. -/
structure SnapshotKey where
  name : String
  container : Option String
  role : Role
  deriving DecidableEq

namespace SnapshotKey

instance : Ord SnapshotKey where
  compare := compareLex (compareOn name) (compareLex (compareOn container) (compareOn role))

/-- The place of an identifier in the order. -/
def of (identifier : Identifier) : SnapshotKey :=
  ⟨Text.lower identifier.name, identifier.container.map Text.lower, identifier.role⟩

end SnapshotKey

namespace Registry

/-- What there is to say about a terminus of the table. -/
def describe (registry : Registry) (entry : Entry) (terminus : Terminus) :
    Snapshot × Registry :=
  let (records, storage) := registry.storage.retrieveAll terminus.identifier
  let unsettled :=
    match records with
    | .ok records => records.size
    | .error _ => 0
  ({ identifier := terminus.identifier, phase := terminus.phase, policy := entry.policy,
     timeoutMillis := entry.timeout, scope := entry.scope,
     hasLiveLink := registry.hasLiveLink entry.terminus,
     suspendedAt := terminus.suspendedAt, unsettled },
    { registry with storage })

/-- What there is to say about the termini of a list of entries. -/
def describeAll (registry : Registry) : List Entry → List Snapshot × Registry
  | [] => ([], registry)
  | entry :: rest =>
      match registry.termini[entry.terminus]? with
      | none => describeAll registry rest
      | some terminus =>
          let (snapshot, registry) := registry.describe entry terminus
          let (others, registry) := describeAll registry rest
          (snapshot :: others, registry)

/-- All termini of the table in order.  Where two have the same place, the table promises no order;
here they stand as its keys do. -/
def snapshot (registry : Registry) : List Snapshot × Registry :=
  let (snapshots, registry) := registry.describeAll registry.entries.values
  let placed := snapshots.map fun snapshot => (SnapshotKey.of snapshot.identifier, snapshot)
  (placed.mergeSort (fun left right => (compare left.1 right.1).isLE) |>.map Prod.snd, registry)

end Registry

end Reattach
