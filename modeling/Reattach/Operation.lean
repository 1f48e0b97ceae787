import Reattach.Recovery
import Reattach.Registry.Attach
import Reattach.Registry.Seed
import Reattach.Registry.Snapshot
import Reattach.Registry.Suspend
import Reattach.Store.Call
import Reattach.Watch

/-!
# Operations

Whatever is done to a registry, to the links, termini and records it works on, or to
the time it lives in, is an operation, and every operation has a reply.  A run is a
list of operations; after each of them all that follow the registry catch up, while
the time stands still.
-/

namespace Reattach

/-- Something that is done to a watch. -/
inductive Operation where
  /-- A link comes to be, open or not as it says. -/
  | openLink (link : Link)
  /-- A link is closed by its owner. -/
  | closeLink (link : LinkId)
  /-- From now on a link does, or does not, fail to close when it is taken over. -/
  | failOnSteal (link : LinkId) (fails : Bool)
  | register (link : LinkId) (exclusive : Bool)
  | suspend (link : LinkId) (departure : Departure)
  /-- A session ends, and its termini are come upon in an order. -/
  | endSession (session : Session) (order : TableOrder)
  /-- A connection is closed, and its termini are come upon in an order. -/
  | closeConnection (connection : UInt64) (order : TableOrder)
  | expire (identifier : Identifier)
  | tryAdd (terminus : TerminusId)
  | tryRemove (identifier : Identifier)
  | snapshot
  /-- A terminus comes to be that the registry knows nothing of. -/
  | createTerminus (identifier : Identifier) (settings : Settings)
  | updateSettings (terminus : TerminusId) (settings : Settings)
  /-- A link is attached to a terminus without the registry being told. -/
  | associate (terminus : TerminusId) (link : LinkId)
  /-- A terminus is suspended without the registry being told. -/
  | suspendTerminus (terminus : TerminusId)
  /-- A terminus expires, in the given epoch if one is given, without the registry being
  told. -/
  | expireTerminus (terminus : TerminusId) (epoch : Option Nat)
  | noteDelivery (terminus : TerminusId) (tag : Tag) (state : State)
  | settleDelivery (terminus : TerminusId) (tag : Tag)
  | planRecovery (terminus : TerminusId) (theirs : Unsettled)
  | applyPlan (plan : RecoveryPlan)
  /-- The store is called by someone else. -/
  | callStore (call : StoreCall)
  /-- The store is going to have these outages instead of those it was going to have. -/
  | setOutages (outages : Outages)
  /-- Time passes. -/
  | wait (millis : Nat)
  /-- A wait for a reattach begins under a name. -/
  | await (name : String) (identifier : Identifier) (timeout : Nat)
  /-- The waits under a name are asked to end. -/
  | cancel (name : String)

/-- What an operation replies. -/
inductive Reply where
  | done
  | refused (error : RegistryError)
  | link (id : LinkId)
  | terminus (id : Option TerminusId)
  /-- The other link that a terminus had until now. -/
  | displaced (link : Option LinkId)
  | outcome (outcome : SuspendOutcome)
  /-- The epoch that begins, if one does. -/
  | epoch (epoch : Option Nat)
  | holds (holds : Bool)
  | count (count : Nat)
  | snapshots (snapshots : List Snapshot)
  | plan (plan : RecoveryPlan)
  | frames (frames : List Frame)
  | stored (reply : Except StoreError StoreReply)

namespace Reply

/-- The reply of an operation that gives a terminus or an error. -/
def ofTerminus : Except RegistryError TerminusId → Reply
  | .ok found => terminus (some found)
  | .error error => refused error

def ofDisplaced : Except RegistryError (Option LinkId) → Reply
  | .ok previous => displaced previous
  | .error error => refused error

def ofPlan : Except StoreError RecoveryPlan → Reply
  | .ok made => plan made
  | .error error => refused (.store error)

def ofFrames : Except StoreError (List Frame) → Reply
  | .ok sent => frames sent
  | .error error => refused (.store error)

end Reply

namespace Watch

def withRegistry (watch : Watch) (result : Reply × Registry) : Reply × Watch :=
  (result.1, { watch with registry := result.2 })

def withStorage (watch : Watch) (result : Reply × Storage) : Reply × Watch :=
  watch.withRegistry (result.1, { watch.registry with storage := result.2 })

/-- The reply of an operation on a terminus, which there has to be. -/
def onTerminus (watch : Watch) (id : TerminusId) (act : Terminus → Reply × Watch) :
    Reply × Watch :=
  match watch.registry.termini[id]? with
  | none => (.refused .noSuchTerminus, watch)
  | some terminus => act terminus

/-- The reply of an operation on a link, which there has to be. -/
def onLink (watch : Watch) (id : LinkId) (act : Link → Reply × Watch) : Reply × Watch :=
  match watch.registry.links[id]? with
  | none => (.refused .noSuchLink, watch)
  | some link => act link

/-- Carry out an operation, and tell what it replies. -/
def perform (watch : Watch) : Operation → Reply × Watch
  | .openLink link => watch.withRegistry ((watch.registry.openLink link).map .link id)
  | .closeLink link => watch.withRegistry (.done, watch.registry.closeLink link)
  | .failOnSteal id failsOnSteal =>
      watch.onLink id fun link =>
        watch.withRegistry (.done, watch.registry.putLink id { link with failsOnSteal })
  | .register link exclusive =>
      watch.withRegistry ((watch.registry.register link exclusive).map .ofTerminus id)
  | .suspend link departure =>
      watch.withRegistry ((watch.registry.suspend link departure).map .outcome id)
  | .endSession session order =>
      watch.withRegistry ((watch.registry.endSession session order).map .count id)
  | .closeConnection connection order =>
      watch.withRegistry ((watch.registry.closeConnection connection order).map .count id)
  | .expire identifier => watch.withRegistry ((watch.registry.expire identifier).map .holds id)
  | .tryAdd terminus => watch.withRegistry ((watch.registry.tryAdd terminus).map .holds id)
  | .tryRemove identifier =>
      watch.withRegistry ((watch.registry.tryRemove identifier).map .terminus id)
  | .snapshot => watch.withRegistry (watch.registry.snapshot.map .snapshots id)
  | .createTerminus identifier settings =>
      let terminus := { identifier, settings, isShared := false }
      watch.withRegistry ((watch.registry.addTerminus terminus).map (.terminus ∘ some) id)
  | .updateSettings terminus settings =>
      watch.withRegistry (.done, watch.registry.updateSettings terminus settings)
  | .associate terminus link =>
      watch.withRegistry ((watch.registry.associate terminus link).map .ofDisplaced id)
  | .suspendTerminus terminus =>
      watch.withRegistry ((watch.registry.suspendTerminus terminus).map .epoch id)
  | .expireTerminus terminus epoch =>
      watch.withRegistry ((watch.registry.expireTerminus terminus epoch).map .holds id)
  | .noteDelivery terminus tag state =>
      watch.onTerminus terminus fun terminus =>
        watch.withStorage <|
          (watch.registry.storage.noteDelivery terminus.identifier tag state).map
            (fun result => .stored (result.map fun _ => .saved)) id
  | .settleDelivery terminus tag =>
      watch.onTerminus terminus fun terminus =>
        watch.withStorage <|
          (watch.registry.storage.call (.remove terminus.identifier tag)).map .stored id
  | .planRecovery terminus theirs =>
      watch.onTerminus terminus fun terminus =>
        watch.withStorage <|
          (watch.registry.storage.planRecovery terminus.identifier terminus.settings.settleMode
            theirs).map .ofPlan id
  | .applyPlan plan => watch.withStorage ((watch.registry.storage.applyPlan plan).map .ofFrames id)
  | .callStore call => watch.withStorage ((watch.registry.storage.call call).map .stored id)
  | .setOutages outages => watch.withStorage (.done, { watch.registry.storage with outages })
  | .wait millis => (.done, (watch.sleep millis).catchUp)
  | .await name identifier timeout => (.done, watch.await name identifier timeout)
  | .cancel name => (.done, watch.cancel name)

/-- Carry out an operation, and let all that follow the registry catch up. -/
def step (watch : Watch) (operation : Operation) : Reply × Watch :=
  (watch.perform operation).map id settle

/-- Carry out operations one after the other, and tell what they reply. -/
def run (watch : Watch) : List Operation → List Reply × Watch
  | [] => ([], watch)
  | operation :: rest =>
      let (reply, watch) := watch.step operation
      let (replies, watch) := run watch rest
      (reply :: replies, watch)

theorem run_append (watch : Watch) (first second : List Operation) :
    watch.run (first ++ second) =
      ((watch.run first).1 ++ ((watch.run first).2.run second).1,
        ((watch.run first).2.run second).2) := by
  induction first generalizing watch with
  | nil => rfl
  | cons operation rest ih => simp only [List.cons_append, run, ih]

end Watch

end Reattach
