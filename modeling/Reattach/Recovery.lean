import Reattach.Deliveries
import Reattach.Reconcile

/-!
# Recovery after a reattach

When a link is attached again, each end learns what the other has not settled.  It
plans what to do about every delivery that either of them knows of, and then
carries the plan out on its records.
-/

namespace Reattach

/-- What one end does about a delivery. -/
inductive Decision where
  | send (directive : Directive)
  | receive (action : ReceiverAction)
  deriving DecidableEq

/-- The decision for one delivery, with the records it was taken on. -/
structure RecoveryStep where
  tag : Tag
  ours : Option State
  theirs : Option State
  decision : Decision
  deriving DecidableEq

/-- The decisions for all deliveries, in the order of their tags. -/
structure RecoveryPlan where
  identifier : Identifier
  steps : List RecoveryStep

/-! ## Planning -/

/-- What the end with the given role does about a delivery. -/
def decideFor (role : Role) (mode : SettleMode) (ours theirs : Option State) : Decision :=
  match role with
  | .sender => .send (reconcileInMode mode ours theirs)
  | .receiver => .receive (receiverAction mode ours theirs)

/-- The tags that either of two maps has, in order. -/
def tagsOfEither (ours theirs : Unsettled) : List Tag :=
  (SortedMap.ofList ((ours.keys ++ theirs.keys).map fun tag => (tag, ()))).keys

/-- The plan for two maps of unsettled deliveries. -/
def RecoveryPlan.ofMaps (identifier : Identifier) (mode : SettleMode)
    (ours theirs : Unsettled) : RecoveryPlan where
  identifier := identifier
  steps := (tagsOfEither ours theirs).map fun tag =>
    { tag, ours := ours.get? tag, theirs := theirs.get? tag,
      decision := decideFor identifier.role mode (ours.get? tag) (theirs.get? tag) }

/-- The plan of a terminus that learns what the other end has not settled. -/
def Storage.planRecovery (storage : Storage) (identifier : Identifier) (mode : SettleMode)
    (theirs : Unsettled) : Except StoreError RecoveryPlan × Storage :=
  match storage.unsettled identifier with
  | (.error error, storage) => (.error error, storage)
  | (.ok ours, storage) => (.ok (.ofMaps identifier mode ours theirs), storage)

/-- The transfer that a step sends, if it sends one. -/
def RecoveryStep.frame? (step : RecoveryStep) : Option Frame :=
  match step.decision with
  | .send directive => directive.frame? step.tag
  | .receive _ => none

/-- Whether a step sends a transfer. -/
def RecoveryStep.emitsFrame (step : RecoveryStep) : Bool :=
  match step.decision with
  | .send directive => directive.emitsFrame
  | .receive _ => false

/-- Number of transfers that a plan sends. -/
def RecoveryPlan.frameCount (plan : RecoveryPlan) : Nat :=
  plan.steps.countP (·.emitsFrame)

/-! ## Carrying out -/

namespace Storage

/-- Remove the record of a step, if there was one when the step was planned. -/
def dropPlanned (storage : Storage) (identifier : Identifier) (step : RecoveryStep) :
    Except StoreError Unit × Storage :=
  match step.ours with
  | none => (.ok (), storage)
  | some _ =>
      match storage.remove identifier step.tag with
      | (.error error, storage) => (.error error, storage)
      | (.ok _, storage) => (.ok (), storage)

/-- Mark the record of a delivery as sent again, if there still is one. -/
def markResumed (storage : Storage) (identifier : Identifier) (tag : Tag) :
    Except StoreError Unit × Storage :=
  match storage.retrieve identifier tag with
  | (.error error, storage) => (.error error, storage)
  | (.ok none, storage) => (.ok (), storage)
  | (.ok (some record), storage) => storage.save identifier { record with resumed := true }

/-- Do to the records what a step decides.  What is settled, given up or not sent loses its
record, and what is resumed otherwise is marked. -/
def carryOut (storage : Storage) (identifier : Identifier) (step : RecoveryStep) :
    Except StoreError Unit × Storage :=
  match step.decision with
  | .send directive =>
      if directive.removesRecord then
        storage.dropPlanned identifier step
      else if directive.flags?.any (·.resume) then
        storage.markResumed identifier step.tag
      else
        (.ok (), storage)
  | .receive .discard => storage.dropPlanned identifier step
  | .receive (.await _) => (.ok (), storage)

/-- Carry out steps one after the other, up to the first that fails; gives the transfers
to send. -/
def carryOutAll (storage : Storage) (identifier : Identifier) :
    List RecoveryStep → Except StoreError (List Frame) × Storage
  | [] => (.ok [], storage)
  | step :: rest =>
      match storage.carryOut identifier step with
      | (.error error, storage) => (.error error, storage)
      | (.ok (), storage) =>
          match carryOutAll storage identifier rest with
          | (.error error, storage) => (.error error, storage)
          | (.ok frames, storage) => (.ok (step.frame?.toList ++ frames), storage)

/-- Carry out a plan; gives the transfers to send, in the order of their tags. -/
def applyPlan (storage : Storage) (plan : RecoveryPlan) :
    Except StoreError (List Frame) × Storage :=
  storage.carryOutAll plan.identifier plan.steps

end Storage

end Reattach
