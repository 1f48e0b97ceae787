import Reattach.Delivery.State
import Reattach.Delivery.Tag
import Reattach.Settings

/-!
# Reconciling one delivery

After a reattach both ends hold their own record of a delivery, or none.  The
table here decides from the two records what the sending end transmits, and so
what the receiving end has to expect.
-/

namespace Reattach

/-- The flags of a transfer, with the state that the sender asserts, if it asserts one. -/
structure Flags where
  resume : Bool
  aborted : Bool
  settled : Bool
  state : Option State
  deriving DecidableEq, Repr

/-- A transfer as it is sent, less its payload. -/
structure Frame where
  tag : Tag
  flags : Flags
  deriving DecidableEq, Repr

/-- What the sending end does about one delivery. -/
inductive Directive where
  /-- Send nothing and drop the record. -/
  | skip
  /-- Send nothing; the delivery counts as settled already. -/
  | skipAndForget
  /-- Send a transfer. -/
  | resend (flags : Flags)
  deriving DecidableEq, Repr

namespace Directive

/-- The delivery is new to the other end. -/
def fresh : Directive := resend ⟨false, false, false, none⟩

/-- The delivery is taken up where it was. -/
def resume : Directive := resend ⟨true, false, false, none⟩

/-- The delivery is given up. -/
def abort : Directive := resend ⟨true, true, false, none⟩

/-- Both ends agree on a state, and the delivery is over. -/
def settle (state : State) : Directive := resend ⟨true, false, true, some state⟩

/-- The sender holds to its state and leaves the delivery open. -/
def assert (state : State) : Directive := resend ⟨true, false, false, some state⟩

/-- The flags of the transfer that is sent, if one is. -/
def flags? : Directive → Option Flags
  | resend flags => some flags
  | _ => none

/-- Whether a transfer is sent. -/
def emitsFrame (directive : Directive) : Bool := directive.flags?.isSome

/-- Whether the record is gone once the directive is carried out.  A plain or asserting
transfer keeps it, to be settled afresh. -/
def removesRecord : Directive → Bool
  | resend flags => flags.aborted || flags.settled
  | _ => true

/-- The transfer sent for a delivery, if one is. -/
def frame? (directive : Directive) (tag : Tag) : Option Frame :=
  directive.flags?.map fun flags => ⟨tag, flags⟩

end Directive

/-- What is sent for a delivery of which both ends hold a record. -/
def reconcileHeld (sender receiver : State) : Directive :=
  match sender, receiver with
  | .terminal ours, .terminal theirs =>
      if ours = theirs then .settle sender else .assert sender
  | .terminal _, _ => .abort
  | .unknown, .unknown => .resume
  | .unknown, .terminal _ => .settle receiver
  | .received, .terminal _ => .settle receiver
  | .unknown, _ => .abort
  | .received, _ => .abort
  | .transactionalPending, _ => .abort
  | .transactionalTerminal ours, .transactionalTerminal theirs =>
      if ours = theirs then .settle sender else .assert sender
  | .transactionalTerminal _, _ => .abort

/-- What the sending end does about a delivery by the two ends' records of it. -/
def reconcile (sender receiver : Option State) : Directive :=
  match sender, receiver with
  | none, _ => .skip
  | some sender, none => if sender.isTerminal then .skip else .fresh
  | some sender, some receiver => reconcileHeld sender receiver

/-- The same, for a sender with a settle mode.  One that settles on sending counts all it
has sent as settled. -/
def reconcileInMode (mode : SettleMode) (sender receiver : Option State) : Directive :=
  match sender with
  | none => .skip
  | some _ => if mode = .onSend then .skipAndForget else reconcile sender receiver

/-- What the receiving end does about one delivery. -/
inductive ReceiverAction where
  /-- Nothing will come; drop the record. -/
  | discard
  /-- Keep the record until the transfer comes. -/
  | await (expected : Directive)
  deriving DecidableEq, Repr

/-- What the receiving end does, by what the sending end is going to do. -/
def receiverAction (mode : SettleMode) (receiver sender : Option State) : ReceiverAction :=
  let expected := reconcileInMode mode sender receiver
  if expected.emitsFrame then .await expected else .discard

/-- The records by which the table is shown: none, and one of every kind, with two
outcomes for the decided ones. -/
def sampleRecords : List (Option State) :=
  [none, some .unknown, some .received, some (.terminal .accepted), some (.terminal .rejected),
    some .transactionalPending, some (.transactionalTerminal .accepted),
    some (.transactionalTerminal .rejected)]

end Reattach
