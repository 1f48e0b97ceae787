import Reattach.Recovery
import Reattach.Terminus
import Reattach.Text.Quoted

/-!
# Values in full

The account of a recovery and of a terminus gives every part of a value under its
name, whether or not it is there.
-/

namespace Reattach

def Outcome.longForm : Outcome → String
  | accepted => "Accepted"
  | rejected => "Rejected"
  | released => "Released"
  | modified => "Modified"

def State.longForm : State → String
  | unknown => "PendingUnknown"
  | received => "PendingAcknowledged"
  | terminal outcome => "Terminal(" ++ outcome.longForm ++ ")"
  | transactionalPending => "TransactionalPending"
  | transactionalTerminal outcome => "TransactionalTerminal(" ++ outcome.longForm ++ ")"

/-- A truth value in words. -/
def truthName (value : Bool) : String := if value then "true" else "false"

/-- The long form of a value that may be absent. -/
def optionalForm : Option String → String
  | none => "None"
  | some form => "Some(" ++ form ++ ")"

def Flags.longForm (flags : Flags) : String :=
  "ResendFlags \x7b resume: " ++ truthName flags.resume ++ ", aborted: " ++
    truthName flags.aborted ++ ", settled: " ++ truthName flags.settled ++ ", state: " ++
    optionalForm (flags.state.map (·.longForm)) ++ " \x7d"

def Directive.longForm : Directive → String
  | .skip => "Skip"
  | .skipAndForget => "SkipAndForget"
  | .resend flags => "Resend(" ++ flags.longForm ++ ")"

def ReceiverAction.longForm : ReceiverAction → String
  | .discard => "Discard"
  | .await expected => "AwaitTransfer \x7b expected: " ++ expected.longForm ++ " \x7d"

def Decision.longForm : Decision → String
  | .send directive => "Send(" ++ directive.longForm ++ ")"
  | .receive action => "Receive(" ++ action.longForm ++ ")"

def Role.longForm : Role → String
  | sender => "Sender"
  | receiver => "Receiver"

def Identifier.longForm (identifier : Identifier) : String :=
  "LinkIdentifier \x7b name: " ++ Text.quoted identifier.name ++ ", role: " ++
    identifier.role.longForm ++ ", container_id: " ++
    optionalForm (identifier.container.map Text.quoted) ++ " \x7d"

def Phase.longForm : Phase → String
  | active => "Active"
  | suspended => "Suspended"
  | expired => "Expired"

/-- The long form of a terminus, without what is in its store. -/
def Terminus.longForm (terminus : Terminus) : String :=
  "LinkTerminus \x7b identifier: " ++ terminus.identifier.longForm ++ ", phase: " ++
    terminus.phase.longForm ++ ", epoch: " ++ toString terminus.epoch ++ ", linked: " ++
    truthName terminus.link.isSome ++ " \x7d"

end Reattach
