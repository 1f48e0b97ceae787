import Reattach.Delivery.Record
import Reattach.Exchange.Names
import Reattach.Reconcile

/-!
# JSON forms of deliveries and directives

A tag is exchanged in hexadecimal digits, so that it can name a member.  A state is
an object that says its kind and, if the kind has one, its outcome.
-/

namespace Reattach

def Tag.toJson (tag : Tag) : Json := .str tag.toHex

def Tag.ofJson? : Json → Option Tag
  | .str text => Tag.ofHex? text
  | _ => none

/-- The kinds of states. -/
inductive State.Kind where
  | pendingUnknown
  | pendingAcknowledged
  | terminal
  | transactionalPending
  | transactionalTerminal
  deriving DecidableEq

def State.Kind.name : State.Kind → String
  | pendingUnknown => "pending_unknown"
  | pendingAcknowledged => "pending_acknowledged"
  | terminal => "terminal"
  | transactionalPending => "transactional_pending"
  | transactionalTerminal => "transactional_terminal"

def State.Kind.byName : List (String × State.Kind) :=
  [pendingUnknown, pendingAcknowledged, terminal, transactionalPending,
    transactionalTerminal].map fun kind => (kind.name, kind)

def State.kind : State → State.Kind
  | unknown => .pendingUnknown
  | received => .pendingAcknowledged
  | terminal _ => .terminal
  | transactionalPending => .transactionalPending
  | transactionalTerminal _ => .transactionalTerminal

/-- A state by its kind and outcome. -/
def State.toJson (state : State) : Json :=
  let kind := ("kind", .str state.kind.name)
  match state.outcome? with
  | some outcome => .obj [kind, ("outcome", outcome.toJson)]
  | none => .obj [kind]

/-- The state of a kind without outcome, where one given as null does no harm. -/
def State.withoutOutcome (members : Members) (state : State) : Option State :=
  match members.find? "outcome" with
  | none => if members.positional then none else some state
  | some .null => some state
  | some _ => none

/-- The state of a kind and an outcome.  An object gives the kind as a named value. -/
def State.ofJson? (timing : Json.Timing) (value : Json) : Option State := do
  let members ← Members.ofJson? ["kind", "outcome"] value
  let readKind := if members.positional then Json.readKind else Json.readName
  let outcome := members.required "outcome" (Outcome.ofJson? timing)
  match ← members.required "kind" (readKind State.Kind.byName timing) with
  | .pendingUnknown => State.withoutOutcome members .unknown
  | .pendingAcknowledged => State.withoutOutcome members .received
  | .transactionalPending => State.withoutOutcome members .transactionalPending
  | .terminal => outcome.map .terminal
  | .transactionalTerminal => outcome.map .transactionalTerminal

def Record.toJson (record : Record) : Json :=
  .obj [("tag", record.tag.toJson), ("state", record.state.toJson),
    ("resumed", .bool record.resumed)]

/-- The record of a tag and a state, not resumed unless it says so. -/
def Record.ofJson? (value : Json) : Option Record := do
  let members ← Members.ofJson? ["tag", "state", "resumed"] value
  let tag ← members.required "tag" Tag.ofJson?
  let state ← members.required "state" (State.ofJson? .direct)
  let resumed ← members.orElse "resumed" Json.readBool false
  some { tag, state, resumed }

/-- An unsettled map as an object with a member for each tag. -/
def Unsettled.toJson (unsettled : Unsettled) : Json :=
  .obj (unsettled.toList.map fun entry => (entry.1.toHex, entry.2.toJson))

/-- The unsettled map of an object whose members are named by tags.  Of two spellings of
one tag the later counts. -/
def Unsettled.ofJson? (value : Json) : Option Unsettled := do
  let members ← Json.readDictionary (State.ofJson? .direct) value
  let entries ← members.mapM fun member => (Tag.ofHex? member.1).map fun tag => (tag, member.2)
  some (SortedMap.ofList entries)

def Flags.members (flags : Flags) : List (String × Json) :=
  [("resume", .bool flags.resume), ("aborted", .bool flags.aborted),
    ("settled", .bool flags.settled), ("state", .ofOption State.toJson flags.state)]

def Flags.toJson (flags : Flags) : Json := .obj flags.members

def Flags.fields : List String := ["resume", "aborted", "settled", "state"]

/-- Flags among the members of a record. -/
def Flags.ofMembers? (timing : Json.Timing) (members : Members) : Option Flags := do
  let resume ← members.required "resume" Json.readBool
  let aborted ← members.required "aborted" Json.readBool
  let settled ← members.required "settled" Json.readBool
  let state ← members.nullable "state" (State.ofJson? timing)
  some { resume, aborted, settled, state }

/-- The flags of an object that gives all but the state. -/
def Flags.ofJson? (timing : Json.Timing) (value : Json) : Option Flags := do
  Flags.ofMembers? timing (← Members.ofJson? Flags.fields value)

def Frame.toJson (frame : Frame) : Json := .obj (("tag", frame.tag.toJson) :: frame.flags.members)

def Frame.ofJson? (value : Json) : Option Frame := do
  let members ← Members.ofJson? ("tag" :: Flags.fields) value
  let tag ← members.required "tag" Tag.ofJson?
  let flags ← Flags.ofMembers? .direct members
  some { tag, flags }

/-- A directive by its name, followed by the flags of what is sent. -/
def Directive.toJson : Directive → Json
  | .skip => .obj [("directive", .str "skip")]
  | .skipAndForget => .obj [("directive", .str "skip_and_forget")]
  | .resend flags => .obj (("directive", .str "resend") :: flags.members)

/-- The directive of a name and, for one that sends, of flags. -/
def Directive.ofJson? : Json.Timing → Json → Option Directive :=
  Json.readTagged "directive"
    [("skip", Json.readFieldless .skip), ("skip_and_forget", Json.readFieldless .skipAndForget),
      ("resend", fun rest => (Flags.ofJson? .deferred rest).map .resend)]

/-- A receiver's action by its name, followed by what it expects. -/
def ReceiverAction.toJson : ReceiverAction → Json
  | .discard => .obj [("action", .str "discard")]
  | .await expected => .obj [("action", .str "await_transfer"), ("expected", expected.toJson)]

/-- An action that waits, by what it expects. -/
def ReceiverAction.awaitOfJson? (value : Json) : Option ReceiverAction := do
  let members ← Members.ofJson? ["expected"] value
  (members.required "expected" (Directive.ofJson? .deferred)).map .await

/-- The action of a name and, for one that waits, of a directive. -/
def ReceiverAction.ofJson? : Json → Option ReceiverAction :=
  Json.readTagged "action"
    [("discard", Json.readFieldless .discard), ("await_transfer", awaitOfJson?)] .direct

end Reattach
