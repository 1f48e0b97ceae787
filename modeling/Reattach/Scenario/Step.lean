import Reattach.Exchange.Attachments

/-!
# Scenarios

A scenario is a configuration and a list of steps, each of which names what is done
and to which link.  Links go by the names they were attached under.
-/

namespace Reattach

/-- How a link is attached. -/
structure AttachStep where
  link : String
  role : Role
  container : Option String
  connection : UInt64
  channel : UInt16
  /-- Symbol of the expiry policy that the link's address asks for. -/
  expiryPolicy : Option String
  timeoutSecs : UInt32
  settleMode : SettleMode
  /-- Whether the attach is refused where it would displace a live link. -/
  exclusive : Bool
  deriving DecidableEq

/-- A step of a scenario. -/
inductive ScenarioStep where
  | attach (step : AttachStep)
  | deliver (link tag state : String)
  | settle (link tag : String)
  | detach (link : String) (departure : Departure)
  | endSession (session : Session)
  | closeConnection (connection : UInt64)
  | wait (millis : UInt64)
  | expire (link : String)
  /-- Recover against what the other end has not settled, states by tags. -/
  | recover (link : String) (remote : SortedMap String String)
  | awaitReattach (link : String) (timeoutMillis : UInt64)
  | snapshot

/-- A configuration and what is done under it. -/
structure Scenario where
  config : Config
  steps : List ScenarioStep

/-! ## Reading -/

/-- The connection that a step is about if it does not say. -/
def ScenarioStep.defaultConnection : UInt64 := 1

/-- An attach by its fields. -/
def AttachStep.ofJson? (value : Json) : Option AttachStep := do
  let members ← Members.ofJson? ["link", "role", "container", "connection", "channel",
    "expiry_policy", "timeout_secs", "settle_mode", "exclusive"] value
  let link ← members.required "link" Json.readString
  let role ← members.orElse "role" (Role.ofJson? .deferred) .sender
  let container ← members.nullable "container" Json.readString
  let connection ← members.orElse "connection" Json.readUInt64 ScenarioStep.defaultConnection
  let channel ← members.orElse "channel" Json.readUInt16 0
  let expiryPolicy ← members.nullable "expiry_policy" Json.readString
  let timeoutSecs ← members.orElse "timeout_secs" Json.readUInt32 0
  let settleMode ← members.orElse "settle_mode" (SettleMode.ofJson? .deferred) default
  let exclusive ← members.orElse "exclusive" Json.readBool false
  some { link, role, container, connection, channel, expiryPolicy, timeoutSecs, settleMode,
         exclusive }

namespace ScenarioStep

def deliverOfJson? (value : Json) : Option ScenarioStep := do
  let members ← Members.ofJson? ["link", "tag", "state"] value
  let link ← members.required "link" Json.readString
  let tag ← members.required "tag" Json.readString
  let state ← members.required "state" Json.readString
  some (.deliver link tag state)

def settleOfJson? (value : Json) : Option ScenarioStep := do
  let members ← Members.ofJson? ["link", "tag"] value
  let link ← members.required "link" Json.readString
  let tag ← members.required "tag" Json.readString
  some (.settle link tag)

def detachOfJson? (value : Json) : Option ScenarioStep := do
  let members ← Members.ofJson? ["link", "event"] value
  let link ← members.required "link" Json.readString
  let departure ← members.orElse "event" (Departure.ofJson? .deferred) .linkDetach
  some (.detach link departure)

def endSessionOfJson? (value : Json) : Option ScenarioStep := do
  let members ← Members.ofJson? ["connection", "channel"] value
  let connection ← members.orElse "connection" Json.readUInt64 defaultConnection
  let channel ← members.orElse "channel" Json.readUInt16 0
  some (.endSession { connection, channel })

def closeConnectionOfJson? (value : Json) : Option ScenarioStep := do
  let members ← Members.ofJson? ["connection"] value
  (members.orElse "connection" Json.readUInt64 defaultConnection).map .closeConnection

def waitOfJson? (value : Json) : Option ScenarioStep := do
  let members ← Members.ofJson? ["ms"] value
  (members.required "ms" Json.readUInt64).map .wait

def expireOfJson? (value : Json) : Option ScenarioStep := do
  let members ← Members.ofJson? ["link"] value
  (members.required "link" Json.readString).map .expire

def recoverOfJson? (value : Json) : Option ScenarioStep := do
  let members ← Members.ofJson? ["link", "remote"] value
  let link ← members.required "link" Json.readString
  let remote ← members.orElse "remote" Settings.propertiesOfJson? ∅
  some (.recover link remote)

def awaitReattachOfJson? (value : Json) : Option ScenarioStep := do
  let members ← Members.ofJson? ["link", "timeout_ms"] value
  let link ← members.required "link" Json.readString
  let timeoutMillis ← members.required "timeout_ms" Json.readUInt64
  some (.awaitReattach link timeoutMillis)

/-- How the steps of each action are read. -/
def byAction : List (String × (Json → Option ScenarioStep)) :=
  [("attach", fun rest => (AttachStep.ofJson? rest).map .attach), ("deliver", deliverOfJson?),
    ("settle", settleOfJson?), ("detach", detachOfJson?), ("end_session", endSessionOfJson?),
    ("close_connection", closeConnectionOfJson?), ("wait", waitOfJson?),
    ("expire", expireOfJson?), ("recover", recoverOfJson?),
    ("await_reattach", awaitReattachOfJson?), ("snapshot", Json.readFieldless .snapshot)]

/-- A step by the name of its action. -/
def ofJson? : Json → Option ScenarioStep := Json.readTagged "action" byAction .direct

end ScenarioStep

namespace Scenario

/-- A scenario of a configuration and steps, either of which may be left out. -/
def ofJson? (value : Json) : Option Scenario := do
  let members ← Members.ofJson? ["registry", "step"] value
  let config ← members.orElse "registry" Config.ofJson? {}
  let steps ← members.orElse "step" (Json.readList ScenarioStep.ofJson?) []
  some { config, steps }

/-- Why a scenario cannot be read. -/
inductive LoadError where
  /-- A file in a format that is not known. -/
  | unsupported (extension : String)
  /-- A file that spells no scenario. -/
  | undecodable

def LoadError.message : LoadError → String
  | unsupported extension => "unsupported scenario format: ." ++ extension
  | undecodable => "not a scenario"

/-- The extension of a file's name: what follows its last dot, if that is not the first
character of the name. -/
def extensionOf (path : String) : Option String :=
  match (path.toList.reverse.takeWhile (· != '/')).reverse with
  | [] => none
  | _ :: rest =>
      if rest.contains '.' then
        some (String.ofList (rest.reverse.takeWhile (· != '.')).reverse)
      else
        none

/-- The scenario of a file by its extension and the value it spells, if it spells one.  A
file without extension counts as TOML, which is known but not read. -/
def load (extension : Option String) (contents : Option Json) : Except LoadError Scenario :=
  match extension with
  | none => .error .undecodable
  | some extension =>
      if extension = "json" then
        match contents.bind ofJson? with
        | some scenario => .ok scenario
        | none => .error .undecodable
      else if extension = "toml" then
        .error .undecodable
      else
        .error (.unsupported extension)

end Scenario

end Reattach
