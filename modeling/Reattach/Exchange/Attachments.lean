import Reattach.Config
import Reattach.Exchange.Deliveries
import Reattach.Scope

/-!
# JSON forms of settings, scopes and configurations

Where a record leaves out a field that has a value of its own for that case, the
field takes it; null is no way to leave a field out unless null is one of its
values.
-/

namespace Reattach

def SettleMode.toJson (mode : SettleMode) : Json := .str mode.name

def SettleMode.ofJson? : Json.Timing → Json → Option SettleMode :=
  Json.readName SettleMode.byName

def Address.toJson (address : Address) : Json :=
  .obj [("address", .ofOption .str address.address),
    ("expiry_policy", .ofOption .str address.expiryPolicy),
    ("timeout_secs", .nat address.timeoutSecs.toNat)]

/-- The address of an object, every field of which may be left out. -/
def Address.ofJson? (value : Json) : Option Address := do
  let members ← Members.ofJson? ["address", "expiry_policy", "timeout_secs"] value
  let address ← members.nullable "address" Json.readString
  let expiryPolicy ← members.nullable "expiry_policy" Json.readString
  let timeoutSecs ← members.orElse "timeout_secs" Json.readUInt32 0
  some { address, expiryPolicy, timeoutSecs }

def Settings.propertiesJson (properties : SortedMap String String) : Json :=
  .obj (properties.toList.map fun property => (property.1, .str property.2))

def Settings.propertiesOfJson? (value : Json) : Option (SortedMap String String) :=
  (Json.readDictionary Json.readString value).map SortedMap.ofList

def Settings.toJson (settings : Settings) : Json :=
  .obj [("name", .str settings.name), ("role", settings.role.toJson),
    ("source", settings.source.toJson), ("target", settings.target.toJson),
    ("settle_mode", settings.settleMode.toJson),
    ("properties", Settings.propertiesJson settings.properties),
    ("unsettled", .ofOption Unsettled.toJson settings.unsettled)]

/-- The settings of a name, a role and what else is given. -/
def Settings.ofJson? (value : Json) : Option Settings := do
  let members ← Members.ofJson? ["name", "role", "source", "target", "settle_mode",
    "properties", "unsettled"] value
  let name ← members.required "name" Json.readString
  let role ← members.required "role" (Role.ofJson? .direct)
  let source ← members.orElse "source" Address.ofJson? {}
  let target ← members.orElse "target" Address.ofJson? {}
  let settleMode ← members.orElse "settle_mode" (SettleMode.ofJson? .direct) default
  let properties ← members.orElse "properties" Settings.propertiesOfJson? ∅
  let unsettled ← members.orElse "unsettled" (Json.readNullable Unsettled.ofJson?) none
  some { name, role, source, target, settleMode, properties, unsettled }

def Session.toJson (session : Session) : Json :=
  .obj [("connection", .nat session.connection.toNat), ("channel", .nat session.channel.toNat)]

def Session.ofJson? (value : Json) : Option Session := do
  let members ← Members.ofJson? ["connection", "channel"] value
  let connection ← members.required "connection" Json.readUInt64
  let channel ← members.required "channel" Json.readUInt16
  some { connection, channel }

def Scope.toJson (scope : Scope) : Json := .obj [("session", scope.session.toJson)]

def Scope.ofJson? (value : Json) : Option Scope := do
  let members ← Members.ofJson? ["session"] value
  (members.required "session" Session.ofJson?).map Scope.mk

def Config.toJson (config : Config) : Json :=
  .obj [("expiration_policy", config.expiryPolicy.toJson),
    ("expiry_timeout_ms", .nat config.expiryTimeoutMillis.toNat),
    ("event_capacity", .nat config.eventCapacity.toNat)]

/-- The configuration of an object, every field of which may be left out. -/
def Config.ofJson? (value : Json) : Option Config := do
  let members ← Members.ofJson? ["expiration_policy", "expiry_timeout_ms", "event_capacity"] value
  let expiryPolicy ← members.orElse "expiration_policy" (ExpiryPolicy.ofJson? .direct)
    .unspecified
  let expiryTimeoutMillis ← members.orElse "expiry_timeout_ms" Json.readUInt64 0
  let eventCapacity ← members.orElse "event_capacity" Json.readUInt64 64
  some { expiryPolicy, expiryTimeoutMillis, eventCapacity }

end Reattach
