import Reattach.Json.Members
import Reattach.Spelling

/-!
# JSON forms of names and identifiers

Roles, policies, events and outcomes are exchanged by name.  A policy's name has
dashes and an event's has underscores, as in messages.
-/

namespace Reattach

def Role.toJson (role : Role) : Json := .str role.name

def Role.ofJson? : Json.Timing → Json → Option Role := Json.readName Role.byName

def ExpiryPolicy.toJson (policy : ExpiryPolicy) : Json := .str policy.name

def ExpiryPolicy.ofJson? : Json.Timing → Json → Option ExpiryPolicy :=
  Json.readName ExpiryPolicy.byName

def Departure.toJson (departure : Departure) : Json := .str departure.name

def Departure.ofJson? : Json.Timing → Json → Option Departure := Json.readName Departure.byName

def Outcome.toJson (outcome : Outcome) : Json := .str outcome.name

def Outcome.ofJson? : Json.Timing → Json → Option Outcome := Json.readName Outcome.byName

def Expiry.toJson (expiry : Expiry) : Json :=
  .obj [("policy", expiry.policy.toJson), ("timeout_secs", .nat expiry.timeoutSecs.toNat)]

def Expiry.ofJson? (value : Json) : Option Expiry := do
  let members ← Members.ofJson? ["policy", "timeout_secs"] value
  let policy ← members.required "policy" (ExpiryPolicy.ofJson? .direct)
  let timeoutSecs ← members.required "timeout_secs" Json.readUInt32
  some { policy, timeoutSecs }

/-- An identifier, its container null if it has none. -/
def Identifier.toJson (identifier : Identifier) : Json :=
  .obj [("name", .str identifier.name), ("role", identifier.role.toJson),
    ("container_id", .ofOption .str identifier.container)]

/-- The identifier of a name that is not empty, a role and a container. -/
def Identifier.ofJson? (value : Json) : Option Identifier := do
  let members ← Members.ofJson? ["name", "role", "container_id"] value
  let name ← members.required "name" Json.readString
  let role ← members.required "role" (Role.ofJson? .direct)
  let container ← members.orElse "container_id" (Json.readNullable Json.readString) none
  (Identifier.create name role container).toOption

end Reattach
