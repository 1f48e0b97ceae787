import Reattach.Fault
import Reattach.Policy

/-!
# Values from their spellings

Each function reads a value from the text a user gives for it, or tells what is
wrong with the text.
-/

namespace Reattach

/-- The identifier of a link name, a role and a container. -/
def Identifier.create (name : String) (role : Role) (container : Option String) :
    Except Fault Identifier :=
  if named : name = "" then .error .emptyName else .ok ⟨name, role, container, named⟩

/-- The tag spelled by hexadecimal digits. -/
def Tag.ofHex (text : String) : Except Fault Tag :=
  match Tag.ofHex? text with
  | some tag => .ok tag
  | none => .error (.notHex text)

def Outcome.parse (text : String) : Except Fault Outcome :=
  match Outcome.ofName? text with
  | some outcome => .ok outcome
  | none => .error (.unknownOutcome text)

def State.parse (text : String) : Except Fault State :=
  match State.ofText text with
  | .ok state => .ok state
  | .error unnamed => .error (.unknownOutcome unnamed)

/-- The policy of a symbol, exactly as it goes over the wire. -/
def ExpiryPolicy.ofSymbol (symbol : String) : Except Fault ExpiryPolicy :=
  match ExpiryPolicy.ofSymbol? symbol with
  | some policy => .ok policy
  | none => .error (.unknownPolicy symbol)

def ExpiryPolicy.parse (text : String) : Except Fault ExpiryPolicy :=
  let text := ExpiryPolicy.normalized text
  if text = "none" then .ok .unspecified else ExpiryPolicy.ofSymbol text

end Reattach
