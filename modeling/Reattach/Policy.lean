import Reattach.Text.LowerCase

/-!
# Expiry policies

A terminus outlives its link for as long as its policy says.  Policies and the
events by which a link goes away share one scale of depth: an event reaches a
policy if it is at least as deep.
-/

namespace Reattach

/-- How a link goes away: by itself, with its session or with its connection. -/
inductive Departure where
  | linkDetach
  | sessionEnd
  | connectionClose
  deriving DecidableEq, Inhabited, Repr

namespace Departure

/-- How much goes away with the link. -/
def depth : Departure → Nat
  | linkDetach => 1
  | sessionEnd => 2
  | connectionClose => 3

def name : Departure → String
  | linkDetach => "link_detach"
  | sessionEnd => "session_end"
  | connectionClose => "connection_close"

def all : List Departure := [linkDetach, sessionEnd, connectionClose]

def byName : List (String × Departure) := all.map fun departure => (departure.name, departure)

end Departure

/-- Which events a terminus is suspended by.  Without a policy of its own (`unspecified`)
any event will do; `never` is out of reach of all. -/
inductive ExpiryPolicy where
  | unspecified
  | linkDetach
  | sessionEnd
  | connectionClose
  | never
  deriving DecidableEq, Inhabited, Repr

namespace ExpiryPolicy

/-- The depth from which an event reaches the policy. -/
def depth : ExpiryPolicy → Nat
  | unspecified => 0
  | linkDetach => 1
  | sessionEnd => 2
  | connectionClose => 3
  | never => 4

/-- All policies, the shallowest first. -/
def all : List ExpiryPolicy := [unspecified, linkDetach, sessionEnd, connectionClose, never]

/-- The symbol of a policy on the wire, where an unspecified one is left out. -/
def symbol? : ExpiryPolicy → Option String
  | unspecified => none
  | linkDetach => some "link-detach"
  | sessionEnd => some "session-end"
  | connectionClose => some "connection-close"
  | never => some "never"

def name (policy : ExpiryPolicy) : String := policy.symbol?.getD "none"

def byName : List (String × ExpiryPolicy) := all.map fun policy => (policy.name, policy)

/-- The policy of a symbol. -/
def ofSymbol? (symbol : String) : Option ExpiryPolicy :=
  all.find? fun policy => policy.symbol? == some symbol

/-- Whether a text is the symbol of a policy. -/
def isSymbol (text : String) : Bool := (ofSymbol? text).isSome

/-- Whether an event suspends a terminus under the policy. -/
def qualifies (policy : ExpiryPolicy) (departure : Departure) : Bool :=
  policy.depth ≤ departure.depth

/-- Whether a terminus under the policy outlives its link. -/
def isRecoverable (policy : ExpiryPolicy) : Bool := policy != unspecified

/-- The policies that are shallower. -/
def below (policy : ExpiryPolicy) : List ExpiryPolicy :=
  all.filter fun other => other.depth < policy.depth

/-- Symbols in any case and with underscores for dashes, in the form they are looked up
by. -/
def normalized (text : String) : String :=
  (Text.lowerAscii text).map fun char => if char = '_' then '-' else char

theorem not_qualifies_never (departure : Departure) : never.qualifies departure = false := by
  cases departure <;> rfl

end ExpiryPolicy

/-- A policy and how long a terminus stays suspended under it. -/
structure Expiry where
  policy : ExpiryPolicy
  timeoutSecs : UInt32
  deriving DecidableEq

def Expiry.timeoutMillis (expiry : Expiry) : Nat := expiry.timeoutSecs.toNat * 1000

end Reattach
