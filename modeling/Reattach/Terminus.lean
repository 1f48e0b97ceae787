import Reattach.Fault
import Reattach.Settings

/-!
# Link termini

A terminus is the part of a link's end that outlives the link: its identifier and
the settings last agreed on.  Its deliveries are in a store.

```text
active --suspend--> suspended --expire--> expired
   ^                    |
   +-----associate------+
```

Every suspension begins an epoch of its own, and so does an attach that ends one.
An expiry that was arranged under one epoch is void under any other.
-/

namespace Reattach

/-- Number of a link, in the order in which links were opened. -/
abbrev LinkId := Nat

/-- Number of a terminus, in the order in which termini came to be. -/
abbrev TerminusId := Nat

/-- Where a terminus is in its life. -/
inductive Phase where
  | active
  | suspended
  | expired
  deriving DecidableEq, Inhabited, Repr

def Phase.name : Phase → String
  | active => "active"
  | suspended => "suspended"
  | expired => "expired"

/-- The side of a link's end that outlives the link. -/
structure Terminus where
  identifier : Identifier
  settings : Settings
  /-- Whether what happens to it is published on its registry's channel. -/
  isShared : Bool
  link : Option LinkId := none
  phase : Phase := .active
  epoch : Nat := 0
  /-- When the suspension began, in milliseconds.  It stays when the terminus expires. -/
  suspendedAt : Option Nat := none

namespace Terminus

/-- The terminus with a link attached, and the other link that it had until now.  An
expired terminus takes no link. -/
def associate (terminus : Terminus) (link : LinkId) :
    Except Fault (Option LinkId × Terminus) :=
  match terminus.phase with
  | .expired => .error (.terminusExpired terminus.identifier)
  | phase =>
      let epoch := if phase = .suspended then terminus.epoch + 1 else terminus.epoch
      let displaced := terminus.link.filter (· != link)
      .ok (displaced,
        { terminus with link := some link, phase := .active, epoch, suspendedAt := none })

/-- The terminus without its link, in a new epoch.  Only an active one is suspended. -/
def suspend (terminus : Terminus) (now : Nat) : Option Terminus :=
  match terminus.phase with
  | .active =>
      some { terminus with
        link := none, phase := .suspended, epoch := terminus.epoch + 1, suspendedAt := some now }
  | _ => none

/-- The expired terminus.  Only a suspended one expires, and if an epoch is given, only
in that epoch. -/
def expire (terminus : Terminus) (epoch : Option Nat) : Option Terminus :=
  match terminus.phase with
  | .suspended =>
      if epoch.all (· == terminus.epoch) then some { terminus with phase := .expired } else none
  | _ => none

/-- Only an expired terminus refuses a link. -/
theorem associate_eq_error_iff {terminus : Terminus} {link : LinkId} {fault : Fault} :
    terminus.associate link = .error fault ↔
      terminus.phase = .expired ∧ fault = .terminusExpired terminus.identifier := by
  cases phase : terminus.phase <;> simp [associate, phase, eq_comm]

/-- Only an active terminus is suspended. -/
theorem suspend_isSome_iff {terminus : Terminus} {now : Nat} :
    (terminus.suspend now).isSome = true ↔ terminus.phase = .active := by
  cases phase : terminus.phase <;> simp [suspend, phase]

/-- Only a suspended terminus expires, and only in the epoch that is asked for. -/
theorem expire_isSome_iff {terminus : Terminus} {epoch : Option Nat} :
    (terminus.expire epoch).isSome = true ↔
      terminus.phase = .suspended ∧ ∀ wanted ∈ epoch, wanted = terminus.epoch := by
  cases phase : terminus.phase <;> cases epoch <;> simp [expire, phase]

end Terminus

end Reattach
