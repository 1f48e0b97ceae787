import Reattach.Exchange.Attachments
import Reattach.Recovery
import Reattach.Registry.Snapshot

/-!
# JSON forms of what a registry reports

These are written and never read.  When something happened differs from one run to
the next, so a moment is written as `<time>`.
-/

namespace Reattach

/-- A moment, or that there is none. -/
def momentJson (time : Option Nat) : Json := .ofOption (fun _ => .str "<time>") time

def Phase.toJson (phase : Phase) : Json := .str phase.name

def Snapshot.toJson (snapshot : Snapshot) : Json :=
  .obj [("identifier", snapshot.identifier.toJson), ("phase", snapshot.phase.toJson),
    ("policy", snapshot.policy.toJson), ("timeout_ms", .nat snapshot.timeoutMillis),
    ("scope", .ofOption Scope.toJson snapshot.scope), ("live_link", .bool snapshot.hasLiveLink),
    ("suspended_at", momentJson snapshot.suspendedAt), ("unsettled", .nat snapshot.unsettled)]

def snapshotsJson (snapshots : List Snapshot) : Json := .arr (snapshots.map (·.toJson))

/-- An event by its name, followed by what it is about. -/
def Event.toJson : Event → Json
  | .associated identifier =>
      .obj [("event", .str "associated"), ("identifier", identifier.toJson)]
  | .stolen identifier => .obj [("event", .str "stolen"), ("identifier", identifier.toJson)]
  | .suspended identifier epoch =>
      .obj [("event", .str "suspended"), ("identifier", identifier.toJson), ("epoch", .nat epoch)]
  | .expired identifier => .obj [("event", .str "expired"), ("identifier", identifier.toJson)]

/-- A decision under the name of its side. -/
def Decision.toJson : Decision → Json
  | .send directive => .obj [("send", directive.toJson)]
  | .receive action => .obj [("receive", action.toJson)]

def RecoveryStep.toJson (step : RecoveryStep) : Json :=
  .obj [("tag", step.tag.toJson), ("local", .ofOption State.toJson step.ours),
    ("remote", .ofOption State.toJson step.theirs), ("decision", step.decision.toJson)]

def RecoveryPlan.toJson (plan : RecoveryPlan) : Json :=
  .obj [("identifier", plan.identifier.toJson), ("role", plan.identifier.role.toJson),
    ("steps", .arr (plan.steps.map (·.toJson)))]

end Reattach
