import Reattach.Exchange.Registry
import Reattach.Json.Printer
import Reattach.LongForm
import Reattach.Registry.Attach
import Reattach.Registry.Suspend
import Reattach.Scenario.Step
import Reattach.Summary
import Reattach.Watch

/-!
# Running scenarios

A scenario runs against a registry of its own and gives an account of every step.
Timers and waits are at work only when the scenario gives them a turn, which it does
by letting time pass.  When it wakes up it goes on before whatever is due at that
instant.  At the end the waits are collected in the order they were begun, and the
registry is shown.  A step that fails ends the run.
-/

namespace Reattach

/-- Why a step fails. -/
inductive ScenarioError where
  | unknownLink (name : String)
  | noTerminus (identifier : Identifier)
  /-- A delivery that is to have no state. -/
  | absentDelivery
  | record (cause : RecordError)
  | registry (cause : RegistryError)
  | store (cause : StoreError)

def ScenarioError.message : ScenarioError → String
  | unknownLink name => "unknown link " ++ Text.quoted name ++ "; attach it first"
  | noTerminus identifier => "no terminus registered for " ++ identifier.display
  | absentDelivery => "deliver needs a state, not absent"
  | record cause => cause.message
  | registry cause => cause.message
  | store cause => cause.message

/-- What a scenario leaves to the machine that runs it. -/
structure Host where
  /-- The order in which the termini of a registry are come upon when their scope ends. -/
  order : Registry → TableOrder := fun _ => .byKey
  /-- How many sleeps of no time in a row a task may make before it has to give the others a turn:
  the budget that the runtime grants each task, where tasks share a thread by agreement. -/
  sleepsPerTurn : Nat := 128
  /-- Whether the clock, having stopped at one instant, goes on past another at which something is
  due, where more is due later. -/
  passesOver : Nat → Nat → Bool := fun _ _ => false

/-- A registry in use, with the link last attached under each name. -/
structure Simulation where
  host : Host := {}
  watch : Watch
  links : SortedMap String LinkId := ∅
  /-- How often the scenario has slept since it last gave a turn, counting the sleep that
  gave it. -/
  sleeps : Nat := 0

/-- What a step prints, how it fails if it does, and what it leaves. -/
structure StepReport where
  lines : List String := []
  failure : Option ScenarioError := none
  simulation : Simulation

namespace Simulation

def withRegistry (simulation : Simulation) (registry : Registry) : Simulation :=
  { simulation with watch := { simulation.watch with registry } }

def withStorage (simulation : Simulation) (storage : Storage) : Simulation :=
  simulation.withRegistry { simulation.watch.registry with storage }

def registry (simulation : Simulation) : Registry := simulation.watch.registry

def fail (simulation : Simulation) (error : ScenarioError) : StepReport :=
  { failure := some error, simulation }

/-- A step that prints one line. -/
def say (simulation : Simulation) (line : String) : StepReport := { lines := [line], simulation }

def link? (simulation : Simulation) (name : String) : Except ScenarioError (LinkId × Link) :=
  match simulation.links.get? name with
  | none => .error (.unknownLink name)
  | some id =>
      match simulation.registry.links[id]? with
      | none => .error (.unknownLink name)
      | some link => .ok (id, link)

/-- The terminus that the table has for the link under a name. -/
def terminus? (simulation : Simulation) (name : String) : Except ScenarioError Terminus :=
  match simulation.link? name with
  | .error error => .error error
  | .ok (_, link) =>
      match (simulation.registry.find? link.identifier).bind (simulation.registry.termini[·]?) with
      | none => .error (.noTerminus link.identifier)
      | some terminus => .ok terminus

/-! ## The steps -/

/-- The settings of an attach.  A policy symbol goes to the link's own address. -/
def settingsOf (step : AttachStep) : Settings :=
  let settings := { name := step.link, role := step.role, settleMode := step.settleMode }
  match step.expiryPolicy with
  | none => settings
  | some symbol =>
      let address :=
        { address := some step.link, expiryPolicy := some symbol, timeoutSecs := step.timeoutSecs }
      if step.role.isReceiver then
        { settings with target := address }
      else
        { settings with source := address }

/-- Say that a link is attached, and keep it under its name. -/
def attached (simulation : Simulation) (label : String) (step : AttachStep) (id : LinkId)
    (terminus : Terminus) : StepReport :=
  match simulation.registry.storage.retrieveAll terminus.identifier with
  | (.error error, storage) => (simulation.withStorage storage).fail (.store error)
  | (.ok records, storage) =>
      let simulation := simulation.withStorage storage
      { lines := [label ++ "attach " ++ terminus.identifier.display ++ " on " ++
          Session.name ⟨step.connection, step.channel⟩ ++ ": " ++ toString records.size ++
          " unsettled"]
        simulation := { simulation with links := simulation.links.insert step.link id } }

/-- Attach a new link. -/
def attach (simulation : Simulation) (label : String) (step : AttachStep) : StepReport :=
  match Identifier.create step.link step.role step.container with
  | .error fault => simulation.fail (.registry (.fault fault))
  | .ok identifier =>
      let link :=
        { identifier, settings := settingsOf step
          scope := .ofChannel step.connection step.channel }
      let (id, registry) := simulation.registry.openLink link
      match registry.register id step.exclusive with
      | (.error error, registry) => (simulation.withRegistry registry).fail (.registry error)
      | (.ok terminus, registry) =>
          let simulation := simulation.withRegistry registry
          match registry.termini[terminus]? with
          | none => simulation.fail (.registry .noSuchTerminus)
          | some terminus => simulation.attached label step id terminus

def deliver (simulation : Simulation) (label link tag state : String) : StepReport :=
  match parseRecord state with
  | .error error => simulation.fail (.record error)
  | .ok none => simulation.fail .absentDelivery
  | .ok (some state) =>
      match simulation.terminus? link with
      | .error error => simulation.fail error
      | .ok terminus =>
          match simulation.registry.storage.noteDelivery terminus.identifier (.ofText tag)
              state with
          | (.error error, storage) => (simulation.withStorage storage).fail (.store error)
          | (.ok (), storage) =>
              (simulation.withStorage storage).say
                (label ++ "deliver " ++ link ++ " " ++ tag ++ " -> " ++ state.name)

def settle (simulation : Simulation) (label link tag : String) : StepReport :=
  match simulation.terminus? link with
  | .error error => simulation.fail error
  | .ok terminus =>
      match simulation.registry.storage.remove terminus.identifier (.ofText tag) with
      | (.error error, storage) => (simulation.withStorage storage).fail (.store error)
      | (.ok found, storage) =>
          (simulation.withStorage storage).say (label ++ "settle " ++ link ++ " " ++ tag ++ ": " ++
            if found then "removed" else "no record")

/-- Close a link, and tell the registry how it went away. -/
def detach (simulation : Simulation) (label link : String) (departure : Departure) :
    StepReport :=
  match simulation.link? link with
  | .error error => simulation.fail error
  | .ok (id, _) =>
      let (outcome, registry) := (simulation.registry.closeLink id).suspend id departure
      (simulation.withRegistry registry).say
        (label ++ departure.name ++ " " ++ link ++ ": " ++ outcome.name)

/-- Close the links under all names that are attached in a scope. -/
def closeLinks (simulation : Simulation) (inScope : Scope → Bool) : Simulation :=
  simulation.withRegistry <|
    simulation.links.values.foldl
      (fun registry id =>
        if registry.links[id]?.any fun link => inScope link.scope then registry.closeLink id
        else registry)
      simulation.registry

/-- End a session with all its links. -/
def endSession (simulation : Simulation) (label : String) (session : Session) : StepReport :=
  let simulation := simulation.closeLinks fun scope => scope.session == session
  let registry := simulation.registry
  let (count, registry) := registry.endSession session (simulation.host.order registry)
  (simulation.withRegistry registry).say
    (label ++ "end " ++ session.name ++ ": " ++ toString count ++ " suspended")

/-- Close a connection with all its links. -/
def closeConnection (simulation : Simulation) (label : String) (connection : UInt64) :
    StepReport :=
  let simulation := simulation.closeLinks fun scope => scope.connection == connection
  let registry := simulation.registry
  let (count, registry) := registry.closeConnection connection (simulation.host.order registry)
  (simulation.withRegistry registry).say
    (label ++ "close " ++ connectionName connection ++ ": " ++ toString count ++ " suspended")

/-- Let time pass.  A sleep of no time gives nobody else a turn, unless it is their turn. -/
def sleep (simulation : Simulation) (millis : Nat) : Simulation :=
  if millis = 0 ∧ simulation.sleeps < simulation.host.sleepsPerTurn then
    { simulation with sleeps := simulation.sleeps + 1 }
  else
    { simulation with
      watch := simulation.watch.sleepPassing simulation.host.passesOver millis
      sleeps := 1 }

def wait (simulation : Simulation) (label : String) (millis : UInt64) : StepReport :=
  (simulation.sleep millis.toNat).say (label ++ "waited " ++ toString millis ++ "ms")

/-- Expire the terminus of a link now. -/
def expire (simulation : Simulation) (label link : String) : StepReport :=
  match simulation.link? link with
  | .error error => simulation.fail error
  | .ok (_, found) =>
      let (hasExpired, registry) := simulation.registry.expire found.identifier
      (simulation.withRegistry registry).say
        (label ++ "expire " ++ link ++ ": " ++ truthName hasExpired)

/-- The other end's entries for an unsettled map. -/
def remoteEntries : List (String × String) → Except RecordError (List (Tag × Option State))
  | [] => .ok []
  | (tag, text) :: rest =>
      match parseRecord text with
      | .error error => .error error
      | .ok state =>
          match remoteEntries rest with
          | .error error => .error error
          | .ok entries => .ok ((Tag.ofText tag, state) :: entries)

/-- The account of a decision. -/
def stepLine (label link : String) (step : RecoveryStep) : String :=
  label ++ "recover " ++ link ++ " " ++ step.tag.toHex ++ ": local=" ++ recordLabel step.ours ++
    " remote=" ++ recordLabel step.theirs ++ " -> " ++ step.decision.longForm

/-- The account of a transfer. -/
def frameLine (label : String) (frame : Frame) : String :=
  label ++ "transfer " ++ frame.tag.toHex ++ ": " ++ (Directive.resend frame.flags).summary

/-- Plan a recovery against a map, and carry it out. -/
def recoverWith (simulation : Simulation) (label link : String) (terminus : Terminus)
    (theirs : Unsettled) : StepReport :=
  match simulation.registry.storage.planRecovery terminus.identifier
      terminus.settings.settleMode theirs with
  | (.error error, storage) => (simulation.withStorage storage).fail (.registry (.store error))
  | (.ok plan, storage) =>
      let planned := plan.steps.map (stepLine label link)
      match storage.applyPlan plan with
      | (.error error, storage) =>
          { lines := planned, failure := some (.registry (.store error))
            simulation := simulation.withStorage storage }
      | (.ok frames, storage) =>
          { lines := planned ++ frames.map (frameLine label)
            simulation := simulation.withStorage storage }

def recover (simulation : Simulation) (label link : String)
    (remote : SortedMap String String) : StepReport :=
  match simulation.terminus? link with
  | .error error => simulation.fail error
  | .ok terminus =>
      match remoteEntries remote.toList with
      | .error error => simulation.fail (.record error)
      | .ok entries => simulation.recoverWith label link terminus (.ofWire entries)

/-- Begin a wait for a reattach, which gets its first turn when the scenario waits. -/
def awaitReattach (simulation : Simulation) (label link : String) (timeout : UInt64) :
    StepReport :=
  match simulation.link? link with
  | .error error => simulation.fail error
  | .ok (_, found) =>
      let watch := simulation.watch.await link found.identifier timeout.toNat
      { simulation with watch }.say
        (label ++ "awaiting reattach of " ++ link ++ " for " ++ toString timeout ++ "ms")

def showRegistry (simulation : Simulation) : StepReport :=
  let (snapshots, registry) := simulation.registry.snapshot
  (simulation.withRegistry registry).say (snapshotsJson snapshots).pretty

/-- Carry out the step with a number. -/
def carryOut (simulation : Simulation) (number : Nat) (step : ScenarioStep) : StepReport :=
  let label := "[" ++ toString number ++ "] "
  match step with
  | .attach step => simulation.attach label step
  | .deliver link tag state => simulation.deliver label link tag state
  | .settle link tag => simulation.settle label link tag
  | .detach link departure => simulation.detach label link departure
  | .endSession session => simulation.endSession label session
  | .closeConnection connection => simulation.closeConnection label connection
  | .wait millis => simulation.wait label millis
  | .expire link => simulation.expire label link
  | .recover link remote => simulation.recover label link remote
  | .awaitReattach link timeout => simulation.awaitReattach label link timeout
  | .snapshot => simulation.showRegistry

/-! ## A whole run -/

/-- How a wait ended, in words. -/
def resultText : WaitResult → String
  | .ok _ => "reattached (" ++ Phase.longForm .active ++ ")"
  | .error error => error.message

/-- Collect the waits with the given places, in order. -/
def collect (simulation : Simulation) : List Nat → List String × Simulation
  | [] => ([], simulation)
  | place :: rest =>
      let simulation :=
        { simulation with watch := simulation.watch.awaitEnd simulation.host.passesOver place }
      let line := do
        let waiter ← simulation.watch.waiters[place]?
        let (_, result) ← waiter.result?
        some ("await " ++ waiter.name ++ ": " ++ resultText result)
      let (lines, simulation) := collect simulation rest
      (line.toList ++ lines, simulation)

/-- Collect all waits, and show the registry. -/
def finish (simulation : Simulation) : StepReport :=
  let (lines, simulation) := simulation.collect (List.range simulation.watch.waiters.length)
  let shown := simulation.showRegistry
  { shown with lines := lines ++ shown.lines }

/-- Carry out steps, numbered from `number`, up to the first that fails, and finish if none
does. -/
def runFrom (simulation : Simulation) (number : Nat) : List ScenarioStep → StepReport
  | [] => simulation.finish
  | step :: rest =>
      let report := simulation.carryOut number step
      match report.failure with
      | some _ => report
      | none =>
          let remaining := runFrom report.simulation (number + 1) rest
          { remaining with lines := report.lines ++ remaining.lines }

end Simulation

/-- What takes the place of a scenario's own configuration. -/
structure Overrides where
  policy : Option ExpiryPolicy := none
  timeoutMillis : Option UInt64 := none

/-- A configuration with overrides in place. -/
def Overrides.apply (overrides : Overrides) (config : Config) : Config :=
  { config with
    expiryPolicy := overrides.policy.getD config.expiryPolicy
    expiryTimeoutMillis := overrides.timeoutMillis.getD config.expiryTimeoutMillis }

/-- What a run has printed, how it failed if it did, and the store it leaves. -/
structure RunReport where
  lines : List String
  failure : Option ScenarioError
  storage : Storage

/-- Run a scenario over a store. -/
def Scenario.run (scenario : Scenario) (overrides : Overrides) (storage : Storage)
    (host : Host := {}) : RunReport :=
  let registry := Registry.create (overrides.apply scenario.config) storage
  let report := Simulation.runFrom { host, watch := { registry } } 0 scenario.steps
  { lines := report.lines, failure := report.failure
    storage := report.simulation.registry.storage }

end Reattach
