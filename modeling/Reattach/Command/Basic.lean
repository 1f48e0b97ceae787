import Reattach.Command.Arguments
import Reattach.Json.Printer
import Reattach.Scenario.Run
import Reattach.Text.Decimal

/-!
# Commands

`table` shows the decision table, `reconcile` decides about one delivery, and
`simulate` runs a scenario.  A command is read from its arguments as a whole, and
arguments that spell none are a usage error.
-/

namespace Reattach

/-- What a scenario is run with. -/
structure SimulateCommand where
  /-- Where the scenario is. -/
  scenario : String
  overrides : Overrides
  /-- Where records outlast the run, if they do. -/
  store : Option String

/-- A command. -/
inductive Command where
  | table (mode : SettleMode) (asJson : Bool)
  | reconcile (ours theirs : String) (role : Role) (mode : SettleMode) (asJson : Bool)
  | simulate (command : SimulateCommand)

namespace Command

/-! ## Reading -/

def modesByOption : List (String × SettleMode) :=
  [("settle-on-send", .onSend), ("settle-on-receive", .onReceive),
    ("settle-on-dispose", .onDispose)]

/-- The value of an option among named ones, or what holds without it. -/
def choose {α : Type} (arguments : Arguments) (option : String) (names : List (String × α))
    (absent : α) : Option α :=
  match arguments.value? option with
  | none => some absent
  | some name => names.lookup name

def modeOf (arguments : Arguments) : Option SettleMode :=
  choose arguments "--settle-mode" modesByOption .onReceive

def parseTable? (arguments : List String) : Option Command := do
  let arguments ← Arguments.parse? ["--json"] ["--settle-mode"] arguments
  if arguments.positionals.isEmpty then
    some (.table (← modeOf arguments) (arguments.has "--json"))
  else
    none

def parseReconcile? (arguments : List String) : Option Command := do
  let arguments ← Arguments.parse? ["--json"]
    ["--local", "--remote", "--role", "--settle-mode"] arguments
  if arguments.positionals.isEmpty then
    let role ← choose arguments "--role" Role.byName .sender
    let mode ← modeOf arguments
    some (.reconcile ((arguments.value? "--local").getD "absent")
      ((arguments.value? "--remote").getD "absent") role mode (arguments.has "--json"))
  else
    none

/-- A number of milliseconds that fits sixty-four bits, with or without a plus sign. -/
def parseMillis? (text : String) : Option UInt64 :=
  let digits :=
    match text.toList with
    | '+' :: digits => digits
    | digits => digits
  if digits.isEmpty || !digits.all Char.isDigit then
    none
  else
    let value := Text.natOfDigits digits
    if value < UInt64.size then some (UInt64.ofNat value) else none

def parseOverrides? (arguments : Arguments) : Option Overrides := do
  let policy ←
    match arguments.value? "--policy" with
    | none => some none
    | some text => (ExpiryPolicy.parse text).toOption.map some
  let timeoutMillis ←
    match arguments.value? "--timeout-ms" with
    | none => some none
    | some text => (parseMillis? text).map some
  some { policy, timeoutMillis }

/-- The name of a file, which is never empty. -/
def parsePath? (text : String) : Option String := if text.isEmpty then none else some text

def parseSimulate? (arguments : List String) : Option SimulateCommand := do
  let arguments ← Arguments.parse? [] ["--policy", "--timeout-ms", "--store"] arguments
  let overrides ← parseOverrides? arguments
  let store ←
    match arguments.value? "--store" with
    | none => some none
    | some path => (parsePath? path).map some
  match arguments.positionals with
  | [path] => some { scenario := ← parsePath? path, overrides, store }
  | _ => none

/-- The command that arguments spell. -/
def parse? : List String → Option Command
  | "table" :: rest => parseTable? rest
  | "reconcile" :: rest => parseReconcile? rest
  | "simulate" :: rest => (parseSimulate? rest).map .simulate
  | _ => none

/-! ## Carrying out -/

def showTable (mode : SettleMode) (asJson : Bool) : List String :=
  let rows := decisionTable mode
  if asJson then [(Json.arr (rows.map (·.toJson))).pretty] else tableLines rows

def showDecision (ours theirs : Option State) (role : Role) (mode : SettleMode)
    (asJson : Bool) : String :=
  match role with
  | .sender =>
      let directive := reconcileInMode mode ours theirs
      if asJson then directive.toJson.pretty else directive.summary
  | .receiver =>
      let action := receiverAction mode ours theirs
      if asJson then action.toJson.pretty else action.summary

/-- Decide about one delivery by the texts of both ends' records. -/
def runReconcile (ours theirs : String) (role : Role) (mode : SettleMode) (asJson : Bool) :
    Except RecordError (List String) :=
  match parseRecord ours with
  | .error error => .error error
  | .ok ours =>
      match parseRecord theirs with
      | .error error => .error error
      | .ok theirs => .ok [showDecision ours theirs role mode asJson]

end Command

end Reattach
