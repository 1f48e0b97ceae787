import Reattach.Command.Basic
import Reattach.Exchange.Rows
import Reattach.Json.Reader

/-!
# The command line

Reads a command from the arguments and prints what it gives.  Scenarios are read
from files; a store that outlasts a run is a file with its rows.
-/

namespace Reattach.CommandLine

/-- Print what a command gives, and fail if it failed. -/
def conclude (lines : List String) (failure : Option String) : IO UInt32 := do
  for line in lines do
    IO.println line
  match failure with
  | none => return 0
  | some message =>
      IO.eprintln ("Error: " ++ message)
      return 1

/-- The JSON value in a file, if it can be read and is one. -/
def readJson (path : String) : IO (Option Json) := do
  let contents ← (some <$> IO.FS.readFile path) <|> pure none
  return contents.bind Json.ofText?

/-- The store in a file, empty if there is no such file. -/
def readStore : Option String → IO Storage
  | none => return { store := .memory {} }
  | some path => do
      let rows := (← readJson path).bind RowStore.ofJson?
      return { store := .rows (rows.getD {}) }

/-- Write a store to the file it is kept in. -/
def writeStore (path : Option String) (storage : Storage) : IO Unit :=
  match path, storage.store with
  | some path, .rows store => IO.FS.writeFile path store.toJson.compact
  | _, _ => return ()

/-- Run a scenario file. -/
def simulate (command : SimulateCommand) : IO UInt32 := do
  match Scenario.load (Scenario.extensionOf command.scenario) (← readJson command.scenario) with
  | .error error => conclude [] (some error.message)
  | .ok scenario =>
      let report := scenario.run command.overrides (← readStore command.store)
      writeStore command.store report.storage
      conclude report.lines (report.failure.map (·.message))

/-- Carry out a command. -/
def carryOut : Command → IO UInt32
  | .table mode asJson => conclude (Command.showTable mode asJson) none
  | .reconcile ours theirs role mode asJson =>
      match Command.runReconcile ours theirs role mode asJson with
      | .ok lines => conclude lines none
      | .error error => conclude [] (some error.message)
  | .simulate command => simulate command

/-- How the commands are written. -/
def usage : String :=
  "usage: reattach table [--json] [--settle-mode MODE]\n" ++
  "       reattach reconcile [--local RECORD] [--remote RECORD] [--role ROLE]\n" ++
  "                          [--settle-mode MODE] [--json]\n" ++
  "       reattach simulate FILE [--policy POLICY] [--timeout-ms N] [--store FILE]"

end Reattach.CommandLine

/-- Carry out the command that the arguments spell. -/
def main (arguments : List String) : IO UInt32 :=
  match Reattach.Command.parse? arguments with
  | some command => Reattach.CommandLine.carryOut command
  | none => do
      IO.eprintln Reattach.CommandLine.usage
      return 2
