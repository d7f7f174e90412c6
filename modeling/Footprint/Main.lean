import Footprint.Launch.Run
import Footprint.Storage.Inventory

/-!
# The program

Reads what the program needs from its surroundings, runs it and writes what comes of it. What the
storage holds is read from the inventory of the working directory.
-/

open Footprint

namespace Footprint.Console

/-- The path of the inventory of the working directory. -/
def inventoryPath : String := "inventory.txt"

/-- The text of a document, if it can be read. -/
def document? (path : String) : IO (Option String) := do
  try some <$> IO.FS.readFile path
  catch _ => pure none

/-- A workspace with the document at a path, if it can be read. -/
def withDocument (workspace : Workspace) (path : String) : IO Workspace := do
  match ← document? path with
  | some text => pure (workspace.put path text)
  | none => pure workspace

/-- The variables of the environment that give settings. -/
def environment : IO (List (String × String)) :=
  Settings.environmentNames.filterMapM fun name => do
    let key := Settings.variableName name
    pure ((← IO.getEnv key).map fun value => (key, value))

/-- What a plan finds when the program starts. -/
def surroundings (plan : Launch.Plan) (isTerminal : Bool) (input : String) :
    IO Launch.Surroundings := do
  let tree := Storage.Inventory.tree ((← document? inventoryPath).getD "")
  let empty : Workspace := ⟨Storage.Inventory.directories tree, .empty⟩
  let configured ← withDocument empty plan.config
  let s : Launch.Surroundings :=
    { workspace := configured, tree, environment := ← environment, input, isTerminal }
  match Launch.settings plan s >>= Settings.catalogPath with
  | .ok path => pure { s with workspace := ← withDocument configured path }
  | .error _ => pure s

/-- Writes the documents of a workspace that are not the same in an earlier one. -/
def save (before after : Workspace) : IO Unit :=
  (after.documentsBeside before).forM fun (path, text) => IO.FS.writeFile path text

/-- Talks to the user line by line. -/
partial def talk (view : Storage.View) (shell : Shell) (input : IO.FS.Stream) :
    IO (Option Error) := do
  IO.print Launch.prompt
  (← IO.getStdout).flush
  let line ← input.getLine
  let heard := if line.isEmpty then none else some (line.toList.filter (· ≠ '\n'))
  match Launch.hear view shell heard with
  | .next printed shell =>
    IO.print printed
    talk view shell input
  | .last printed fatal =>
    IO.print printed
    pure fatal

/-- Opens a session and talks to the user. -/
def serve (plan : Launch.Plan) (s : Launch.Surroundings) (input : IO.FS.Stream) :
    IO (Option Error) := do
  match Launch.openSession plan s with
  | (.error e, workspace) =>
    save s.workspace workspace
    pure (some e)
  | (.ok session, workspace) =>
    save s.workspace workspace
    IO.print Launch.welcome
    talk (session.view s.tree none) (.opened session) input

/-- Says what ended the program, and its status. -/
def close (fatal : Option Error) : IO UInt32 := do
  match fatal with
  | none => pure Launch.successStatus.toUInt32
  | some e =>
    IO.eprintln (Launch.fatalText e)
    pure Launch.failureStatus.toUInt32

end Footprint.Console

open Footprint.Console in
/-- Runs the program with its arguments. -/
def main (arguments : List String) : IO UInt32 := do
  match Launch.Invocation.ofArguments arguments with
  | .misuse => pure Launch.misuseStatus.toUInt32
  | .help => pure Launch.successStatus.toUInt32
  | .plan plan =>
    let input ← IO.getStdin
    let isTerminal ← input.isTty
    if isTerminal && plan.commands.isEmpty then
      serve plan (← surroundings plan true "") input >>= close
    else
      let text ← if plan.commands.isEmpty then input.readToEnd else pure ""
      let s ← surroundings plan false text
      match Launch.run arguments s with
      | .exit status => pure status.toUInt32
      | .finished printed fatal workspace =>
        save s.workspace workspace
        IO.print printed
        close fatal
