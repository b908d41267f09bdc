import SceneForge.Config.File
import SceneForge.Logging

set_option autoImplicit false

/-!
# The console

A command acts on a depot, writes to two streams, and ends normally or with an exit code. Whatever
it did before it ends stays done.

## Main definitions

* `SceneForge.Cli.Console`, `SceneForge.Cli.Action` — the state of a command, and commands.
* `SceneForge.Cli.say`, `SceneForge.Cli.complain`, `SceneForge.Cli.exit`.
* `SceneForge.Cli.perform`, `SceneForge.Cli.orFail` — actions on the depot, and their failures.
-/

namespace SceneForge.Cli

/-- The state of a command. -/
structure Console where
  /-- What the command acts on. -/
  depot : Depot
  /-- What it wrote to the output stream. -/
  out : Bytes := []
  /-- What it wrote to the error stream. -/
  err : Bytes := []
  /-- The configuration, once it is loaded. -/
  config : Option Config := none

/-- A command; a failure is the exit code it ends with. -/
abbrev Action (α : Type) := ExceptT Nat (StateM Console) α

/-- Bytes go to the output stream. -/
def put (bytes : Bytes) : Action Unit := modify fun s => { s with out := s.out ++ bytes }

/-- A text goes to the output stream. -/
def say (text : String) : Action Unit := put (utf8 text)

/-- A text goes to the error stream. -/
def complain (text : String) : Action Unit := modify fun s => { s with err := s.err ++ utf8 text }

/-- The command ends with an exit code. -/
def exit {α : Type} (code : Nat) : Action α := throw code

/-- An action on the depot takes place. -/
def perform {α : Type} (job : Job α) : Action (Except Failure α) := do
  let s ← get
  let (r, depot) := job.runOn s.depot
  set { s with depot }
  return r

/-- A value, or the end of the command with a message about what went wrong at which step. -/
def orFailAt {α : Type} (step : String) (r : Except Failure α) : Action α :=
  match r with
  | .ok a => return a
  | .error f => do
    complain (step ++ ": " ++ f.message ++ "\n")
    exit 1

/-- A value, or the end of the command with a message about what went wrong. -/
def orFail {α : Type} (r : Except Failure α) : Action α := orFailAt "Error" r

/-! ## Columns -/

/-- Blanks that fill up a text. -/
def filler (width length : Nat) : String := String.ofList (List.replicate (width - length) ' ')

/-- A text filled up on its right. -/
def padRight (width : Nat) (s : String) : String := s ++ filler width s.length

/-- A text filled up on its left. -/
def padLeft (width : Nat) (s : String) : String := filler width s.length ++ s

end SceneForge.Cli
