import Sluice.Calendar.Readers
import Sluice.Command.Execute

/-!
# The command line program

Collects the arguments, the settings in the environment and the files, executes the command and
writes what it has to say.
-/

set_option autoImplicit false

open Sluice
open scoped Sluice.Readers

/-- What the names of settings in the environment begin with. -/
def environmentMark : String := "DRAINAGE_"

/-- The settings in the environment, in capitals or in small letters. -/
def readEnvironment : IO (List (String × String)) := do
  let spellings := Settings.fieldNames.flatMap fun name =>
    let full := environmentMark ++ name
    [(name, full.toLower), (name, full.toUpper)]
  let found ← spellings.mapM fun (name, full) => do
    return (← IO.getEnv full).map fun value => (name, value)
  return found.filterMap id

/-- The text of a file, if there is one. -/
def readText (path : String) : IO (Option String) := do
  try
    return some (← IO.FS.readFile path)
  catch _ =>
    return none

def main (args : List String) : IO UInt32 := do
  match (Command.parse args : Except UsageError (Command Float)) with
  | .error e =>
    IO.eprintln e.message
    return 2
  | .ok command =>
    let texts ← command.paths.mapM fun path => do return (path, ← readText path)
    let surroundings : Surroundings := ⟨← readEnvironment, fun path => (texts.lookup path).join⟩
    match Command.missingFile? surroundings command with
    | some path =>
      IO.eprintln (UsageError.noSuchFile path).message
      return 2
    | none =>
      let result := Command.execute surroundings command
      IO.print result.output
      match result.failure with
      | some e => IO.eprintln e.message
      | none => pure ()
      return result.exitCode.toUInt32
