import Sluice.Command.Arguments
import Sluice.Control.Model
import Sluice.Json.Bounded
import Sluice.Log.Logger

/-!
# Executing a command

A command is a function of the environment and of the texts of its files. It ends with an exit
code and what it wrote to standard output, where the lines of the log and those of the command
itself stand in the order in which they came about. A failure that a command does not report
itself is handed on, together with what was written until then.
-/

set_option autoImplicit false

namespace Sluice

/-- A failure that ends a command. -/
inductive CommandError where
  | settings (e : SettingsError)
  | scenario (e : ScenarioError)
  /-- A file is not JSON. -/
  | notJson
  | start (e : InstantTextError)
  | startTime (e : StartError)
  | dataset (e : DatasetError)
  | logger (e : LoggerError)
  | setup (e : SetupError)
  | update (e : UpdateError)
  deriving DecidableEq, Repr

/-- What is said of a failure where the command itself says nothing. -/
def CommandError.message : CommandError → String
  | .settings _ => "The settings are not valid."
  | .scenario _ => "The scenario cannot be applied."
  | .notJson => "A file is not JSON."
  | .start _ => "The start is not a date."
  | .startTime _ => "The start is not a timestamp."
  | .dataset e => e.message?.getD "The network cannot be read."
  | .logger _ => "The log cannot be configured."
  | .setup (.build (.fault f)) => f.message
  | .setup _ => "The rules cannot be read."
  | .update e => e.message?.getD "A control step cannot be completed."

/-- How a command ended. -/
structure CommandResult where
  exitCode : Nat
  output : String
  failure : Option CommandError
  deriving DecidableEq, Repr

namespace CommandResult

def failed (output : String) (e : CommandError) : CommandResult := ⟨1, output, some e⟩

def ofExcept : Except CommandError CommandResult → CommandResult
  | .ok r => r
  | .error e => failed "" e

end CommandResult

/-- Where a command finds what it needs. -/
structure Surroundings where
  /-- The settings in the environment. -/
  env : List (String × String)
  /-- The text of a file, if it exists. -/
  readFile : String → Option String

namespace Command

/-! ## 1. Reading the files -/

/-- The value that a file holds. -/
def readJson (text : String) : Except CommandError Json :=
  match (Json.read? text).bind Json.bounded? with
  | some j => .ok j
  | none => .error .notJson

variable {α : Type} [Scalar α] [TimeReader α]

/-- The settings of a command, with its scenario and its start. -/
def settings (w : Surroundings) (scenario start : Option String) :
    Except CommandError (Settings α) := do
  let s : Settings α ← (Settings.make w.env []).mapError .settings
  let s ← match scenario.bind w.readFile with
    | none => pure s
    | some text => do
      (s.applyScenario (← readJson text)).mapError .scenario
  match start with
  | none => return s
  | some text => do
    let t ← (TimeLiteral.instant α text TimeLiteral.lastYear false).mapError .start
    return { s with reference := .scalar t.unixTime }

/-- The network of a command; without a file it is empty. -/
def network (w : Surroundings) (file : Option String) (s : Settings α) :
    Except CommandError (Network α) := do
  let data ← match file.bind w.readFile with
    | none => pure (Json.object [])
    | some text => readJson text
  (Dataset.load data s.origin).mapError .dataset

/-! ## 2. Checking rules -/

/-- A line of output. -/
def line (s : String) : String := s ++ "\n"

/-- What a check writes after the faults. -/
def tally (rules faults : Nat) : String :=
  toString rules ++ " rules, " ++ toString faults ++ " errors"

/-- Builds the rules and writes the faults. The log has only errors in it, of which building
makes none. -/
def checkRules (α : Type) [Scalar α] [TimeReader α] (w : Surroundings) (files : Inputs) :
    Except CommandError CommandResult := do
  let s : Settings α ← settings w files.scenario none
  let n ← network w files.network s
  let _ ← s.startTimestamp.mapError .startTime
  let log ← (Logger.configure none s.name { s with logLevel := Level.error.word } true).mapError
    .logger
  let lines := Text.lines ((w.readFile files.rules).getD "")
  let (e, entries, built) := (Engine.ofClock (Clock.start s.timeline)).buildRules n false lines
  match built with
  | .error e => return .failed (log.writeAll entries) (.setup (.build e))
  | .ok faults =>
    let faultLines := String.join (faults.map fun f => line f.message)
    return ⟨if faults.isEmpty then 0 else 1,
      log.writeAll entries ++ faultLines ++ line (tally e.rules.length faults.length), none⟩

end Command

/-! ## 3. Running rules -/

namespace Command

/-- What a run writes about a setting that was committed. -/
def committedLine (stamp : String) (c : Committed Float) : String :=
  line (stamp ++ " " ++ c.linkId ++ " " ++ c.attr.word ++ " = " ++ generalText c.value ++ " ("
    ++ c.ruleId ++ ")")

/-- The stamp of a timestamp, empty outside the calendar. -/
def stampOf (t : Timeline Float) (timestamp : Int) : String :=
  match (⟨timestamp, t⟩ : Moment Float).dateTime with
  | .ok d => d.stamp
  | .error _ => ""

/-- The log entries of what happened. -/
def entries (events : List (StepEvent Float)) : List LogEntry := events.filterMap StepEvent.entry?

/-- What a cycle of a run writes: its log, then what was committed. -/
def cycleOutput (log : Logger) (t : Timeline Float) (c : Model.Cycle Float) : String :=
  log.writeAll (entries c.events)
    ++ String.join (c.committed.map (committedLine (stampOf t c.timestamp)))

/-- What a whole run writes. -/
def runOutput (log : Logger) (t : Timeline Float) (r : Model.Run Float) : String :=
  String.join (r.cycles.map (cycleOutput log t)) ++ log.writeAll (entries r.lastEvents)

/-- Sets up a model with the rules and runs it. A fault in strict mode is written and ends the
command. -/
def runRules [TimeReader Float] (w : Surroundings) (files : Inputs) (o : RunOptions Float) :
    Except CommandError CommandResult := do
  let s : Settings Float ← settings w files.scenario o.start
  let s := { s with controlStep := (o.controlStep.map Amount.scalar).getD s.controlStep }
  let n ← network w files.network s
  let log ← (Logger.configure none s.name s true).mapError .logger
  let start ← s.startTimestamp.mapError .startTime
  let config := ControlsConfig.ofMembers
    [("rules_file", .text files.rules), ("strict", .bool o.strict)]
  let (m, built, setup) := (Model.ofConfig config).setup n s w.readFile
  let output := log.writeAll built
  match setup with
  | .error (.build (.fault f)) => return ⟨1, output ++ line f.message, none⟩
  | .error e => return .failed output (.setup e)
  | .ok _ =>
    let r := Model.run Model.undisturbed m n start o.steps.toNat
    let output := output ++ runOutput log s.timeline r
    match r.outcome with
    | .error e => return .failed output (.update e)
    | .ok _ => return ⟨0, output, none⟩

/-- Executes a command. -/
def execute [TimeReader Float] (w : Surroundings) : Command Float → CommandResult
  | .check files => .ofExcept (checkRules Float w files)
  | .run files options => .ofExcept (runRules w files options)

/-- The first file of a command that does not exist. -/
def missingFile? (w : Surroundings) (c : Command Float) : Option String :=
  c.paths.find? fun path => (w.readFile path).isNone

/-- Reads arguments as a command and executes it. -/
def executeArguments [TimeReader Float] (w : Surroundings) (args : List String) :
    Except UsageError CommandResult := do
  let c ← parse args
  match missingFile? w c with
  | some path => throw (.noSuchFile path)
  | none => return execute w c

end Command

end Sluice
