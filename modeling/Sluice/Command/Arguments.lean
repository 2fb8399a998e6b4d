import Sluice.Number.Numeral

/-!
# Command line arguments

The program has two commands. `check` reports the faults in a file of control rules, and `run`
evaluates the rules for a number of control steps. Both take the file of rules and options that
name further files; options and the file may come in any order, an option that is given again
counts the last time, and behind `--` everything is a file. The value of an option follows it,
or stands behind an equals sign.
-/

set_option autoImplicit false

namespace Sluice

/-- Why arguments are no command. -/
inductive UsageError where
  | noCommand
  | unknownCommand (name : String)
  | unknownOption (name : String)
  | missingValue (option : String)
  /-- A flag takes no value. -/
  | unwantedValue (option : String)
  | notANumber (option value : String)
  | missingRules
  | extraArgument (argument : String)
  | noSuchFile (path : String)
  deriving DecidableEq, Repr

namespace UsageError

def message : UsageError → String
  | .noCommand => "Missing command."
  | .unknownCommand name => "No such command '" ++ name ++ "'."
  | .unknownOption name => "No such option: " ++ name
  | .missingValue option => "Option '" ++ option ++ "' requires an argument."
  | .unwantedValue option => "Option '" ++ option ++ "' does not take a value."
  | .notANumber option value =>
    "Invalid value for '" ++ option ++ "': '" ++ value ++ "' is not a valid number."
  | .missingRules => "Missing argument 'CONTROLS'."
  | .extraArgument argument => "Got unexpected extra argument (" ++ argument ++ ")"
  | .noSuchFile path => "File '" ++ path ++ "' does not exist."

end UsageError

/-- The files of a command. -/
structure Inputs where
  rules : String
  network : Option String
  scenario : Option String
  deriving DecidableEq, Repr

/-- What `run` is told beside its files. -/
structure RunOptions (α : Type) where
  steps : Int
  /-- Seconds between two control steps, if not those of the settings. -/
  controlStep : Option α
  /-- The instant of timestamp 0, if not that of the settings. -/
  start : Option String
  strict : Bool
  deriving DecidableEq, Repr

inductive Command (α : Type) where
  | check (files : Inputs)
  | run (files : Inputs) (options : RunOptions α)
  deriving DecidableEq, Repr

namespace Command

/-! ## 1. Options and files -/

/-- An option, and whether it takes a value. -/
structure OptionForm where
  name : String
  takesValue : Bool
  deriving DecidableEq, Repr

def checkOptions : List OptionForm := [⟨"--network", true⟩, ⟨"--scenario", true⟩]

def runOptions : List OptionForm :=
  checkOptions ++ [⟨"--steps", true⟩, ⟨"--control-step", true⟩, ⟨"--start", true⟩,
    ⟨"--strict", false⟩]

/-- Arguments sorted into options with their values, and the rest. -/
structure Sorted where
  options : List (String × String)
  others : List String
  deriving DecidableEq, Repr

/-- Splits an argument at its first equals sign. -/
def splitValue (arg : String) : String × Option String :=
  let name := arg.toList.takeWhile (· != '=')
  match arg.toList.drop name.length with
  | [] => (arg, none)
  | _ :: value => (String.ofList name, some (String.ofList value))

/-- An argument that is an option: a dash and more. -/
def isOption (arg : String) : Bool :=
  match arg.toList with
  | '-' :: _ :: _ => true
  | _ => false

/-- Sorts arguments by the options of a command. -/
def sort (forms : List OptionForm) : List String → Except UsageError Sorted
  | [] => .ok ⟨[], []⟩
  | arg :: rest =>
    if arg == "--" then .ok ⟨[], rest⟩
    else if isOption arg then
      let (name, value) := splitValue arg
      match forms.find? (·.name == name), value, rest with
      | none, _, _ => .error (.unknownOption name)
      | some ⟨_, false⟩, some _, _ => .error (.unwantedValue name)
      | some ⟨_, false⟩, none, rest => (sort forms rest).map (add name "")
      | some ⟨_, true⟩, some value, rest => (sort forms rest).map (add name value)
      | some ⟨_, true⟩, none, value :: rest => (sort forms rest).map (add name value)
      | some ⟨_, true⟩, none, [] => .error (.missingValue name)
    else (sort forms rest).map fun s => { s with others := arg :: s.others }
where
  add (name value : String) (s : Sorted) : Sorted :=
    { s with options := (name, value) :: s.options }

namespace Sorted

/-- The value of an option, the last one if it is given several times. -/
def option? (s : Sorted) (name : String) : Option String := s.options.reverse.lookup name

/-- The value of an option that is a number, as `read` reads it. -/
def number? {β : Type} (s : Sorted) (name : String) (read : String → Option β) :
    Except UsageError (Option β) :=
  match s.option? name with
  | none => .ok none
  | some value =>
    match read value with
    | some x => .ok (some x)
    | none => .error (.notANumber name value)

/-- The files of a command. -/
def inputs (s : Sorted) : Except UsageError Inputs :=
  match s.others with
  | [] => .error .missingRules
  | [rules] => .ok ⟨rules, s.option? "--network", s.option? "--scenario"⟩
  | _ :: extra :: _ => .error (.extraArgument extra)

end Sorted

/-! ## 2. Commands -/

variable {α : Type} [Scalar α]

/-- Reads the arguments of the program. -/
def parse : List String → Except UsageError (Command α)
  | [] => .error .noCommand
  | name :: args =>
    if name == "check" then do
      let s ← sort checkOptions args
      return .check (← s.inputs)
    else if name == "run" then do
      let s ← sort runOptions args
      let files ← s.inputs
      let steps ← s.number? "--steps" Numeral.readInt?
      let controlStep ← s.number? "--control-step" readScalar?
      return .run files
        ⟨steps.getD 1, controlStep, s.option? "--start", (s.option? "--strict").isSome⟩
    else .error (.unknownCommand name)

omit [Scalar α] in
def files : Command α → Inputs
  | .check files => files
  | .run files _ => files

omit [Scalar α] in
/-- The paths of all files that a command reads. -/
def paths (c : Command α) : List String :=
  c.files.rules :: (c.files.network.toList ++ c.files.scenario.toList)

end Command

end Sluice
