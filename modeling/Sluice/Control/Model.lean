import Sluice.Config.Controls
import Sluice.Config.FileName
import Sluice.Config.Settings
import Sluice.Control.Engine

/-!
# The controls model

A model is what takes part in a simulation. It is set up once against a network, then updated at
the moments it asks for, and shut down at the end. Setting up gives the model a fresh engine and
builds the rules of its config in it; an update evaluates the rules once and names the moment of
the next update. A model without an engine cannot be updated.

The length of the control step and the timeline come from the config and the settings as they
are, and a scenario may have left something else than a number in the settings. A setup that finds
no first moment leaves the engine that was there; one that fails later leaves its own engine, with
the rules that were built before the failure. What the other amounts are worth shows only when
rules are evaluated: first those of the timeline, for the clock is read before anything else, and
after the conditions the length of the step.
-/

set_option autoImplicit false

namespace Sluice

/-! ## 1. Kinds of models -/

namespace ModelType

/-- The names under which models can be asked for. -/
def names : List String := ["controls"]

def isKnown (name : String) : Bool := names.contains name

/-- What is said of a name that is not known. -/
def unknownMessage (name : String) : String := "Unknown model type '" ++ name ++ "'"

end ModelType

/-! ## 2. Setting up -/

structure Model (α : Type) where
  config : ControlsConfig
  /-- The length of a control step in seconds, once the model was set up. -/
  controlStep : Amount α
  /-- Absent before the first setup and after a shutdown. -/
  engine : Option (Engine α)
  /-- What in the settings of the engine keeps its clock from being read at a timestamp. -/
  problem? : Int → Option SettingsProblem

/-- Why a model could not be set up. -/
inductive SetupError where
  /-- There is no first moment. -/
  | start (e : StartError)
  /-- There is no file of rules. -/
  | file (e : NameError)
  | build (e : BuildFailure)
  deriving DecidableEq, Repr

/-- Why a model could not be updated. -/
inductive UpdateError where
  | notReady
  /-- The clock has no reading, and the settings are at fault. -/
  | settings (e : SettingsProblem)
  | step (e : StepError)
  /-- There is no moment for the next update. -/
  | schedule (e : TimestampError)
  deriving DecidableEq, Repr

namespace UpdateError

def message? : UpdateError → Option String
  | .notReady => some "controls model has not been set up"
  | _ => none

end UpdateError

namespace Model

variable {α : Type} [Scalar α]

omit [Scalar α] in
/-- A model that is not set up. -/
def ofConfig (config : ControlsConfig) : Model α := ⟨config, .whole 0, none, fun _ => none⟩

omit [Scalar α] in
/-- The lines of the rules. `readFile` looks up the text of a file. -/
def ruleLines (config : ControlsConfig) (readFile : String → Option String) :
    Except NameError (List String) :=
  match config.rules with
  | .lines ls => .ok ls
  | .file name => (FileName.read readFile name).map Text.lines

/-- What is logged when the rules are built. -/
def builtEntry (rules faults : Nat) : LogEntry :=
  ⟨.info, "Built " ++ toString rules ++ " control rules"
    ++ (if faults = 0 then "" else ", " ++ toString faults ++ " errors")⟩

/-- A clock at the first moment. -/
def startClock (s : Settings α) : Except StartError (Clock α) :=
  s.startTimestamp.map fun timestamp => ⟨s.timeline, timestamp⟩

/-- Sets up a model: a clock at the start of the timeline, and an engine with the rules of the
config. Answers with the faults that were collected. -/
def setup [TimeReader α] (m : Model α) (n : Network α) (s : Settings α)
    (readFile : String → Option String) :
    Model α × List LogEntry × Except SetupError (List Fault) :=
  let m := { m with controlStep := (m.config.controlStep.map Amount.ofJson).getD s.controlStep }
  match startClock s with
  | .error e => (m, [], .error (.start e))
  | .ok clock =>
    let fresh : Engine α := Engine.ofClock clock
    let withEngine := fun (e : Engine α) => { m with engine := some e, problem? := s.problem? }
    match ruleLines m.config readFile with
    | .error e => (withEngine fresh, [], .error (.file e))
    | .ok lines =>
      match fresh.buildRules n m.config.strict lines with
      | (e, log, .error failure) => (withEngine e, log, .error (.build failure))
      | (e, log, .ok faults) =>
        (withEngine e, log ++ [builtEntry e.rules.length faults.length], .ok faults)

omit [Scalar α] in
/-- Takes the engine away. -/
def shutdown (m : Model α) : Model α := { m with engine := none }

/-! ## 3. Updates -/

/-- What an update leaves behind. -/
structure Update (α : Type) where
  model : Model α
  network : Network α
  events : List (StepEvent α)
  /-- What was committed, and the timestamp of the next update. -/
  outcome : Except UpdateError (List (Committed α) × Int)

/-- A control step in minutes. A whole number of seconds is divided before it is a scalar, and may
be one only then. -/
def minutes (step : Amount α) : Except LengthError α :=
  match step with
  | .number (.scalar x) => .ok (x / Engine.secondsPerMinute)
  | .number (.whole seconds) =>
    let x : α := Scalar.ofInt seconds
    let least : α := Scalar.ofInt (seconds / 60)
    if Scalar.isFinite x then .ok (x / Engine.secondsPerMinute)
    else if Scalar.isFinite least then .ok least
    else .error .tooLong
  | .other _ => .error .notANumber

/-- Evaluates the rules of an engine with a control step. -/
def evaluate (e : Engine α) (n : Network α) (step : Amount α) : StepResult α :=
  match minutes step with
  | .ok x => e.evaluateMinutes n x
  | .error cause => e.judgeOnly n cause

/-- The control step in seconds, zero if it is no number. -/
def stepSeconds (m : Model α) : α := m.controlStep.scalar?.getD Scalar.zero

/-- Evaluates the rules at a timestamp. The next update is due one control step later. -/
def update (m : Model α) (n : Network α) (timestamp : Int) : Update α :=
  match m.engine with
  | none => ⟨m, n, [], .error .notReady⟩
  | some e =>
    let e := { e with clock := e.clock.set timestamp }
    match m.problem? timestamp with
    | some p => ⟨{ m with engine := some e }, n, [], .error (.settings p)⟩
    | none =>
      let r := evaluate e n m.controlStep
      let outcome :=
        match r.outcome with
        | .error cause => .error (.step cause)
        | .ok committed =>
          match e.clock.moment.addSeconds m.stepSeconds with
          | .error cause => .error (.schedule cause)
          | .ok next => .ok (committed, next.timestamp)
      ⟨{ m with engine := some r.engine }, r.network, r.events, outcome⟩

/-- Seconds since the start of the timeline, by the clock of the model. -/
def elapsedSeconds (m : Model α) : α :=
  match m.engine with
  | some e => e.clock.elapsedSeconds
  | none => Scalar.zero

/-- One update of a run, followed by the links taking over their target settings. -/
structure Cycle (α : Type) where
  timestamp : Int
  /-- How many links changed their setting. -/
  changed : Nat
  committed : List (Committed α)
  events : List (StepEvent α)
  /-- The network with the new settings. -/
  network : Network α

/-- What a run leaves behind. -/
structure Run (α : Type) where
  model : Model α
  network : Network α
  cycles : List (Cycle α)
  /-- What happened in an update that failed. -/
  lastEvents : List (StepEvent α)
  /-- The timestamp of the next update. -/
  outcome : Except UpdateError Int

namespace Run

omit [Scalar α] in
def events (r : Run α) : List (StepEvent α) := r.cycles.flatMap Cycle.events ++ r.lastEvents

end Run

/-- Updates a model a number of times, each time at the moment that the update before it named.
After each update the links take over their targets, and `between` is what happens to the
network until the next one, given the timestamps of both. -/
def run (between : Network α → Int → Int → Network α) (m : Model α) (n : Network α)
    (timestamp : Int) : Nat → Run α
  | 0 => ⟨m, n, [], [], .ok timestamp⟩
  | count + 1 =>
    let u := m.update n timestamp
    match u.outcome with
    | .error cause => ⟨u.model, u.network, [], u.events, .error cause⟩
    | .ok (committed, next) =>
      let state := u.network.state.applyTargets u.model.elapsedSeconds
      let n := { u.network with state := state }
      let cycle := ⟨timestamp, u.network.state.pendingCount, committed, u.events, n⟩
      let r := run between u.model (between n timestamp next) next count
      { r with cycles := cycle :: r.cycles }

/-- A network to which nothing happens between two updates. -/
def undisturbed (n : Network α) (_ _ : Int) : Network α := n

end Model

end Sluice
