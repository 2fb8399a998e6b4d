import Sluice.Config.Amount
import Sluice.Config.Field
import Sluice.Json.Reader
import Sluice.Time.Timeline

/-!
# Settings

The settings of a simulation come from three places. Fields that are given count before the
environment, and the environment before the defaults; what these yield is checked, and all
problems are reported at once. A scenario is applied on top of settings that exist already. It
sets what it names and is not checked again: a control step of zero or less, which the fields
refuse, can still come from a scenario, and so can a value that is no number at all. That is no
error as long as nobody needs the number; a first moment does, and so does a reading of the clock
(`startTimestamp`, `problem?`).
-/

set_option autoImplicit false

namespace Sluice

structure Settings (α : Type) where
  name : String
  logLevel : String
  /-- The template of a line of the log. -/
  logFormat : String
  /-- The unix time of timestamp 0. -/
  reference : Amount α
  /-- Seconds in a time unit. -/
  timeScale : Amount α
  /-- The timestamp at which the simulation starts. -/
  startTime : Amount α
  /-- The number of timestamps for which it runs. -/
  duration : Amount α
  /-- Seconds between two evaluations of the control rules. -/
  controlStep : Amount α
  /-- The configs of the models. -/
  models : Json

/-- Why settings cannot be made. -/
inductive SettingsError where
  /-- The models in the environment are not JSON. -/
  | unreadableModels
  | invalid (problems : List (String × FieldProblem))
  deriving DecidableEq, Repr

/-- Why a scenario cannot be applied. -/
inductive ScenarioError where
  /-- The scenario, or its simulation info, is not an object. -/
  | notAnObject
  deriving DecidableEq, Repr

/-- Why settings do not say at which timestamp a simulation starts. -/
inductive StartError where
  /-- The start is neither a number nor a text. -/
  | notANumber
  /-- The start is a text that is no whole number. -/
  | unreadable
  /-- The start is beyond all scalars. -/
  | infinite
  deriving DecidableEq, Repr

/-- Why a clock with some settings has no reading. -/
inductive SettingsProblem where
  | notANumber
  /-- The moment is outside the calendar. -/
  | outsideCalendar (e : InstantError)
  deriving DecidableEq, Repr

namespace Settings

/-! ## 1. Where a field comes from -/

/-- The names of all fields. -/
def fieldNames : List String :=
  ["name", "log_level", "log_format", "reference", "time_scale", "start_time", "duration",
    "control_step", "models"]

/-- The value of a name in the environment; names are compared without regard to case, and of
several the last one counts. -/
def environment? (env : List (String × String)) (name : String) : Option String :=
  (env.reverse.find? fun e => e.1.toLower == name).map (·.2)

/-- The fields that the environment gives. The models are JSON there, and a null gives none. -/
def environmentFields (env : List (String × String)) :
    Except SettingsError (List (String × Json)) := do
  let models ← match environment? env "models" with
    | none => pure []
    | some s =>
      match Json.read? s with
      | none => throw .unreadableModels
      | some .null => pure []
      | some j => pure [("models", j)]
  let texts := (fieldNames.filter (· != "models")).filterMap fun name =>
    (environment? env name).map fun s => (name, Json.text s)
  return texts ++ models

/-- A field from the first place that gives it. -/
def given? (fields env : List (String × Json)) (name : String) : Option Json :=
  (Json.member? name fields).or (Json.member? name env)

/-- Reads a field; a field that is not given, or not well, has its default. -/
def field {β : Type} (given : Option Json) (name : String) (default : β)
    (read : Json → Except FieldProblem β) : β × List (String × FieldProblem) :=
  match given.map read with
  | none => (default, [])
  | some (.ok x) => (x, [])
  | some (.error p) => (default, [(name, p)])

/-! ## 2. Making settings -/

variable {α : Type} [Scalar α]

/-- Reads all fields, and lists all problems. -/
def readFields (fields env : List (String × Json)) :
    Settings α × List (String × FieldProblem) :=
  let given := given? fields env
  let (name, p1) := field (given "name") "name" "controls" Field.text
  let (logLevel, p2) := field (given "log_level") "log_level" "INFO" Field.text
  let (logFormat, p3) := field (given "log_format") "log_format"
    "[\x7basctime\x7d] [\x7blevelname:8s\x7d] \x7bname:17s\x7d: \x7bmessage\x7d" Field.text
  let (reference, p4) := field (given "reference") "reference" Scalar.zero Field.scalar
  let (timeScale, p5) := field (given "time_scale") "time_scale" Scalar.one Field.scalar
  let (startTime, p6) := field (given "start_time") "start_time" 0 (Field.whole α)
  let (duration, p7) := field (given "duration") "duration" 0 (Field.whole α)
  let (controlStep, p8) := field (given "control_step") "control_step" (Scalar.ofInt 60)
    Field.positive
  let models := (given "models").getD (.array [])
  let unknown := fields.filterMap fun m =>
    if fieldNames.contains m.1 then none else some (m.1, FieldProblem.extraForbidden)
  (⟨name, logLevel, logFormat, .scalar reference, .scalar timeScale, .whole startTime,
      .whole duration, .scalar controlStep, models⟩,
    p1 ++ p2 ++ p3 ++ p4 ++ p5 ++ p6 ++ p7 ++ p8 ++ Field.objects "models" models ++ unknown)

/-- Makes settings from given fields and the environment. Problems are sorted by field. -/
def make (env : List (String × String)) (fields : List (String × Json)) :
    Except SettingsError (Settings α) := do
  let (s, problems) := readFields fields (← environmentFields env)
  if problems.isEmpty then return s
  else throw (.invalid (problems.mergeSort fun a b => a.1 ≤ b.1))

/-! ## 3. Scenarios -/

/-- What an object gives for a name, or else what is there already. -/
def override (members : List (String × Json)) (name : String) (current : Amount α) : Amount α :=
  ((Json.member? name members).map Amount.ofJson).getD current

/-- Applies the simulation info of a scenario, unless it is empty. -/
def applyInfo (s : Settings α) (info : Json) : Except ScenarioError (Settings α) :=
  if info.isTruthy then
    match info with
    | .object ms =>
      .ok { s with
        startTime := override ms "start_time" s.startTime
        timeScale := override ms "time_scale" s.timeScale
        reference := override ms "reference_time" s.reference
        duration := override ms "duration" s.duration }
    | _ => .error .notAnObject
  else .ok s

/-- Applies a scenario. What it does not name stays, except for the models. -/
def applyScenario (s : Settings α) (scenario : Json) : Except ScenarioError (Settings α) :=
  match scenario with
  | .object ms => do
    let s ← s.applyInfo ((Json.member? "simulation_info" ms).getD .null)
    return { s with
      controlStep := override ms "control_step" s.controlStep
      models := (Json.member? "models" ms).getD (.array []) }
  | _ => .error .notAnObject

/-! ## 4. The timeline -/

/-- The timestamp of the first moment. A text is as good as the whole number it spells. -/
def startTimestamp (s : Settings α) : Except StartError Int :=
  match s.startTime with
  | .number (.scalar x) => if Scalar.isFinite x then .ok (Scalar.truncate x) else .error .infinite
  | .number (.whole n) => .ok n
  | .other (.text t) =>
    match Numeral.readInt? t with
    | some n => .ok n
    | none => .error .unreadable
  | .other _ => .error .notANumber

/-- The timeline on which the simulation runs. Where an amount is no number the timeline has that
of the defaults; the simulation can then be set up, but its clock has no reading (`problem?`). -/
def timeline (s : Settings α) : Timeline α :=
  { reference := s.reference.scalar?.getD Scalar.zero
    timeScale := s.timeScale.scalar?.getD Scalar.one
    startTime := s.startTime.number?.getD (.whole 0)
    duration := s.duration.number?.getD (.whole 0) }

/-- What the bare numbers of time series count from. -/
def origin (s : Settings α) : Origin α :=
  match s.reference.scalar? with
  | some x => .since x
  | none => .missing

/-- Why the clock has no reading at a timestamp if some of the settings are no numbers. The instant
is asked for first, and then the time elapsed since the start. -/
def problem? (s : Settings α) (timestamp : Int) : Option SettingsProblem :=
  if s.reference.number?.isNone || s.timeScale.number?.isNone then some .notANumber
  else if s.startTime.number?.isSome then none
  else match (⟨timestamp, s.timeline⟩ : Moment α).dateTime with
    | .error e => some (.outsideCalendar e)
    | .ok _ => some .notANumber

/-- The timestamp at which the simulation ends, if start and duration can be added. -/
def endTime? (s : Settings α) : Option (Amount α) := s.startTime.add? s.duration

end Settings

end Sluice
