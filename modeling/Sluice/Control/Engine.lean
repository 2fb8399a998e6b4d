import Sluice.Control.Arbiter
import Sluice.Control.Condition
import Sluice.Rule.Text

/-!
# The control engine

Once every control step all rules are evaluated against the state at the start of the step:
which of them hold, which actions that selects, and which settings these compute. Only then are
the winning settings written, as target settings. Nothing that is written can be read in the
same step, so the order of the rules matters only between actions of equal priority.

A rule or an action that cannot be evaluated is left out and shows as an event of the step; the
others go on as if it were not there.
-/

set_option autoImplicit false

namespace Sluice

/-! ## 1. Events and reports -/

/-- What happened in a step and is worth a log entry. -/
inductive StepEvent (α : Type) where
  | ruleFailed (ruleId : String)
  | actionFailed (linkId ruleId : String)
  /-- A setting was written, at the instant with this stamp. -/
  | committed (stamp : String) (c : Committed α)
  deriving Repr

namespace StepEvent

/-- What a setting does to its link. -/
def describe (c : Committed Float) : String :=
  if c.attr = .status then
    "status changed to " ++ (if c.value > 0 then "open" else "closed")
  else "setting changed to " ++ centsText c.value

/-- The log entry of an event. A setting that was not changed has none, unless it is modulated:
then all of them are of little importance. -/
def entry? : StepEvent Float → Option LogEntry
  | .ruleFailed id => some ⟨.error, "Could not evaluate control rule " ++ id⟩
  | .actionFailed link rule =>
    some ⟨.error, "Could not calculate setting of " ++ link ++ " in rule " ++ rule⟩
  | .committed stamp c =>
    let text := stamp ++ ": link " ++ c.linkId ++ " " ++ describe c ++ " by control rule "
      ++ c.ruleId
    if c.modulated then some ⟨.debug, text⟩
    else if c.changed then some ⟨.info, text⟩
    else none

end StepEvent

/-- The outcome of the latest step. -/
structure Report (α : Type) where
  worldTime : Option α
  elapsedHours : Option α
  /-- The rules whose condition held. -/
  fired : List String
  /-- What was committed and is not modulated. -/
  actions : List (Committed α)
  deriving Repr

def Report.empty {α : Type} : Report α := ⟨none, none, [], []⟩

/-! ## 2. Judging a rule -/

/-- What a rule contributes to a step. -/
structure Judged (α : Type) where
  /-- The rule with the memories of its actions moved on. -/
  rule : Rule α
  fired : Bool
  /-- The actions that ask for a link, with the settings they computed. -/
  bids : List (Action α × α)
  /-- The condition could not be evaluated. -/
  failed : Bool
  /-- The links of the actions whose setting could not be computed. -/
  failedLinks : List String
  deriving Repr

variable {α : Type} [Scalar α]

/-- The actions of a branch after a step, the settings that could be computed, and the links of
those that could not. -/
def computeAll (n : Network α) (r : Reading α) (dt : α) :
    List (Action α) → List (Action α) × List (Action α × α) × List String
  | [] => ([], [], [])
  | a :: rest =>
    let (actions, bids, failed) := computeAll n r dt rest
    match a.compute n r dt with
    | .ok (x, a') => (a' :: actions, (a', x) :: bids, failed)
    | .error _ => (a :: actions, bids, a.linkId :: failed)

namespace Rule

/-- The actions of a rule for one outcome of its condition. -/
def branch (rule : Rule α) (holds : Bool) : List (Action α) :=
  if holds then rule.thenActions else rule.elseActions

/-- The rule with other actions for one outcome of its condition. -/
def withBranch (rule : Rule α) (holds : Bool) (actions : List (Action α)) : Rule α :=
  if holds then { rule with thenActions := actions } else { rule with elseActions := actions }

/-- Evaluates the condition of a rule and computes the actions that it selects. -/
def judge (n : Network α) (r : Reading α) (dt : α) (rule : Rule α) : Judged α :=
  match condition n.state r rule.premises with
  | .error _ => ⟨rule, false, [], true, []⟩
  | .ok holds =>
    let (actions, bids, failed) := computeAll n r dt (rule.branch holds)
    ⟨rule.withBranch holds actions, holds, bids, false, failed⟩

end Rule

namespace Judged

def bidsOf (j : Judged α) : List (α × String × Action α × α) :=
  j.bids.map fun (a, x) => (j.rule.priority, j.rule.id, a, x)

/-- The queue of a step: the bids of all rules in order. -/
def queue (js : List (Judged α)) : List (Candidate α) :=
  (js.flatMap bidsOf).zipIdx.map fun ((priority, ruleId, action, value), order) =>
    ⟨priority, order, ruleId, action, value⟩

/-- The ids of the rules whose condition held. -/
def firedIds (js : List (Judged α)) : List String :=
  (js.filter Judged.fired).map fun j => j.rule.id

/-- What could not be evaluated: first the rules, then the actions. -/
def failures (js : List (Judged α)) : List (StepEvent α) :=
  (js.filter Judged.failed).map (fun j => .ruleFailed j.rule.id)
    ++ js.flatMap fun j => j.failedLinks.map fun link => .actionFailed link j.rule.id

end Judged

/-! ## 3. The engine -/

structure Engine (α : Type) where
  clock : Clock α
  builder : Builder α
  /-- What the clock showed when it was last asked. -/
  reading : Option (Reading α)
  report : Report α
  deriving Repr

/-- Why a control step has no length in minutes. -/
inductive LengthError where
  | notANumber
  /-- It is a whole number beyond all scalars. -/
  | tooLong
  deriving DecidableEq, Repr

/-- Why a control step was not completed. -/
inductive StepError where
  /-- The clock has no reading. -/
  | clock (e : InstantError)
  | length (e : LengthError)
  /-- A setting could not be written. -/
  | commit (e : StateError)
  deriving DecidableEq, Repr

/-- What a control step leaves behind. -/
structure StepResult (α : Type) where
  engine : Engine α
  network : Network α
  events : List (StepEvent α)
  outcome : Except StepError (List (Committed α))

namespace Engine

omit [Scalar α] in
/-- An engine without rules. -/
def ofClock (c : Clock α) : Engine α := ⟨c, .empty, none, .empty⟩

omit [Scalar α] in
def rules (e : Engine α) : List (Rule α) := e.builder.rules

omit [Scalar α] in
def withRules (e : Engine α) (rules : List (Rule α)) : Engine α :=
  { e with builder := { e.builder with rules := rules } }

/-- Seconds in a minute, the unit of time of controllers. -/
def secondsPerMinute : α := Scalar.ofInt 60

/-- Asks the clock, for all variables that are read until it is asked again. -/
def takeReading (e : Engine α) : Except InstantError (Engine α × Reading α) :=
  e.clock.reading.map fun r => ({ e with reading := some r }, r)

/-- What the clock showed when it was last asked, or shows now if it never was. -/
def currentReading (e : Engine α) : Except InstantError (Engine α × Reading α) :=
  match e.reading with
  | some r => .ok (e, r)
  | none => e.takeReading

/-- Reads a variable between two steps. The clock is asked only if the variable needs it. -/
def resolve (e : Engine α) (s : State α) (v : Variable) :
    Except ResolveError (Engine α × Option α) := do
  match ← Source.find s v with
  | .known x => return (e, x)
  | .ofReading f => do
    let (e, r) ← e.currentReading.mapError .clock
    return (e, some (f r))

omit [Scalar α] in
/-- The report of a step. -/
def reportOf (r : Reading α) (fired : List String) (committed : List (Committed α)) : Report α :=
  ⟨some r.worldTime, some r.elapsedHours, fired, committed.filter fun c => !c.modulated⟩

/-- Evaluates all rules and writes the winning settings, with a control step of some minutes. -/
def evaluateMinutes (e : Engine α) (n : Network α) (minutes : α) : StepResult α :=
  match e.takeReading with
  | .error cause => ⟨e, n, [], .error (.clock cause)⟩
  | .ok (e, r) =>
    let judged := e.rules.map (Rule.judge n r minutes)
    let e := e.withRules (judged.map Judged.rule)
    let failures := Judged.failures judged
    let (state, written) := Candidate.writeAll n.state (Candidate.winners (Judged.queue judged))
    let n := { n with state := state }
    match written with
    | .error cause => ⟨e, n, failures, .error (.commit cause)⟩
    | .ok committed =>
      let e := { e with report := reportOf r (Judged.firedIds judged) committed }
      match DateTime.ofUnixTime r.worldTime with
      | .error cause => ⟨e, n, failures, .error (.clock cause)⟩
      | .ok t => ⟨e, n, failures ++ committed.map (.committed t.stamp), .ok committed⟩

/-- Evaluates all rules and writes the winning settings. `step` is the length of a control step
in seconds. -/
def evaluate (e : Engine α) (n : Network α) (step : α) : StepResult α :=
  e.evaluateMinutes n (step / secondsPerMinute)

/-- A step that ends before any setting is computed: the conditions were evaluated, no more. -/
def judgeOnly (e : Engine α) (n : Network α) (cause : LengthError) : StepResult α :=
  match e.takeReading with
  | .error cause => ⟨e, n, [], .error (.clock cause)⟩
  | .ok (e, r) =>
    let failed := e.rules.filter fun rule => !(condition n.state r rule.premises).isOk
    ⟨e, n, failed.map fun rule => .ruleFailed rule.id, .error (.length cause)⟩

omit [Scalar α] in
/-- The memories of all controllers, rules in order. -/
def memories (e : Engine α) : List (α × α) :=
  e.rules.flatMap fun rule =>
    rule.actions.filterMap fun a => a.controller?.map fun c => (c.e1, c.e2)

/-- Clears the memories of all controllers. -/
def resetMemories (e : Engine α) : Engine α :=
  e.withRules (e.rules.map (Rule.mapActions Action.reset))

/-- Adds a line of rule text, given by its tokens. -/
def addLine [TimeReader α] (e : Engine α) (n : Network α) (tokens : List String)
    (line : Option Int) : Engine α × List String × Option ClauseError :=
  let added := e.builder.addLine n tokens line
  ({ e with builder := added.builder }, added.warnings, added.error)

omit [Scalar α] in
/-- Finishes building. -/
def finishRules (e : Engine α) : Engine α × Option Fault :=
  let (builder, missing) := e.builder.finish
  ({ e with builder := builder }, missing)

/-- Builds the rules of a text. -/
def buildRules [TimeReader α] (e : Engine α) (n : Network α) (strict : Bool) (lines : List String) :
    Engine α × List LogEntry × Except BuildFailure (List Fault) :=
  let (p, failure) := e.builder.addText n strict lines
  ({ e with builder := p.builder }, p.log,
    match failure with
    | none => .ok p.faults
    | some f => .error f)

end Engine

end Sluice
