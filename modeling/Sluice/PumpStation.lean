import Sluice.Calendar.Readers
import Sluice.Command.Execute

/-!
# A pump station

A wet well fills with a constant inflow and is emptied by a pump, which control rules switch on
above a high water level and off below a low one. A weir is throttled at night. The hydraulics
are reduced to the water balance of the wet well: between two control steps its depth changes by
what flows in less what the pump takes out, and it never falls below the bottom.
-/

set_option autoImplicit false

namespace Sluice.PumpStation

open scoped Readers

/-! ## 1. The station -/

def rules : String := "
[CONTROLS]
; switch the pump on a high water level
RULE PUMP_ON
IF NODE WW DEPTH > 2.5
THEN PUMP P1 STATUS = ON
PRIORITY 2

RULE PUMP_OFF
IF NODE WW DEPTH < 0.5
THEN PUMP P1 STATUS = OFF
PRIORITY 2

RULE NIGHT_WEIR
IF SIMULATION CLOCKTIME >= 22:00
OR SIMULATION CLOCKTIME < 06:00
THEN WEIR W1 SETTING = 0.2
ELSE WEIR W1 SETTING = 1
"

private def ints (ns : List Int) : Json := .array (ns.map .int)

private def texts (ss : List String) : Json := .array (ss.map .text)

/-- The wet well and its outlet, the pump and the weir. -/
def dataset : Json :=
  .object
    [("nodes", .object
        [("id", texts ["WW", "OUT"]), ("invert_elevation", ints [0, -2]), ("depth", ints [1, 0])]),
      ("links", .object
        [("id", texts ["P1", "W1"]), ("type", texts ["pump", "weir"]), ("setting", ints [0, 1])])]

/-- The simulation starts at the beginning of 3 June 2024 and is controlled every five minutes. -/
def fields : List (String × Json) :=
  [("reference", .int 1717372800), ("control_step", .int 300)]

/-! ## 2. The water balance -/

section

variable {α : Type} [Scalar α]

/-- Cubic metres per second that flow into the wet well. -/
def inflow : α := Scalar.ofDecimal 2 (-2)

/-- Cubic metres per second that the pump takes out. -/
def pumpCapacity : α := Scalar.ofDecimal 5 (-2)

/-- Square metres of the wet well. -/
def wetWellArea : α := Scalar.ofInt 10

/-- The depth of the wet well after some seconds with the pump at a setting. -/
def depthAfter (depth pump seconds : α) : α :=
  let outflow := if pump > Scalar.zero then pumpCapacity else Scalar.zero
  Scalar.atLeast (depth + (inflow - outflow) * seconds / wetWellArea) Scalar.zero

/-- Fills the wet well, which is the first node; the pump is the first link. -/
def fill (n : Network α) (seconds : α) : Network α :=
  match n.state.nodes, n.state.links with
  | well :: others, pump :: _ =>
    let well := { well with depth := depthAfter well.depth pump.setting seconds }
    { n with state := { n.state with nodes := well :: others } }
  | _, _ => n

end

/-! ## 3. The simulation -/

/-- The station after a control step. -/
structure Sample where
  stamp : String
  depth : Float
  pump : Float
  weir : Float
  deriving Repr

/-- What a simulation shows. -/
structure History where
  samples : List Sample
  /-- What was logged. -/
  output : String
  deriving Repr

/-- The sample of a cycle. -/
def sample (t : Timeline Float) (c : Model.Cycle Float) : Sample :=
  let setting := fun i => ((c.network.state.links[i]?).map Link.setting).getD 0
  { stamp := Command.stampOf t c.timestamp
    depth := (c.network.state.nodes.head?.map Node.depth).getD 0
    pump := setting 0
    weir := setting 1 }

/-- Simulates a number of control steps, with the environment for the form of the log. -/
def simulate (env : List (String × String)) (steps : Nat) : Except CommandError History := do
  let s : Settings Float ← (Settings.make env fields).mapError .settings
  let t := s.timeline
  let n ← (Dataset.load dataset s.origin).mapError .dataset
  let log ← (Logger.configure none s.name s true).mapError .logger
  let config := ControlsConfig.ofMembers [("rules", .text rules)]
  let (m, built, setup) := (Model.ofConfig config).setup n s fun _ => none
  let _ ← setup.mapError .setup
  let seconds := fun timestamp : Int => t.toSeconds (Scalar.ofInt timestamp)
  let between := fun (n : Network Float) now next => fill n (seconds next - seconds now)
  let r := Model.run between m n t.startTimestamp steps
  let _ ← r.outcome.mapError .update
  return ⟨r.cycles.map (sample t),
    log.writeAll (built ++ Command.entries r.events)⟩

end Sluice.PumpStation
