import Sluice.Control.Source
import Sluice.Network.Dataset
import Sluice.Rule.Action

/-!
# Computing settings

The setting of an action is computed from the state at the start of the step, what the clock
shows, the tables, and for a PID controller its memory. Computing an action has no effect on any
of these but the memory of the action itself, which is returned moved on beside the setting.

A modulated setting whose variable is undefined keeps the link where its target is.
-/

set_option autoImplicit false

namespace Sluice

/-- Why a setting cannot be computed. -/
inductive ComputeError where
  | resolve (e : ResolveError)
  | state (e : StateError)
  /-- There is no table at the position that the action names. -/
  | noTable
  | unsupportedMode
  deriving DecidableEq, Repr

variable {α : Type} [Scalar α]

namespace Controller

/-- The change of the setting at a step with this error, `dt` minutes after the last one. The
integral and the derivative need a length of time; without one only the proportional part
remains. -/
def change (c : Controller α) (error dt : α) : α :=
  let proportional := c.kp * (error - c.e1)
  if dt > Scalar.zero then
    proportional + c.ki * error * dt
      + c.kd * (error - Scalar.ofInt 2 * c.e1 + c.e2) / dt
  else proportional

/-- The memory after a step with this error. -/
def advance (c : Controller α) (error : α) : Controller α := { c with e1 := error, e2 := c.e1 }

/-- The range of settings: never negative, and at most one except for pumps. -/
def clip (type : LinkType) (x : α) : α :=
  let x := Scalar.atLeast x Scalar.zero
  if type = .pump then x else Scalar.atMost x Scalar.one

/-- The setting of a controlled link at a step, and the controller after it. -/
def compute (s : State α) (r : Reading α) (dt : α) (link : Nat) (c : Controller α) :
    Except ComputeError (α × Controller α) := do
  let current ← (s.target link).mapError .state
  let controlled ← (c.controlled.resolve s r).mapError .resolve
  let setpoint ← (c.setpoint.resolve s r).mapError .resolve
  match controlled, setpoint with
  | some controlled, some setpoint => do
    let error := setpoint - controlled
    let type ← (s.linkType link).mapError .state
    return (clip type (current + c.change error dt), c.advance error)
  | _, _ => return (current, c)

end Controller

/-- The value of the table at a position. -/
def lookupAt (tables : List (Table α)) (i : Nat) (x : α) : Except ComputeError α :=
  match tables[i]? with
  | some t => .ok (t.lookup x)
  | none => .error .noTable

/-- The setting that follows a curve. -/
def curveSetting (n : Network α) (r : Reading α) (link : Nat) (curve : Nat) (v : Variable) :
    Except ComputeError α := do
  match ← (v.resolve n.state r).mapError .resolve with
  | some x => lookupAt n.curves curve x
  | none => (n.state.target link).mapError .state

/-- The setting of an action in a step of `dt` minutes, and the action after it. -/
def Action.compute (n : Network α) (r : Reading α) (dt : α) (a : Action α) :
    Except ComputeError (α × Action α) :=
  match a.mode with
  | .fixed x => .ok (x, a)
  | .curve i v => (curveSetting n r a.link i v).map fun x => (x, a)
  | .timeSeries i => (lookupAt n.series i r.worldTime).map fun x => (x, a)
  | .pid c =>
    (c.compute n.state r dt a.link).map fun (x, c) => (x, { a with mode := .pid c })
  | .unsupported => .error .unsupportedMode

end Sluice
