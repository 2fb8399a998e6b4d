import Sluice.Rule.Premise

/-!
# Actions and rules

An action gives a link a new setting. The setting may be fixed, or it may follow something from
step to step: a curve over a variable, a time series, or a PID controller. A controller has a
memory of its last two errors, which is part of the action and moves on each time the action is
computed.

A rule is a condition, its premises, with the actions for when it holds and those for when it
does not.
-/

set_option autoImplicit false

namespace Sluice

/-- A discrete PID controller that drives a variable towards a setpoint. -/
structure Controller (α : Type) where
  controlled : Variable
  setpoint : Operand α
  kp : α
  ki : α
  kd : α
  /-- The error of the last step. -/
  e1 : α
  /-- The error of the step before the last. -/
  e2 : α
  deriving Repr

/-- Where a setting comes from. -/
inductive Mode (α : Type) where
  | fixed (value : α)
  /-- A curve, looked up at the value of a variable. -/
  | curve (position : Nat) (controlled : Variable)
  | timeSeries (position : Nat)
  | pid (c : Controller α)
  /-- A mode that no clause produces and that cannot be computed. -/
  | unsupported
  deriving Repr

structure Action (α : Type) where
  link : Nat
  linkId : String
  attr : Attribute
  mode : Mode α
  deriving Repr

structure Rule (α : Type) where
  id : String
  /-- The number of rules that were built before it. -/
  position : Nat
  /-- The line of its header, if it was read from a file. -/
  line : Option Int
  priority : α
  premises : List (Premise α)
  thenActions : List (Action α)
  elseActions : List (Action α)
  deriving Repr

variable {α : Type}

def Controller.reset [Scalar α] (c : Controller α) : Controller α :=
  { c with e1 := Scalar.zero, e2 := Scalar.zero }

/-- Whether the setting follows something instead of being fixed. -/
def Action.isModulated (a : Action α) : Bool :=
  match a.mode with
  | .fixed _ => false
  | _ => true

/-- The controller of an action, if it has one. -/
def Action.controller? (a : Action α) : Option (Controller α) :=
  match a.mode with
  | .pid c => some c
  | _ => none

/-- Clears the memory of an action. -/
def Action.reset [Scalar α] (a : Action α) : Action α :=
  match a.mode with
  | .pid c => { a with mode := .pid c.reset }
  | _ => a

/-- All actions of a rule, those for when its condition holds first. -/
def Rule.actions (r : Rule α) : List (Action α) := r.thenActions ++ r.elseActions

/-- Applies a function to all actions of a rule. -/
def Rule.mapActions (f : Action α → Action α) (r : Rule α) : Rule α :=
  { r with thenActions := r.thenActions.map f, elseActions := r.elseActions.map f }

end Sluice
