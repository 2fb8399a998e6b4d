import Sluice.Network.State
import Sluice.Rule.Premise
import Sluice.Time.Clock

/-!
# Reading variables

The value of a variable comes from the state of the network or from what the clock shows, and
for some variables from both. `Source` says which: the state is looked at first, and what is
left is either a value or a function of the reading. So whether a variable needs the clock can
be seen without asking the clock, which may have no reading to give.

A value can be undefined without anything being wrong: a weir has no status, and a link that is
closed has not been open for any time.
-/

set_option autoImplicit false

namespace Sluice

/-- Why a variable cannot be read. -/
inductive ResolveError where
  | unknownObject (v : Variable)
  | state (e : StateError)
  /-- The clock has no reading. -/
  | clock (e : InstantError)
  deriving DecidableEq, Repr

namespace ResolveError

/-- A word as it is shown inside the description of a variable. -/
private def member (kind word : String) : String :=
  "<" ++ kind ++ "." ++ word ++ ": '" ++ word ++ "'>"

/-- A variable without an object as it is described in a message. -/
def describe (v : Variable) : String :=
  "Variable(object_type=" ++ member "ObjectType" v.object.word ++ ", index=-1, attribute="
    ++ member "Attribute" v.attr.word ++ ")"

def message? : ResolveError → Option String
  | .unknownObject v => some ("variable " ++ describe v ++ " refers to an unknown object")
  | .state e => e.message?
  | .clock _ => none

end ResolveError

/-- Where the value of a variable comes from once the state is known. -/
inductive Source (α : Type) where
  /-- A value that does not depend on the clock, perhaps an undefined one. -/
  | known (x : Option α)
  | ofReading (f : Reading α → α)

namespace Source

variable {α : Type} [Scalar α]

/-- The value, given what the clock shows. -/
def value (r : Reading α) : Source α → Option α
  | .known x => x
  | .ofReading f => some (f r)

/-- An attribute of the simulation, zero for one that it does not have. -/
def simulationValue (a : Attribute) (r : Reading α) : α :=
  match a with
  | .time => r.elapsedHours
  | .date => Scalar.ofInt r.date
  | .clockTime => r.clockTime
  | .dayOfYear => Scalar.ofInt r.dayOfYear
  | .day => Scalar.ofInt r.day
  | .month => Scalar.ofInt r.month
  | _ => Scalar.zero

/-- How many hours a link has been in a state, undefined while it is in the other one. -/
def hoursInState (l : Link α) (isOpen : Bool) : Source α :=
  if l.isOpen == isOpen then
    .ofReading fun r => r.elapsedHours - l.timeLastSet / TimeLiteral.secondsPerHour
  else .known none

/-- Where an attribute of a link comes from. Only conduits and pumps have a status, only the
other links have a setting. -/
def ofLink (s : State α) (o : ObjectType) (i : Nat) (a : Attribute) :
    Except StateError (Source α) :=
  match a with
  | .status => do
    let type ← s.linkType i
    if type.hasStatus then (s.value o i a).map fun x => .known (some x) else .ok (.known none)
  | .setting => do
    let type ← s.linkType i
    if type.hasStatus then .ok (.known none) else (s.value o i a).map fun x => .known (some x)
  | .timeOpen => (s.link? i).map fun l => hoursInState l true
  | .timeClosed => (s.link? i).map fun l => hoursInState l false
  | a => (s.value o i a).map fun x => .known (some x)

/-- Where the value of a variable comes from. -/
def find (s : State α) (v : Variable) : Except ResolveError (Source α) :=
  match v.object, v.position with
  | .simulation, _ => .ok (.ofReading (simulationValue v.attr))
  | _, none => .error (.unknownObject v)
  | .node, some i => ((s.value .node i v.attr).map fun x => .known (some x)).mapError .state
  | o, some i => (ofLink s o i v.attr).mapError .state

end Source

variable {α : Type} [Scalar α]

/-- The value of a variable, if it is defined. -/
def Variable.resolve (s : State α) (r : Reading α) (v : Variable) :
    Except ResolveError (Option α) := (Source.find s v).map (Source.value r)

/-- The value of an operand, if it is defined. -/
def Operand.resolve (s : State α) (r : Reading α) : Operand α → Except ResolveError (Option α)
  | .number x => .ok (some x)
  | .valueOf v => v.resolve s r

end Sluice
