import Sluice.Schema.Violation

/-!
# Remarks

Checking a value gives a list of remarks. Each is a violation, or says that checking got stuck at
this point (`Stuck`): nothing behind it was looked at, so it is the last remark of its list. A
value is valid if there are no remarks. Whoever only wants to know that asks for the first remark
and does not see a point further on where checking gets stuck (`Remark.isValid`).
-/

set_option autoImplicit false

namespace Sluice

/-- Why checking got stuck. -/
inductive Stuck where
  /-- A reference leads nowhere. -/
  | unresolved
  /-- A reference leads into a list, but not by a position. -/
  | noPosition
  /-- A reference leads into a value that has no parts. -/
  | noParts
  /-- A reference leads to something that is no schema. -/
  | noSchema
  /-- A reference leads back to itself at the same value. -/
  | endless
  /-- The items behind a truth value were to be counted. -/
  | noLength
  deriving DecidableEq, Repr

inductive Remark where
  | wrong (v : Violation)
  | stuck (cause : Stuck)
  deriving DecidableEq, Repr

namespace Remark

/-- A violation at the value itself. -/
def here (keyword : String) (fitsType : Bool) : Remark := .wrong (.here (some keyword) fitsType)

/-- A remark about a part, seen from the whole. -/
def under (step : Step) : Remark → Remark
  | .wrong v => .wrong (v.under step)
  | .stuck cause => .stuck cause

/-- The first point at which checking got stuck. -/
def stuck? : List Remark → Option Stuck
  | [] => none
  | .stuck cause :: _ => some cause
  | .wrong _ :: rest => stuck? rest

def violations (rs : List Remark) : List Violation :=
  rs.filterMap fun
    | .wrong v => some v
    | .stuck _ => none

/-- Goes on to further remarks unless checking got stuck. -/
def andThen (rs : List Remark) (more : Unit → List Remark) : List Remark :=
  if (stuck? rs).isSome then rs else rs ++ more ()

/-- The remarks on several things, one after another. -/
def onEach {β : Type} (check : β → List Remark) : List β → List Remark
  | [] => []
  | x :: rest => andThen (check x) fun _ => onEach check rest

/-- Whether a value with some remarks is valid. -/
def isValid : List Remark → Except Stuck Bool
  | [] => .ok true
  | .wrong _ :: _ => .ok false
  | .stuck cause :: _ => .error cause

/-- Whether one of several things is valid, of which the later ones are not looked at then. -/
def anyValid {β : Type} (check : β → List Remark) : List β → Except Stuck Bool
  | [] => .ok false
  | x :: rest => do if ← isValid (check x) then return true else anyValid check rest

/-- The remarks that a test for validity leads to. -/
def decide (test : Except Stuck Bool) (yes no : List Remark) : List Remark :=
  match test with
  | .ok true => yes
  | .ok false => no
  | .error cause => [.stuck cause]

end Remark

/-- Why a value is refused. -/
inductive Refusal where
  /-- It violates the schema, most relevantly here. -/
  | wrong (f : Finding)
  /-- It cannot be checked. -/
  | stuck (cause : Stuck)
  deriving DecidableEq, Repr

namespace Refusal

/-- What a list of remarks comes to. -/
def ofRemarks? (rs : List Remark) : Option Refusal :=
  match Remark.stuck? rs with
  | some cause => some (.stuck cause)
  | none => (Violation.best? (Remark.violations rs)).map fun v => .wrong v.finding

end Refusal

end Sluice
