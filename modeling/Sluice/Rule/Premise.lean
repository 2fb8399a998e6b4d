import Sluice.Network.Attribute
import Sluice.Number.Scalar

/-!
# Premises

A premise compares a *variable*, an attribute of an object, with a number or with another
variable. The objects of a variable are addressed by position; the simulation is one object and
has none. A comparison is exact, and one with a value that is not defined does not hold,
whichever way it is asked.
-/

set_option autoImplicit false

namespace Sluice

/-! ## 1. Variables -/

structure Variable where
  object : ObjectType
  /-- Where the object stands among those of its kind; none for the simulation. -/
  position : Option Nat
  attr : Attribute
  deriving DecidableEq, Repr

/-- A number, or the variable whose value is meant. -/
inductive Operand (α : Type) where
  | number (x : α)
  | valueOf (v : Variable)
  deriving Repr

/-! ## 2. Relations -/

inductive Relation where
  | eq | ne | lt | le | gt | ge
  deriving DecidableEq, Repr

namespace Relation

/-- The sign under which a relation is shown. -/
def sign : Relation → String
  | .eq => "="
  | .ne => "<>"
  | .lt => "<"
  | .le => "<="
  | .gt => ">"
  | .ge => ">="

/-- All signs that can be written; two relations have a second one. -/
def signs : List (String × Relation) :=
  [("=", .eq), ("==", .eq), ("<>", .ne), ("!=", .ne), ("<", .lt), ("<=", .le), (">", .gt),
    (">=", .ge)]

def find? (token : String) : Option Relation := signs.lookup token

variable {α : Type} [Scalar α]

def compare (r : Relation) (x y : α) : Bool :=
  match r with
  | .eq => x == y
  | .ne => !(x == y)
  | .lt => decide (x < y)
  | .le => decide (x ≤ y)
  | .gt => decide (y < x)
  | .ge => decide (y ≤ x)

/-- Compares two values; a value that is not defined satisfies no relation. -/
def holds (r : Relation) : Option α → Option α → Bool
  | some x, some y => r.compare x y
  | _, _ => false

end Relation

/-! ## 3. Premises -/

/-- How a premise is joined to the ones before it. -/
inductive Joint where
  | first | and | or
  deriving DecidableEq, Repr

def Joint.word : Joint → String
  | .first => "IF"
  | .and => "AND"
  | .or => "OR"

structure Premise (α : Type) where
  joint : Joint
  left : Variable
  relation : Relation
  right : Operand α
  deriving Repr

end Sluice
