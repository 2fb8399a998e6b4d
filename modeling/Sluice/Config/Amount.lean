import Sluice.Json.Basic
import Sluice.Number.Count

/-!
# Amounts of the settings

The fields of the settings are checked when settings are made, a scenario is not: it puts a
value of any kind in the place of a number. An `Amount` is therefore a number or some other JSON
value, and what needs the number asks for it (`number?`, `scalar?`). Only the sum of two amounts
has a meaning beyond numbers, for texts and lists are added by joining them.
-/

set_option autoImplicit false

namespace Sluice

inductive Amount (α : Type) where
  | number (c : Count α)
  | other (j : Json)
  deriving Repr

namespace Amount

section

variable {α : Type}

def whole (n : Int) : Amount α := .number (.whole n)

def scalar (x : α) : Amount α := .number (.scalar x)

/-- The number that an amount is, if it is one. -/
def number? : Amount α → Option (Count α)
  | .number c => some c
  | .other _ => none

end

section

variable {α : Type} [Scalar α]

/-- A value as an amount; a truth value counts as one or zero. -/
def ofJson : Json → Amount α
  | .int n => .whole n
  | .bool b => .whole (if b then 1 else 0)
  | .real d => .scalar d.toScalar
  | j => .other j

/-- The number that an amount is, as a scalar. -/
def scalar? (a : Amount α) : Option α := a.number?.map Count.toScalar

/-- The sum of two amounts, if they have one. -/
def add? : Amount α → Amount α → Option (Amount α)
  | .number a, .number b => some (.number (a.add b))
  | .other (.text a), .other (.text b) => some (.other (.text (a ++ b)))
  | .other (.array a), .other (.array b) => some (.other (.array (a ++ b)))
  | _, _ => none

end

end Amount

end Sluice
