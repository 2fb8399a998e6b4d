import Sluice.Number.Scalar

/-!
# Counts

A timestamp is a whole number of any size, and a scalar need not hold it exactly. Where a
simulation is told a timestamp it may also be told a scalar, with a fraction even. A `Count` is
either of the two: whole numbers stay exact, and are added exactly, until a scalar is asked for.
-/

set_option autoImplicit false

namespace Sluice

inductive Count (α : Type) where
  | whole (n : Int)
  | scalar (x : α)
  deriving DecidableEq, Repr

namespace Count

variable {α : Type} [Scalar α]

def toScalar : Count α → α
  | .whole n => Scalar.ofInt n
  | .scalar x => x

/-- The whole part, cut off toward zero. -/
def truncate : Count α → Int
  | .whole n => n
  | .scalar x => Scalar.truncate x

/-- The sum, which is exact if both are whole. -/
def add : Count α → Count α → Count α
  | .whole m, .whole n => .whole (m + n)
  | a, b => .scalar (a.toScalar + b.toScalar)

end Count

end Sluice
