import Sluice.Json.Basic

/-!
# JSON with machine numbers

The files of a command are read with machine numbers: a whole number has 64 bits, with or without
a sign, and any other number is a double. A whole number that needs more bits becomes a double as
well, and a number beyond all doubles is no number, so that the file cannot be read.
-/

set_option autoImplicit false

namespace Sluice.Json

/-- The least whole number of 64 bits with a sign, and the bound of those without one. -/
def leastWhole : Int := -9223372036854775808

def wholeBound : Int := 18446744073709551616

/-- A number that is a double, if it is finite. -/
def double? (d : Decimal) : Option Json :=
  if Scalar.isFinite (d.toScalar : Float) then some (.real d) else none

mutual

/-- A value with machine numbers, if all its numbers can be had. -/
def bounded? : Json → Option Json
  | .null => some .null
  | .bool b => some (.bool b)
  | .int n =>
    if leastWhole ≤ n && n < wholeBound then some (.int n)
    else double? ⟨n < 0, n.natAbs, 0⟩
  | .real d => double? d
  | .text s => some (.text s)
  | .array items => (boundedItems? items).map .array
  | .object members => (boundedMembers? members).map .object

def boundedItems? : List Json → Option (List Json)
  | [] => some []
  | j :: rest => do
    let j ← bounded? j
    let rest ← boundedItems? rest
    some (j :: rest)

def boundedMembers? : List (String × Json) → Option (List (String × Json))
  | [] => some []
  | (key, j) :: rest => do
    let j ← bounded? j
    let rest ← boundedMembers? rest
    some ((key, j) :: rest)

end

end Sluice.Json
