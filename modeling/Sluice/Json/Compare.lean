import Sluice.Json.Basic
import Sluice.Number.Scalar

/-!
# Comparing JSON values

Two spellings of a number are the same value, and a truth value is never a number. A decimal
stands for the double nearest to it; numbers are compared by their exact values, so a double is
not the same as a whole number that it only comes near.
-/

set_option autoImplicit false

namespace Sluice.Json

/-- A number as a double. -/
def number? : Json → Option Float
  | .int n => some (Scalar.ofInt n)
  | .real d => some d.toScalar
  | _ => none

/-- The exact value of a number. -/
inductive Exact where
  /-- A fraction; its denominator is not zero. -/
  | finite (numerator : Int) (denominator : Nat)
  | infinite (negative : Bool)
  deriving DecidableEq, Repr

namespace Exact

/-- The exact value of a double, if it has one. -/
def ofFloat? (x : Float) : Option Exact :=
  match Binary64.ofFloat x with
  | .nan => none
  | .infinite negative => some (.infinite negative)
  | .finite negative m e =>
    let q := Binary64.fraction m e
    some (.finite (if negative then -(q.1 : Int) else q.1) q.2)

def less : Exact → Exact → Bool
  | .finite a b, .finite c d => a * d < c * b
  | .finite _ _, .infinite negative => !negative
  | .infinite negative, .finite _ _ => negative
  | .infinite a, .infinite b => a && !b

def same : Exact → Exact → Bool
  | .finite a b, .finite c d => a * d == c * b
  | .infinite a, .infinite b => a == b
  | _, _ => false

/-- Whether the first is a whole multiple of the second, which is not zero. -/
def isMultipleOf : Exact → Exact → Bool
  | .finite a b, .finite c d => a * d % (c * b) == 0
  | _, _ => false

end Exact

/-- The exact value of a number. -/
def exactValue? : Json → Option Exact
  | .int n => some (.finite n 1)
  | .real d => Exact.ofFloat? d.toScalar
  | _ => none

/-- Whether both are numbers and the first is less. -/
def less (a b : Json) : Bool :=
  match a.exactValue?, b.exactValue? with
  | some x, some y => x.less y
  | _, _ => false

/-- Whether both are numbers of the same value. -/
def sameNumber (a b : Json) : Bool :=
  match a.exactValue?, b.exactValue? with
  | some x, some y => x.same y
  | _, _ => false

/-- Whether a number is a multiple of another one. By a whole number that is so exactly; by a
decimal it is so if the quotient of the doubles is whole, and exactly where there is no such
quotient. -/
def isMultipleOf (a unit : Json) : Bool :=
  let exactly := fun unit : Option Exact =>
    match a.exactValue?, unit with
    | some x, some u => x.isMultipleOf u
    | _, _ => false
  match a, unit with
  | .int n, .int u => n % u == 0
  | _, .int u => exactly (Exact.ofFloat? (Scalar.ofInt u))
  | _, _ =>
    match a.number?, unit.number? with
    | some x, some u =>
      let quotient := x / u
      if Scalar.isFinite quotient then Scalar.isWhole quotient else exactly unit.exactValue?
    | _, _ => false

mutual

/-- Whether two values are the same. The order of members does not matter. -/
def same : Json → Json → Bool
  | .null, .null => true
  | .bool a, .bool b => a == b
  | .text s, .text t => s == t
  | .array xs, .array ys => sameItems xs ys
  | .object ms, .object ns => ms.length == ns.length && sameMembers ms ns
  | a, b => sameNumber a b

private def sameItems : List Json → List Json → Bool
  | [], [] => true
  | x :: xs, y :: ys => same x y && sameItems xs ys
  | _, _ => false

private def sameMembers : List (String × Json) → List (String × Json) → Bool
  | [], _ => true
  | (key, x) :: ms, ns =>
    (match member? key ns with
      | some y => same x y
      | none => false) && sameMembers ms ns

end

/-- Whether no two items of a list are the same. -/
def allDistinct : List Json → Bool
  | [] => true
  | x :: rest => !(rest.any (same x)) && allDistinct rest

end Sluice.Json
