import Sluice.Calendar.TimeLiteral
import Sluice.Time.Timeline

/-!
# Lookup tables

A curve gives the setting of a link for the value of a variable, a time series gives it for a
unix time. Both are tables of points with strictly increasing `x`. Between two points the lookup
follows their connecting line, outside the table it stays at the nearest end, and an empty table
is zero everywhere.

The segment of `x` is the last one that does not start right of it, so that a point of the table
answers with its own `y`. It is found by trying the first three segments and then halving what is
left (`segment`). In a table in order every such search ends at the same segment; the one that is
made shows only where a missing value stands among the `x`, because nothing is left or right of
it. Where a slope cannot be computed because an end of the segment is infinite, the line is taken
from the other end before the result is given up as undefined.
-/

set_option autoImplicit false

namespace Sluice

/-- Why some points do not form a table. -/
inductive TableError where
  | sizesDiffer (name : String)
  | notIncreasing (name : String)
  deriving DecidableEq, Repr

def TableError.message : TableError → String
  | .sizesDiffer name => "table '" ++ name ++ "' needs as many x values as y values"
  | .notIncreasing name => "table '" ++ name ++ "' must have strictly increasing x values"

structure Point (α : Type) where
  x : α
  y : α
  deriving Repr

structure Table (α : Type) where
  name : String
  points : List (Point α)
  deriving Repr

namespace Table

variable {α : Type} [Scalar α]

/-! ## 1. Construction -/

/-- Whether a step from one `x` to the next fails to go up. -/
def hasStepBack : List α → Bool
  | a :: b :: rest => decide (b - a ≤ Scalar.zero) || hasStepBack (b :: rest)
  | _ => false

/-- A table of the given points. -/
def make? (name : String) (xs ys : List α) : Except TableError (Table α) :=
  if xs.length ≠ ys.length then .error (.sizesDiffer name)
  else if hasStepBack xs then .error (.notIncreasing name)
  else .ok ⟨name, List.zipWith Point.mk xs ys⟩

def xs (t : Table α) : List α := t.points.map Point.x

def ys (t : Table α) : List α := t.points.map Point.y

/-! ## 2. Lookup -/

/-- The value at `x` on the line through two points. -/
def line (p q : Point α) (x : α) : α :=
  let slope := (q.y - p.y) / (q.x - p.x)
  let fromLeft := slope * (x - p.x) + p.y
  if Scalar.isNaN fromLeft then
    let fromRight := slope * (x - q.x) + q.y
    if Scalar.isNaN fromRight && p.y == q.y then p.y else fromRight
  else fromLeft

/-- The first index between `lo` and `hi` that does not pass, found by halving: if the indices
that pass come before those that do not, there is no other one that ends the passing ones. -/
def bisect (passes : Nat → Bool) (lo hi : Nat) : Nat :=
  if lo < hi then
    let mid := lo + (hi - lo) / 2
    if passes mid then bisect passes (mid + 1) hi else bisect passes lo mid
  else lo
termination_by hi - lo

theorem bisect_mem (passes : Nat → Bool) (lo hi : Nat) (h : lo ≤ hi) :
    lo ≤ bisect passes lo hi ∧ bisect passes lo hi ≤ hi := by
  fun_induction bisect passes lo hi with
  | case1 lo hi hlt mid _ ih =>
    have hmid : mid = lo + (hi - lo) / 2 := rfl
    have := ih (by omega)
    omega
  | case2 lo hi hlt mid _ ih =>
    have hmid : mid = lo + (hi - lo) / 2 := rfl
    have := ih (by omega)
    omega
  | case3 lo hi hge => omega

/-- Whether point number `i` lies right of `x`. -/
def isRight (points : List (Point α)) (x : α) (i : Nat) : Bool :=
  (points[i]?).any fun p => decide (x < p.x)

/-- Whether point number `i` lies at `x` or left of it. -/
def isReached (points : List (Point α)) (x : α) (i : Nat) : Bool :=
  (points[i]?).any fun p => decide (p.x ≤ x)

/-- The number of the segment of an `x` that is neither left of the first point nor right of the
last one. Up to four points are walked through. Of more, the first three segments are tried, and
then the others are searched by halving, only the next six of them if the point behind those is
right of `x`. -/
def segment (points : List (Point α)) (x : α) : Nat :=
  let size := points.length
  if size ≤ 4 then ((points.drop 1).takeWhile fun p => decide (p.x ≤ x)).length
  else if isRight points x 1 then 0
  else if isRight points x 2 then 1
  else if isRight points x 3 then 2
  else
    let stop := if 10 < size && isRight points x 9 then 9 else size
    bisect (isReached points x) 3 stop - 1

/-- The value at `x` on the segment that starts at the first of some points. -/
def valueOn (x : α) : List (Point α) → α
  | [] => Scalar.zero
  | [p] => p.y
  | p :: q :: _ => if p.x == x then p.y else line p q x

/-- The value at `x`, of a table with at least one point. -/
def valueAt (x : α) (first : Point α) (rest : List (Point α)) : α :=
  let last := rest.getLastD first
  if rest.isEmpty then first.y
  else if Scalar.isNaN x then x
  else if x > last.x then last.y
  else if x < first.x then first.y
  else valueOn x ((first :: rest).drop (segment (first :: rest) x))

/-- The value of the table at `x`. -/
def lookup (t : Table α) (x : α) : α :=
  match t.points with
  | [] => Scalar.zero
  | first :: rest => valueAt x first rest

/-! ## 3. Time series -/

end Table

/-- How the time of an entry of a time series is given. -/
inductive When (α : Type) where
  | instant (t : DateTime)
  | text (s : String)
  | number (seconds : α)
  deriving Repr

/-- Why an entry of a time series has no time. -/
inductive WhenError where
  | text (e : InstantTextError)
  | noOrigin
  deriving DecidableEq, Repr

namespace When

variable {α : Type} [Scalar α] [TimeReader α]

/-- The unix time. -/
def unixTime (origin : Origin α) : When α → Except WhenError α
  | .instant t => .ok t.unixTime
  | .text s =>
    ((TimeLiteral.instant α s TimeLiteral.lastYear false).map DateTime.unixTime).mapError .text
  | .number x =>
    match origin with
    | .epoch => .ok x
    | .since unix => .ok (unix + x)
    | .missing => .error .noOrigin

end When

end Sluice
