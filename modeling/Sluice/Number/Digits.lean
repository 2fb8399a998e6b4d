import Sluice.Number.Binary64

/-!
# Decimal digits of a double

Two questions about a positive double are answered here in exact arithmetic: which is the
shortest decimal that reads back as it (`shortest`), and which digits does it have when it is
cut to a given number of them (`significant`). How the digits are laid out as text is decided
in `Sluice.Number.Written`.

**The shortest decimal.** The reals that round to the double `m · 2 ^ e` form an interval
around it, which contains its ends iff `m` is even. A decimal of `n` digits reads back iff it
lies in the interval; and if any point of the grid of `n`-digit decimals does, one of the
value's two neighbours on that grid does. So the grids are tried from coarse to fine, and on
the first with a hit the nearer neighbour is the answer.
-/

set_option autoImplicit false

namespace Sluice

/-- The number `0.d₁d₂… · 10 ^ point`. -/
structure Digits where
  digits : List Nat
  point : Int
  deriving DecidableEq, Repr

namespace Digits

/-- The digits of a natural number, the most significant first. -/
def ofNat (n : Nat) : List Nat := (Nat.toDigits 10 n).map fun c => c.toNat - 48

/-- The digits of `n · 10 ^ shift` without trailing zeros. -/
def ofScaled (n : Nat) (shift : Int) : Digits :=
  let ds := ofNat n
  ⟨(ds.reverse.dropWhile (· = 0)).reverse, ds.length + shift⟩

/-- The least `k` with `num / den < 10 ^ k`, counted down from the first zero behind the point
for a value below one. `fuel` bounds the number of zeros. -/
def leadingZeros (num den : Nat) : Nat → Nat
  | 0 => 0
  | fuel + 1 => if num * 10 < den then leadingZeros (num * 10) den fuel + 1 else 0

/-- The `k` with `10 ^ (k - 1) ≤ num / den < 10 ^ k`. No positive double has more than 400
zeros behind the point. -/
def magnitude (num den : Nat) : Int :=
  if den ≤ num then (ofNat (num / den)).length
  else -(leadingZeros num den 400 : Int)

/-- A fraction in units of `10 ^ shift`, as a fraction again. -/
def inUnits (num den : Nat) (shift : Int) : Nat × Nat :=
  match shift with
  | .ofNat s => (num, den * Nat.pow 10 s)
  | .negSucc s => (num * Nat.pow 10 (s + 1), den)

/-- An interval of reals around a value, all in units of `1 / den`. -/
structure Interval where
  low : Nat
  value : Nat
  high : Nat
  den : Nat
  closed : Bool

/-- The reals that round to `m · 2 ^ e`. Above a power of two the gap below is half the gap
above, so the interval is measured in quarters of the unit. -/
def Interval.around (m : Nat) (e : Int) : Interval :=
  let below := if m = Binary64.fractionLimit ∧ e ≠ -1074 then 1 else 2
  let unit := Binary64.fraction 1 (e - 2)
  ⟨(4 * m - below) * unit.1, 4 * m * unit.1, (4 * m + 2) * unit.1, unit.2, m % 2 == 0⟩

/-- Whether the grid point `c` (in units of `a / b`) lies in the interval. -/
def Interval.holds (i : Interval) (a b c : Nat) : Bool :=
  if i.closed then i.low * b ≤ c * a && c * a ≤ i.high * b
  else i.low * b < c * a && c * a < i.high * b

/-- The better of the value's two neighbours on the grid of `10 ^ shift`, if one of them lies
in the interval. -/
def Interval.onGrid? (i : Interval) (shift : Int) : Option Nat :=
  let (b, a) := inUnits 1 i.den shift
  let floor := i.value * b / a
  let up := floor + 1
  match i.holds a b floor, i.holds a b up with
  | true, true =>
    if up * a - i.value * b < i.value * b - floor * a then some up else some floor
  | true, false => some floor
  | false, true => some up
  | false, false => none

/-- Tries the grids of `n`, `n + 1`, … digits, `fuel` of them. -/
def Interval.search (i : Interval) (k : Int) (n : Nat) : Nat → Digits
  | 0 => ofScaled (i.value / i.den) 0
  | fuel + 1 =>
    match i.onGrid? (k - n) with
    | some c => ofScaled c (k - n)
    | none => i.search k (n + 1) fuel

/-- The shortest decimal that reads back as `m · 2 ^ e`; seventeen digits always suffice. -/
def shortest (m : Nat) (e : Int) : Digits :=
  let i := Interval.around m e
  i.search (magnitude i.value i.den) 1 17

/-- `num / den` in whole units of `10 ^ shift`, to the nearest, a half to even. -/
def roundedUnits (num den : Nat) (shift : Int) : Nat :=
  let q := inUnits num den shift
  divRoundEven q.1 q.2

/-- The `count` leading digits of `m · 2 ^ e`, correctly rounded. -/
def significant (m : Nat) (e : Int) (count : Nat) : Digits :=
  let q := Binary64.fraction m e
  let shift := magnitude q.1 q.2 - count
  ofScaled (roundedUnits q.1 q.2 shift) shift

end Digits

end Sluice
