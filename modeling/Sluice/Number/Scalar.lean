import Sluice.Number.Binary64

/-!
# Scalars: the numbers a simulation computes with

Depths, settings, times and gains are *scalars*. The library is written once over the class
`Scalar` and used with two instances:

* **`Float`**, which is what runs. Its operations round, overflow to infinity and know a value
  that is no number, and every formula of the library is written in the order in which it is
  evaluated, because for this instance the order shows.
* **`Rat`**, exact arithmetic, in which laws such as "the schedule keeps its period" are true
  without a word on rounding errors. Exact arithmetic has neither infinities nor undefined
  values; the two constants that stand for them here are never reached from finite input.

No law is part of the class. A statement that needs none, such as which action wins a link,
holds of both instances at once; a statement that needs the field laws is made about `Rat`.
-/

set_option autoImplicit false

namespace Sluice

/-- What a number type must offer to carry a simulation. -/
class Scalar (α : Type) extends Add α, Sub α, Mul α, Div α, Neg α, LT α, LE α, BEq α where
  decidableLT : DecidableLT α
  decidableLE : DecidableLE α
  /-- `ofDecimal m e` is `m · 10 ^ e`, or the scalar nearest to it. -/
  ofDecimal : Nat → Int → α
  /-- The value that compares unequal to everything, for a missing entry of a column. -/
  nan : α
  /-- The value above all others. -/
  infinity : α
  isNaN : α → Bool
  isFinite : α → Bool
  /-- The whole part of a finite scalar, cut off toward zero. -/
  truncate : α → Int
  /-- The whole number nearest to a finite scalar, a half going to the even neighbour. -/
  roundEven : α → Int

namespace Scalar

variable {α : Type} [Scalar α]

instance : DecidableLT α := Scalar.decidableLT

instance : DecidableLE α := Scalar.decidableLE

/-- A whole number as a scalar, or the scalar nearest to it. -/
def ofInt : Int → α
  | .ofNat n => ofDecimal n 0
  | .negSucc n => -(ofDecimal (n + 1) 0)

def zero : α := ofInt 0

def one : α := ofInt 1

/-- The larger of the two, the first one unless it is less: a value that is no number stays. -/
def atLeast (x bound : α) : α := if bound > x then bound else x

/-- The smaller of the two, the first one unless it is greater. -/
def atMost (x bound : α) : α := if bound < x then bound else x

/-- A finite scalar without a fractional part. -/
def isWhole (x : α) : Bool := isFinite x && ofInt (truncate x) == x

end Scalar

/-! ## 1. Machine numbers -/

/-- The number of decimal digits of `m`. -/
def decimalLength (m : Nat) : Nat := (Nat.toDigits 10 m).length

/-- The double nearest to `m · 10 ^ e`. Far outside the range the answer is known without
computing a power of ten of that size: ten to the 310th overflows, ten to the -330th is less
than half the least positive double. -/
def nearestFloat (m : Nat) (e : Int) : Float :=
  if m = 0 then 0.0
  else if e + decimalLength m > 310 then Float.ofBits 0x7FF0000000000000
  else if e + decimalLength m < -330 then 0.0
  else Float.ofScientific m (e < 0) e.natAbs

instance : Scalar Float where
  decidableLT := inferInstance
  decidableLE := inferInstance
  ofDecimal := nearestFloat
  nan := Float.ofBits 0x7FF8000000000000
  infinity := Float.ofBits 0x7FF0000000000000
  isNaN := Float.isNaN
  isFinite := Float.isFinite
  truncate x := (Binary64.ofFloat x).truncate
  roundEven x := (Binary64.ofFloat x).roundEven

/-! ## 2. Exact arithmetic -/

/-- The whole part of a rational number, cut off toward zero. -/
def ratTruncate (q : Rat) : Int := q.num.tdiv q.den

/-- The whole number nearest to a rational number, a half going to the even neighbour. -/
def ratRoundEven (q : Rat) : Int :=
  if q.num < 0 then -(Int.ofNat (divRoundEven q.num.natAbs q.den))
  else Int.ofNat (divRoundEven q.num.natAbs q.den)

instance : Scalar Rat where
  decidableLT := inferInstance
  decidableLE := inferInstance
  ofDecimal m e := (m : Rat) * (10 : Rat) ^ e
  nan := 0
  infinity := 0
  isNaN _ := false
  isFinite _ := true
  truncate := ratTruncate
  roundEven := ratRoundEven

end Sluice
