import Sluice.Number.Rounding

/-!
# The exact value of a machine number

A double is a sign, a whole mantissa and a power of two, or one of the two kinds of value that
are no number at all. Everything the library does to a double besides arithmetic (truncating,
rounding, choosing the digits of its text) is done on this decoded form with natural numbers,
so it is exact and can be reasoned about without a word on floating point.
-/

set_option autoImplicit false

namespace Sluice

/-- A decoded double. The value of `finite s m e` is `± m · 2 ^ e`. -/
inductive Binary64 where
  | nan
  | infinite (negative : Bool)
  | finite (negative : Bool) (mantissa : Nat) (exponent : Int)
  deriving DecidableEq, Repr

namespace Binary64

/-- The value of the first bit above the fraction bits. -/
def fractionLimit : Nat := Nat.pow 2 52

/-- The value of the first bit above the exponent bits, seen on their own. -/
def exponentLimit : Nat := Nat.pow 2 11

/-- Reads the sign bit, the eleven exponent bits and the 52 fraction bits. An exponent of all
ones marks the values that are no number; an exponent of zero has no implicit leading bit. -/
def ofBits (bits : Nat) : Binary64 :=
  let negative := decide (bits / (fractionLimit * exponentLimit) % 2 = 1)
  let field := bits / fractionLimit % exponentLimit
  let fraction := bits % fractionLimit
  if field = exponentLimit - 1 then
    if fraction = 0 then .infinite negative else .nan
  else if field = 0 then .finite negative fraction (-1074)
  else .finite negative (fractionLimit + fraction) (Int.ofNat field - 1075)

def ofFloat (x : Float) : Binary64 := ofBits x.toBits.toNat

/-- The magnitude of a finite value as a fraction of natural numbers. -/
def fraction (mantissa : Nat) (exponent : Int) : Nat × Nat :=
  match exponent with
  | .ofNat e => (mantissa * Nat.pow 2 e, 1)
  | .negSucc e => (mantissa, Nat.pow 2 (e + 1))

private def signed (negative : Bool) (n : Nat) : Int :=
  if negative then -(Int.ofNat n) else Int.ofNat n

/-- The whole part, cut off toward zero; `0` for what is no number. -/
def truncate : Binary64 → Int
  | .finite s m e =>
    let q := fraction m e
    signed s (q.1 / q.2)
  | _ => 0

/-- The nearest whole number, a half going to the even neighbour; `0` for what is no number. -/
def roundEven : Binary64 → Int
  | .finite s m e =>
    let q := fraction m e
    signed s (divRoundEven q.1 q.2)
  | _ => 0

end Binary64

end Sluice
