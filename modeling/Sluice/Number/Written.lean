import Sluice.Number.Digits

/-!
# How numbers are written

Three spellings of a double leave the program: the shortest text that reads back, in answers
and in configs; six significant digits, for the value of a committed action; and two decimals,
in the log. The first two differ only in a handful of decisions, which are the fields of
`Layout`; the third has no exponent form and is `fixed`.
-/

set_option autoImplicit false

namespace Sluice

/-- The decisions of a general number format. -/
structure Layout where
  /-- The decimal exponent from which the exponent form is used. -/
  limit : Int
  /-- Whether a whole number keeps a point and a zero. -/
  keepsPoint : Bool

namespace Layout

/-- The shortest text that reads back: positional below `10 ^ 16`, and a point in any case. -/
def shortest : Layout := ⟨16, true⟩

/-- Six significant digits: positional below `10 ^ 6`, and no point without decimals. -/
def general : Layout := ⟨6, false⟩

end Layout

namespace Digits

private def digitText (ds : List Nat) : String :=
  String.ofList (ds.map fun d => Char.ofNat (48 + d))

private def zeros (n : Nat) : String := String.ofList (List.replicate n '0')

/-- Positional notation: the point stands `point` places behind the first digit. -/
def positional (keepsPoint : Bool) (d : Digits) : String :=
  match d.point with
  | .negSucc p => "0." ++ zeros (p + 1) ++ digitText d.digits
  | .ofNat p =>
    if p = 0 then "0." ++ digitText d.digits
    else if d.digits.length ≤ p then
      digitText d.digits ++ zeros (p - d.digits.length) ++ (if keepsPoint then ".0" else "")
    else digitText (d.digits.take p) ++ "." ++ digitText (d.digits.drop p)

/-- Exponent notation: one digit before the point, a sign and at least two exponent digits. -/
def scientific (d : Digits) : String :=
  let exponent := d.point - 1
  let size := toString exponent.natAbs
  let mantissa :=
    match d.digits with
    | [] => "0"
    | [x] => digitText [x]
    | x :: rest => digitText [x] ++ "." ++ digitText rest
  mantissa ++ "e" ++ (if exponent < 0 then "-" else "+")
    ++ (if size.length < 2 then "0" ++ size else size)

/-- Exponent form from `10 ^ limit` up and below `10 ^ -4`. -/
def render (l : Layout) (d : Digits) : String :=
  if -4 ≤ d.point - 1 && d.point - 1 < l.limit then d.positional l.keepsPoint else d.scientific

end Digits

namespace Binary64

private def sign (negative : Bool) : String := if negative then "-" else ""

/-- A value that is no number is written as a word. -/
def written (l : Layout) (digits : Nat → Int → Digits) : Binary64 → String
  | .nan => "nan"
  | .infinite s => sign s ++ "inf"
  | .finite s m e =>
    if m = 0 then sign s ++ (if l.keepsPoint then "0.0" else "0")
    else sign s ++ (digits m e).render l

end Binary64

/-- The shortest text that reads back as the same double. -/
def shortestText (x : Float) : String :=
  (Binary64.ofFloat x).written Layout.shortest Digits.shortest

/-- Six significant digits without trailing zeros. -/
def generalText (x : Float) : String :=
  (Binary64.ofFloat x).written Layout.general fun m e => Digits.significant m e 6

/-- Two decimals. -/
def centsText (x : Float) : String :=
  match Binary64.ofFloat x with
  | .nan => "nan"
  | .infinite s => (if s then "-" else "") ++ "inf"
  | .finite s m e =>
    let q := Binary64.fraction m e
    let cents := Digits.roundedUnits q.1 q.2 (-2)
    let frac := toString (cents % 100)
    (if s then "-" else "") ++ toString (cents / 100) ++ "."
      ++ (if frac.length < 2 then "0" ++ frac else frac)

end Sluice
