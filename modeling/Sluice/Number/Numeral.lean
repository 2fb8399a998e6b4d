import Sluice.Number.Scalar
import Sluice.Text.Blank
import Sluice.Text.Digit

/-!
# Reading numbers

A number in a rule, in a column of a dataset or in an environment variable is written in one
grammar, and a whole number in a narrower one:

* blanks around the number are ignored, and digits of any script count as digits;
* a single underscore may stand between two digits;
* a numeral is a sign, digits with at most one point among them, and an exponent, or one of
  the words `inf`, `infinity` and `nan` in any case;
* a whole number is a sign and digits, at most 4300 of them.

Reading yields the number as written (`Decimal`), exactly. Which scalar it denotes, and whether
that scalar is finite, is a second question, answered by `Numeral.toScalar`.
-/

set_option autoImplicit false

namespace Sluice

/-- `± mantissa · 10 ^ exponent`, with a sign of its own so that minus zero is not lost. -/
structure Decimal where
  negative : Bool
  mantissa : Nat
  exponent : Int
  deriving DecidableEq, Repr

/-- The whole number that a decimal is, if it is one. -/
def Decimal.whole? (d : Decimal) : Option Int :=
  let signed := fun n : Nat => if d.negative then -(n : Int) else n
  match d.exponent with
  | .ofNat e => some (signed (d.mantissa * Nat.pow 10 e))
  | .negSucc e =>
    let unit := Nat.pow 10 (e + 1)
    if d.mantissa % unit = 0 then some (signed (d.mantissa / unit)) else none

/-- What a numeral says. -/
inductive Numeral where
  | decimal (d : Decimal)
  | infinity (negative : Bool)
  | nan
  deriving DecidableEq, Repr

namespace Numeral

open Text

/-! ## 1. Spelling -/

/-- Brings the digits and blanks beyond ASCII to ASCII. ASCII characters are left alone, so that
the ASCII separators do not turn into blanks. -/
def plain (cs : List Char) : List Char :=
  cs.map fun c =>
    if c.toNat < 128 then c
    else if isBlank c then ' '
    else match digitValue? c with
      | some d => Char.ofNat (48 + d)
      | none => c

/-- Removes underscores, each of which has to stand between two digits. -/
def dropUnderscores (afterDigit : Bool) : List Char → Option (List Char)
  | [] => some []
  | c :: rest =>
    if c == '_' then
      if afterDigit && (rest.head?.map Char.isDigit).getD false then dropUnderscores false rest
      else none
    else (dropUnderscores c.isDigit rest).map (c :: ·)

/-- The characters that are left to read: trimmed, in ASCII, without underscores. -/
def spelling? (text : String) : Option (List Char) :=
  dropUnderscores false (trimBy isAsciiBlank (plain text.toList))

/-- A sign and what follows it. -/
def splitSign : List Char → Bool × List Char
  | '-' :: rest => (true, rest)
  | '+' :: rest => (false, rest)
  | rest => (false, rest)

/-- The value of a run of ASCII digits. -/
def natOf (ds : List Char) : Nat := ds.foldl (fun n c => 10 * n + (c.toNat - 48)) 0

/-! ## 2. Numerals -/

/-- The exponent part: nothing, or `e`, a sign and at least one digit. -/
def exponent? : List Char → Option Int
  | [] => some 0
  | c :: rest =>
    if c == 'e' || c == 'E' then
      let (negative, ds) := splitSign rest
      if ds.isEmpty || !(ds.all Char.isDigit) then none
      else some (if negative then -(natOf ds : Int) else natOf ds)
    else none

/-- Digits with at most one point among them, then an exponent. -/
def unsigned? (negative : Bool) (cs : List Char) : Option Decimal :=
  let whole := cs.takeWhile Char.isDigit
  let rest := cs.dropWhile Char.isDigit
  let (fraction, rest) :=
    match rest with
    | '.' :: r => (r.takeWhile Char.isDigit, r.dropWhile Char.isDigit)
    | r => ([], r)
  if whole.isEmpty && fraction.isEmpty then none
  else (exponent? rest).map fun e =>
    ⟨negative, natOf (whole ++ fraction), e - fraction.length⟩

/-- Reads a numeral. -/
def read? (text : String) : Option Numeral := do
  let (negative, cs) := splitSign (← spelling? text)
  let word := String.ofList (cs.map Char.toLower)
  if word == "inf" || word == "infinity" then some (.infinity negative)
  else if word == "nan" then some .nan
  else (unsigned? negative cs).map .decimal

/-! ## 3. Whole numbers -/

/-- The most digits a whole number may have. -/
def digitLimit : Nat := 4300

/-- Reads a whole number. -/
def readInt? (text : String) : Option Int := do
  let (negative, ds) := splitSign (← spelling? text)
  if ds.isEmpty || !(ds.all Char.isDigit) || digitLimit < ds.length then none
  else some (if negative then -(natOf ds : Int) else natOf ds)

end Numeral

/-! ## 4. The scalar of a numeral -/

section

variable {α : Type} [Scalar α]

/-- The scalar nearest to a decimal. -/
def Decimal.toScalar (d : Decimal) : α :=
  let v := Scalar.ofDecimal d.mantissa d.exponent
  if d.negative then -v else v

/-- The scalar that a numeral denotes. -/
def Numeral.toScalar : Numeral → α
  | .decimal d => d.toScalar
  | .infinity negative => if negative then -Scalar.infinity else Scalar.infinity
  | .nan => Scalar.nan

/-- Reads a numeral as a scalar, finite or not. -/
def readScalar? (text : String) : Option α := (Numeral.read? text).map Numeral.toScalar

/-- Whether a numeral denotes a finite scalar: it is no word, and it does not overflow. -/
def Numeral.isFinite (α : Type) [Scalar α] : Numeral → Bool
  | .decimal d => Scalar.isFinite (d.toScalar : α)
  | _ => false

/-- Reads a numeral that denotes a finite scalar. -/
def readFinite? (text : String) : Option α :=
  match Numeral.read? text with
  | some n => if n.isFinite α then some n.toScalar else none
  | none => none

end

end Sluice
