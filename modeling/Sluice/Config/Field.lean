import Sluice.Json.Basic

/-!
# Reading the fields of the settings

A field of the settings is given as a JSON value or, in the environment, as a text. Reading is
lenient between numbers, truth values and the texts of numbers: a scalar field takes all of them,
and a whole-number field takes those that have no fractional part. Texts are taken as they are,
and nothing else is a text.
-/

set_option autoImplicit false

namespace Sluice

/-- What is wrong with a field. -/
inductive FieldProblem where
  | floatType | floatParsing
  | intType | intParsing | intFromFloat | finiteNumber
  /-- A whole number that is too large. -/
  | intParsingSize
  | stringType | listType | dictType
  | greaterThan
  /-- There is no such field. -/
  | extraForbidden
  deriving DecidableEq, Repr

namespace FieldProblem

/-- The word under which a problem is reported. -/
def word : FieldProblem → String
  | .floatType => "float_type"
  | .floatParsing => "float_parsing"
  | .intType => "int_type"
  | .intParsing => "int_parsing"
  | .intFromFloat => "int_from_float"
  | .intParsingSize => "int_parsing_size"
  | .finiteNumber => "finite_number"
  | .stringType => "string_type"
  | .listType => "list_type"
  | .dictType => "dict_type"
  | .greaterThan => "greater_than"
  | .extraForbidden => "extra_forbidden"

end FieldProblem

namespace Field

open Text

/-! ## 1. Numbers in texts -/

/-- Removes single underscores from inside a text. -/
def withoutUnderscores? (cs : List Char) : Option (List Char) :=
  let isDouble := fun (p : Char × Char) => p.1 == '_' && p.2 == '_'
  if cs.head? == some '_' || cs.getLast? == some '_' || (cs.zip cs.tail).any isDouble then none
  else some (cs.filter (· != '_'))

/-- The number that characters spell in ASCII, or one of the words for what is no number. -/
def spelled? (cs : List Char) : Option Numeral :=
  let (negative, cs) := Numeral.splitSign cs
  let word := String.ofList (cs.map Char.toLower)
  if word == "inf" || word == "infinity" then some (.infinity negative)
  else if word == "nan" then some .nan
  else (Numeral.unsigned? negative cs).map .decimal

/-- The number that a text spells, either between white space or with underscores. -/
def numeral? (s : String) : Option Numeral :=
  (spelled? (trimBy isWhiteSpace s.toList)).or ((withoutUnderscores? s.toList).bind spelled?)

/-- The whole number that a text spells between white space. Underscores may stand between its
digits, and a point and zeros behind them. -/
def whole? (s : String) : Option Int := do
  let (negative, cs) := Numeral.splitSign (trimBy isWhiteSpace s.toList)
  let ds ← withoutUnderscores? (cs.takeWhile (· != '.'))
  let zeros ← match cs.dropWhile (· != '.') with
    | [] => some []
    | _ :: [] => none
    | _ :: zeros => some zeros
  if ds.isEmpty || !(ds.all Char.isDigit) || !(zeros.all (· == '0')) then none
  else some (if negative then -(Numeral.natOf ds : Int) else Numeral.natOf ds)

/-- The most bytes that a text of a whole number may have. -/
def textLimit : Nat := 4300

/-! ## 2. Values -/

section

variable {α : Type} [Scalar α]

/-- A number or a truth value as a scalar, if it is not a whole number beyond all scalars. -/
def number? : Json → Option α
  | .int n => if Scalar.isFinite (Scalar.ofInt n : α) then some (Scalar.ofInt n) else none
  | .real d => some d.toScalar
  | .bool b => some (if b then Scalar.one else Scalar.zero)
  | _ => none

def scalar (j : Json) : Except FieldProblem α :=
  match j with
  | .text s =>
    match numeral? s with
    | some n => .ok n.toScalar
    | none => .error .floatParsing
  | j =>
    match number? j with
    | some x => .ok x
    | none => .error .floatType

/-- A scalar above zero. -/
def positive (j : Json) : Except FieldProblem α := do
  let x ← scalar j
  if x > Scalar.zero then return x else throw .greaterThan

/-- A scalar that stands for a whole number has to lie within 64 bits with a sign. -/
def wholeLimit : Int := 9223372036854775808

/-- A whole number. -/
def whole (α : Type) [Scalar α] (j : Json) : Except FieldProblem Int :=
  match j with
  | .int n => .ok n
  | .bool b => .ok (if b then 1 else 0)
  | .real d =>
    let x : α := d.toScalar
    if !(Scalar.isFinite x) then .error .finiteNumber
    else if !(Scalar.isWhole x) then .error .intFromFloat
    else
      let n := Scalar.truncate x
      if -wholeLimit < n && n < wholeLimit then .ok n else .error .intParsingSize
  | .text s =>
    if textLimit < s.utf8ByteSize then .error .intParsingSize
    else match whole? s with
      | some n => .ok n
      | none => .error .intParsing
  | _ => .error .intType

end

def text : Json → Except FieldProblem String
  | .text s => .ok s
  | _ => .error .stringType

/-- A list of objects; an item that is none is a problem of its own, at its position. -/
def objects (name : String) : Json → List (String × FieldProblem)
  | .array xs =>
    xs.zipIdx.filterMap fun
      | (.object _, _) => none
      | (_, i) => some (name ++ "." ++ toString i, .dictType)
  | _ => [(name, .listType)]

end Field

end Sluice
