import Sluice.Calendar.TimeReader
import Sluice.Number.Numeral

/-!
# Durations

A length of time is written as amounts with units, `1h30m` or `2 hours 15 minutes`, the larger
unit usually first but in any order. Units are abbreviations that distinguish case (`m` is a
minute, `M` a month) or English words. A duration denotes its seconds; a month counts as a
twelfth of 366 days and a year as 365 days. A single amount without a unit counts seconds.

A point is part of an amount only where it cannot belong to the unit before: `.5h` is half an
hour, and so is the `.5` of `2d .5h`, but in `2d.5h` the point ends the day and five hours follow.
-/

set_option autoImplicit false

namespace Sluice

namespace Duration

inductive TimeUnit where
  | millisecond | second | minute | hour | day | week | month | year | decade
  deriving DecidableEq, Repr

/-- The spellings of a unit. -/
def TimeUnit.spellings : TimeUnit → List String
  | .millisecond => ["ms"]
  | .second => ["s", "S", "sec", "secs", "second", "seconds"]
  | .minute => ["m", "min", "mins", "minute", "minutes"]
  | .hour => ["h", "H", "hr", "hrs", "hour", "hours"]
  | .day => ["d", "day", "days"]
  | .week => ["w", "week", "weeks"]
  | .month => ["M", "month", "months"]
  | .year => ["y", "Y", "year", "years"]
  | .decade => ["D", "decade", "decades"]

def TimeUnit.all : List TimeUnit :=
  [.millisecond, .second, .minute, .hour, .day, .week, .month, .year, .decade]

/-- The unit with a given spelling. -/
def TimeUnit.find? (word : String) : Option TimeUnit :=
  TimeUnit.all.find? fun u => u.spellings.contains word

/-- The length of a unit in seconds. -/
def TimeUnit.seconds {α : Type} [Scalar α] : TimeUnit → α
  | .millisecond => Scalar.ofDecimal 1 (-3)
  | .second => Scalar.ofInt 1
  | .minute => Scalar.ofInt 60
  | .hour => Scalar.ofInt 3600
  | .day => Scalar.ofInt 86400
  | .week => Scalar.ofInt 604800
  | .month => Scalar.ofInt 2635200
  | .year => Scalar.ofInt 31536000
  | .decade => Scalar.ofInt 315360000

/-- An amount and its unit. -/
structure Part where
  amount : Decimal
  unit : TimeUnit
  deriving Repr

private def skipSpaces (cs : List Char) : List Char := cs.dropWhile (· == ' ')

/-- Digits of any script with an optional fraction, and what is left. -/
def amount? (cs : List Char) : Option (Decimal × List Char) :=
  let isDecimal := fun c => (Text.digitValue? c).isSome
  let whole := cs.takeWhile isDecimal
  let (fraction, rest) :=
    match cs.dropWhile isDecimal with
    | '.' :: r => (r.takeWhile isDecimal, r.dropWhile isDecimal)
    | r => ([], r)
  if whole.isEmpty && fraction.isEmpty then none
  else do
    let mantissa ← Text.digitsValue? (whole ++ fraction)
    some (⟨false, mantissa, -(fraction.length : Int)⟩, rest)

/-- A point between a unit and a digit only separates the two. -/
def skipPoint : List Char → List Char
  | '.' :: c :: rest => if (Text.digitValue? c).isSome then c :: rest else '.' :: c :: rest
  | cs => cs

/-- One part, and what is left. -/
def part? (cs : List Char) : Option (Part × List Char) := do
  let (amount, rest) ← amount? cs
  let rest := skipSpaces rest
  let unit ← TimeUnit.find? (String.ofList (rest.takeWhile Char.isAlpha))
  some (⟨amount, unit⟩, skipPoint (rest.dropWhile Char.isAlpha))

/-- All parts of a text; there are at most as many as characters. -/
def parts? (cs : List Char) : Nat → Option (List Part)
  | 0 => none
  | fuel + 1 =>
    match skipSpaces cs with
    | [] => some []
    | c :: rest => do
      let (part, rest) ← part? (c :: rest)
      let more ← parts? rest fuel
      some (part :: more)

/-- Reads a duration: one amount alone, or at least one part. -/
def read? (text : String) : Option (List Part) :=
  let cs := Text.trimBy Text.isBlank text.toList
  match amount? cs with
  | some (amount, []) => some [⟨amount, .second⟩]
  | _ =>
    match parts? cs (cs.length + 1) with
    | some (p :: ps) => some (p :: ps)
    | _ => none

/-- The length of a duration in seconds, its parts added up as written. -/
def seconds {α : Type} [Scalar α] (parts : List Part) : α :=
  parts.foldl (fun total p => total + p.amount.toScalar * p.unit.seconds) Scalar.zero

/-- Reads a duration as its seconds, if they are a number. -/
def inSeconds {α : Type} [Scalar α] (text : String) : Except LiteralError α :=
  match read? text with
  | none => .error .unreadable
  | some parts =>
    if Scalar.isFinite (seconds parts : α) then .ok (seconds parts) else .error .tooLarge

end Duration

end Sluice
