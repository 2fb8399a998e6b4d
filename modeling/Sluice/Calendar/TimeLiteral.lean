import Sluice.Calendar.TimeReader
import Sluice.Number.Numeral
import Sluice.Text.Quoted

/-!
# Time literals of control rules

A premise about time names its bound in the unit of the attribute: hours for elapsed and clock
time (`hours`), the ordinal for a date (`dateOrdinal`), a number from 1 to 365 for a day of the
year (`dayOfYear`). Each has several spellings. Besides these three, a timeline can be anchored
and a time series be written with any date or with a bare number (`instant`). Dates, and lengths
of time with units, are left to a `TimeReader`.

A literal that is malformed is reported with its text. Two further failures are possible and
have no text of their own: a digit that is no decimal digit, and a number too large to become a
scalar or a part of a date.
-/

set_option autoImplicit false

namespace Sluice

/-- Why a time literal of a rule has no value. -/
inductive TimeLiteralError where
  | invalidTime (token : String)
  | invalidDate (token : String)
  | invalidDayOfYear (token : String)
  /-- A character counts as a digit but has no decimal value, or there are too many digits. -/
  | undefinedDigits
  /-- A number exceeds what a scalar or a part of a date can be. -/
  | tooLarge
  deriving DecidableEq, Repr

namespace TimeLiteralError

/-- The text of an error, where it has one. -/
def message? : TimeLiteralError → Option String
  | .invalidTime token => some ("Invalid time: " ++ Text.quoted token)
  | .invalidDate token => some ("Invalid date: " ++ Text.quoted token)
  | .invalidDayOfYear token => some ("Invalid day of year: " ++ Text.quoted token)
  | .undefinedDigits => none
  | .tooLarge => none

end TimeLiteralError

namespace TimeLiteral

/-! ## 1. Hours -/

section

variable {α : Type} [Scalar α]

/-- Seconds in an hour. -/
def secondsPerHour : α := Scalar.ofInt 3600

/-- Cuts a text at every occurrence of a character. -/
def splitAt (separator : Char) (cs : List Char) : List (List Char) :=
  match cs with
  | [] => [[]]
  | c :: rest =>
    if c == separator then [] :: splitAt separator rest
    else match splitAt separator rest with
      | [] => [[c]]
      | piece :: more => (c :: piece) :: more

/-- `h`, `h:mm` or `h:mm:ss` as decimal hours. The number of hours may be any. -/
def clockHours (hours minutes seconds : Nat) : Except TimeLiteralError α :=
  let h : α := Scalar.ofInt hours
  if Scalar.isFinite h then
    .ok (h + Scalar.ofInt minutes / Scalar.ofInt 60 + Scalar.ofInt seconds / secondsPerHour)
  else .error .tooLarge

/-- A literal with colons: two or three numbers, the later ones below sixty. -/
def colonHours (token : String) : Except TimeLiteralError α :=
  let pieces := splitAt ':' token.toList
  if 3 < pieces.length || !(pieces.all fun p => !p.isEmpty && p.all Text.isDigit) then
    .error (.invalidTime token)
  else
    match pieces.mapM fun p => Numeral.readInt? (String.ofList p) with
    | none => .error .undefinedDigits
    | some numbers =>
      let part := fun i => ((numbers[i]?).getD 0).toNat
      if 60 ≤ part 1 || 60 ≤ part 2 then .error (.invalidTime token)
      else clockHours (part 0) (part 1) (part 2)

/-- A time of day or an elapsed time in decimal hours: with colons, as a finite number of
hours, or as a duration. -/
def hours [TimeReader α] (token : String) : Except TimeLiteralError α :=
  if token.toList.contains ':' then colonHours token
  else
    match Numeral.read? token with
    | some n => if n.isFinite α then .ok n.toScalar else .error (.invalidTime token)
    | none =>
      match TimeReader.duration token with
      | .ok seconds => .ok (seconds / secondsPerHour)
      | .error .unreadable => .error (.invalidTime token)
      | .error .tooLarge => .error .tooLarge

end

/-! ## 2. Dates -/

/-- The ordinal of a date, written with the month first. -/
def dateOrdinal (α : Type) [TimeReader α] (token : String) : Except TimeLiteralError Int :=
  match TimeReader.dateTime α token false with
  | .ok t => .ok t.date.ordinal
  | .error _ => .error (.invalidDate token)

/-- A number that fits into 32 bits with a sign. -/
def isPart (n : Int) : Bool := -2147483648 ≤ n && n < 2147483648

/-- Days of the year are counted in a year without a leap day. -/
def commonYear : Int := 1947

/-- A day of the year, as `mm/dd` or as its number. -/
def dayOfYear (token : String) : Except TimeLiteralError Nat :=
  if token.toList.contains '/' then
    match (splitAt '/' token.toList).mapM fun p => Numeral.readInt? (String.ofList p) with
    | some [month, day] =>
      if !(isPart month && isPart day) then .error .tooLarge
      else match Date.make? commonYear month day with
        | some d => .ok d.dayOfYear
        | none => .error (.invalidDayOfYear token)
    | _ => .error (.invalidDayOfYear token)
  else
    match (readScalar? token : Option Float) with
    | some x =>
      let n := Scalar.truncate x
      if Scalar.isWhole x && 1 ≤ n && n ≤ 365 then .ok n.toNat
      else .error (.invalidDayOfYear token)
    | none => .error (.invalidDayOfYear token)

end TimeLiteral

/-! ## 3. Instants -/

/-- Why a text is no instant. -/
inductive InstantTextError where
  /-- It is neither a number nor a date. -/
  | unreadable
  /-- A part of it needs more than 32 bits. -/
  | tooLarge
  /-- It is a year outside the calendar. -/
  | noSuchYear
  /-- Its distance from universal time is a day or more. -/
  | offsetTooLarge
  /-- It is a number of seconds that is no instant. -/
  | noInstant (cause : InstantError)
  deriving DecidableEq, Repr

namespace TimeLiteral

/-- Up to which number a bare number is a year unless asked otherwise. -/
def lastYear : Int := 5000

/-- The instant that a text names: a bare number up to `maxYear` is a year, a larger one counts
seconds since 1970, and anything else is a written date. -/
def instant (α : Type) [TimeReader α] (text : String) (maxYear : Int) (dayFirst : Bool) :
    Except InstantTextError DateTime :=
  match Numeral.readInt? text with
  | some n =>
    if n ≤ maxYear then
      if !isPart n then .error .tooLarge
      else match Date.make? n 1 1 with
        | some d => .ok (DateTime.midnight d)
        | none => .error .noSuchYear
    else (DateTime.ofUnixSeconds n 0).mapError .noInstant
  | none =>
    match TimeReader.dateTime α text dayFirst with
    | .ok t =>
      if 86400 ≤ (t.offset.getD 0).natAbs then .error .offsetTooLarge else .ok t
    | .error .unreadable => .error .unreadable
    | .error .tooLarge => .error .tooLarge

end TimeLiteral

end Sluice
