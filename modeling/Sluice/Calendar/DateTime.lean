import Sluice.Calendar.Date
import Sluice.Number.Scalar

/-!
# Instants

A `DateTime` is a date, a time of day to the microsecond, and perhaps a distance from universal
time; without one it is taken to be universal time, so that a simulation does not depend on
where it runs. An instant is also a number of seconds since the first of January 1970, its
*unix time*, and this file converts between the two.

From calendar to seconds the conversion is exact up to one rounding. From seconds to calendar
it can fail in four ways, which are the constructors of `InstantError`: not every scalar is an
instant, and not every instant is in the calendar.
-/

set_option autoImplicit false

namespace Sluice

/-- Why a number of seconds is no instant of the calendar. -/
inductive InstantError where
  /-- It is no number. -/
  | notANumber
  /-- It is infinite or needs more than 64 bits. -/
  | tooManySeconds
  /-- Its year needs more than 32 bits. -/
  | tooManyYears
  /-- Its year is not one of 1 to 9999. -/
  | outsideCalendar
  deriving DecidableEq, Repr

structure DateTime where
  date : Date
  hour : Nat
  minute : Nat
  second : Nat
  microsecond : Nat
  /-- Seconds east of universal time, if the instant says so. -/
  offset : Option Int
  deriving DecidableEq, Repr

namespace DateTime

/-- The ordinal of the first of January 1970. -/
def epochOrdinal : Int := 719163

def midnight (d : Date) : DateTime := ⟨d, 0, 0, 0, 0, none⟩

/-- The instant with these parts, if the calendar and the clock have it. -/
def make? (year month day hour minute second microsecond : Int) : Option DateTime := do
  let d ← Date.make? year month day
  if 0 ≤ hour ∧ hour < 24 ∧ 0 ≤ minute ∧ minute < 60 ∧ 0 ≤ second ∧ second < 60
      ∧ 0 ≤ microsecond ∧ microsecond < 1000000 then
    some ⟨d, hour.toNat, minute.toNat, second.toNat, microsecond.toNat, none⟩
  else none

/-- Seconds since midnight, without the fraction. -/
def secondOfDay (t : DateTime) : Nat := t.hour * 3600 + t.minute * 60 + t.second

/-- Microseconds since the first of January 1970. -/
def unixMicroseconds (t : DateTime) : Int :=
  ((t.date.ordinal - epochOrdinal) * 86400 + t.secondOfDay - t.offset.getD 0) * 1000000
    + t.microsecond

/-- The time of day `n` seconds after midnight. -/
def atSecond (d : Date) (n microsecond : Nat) : DateTime :=
  ⟨d, n / 3600, n / 60 % 60, n % 60, microsecond, none⟩

/-- Seconds are counted in 64 bits with a sign. -/
def secondLimit : Int := 9223372036854775808

/-- Years are counted from 1900 in 32 bits with a sign. -/
def yearLimit : Int := 2147483648

/-- The instant a whole number of seconds and some microseconds after the first of January
1970. The size of the number is looked at first, then the size of the year, then the calendar. -/
def ofUnixSeconds (seconds : Int) (microsecond : Nat) : Except InstantError DateTime :=
  if seconds < -secondLimit ∨ secondLimit ≤ seconds then .error .tooManySeconds
  else
    let n := seconds / 86400 + epochOrdinal
    if n ≤ daysBeforeYear (1900 - yearLimit) ∨ daysBeforeYear (1900 + yearLimit) < n then
      .error .tooManyYears
    else
      match Date.ofOrdinal? n with
      | some d => .ok (atSecond d (seconds % 86400).toNat microsecond)
      | none => .error .outsideCalendar

section

variable {α : Type} [Scalar α]

/-- The unix time of an instant, to the nearest scalar. -/
def unixTime (t : DateTime) : α :=
  let us := t.unixMicroseconds
  if us < 0 then -(Scalar.ofDecimal us.natAbs (-6)) else Scalar.ofDecimal us.natAbs (-6)

/-- The fraction of a scalar in microseconds, to the nearest, a half to even. It has the sign
of the scalar. -/
def microsecondsOf (u : α) : Int :=
  Scalar.roundEven ((u - Scalar.ofInt (Scalar.truncate u)) * Scalar.ofInt 1000000)

/-- The instant of a unix time, to the nearest microsecond. -/
def ofUnixTime (u : α) : Except InstantError DateTime :=
  if Scalar.isNaN u then .error .notANumber
  else if !Scalar.isFinite u then .error .tooManySeconds
  else
    let whole := Scalar.truncate u
    let us := microsecondsOf u
    if 1000000 ≤ us then ofUnixSeconds (whole + 1) (us - 1000000).toNat
    else if us < 0 then ofUnixSeconds (whole - 1) (us + 1000000).toNat
    else ofUnixSeconds whole us.toNat

end

/-! ## Text -/

private def twoDigits (n : Nat) : String :=
  if n < 10 then "0" ++ toString n else toString n

/-- Date and time as they appear in the log and in the output: the year as it is, the other
parts with two digits, no fraction of a second. -/
def stamp (t : DateTime) : String :=
  toString t.date.year ++ "-" ++ twoDigits t.date.month ++ "-" ++ twoDigits t.date.day ++ " "
    ++ twoDigits t.hour ++ ":" ++ twoDigits t.minute ++ ":" ++ twoDigits t.second

end DateTime

end Sluice
