/-!
# The calendar

Dates of the proleptic Gregorian calendar, years 1 to 9999, and their *ordinals*: day 1 is the
first of January of year 1, and every day has the next number. The ordinal is what a control
rule compares when it names a date, so the two directions `Date.ordinal` and `Date.ofOrdinal`
are the heart of this file. Year lengths repeat every 400 years, and within such a cycle every
100, 4 and 1 years with one exception at the end of each span; `YearDay.ofOrdinal` peels the
spans off one after another, the last one taken at most as often as it fits.
-/

set_option autoImplicit false

namespace Sluice

def isLeapYear (year : Nat) : Bool := year % 4 = 0 && (year % 100 ≠ 0 || year % 400 = 0)

/-- The lengths of the twelve months. -/
def monthLengths (leap : Bool) : List Nat :=
  [31, if leap then 29 else 28, 31, 30, 31, 30, 31, 31, 30, 31, 30, 31]

/-- The length of month `month` (counted from 1), zero for a month that does not exist. -/
def daysInMonth (year month : Nat) : Nat :=
  if month = 0 then 0 else ((monthLengths (isLeapYear year))[month - 1]?).getD 0

/-- The number of days before the first of January of a year. Also used far outside the
calendar, where only the size of an instant is in question. -/
def daysBeforeYear (year : Int) : Int :=
  let p := year - 1
  365 * p + p / 4 - p / 100 + p / 400

structure Date where
  year : Nat
  month : Nat
  day : Nat
  deriving DecidableEq, Repr

namespace Date

/-- A date that the calendar has. -/
def Valid (d : Date) : Prop :=
  1 ≤ d.year ∧ d.year ≤ 9999 ∧ 1 ≤ d.month ∧ d.month ≤ 12 ∧ 1 ≤ d.day
    ∧ d.day ≤ daysInMonth d.year d.month

instance (d : Date) : Decidable d.Valid := by unfold Valid; infer_instance

/-- The date with these parts, if the calendar has it. -/
def make? (year month day : Int) : Option Date :=
  if 0 ≤ year ∧ 0 ≤ month ∧ 0 ≤ day then
    let d : Date := ⟨year.toNat, month.toNat, day.toNat⟩
    if d.Valid then some d else none
  else none

/-- The number of the day within its year, from 1. -/
def dayOfYear (d : Date) : Nat :=
  ((monthLengths (isLeapYear d.year)).take (d.month - 1)).foldl (· + ·) 0 + d.day

/-- The number of the day, from 1. -/
def ordinal (d : Date) : Int := daysBeforeYear d.year + d.dayOfYear

/-- The last day of the calendar. -/
def lastOrdinal : Int := 3652059

/-- The day of the week with Monday = 1 through Sunday = 7. Day 1 is a Monday. -/
def weekday (d : Date) : Nat := ((d.ordinal + 6) % 7).toNat + 1

/-- The day of the week as control rules count it, with Sunday = 1 through Saturday = 7. -/
def dayOfWeek (d : Date) : Nat := d.weekday % 7 + 1

end Date

/-- A year and the number of a day within it, from 1. -/
structure YearDay where
  year : Nat
  day : Nat
  deriving DecidableEq, Repr

namespace YearDay

/-- The year and the day of the year of the day that has `n` days before it. -/
def ofDaysBefore (n : Nat) : YearDay :=
  let n400 := n / 146097
  let r400 := n % 146097
  let n100 := min (r400 / 36524) 3
  let r100 := r400 - n100 * 36524
  let n4 := r100 / 1461
  let r4 := r100 % 1461
  let n1 := min (r4 / 365) 3
  ⟨400 * n400 + 100 * n100 + 4 * n4 + n1 + 1, r4 - n1 * 365 + 1⟩

end YearDay

/-- The month (counted on from `month`) and the day of the month of the `day`-th day. -/
def monthOfDay (month day : Nat) : List Nat → Nat × Nat
  | [] => (month, day)
  | length :: rest =>
    if day ≤ length then (month, day) else monthOfDay (month + 1) (day - length) rest

namespace Date

def ofYearDay (y : YearDay) : Date :=
  let md := monthOfDay 1 y.day (monthLengths (isLeapYear y.year))
  ⟨y.year, md.1, md.2⟩

/-- The date with a given ordinal, if the calendar has it. -/
def ofOrdinal? (n : Int) : Option Date :=
  if 1 ≤ n ∧ n ≤ lastOrdinal then some (ofYearDay (YearDay.ofDaysBefore (n - 1).toNat)) else none

end Date

end Sluice
