import Sluice.Calendar.TimeLiteral
import Sluice.Time.Timeline

/-!
# The simulation clock

The clock stands at a timestamp of a timeline and can be set, advanced and read. A `Reading` is
everything a control rule can ask about the time, in the units in which rules ask: hours since
the start, the ordinal of the date, hours since midnight, and the numbers of day and month. All
fields of a reading describe one instant; where that instant is outside the calendar there is no
reading at all.
-/

set_option autoImplicit false

namespace Sluice

/-- What the clock shows. -/
structure Reading (α : Type) where
  /-- Hours since the start of the timeline. -/
  elapsedHours : α
  /-- The ordinal of the date. -/
  date : Int
  /-- Hours since midnight. -/
  clockTime : α
  dayOfYear : Nat
  /-- The day of the week, Sunday = 1. -/
  day : Nat
  month : Nat
  /-- The unix time. -/
  worldTime : α
  deriving Repr

structure Clock (α : Type) where
  timeline : Timeline α
  timestamp : Int
  deriving Repr

namespace Clock

variable {α : Type} [Scalar α]

/-- A clock that stands at the start of its timeline. -/
def start (t : Timeline α) : Clock α := ⟨t, t.startTimestamp⟩

def moment (c : Clock α) : Moment α := ⟨c.timestamp, c.timeline⟩

def set (c : Clock α) (timestamp : Int) : Clock α := { c with timestamp := timestamp }

/-- Seconds since the start of the timeline, negative before it. -/
def elapsedSeconds (c : Clock α) : α :=
  c.moment.seconds - c.timeline.toSeconds c.timeline.startTime.toScalar

/-- Moves on by a number of seconds, to the nearest timestamp. -/
def advance (c : Clock α) (seconds : α) : Except TimestampError (Clock α) :=
  (c.moment.addSeconds seconds).map fun m => c.set m.timestamp

/-- The time of day in decimal hours. -/
def hoursOfDay (t : DateTime) : α :=
  (Scalar.ofInt t.secondOfDay + Scalar.ofInt t.microsecond / Scalar.ofInt 1000000)
    / TimeLiteral.secondsPerHour

/-- What the clock shows. -/
def reading (c : Clock α) : Except InstantError (Reading α) :=
  c.moment.dateTime.map fun t =>
    { elapsedHours := c.elapsedSeconds / TimeLiteral.secondsPerHour
      date := t.date.ordinal
      clockTime := hoursOfDay t
      dayOfYear := t.date.dayOfYear
      day := t.date.dayOfWeek
      month := t.date.month
      worldTime := c.moment.worldTime }

end Clock

end Sluice
