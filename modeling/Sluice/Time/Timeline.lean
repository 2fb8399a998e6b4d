import Sluice.Calendar.DateTime
import Sluice.Number.Count

/-!
# Timelines and moments

A simulation counts time in whole *timestamps*. A `Timeline` says what a timestamp means: how
many seconds one of them lasts, at which unix time timestamp 0 stands, and where the simulation
starts and for how long it runs. A `Moment` is a timestamp on a timeline.

Seconds are scalars and timestamps are whole numbers, so the way back from seconds rounds, to
the nearest timestamp and from half way to the even one. It can also fail (`TimestampError`):
on a timeline whose unit has no length, and for seconds that are not a finite number.
-/

set_option autoImplicit false

namespace Sluice

/-- Why a scalar is no timestamp. -/
inductive TimestampError where
  /-- The timeline's unit has length zero. -/
  | zeroScale
  | notANumber
  | infinite
  deriving DecidableEq, Repr

structure Timeline (α : Type) where
  /-- The unix time of timestamp 0. -/
  reference : α
  /-- The length of a time unit in seconds. -/
  timeScale : α
  /-- The timestamp at which the simulation starts. With a fraction it still is where elapsed time
  counts from, but the first moment is at its whole part. -/
  startTime : Count α
  duration : Count α
  deriving Repr

/-- What bare numbers of seconds count from. -/
inductive Origin (α : Type) where
  /-- They are unix times. -/
  | epoch
  /-- They count from a unix time. -/
  | since (unix : α)
  /-- There is nothing that they could count from. -/
  | missing
  deriving Repr

section

variable {α : Type} [Scalar α]

/-- A scalar as a whole number, by rounding it in some way once it is known to be finite. -/
def wholeBy (round : α → Int) (x : α) : Except TimestampError Int :=
  if Scalar.isNaN x then .error .notANumber
  else if !Scalar.isFinite x then .error .infinite
  else .ok (round x)

namespace Timeline

/-- The timeline with time units of a second that starts at timestamp 0, without duration. -/
def anchored (reference : α) : Timeline α := ⟨reference, Scalar.one, .whole 0, .whole 0⟩

/-- The timestamp at which the simulation ends. -/
def endTime (t : Timeline α) : Count α := t.startTime.add t.duration

/-- The timestamp of the first moment. -/
def startTimestamp (t : Timeline α) : Int := t.startTime.truncate

/-- Bare numbers of seconds count from the reference. -/
def origin (t : Timeline α) : Origin α := .since t.reference

/-- Seconds after timestamp 0. -/
def toSeconds (t : Timeline α) (timestamp : α) : α := t.timeScale * timestamp

def toUnix (t : Timeline α) (timestamp : α) : α := t.reference + t.toSeconds timestamp

/-- The timestamp nearest to a number of seconds. -/
def ofSeconds (t : Timeline α) (seconds : α) : Except TimestampError Int :=
  if t.timeScale == Scalar.zero then .error .zeroScale
  else wholeBy Scalar.roundEven (seconds / t.timeScale)

/-- The timestamp nearest to a unix time. -/
def ofUnix (t : Timeline α) (unix : α) : Except TimestampError Int :=
  t.ofSeconds (unix - t.reference)

/-- The timestamp nearest to an instant. -/
def ofDateTime (t : Timeline α) (instant : DateTime) : Except TimestampError Int :=
  t.ofUnix instant.unixTime

/-- The instant of a timestamp. -/
def toDateTime (t : Timeline α) (timestamp : α) : Except InstantError DateTime :=
  DateTime.ofUnixTime (t.toUnix timestamp)

/-- Whether a timestamp is the first one. -/
def isAtBeginning (t : Timeline α) (timestamp : α) : Bool :=
  match t.startTime with
  | .whole n => Scalar.isWhole timestamp && Scalar.truncate timestamp == n
  | .scalar x => timestamp == x

end Timeline

structure Moment (α : Type) where
  timestamp : Int
  timeline : Timeline α
  deriving Repr

namespace Moment

def seconds (m : Moment α) : α := m.timeline.toSeconds (Scalar.ofInt m.timestamp)

def worldTime (m : Moment α) : α := m.timeline.toUnix (Scalar.ofInt m.timestamp)

def dateTime (m : Moment α) : Except InstantError DateTime :=
  m.timeline.toDateTime (Scalar.ofInt m.timestamp)

/-- The moment whose timestamp is the whole part of a scalar. -/
def ofScalar (timestamp : α) (t : Timeline α) : Except TimestampError (Moment α) :=
  (wholeBy Scalar.truncate timestamp).map fun n => ⟨n, t⟩

def ofSeconds (seconds : α) (t : Timeline α) : Except TimestampError (Moment α) :=
  (t.ofSeconds seconds).map fun n => ⟨n, t⟩

def ofDateTime (instant : DateTime) (t : Timeline α) : Except TimestampError (Moment α) :=
  (t.ofDateTime instant).map fun n => ⟨n, t⟩

/-- The moment a number of seconds later. -/
def addSeconds (m : Moment α) (seconds : α) : Except TimestampError (Moment α) :=
  ofSeconds (m.seconds + seconds) m.timeline

/-! ## Comparison

Moments are compared by their seconds, also with a bare number of seconds. Two comparisons are
primitive and the others follow from them, which shows when the other side is no number: it is
then neither equal nor less, and therefore counts as greater. -/

def isAt (m : Moment α) (seconds : α) : Bool := seconds == m.seconds

def isBefore (m : Moment α) (seconds : α) : Bool := decide (m.seconds < seconds)

def isAtOrBefore (m : Moment α) (seconds : α) : Bool := m.isBefore seconds || m.isAt seconds

def isAfter (m : Moment α) (seconds : α) : Bool := !m.isBefore seconds && !m.isAt seconds

def isAtOrAfter (m : Moment α) (seconds : α) : Bool := !m.isBefore seconds

end Moment

end

end Sluice
