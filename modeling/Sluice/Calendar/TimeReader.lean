import Sluice.Calendar.DateTime

/-!
# Readers of times

Dates and lengths of time are written the way people write them, and it is not the program that
reads them but libraries of their own. Which texts these accept, and what they take them for, is
their affair; it depends on their version, and for an incomplete date even on the day on which
it is read. The program relies on nothing but that a text has an outcome: a value, or one of two
ways to fail.

So the readers are a parameter (`TimeReader`). What is said of rules, networks and models in
general is said of all readers. Only where a text is fixed do the readers have to be known, and
then they are those of `Sluice.Calendar.Readers`.
-/

set_option autoImplicit false

namespace Sluice

/-- Why a text is no date or no length of time. -/
inductive LiteralError where
  /-- It does not read as one, or the calendar has no such date. -/
  | unreadable
  /-- A part of the date needs more than 32 bits, or the length has too many seconds to be a
  number. -/
  | tooLarge
  deriving DecidableEq, Repr

/-- What a text names, as far as libraries decide about it. -/
class TimeReader (α : Type) where
  /-- A date with an optional time of day. The flag says whether the day may come first. -/
  dateTime : String → Bool → Except LiteralError DateTime
  /-- The seconds of a length of time. -/
  duration : String → Except LiteralError α

end Sluice
