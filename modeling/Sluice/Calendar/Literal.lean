import Sluice.Calendar.Lexeme
import Sluice.Calendar.TimeReader
import Sluice.Number.Numeral

/-!
# Written dates and times

Rules, time series and the command line accept dates the way people write them: `06/03/2024`,
`3-dec-1987`, `June 3, 2024`, `20240603`, each with an optional time of day and an optional
distance from universal time. The grammar is deliberately loose: the pieces of the text are
taken one after another, and each either contributes to the date (`Parts`), is filler, or makes
the whole text unreadable.

A date has three parts, and at first it may be unclear which is which. A part of three or more
digits is the year and a name is the month; what is still open is decided when all parts are
known (`Parts.resolve`): the month comes first, unless its number could not be a month or the
day was asked to come first. A year of two digits lies in a fixed century (`fullYear`).

A text that leaves a part of the date open would have to be completed from today's date; a
simulation must not depend on that, so such a text is unreadable for this reader.
-/

set_option autoImplicit false

namespace Sluice

namespace Literal

open Numeral (natOf)

/-! ## 1. Words -/

private def lowered (cs : List Char) : String := String.ofList (cs.map Char.toLower)

private def monthNames : List (List String) := [
  ["jan", "january"], ["feb", "february"], ["mar", "march"], ["apr", "april"], ["may"],
  ["jun", "june"], ["jul", "july"], ["aug", "august"], ["sep", "sept", "september"],
  ["oct", "october"], ["nov", "november"], ["dec", "december"]]

private def weekdayNames : List String := [
  "mon", "monday", "tue", "tuesday", "wed", "wednesday", "thu", "thursday", "fri", "friday",
  "sat", "saturday", "sun", "sunday"]

/-- Words and marks without a meaning of their own. -/
private def fillerWords : List String := [
  "at", "on", "and", "ad", "m", "t", "of", "st", "nd", "rd", "th"]

private def fillerMarks : List Char := [' ', '.', ',', ';', '-', '/', '\'']

/-- The number of a month by its name. -/
def month? (cs : List Char) : Option Nat :=
  (monthNames.findIdx? fun names => names.contains (lowered cs)).map (· + 1)

/-- Whether a word turns a time of day into the first (`false`) or second half of the day. -/
def meridiem? (cs : List Char) : Option Bool :=
  let w := lowered cs
  if w == "am" || w == "a" then some false
  else if w == "pm" || w == "p" then some true
  else none

/-- What a number in a time of day counts. -/
inductive ClockUnit where
  | hour | minute | second
  deriving DecidableEq, Repr

/-- The unit that a word names. -/
def ClockUnit.ofLexeme? : Lexeme → Option ClockUnit
  | .word cs =>
    let w := lowered cs
    if ["h", "hour", "hours"].contains w then some .hour
    else if ["m", "minute", "minutes"].contains w then some .minute
    else if ["s", "second", "seconds"].contains w then some .second
    else none
  | _ => none

/-- The next smaller unit. -/
def ClockUnit.smaller? : ClockUnit → Option ClockUnit
  | .hour => some .minute
  | .minute => some .second
  | .second => none

private def isUniversal (cs : List Char) : Bool := ["utc", "gmt", "z"].contains (lowered cs)

/-- A word that can name a time zone: up to five capitals, or a small `z`. -/
private def isZoneName (cs : List Char) : Bool :=
  cs.length ≤ 5 && (cs.all Char.isUpper || cs == ['z'])

def isFiller : Lexeme → Bool
  | .number _ _ => false
  | .word cs => fillerWords.contains (lowered cs)
  | .mark c => fillerMarks.contains c

/-! ## 2. What has been found -/

/-- What the pieces read so far have contributed. -/
structure Parts where
  /-- The numbers of the date, in the order written. -/
  numbers : List Nat
  /-- Which of them is the year. -/
  yearAt : Option Nat
  /-- Which of them is the month. -/
  monthAt : Option Nat
  hour : Option Nat
  minute : Option Nat
  second : Option Nat
  microsecond : Option Nat
  meridiem : Option Bool
  zone : Option (List Char)
  offset : Option Int

namespace Parts

def empty : Parts := ⟨[], none, none, none, none, none, none, none, none, none⟩

/-- Adds a number of unknown role. -/
def addNumber (p : Parts) (n : Nat) : Parts := { p with numbers := p.numbers ++ [n] }

/-- Adds the year; there is only one. -/
def addYear (p : Parts) (n : Nat) : Option Parts :=
  if p.yearAt.isSome then none
  else some { p.addNumber n with yearAt := some p.numbers.length }

/-- Adds the month; there is only one. -/
def addMonth (p : Parts) (n : Nat) : Option Parts :=
  if p.monthAt.isSome then none
  else some { p.addNumber n with monthAt := some p.numbers.length }

/-- The value of a run of digits of any script. A superscript has no value. -/
private def value? (cs : List Char) : Option Nat := Text.digitsValue? cs

/-- Adds a number as written: three or more digits are the year. -/
def addWritten (p : Parts) (cs : List Char) : Option Parts := do
  let n ← value? cs
  if 2 < cs.length then p.addYear n else some (p.addNumber n)

/-- Adds a number by its value: above one hundred it is the year. -/
def addValue (p : Parts) (n : Nat) (hasFraction : Bool) : Option Parts :=
  if 100 < n || (n = 100 && hasFraction) then p.addYear n else some (p.addNumber n)

/-- The century of a year of two digits: it is the one within fifty years of 2026. -/
def fullYear (n : Nat) : Nat :=
  if n < 76 then 2000 + n else if n < 100 then 1900 + n else n

/-- The hour in the half of the day that was asked for. -/
def halfDay (hour : Nat) (afternoon : Bool) : Nat :=
  if afternoon && hour < 12 then hour + 12
  else if !afternoon && hour = 12 then 0
  else hour

/-- Six digits behind the point are microseconds; further ones are cut off. -/
private def microseconds? (fraction : List Char) : Option Nat :=
  value? ((fraction ++ List.replicate 6 '0').take 6)

/-- A fraction of a minute or an hour in sixtieths, cut off; none if it is zero. -/
def sixtieths? (fraction : Option (List Char)) : Option (Option Nat) :=
  match fraction with
  | none => some none
  | some f => (value? f).map fun n =>
    if n = 0 then none else some (60 * n / Nat.pow 10 f.length)

/-- Minutes with a fraction, which gives the seconds. -/
def setMinutes (p : Parts) (whole : List Char) (fraction : Option (List Char)) : Option Parts := do
  let m ← value? whole
  let s ← sixtieths? fraction
  some { p with minute := some m, second := s }

/-- Seconds with a fraction. -/
def setSeconds (p : Parts) (whole : List Char) (fraction : Option (List Char)) : Option Parts := do
  let s ← value? whole
  match fraction with
  | none => some { p with second := some s, microsecond := some 0 }
  | some f =>
    let us ← microseconds? f
    if f.all fun c => (Text.digitValue? c).isSome then
      some { p with second := some s, microsecond := some us }
    else none

/-- A number with its unit. Hours with a fraction give the minutes as well. -/
def setClock (p : Parts) (unit : ClockUnit) (whole : List Char) (fraction : Option (List Char)) :
    Option Parts :=
  match unit with
  | .hour => do
    let h ← value? whole
    let m ← sixtieths? fraction
    some { p with hour := some h, minute := m.or p.minute }
  | .minute => p.setMinutes whole fraction
  | .second => p.setSeconds whole fraction

/-- Whether a number could be the day, as far as the year and the month are known. -/
def couldBeDay (p : Parts) (n : Nat) (hasFraction : Bool) : Bool :=
  let at? := fun i : Option Nat => i.bind fun k => p.numbers[k]?
  let last :=
    match at? p.monthAt with
    | none => 31
    | some m => daysInMonth ((at? p.yearAt).getD 2000) m
  1 ≤ n && (n < last || (n = last && !hasFraction))

end Parts

/-! ## 3. Reading one piece -/

/-- A number standing alone, before filler or at the end. A word for the half of the day behind
the filler makes it an hour. -/
def readAlone (p : Parts) (n : Nat) (hasFraction : Bool) (rest : List Lexeme) :
    Option (Parts × List Lexeme) :=
  match rest with
  | _ :: .word w :: rest' =>
    match meridiem? w with
    | some half => some ({ p with hour := some (Parts.halfDay n half) }, rest')
    | none => (p.addValue n hasFraction).map fun p => (p, .word w :: rest')
  | _ => (p.addValue n hasFraction).map fun p => (p, rest.drop 1)

/-- The second and third member of a date with separators. -/
def readMember (p : Parts) : Lexeme → Option Parts
  | .number cs none => p.addWritten cs
  | .word cs => (month? cs).bind p.addMonth
  | _ => none

/-- A date with separators: `separator` stands behind its first member, and again behind the
second if there is a third. -/
def readSeparated (p : Parts) (first : List Char) (separator : Char) (rest : List Lexeme) :
    Option (Parts × List Lexeme) := do
  let p ← p.addWritten first
  match rest with
  | [] => some (p, [])
  | second :: rest' =>
    if isFiller second then some (p, second :: rest')
    else
      let p ← readMember p second
      match rest' with
      | .mark c :: third =>
        if c == separator then
          match third with
          | [] => none
          | t :: rest'' => (readMember p t).map fun p => (p, rest'')
        else some (p, .mark c :: third)
      | _ => some (p, rest')

/-- A time of day behind its hour and the first colon. -/
def readClock (p : Parts) (hour : Nat) (rest : List Lexeme) : Option (Parts × List Lexeme) := do
  match rest with
  | .number minute fraction :: rest' =>
    let p ← { p with hour := some hour }.setMinutes minute fraction
    match rest' with
    | .mark ':' :: .number s f :: rest'' => (p.setSeconds s f).map fun p => (p, rest'')
    | .mark ':' :: _ :: _ => none
    | _ => some (p, rest')
  | _ => none

/-- A run of digits that is a date without separators, with or without a time of day, or, of six
digits behind a number of the date, a time of day. -/
def readCompact (p : Parts) (cs : List Char) (fraction : Option (List Char))
    (rest : List Lexeme) : Option (Parts × List Lexeme) := do
  let piece := fun (i n : Nat) => Text.digitsValue? ((cs.drop i).take n)
  if cs.length = 6 then
    if p.numbers.isEmpty && fraction.isNone then
      some (((p.addNumber (← piece 0 2)).addNumber (← piece 2 2)).addNumber (← piece 4 2), rest)
    else
      let p := { p with hour := some (← piece 0 2), minute := some (← piece 2 2) }
      (p.setSeconds (cs.drop 4) fraction).map fun p => (p, rest)
  else
    let p ← p.addYear (← piece 0 4)
    let p := (p.addNumber (← piece 4 2)).addNumber (← piece 6 2)
    if cs.length = 8 then some (p, rest)
    else
      let p := { p with hour := some (← piece 8 2), minute := some (← piece 10 2) }
      if cs.length = 12 then some (p, rest)
      else some ({ p with second := some (← piece 12 2) }, rest)

/-- The unit of a number: the word behind it, perhaps behind a blank, or else the next smaller
one to the word in front of it, where a blank may stand between them at the very end of the
text. Behind seconds there is no smaller unit, and such a number counts nothing. -/
def clockUnit? (before rest : List Lexeme) : Option (Option ClockUnit × List Lexeme) :=
  let inFront : Option (Option ClockUnit × List Lexeme) :=
    match before with
    | unit :: before' =>
      match ClockUnit.ofLexeme? unit with
      | some u => some (u.smaller?, rest)
      | none =>
        if unit == .mark ' ' && rest.isEmpty then
          (before'.head?.bind ClockUnit.ofLexeme?).map fun u => (u.smaller?, rest)
        else none
    | [] => none
  match rest with
  | unit :: rest' =>
    match ClockUnit.ofLexeme? unit with
    | some u => some (some u, rest')
    | none =>
      match rest'.head?.bind ClockUnit.ofLexeme? with
      | some u => if unit == .mark ' ' then some (some u, rest'.drop 1) else inFront
      | none => inFront
  | [] => inFront

/-- A number without a unit, by the piece behind it. -/
def readPlain (p : Parts) (n : Nat) (cs : List Char) (fraction : Option (List Char))
    (rest : List Lexeme) : Option (Parts × List Lexeme) :=
  let hasFraction := (fraction.map fun f => f.any fun c => c != '0').getD false
  match rest with
  | .mark ':' :: next :: rest' => readClock p n (next :: rest')
  | .mark '-' :: rest' => if fraction.isSome then none else readSeparated p cs '-' rest'
  | .mark '/' :: rest' => if fraction.isSome then none else readSeparated p cs '/' rest'
  | .mark '.' :: rest' => if fraction.isSome then none else readSeparated p cs '.' rest'
  | [] => readAlone p n hasFraction []
  | next :: rest' =>
    if isFiller next then readAlone p n hasFraction (next :: rest')
    else
      let half := match next with
        | .word w => meridiem? w
        | _ => none
      match half with
      | some afternoon =>
        if n < 24 then some ({ p with hour := some (Parts.halfDay n afternoon) }, rest')
        else none
      | none =>
        if p.couldBeDay n hasFraction then some (p.addNumber n, next :: rest') else none

/-- A number. What it is depends on how many digits it has, on what is known already, and on
the pieces around it; `before` holds those in front, the nearest first. -/
def readNumber (p : Parts) (before : List Lexeme) (cs : List Char)
    (fraction : Option (List Char)) (rest : List Lexeme) : Option (Parts × List Lexeme) := do
  let n ← Text.digitsValue? cs
  let size := cs.length + (fraction.map fun f => f.length + 1).getD 0
  let closed := match rest.head? with
    | none => true
    | some next => next != .mark ':' && (ClockUnit.ofLexeme? next).isNone
  if p.numbers.length = 3 && (size = 2 || size = 4) && p.hour.isNone && closed then
    if fraction.isSome then none
    else
      let hour ← Text.digitsValue? (cs.take 2)
      if size = 2 then some ({ p with hour := some hour }, rest)
      else
        let minute ← Text.digitsValue? (cs.drop 2)
        some ({ p with hour := some hour, minute := some minute }, rest)
  else if size = 6 || (6 < size && fraction.isSome && cs.length = 6) then
    if cs.length = 6 then readCompact p cs fraction rest else none
  else if size = 8 || size = 12 || size = 14 then
    if fraction.isSome then none else readCompact p cs none rest
  else
    match clockUnit? before rest with
    | some (some unit, rest') => (p.setClock unit cs fraction).map fun p => (p, rest')
    | some (none, rest') => some (p, rest')
    | none => readPlain p n cs fraction rest

/-- A number behind the name of a month and a separator. -/
def readBehindMonth (p : Parts) : Lexeme → Option Parts
  | .number cs none => p.addWritten cs
  | _ => none

/-- The name of a month, perhaps with separators and the other members behind it, or with the
word `of` and the year. -/
def readMonth (p : Parts) (m : Nat) (rest : List Lexeme) : Option (Parts × List Lexeme) := do
  let p ← p.addMonth m
  match rest with
  | .mark ' ' :: .word w :: .mark ' ' :: year :: rest' =>
    if lowered w == "of" then
      match year with
      | .number cs none =>
        let n ← Text.digitsValue? cs
        (p.addYear (Parts.fullYear n)).map fun p => (p, rest')
      | _ => some (p, rest')
    else some (p, rest)
  | .mark c :: rest' =>
    if c == '-' || c == '/' then
      match rest' with
      | [] => none
      | second :: rest' =>
        let p ← readBehindMonth p second
        match rest' with
        | .mark d :: third =>
          if d == c then
            match third with
            | [] => none
            | t :: rest'' => (readBehindMonth p t).map fun p => (p, rest'')
          else some (p, rest')
        | _ => some (p, rest')
    else some (p, rest)
  | _ => some (p, rest)

/-- The name of a zone in brackets behind a distance. -/
def readZoneName (p : Parts) (rest : List Lexeme) : Parts × List Lexeme :=
  match rest with
  | gap :: .mark '(' :: .word name :: .mark ')' :: rest' =>
    if isFiller gap && p.zone.isNone && 3 ≤ name.length && isZoneName name then
      ({ p with zone := some name }, rest')
    else (p, rest)
  | _ => (p, rest)

/-- A distance from universal time behind its sign: `hh:mm`, `hhmm` or `hh`. -/
def readOffset (p : Parts) (sign : Int) (rest : List Lexeme) : Option (Parts × List Lexeme) := do
  let found := fun (seconds : Nat) (rest : List Lexeme) =>
    readZoneName { p with offset := some (sign * seconds) } rest
  match rest with
  | .number cs none :: rest' =>
    let n ← Text.digitsValue? cs
    if cs.length = 4 then some (found (n / 100 * 3600 + n % 100 * 60) rest')
    else
      match rest' with
      | .mark ':' :: .number ms none :: rest'' =>
        let m ← Text.digitsValue? ms
        some (found (n * 3600 + m * 60) rest'')
      | .mark ':' :: _ => none
      | _ => if cs.length ≤ 2 then some (found (n * 3600) rest') else none
  | _ => none

/-- A word: a weekday (which adds nothing to a full date), a month, a half of the day, a time
zone, or filler. Directly behind the name of a zone the sign of a distance turns around, and
`UTC+3` is then no longer universal time. -/
def readWord (p : Parts) (cs : List Char) (rest : List Lexeme) : Option (Parts × List Lexeme) :=
  if weekdayNames.contains (lowered cs) then some (p, rest)
  else match month? cs with
    | some m => readMonth p m rest
    | none =>
      match meridiem? cs with
      | some half =>
        match p.hour with
        | some h =>
          if h ≤ 12 then
            some ({ p with hour := some (Parts.halfDay h half), meridiem := some half }, rest)
          else none
        | none => none
      | none =>
        if p.hour.isSome && p.zone.isNone && p.offset.isNone && isZoneName cs then
          let named := if isUniversal cs then p else { p with zone := some cs }
          match rest with
          | .mark '+' :: rest' => readOffset named (-1) rest'
          | .mark '-' :: rest' => readOffset named 1 rest'
          | _ => some ({ p with zone := some cs }, rest)
        else if isFiller (.word cs) then some (p, rest)
        else none

/-- Reads the next piece, together with the pieces behind it that belong to it. -/
def readPiece (p : Parts) (before : List Lexeme) (piece : Lexeme) (rest : List Lexeme) :
    Option (Parts × List Lexeme) :=
  match piece with
  | .number cs fraction => readNumber p before cs fraction rest
  | .word cs => readWord p cs rest
  | .mark c =>
    if p.hour.isSome && c == '+' then readOffset p 1 rest
    else if p.hour.isSome && c == '-' then readOffset p (-1) rest
    else if isFiller (.mark c) then some (p, rest)
    else none

/-- Reads all pieces, those in `before` being read already. Every step takes at least one, so as
many steps as pieces are enough. -/
def readPieces (p : Parts) (before pieces : List Lexeme) : Nat → Option Parts
  | 0 => if pieces.isEmpty then some p else none
  | fuel + 1 =>
    match pieces with
    | [] => some p
    | piece :: rest =>
      (readPiece p before piece rest).bind fun (p, rest') =>
        let taken := (piece :: rest).take (rest.length + 1 - rest'.length)
        readPieces p (taken.reverse ++ before) rest' fuel

/-! ## 4. Which part is which -/

/-- Year, month and day. -/
structure Resolved where
  year : Nat
  month : Nat
  day : Nat

/-- Decides the roles of three numbers. When two roles are known the third is what is left. A
number above 31 can only be the year; a year in front is followed by the month, a month in front
by the day, and a month in the middle stands behind the day. -/
def Parts.resolve (p : Parts) (dayFirst : Bool) : Option Resolved :=
  match p.numbers with
  | [a, b, c] =>
    match p.yearAt, p.monthAt with
    | some 0, some 1 => some ⟨a, b, c⟩
    | some 0, some 2 => some ⟨a, c, b⟩
    | some 1, some 0 => some ⟨b, a, c⟩
    | some 1, some 2 => some ⟨b, c, a⟩
    | some 2, some 0 => some ⟨c, a, b⟩
    | some 2, some 1 => some ⟨c, b, a⟩
    | some _, some _ => none
    | none, some 0 => if 31 < b then some ⟨b, a, c⟩ else some ⟨c, a, b⟩
    | none, some 1 => if 31 < a then some ⟨a, b, c⟩ else some ⟨c, b, a⟩
    | none, some _ => if 31 < b then some ⟨b, c, a⟩ else some ⟨a, c, b⟩
    | year, none =>
      if 31 < a || year == some 0 then
        if dayFirst && c ≤ 12 then some ⟨a, c, b⟩ else some ⟨a, b, c⟩
      else if 12 < a || (dayFirst && b ≤ 12) then some ⟨c, b, a⟩
      else some ⟨c, a, b⟩
  | _ => none

/-- The distance from universal time: none at all for universal time, else the one written. -/
def Parts.distance (p : Parts) : Option Int :=
  match p.zone with
  | some z => if isUniversal z then some 0 else p.offset
  | none => p.offset

/-- The year, completed by its century unless it was written with more than two digits. -/
def Parts.year (p : Parts) (r : Resolved) : Nat :=
  if p.yearAt.isSome then r.year else Parts.fullYear r.year

/-- The largest number that a part may be. -/
def partLimit : Nat := 2147483647

/-- The instant that the parts make up, if they are complete. -/
def Parts.build (p : Parts) (dayFirst : Bool) : Except LiteralError DateTime :=
  match p.resolve dayFirst with
  | none => .error .unreadable
  | some r =>
    let clock := [p.hour, p.minute, p.second, p.microsecond].map fun x => x.getD 0
    let year := p.year r
    if (year :: r.month :: r.day :: clock).any (partLimit < ·) then .error .tooLarge
    else
      match DateTime.make? year r.month r.day (p.hour.getD 0) (p.minute.getD 0)
          (p.second.getD 0) (p.microsecond.getD 0) with
      | some t => .ok { t with offset := p.distance }
      | none => .error .unreadable

/-- Reads a date with an optional time of day. -/
def dateTime (text : String) (dayFirst : Bool) : Except LiteralError DateTime :=
  let pieces := Lexeme.scan text.toList
  match readPieces Parts.empty [] pieces pieces.length with
  | some p => p.build dayFirst
  | none => .error .unreadable

end Literal

end Sluice
