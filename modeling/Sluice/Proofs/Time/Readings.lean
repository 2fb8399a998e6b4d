import Sluice.Proofs.Time.Conversion
import Sluice.Time.Clock

/-!
# What the clock shows

Each field of a reading is computed on a way of its own: the ordinal from the date, the weekday from
the ordinal, the number of the day from the months in front of it, the time of day from hours,
minutes and seconds. That they belong together is the subject of this module. `Reading.Describes`
says, of one whole second and without a word on dates, what a calendar has to say about it: on which
day it is, and how late, in which year and month, and how many days into the year.

> **the clock shows what describes its second, anywhere in the calendar, and a number of whole days
> later it shows the same time, so many days on** (`Clock.reading_describes`).
-/

set_option autoImplicit false

namespace Sluice

/-- The fields of a reading describe second `u`, counted from the beginning of 1970, in a year. -/
structure Reading.Describes (r : Reading Rat) (u : Int) (year : Nat) : Prop where
  worldTime : r.worldTime = u
  /-- Days are counted from the first of January of year 1, and 1970 begins with day 719163. -/
  instant : (u : Rat) = 86400 * ((r.date - 719163 : Int) : Rat) + 3600 * r.clockTime
  clockTime : 0 ≤ r.clockTime ∧ r.clockTime < 24
  /-- Day 1 is a Monday, and Sunday has the number 1. -/
  day : (r.day : Int) = r.date % 7 + 1
  newYear : r.date - r.dayOfYear + 1 = (⟨year, 1, 1⟩ : Date).ordinal
  /-- In front of the year all earlier ones are over. -/
  years : r.date = (∑ i ∈ Finset.range (year - 1), (yearLength (i + 1) : Int)) + r.dayOfYear
  dayOfYear : 1 ≤ r.dayOfYear ∧ r.dayOfYear ≤ yearLength year
  month : daysBeforeMonth year r.month < r.dayOfYear ∧
    r.dayOfYear ≤ daysBeforeMonth year r.month + daysInMonth year r.month

namespace Date

theorem dayOfWeek_eq (d : Date) : (d.dayOfWeek : Int) = d.ordinal % 7 + 1 := by
  unfold dayOfWeek weekday
  omega

end Date

namespace Clock

variable {c : Clock Rat} {u : Int}

theorem hoursOfDay_atSecond (d : Date) (n : Nat) :
    (hoursOfDay (DateTime.atSecond d n 0) : Rat) = n / 3600 := by
  unfold hoursOfDay TimeLiteral.secondsPerHour
  rw [DateTime.secondOfDay_atSecond, Scalar.ofInt_rat, Scalar.ofInt_rat, Scalar.ofInt_rat]
  show ((n : Int) + (0 : Nat) / _ : Rat) / _ = _
  simp

/-- The clock can be read everywhere in the calendar. -/
theorem exists_reading_of_inCalendar (h : InCalendar c.moment.worldTime) :
    ∃ r, c.reading = .ok r ∧ r.worldTime = c.moment.worldTime := by
  obtain ⟨t, ht, -⟩ := DateTime.exists_instant h
  rw [reading, show c.moment.dateTime = .ok t from ht]
  exact ⟨_, rfl, rfl⟩

/-- What the clock shows on a day, some seconds after midnight. -/
def readingOn (c : Clock Rat) (u : Int) (d : Date) : Reading Rat where
  elapsedHours := c.elapsedSeconds / TimeLiteral.secondsPerHour
  date := d.ordinal
  clockTime := (u % 86400).toNat / 3600
  dayOfYear := d.dayOfYear
  day := d.dayOfWeek
  month := d.month
  worldTime := u

theorem exists_reading (hu : c.moment.worldTime = u) (h : InCalendar u) :
    ∃ d : Date, d.Valid ∧ d.ordinal = u / 86400 + 719163 ∧
      c.moment.dateTime = .ok (DateTime.atSecond d (u % 86400).toNat 0) ∧
      c.reading = .ok (c.readingOn u d) := by
  have hmicro : DateTime.microsecondsFrom u = u * 1000000 := by
    unfold DateTime.microsecondsFrom
    exact_mod_cast ratRoundEven_intCast (u * 1000000)
  obtain ⟨d, hvalid, hordinal, hinstant⟩ := DateTime.exists_ofUnixTime h
  rw [hmicro, Int.mul_ediv_cancel _ (by decide)] at hordinal hinstant
  rw [Int.mul_emod_left] at hinstant
  have hdateTime : c.moment.dateTime = .ok (DateTime.atSecond d (u % 86400).toNat 0) := by
    rw [← hu] at hinstant
    exact hinstant
  refine ⟨d, hvalid, hordinal, hdateTime, ?_⟩
  unfold reading
  rw [hdateTime, Except.map, hoursOfDay_atSecond, hu]
  rfl

theorem describes_readingOn {d : Date} (hvalid : d.Valid)
    (hordinal : d.ordinal = u / 86400 + 719163) : (c.readingOn u d).Describes u d.year where
  worldTime := rfl
  instant := by
    have hsplit : u = 86400 * (d.ordinal - 719163) + (u % 86400).toNat := by omega
    have hcast : (u : Rat) = 86400 * ((d.ordinal - 719163 : Int) : Rat) + (u % 86400).toNat := by
      exact_mod_cast hsplit
    show (u : Rat) = 86400 * ((d.ordinal - 719163 : Int) : Rat) + 3600 * ((u % 86400).toNat / 3600)
    linarith
  clockTime := by
    have hlt : (((u % 86400).toNat : Int) : Rat) < 86400 := by
      exact_mod_cast (by omega : ((u % 86400).toNat : Int) < 86400)
    constructor
    · exact div_nonneg (Nat.cast_nonneg _) (by norm_num)
    · show (((u % 86400).toNat : Nat) : Rat) / 3600 < 24
      rw [div_lt_iff₀ (by norm_num)]
      exact_mod_cast hlt
  day := d.dayOfWeek_eq
  newYear := by
    rw [Date.ordinal_newYear]
    show daysBeforeYear d.year + d.dayOfYear - d.dayOfYear + 1 = _
    omega
  years := hvalid.ordinal_eq
  dayOfYear := ⟨Nat.one_le_of_lt hvalid.dayOfYear_bounds.1, hvalid.dayOfYear_bounds.2.2⟩
  month := ⟨hvalid.dayOfYear_bounds.1, hvalid.dayOfYear_bounds.2.1⟩

/-- A number of whole days is a whole number of time units that divide the day, and nothing is
rounded. -/
theorem advance_days (hdivides : ∃ n : Int, c.timeline.timeScale * n = 86400) (k : Int) :
    ∃ c' : Clock Rat, c.advance (86400 * k) = .ok c' ∧ c'.timeline = c.timeline ∧
      c'.moment.worldTime = c.moment.worldTime + 86400 * k := by
  obtain ⟨n, hn⟩ := hdivides
  have hscale : c.moment.timeline.timeScale ≠ 0 := by
    intro hzero
    rw [show c.timeline.timeScale = 0 from hzero] at hn
    norm_num at hn
  have hunits : (86400 : Rat) * k / c.moment.timeline.timeScale = (n * k : Int) := by
    rw [div_eq_iff hscale, ← hn]
    push_cast
    show c.timeline.timeScale * n * k = n * k * c.timeline.timeScale
    ring
  refine ⟨c.set (c.timestamp + n * k), ?_, rfl, ?_⟩
  · unfold advance
    rw [Moment.addSeconds_rat hscale, hunits, ← Int.cast_add, ratRoundEven_intCast]
    rfl
  · rw [Moment.worldTime_rat, Moment.worldTime_rat, ← hn]
    show c.timeline.reference + c.timeline.timeScale * ((c.timestamp + n * k : Int) : Rat) =
      c.timeline.reference + c.timeline.timeScale * c.timestamp + c.timeline.timeScale * n * k
    push_cast
    ring

/-- **At a whole second of the calendar the fields of a reading describe this one second, and whole
days later the clock shows the same time on the day that is as many days later.** -/
theorem reading_describes (hu : c.moment.worldTime = u) (h : InCalendar u) :
    ∃ (t : DateTime) (r : Reading Rat), c.moment.dateTime = .ok t ∧ c.reading = .ok r ∧
      r.Describes u t.date.year ∧
      ((∃ n : Int, c.timeline.timeScale * n = 86400) →
        ∀ k : Int, InCalendar ((u + 86400 * k : Int) : Rat) → ∃ c' r',
          c.advance (86400 * k) = .ok c' ∧ c'.reading = .ok r' ∧ r'.date = r.date + k ∧
          r'.clockTime = r.clockTime ∧ (r'.day : Int) = (r.day - 1 + k) % 7 + 1) := by
  obtain ⟨d, hvalid, hordinal, hdateTime, hreading⟩ := exists_reading hu h
  refine ⟨_, _, hdateTime, hreading, describes_readingOn hvalid hordinal, ?_⟩
  intro hdivides k hk
  obtain ⟨c', hadvance, -, hworld⟩ := advance_days hdivides k
  have hu' : c'.moment.worldTime = (u + 86400 * k : Int) := by
    rw [hworld, hu]
    push_cast
    rfl
  obtain ⟨d', -, hordinal', -, hreading'⟩ := exists_reading hu' hk
  have hdays : d'.ordinal = d.ordinal + k := by omega
  have hseconds : (u + 86400 * k) % 86400 = u % 86400 := by omega
  refine ⟨c', _, hadvance, hreading', hdays, ?_, ?_⟩
  · show (((u + 86400 * k) % 86400).toNat : Rat) / 3600 = ((u % 86400).toNat : Rat) / 3600
    rw [hseconds]
  · show (d'.dayOfWeek : Int) = (d.dayOfWeek - 1 + k) % 7 + 1
    rw [Date.dayOfWeek_eq, Date.dayOfWeek_eq, hdays]
    omega

/-- A clock that counts hours, an hour before the leap day of the year 2000. -/
def beforeLeapDay : Clock Rat := ⟨⟨0, 3600, .whole 0, .whole 0⟩, 264383⟩

theorem reading_describes_leapDay :
    ∃ (t : DateTime) (r : Reading Rat), beforeLeapDay.moment.dateTime = .ok t ∧
      t.date = ⟨2000, 2, 28⟩ ∧ beforeLeapDay.reading = .ok r ∧ r.Describes 951778800 2000 ∧
      ∃ c' r', beforeLeapDay.advance (86400 * (1 : Int)) = .ok c' ∧ c'.reading = .ok r' ∧
        r'.date = r.date + 1 ∧ r'.clockTime = r.clockTime ∧
        (r'.day : Int) = (r.day - 1 + 1) % 7 + 1 := by
  have hworld : beforeLeapDay.moment.worldTime = (951778800 : Int) := by
    rw [Moment.worldTime_rat]
    norm_num [beforeLeapDay, moment]
  have hrange : ∀ u : Int, 0 ≤ u → u ≤ 1000000000 → InCalendar u := by
    intro u hlow hhigh
    have hlow' : (0 : Rat) ≤ u := by exact_mod_cast hlow
    have hhigh' : (u : Rat) ≤ 1000000000 := by exact_mod_cast hhigh
    rw [DateTime.inCalendar_iff]
    constructor
    · linarith
    · linarith
  obtain ⟨t, r, ht, hr, hdescribes, hdays⟩ :=
    reading_describes hworld (hrange _ (by decide) (by decide))
  have hdate : t.date = ⟨2000, 2, 28⟩ := by
    have hfound : beforeLeapDay.moment.dateTime = .ok ⟨⟨2000, 2, 28⟩, 23, 0, 0, 0, none⟩ := by
      decide +kernel
    rw [ht] at hfound
    rw [Except.ok.inj hfound]
  rw [hdate] at hdescribes
  have hunit : ∃ n : Int, beforeLeapDay.timeline.timeScale * n = 86400 :=
    ⟨24, by norm_num [beforeLeapDay]⟩
  exact ⟨t, r, ht, hdate, hr, hdescribes, hdays hunit 1 (hrange _ (by decide) (by decide))⟩

end Clock

end Sluice
