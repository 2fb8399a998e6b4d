import Mathlib.Algebra.BigOperators.Group.Finset.Basic
import Mathlib.Algebra.BigOperators.Intervals
import Sluice.Calendar.Date

/-!
# Counting days

The ordinal of a date comes from a closed formula, and the way back from an ordinal to a date peels
spans of 400, 100, 4 and 1 years off. What both are about is simpler: years of 365 or 366 days stand
one behind the other (`daysBeforeYear_eq_sum`), and in each of them twelve months. A day is known by
its year and its number in it, or by its ordinal, and the two ways of naming it agree:

> **every ordinal of the calendar is that of a date, which the way back finds**
> (`Date.exists_ofOrdinal?`).

The last year of each span is the delicate one, since it may have a day more than the others. That
a span is taken at most as often as it fits (`min … 3`) is what leaves this day in its year.
-/

set_option autoImplicit false

namespace Sluice

/-! ## 1. Years -/

def yearLength (year : Nat) : Nat := if isLeapYear year then 366 else 365

theorem isLeapYear_iff (year : Nat) :
    isLeapYear year = true ↔ year % 4 = 0 ∧ (year % 100 ≠ 0 ∨ year % 400 = 0) := by
  simp [isLeapYear]

theorem yearLength_cases (year : Nat) :
    (year % 4 = 0 ∧ (year % 100 ≠ 0 ∨ year % 400 = 0)) ∧ yearLength year = 366 ∨
      ¬ (year % 4 = 0 ∧ (year % 100 ≠ 0 ∨ year % 400 = 0)) ∧ yearLength year = 365 := by
  unfold yearLength
  rw [← isLeapYear_iff]
  by_cases h : isLeapYear year = true
  · exact .inl ⟨h, if_pos h⟩
  · exact .inr ⟨h, if_neg h⟩

/-- A year begins when the one before it is over. -/
theorem daysBeforeYear_succ (year : Nat) :
    daysBeforeYear ((year + 1 : Nat) : Int) = daysBeforeYear year + yearLength year := by
  unfold daysBeforeYear
  dsimp only
  rcases yearLength_cases year with ⟨hleap, hlength⟩ | ⟨hleap, hlength⟩
  · rw [hlength]
    omega
  · rw [hlength]
    omega

theorem daysBeforeYear_eq_sum (years : Nat) : daysBeforeYear ((years + 1 : Nat) : Int) =
    ∑ i ∈ Finset.range years, (yearLength (i + 1) : Int) := by
  induction years with
  | zero => rfl
  | succ years ih => rw [daysBeforeYear_succ, ih, Finset.sum_range_succ]

/-- The spans that are taken off a number of days, and what is left. All but the longest ones fit a
limited number of times, and only the last year of a span may have one more day left. -/
structure Spans where
  cycles : Nat
  centuries : Nat
  quadrennia : Nat
  years : Nat
  rest : Nat
  centuries_le : centuries ≤ 3
  quadrennia_le : quadrennia ≤ 24
  years_le : years ≤ 3
  rest_lt : rest < 365 ∨ rest = 365 ∧ years = 3 ∧ (quadrennia < 24 ∨ centuries = 3)

namespace Spans

variable (s : Spans)

def days : Nat :=
  146097 * s.cycles + 36524 * s.centuries + 1461 * s.quadrennia + 365 * s.years + s.rest

def year : Nat := 400 * s.cycles + 100 * s.centuries + 4 * s.quadrennia + s.years + 1

theorem daysBeforeYear_year : daysBeforeYear s.year + s.rest = s.days := by
  have hcenturies := s.centuries_le
  have hquadrennia := s.quadrennia_le
  have hyears := s.years_le
  unfold daysBeforeYear year days
  dsimp only
  omega

theorem rest_lt_yearLength : s.rest < yearLength s.year := by
  have hcenturies := s.centuries_le
  have hquadrennia := s.quadrennia_le
  have hyears := s.years_le
  have hrest := s.rest_lt
  have hlength := yearLength_cases s.year
  unfold year at hlength ⊢
  omega

end Spans

/-- Of four spans and perhaps one day a span is taken off three times at most, so that the day is
left at the end of the fourth one. -/
theorem exists_taken (n span : Nat) (hspan : 0 < span) (h : n ≤ 4 * span) :
    ∃ k r, min (n / span) 3 = k ∧ n - k * span = r ∧ n = span * k + r ∧ k ≤ 3 ∧
      (r < span ∨ r = span ∧ k = 3) := by
  rcases Nat.lt_or_ge n (4 * span) with hlt | hge
  · have hquot : n / span < 4 := Nat.div_lt_of_lt_mul (by rwa [Nat.mul_comm])
    refine ⟨n / span, n % span, Nat.min_eq_left (by omega), ?_, (Nat.div_add_mod n span).symm,
      by omega, .inl (Nat.mod_lt n hspan)⟩
    rw [Nat.mul_comm, Nat.sub_eq_of_eq_add (Nat.mod_add_div n span).symm]
  · obtain rfl : n = 4 * span := Nat.le_antisymm h hge
    have hquot : 4 * span / span = 4 := Nat.mul_div_cancel 4 hspan
    exact ⟨3, span, by rw [hquot]; rfl, by omega, by omega, le_rfl, .inr ⟨rfl, rfl⟩⟩

namespace YearDay

theorem exists_spans (n : Nat) :
    ∃ s : Spans, s.days = n ∧ ofDaysBefore n = ⟨s.year, s.rest + 1⟩ := by
  obtain ⟨centuries, r, hcenturies, hr, hn, hcenturies_le, hrlt⟩ :=
    exists_taken (n % 146097) 36524 (by decide) (by omega)
  obtain ⟨years, rest, hyears, hrest, hr4, hyears_le, hrestlt⟩ :=
    exists_taken (r % 1461) 365 (by decide) (by omega)
  refine ⟨⟨n / 146097, centuries, r / 1461, years, rest, hcenturies_le, by omega, hyears_le,
    by omega⟩, ?_, ?_⟩
  · unfold Spans.days
    dsimp only
    omega
  · unfold ofDaysBefore Spans.year
    dsimp only
    rw [hcenturies, hr, hyears, hrest]

/-- What is taken off in spans are the days in front of a year, and what is left is a day of it. -/
theorem ofDaysBefore_spec (n : Nat) :
    daysBeforeYear (ofDaysBefore n).year + (ofDaysBefore n).day = n + 1 ∧
      1 ≤ (ofDaysBefore n).year ∧ 1 ≤ (ofDaysBefore n).day ∧
      (ofDaysBefore n).day ≤ yearLength (ofDaysBefore n).year := by
  obtain ⟨s, hdays, hs⟩ := exists_spans n
  have hbefore := s.daysBeforeYear_year
  have hrest := s.rest_lt_yearLength
  rw [hs]
  refine ⟨?_, Nat.le_add_left 1 _, Nat.le_add_left 1 _, hrest⟩
  dsimp only
  omega

end YearDay

/-! ## 2. Months -/

/-- The number of days of a year in front of a month. -/
def daysBeforeMonth (year month : Nat) : Nat :=
  ((monthLengths (isLeapYear year)).take (month - 1)).sum

theorem sum_monthLengths (year : Nat) : (monthLengths (isLeapYear year)).sum = yearLength year := by
  unfold yearLength
  cases isLeapYear year with
  | false => rfl
  | true => rfl

/-- A month is over before the year is. -/
theorem daysBeforeMonth_add_le {month : Nat} (hpos : 1 ≤ month) (hle : month ≤ 12) (year : Nat) :
    daysBeforeMonth year month + daysInMonth year month ≤ yearLength year := by
  have hmonths : ∀ leap : Bool, ∀ i < 12, ((monthLengths leap).take i).sum +
      ((monthLengths leap)[i]?).getD 0 ≤ (monthLengths leap).sum := by decide
  rw [← sum_monthLengths]
  unfold daysBeforeMonth daysInMonth
  rw [if_neg (by omega)]
  exact hmonths _ (month - 1) (by omega)

/-- A day is counted on in the month in which it lies. -/
theorem monthOfDay_spec {lengths : List Nat} {day : Nat} (hpos : 1 ≤ day) (hle : day ≤ lengths.sum)
    (month : Nat) : ∃ i length, lengths[i]? = some length ∧
      monthOfDay month day lengths = (month + i, day - (lengths.take i).sum) ∧
      (lengths.take i).sum < day ∧ day ≤ (lengths.take i).sum + length := by
  induction lengths generalizing day month with
  | nil => exact absurd hle (by simp; omega)
  | cons length rest ih =>
    rw [List.sum_cons] at hle
    unfold monthOfDay
    by_cases hday : day ≤ length
    · exact ⟨0, length, rfl, if_pos hday, hpos, by rwa [List.take_zero, List.sum_nil, Nat.zero_add]⟩
    · have hpos' : 1 ≤ day - length := by omega
      have hle' : day - length ≤ rest.sum := by omega
      obtain ⟨i, l, hl, hmonth, hlt, hle⟩ := ih hpos' hle' (month + 1)
      refine ⟨i + 1, l, hl, ?_, ?_, ?_⟩
      · rw [if_neg hday, hmonth, List.take_succ_cons, List.sum_cons, Nat.sub_sub]
        congr 1
        omega
      · rw [List.take_succ_cons, List.sum_cons]
        omega
      · rw [List.take_succ_cons, List.sum_cons]
        omega

namespace Date

theorem dayOfYear_eq (d : Date) : d.dayOfYear = daysBeforeMonth d.year d.month + d.day := by
  unfold dayOfYear daysBeforeMonth
  rw [List.sum_eq_foldl_nat]

theorem ofYearDay_spec {y : YearDay} (hpos : 1 ≤ y.day) (hle : y.day ≤ yearLength y.year) :
    (ofYearDay y).year = y.year ∧ (ofYearDay y).dayOfYear = y.day ∧
      1 ≤ (ofYearDay y).month ∧ (ofYearDay y).month ≤ 12 ∧ 1 ≤ (ofYearDay y).day ∧
      (ofYearDay y).day ≤ daysInMonth y.year (ofYearDay y).month := by
  rw [← sum_monthLengths] at hle
  obtain ⟨i, length, hi, hmonth, hlt, hle⟩ := monthOfDay_spec hpos hle 1
  have hdate : ofYearDay y = ⟨y.year, i + 1, y.day - daysBeforeMonth y.year (i + 1)⟩ := by
    unfold ofYearDay daysBeforeMonth
    rw [hmonth, Nat.add_comm 1 i, Nat.add_sub_cancel]
  have hbefore : daysBeforeMonth y.year (i + 1) =
      ((monthLengths (isLeapYear y.year)).take i).sum := rfl
  have hlength : daysInMonth y.year (i + 1) = length := by
    unfold daysInMonth
    rw [if_neg (Nat.succ_ne_zero i), Nat.add_sub_cancel, hi]
    rfl
  have htwelve : i < 12 := (List.getElem?_eq_some_iff.mp hi).1
  rw [← hbefore] at hlt hle
  rw [dayOfYear_eq, hdate]
  dsimp only
  rw [hlength]
  omega

/-- The ordinals of the calendar are those of its dates, and the date of an ordinal is found. -/
theorem exists_ofOrdinal? {n : Int} (hfirst : 1 ≤ n) (hlast : n ≤ lastOrdinal) :
    ∃ d, ofOrdinal? n = some d ∧ d.Valid ∧ d.ordinal = n := by
  obtain ⟨hordinal, hyear, hpos, hle⟩ := YearDay.ofDaysBefore_spec (n - 1).toNat
  have hfound : ofOrdinal? n = some (ofYearDay (YearDay.ofDaysBefore (n - 1).toNat)) :=
    if_pos ⟨hfirst, hlast⟩
  generalize YearDay.ofDaysBefore (n - 1).toNat = y at hordinal hyear hpos hle hfound
  obtain ⟨hsame, hdayOfYear, hmonth⟩ := ofYearDay_spec hpos hle
  have hbounded : y.year ≤ 9999 := by
    unfold daysBeforeYear at hordinal
    unfold lastOrdinal at hlast
    dsimp only at hordinal
    omega
  refine ⟨_, hfound, ?_, ?_⟩
  · unfold Valid
    rw [hsame]
    exact ⟨hyear, hbounded, hmonth⟩
  · unfold ordinal
    rw [hsame, hdayOfYear, hordinal]
    omega

theorem ordinal_newYear (year : Nat) :
    (⟨year, 1, 1⟩ : Date).ordinal = daysBeforeYear year + 1 := rfl

/-- Where in the year the days of a month are. -/
theorem Valid.dayOfYear_bounds {d : Date} (h : d.Valid) :
    daysBeforeMonth d.year d.month < d.dayOfYear ∧
      d.dayOfYear ≤ daysBeforeMonth d.year d.month + daysInMonth d.year d.month ∧
      d.dayOfYear ≤ yearLength d.year := by
  obtain ⟨-, -, hmonth, hmonth_le, hpos, hle⟩ := h
  have hyear := daysBeforeMonth_add_le hmonth hmonth_le d.year
  rw [dayOfYear_eq]
  omega

/-- A day is as far in its year as its number says, and in front of the year all earlier ones are
over. -/
theorem Valid.ordinal_eq {d : Date} (h : d.Valid) : d.ordinal =
    (∑ i ∈ Finset.range (d.year - 1), (yearLength (i + 1) : Int)) + d.dayOfYear := by
  rw [← daysBeforeYear_eq_sum, Nat.sub_add_cancel h.1]
  rfl

end Date

end Sluice
