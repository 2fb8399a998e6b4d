import Sluice.Calendar.DateTime
import Sluice.Proofs.Calendar.Days
import Sluice.Proofs.Number.Exact

/-!
# Instants in exact arithmetic

When a number of seconds becomes an instant, its whole seconds are taken off first, and the rest is
rounded to microseconds. The rest has the sign of the number, and it may be rounded up to a second,
so that there is a carry in both directions. In exact arithmetic nothing of this shows, because
whole seconds are an even number of microseconds: the number is rounded to microseconds, and these
are counted on from the first of January 1970 (`ofUnixTime_eq`). Within the calendar, that is to say
from its first to its last microsecond (`InCalendar`),

> **every number of seconds is an instant, the nearest one** (`exists_instant`).
-/

set_option autoImplicit false

namespace Sluice

namespace DateTime

/-- The first instant of the calendar. -/
def first : DateTime := midnight ⟨1, 1, 1⟩

/-- The last instant of the calendar. -/
def last : DateTime := ⟨⟨9999, 12, 31⟩, 23, 59, 59, 999999, none⟩

end DateTime

/-- A unix time is within the years 1 to 9999. -/
def InCalendar (u : Rat) : Prop := DateTime.first.unixTime ≤ u ∧ u ≤ DateTime.last.unixTime

namespace DateTime

/-! ## 1. Microseconds -/

theorem unixTime_rat (t : DateTime) : (t.unixTime : Rat) = t.unixMicroseconds / 1000000 := by
  have hdecimal : ∀ n : Nat, (Scalar.ofDecimal n (-6) : Rat) = n / 1000000 := by
    intro n
    show (n : Rat) * 10 ^ (-6 : Int) = _
    norm_num [div_eq_mul_inv]
  unfold unixTime
  dsimp only
  rw [hdecimal]
  generalize t.unixMicroseconds = us
  split
  · rename_i hneg
    rw [Nat.cast_natAbs, Int.cast_abs, abs_of_neg (by exact_mod_cast hneg), neg_div, neg_neg]
  · rename_i hpos
    rw [Nat.cast_natAbs, Int.cast_abs, abs_of_nonneg (by exact_mod_cast not_lt.mp hpos)]

theorem inCalendar_iff (u : Rat) :
    InCalendar u ↔ -62135596800000000 ≤ u * 1000000 ∧ u * 1000000 ≤ 253402300799999999 := by
  have hfirst : first.unixMicroseconds = -62135596800000000 := by decide
  have hlast : last.unixMicroseconds = 253402300799999999 := by decide
  unfold InCalendar
  rw [unixTime_rat, unixTime_rat, hfirst, hlast, div_le_iff₀ (by norm_num),
    le_div_iff₀ (by norm_num)]
  norm_num

theorem secondOfDay_atSecond (d : Date) (n us : Nat) : (atSecond d n us).secondOfDay = n := by
  unfold atSecond secondOfDay
  dsimp only
  omega

theorem unixMicroseconds_atSecond (d : Date) (n us : Nat) : (atSecond d n us).unixMicroseconds =
    ((d.ordinal - epochOrdinal) * 86400 + n) * 1000000 + us := by
  unfold unixMicroseconds
  rw [secondOfDay_atSecond]
  show ((d.ordinal - epochOrdinal) * 86400 + n - 0) * 1000000 + us = _
  rw [sub_zero]

/-! ## 2. From seconds to an instant -/

/-- A number of seconds in microseconds. -/
def microsecondsFrom (u : Rat) : Int := ratRoundEven (u * 1000000)

/-- Whole seconds are the same before and after rounding to microseconds. -/
theorem microsecondsFrom_eq (u : Rat) :
    microsecondsFrom u = 1000000 * ratTruncate u + microsecondsOf u := by
  have heven : Even (1000000 * ratTruncate u) := ⟨500000 * ratTruncate u, by ring⟩
  unfold microsecondsFrom microsecondsOf
  rw [Scalar.ofInt_rat, Scalar.ofInt_rat]
  show _ = _ + ratRoundEven ((u - ratTruncate u) * 1000000)
  rw [← ratRoundEven_even_add _ heven]
  congr 1
  push_cast
  ring

/-- What is left behind the whole seconds is at most a second. -/
theorem abs_microsecondsOf_le (u : Rat) : |microsecondsOf u| ≤ 1000000 := by
  have hrest : -1 ≤ u - (Scalar.truncate u : Int) ∧ u - (Scalar.truncate u : Int) ≤ 1 :=
    abs_le.mp (abs_sub_ratTruncate_lt u).le
  unfold microsecondsOf
  rw [Scalar.ofInt_rat, Scalar.ofInt_rat]
  refine abs_le.mpr ⟨le_ratRoundEven ?_, ratRoundEven_le ?_⟩
  · push_cast
    linarith
  · push_cast
    linarith

theorem ofUnixTime_eq (u : Rat) : ofUnixTime u =
    ofUnixSeconds (microsecondsFrom u / 1000000) (microsecondsFrom u % 1000000).toNat := by
  have hsplit := microsecondsFrom_eq u
  have hrest := abs_le.mp (abs_microsecondsOf_le u)
  have hopen : ofUnixTime u =
      if 1000000 ≤ microsecondsOf u then
        ofUnixSeconds (ratTruncate u + 1) (microsecondsOf u - 1000000).toNat
      else if microsecondsOf u < 0 then
        ofUnixSeconds (ratTruncate u - 1) (microsecondsOf u + 1000000).toNat
      else ofUnixSeconds (ratTruncate u) (microsecondsOf u).toNat := rfl
  rw [hopen]
  generalize microsecondsFrom u = m at hsplit
  generalize microsecondsOf u = us at hsplit hrest
  split
  · congr 1
    · omega
    · omega
  split
  · congr 1
    · omega
    · omega
  · congr 1
    · omega
    · omega

/-- Within the calendar none of the limits is met. -/
theorem exists_ofUnixSeconds {s : Int} (hfirst : -62135596800 ≤ s) (hlast : s ≤ 253402300799)
    (us : Nat) : ∃ d : Date, d.Valid ∧ d.ordinal = s / 86400 + epochOrdinal ∧
      ofUnixSeconds s us = .ok (atSecond d (s % 86400).toNat us) := by
  have hbefore : daysBeforeYear (1900 - yearLimit) < 0 := by decide
  have hbehind : 3652059 < daysBeforeYear (1900 + yearLimit) := by decide
  have hepoch : epochOrdinal = 719163 := rfl
  obtain ⟨d, hd, hvalid, hordinal⟩ := Date.exists_ofOrdinal? (n := s / 86400 + epochOrdinal)
    (by omega) (by unfold Date.lastOrdinal; omega)
  refine ⟨d, hvalid, hordinal, ?_⟩
  unfold ofUnixSeconds
  dsimp only
  rw [if_neg (by unfold secondLimit; omega), if_neg (by omega), hd]

theorem exists_ofUnixTime {u : Rat} (h : InCalendar u) :
    ∃ d : Date, d.Valid ∧
      d.ordinal = microsecondsFrom u / 1000000 / 86400 + epochOrdinal ∧
      ofUnixTime u = .ok (atSecond d (microsecondsFrom u / 1000000 % 86400).toNat
        (microsecondsFrom u % 1000000).toNat) := by
  obtain ⟨hlow, hhigh⟩ := (inCalendar_iff u).mp h
  have hfirst : -62135596800000000 ≤ microsecondsFrom u := le_ratRoundEven (by exact_mod_cast hlow)
  have hlast : microsecondsFrom u ≤ 253402300799999999 := ratRoundEven_le (by exact_mod_cast hhigh)
  rw [ofUnixTime_eq]
  exact exists_ofUnixSeconds (by omega) (by omega) _

theorem exists_instant {u : Rat} (h : InCalendar u) : ∃ t : DateTime, ofUnixTime u = .ok t ∧
    t.unixMicroseconds = microsecondsFrom u ∧ t.offset = none := by
  obtain ⟨d, -, hordinal, hd⟩ := exists_ofUnixTime h
  refine ⟨_, hd, ?_, rfl⟩
  rw [unixMicroseconds_atSecond, hordinal]
  omega

end DateTime

end Sluice
