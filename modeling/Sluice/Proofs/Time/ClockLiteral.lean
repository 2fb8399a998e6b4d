import Sluice.Calendar.Readers
import Sluice.Control.Condition
import Sluice.Proofs.Number.Nonnegative
import Sluice.Proofs.Outcome
import Sluice.Proofs.Time.ClockText

/-!
# Clock times and the clock

A rule names a time as `h:mm:ss`, and the hours that this denotes are computed as a sum: the hours,
a sixtieth of the minutes and the seconds divided by 3600 (`hoursOf`). What the clock shows is one
number of seconds divided by 3600 (`hoursAt`). In exact arithmetic these are the same. Machine
numbers are rounded, four times on the first way and once on the second, and a premise compares
exactly, so that the last bit decides whether `=` holds at a second or never.

* **A clock time is not taken for another second.** Its hours stand strictly between those of the
  seconds before and behind (`lt_hoursOf`), since all roundings together move it by less than a
  second. This needs fewer than `2 ^ 40` hours; from there on a second is hardly more than the
  distance of two doubles.
* **At its own second it agrees with the clock if its minutes are quarters of an hour.** Then
  nothing is rounded up to the minutes (`roundsTo_quarters`), and adding the rounded seconds leads
  to the same double as adding the seconds (`hoursOf_eq_of_grid`). There is one exception,
  `0:15:39`: the doubles below half an hour are so close that the rounding of 39 seconds shows.

`clockTime_agrees` says both of the texts and of the premises. With other minutes it is a matter of
chance: `0:01:01` misses the clock by the last bit (`not_comparesAs_oneMinuteOne`).
-/

set_option autoImplicit false

namespace Sluice

/-- The seconds of a clock time. -/
def wholeSeconds (h m s : Nat) : Nat := 3600 * h + 60 * m + s

/-- The hours that a clock shows after a number of seconds. -/
def hoursAt (t : Nat) : Float := Scalar.ofInt t / TimeLiteral.secondsPerHour

/-- The hours that a clock time denotes: three numbers that are added up. -/
def hoursOf (h m s : Nat) : Float :=
  Scalar.ofInt h + Scalar.ofInt m / Scalar.ofInt 60 + Scalar.ofInt s / TimeLiteral.secondsPerHour

/-! ## 1. Accuracy -/

theorem exists_hoursAt {t : Nat} (ht : t < 2 ^ 53) : ∃ v, RoundsTo (t / 3600) (hoursAt t) v := by
  obtain ⟨v, hv⟩ := exists_quotient ht (m := 3600) (by decide) (by decide)
  exact ⟨v, by exact_mod_cast hv⟩

theorem exists_minutes {m : Nat} (hm : m < 60) :
    ∃ v, RoundsTo (m / 60) (Scalar.ofInt m / Scalar.ofInt 60 : Float) v := by
  obtain ⟨v, hv⟩ := exists_quotient (n := m) (m := 60) (by omega) (by decide) (by decide)
  exact ⟨v, by exact_mod_cast hv⟩

/-- How far a clock time may be from its number of hours. -/
theorem exists_hoursOf {h m s : Nat} (hh : h < 2 ^ 40) (hm : m < 60) (hs : s < 60) :
    ∃ q v, RoundsTo q (hoursOf h m s) v ∧
      |v - wholeSeconds h m s / 3600| ≤ 1 / 2 ^ 13 + 1 / 2 ^ 54 + 1 / 2 ^ 59 := by
  have hh' : (h : Rat) + 1 ≤ 2 ^ 40 := by exact_mod_cast hh
  have hm' : (m : Rat) + 1 ≤ 60 := by exact_mod_cast hm
  have hs' : (s : Rat) + 1 ≤ 60 := by exact_mod_cast hs
  obtain ⟨v₁, h₁⟩ := exists_minutes hm
  obtain ⟨v₃, h₃⟩ := exists_hoursAt (t := s) (by omega)
  have herr₁ := abs_le.mp (h₁.abs_sub_le (k := 0) (by norm_num; linarith))
  have herr₃ := abs_le.mp (h₃.abs_sub_le (k := -5) (by norm_num; linarith))
  have hlimit := Normal.pow_le_limit
  norm_num at herr₁ herr₃
  obtain ⟨v₂, h₂⟩ := (roundsTo_ofNat (n := h) (by omega)).add h₁
    (lt_of_lt_of_le (by linarith) Normal.pow_le_limit)
  have herr₂ := abs_le.mp (h₂.abs_sub_le (k := 40) (by norm_num; linarith))
  norm_num at herr₂
  obtain ⟨v, hv⟩ := h₂.add h₃ (lt_of_lt_of_le (by linarith) Normal.pow_le_limit)
  have herr := abs_le.mp (hv.abs_sub_le (k := 40) (by norm_num; linarith))
  norm_num at herr
  refine ⟨_, v, hv, abs_le.mpr ?_⟩
  unfold wholeSeconds
  push_cast
  constructor
  · linarith
  · linarith

/-- A clock time stands between the seconds before its own and those behind. -/
theorem lt_hoursOf {h m s t : Nat} (hh : h < 2 ^ 40) (hm : m < 60) (hs : s < 60)
    (ht : t < 2 ^ 53) : ∃ q v q' v', RoundsTo q (hoursAt t) v ∧ RoundsTo q' (hoursOf h m s) v' ∧
      (t < wholeSeconds h m s → v < v') ∧ (wholeSeconds h m s < t → v' < v) := by
  obtain ⟨v, hv⟩ := exists_hoursAt ht
  obtain ⟨q, v', hv', herr'⟩ := exists_hoursOf hh hm hs
  have herr := abs_le.mp hv.abs_sub_le_mul
  have herr' := abs_le.mp herr'
  have hsize : (wholeSeconds h m s : Rat) + 1 ≤ 3600 * 2 ^ 40 := by
    exact_mod_cast (by unfold wholeSeconds; omega : wholeSeconds h m s + 1 ≤ 3600 * 2 ^ 40)
  refine ⟨_, v, q, v', hv, hv', fun hlt => ?_, fun hlt => ?_⟩
  · have hlt : (t : Rat) + 1 ≤ wholeSeconds h m s := by exact_mod_cast hlt
    linarith
  · have hlt : (wholeSeconds h m s : Rat) + 1 ≤ t := by exact_mod_cast hlt
    by_contra hle
    linarith

/-! ## 2. Quarters of an hour

The doubles from `2 ^ (-i)` on are told apart by the multiples of `2 ^ (-(53 + i))`, among which are
the ends of their intervals. Some quarters of an hour are such a multiple as well, so when the
seconds are added to them it is enough that the seconds stay between the same two multiples when
they are rounded. -/

/-- Two numbers stand between the same two multiples of `2 ^ (-(53 + i))`. -/
def SameCell (i : Nat) (p q : Rat) : Prop :=
  ∃ c : Int, c < p * 2 ^ (53 + i) ∧ p * 2 ^ (53 + i) < c + 1 ∧ c < q * 2 ^ (53 + i) ∧
    q * 2 ^ (53 + i) < c + 1

/-- What stands between the same multiples is rounded to the same double. -/
theorem Normal.eq_of_sameCell {i : Nat} {d d' : Normal} {b : Int} {p q : Rat} (hi : i ≤ 1000)
    (hb : (2 : Rat) ^ 53 ≤ b) (hcell : SameCell i p q) (hq : 0 < q)
    (h : d.Rounds (b / 2 ^ (53 + i) + p)) (h' : d'.Rounds (b / 2 ^ (53 + i) + q)) : d = d' := by
  obtain ⟨c, hcp, hpc, hcq, hqc⟩ := hcell
  have hpos : (0 : Rat) < 2 ^ (53 + i) := by positivity
  have hb' : 1 / 2 ^ i ≤ (b : Rat) / 2 ^ (53 + i) := by
    rw [div_le_div_iff₀ (by positivity) hpos, one_mul, pow_add]
    exact mul_le_mul_of_nonneg_right hb (by positivity)
  have hsum : ∀ x : Rat, (b / 2 ^ (53 + i) + x) * 2 ^ (53 + i) = b + x * 2 ^ (53 + i) := by
    intro x
    field_simp
  have hbound : 1 / 2 ^ i ≤ d'.value := by
    obtain ⟨d₀, hd₀⟩ := Normal.exists_value_eq (n := 1) (k := -i) (by decide) (by decide) (by omega)
      (by omega)
    rw [Nat.cast_one, one_mul, zpow_neg, zpow_natCast, ← one_div] at hd₀
    rw [← hd₀]
    exact Normal.value_le_of_rounds d₀.rounds_value h' (by rw [hd₀]; linarith)
  refine Normal.eq_of_rounds h ?_ ?_
  · rcases Normal.exists_lower_eq hbound with hlow | ⟨n, hn⟩
    · have hc : (0 : Rat) ≤ c := by
        have hcast : (0 : Rat) < c + 1 := (mul_pos hq hpos).trans hqc
        exact_mod_cast Int.le_of_lt_add_one (by exact_mod_cast hcast : (0 : Int) < c + 1)
      have hp : 0 < p := pos_of_mul_pos_left (hc.trans_lt hcp) hpos.le
      linarith
    · have hle := h'.1
      rw [hn, div_le_iff₀ hpos, hsum] at hle
      have hnc : n ≤ b + c := by
        have hcast : (n : Rat) < b + c + 1 := by linarith
        exact Int.le_of_lt_add_one (by exact_mod_cast hcast)
      have hnc' : (n : Rat) ≤ b + c := by exact_mod_cast hnc
      rw [hn, div_lt_iff₀ hpos, hsum]
      linarith
  · obtain ⟨n, hn⟩ := Normal.exists_upper_eq hbound
    have hle := h'.2
    rw [hn, le_div_iff₀ hpos, hsum] at hle
    have hcn : b + c < n := by
      have hcast : (b : Rat) + c < n := by linarith
      exact_mod_cast hcast
    have hcn' : (b : Rat) + c + 1 ≤ n := by exact_mod_cast hcn
    rw [hn, lt_div_iff₀ hpos, hsum]
    linarith

/-- The quotient `s / 3600` is below `2 ^ (-j)`, and it lies further from the multiples of
`2 ^ (-(53 + i))` than a number of this size is moved when it is rounded. -/
def FarFromGrid (i s j : Nat) : Prop :=
  s * 2 ^ j < 3600 ∧ 225 * 2 ^ i < 2 ^ (j + 1) * (2 ^ (49 + i) * s % 225) ∧
    225 * 2 ^ i + 2 ^ (j + 1) * (2 ^ (49 + i) * s % 225) < 2 ^ (j + 1) * 225

instance (i s j : Nat) : Decidable (FarFromGrid i s j) := inferInstanceAs (Decidable (_ ∧ _ ∧ _))

/-- Only 39 seconds are rounded across a multiple. -/
theorem exists_farFromGrid : ∀ i < 3, ∀ s < 60, 0 < s → ¬ (i = 2 ∧ s = 39) →
    ∃ j < 12, FarFromGrid i s j := by decide

/-- The remainder by 225 says where a number of seconds lies between two multiples. -/
theorem seconds_mul_pow (i s : Nat) : (s : Rat) / 3600 * 2 ^ (53 + i) =
    (2 ^ (49 + i) * s / 225 : Nat) + (2 ^ (49 + i) * s % 225 : Nat) / 225 := by
  have hcast : (2 : Rat) ^ (49 + i) * s =
      225 * (2 ^ (49 + i) * s / 225 : Nat) + (2 ^ (49 + i) * s % 225 : Nat) := by
    exact_mod_cast (Nat.div_add_mod (2 ^ (49 + i) * s) 225).symm
  rw [show 53 + i = 49 + i + 4 by omega, pow_add _ _ 4]
  linarith

theorem sameCell_seconds {i s : Nat} {v : Rat} (hi : i < 3) (hpos : 0 < s) (hs : s < 60)
    (hne : ¬ (i = 2 ∧ s = 39)) (h : RoundsTo (s / 3600) (hoursAt s) v) :
    SameCell i v (s / 3600) := by
  obtain ⟨j, -, hbelow, hleft, hright⟩ := exists_farFromGrid i hi s hs hpos hne
  have hplace := seconds_mul_pow i s
  generalize 2 ^ (49 + i) * s / 225 = c at hplace
  generalize 2 ^ (49 + i) * s % 225 = r at hleft hright hplace
  have herr := abs_le.mp (h.abs_sub_le (k := -j) (by
    rw [zpow_neg, zpow_natCast, div_lt_iff₀ (by norm_num), inv_mul_eq_div,
      lt_div_iff₀ (by positivity)]
    exact_mod_cast hbelow))
  -- the unit in which the distances are measured
  have hgrid : (0 : Rat) < 2 ^ (53 + i) := by positivity
  have hunit : (2 : Rat) ^ (-(j : Int) - 54) * 2 ^ (53 + i) = 2 ^ i / 2 ^ (j + 1) := by
    rw [eq_div_iff (by positivity), ← zpow_natCast, ← zpow_natCast, ← zpow_natCast,
      ← zpow_add₀ (by norm_num), ← zpow_add₀ (by norm_num)]
    congr 1
    push_cast
    omega
  have herr₁ := mul_le_mul_of_nonneg_right herr.1 hgrid.le
  have herr₂ := mul_le_mul_of_nonneg_right herr.2 hgrid.le
  rw [neg_mul, hunit, sub_mul, hplace] at herr₁
  rw [hunit, sub_mul, hplace] at herr₂
  have hfar : (2 : Rat) ^ i / 2 ^ (j + 1) < r / 225 := by
    rw [div_lt_div_iff₀ (by positivity) (by norm_num), mul_comm, mul_comm (r : Rat)]
    exact_mod_cast hleft
  have hfar' : (2 : Rat) ^ i / 2 ^ (j + 1) < 1 - r / 225 := by
    have hcast : (225 : Rat) * 2 ^ i + 2 ^ (j + 1) * r < 2 ^ (j + 1) * 225 := by
      exact_mod_cast hright
    rw [one_sub_div (by norm_num), div_lt_div_iff₀ (by positivity) (by norm_num)]
    linarith
  have hpos' : (0 : Rat) < 2 ^ i / 2 ^ (j + 1) := by positivity
  refine ⟨c, ?_, ?_, ?_, ?_⟩
  · push_cast
    linarith
  · push_cast
    linarith
  · rw [hplace]
    push_cast
    linarith
  · rw [hplace]
    push_cast
    linarith

/-- Up to the minutes nothing is rounded. -/
theorem roundsTo_quarters {h k : Nat} (hk : k < 4) (hh : 4 * h + k < 2 ^ 53) :
    RoundsTo ((4 * h + k) / 4) (Scalar.ofInt h + Scalar.ofInt (15 * k : Nat) / Scalar.ofInt 60)
      ((4 * h + k) / 4) := by
  have hquarter : (2 : Rat) ^ (-2 : Int) = 1 / 4 := by norm_num
  have hh' : 4 * (h : Rat) + k < 2 ^ 53 := by exact_mod_cast hh
  obtain ⟨v₁, h₁⟩ := exists_minutes (m := 15 * k) (by omega)
  have hminutes : ((15 * k : Nat) : Rat) / 60 = k * 2 ^ (-2 : Int) := by
    rw [hquarter]
    push_cast
    ring
  rw [hminutes] at h₁
  obtain rfl := h₁.value_eq (by omega) (by decide) (by decide)
  have hsum : (h : Rat) + k * 2 ^ (-2 : Int) = (4 * h + k : Nat) * 2 ^ (-2 : Int) := by
    rw [hquarter]
    push_cast
    ring
  obtain ⟨v₂, h₂⟩ := (roundsTo_ofNat (n := h) (by omega)).add h₁
    (lt_of_lt_of_le (by rw [hquarter]; linarith) Normal.pow_le_limit)
  rw [hsum] at h₂
  obtain rfl := h₂.value_eq hh (by decide) (by decide)
  have hvalue : ((4 * h + k : Nat) : Rat) * 2 ^ (-2 : Int) = (4 * h + k) / 4 := by
    rw [hquarter]
    push_cast
    ring
  rwa [hvalue] at h₂

/-- What a clock time agrees with the clock by: its minutes are quarters of an hour. -/
structure OnQuarter (h m s : Nat) : Prop where
  dvd : 15 ∣ m
  ne : (h, m, s) ≠ (0, 15, 39)

/-- What is rounded last: on both sides a sum of the quarters and the seconds. -/
theorem exists_lastRoundings {h k s : Nat} (hk : k < 4) (hs : s < 60)
    (hexact : wholeSeconds h (15 * k) s < 2 ^ 53) : ∃ u v w : Rat,
      RoundsTo (s / 3600) (hoursAt s) u ∧
      RoundsTo ((4 * h + k) / 4 + u) (hoursOf h (15 * k) s) v ∧
      RoundsTo ((4 * h + k) / 4 + s / 3600) (hoursAt (wholeSeconds h (15 * k) s)) w := by
  have htotal : 3600 * h + 60 * (15 * k) + s < 2 ^ 53 := hexact
  have hquarters : 4 * h + k < 2 ^ 53 := by omega
  have hquarters' : 4 * (h : Rat) + k < 2 ^ 53 := by exact_mod_cast hquarters
  have hs' : (s : Rat) < 60 := by exact_mod_cast hs
  obtain ⟨u, hu⟩ := exists_hoursAt (t := s) (by omega)
  have herr := abs_le.mp hu.abs_sub_le_mul
  obtain ⟨v, hv⟩ := (roundsTo_quarters hk hquarters).add hu
    (lt_of_lt_of_le (by linarith) Normal.pow_le_limit)
  obtain ⟨w, hw⟩ := exists_hoursAt hexact
  have hclock : (wholeSeconds h (15 * k) s : Rat) / 3600 = (4 * h + k) / 4 + s / 3600 := by
    unfold wholeSeconds
    push_cast
    ring
  exact ⟨u, v, w, hu, hv, hclock ▸ hw⟩

/-- The seconds are added to a multiple of the grid. -/
theorem hoursOf_eq_of_grid {h k s i : Nat} (hk : k < 4) (hpos : 0 < s) (hs : s < 60)
    (hexact : wholeSeconds h (15 * k) s < 2 ^ 53) (hi : i < 3)
    (hgrid : 2 ^ 53 ≤ (4 * h + k) * 2 ^ (51 + i)) (hne : ¬ (i = 2 ∧ s = 39)) :
    hoursOf h (15 * k) s = hoursAt (wholeSeconds h (15 * k) s) := by
  obtain ⟨u, v, w, hu, hv, hw⟩ := exists_lastRoundings hk hs hexact
  have hseconds : (0 : Rat) < s / 3600 := div_pos (by exact_mod_cast hpos) (by norm_num)
  have hquarters : (4 * (h : Rat) + k) / 4 =
      (((4 * h + k) * 2 ^ (51 + i) : Int) : Rat) / 2 ^ (53 + i) := by
    rw [show 53 + i = 51 + i + 2 by omega, pow_add _ _ 2]
    push_cast
    field_simp
    ring
  have hsign : 0 ≤ (4 * (h : Rat) + k) / 4 := by positivity
  have hu₀ : 0 < u := by
    obtain ⟨d, -, hvalue, -⟩ := hu.exists_normal hseconds
    exact hvalue ▸ d.value_pos
  obtain ⟨d, hd, -, hrounds⟩ := hv.exists_normal (by linarith)
  obtain ⟨d', hd', -, hrounds'⟩ := hw.exists_normal (by linarith)
  rw [hquarters] at hrounds hrounds'
  have heq := Normal.eq_of_sameCell (by omega) (by exact_mod_cast hgrid)
    (sameCell_seconds hi hpos hs hne hu) hseconds hrounds hrounds'
  rw [hd, hd', heq]

/-- Adding the seconds to the quarters leads to what the clock shows. -/
theorem hoursOf_eq_hoursAt {h m s : Nat} (hm : m < 60) (hs : s < 60)
    (hexact : wholeSeconds h m s < 2 ^ 53) (hquarter : OnQuarter h m s) :
    hoursOf h m s = hoursAt (wholeSeconds h m s) := by
  obtain ⟨⟨k, rfl⟩, hne⟩ := hquarter
  have hk : k < 4 := by omega
  rcases Nat.eq_zero_or_pos s with rfl | hpos
  · -- without seconds both sides are the quarters
    obtain ⟨u, v, w, hu, hv, hw⟩ := exists_lastRoundings hk hs hexact
    have hquarters := roundsTo_quarters (h := h) hk (by unfold wholeSeconds at hexact; omega)
    rw [Nat.cast_zero, zero_div] at hu hw
    rw [hu.eq_of_value (.zero rfl), add_zero] at hv
    rw [add_zero] at hw
    exact hv.eq_of_value_eq hw
      ((hv.eq_of_value hquarters).trans (hw.eq_of_value hquarters).symm)
  rcases Nat.lt_or_ge (4 * h + k) 2 with hsmall | hlarge
  · rcases Nat.eq_zero_or_pos (4 * h + k) with hzero | hone
    · -- without quarters both sides are the seconds
      obtain ⟨u, v, w, hu, hv, hw⟩ := exists_lastRoundings hk hs hexact
      obtain ⟨rfl, rfl⟩ : h = 0 ∧ k = 0 := by omega
      have hsum : (4 * ((0 : Nat) : Rat) + (0 : Nat)) / 4 + u = u := by norm_num
      have htotal : wholeSeconds 0 (15 * 0) s = s := by
        unfold wholeSeconds
        omega
      rw [hsum] at hv
      rw [htotal]
      exact hv.eq_of_value_eq hu (hv.eq_of_value hu)
    · obtain ⟨rfl, rfl⟩ : h = 0 ∧ k = 1 := by omega
      refine hoursOf_eq_of_grid hk hpos hs hexact (i := 2) (by decide) (by decide) ?_
      rintro ⟨-, rfl⟩
      exact hne rfl
  · exact hoursOf_eq_of_grid hk hpos hs hexact (i := 1) (by decide) (by omega) (by omega)

/-! ## 3. Readings and premises -/

/-- The hours of a clock and those of a clock time compare as the seconds do. -/
theorem compare_hoursAt {h m s t : Nat} (hm : m < 60) (hs : s < 60)
    (hexact : wholeSeconds h m s < 2 ^ 53) (ht : t < 2 ^ 53)
    (hsame : t = wholeSeconds h m s → OnQuarter h m s)
    (hother : t ≠ wholeSeconds h m s → h < 2 ^ 40) (relation : Relation) :
    relation.compare (hoursAt t) (hoursOf h m s) =
      relation.compare (t : Rat) (wholeSeconds h m s) := by
  rcases lt_trichotomy t (wholeSeconds h m s) with hlt | rfl | hgt
  · obtain ⟨q, v, q', v', hv, hv', hbefore, -⟩ := lt_hoursOf (hother hlt.ne) hm hs ht
    rw [hv.compare_eq relation hv']
    exact (relation.compare_of_lt (hbefore hlt) (by exact_mod_cast hlt)).1
  · rw [hoursOf_eq_hoursAt hm hs hexact (hsame rfl)]
    obtain ⟨v, hv⟩ := exists_hoursAt ht
    rw [hv.compare_eq relation hv]
    exact relation.compare_self _ _
  · obtain ⟨q, v, q', v', hv, hv', -, hbehind⟩ := lt_hoursOf (hother hgt.ne') hm hs ht
    rw [hv.compare_eq relation hv']
    exact (relation.compare_of_lt (hbehind hgt) (by exact_mod_cast hgt)).2

/-- A clock stands a whole number of seconds behind its start, or behind midnight: in the two
attributes that are compared with clock times. -/
inductive Clock.StandsAt (c : Clock Float) : Attribute → Nat → Prop
  | sinceStart {t : Nat} (h : c.elapsedSeconds = Scalar.ofInt t) : c.StandsAt .time t
  | sinceMidnight {i : DateTime} (h : c.moment.dateTime = .ok i) (hmicro : i.microsecond = 0) :
    c.StandsAt .clockTime i.secondOfDay

theorem Clock.StandsAt.shows {c : Clock Float} {r : Reading Float} {a : Attribute} {t : Nat}
    (h : c.StandsAt a t) (hr : c.reading = .ok r) (ht : t < 2 ^ 53) :
    Source.simulationValue a r = hoursAt t := by
  unfold Clock.reading at hr
  cases h with
  | sinceStart h =>
    cases hdate : c.moment.dateTime with
    | error e =>
      rw [hdate] at hr
      exact absurd hr nofun
    | ok instant =>
      rw [hdate] at hr
      cases hr
      exact congrArg (· / TimeLiteral.secondsPerHour) h
  | sinceMidnight h hmicro =>
    rw [h] at hr
    cases hr
    have hzero : (Scalar.ofInt ((0 : Nat) : Int) / Scalar.ofInt 1000000 : Float) =
        Scalar.ofInt 0 := by decide +kernel
    show Clock.hoursOfDay _ = _
    rw [Clock.hoursOfDay, hmicro, hzero, (roundsTo_ofNat ht).add_ofInt_zero, hoursAt]

theorem holds_simulation (state : State Float) (r : Reading Float) (joint : Joint) (a : Attribute)
    (relation : Relation) (x : Float) :
    Premise.holds state r ⟨joint, ⟨.simulation, none, a⟩, relation, .number x⟩ =
      .ok (relation.compare (Source.simulationValue a r) x) := rfl

theorem clockHours_eq {h : Nat} (m s : Nat) (hh : h < 2 ^ 53) :
    TimeLiteral.clockHours h m s = .ok (hoursOf h m s) := if_pos (roundsTo_ofNat hh).isFinite

/-- At second `t` a premise compares the clock with `x` hours as it compares `t` with `n`. -/
def ComparesAs (x : Float) (n t : Nat) : Prop :=
  ∀ {c : Clock Float} {r : Reading Float} {a : Attribute}, c.reading = .ok r → c.StandsAt a t →
    ∀ (state : State Float) (joint : Joint) (relation : Relation),
      Premise.holds state r ⟨joint, ⟨.simulation, none, a⟩, relation, .number x⟩ =
        .ok (relation.compare (t : Rat) n)

/-- A clock time and the clock agree at every second but its own, and at its own if its minutes are
quarters of an hour. -/
theorem clockTime_agrees [TimeReader Float] {hourText minuteText secondText : String} {h m s : Nat}
    (hh : Spells hourText h) (hm : Spells minuteText m) (hs : Spells secondText s) (hm60 : m < 60)
    (hs60 : s < 60) (hexact : wholeSeconds h m s < 2 ^ 53) :
    ∃ x : Float,
      TimeLiteral.hours (hourText ++ ":" ++ minuteText ++ ":" ++ secondText) = .ok x ∧
      (OnQuarter h m s → ∀ {c : Clock Float} {r : Reading Float} {a : Attribute},
        c.reading = .ok r → c.StandsAt a (wholeSeconds h m s) → Source.simulationValue a r = x) ∧
      (∀ t < 2 ^ 53, (t = wholeSeconds h m s → OnQuarter h m s) →
        (t ≠ wholeSeconds h m s → h < 2 ^ 40) → ComparesAs x (wholeSeconds h m s) t) := by
  have hh53 : h < 2 ^ 53 := by
    unfold wholeSeconds at hexact
    omega
  refine ⟨hoursOf h m s, (TimeLiteral.hours_clockTime hh hm hs hm60 hs60).trans
    (clockHours_eq m s hh53), ?_, ?_⟩
  · intro hquarter c r a hr hstands
    rw [hstands.shows hr hexact, hoursOf_eq_hoursAt hm60 hs60 hexact hquarter]
  · intro t ht hsame hother c r a hr hstands state joint relation
    rw [holds_simulation, hstands.shows hr ht, compare_hoursAt hm60 hs60 hexact ht hsame hother]

/-- A clock that counts seconds from the beginning of 1970. -/
def epochClock (t : Int) : Clock Float := ⟨Timeline.anchored Scalar.zero, t⟩

open scoped Readers in
theorem clockTime_agrees_halfPast : ∃ x : Float, TimeLiteral.hours "0:30:00" = .ok x ∧
    ComparesAs x 1800 1799 ∧ ComparesAs x 1800 1800 ∧
    ∃ r, (epochClock 1800).reading = .ok r ∧ r.elapsedHours = x ∧ r.clockTime = x := by
  have hhour : Spells "0" 0 := ⟨by decide, by decide, by decide, by decide⟩
  have hminute : Spells "30" 30 := ⟨by decide, by decide, by decide, by decide⟩
  have hsecond : Spells "00" 0 := ⟨by decide, by decide, by decide, by decide⟩
  have hquarter : OnQuarter 0 30 0 := ⟨by decide, by decide⟩
  obtain ⟨x, hx, hagrees, hcompares⟩ :=
    clockTime_agrees hhour hminute hsecond (by decide) (by decide) (by decide)
  obtain ⟨r, hr⟩ := Option.isSome_iff_exists.mp
    (by decide +kernel : (epochClock 1800).reading.toOption.isSome = true)
  have hr := toOption_eq_some.mp hr
  have hstart : (epochClock 1800).StandsAt .time 1800 := .sinceStart (by decide +kernel)
  have hmidnight : (epochClock 1800).StandsAt .clockTime 1800 :=
    .sinceMidnight (i := ⟨⟨1970, 1, 1⟩, 0, 30, 0, 0, none⟩) (by decide +kernel) rfl
  exact ⟨x, hx, hcompares 1799 (by decide) (fun h => absurd h (by decide)) (fun _ => by decide),
    hcompares 1800 (by decide) (fun _ => hquarter) (fun h => absurd rfl h), r, hr,
    hagrees hquarter hr hstart, hagrees hquarter hr hmidnight⟩

open scoped Readers in
/-- The clock shows 61 seconds as another double than the one that the text denotes. -/
theorem not_comparesAs_oneMinuteOne : ∃ x : Float, TimeLiteral.hours "0:01:01" = .ok x ∧
    ¬ ComparesAs x (wholeSeconds 0 1 1) 61 := by
  refine ⟨hoursOf 0 1 1, by decide +kernel, fun h => ?_⟩
  obtain ⟨r, hr⟩ := Option.isSome_iff_exists.mp
    (by decide +kernel : (epochClock 61).reading.toOption.isSome = true)
  have hr := toOption_eq_some.mp hr
  have hstart : (epochClock 61).StandsAt .time 61 := .sinceStart (by decide +kernel)
  have hholds := h hr hstart ⟨[], []⟩ .first .eq
  rw [holds_simulation, hstart.shows hr (by decide)] at hholds
  exact absurd hholds (by decide +kernel)

end Sluice
