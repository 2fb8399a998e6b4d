import Mathlib.Algebra.Order.Field.Basic
import Mathlib.Algebra.Order.Group.Unbundled.Int
import Mathlib.Data.Rat.Cast.Order
import Mathlib.Tactic.Linarith
import Mathlib.Tactic.Ring
import Sluice.Number.Scalar

/-!
# Exact arithmetic

The laws of the instance `Scalar Rat`. Whole numbers are themselves, nothing is undefined, and
rounding goes to the nearest whole number. Two statements about rounding are all that is ever
used of it:

* it moves a number by half a unit at most (`abs_sub_ratRoundEven_le`);
* where it moves it by exactly half a unit the result is even (`even_ratRoundEven`).

They determine the result (`ratRoundEven_eq`, `ratRoundEven_eq_of_even`), and with it that rounding
keeps the order (`ratRoundEven_mono`) and how it goes together with adding whole numbers: an even
one can be added before or after (`ratRoundEven_even_add`); for an odd one it makes a difference,
but only half way between two (`ratRoundEven_int_add`).
-/

set_option autoImplicit false

namespace Sluice

/-! ## 1. Whole numbers -/

@[simp] theorem Scalar.ofInt_rat (n : Int) : (Scalar.ofInt n : Rat) = n := by
  cases n with
  | ofNat n =>
    show (n : Rat) * 10 ^ (0 : Int) = _
    simp
  | negSucc n =>
    show -(((n + 1 : Nat) : Rat) * 10 ^ (0 : Int)) = _
    simp [Int.negSucc_eq]

@[simp] theorem Scalar.zero_rat : (Scalar.zero : Rat) = 0 := by simp [Scalar.zero]

@[simp] theorem Scalar.one_rat : (Scalar.one : Rat) = 1 := by simp [Scalar.one]

theorem Scalar.atLeast_rat (x bound : Rat) : Scalar.atLeast x bound = max x bound := by
  unfold Scalar.atLeast
  split
  · rename_i h
    exact (max_eq_right (le_of_lt h)).symm
  · rename_i h
    exact (max_eq_left (not_lt.mp h)).symm

theorem Scalar.atMost_rat (x bound : Rat) : Scalar.atMost x bound = min x bound := by
  unfold Scalar.atMost
  split
  · rename_i h
    exact (min_eq_right (le_of_lt h)).symm
  · rename_i h
    exact (min_eq_left (not_lt.mp h)).symm

/-! ## 2. Rounding -/

/-- A quotient that lies half way between two whole numbers is rounded to the even one. -/
theorem divRoundEven_even {n d : Nat} (hd : 0 < d)
    (h : 2 * n = 2 * (d * divRoundEven n d) + d ∨ 2 * (d * divRoundEven n d) = 2 * n + d) :
    divRoundEven n d % 2 = 0 := by
  have hn := Nat.div_add_mod n d
  have hmod := Nat.mod_lt n hd
  have hr : divRoundEven n d = if 2 * (n % d) < d then n / d
      else if d < 2 * (n % d) then n / d + 1 else n / d + n / d % 2 := rfl
  rcases Nat.lt_trichotomy (2 * (n % d)) d with hlt | hhalf | hgt
  -- on either side of the half the result is at less than half a unit
  · rw [hr, if_pos hlt] at h
    omega
  · exact even_of_half hhalf
  · rw [hr, if_neg hgt.asymm, if_pos hgt, Nat.mul_add] at h
    omega

theorem abs_eq_natAbs_div (q : Rat) : |q| = (q.num.natAbs : Rat) / q.den := by
  conv_lhs => rw [← Rat.num_div_den q]
  rw [abs_div, Nat.abs_cast, Nat.cast_natAbs, Int.cast_abs]

/-- Rounding looks at the size of a number only; how far it goes does not depend on the sign. -/
theorem abs_sub_ratRoundEven (q : Rat) :
    |q - ratRoundEven q| = |(q.num.natAbs : Rat) / q.den - divRoundEven q.num.natAbs q.den| := by
  rw [← abs_eq_natAbs_div, ratRoundEven]
  by_cases hneg : q.num < 0
  · rw [if_pos hneg, abs_of_neg (Rat.num_neg.mp hneg), ← abs_neg]
    congr 1
    push_cast [Int.ofNat_eq_natCast]
    ring
  · rw [if_neg hneg, abs_of_nonneg (Rat.num_nonneg.mp (not_lt.mp hneg))]
    rfl

theorem natAbs_ratRoundEven (q : Rat) :
    (ratRoundEven q).natAbs = divRoundEven q.num.natAbs q.den := by
  rw [ratRoundEven]
  split
  · simp
  · simp

theorem abs_sub_ratRoundEven_le (q : Rat) : |q - ratRoundEven q| ≤ 1 / 2 := by
  have hd : (0 : Rat) < q.den := by exact_mod_cast q.den_pos
  have habove : (2 * (q.den * divRoundEven q.num.natAbs q.den) : Rat) ≤
      2 * q.num.natAbs + q.den := by
    exact_mod_cast two_mul_divRoundEven_le q.num.natAbs q.den
  have hbelow : (2 * q.num.natAbs : Rat) ≤
      2 * (q.den * divRoundEven q.num.natAbs q.den) + q.den := by
    exact_mod_cast le_two_mul_divRoundEven (n := q.num.natAbs) q.den_pos
  rw [abs_sub_ratRoundEven, abs_le]
  constructor
  · rw [le_sub_iff_add_le, le_div_iff₀ hd]
    linarith
  · rw [sub_le_iff_le_add, div_le_iff₀ hd]
    linarith

theorem even_ratRoundEven {q : Rat} (h : |q - ratRoundEven q| = 1 / 2) :
    Even (ratRoundEven q) := by
  have hd : (0 : Rat) < q.den := by exact_mod_cast q.den_pos
  rw [← Int.natAbs_even, natAbs_ratRoundEven, Nat.even_iff]
  apply divRoundEven_even q.den_pos
  rw [abs_sub_ratRoundEven, abs_eq (by norm_num)] at h
  rcases h with h | h
  · left
    rw [sub_eq_iff_eq_add, div_eq_iff hd.ne'] at h
    have hcast : (2 * q.num.natAbs : Rat) =
        2 * (q.den * divRoundEven q.num.natAbs q.den) + q.den := by linarith
    exact_mod_cast hcast
  · right
    rw [sub_eq_iff_eq_add, div_eq_iff hd.ne'] at h
    have hcast : (2 * (q.den * divRoundEven q.num.natAbs q.den) : Rat) =
        2 * q.num.natAbs + q.den := by linarith
    exact_mod_cast hcast

/-- Two whole numbers at less than a unit from each other are the same. -/
theorem int_eq_of_abs_sub_lt {m n : Int} (h : |(m : Rat) - n| < 1) : m = n := by
  have hint : |m - n| < 1 := by exact_mod_cast h
  exact sub_eq_zero.mp (Int.abs_lt_one_iff.mp hint)

theorem abs_ratRoundEven_sub_le (q : Rat) (n : Int) :
    |(ratRoundEven q : Rat) - n| ≤ |q - n| + |q - ratRoundEven q| := by
  calc |(ratRoundEven q : Rat) - n| = |(q - n) - (q - ratRoundEven q)| := by congr 1; ring
    _ ≤ |q - n| + |q - ratRoundEven q| := abs_sub _ _

theorem ratRoundEven_eq {q : Rat} {n : Int} (h : |q - n| < 1 / 2) : ratRoundEven q = n := by
  apply int_eq_of_abs_sub_lt
  have hround := abs_sub_ratRoundEven_le q
  have hdist := abs_ratRoundEven_sub_le q n
  linarith

theorem ratRoundEven_intCast (n : Int) : ratRoundEven n = n := by
  apply ratRoundEven_eq
  simp

theorem ratRoundEven_eq_of_even {q : Rat} {n : Int} (h : |q - n| ≤ 1 / 2) (hn : Even n) :
    ratRoundEven q = n := by
  have hdist := abs_ratRoundEven_sub_le q n
  rcases (abs_sub_ratRoundEven_le q).lt_or_eq with hlt | hhalf
  · apply int_eq_of_abs_sub_lt
    linarith
  -- both are even, and at most a unit apart
  · have hint : |ratRoundEven q - n| ≤ 1 := by
      have hle : |(ratRoundEven q : Rat) - n| ≤ 1 := by linarith
      exact_mod_cast hle
    obtain ⟨a, ha⟩ := even_ratRoundEven hhalf
    obtain ⟨b, hb⟩ := hn
    rw [abs_le] at hint
    omega

theorem ratRoundEven_mono {q q' : Rat} (h : q ≤ q') : ratRoundEven q ≤ ratRoundEven q' := by
  by_contra hlt
  have hstep : (ratRoundEven q' : Rat) + 1 ≤ ratRoundEven q := by
    exact_mod_cast Int.add_one_le_of_lt (not_le.mp hlt)
  have hq := (abs_le.mp (abs_sub_ratRoundEven_le q)).1
  have hq' := (abs_le.mp (abs_sub_ratRoundEven_le q')).2
  -- only if both are half way between the same two, and then they are the same
  obtain rfl : q = q' := by linarith
  exact hlt le_rfl

/-- A whole number that is a bound for a number is one for its rounding. -/
theorem le_ratRoundEven {n : Int} {q : Rat} (h : n ≤ q) : n ≤ ratRoundEven q := by
  rw [← ratRoundEven_intCast n]
  exact ratRoundEven_mono h

theorem ratRoundEven_le {n : Int} {q : Rat} (h : q ≤ n) : ratRoundEven q ≤ n := by
  rw [← ratRoundEven_intCast n]
  exact ratRoundEven_mono h

/-- What is cut off is less than a unit. -/
theorem abs_sub_ratTruncate_lt (q : Rat) : |q - ratTruncate q| < 1 := by
  have hd : (0 : Rat) < q.den := by exact_mod_cast q.den_pos
  have hsplit : (q.den * ratTruncate q : Rat) + q.num.tmod q.den = q.num := by
    exact_mod_cast Int.mul_tdiv_add_tmod q.num q.den
  have hrest : q - ratTruncate q = q.num.tmod q.den / q.den := by
    rw [eq_div_iff hd.ne', sub_mul, Rat.mul_den_eq_num]
    linarith
  have hlt : |q.num.tmod q.den| < q.den := by
    rw [Int.abs_eq_natAbs, Int.natAbs_tmod]
    exact_mod_cast Nat.mod_lt _ q.den_pos
  rw [hrest, abs_div, abs_of_pos hd, div_lt_one hd]
  exact_mod_cast hlt

/-! ## 3. Rounding and adding -/

theorem ratRoundEven_int_add {q : Rat} (h : |q - ratRoundEven q| < 1 / 2) (m : Int) :
    ratRoundEven (m + q) = m + ratRoundEven q := by
  apply ratRoundEven_eq
  push_cast
  rwa [add_sub_add_left_eq_sub]

theorem ratRoundEven_even_add (q : Rat) {m : Int} (hm : Even m) :
    ratRoundEven (m + q) = m + ratRoundEven q := by
  rcases (abs_sub_ratRoundEven_le q).lt_or_eq with hlt | hhalf
  · exact ratRoundEven_int_add hlt m
  · apply ratRoundEven_eq_of_even
    · push_cast
      rw [add_sub_add_left_eq_sub, hhalf]
    · exact hm.add (even_ratRoundEven hhalf)

/-- How far a number is from its rounding does not change when a whole number is added. -/
theorem abs_int_add_sub_ratRoundEven (q : Rat) (m : Int) :
    |m + q - ratRoundEven (m + q)| = |q - ratRoundEven q| := by
  rcases (abs_sub_ratRoundEven_le q).lt_or_eq with hlt | hhalf
  · rw [ratRoundEven_int_add hlt]
    push_cast
    rw [add_sub_add_left_eq_sub]
  · rw [hhalf]
    refine (abs_sub_ratRoundEven_le _).antisymm ?_
    -- a nearer whole number for the sum would give a nearer one for the summand
    by_contra hlt
    rw [not_le] at hlt
    have hsum : q - ((ratRoundEven (m + q) - m : Int) : Rat) = m + q - ratRoundEven (m + q) := by
      push_cast
      ring
    have hnear : |q - ((ratRoundEven (m + q) - m : Int) : Rat)| < 1 / 2 := by rwa [hsum]
    rw [← ratRoundEven_eq hnear] at hnear
    exact absurd hhalf hnear.ne

end Sluice
