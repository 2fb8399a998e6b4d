import Mathlib.Algebra.Order.Field.Power
import Mathlib.Algebra.Order.Field.Rat
import Mathlib.Tactic.FieldSimp
import Mathlib.Tactic.Linarith
import Mathlib.Tactic.NormNum
import Mathlib.Tactic.Positivity
import Mathlib.Tactic.Ring
import Sluice.Proofs.Number.Order

/-!
# Positive doubles

A positive double that is not too small is a mantissa of 53 bits, the first of which is one,
and a power of two, and no number is written so in two ways. Here a double is given by these
parts (`Normal`), and its value is a rational number. The values are ordered as the parts are,
first by exponent and then by mantissa, and the comparison of machine numbers is that of values
(`Normal.toFloat_lt_iff`, `Normal.toFloat_beq_iff`).

Around each double there is an interval of the numbers that are nearer to it than to any other
(`Normal.Rounds`). The intervals lie side by side, in the order of their doubles. This is all
that is used of rounding: what is inside of an interval is rounded to its double
(`Normal.eq_of_rounds`), a greater number is not rounded to a smaller double
(`Normal.value_le_of_rounds`), and rounding moves a number below `2 ^ k` by `2 ^ (k - 54)` at most
(`Normal.abs_value_sub_le`).
-/

set_option autoImplicit false

namespace Sluice

open Float.Model (UnpackedFloat Format)

/-- The parts of a positive double in normal form. -/
structure Normal where
  mantissa : Nat
  exponent : Int
  le_mantissa : 2 ^ 52 ≤ mantissa
  mantissa_lt : mantissa < 2 ^ 53
  le_exponent : -1074 ≤ exponent
  exponent_le : exponent ≤ 971

namespace Normal

variable {d d' : Normal} {q q' : Rat}

theorem ext {d d' : Normal} (hm : d.mantissa = d'.mantissa) (he : d.exponent = d'.exponent) :
    d = d' := by
  cases d
  cases d'
  cases hm
  cases he
  rfl

/-! ## 1. Values -/

/-- The distance between neighbouring doubles. -/
def ulp (d : Normal) : Rat := 2 ^ d.exponent

def value (d : Normal) : Rat := d.mantissa * d.ulp

theorem ulp_pos (d : Normal) : 0 < d.ulp := zpow_pos (by norm_num) _

theorem cast_mantissa (d : Normal) :
    (2 : Rat) ^ 52 ≤ d.mantissa ∧ (d.mantissa : Rat) + 1 ≤ 2 ^ 53 := by
  constructor
  · exact_mod_cast d.le_mantissa
  · exact_mod_cast Nat.succ_le_of_lt d.mantissa_lt

theorem value_pos (d : Normal) : 0 < d.value :=
  mul_pos (lt_of_lt_of_le (by norm_num) d.cast_mantissa.1) d.ulp_pos

/-- The exponent says between which powers of two the value is. -/
theorem value_bounds (d : Normal) :
    (2 : Rat) ^ (d.exponent + 52) ≤ d.value ∧ d.value < 2 ^ (d.exponent + 53) := by
  obtain ⟨hlow, hhigh⟩ := d.cast_mantissa
  have hpos := d.ulp_pos
  have hpower : ∀ k : Nat, (2 : Rat) ^ (d.exponent + k) = 2 ^ k * d.ulp := by
    intro k
    rw [zpow_add₀ (by norm_num), zpow_natCast, ulp, mul_comm]
  have h52 := hpower 52
  have h53 := hpower 53
  push_cast at h52 h53
  rw [h52, h53, value]
  exact ⟨mul_le_mul_of_nonneg_right hlow hpos.le, mul_lt_mul_of_pos_right (by linarith) hpos⟩

/-- A greater exponent makes the distance twice as large. -/
theorem two_mul_ulp_le (h : d.exponent < d'.exponent) : 2 * d.ulp ≤ d'.ulp := by
  have hstep : (2 : Rat) * d.ulp = 2 ^ (d.exponent + 1) := by
    rw [zpow_add_one₀ (by norm_num), ulp, mul_comm]
  rw [hstep]
  exact zpow_le_zpow_right₀ (by norm_num) h

/-! ## 2. Intervals -/

/-- The least number that may be rounded to a double. Below a power of two the neighbours are
nearer. -/
def lower (d : Normal) : Rat :=
  if d.mantissa = 2 ^ 52 then (d.mantissa - 1 / 4) * d.ulp else (d.mantissa - 1 / 2) * d.ulp

/-- The greatest number that may be rounded to a double. -/
def upper (d : Normal) : Rat := (d.mantissa + 1 / 2) * d.ulp

/-- A number that may be rounded to a double. Half way between two it may be rounded to either. -/
def Rounds (d : Normal) (q : Rat) : Prop := d.lower ≤ q ∧ q ≤ d.upper

theorem lower_le (d : Normal) : (d.mantissa - 1 / 2) * d.ulp ≤ d.lower := by
  have hpos := d.ulp_pos
  unfold lower
  split
  · nlinarith
  · exact le_refl _

theorem lower_lt_value (d : Normal) : d.lower < d.value := by
  have hpos := d.ulp_pos
  unfold lower value
  split
  · nlinarith
  · nlinarith

theorem value_lt_upper (d : Normal) : d.value < d.upper := by
  have hpos := d.ulp_pos
  unfold value upper
  nlinarith

/-- The interval in units of the last bit. -/
theorem rounds_mul_ulp {y : Rat} (hlower : d.mantissa - 1 / 2 ≤ y)
    (hfirst : d.mantissa = 2 ^ 52 → (2 : Rat) ^ 52 - 1 / 4 ≤ y) (hupper : y ≤ d.mantissa + 1 / 2) :
    d.Rounds (y * d.ulp) := by
  have hpos := d.ulp_pos
  refine ⟨?_, mul_le_mul_of_nonneg_right hupper hpos.le⟩
  unfold lower
  split
  · rename_i hmantissa
    refine mul_le_mul_of_nonneg_right ?_ hpos.le
    rw [hmantissa]
    exact_mod_cast hfirst hmantissa
  · exact mul_le_mul_of_nonneg_right hlower hpos.le

/-- A smaller double has its interval in front. -/
theorem upper_le_lower (h : d.exponent < d'.exponent ∨
    d.exponent = d'.exponent ∧ d.mantissa < d'.mantissa) : d.upper ≤ d'.lower := by
  have hpos := d.ulp_pos
  rcases h with he | ⟨he, hm⟩
  · -- the last double of one exponent meets the first double of the next
    have hulp := two_mul_ulp_le he
    have hfirst : ((2 : Rat) ^ 52 - 1 / 4) * d'.ulp ≤ d'.lower := by
      have hpos' := d'.ulp_pos
      unfold lower
      split
      · rename_i hmantissa
        rw [hmantissa]
        norm_num
      · rename_i hmantissa
        have hnext : (2 : Rat) ^ 52 + 1 ≤ d'.mantissa := by
          exact_mod_cast Nat.succ_le_of_lt (Nat.lt_of_le_of_ne d'.le_mantissa (Ne.symm hmantissa))
        nlinarith
    have hlast := d.cast_mantissa.2
    unfold upper
    nlinarith
  · have hulp : d'.ulp = d.ulp := by rw [ulp, ulp, he]
    have hnext : (d.mantissa : Rat) + 1 ≤ d'.mantissa := by exact_mod_cast hm
    refine le_trans ?_ d'.lower_le
    rw [upper, hulp]
    nlinarith

/-- The doubles stand in one line. -/
theorem trichotomy (d d' : Normal) :
    (d.exponent < d'.exponent ∨ d.exponent = d'.exponent ∧ d.mantissa < d'.mantissa) ∨ d = d' ∨
      (d'.exponent < d.exponent ∨ d'.exponent = d.exponent ∧ d'.mantissa < d.mantissa) := by
  rcases lt_trichotomy d.exponent d'.exponent with he | he | he
  · exact Or.inl (Or.inl he)
  · rcases lt_trichotomy d.mantissa d'.mantissa with hm | hm | hm
    · exact Or.inl (Or.inr ⟨he, hm⟩)
    · exact Or.inr (Or.inl (ext hm he))
    · exact Or.inr (Or.inr (Or.inr ⟨he.symm, hm⟩))
  · exact Or.inr (Or.inr (Or.inl he))

theorem value_lt_value (h : d.exponent < d'.exponent ∨
    d.exponent = d'.exponent ∧ d.mantissa < d'.mantissa) : d.value < d'.value :=
  d.value_lt_upper.trans_le ((upper_le_lower h).trans d'.lower_lt_value.le)

theorem value_lt_iff : d.value < d'.value ↔
    d.exponent < d'.exponent ∨ d.exponent = d'.exponent ∧ d.mantissa < d'.mantissa := by
  refine ⟨fun h => ?_, value_lt_value⟩
  rcases trichotomy d d' with hbefore | rfl | hbehind
  · exact hbefore
  · exact absurd h (lt_irrefl _)
  · exact absurd h (value_lt_value hbehind).asymm

theorem value_eq_iff : d.value = d'.value ↔ d = d' := by
  refine ⟨fun h => ?_, congrArg value⟩
  rcases trichotomy d d' with hbefore | heq | hbehind
  · exact absurd h (value_lt_value hbefore).ne
  · exact heq
  · exact absurd h (value_lt_value hbehind).ne'

/-- Strictly inside of an interval there is nothing to choose. -/
theorem eq_of_rounds (h : d.Rounds q) (hlower : d'.lower < q) (hupper : q < d'.upper) :
    d = d' := by
  rcases trichotomy d d' with hbefore | heq | hbehind
  · exact absurd (h.2.trans (upper_le_lower hbefore)) (not_le.mpr hlower)
  · exact heq
  · exact absurd ((upper_le_lower hbehind).trans h.1) (not_le.mpr hupper)

/-- A value may be rounded to its double. -/
theorem rounds_value (d : Normal) : d.Rounds d.value := ⟨d.lower_lt_value.le, d.value_lt_upper.le⟩

/-- A double is rounded to itself. -/
theorem eq_of_rounds_value (h : d.Rounds d'.value) : d = d' :=
  eq_of_rounds h d'.lower_lt_value d'.value_lt_upper

/-- A greater number is not rounded to a smaller double. -/
theorem value_le_of_rounds (h : d.Rounds q) (h' : d'.Rounds q') (hq : q < q') :
    d.value ≤ d'.value := by
  rcases trichotomy d d' with hbefore | rfl | hbehind
  · exact (value_lt_value hbefore).le
  · exact le_refl _
  · exact absurd (h'.2.trans ((upper_le_lower hbehind).trans h.1)) (not_le.mpr hq)

/-- What rounding changes. -/
theorem abs_value_sub_le {k : Int} (h : d.Rounds q) (hq : q < 2 ^ k) :
    |d.value - q| ≤ 2 ^ (k - 54) := by
  obtain ⟨hlower, hupper⟩ := h
  have hpos := d.ulp_pos
  have hhalf := d.lower_le
  unfold upper at hupper
  rcases le_or_gt (d.exponent + 53) k with he | he
  · have hulp : d.ulp ≤ 2 * 2 ^ (k - 54) := by
      rw [← zpow_one_add₀ (by norm_num)]
      exact zpow_le_zpow_right₀ (by norm_num) (by omega)
    rw [value, abs_le]
    constructor
    · linarith
    · linarith
  · -- the number is below a power of two, and the double is that power
    have hpower : (2 : Rat) ^ (d.exponent + 52) = 2 ^ 52 * d.ulp := by
      rw [zpow_add₀ (by norm_num), ulp, mul_comm]
      norm_num
    have hmantissa : d.mantissa = 2 ^ 52 := by
      by_contra hne
      have hnext : (2 : Rat) ^ 52 + 1 ≤ d.mantissa := by
        exact_mod_cast Nat.succ_le_of_lt (Nat.lt_of_le_of_ne d.le_mantissa (Ne.symm hne))
      have hk : (2 : Rat) ^ k ≤ 2 ^ (d.exponent + 52) :=
        zpow_le_zpow_right₀ (by norm_num) (by omega)
      nlinarith
    have hfirst : d.lower = (2 ^ 52 - 1 / 4) * d.ulp := by
      rw [lower, if_pos hmantissa, hmantissa]
      norm_num
    have hk : k = d.exponent + 52 := by
      by_contra hne
      have hstep : (2 : Rat) ^ (d.exponent + 52) = 2 ^ (d.exponent + 51) * 2 := by
        rw [← zpow_add_one₀ (by norm_num)]
        congr 1
        omega
      have hk : (2 : Rat) ^ k ≤ 2 ^ (d.exponent + 51) :=
        zpow_le_zpow_right₀ (by norm_num) (by omega)
      nlinarith
    have hquarter : (2 : Rat) ^ (k - 54) = d.ulp / 4 := by
      rw [hk, show d.exponent + 52 - 54 = d.exponent + (-2) by omega, zpow_add₀ (by norm_num), ulp]
      norm_num
      ring
    rw [hk, hpower] at hq
    rw [hquarter, value, hmantissa, abs_le]
    push_cast
    constructor
    · linarith
    · linarith

/-! ## 3. Grids

From a power of two on, the ends of the intervals are whole multiples of a fixed distance. -/

theorem exists_ulp_eq {i : Nat} (h : 1 / 2 ^ i ≤ d.value) :
    ∃ j : Nat, d.ulp = 2 ^ j / 2 ^ 52 / 2 ^ i := by
  have hlow : -52 - (i : Int) ≤ d.exponent := by
    by_contra hlow
    have hpower : (2 : Rat) ^ (d.exponent + 53) ≤ 2 ^ (-(i : Int)) :=
      zpow_le_zpow_right₀ (by norm_num) (by omega)
    have hvalue := d.value_bounds.2
    rw [zpow_neg, zpow_natCast, ← one_div] at hpower
    linarith
  obtain ⟨j, hj⟩ : ∃ j : Nat, d.exponent = j - 52 - i := ⟨(d.exponent + 52 + i).toNat, by omega⟩
  refine ⟨j, ?_⟩
  rw [ulp, hj, zpow_sub₀ (by norm_num), zpow_sub₀ (by norm_num), zpow_natCast, zpow_natCast]
  norm_num

theorem exists_upper_eq {i : Nat} (h : 1 / 2 ^ i ≤ d.value) :
    ∃ n : Int, d.upper = n / 2 ^ (53 + i) := by
  obtain ⟨j, hj⟩ := exists_ulp_eq h
  refine ⟨(2 * d.mantissa + 1) * 2 ^ j, ?_⟩
  rw [upper, hj, pow_add]
  push_cast
  field_simp

/-- The lower end of the power of two itself lies between two multiples. -/
theorem exists_lower_eq {i : Nat} (h : 1 / 2 ^ i ≤ d.value) :
    d.lower < 1 / 2 ^ i ∨ ∃ n : Int, d.lower = n / 2 ^ (53 + i) := by
  obtain ⟨j, hj⟩ := exists_ulp_eq h
  rw [lower, hj, pow_add]
  split
  · rename_i hmantissa
    rw [hmantissa]
    cases j with
    | zero =>
      left
      rw [pow_zero]
      field_simp
      norm_num
    | succ j =>
      right
      refine ⟨(2 ^ 54 - 1) * 2 ^ j, ?_⟩
      rw [pow_succ]
      push_cast
      field_simp
      ring
  · right
    refine ⟨(2 * d.mantissa - 1) * 2 ^ j, ?_⟩
    push_cast
    field_simp

/-! ## 4. Machine numbers -/

theorem mantissa_pos (d : Normal) : 0 < d.mantissa :=
  Nat.lt_of_lt_of_le (by decide) d.le_mantissa

/-- The decoded double. -/
def unpacked (d : Normal) : UnpackedFloat :=
  .finite .positive d.mantissa d.exponent d.mantissa_pos

def toFloat (d : Normal) : Float := .ofModel (.pack d.unpacked)

theorem log2_mantissa (d : Normal) : d.mantissa.log2 = 52 :=
  (Nat.log2_eq_iff d.mantissa_pos.ne').mpr ⟨d.le_mantissa, d.mantissa_lt⟩

/-- The exponent field of the encoding. -/
def field (d : Normal) : Nat := (d.exponent + 1075).toNat

theorem field_bounds (d : Normal) : 1 ≤ d.field ∧ d.field ≤ 2046 := by
  have hlow := d.le_exponent
  have hhigh := d.exponent_le
  unfold field
  omega

theorem toNat_field (d : Normal) : (BitVec.ofNat 11 d.field).toNat = d.field := by
  have hfield := d.field_bounds
  rw [BitVec.toNat_ofNat, Nat.mod_eq_of_lt (by omega)]

theorem ofNat_field_ne {b : BitVec 11} (d : Normal) (h : b.toNat ≠ d.field) :
    BitVec.ofNat 11 d.field ≠ b := by
  rintro rfl
  exact h d.toNat_field

/-- The leading bit of the mantissa is not stored. -/
theorem pack_unpacked (d : Normal) : UnpackedFloat.pack Format.binary64 d.unpacked =
    UnpackedFloat.packComponents Format.binary64 .positive (BitVec.ofNat 11 d.field)
      (BitVec.ofNat 52 d.mantissa) := by
  have hbias : d.exponent + (Format.binary64.exponentBias : Int) + (52 : Nat) =
      d.exponent + 1075 := by
    have : (Format.binary64.exponentBias : Int) = 1023 := rfl
    omega
  have hbounds := d.field_bounds
  have hlow : ¬ 2 ^ 11 ≤ d.field + 1 := by omega
  have hlog : d.mantissa.log2 + 1 = Format.binary64.mantissaBits := by
    rw [d.log2_mantissa]
    rfl
  unfold unpacked UnpackedFloat.pack
  dsimp only
  rw [hbias, ← field, if_neg hlow, if_pos hlog]

/-- The leading bit of the mantissa is put back. -/
theorem toNat_mantissa (d : Normal) : (1#1 ++ BitVec.ofNat 52 d.mantissa).toNat = d.mantissa := by
  have hlow := d.le_mantissa
  have hhigh := d.mantissa_lt
  have hstored : d.mantissa % 2 ^ 52 = d.mantissa - 2 ^ 52 := by
    rw [Nat.mod_eq_sub_mod hlow, Nat.mod_eq_of_lt (by omega)]
  rw [BitVec.toNat_append, BitVec.toNat_ofNat, BitVec.toNat_ofNat,
    ← Nat.shiftLeft_add_eq_or_of_lt (Nat.mod_lt _ (Nat.two_pow_pos 52)), Nat.shiftLeft_eq, hstored]
  exact Nat.add_sub_cancel' hlow

theorem unpackSign_packComponents (e : BitVec 11) (m : BitVec 52) :
    UnpackedFloat.unpackSign (UnpackedFloat.packComponents Format.binary64 .positive e m) =
      0#1 := by
  unfold UnpackedFloat.unpackSign UnpackedFloat.packComponents BitVec.extractLsb
  rw [BitVec.extractLsb'_append_eq_of_le (by decide),
    BitVec.extractLsb'_append_eq_of_le (by decide)]
  rfl

/-- A double keeps its parts when it is encoded. -/
theorem unpack_toFloat (d : Normal) : d.toFloat.toModel.unpack = d.unpacked := by
  obtain ⟨hlow, hhigh⟩ := d.field_bounds
  have hones : BitVec.ofNat 11 d.field ≠ -1#11 :=
    d.ofNat_field_ne (Nat.ne_of_gt (Nat.lt_of_le_of_lt hhigh (by decide)))
  have hzero : BitVec.ofNat 11 d.field ≠ 0#11 := d.ofNat_field_ne (Nat.ne_of_lt hlow)
  have hexponent : (d.field : Int) - (Format.binary64.exponentBias + (52 : Nat)) = d.exponent := by
    have hbias : (Format.binary64.exponentBias : Int) = 1023 := rfl
    have hpos := d.le_exponent
    unfold field
    omega
  show UnpackedFloat.unpack Format.binary64 (UnpackedFloat.pack Format.binary64 d.unpacked) = _
  rw [pack_unpacked]
  unfold UnpackedFloat.unpack
  dsimp only
  rw [if_neg (by rwa [UnpackedFloat.unpackExponent_packComponents]),
    if_neg (by rwa [UnpackedFloat.unpackExponent_packComponents]), unpacked,
    UnpackedFloat.finite.injEq, unpackSign_packComponents,
    UnpackedFloat.unpackMantissa_packComponents, UnpackedFloat.unpackExponent_packComponents,
    toNat_field, toNat_mantissa]
  exact ⟨rfl, rfl, hexponent⟩

theorem compare_unpacked (d d' : Normal) : d.unpacked.compare d'.unpacked =
    some ((compare d.exponent d'.exponent).then (compare d.mantissa d'.mantissa)) := rfl

/-- The comparison of doubles is that of their values. -/
theorem toFloat_lt_iff : d.toFloat < d'.toFloat ↔ d.value < d'.value := by
  rw [float_lt_iff, unpack_toFloat, unpack_toFloat, compare_unpacked, value_lt_iff,
    Option.some.injEq, Ordering.then_eq_lt, Int.compare_eq_lt, Int.compare_eq_eq,
    Nat.compare_eq_lt]

theorem toFloat_beq_iff : (d.toFloat == d'.toFloat) = true ↔ d.value = d'.value := by
  rw [float_beq_iff, unpack_toFloat, unpack_toFloat, compare_unpacked, value_eq_iff,
    Option.some.injEq, Ordering.then_eq_eq, Int.compare_eq_eq, Nat.compare_eq_eq]
  constructor
  · rintro ⟨he, hm⟩
    exact ext hm he
  · rintro rfl
    exact ⟨rfl, rfl⟩

end Normal

end Sluice
