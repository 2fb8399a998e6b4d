import Sluice.Proofs.Number.Normal

/-!
# Arithmetic gives the nearest double

The sum, the product and the quotient of two doubles are computed with whole numbers: with the
mantissas exactly, or with one more than the bits that are kept and a note of what was cut off
(`Records`). Then the mantissa is cut to 53 bits and rounded by the note. **The result is a
double to which the exact result may be rounded** (`Normal.exists_add`, `Normal.exists_mul`,
`Normal.exists_div`), as long as it is neither too small nor too large, and a whole number of up
to 53 bits becomes a double of that value (`Normal.exists_ofInt`).
-/

set_option autoImplicit false

namespace Sluice

open Float.Model (UnpackedFloat Format)
open Float.Model.UnpackedFloat (ExtendedMantissa Accuracy)

/-! ## 1. What was cut off -/

/-- A mantissa with the two bits behind it says of a number which is its whole part, and on which
side of the middle between this and the next whole number it is. -/
def Records (em : ExtendedMantissa) (y : Rat) : Prop :=
  match em.roundBit, em.stickyBit with
  | false, false => y = em.mantissa
  | false, true => em.mantissa < y ∧ y < em.mantissa + 1 / 2
  | true, false => y = em.mantissa + 1 / 2
  | true, true => em.mantissa + 1 / 2 < y ∧ y < em.mantissa + 1

theorem records_exact (m : Nat) :
    Records (ExtendedMantissa.ofMantissaAndAccuracy m .exact) m := rfl

namespace Records

variable {em : ExtendedMantissa} {y : Rat}

theorem bounds (h : Records em y) : (em.mantissa : Rat) ≤ y ∧ y < em.mantissa + 1 := by
  obtain ⟨m, round, sticky⟩ := em
  cases round <;> cases sticky <;> simp only [Records] at h ⊢ <;> constructor <;> linarith

/-- Cutting off a bit halves the number. -/
theorem shiftRightOne (h : Records em y) : Records em.shiftRightOne (y / 2) := by
  obtain ⟨m, round, sticky⟩ := em
  have hhalf : (m : Rat) = 2 * (m / 2 : Nat) + (m % 2 : Nat) := by
    exact_mod_cast (Nat.div_add_mod m 2).symm
  -- an even mantissa leaves the number below the middle, an odd one puts it there or above
  unfold Records at h ⊢
  unfold ExtendedMantissa.shiftRightOne
  rcases Nat.mod_two_eq_zero_or_one m with hbit | hbit
  · rw [hbit, Nat.cast_zero, add_zero] at hhalf
    cases round <;> cases sticky <;>
      simp only [hbit, bne_self_eq_false, Bool.or_self, Bool.or_true, Bool.or_false] at h ⊢
    · linarith
    all_goals constructor <;> linarith
  · rw [hbit, Nat.cast_one] at hhalf
    cases round <;> cases sticky <;>
      simp only [hbit, Nat.reduceBNe, Bool.or_self, Bool.or_true, Bool.or_false] at h ⊢
    · linarith
    all_goals constructor <;> linarith

theorem shiftRight (h : Records em y) (k : Nat) : Records (em >>> k) (y / 2 ^ k) := by
  induction k with
  | zero =>
    rw [pow_zero, div_one]
    exact h
  | succ k ih =>
    rw [pow_succ, ← div_div]
    exact ih.shiftRightOne

/-- Rounding by the note moves the number by half a unit at most. -/
theorem rounded (h : Records em y) :
    (em.roundedMantissa : Rat) - 1 / 2 ≤ y ∧ y ≤ em.roundedMantissa + 1 / 2 := by
  obtain ⟨m, round, sticky⟩ := em
  have hbit : ((m % 2 : Nat) : Rat) ≤ 1 := by
    exact_mod_cast Nat.le_of_lt_succ (Nat.mod_lt m (by decide))
  have hbit' : (0 : Rat) ≤ (m % 2 : Nat) := Nat.cast_nonneg _
  unfold Records at h
  cases round <;> cases sticky <;> dsimp only at h <;>
    simp only [ExtendedMantissa.roundedMantissa, ExtendedMantissa.accuracy,
      Accuracy.roundToNearestEven, Nat.cast_add, Nat.cast_one]
  all_goals constructor <;> linarith

end Records

/-! ## 2. Rounding -/

/-- The mantissa is cut to 53 bits. -/
theorem shiftToTargetExponent_eq {m : Nat} {e : Int} (hm : 2 ^ 52 ≤ m) (he : -1074 ≤ e)
    (acc : Accuracy) : UnpackedFloat.shiftToTargetExponent Format.binary64 m e acc =
      (ExtendedMantissa.ofMantissaAndAccuracy m acc >>> (m.log2 - 52),
        e + ((m.log2 - 52 : Nat) : Int)) := by
  have hlog : 52 ≤ m.log2 := (Nat.le_log2 (by omega)).mpr hm
  have htarget : Format.binary64.targetExponent (Float.Model.totalExponent m e) - e =
      ((m.log2 - 52 : Nat) : Int) := by
    show max ((m.log2 : Int) + 1 + e - 53) (-1074) - e = _
    omega
  unfold UnpackedFloat.shiftToTargetExponent UnpackedFloat.shiftToExponent
  dsimp only
  rw [htarget, Int.toNat_natCast]

/-- A mantissa with zeros behind its 53 bits is cut without a loss. -/
theorem shiftToTargetExponent_exact (d : Normal) {e : Int} {k : Nat} (he : -1074 ≤ e)
    (hexponent : d.exponent = e + k) :
    (UnpackedFloat.shiftToTargetExponent Format.binary64 (d.mantissa * 2 ^ k) e .exact).1.mantissa =
        d.mantissa ∧
      (UnpackedFloat.shiftToTargetExponent Format.binary64 (d.mantissa * 2 ^ k) e .exact).2 =
        d.exponent := by
  have hpos : 0 < 2 ^ k := Nat.two_pow_pos k
  have hlog : (d.mantissa * 2 ^ k).log2 = 52 + k := by
    rw [Nat.log2_eq_iff (Nat.mul_pos d.mantissa_pos hpos).ne', Nat.pow_add, Nat.add_right_comm,
      Nat.pow_add _ _ k]
    exact ⟨Nat.mul_le_mul_right _ d.le_mantissa, Nat.mul_lt_mul_of_pos_right d.mantissa_lt hpos⟩
  have hm : 2 ^ 52 ≤ d.mantissa * 2 ^ k :=
    Nat.le_trans d.le_mantissa (Nat.le_mul_of_pos_right _ hpos)
  rw [shiftToTargetExponent_eq hm he, hlog, Nat.add_sub_cancel_left, hexponent]
  refine ⟨?_, rfl⟩
  have hexact : Records (ExtendedMantissa.ofMantissaAndAccuracy (d.mantissa * 2 ^ k) .exact)
      ((d.mantissa * 2 ^ k : Nat) : Rat) := rfl
  have hcut := hexact.shiftRight k
  rw [Nat.cast_mul, Nat.cast_pow, Nat.cast_two, mul_div_cancel_right₀ _ (by positivity)] at hcut
  obtain ⟨hle, hlt⟩ := hcut.bounds
  have hle' : (ExtendedMantissa.ofMantissaAndAccuracy (d.mantissa * 2 ^ k) .exact >>> k).mantissa ≤
    d.mantissa := by exact_mod_cast hle
  have hlt' : d.mantissa <
    (ExtendedMantissa.ofMantissaAndAccuracy (d.mantissa * 2 ^ k) .exact >>> k).mantissa + 1 := by
    exact_mod_cast hlt
  exact Nat.le_antisymm hle' (Nat.le_of_lt_succ hlt')

/-- The rounded mantissa has 53 bits, or it is the next power of two. -/
theorem roundWithAccuracy_eq (acc : Accuracy) (d : Normal) {m k : Nat} {e : Int}
    (hm : 2 ^ 52 ≤ m) (he : -1074 ≤ e)
    (hrounded : (ExtendedMantissa.ofMantissaAndAccuracy m acc >>> (m.log2 - 52)).roundedMantissa =
      d.mantissa * 2 ^ k) (hexponent : d.exponent = e + ((m.log2 - 52 : Nat) : Int) + k) :
    UnpackedFloat.roundWithAccuracy Format.binary64 .positive m e acc = d.unpacked := by
  obtain ⟨hmantissa, hlast⟩ := shiftToTargetExponent_exact d (by omega) hexponent
  unfold UnpackedFloat.roundWithAccuracy
  rw [shiftToTargetExponent_eq hm he]
  dsimp only
  rw [hrounded, dif_neg (hmantissa.trans_ne d.mantissa_pos.ne'), Normal.unpacked,
    UnpackedFloat.finite.injEq]
  exact ⟨rfl, hmantissa, hlast⟩

/-- A mantissa is the whole part of the number of which it is known. -/
theorem Records.mantissa_bounds {m : Nat} {acc : Accuracy} {y : Rat}
    (h : Records (ExtendedMantissa.ofMantissaAndAccuracy m acc) y) : (m : Rat) ≤ y ∧ y < m + 1 := by
  have hbounds := h.bounds
  cases acc with
  | exact => exact hbounds
  | inexact o => cases o <;> exact hbounds

/-- A whole number that is nearest to a number of 53 bits is a mantissa, or the next power of
two. -/
theorem exists_nearest {R : Nat} {e : Int} {y : Rat} (hlow : (2 : Rat) ^ 52 ≤ y)
    (hhigh : y < 2 ^ 53) (hround : (R : Rat) - 1 / 2 ≤ y) (hround' : y ≤ R + 1 / 2)
    (he : -1074 ≤ e) (he' : e ≤ 948) : ∃ (d : Normal) (k : Nat), R = d.mantissa * 2 ^ k ∧
      d.exponent = e + k ∧ d.Rounds (y * 2 ^ e) := by
  have hlow' : 2 ^ 52 ≤ R := by
    have hcast : ((2 ^ 52 : Nat) : Rat) < R + 1 := by
      push_cast
      linarith
    exact Nat.le_of_lt_succ (by exact_mod_cast hcast)
  have hhigh' : R ≤ 2 ^ 53 := by
    have hcast : (R : Rat) < (2 ^ 53 : Nat) + 1 := by
      push_cast
      linarith
    exact Nat.le_of_lt_succ (by exact_mod_cast hcast)
  rcases Nat.lt_or_eq_of_le hhigh' with hsmall | rfl
  · let d : Normal := ⟨R, e, hlow', hsmall, by omega, by omega⟩
    refine ⟨d, 0, (Nat.mul_one R).symm, (Int.add_zero _).symm, ?_⟩
    exact d.rounds_mul_ulp hround (fun _ => by linarith) hround'
  · let d : Normal := ⟨2 ^ 52, e + 1, le_rfl, by decide, by omega, by omega⟩
    have hulp : d.ulp = 2 ^ e * 2 := zpow_add_one₀ (by norm_num) _
    refine ⟨d, 1, pow_add 2 52 1, rfl, ?_⟩
    rw [show y * 2 ^ e = y / 2 * d.ulp by rw [hulp]; ring]
    push_cast at hround hround'
    refine d.rounds_mul_ulp ?_ (fun _ => ?_) ?_
    all_goals
      show _ ≤ _
      linarith

/-- **A number of which a mantissa of at least 53 bits is known is rounded to a double that it
may be rounded to.** -/
theorem exists_roundWithAccuracy {m : Nat} {e : Int} {acc : Accuracy} {y : Rat}
    (h : Records (ExtendedMantissa.ofMantissaAndAccuracy m acc) y) (hm : 2 ^ 52 ≤ m)
    (he : -1074 ≤ e) (hlarge : y * 2 ^ e < 2 ^ (1000 : Int)) : ∃ d : Normal,
      UnpackedFloat.roundWithAccuracy Format.binary64 .positive m e acc = d.unpacked ∧
        d.Rounds (y * 2 ^ e) := by
  have hm0 : m ≠ 0 := by omega
  obtain ⟨k, hlog⟩ : ∃ k, m.log2 = 52 + k := Nat.exists_eq_add_of_le ((Nat.le_log2 hm0).mpr hm)
  have hk : m.log2 - 52 = k := by omega
  obtain ⟨hle, hlt⟩ := (Nat.log2_eq_iff hm0).mp hlog
  have hbounds := h.mantissa_bounds
  -- the exponent is in range because the number is
  have hexponent : e + k ≤ 948 := by
    by_contra hgt
    have hpower : (2 : Rat) ^ (1000 : Int) ≤ 2 ^ (52 + k) * 2 ^ e := by
      rw [← zpow_natCast, ← zpow_add₀ (by norm_num)]
      exact zpow_le_zpow_right₀ (by norm_num) (by push_cast; omega)
    have hle' : (2 : Rat) ^ (52 + k) ≤ m := by exact_mod_cast hle
    have hpos : (0 : Rat) < 2 ^ e := by positivity
    nlinarith
  -- the number in units of the last bit that is kept
  have hcut := h.shiftRight k
  have hvalue : y * 2 ^ e = y / 2 ^ k * 2 ^ (e + k) := by
    rw [zpow_add₀ (by norm_num), zpow_natCast]
    field_simp
  have hunit : (2 : Rat) ^ 52 ≤ y / 2 ^ k ∧ y / 2 ^ k < 2 ^ 53 := by
    have hle' : (2 : Rat) ^ 52 * 2 ^ k ≤ m := by
      rw [← pow_add]
      exact_mod_cast hle
    have hlt' : (m : Rat) + 1 ≤ 2 ^ 53 * 2 ^ k := by
      rw [← pow_add, show 53 + k = 52 + k + 1 by omega]
      exact_mod_cast hlt
    rw [le_div_iff₀ (by positivity), div_lt_iff₀ (by positivity)]
    constructor
    · linarith
    · linarith
  obtain ⟨hround, hround'⟩ := hcut.rounded
  obtain ⟨d, k', hmantissa, hd, hrounds⟩ :=
    exists_nearest hunit.1 hunit.2 hround hround' (by omega) hexponent
  refine ⟨d, ?_, hvalue ▸ hrounds⟩
  rw [← hk] at hmantissa hd
  exact roundWithAccuracy_eq acc d hm he hmantissa hd

/-- A number that is known exactly may be given with fewer bits, which are then filled up. -/
theorem exists_round {m : Nat} {e : Int} (hm : 0 < m) (he : -1074 ≤ e)
    (hsmall : -1022 ≤ m.log2 + e) (hlarge : (m : Rat) * 2 ^ e < 2 ^ (1000 : Int)) :
    ∃ d : Normal, UnpackedFloat.round Format.binary64 .positive m e = d.unpacked ∧
      d.Rounds (m * 2 ^ e) := by
  obtain ⟨j, hj⟩ : ∃ j : Nat,
      (e - Format.binary64.targetExponent (Float.Model.totalExponent m e)).toNat = j := ⟨_, rfl⟩
  have htarget : j = 52 - m.log2 := by
    rw [← hj]
    show (e - max ((m.log2 : Int) + 1 + e - 53) (-1074)).toNat = _
    omega
  have hfilled : 2 ^ 52 ≤ m * 2 ^ j := by
    have hlog : 2 ^ m.log2 ≤ m := Nat.log2_self_le hm.ne'
    calc 2 ^ 52 ≤ 2 ^ (m.log2 + j) := Nat.pow_le_pow_right (by decide) (by omega)
      _ = 2 ^ m.log2 * 2 ^ j := Nat.pow_add _ _ _
      _ ≤ m * 2 ^ j := Nat.mul_le_mul_right _ hlog
  have hvalue : ((m * 2 ^ j : Nat) : Rat) * 2 ^ (e - j) = m * 2 ^ e := by
    rw [zpow_sub₀ (by norm_num), zpow_natCast]
    push_cast
    field_simp
  have hround : UnpackedFloat.round Format.binary64 .positive m e =
      UnpackedFloat.roundWithAccuracy Format.binary64 .positive (m * 2 ^ j) (e - j) .exact := by
    rw [UnpackedFloat.round, UnpackedFloat.decreaseExponent, hj, Nat.shiftLeft_eq]
  rw [hround, ← hvalue]
  exact exists_roundWithAccuracy (records_exact _) hfilled (by omega) (hvalue ▸ hlarge)

/-! ## 3. Arithmetic -/

/-- The remainder of a division says what was cut off. -/
theorem records_div (a : Nat) {b : Nat} (hb : 0 < b) :
    Records (ExtendedMantissa.ofMantissaAndAccuracy (a / b)
      (UnpackedFloat.accuracyOfFraction (a % b) b)) ((a : Rat) / b) := by
  have hb' : (0 : Rat) < b := by exact_mod_cast hb
  have hsplit : (a : Rat) / b = (a / b : Nat) + (a % b : Nat) / b := by
    rw [div_eq_iff hb'.ne', add_mul, div_mul_cancel₀ _ hb'.ne']
    exact_mod_cast (Nat.div_add_mod' a b).symm
  have hlt : ((a % b : Nat) : Rat) / b < 1 := by
    rw [div_lt_one hb']
    exact_mod_cast Nat.mod_lt a hb
  rw [hsplit]
  generalize a / b = q
  generalize a % b = r at hlt ⊢
  unfold UnpackedFloat.accuracyOfFraction
  split
  · rename_i hzero
    show (q : Rat) + r / b = q
    rw [hzero, Nat.cast_zero, zero_div, add_zero]
  · rename_i hne
    have hpos : (0 : Rat) < r / b := div_pos (by exact_mod_cast Nat.pos_of_ne_zero hne) hb'
    rcases lt_trichotomy (2 * r) b with hside | hside | hside
    · have hhalf : (r : Rat) / b < 1 / 2 := by
        rw [div_lt_iff₀ hb']
        have hcast : (2 : Rat) * r < b := by exact_mod_cast hside
        linarith
      rw [Nat.compare_eq_lt.mpr hside]
      show (q : Rat) < q + r / b ∧ (q : Rat) + r / b < q + 1 / 2
      exact ⟨by linarith, by linarith⟩
    · have hhalf : (r : Rat) / b = 1 / 2 := by
        rw [div_eq_iff hb'.ne']
        have hcast : (2 : Rat) * r = b := by exact_mod_cast hside
        linarith
      rw [Nat.compare_eq_eq.mpr hside]
      exact congrArg _ hhalf
    · have hhalf : 1 / 2 < (r : Rat) / b := by
        rw [lt_div_iff₀ hb']
        have hcast : (b : Rat) < 2 * r := by exact_mod_cast hside
        linarith
      rw [Nat.compare_eq_gt.mpr hside]
      show (q : Rat) + 1 / 2 < q + r / b ∧ (q : Rat) + r / b < q + 1
      exact ⟨by linarith, by linarith⟩

namespace Normal

variable (d d' : Normal)

theorem exists_add (hlarge : d.value + d'.value < 2 ^ (1000 : Int)) :
    ∃ s : Normal, d.toFloat + d'.toFloat = s.toFloat ∧ s.Rounds (d.value + d'.value) := by
  obtain ⟨e, he⟩ : ∃ e, e = min d.exponent d'.exponent := ⟨_, rfl⟩
  obtain ⟨j, hj⟩ : ∃ j : Nat, d.exponent = e + j := ⟨(d.exponent - e).toNat, by omega⟩
  obtain ⟨j', hj'⟩ : ∃ j' : Nat, d'.exponent = e + j' := ⟨(d'.exponent - e).toNat, by omega⟩
  have hvalue : ((d.mantissa * 2 ^ j + d'.mantissa * 2 ^ j' : Nat) : Rat) * 2 ^ e =
      d.value + d'.value := by
    rw [value, value, ulp, ulp, hj, hj', zpow_add₀ (by norm_num), zpow_add₀ (by norm_num)]
    push_cast
    rw [zpow_natCast, zpow_natCast]
    ring
  have hlow := d.le_exponent
  have hlow' := d'.le_exponent
  have hmantissa : 2 ^ 52 ≤ d.mantissa * 2 ^ j + d'.mantissa * 2 ^ j' :=
    Nat.le_trans d.le_mantissa
      (Nat.le_trans (Nat.le_mul_of_pos_right _ (Nat.two_pow_pos j)) (Nat.le_add_right _ _))
  have hpos : 0 < d.mantissa * 2 ^ j + d'.mantissa * 2 ^ j' :=
    Nat.lt_of_lt_of_le (by decide) hmantissa
  have hlog : 52 ≤ (d.mantissa * 2 ^ j + d'.mantissa * 2 ^ j').log2 :=
    (Nat.le_log2 hpos.ne').mpr hmantissa
  obtain ⟨s, hs, hrounds⟩ := exists_round hpos (by omega) (by omega) (hvalue ▸ hlarge)
  have hadd : UnpackedFloat.add Format.binary64 d.unpacked d'.unpacked = s.unpacked := by
    have hshift : (d.exponent - e).toNat = j := by omega
    have hshift' : (d'.exponent - e).toNat = j' := by omega
    have hsum : ((d.mantissa * 2 ^ j : Nat) : Int) + ((d'.mantissa * 2 ^ j' : Nat) : Int) =
        ((d.mantissa * 2 ^ j + d'.mantissa * 2 ^ j' : Nat) : Int) := (Int.natCast_add _ _).symm
    rw [← hs]
    show UnpackedFloat.normalize Format.binary64
      (((d.mantissa <<< (d.exponent - min d.exponent d'.exponent).toNat : Nat) : Int) +
        ((d'.mantissa <<< (d'.exponent - min d.exponent d'.exponent).toNat : Nat) : Int))
      (min d.exponent d'.exponent) .positive = _
    rw [← he, hshift, hshift', Nat.shiftLeft_eq, Nat.shiftLeft_eq, hsum, UnpackedFloat.normalize,
      Int.compare_eq_gt.mpr (Int.natCast_pos.mpr hpos), Int.toNat_natCast]
  refine ⟨s, ?_, hvalue ▸ hrounds⟩
  show Float.ofModel (.pack (UnpackedFloat.add Format.binary64 d.toFloat.toModel.unpack
    d'.toFloat.toModel.unpack)) = _
  rw [unpack_toFloat, unpack_toFloat, hadd, toFloat]

theorem exists_mul (hsmall : 2 ^ (-900 : Int) ≤ d.value * d'.value)
    (hlarge : d.value * d'.value < 2 ^ (1000 : Int)) :
    ∃ p : Normal, d.toFloat * d'.toFloat = p.toFloat ∧ p.Rounds (d.value * d'.value) := by
  have hvalue : ((d.mantissa * d'.mantissa : Nat) : Rat) * 2 ^ (d.exponent + d'.exponent) =
      d.value * d'.value := by
    rw [zpow_add₀ (by norm_num), value, value, ulp, ulp]
    push_cast
    ring
  have hmantissa : 2 ^ 52 ≤ d.mantissa * d'.mantissa :=
    Nat.le_trans d.le_mantissa (Nat.le_mul_of_pos_right _ d'.mantissa_pos)
  have hexponent : -1074 ≤ d.exponent + d'.exponent := by
    by_contra hlow
    have hproduct := mul_lt_mul'' d.value_bounds.2 d'.value_bounds.2 d.value_pos.le d'.value_pos.le
    rw [← zpow_add₀ (by norm_num)] at hproduct
    have hpower : (2 : Rat) ^ (d.exponent + 53 + (d'.exponent + 53)) ≤ 2 ^ (-900 : Int) :=
      zpow_le_zpow_right₀ (by norm_num) (by omega)
    linarith
  obtain ⟨p, hp, hrounds⟩ :=
    exists_roundWithAccuracy (records_exact _) hmantissa hexponent (hvalue ▸ hlarge)
  refine ⟨p, ?_, hvalue ▸ hrounds⟩
  show Float.ofModel (.pack (UnpackedFloat.mul Format.binary64 d.toFloat.toModel.unpack
    d'.toFloat.toModel.unpack)) = _
  rw [unpack_toFloat, unpack_toFloat, toFloat, ← hp]
  rfl

/-- A quotient is computed with 53 bits behind those of the divisor. -/
theorem divCore_eq (hexponent : -1021 ≤ d.exponent - d'.exponent) :
    UnpackedFloat.divCore Format.binary64 d.mantissa d.exponent d'.mantissa d'.exponent =
      (d.mantissa * 2 ^ 53 / d'.mantissa, d.exponent - d'.exponent - 53,
        UnpackedFloat.accuracyOfFraction (d.mantissa * 2 ^ 53 % d'.mantissa) d'.mantissa) := by
  have htarget : min (d.exponent - d'.exponent) (Format.binary64.targetExponent
      (Float.Model.totalExponent d.mantissa d.exponent -
        Float.Model.totalExponent d'.mantissa d'.exponent)) = d.exponent - d'.exponent - 53 := by
    unfold Float.Model.totalExponent
    rw [d.log2_mantissa, d'.log2_mantissa]
    show min (d.exponent - d'.exponent)
      (max (((52 : Nat) : Int) + 1 + d.exponent - (((52 : Nat) : Int) + 1 + d'.exponent) - 53)
        (-1074)) = _
    omega
  have hshift : (d.exponent - d'.exponent - (d.exponent - d'.exponent - 53)).toNat = 53 := by
    omega
  unfold UnpackedFloat.divCore
  dsimp only
  rw [htarget, hshift, Nat.shiftLeft_eq]

theorem exists_div (hsmall : 2 ^ (-900 : Int) ≤ d.value / d'.value)
    (hlarge : d.value / d'.value < 2 ^ (1000 : Int)) :
    ∃ q : Normal, d.toFloat / d'.toFloat = q.toFloat ∧ q.Rounds (d.value / d'.value) := by
  have hvalue : ((d.mantissa * 2 ^ 53 : Nat) : Rat) / d'.mantissa *
      2 ^ (d.exponent - d'.exponent - 53) = d.value / d'.value := by
    have hpos : (0 : Rat) < d'.mantissa := by exact_mod_cast d'.mantissa_pos
    rw [zpow_sub₀ (by norm_num), zpow_sub₀ (by norm_num), value, value, ulp, ulp]
    push_cast
    field_simp
  have hexponent : -1021 ≤ d.exponent - d'.exponent := by
    by_contra hlow
    rw [le_div_iff₀ d'.value_pos] at hsmall
    have hdivisor : (2 : Rat) ^ (-900 : Int) * 2 ^ (d'.exponent + 52) ≤
        2 ^ (-900 : Int) * d'.value :=
      mul_le_mul_of_nonneg_left d'.value_bounds.1 (by positivity)
    rw [← zpow_add₀ (by norm_num)] at hdivisor
    have hpower : (2 : Rat) ^ (d.exponent + 53) ≤ 2 ^ (-900 + (d'.exponent + 52)) :=
      zpow_le_zpow_right₀ (by norm_num) (by omega)
    have hvalue := d.value_bounds.2
    linarith
  have hquotient : 2 ^ 52 ≤ d.mantissa * 2 ^ 53 / d'.mantissa := by
    rw [Nat.le_div_iff_mul_le d'.mantissa_pos]
    exact Nat.mul_le_mul d.le_mantissa d'.mantissa_lt.le
  obtain ⟨q, hq, hrounds⟩ := exists_roundWithAccuracy
    (records_div (d.mantissa * 2 ^ 53) d'.mantissa_pos) hquotient (by omega) (hvalue ▸ hlarge)
  have hdiv : UnpackedFloat.div Format.binary64 d.unpacked d'.unpacked = q.unpacked := by
    rw [← hq]
    show UnpackedFloat.roundWithAccuracy Format.binary64 .positive
      (UnpackedFloat.divCore Format.binary64 d.mantissa d.exponent d'.mantissa d'.exponent).1
      (UnpackedFloat.divCore Format.binary64 d.mantissa d.exponent d'.mantissa d'.exponent).2.1
      (UnpackedFloat.divCore Format.binary64 d.mantissa d.exponent d'.mantissa d'.exponent).2.2 = _
    rw [divCore_eq d d' hexponent]
  refine ⟨q, ?_, hvalue ▸ hrounds⟩
  show Float.ofModel (.pack (UnpackedFloat.div Format.binary64 d.toFloat.toModel.unpack
    d'.toFloat.toModel.unpack)) = _
  rw [unpack_toFloat, unpack_toFloat, hdiv, toFloat]

/-! ## 4. Whole numbers -/

/-- A whole number of up to 53 bits times a power of two is the value of a double. -/
theorem exists_value_eq {n : Nat} {k : Int} (hpos : 0 < n) (hn : n < 2 ^ 53) (hsmall : -1000 ≤ k)
    (hlarge : k ≤ 900) : ∃ d : Normal, d.value = n * 2 ^ k := by
  obtain ⟨hle, hlt⟩ := (Nat.log2_eq_iff hpos.ne').mp rfl
  have hlog : n.log2 ≤ 52 := by
    by_contra hgt
    have hpower : 2 ^ 53 ≤ 2 ^ n.log2 := Nat.pow_le_pow_right (by decide) (by omega)
    omega
  have hlow : 2 ^ 52 ≤ n * 2 ^ (52 - n.log2) :=
    calc 2 ^ 52 = 2 ^ n.log2 * 2 ^ (52 - n.log2) := by rw [← Nat.pow_add]; congr 1; omega
      _ ≤ n * 2 ^ (52 - n.log2) := Nat.mul_le_mul_right _ hle
  have hhigh : n * 2 ^ (52 - n.log2) < 2 ^ 53 :=
    calc n * 2 ^ (52 - n.log2) < 2 ^ (n.log2 + 1) * 2 ^ (52 - n.log2) :=
          Nat.mul_lt_mul_of_pos_right hlt (Nat.two_pow_pos _)
      _ = 2 ^ 53 := by rw [← Nat.pow_add]; congr 1; omega
  refine ⟨⟨n * 2 ^ (52 - n.log2), k - (52 - n.log2 : Nat), hlow, hhigh, by omega, by omega⟩, ?_⟩
  show ((n * 2 ^ (52 - n.log2) : Nat) : Rat) * 2 ^ (k - (52 - n.log2 : Nat)) = n * 2 ^ k
  rw [zpow_sub₀ (by norm_num), zpow_natCast]
  push_cast
  field_simp

/-- One. -/
def unit : Normal := ⟨2 ^ 52, -52, le_rfl, by decide, by decide, by decide⟩

theorem unit_value : unit.value = 1 := by
  show ((2 ^ 52 : Nat) : Rat) * 2 ^ (-52 : Int) = 1
  norm_num

theorem pow_le_limit : (2 : Rat) ^ 53 ≤ 2 ^ (1000 : Int) := by
  rw [← zpow_natCast]
  exact zpow_le_zpow_right₀ (by norm_num) (by norm_num)

theorem toFloat_toUInt64 {n : Nat} (hpos : 0 < n) (hn : n < 2 ^ 53) :
    ∃ d : Normal, n.toUInt64.toFloat = d.toFloat ∧ d.value = n := by
  have hn' : n % 2 ^ 64 = n := Nat.mod_eq_of_lt (Nat.lt_trans hn (by decide))
  have hlarge : ((n : Nat) : Rat) * 2 ^ (0 : Int) < 2 ^ (1000 : Int) := by
    have hcast : (n : Rat) < 2 ^ 53 := by exact_mod_cast hn
    rw [zpow_zero, mul_one]
    exact hcast.trans_le pow_le_limit
  obtain ⟨d, hd, hrounds⟩ := exists_round hpos (by decide) (by omega) hlarge
  obtain ⟨d', hd'⟩ := exists_value_eq (k := 0) hpos hn (by decide) (by decide)
  rw [← hd'] at hrounds
  rw [zpow_zero, mul_one] at hd'
  refine ⟨d, ?_, eq_of_rounds_value hrounds ▸ hd'⟩
  show Float.ofModel (.pack (UnpackedFloat.normalize Format.binary64 ((n % 2 ^ 64 : Nat) : Int) 0
    .positive)) = _
  rw [hn', UnpackedFloat.normalize, Int.compare_eq_gt.mpr (Int.natCast_pos.mpr hpos),
    Int.toNat_natCast, toFloat, ← hd]

theorem exists_ofNat {n : Nat} (hpos : 0 < n) (hn : n < 2 ^ 53) :
    ∃ d : Normal, (Scalar.ofInt n : Float) = d.toFloat ∧ d.value = n := by
  have hdigits : decimalLength n ≤ 16 :=
    (Nat.length_toDigits_le_iff (by decide) (by decide)).mpr (Nat.lt_trans hn (by decide))
  obtain ⟨d, hd, hvalue⟩ := toFloat_toUInt64 hpos hn
  have hone : Float.ofBits 0x3FF0000000000000 = unit.toFloat := by decide +kernel
  have hfloat : (Scalar.ofInt n : Float) = d.toFloat * unit.toFloat := by
    show nearestFloat n 0 = _
    unfold nearestFloat
    rw [if_neg hpos.ne', if_neg (by omega), if_neg (by omega), ← hd, ← hone, Float.ofScientific,
      dif_pos ⟨hn, by decide⟩]
    rfl
  have hproduct : d.value * unit.value = n := by rw [unit_value, mul_one, hvalue]
  have hone' : (1 : Rat) ≤ n := by exact_mod_cast hpos
  have hlimit : (n : Rat) < 2 ^ 53 := by exact_mod_cast hn
  obtain ⟨p, hp, hrounds⟩ := exists_mul d unit
    (by rw [hproduct]; exact le_trans (zpow_le_one_of_nonpos₀ (by norm_num) (by norm_num)) hone')
    (by rw [hproduct]; exact hlimit.trans_le pow_le_limit)
  rw [hproduct, ← hvalue] at hrounds
  exact ⟨p, hfloat.trans hp, eq_of_rounds_value hrounds ▸ hvalue⟩

end Normal

end Sluice
