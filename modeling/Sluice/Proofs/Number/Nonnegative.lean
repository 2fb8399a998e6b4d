import Mathlib.Algebra.Order.Group.Abs
import Sluice.Proofs.Number.Exact
import Sluice.Proofs.Number.Nearest
import Sluice.Rule.Premise

/-!
# Rounding of numbers that are not negative

Zero has no normal form, and a computation with hours and minutes meets it all the time.
`RoundsTo q x v` says that the exact number `q` is rounded to the machine number `x`, whose value
is `v`. It is what a computation that begins with whole numbers is followed with: **sums and
quotients of machine numbers are rounded from the sums and quotients of their values**
(`RoundsTo.add`, `exists_quotient`), and the machine numbers are compared as their values are
(`RoundsTo.compare_eq`).

Two bounds say how far the value is from the number. `RoundsTo.abs_sub_le` is the sharper one for
a number that is known to be below a power of two, `RoundsTo.abs_sub_le_mul` needs to know nothing.
-/

set_option autoImplicit false

namespace Sluice

/-- A number that is not negative is rounded to a machine number of some value. -/
inductive RoundsTo (q : Rat) : Float → Rat → Prop
  | zero (h : q = 0) : RoundsTo q (Scalar.ofInt 0) 0
  | normal (d : Normal) (h : d.Rounds q) : RoundsTo q d.toFloat d.value

/-- What a relation says about two scalars depends on how these stand to each other. -/
theorem Relation.compare_congr {α β : Type} [Scalar α] [Scalar β] {x x' : α} {y y' : β}
    (r : Relation) (heq : (x == x') = (y == y')) (hlt : x < x' ↔ y < y') (hgt : x' < x ↔ y' < y)
    (hle : x ≤ x' ↔ y ≤ y') (hge : x' ≤ x ↔ y' ≤ y) : r.compare x x' = r.compare y y' := by
  cases r with
  | eq => exact heq
  | ne => exact congrArg not heq
  | lt => exact decide_eq_decide.mpr hlt
  | le => exact decide_eq_decide.mpr hle
  | gt => exact decide_eq_decide.mpr hgt
  | ge => exact decide_eq_decide.mpr hge

theorem Relation.compare_of_lt {p q p' q' : Rat} (r : Relation) (h : p < q) (h' : p' < q') :
    r.compare p q = r.compare p' q' ∧
      r.compare q p = r.compare q' p' := by
  constructor
  · refine r.compare_congr ?_ (iff_of_true h h') (iff_of_false h.asymm h'.asymm)
      (iff_of_true h.le h'.le) (iff_of_false h.not_ge h'.not_ge)
    rw [beq_false_of_ne h.ne, beq_false_of_ne h'.ne]
  · refine r.compare_congr ?_ (iff_of_false h.asymm h'.asymm) (iff_of_true h h')
      (iff_of_false h.not_ge h'.not_ge) (iff_of_true h.le h'.le)
    rw [beq_false_of_ne h.ne', beq_false_of_ne h'.ne']

theorem Relation.compare_self (r : Relation) (p q : Rat) :
    r.compare p p = r.compare q q :=
  r.compare_congr ((beq_self_eq_true p).trans (beq_self_eq_true q).symm)
    (iff_of_false (lt_irrefl p) (lt_irrefl q)) (iff_of_false (lt_irrefl p) (lt_irrefl q))
    (iff_of_true le_rfl le_rfl) (iff_of_true le_rfl le_rfl)

/-! ## 1. Zero -/

open Float.Model (UnpackedFloat)

theorem unpack_ofInt_zero :
    (Scalar.ofInt 0 : Float).toModel.unpack = .zero .positive := rfl

namespace Normal

variable (d : Normal)

theorem zero_add_toFloat : Scalar.ofInt 0 + d.toFloat = d.toFloat := by
  show Float.ofModel (.pack (UnpackedFloat.add Float.Model.Format.binary64
    (Scalar.ofInt 0 : Float).toModel.unpack d.toFloat.toModel.unpack)) = _
  rw [unpack_ofInt_zero, unpack_toFloat]
  rfl

theorem toFloat_add_zero : d.toFloat + Scalar.ofInt 0 = d.toFloat := by
  show Float.ofModel (.pack (UnpackedFloat.add Float.Model.Format.binary64
    d.toFloat.toModel.unpack (Scalar.ofInt 0 : Float).toModel.unpack)) = _
  rw [unpack_ofInt_zero, unpack_toFloat]
  rfl

theorem zero_div_toFloat : Scalar.ofInt 0 / d.toFloat = Scalar.ofInt 0 := by
  show Float.ofModel (.pack (UnpackedFloat.div Float.Model.Format.binary64
    (Scalar.ofInt 0 : Float).toModel.unpack d.toFloat.toModel.unpack)) = _
  rw [unpack_ofInt_zero, unpack_toFloat]
  rfl

end Normal

/-! ## 2. Values -/

/-- A value is rounded to itself. -/
theorem Normal.roundsTo (d : Normal) : RoundsTo d.value d.toFloat d.value :=
  .normal d d.rounds_value

namespace RoundsTo

variable {q q' : Rat} {x x' : Float} {v v' : Rat}

/-- What is above zero does not vanish. -/
theorem exists_normal (h : RoundsTo q x v) (hq : 0 < q) :
    ∃ d : Normal, x = d.toFloat ∧ v = d.value ∧ d.Rounds q := by
  cases h with
  | zero h => exact absurd h hq.ne'
  | normal d h => exact ⟨d, rfl, rfl, h⟩

/-- A value belongs to one machine number. -/
theorem eq_of_value_eq (h : RoundsTo q x v) (h' : RoundsTo q' x' v') (hv : v = v') : x = x' := by
  cases h with
  | zero h =>
    cases h' with
    | zero h' => rfl
    | normal d' h' => exact absurd hv d'.value_pos.ne
  | normal d h =>
    cases h' with
    | zero h' => exact absurd hv d.value_pos.ne'
    | normal d' h' => rw [Normal.value_eq_iff.mp hv]

/-- A value is left as it is. -/
theorem eq_of_value (h : RoundsTo q x v) (h' : RoundsTo q' x' q) : v = q := by
  cases h' with
  | zero h' =>
    cases h with
    | zero h => rfl
    | normal d h =>
      -- nothing but zero is rounded to zero
      have hmantissa := d.cast_mantissa.1
      have hlower : 0 < (d.mantissa - 1 / 2) * d.ulp := mul_pos (by linarith) d.ulp_pos
      exact absurd (hlower.trans_le d.lower_le) (not_lt.mpr h.1)
  | normal d' h' =>
    obtain ⟨d, -, rfl, hrounds⟩ := h.exists_normal d'.value_pos
    rw [Normal.eq_of_rounds_value hrounds]

/-- A whole number of up to 53 bits times a power of two is left as it is. -/
theorem value_eq {n : Nat} {k : Int} (h : RoundsTo (n * 2 ^ k) x v) (hn : n < 2 ^ 53)
    (hsmall : -1000 ≤ k) (hlarge : k ≤ 900) : v = n * 2 ^ k := by
  rcases Nat.eq_zero_or_pos n with rfl | hpos
  · rw [Nat.cast_zero, zero_mul] at h ⊢
    exact h.eq_of_value (.zero rfl)
  · obtain ⟨d', hd'⟩ := Normal.exists_value_eq hpos hn hsmall hlarge
    rw [← hd'] at h ⊢
    exact h.eq_of_value d'.roundsTo

/-- What rounding changes in a number below a power of two. -/
theorem abs_sub_le {k : Int} (h : RoundsTo q x v) (hq : q < 2 ^ k) : |v - q| ≤ 2 ^ (k - 54) := by
  cases h with
  | zero h =>
    rw [h, sub_zero, abs_zero]
    positivity
  | normal d h => exact Normal.abs_value_sub_le h hq

/-- What rounding changes, as a part of the result. -/
theorem abs_sub_le_mul (h : RoundsTo q x v) : |v - q| ≤ v / 2 ^ 53 := by
  cases h with
  | zero h => rw [h, sub_zero, abs_zero, zero_div]
  | normal d h =>
    have hpos := d.ulp_pos
    have hmantissa := d.cast_mantissa.1
    have hlower := d.lower_le.trans h.1
    have hupper := h.2
    unfold Normal.upper at hupper
    have hulp : d.ulp / 2 ≤ d.value / 2 ^ 53 := by
      rw [Normal.value, le_div_iff₀ (by norm_num)]
      nlinarith
    rw [abs_le]
    unfold Normal.value at hulp ⊢
    constructor
    · linarith
    · linarith

/-! ## 3. Comparison -/

/-- Machine numbers are compared as their values are. -/
theorem tells (h : RoundsTo q x v) (h' : RoundsTo q' x' v') :
    Tells (x.toModel.unpack.compare x'.toModel.unpack) v v' := by
  cases h with
  | zero h =>
    cases h' with
    | zero h' =>
      rw [unpack_ofInt_zero]
      exact tells_eq _
    | normal d' h' =>
      rw [unpack_ofInt_zero, Normal.unpack_toFloat]
      exact tells_lt d'.value_pos
  | normal d h =>
    cases h' with
    | zero h' =>
      rw [unpack_ofInt_zero, Normal.unpack_toFloat]
      exact tells_gt d.value_pos
    | normal d' h' =>
      exact ⟨(float_lt_iff _ _).symm.trans Normal.toFloat_lt_iff,
        (float_beq_iff _ _).symm.trans Normal.toFloat_beq_iff⟩

/-- A comparison of machine numbers that have values depends on these alone. -/
theorem compare_eq (r : Relation) (h : RoundsTo q x v) (h' : RoundsTo q' x' v') :
    r.compare x x' = r.compare v v' := by
  have hlt := (float_lt_iff x x').trans (h.tells h').1
  have hgt := (float_lt_iff x' x).trans (h'.tells h).1
  have heq := (float_beq_iff x x').trans (h.tells h').2
  have heq' := (float_beq_iff x' x).trans (h'.tells h).2
  refine r.compare_congr (Bool.eq_iff_iff.mpr (heq.trans beq_iff_eq.symm)) hlt hgt ?_ ?_
  · rw [float_le_iff, hlt, heq, le_iff_lt_or_eq]
  · rw [float_le_iff, hgt, heq', le_iff_lt_or_eq]

theorem isFinite (h : RoundsTo q x v) : Scalar.isFinite x = true := by
  show x.toModel.unpack.isFinite = true
  cases h with
  | zero h => rw [unpack_ofInt_zero]; rfl
  | normal d h => rw [Normal.unpack_toFloat]; rfl

/-! ## 4. Arithmetic -/

theorem add_ofInt_zero (h : RoundsTo q x v) : x + Scalar.ofInt 0 = x := by
  cases h with
  | zero h => decide +kernel
  | normal d h => exact d.toFloat_add_zero

theorem add (h : RoundsTo q x v) (h' : RoundsTo q' x' v') (hlarge : v + v' < 2 ^ (1000 : Int)) :
    ∃ w, RoundsTo (v + v') (x + x') w := by
  cases h with
  | zero h =>
    cases h' with
    | zero h' =>
      have hzero : (Scalar.ofInt 0 + Scalar.ofInt 0 : Float) = Scalar.ofInt 0 := by decide +kernel
      exact ⟨0, hzero ▸ .zero (add_zero 0)⟩
    | normal d' h' =>
      rw [zero_add, d'.zero_add_toFloat]
      exact ⟨d'.value, d'.roundsTo⟩
  | normal d h =>
    cases h' with
    | zero h' =>
      rw [add_zero, d.toFloat_add_zero]
      exact ⟨d.value, d.roundsTo⟩
    | normal d' h' =>
      obtain ⟨s, hs, hrounds⟩ := d.exists_add d' hlarge
      exact ⟨s.value, hs ▸ .normal s hrounds⟩

end RoundsTo

/-- Whole numbers of up to 53 bits are exact. -/
theorem roundsTo_ofNat {n : Nat} (hn : n < 2 ^ 53) : RoundsTo n (Scalar.ofInt n) n := by
  rcases Nat.eq_zero_or_pos n with rfl | hpos
  · exact .zero Nat.cast_zero
  · obtain ⟨d, hd, hvalue⟩ := Normal.exists_ofNat hpos hn
    rw [hd, ← hvalue]
    exact d.roundsTo

/-- The quotient of whole numbers. -/
theorem exists_quotient {n m : Nat} (hn : n < 2 ^ 53) (hpos : 0 < m) (hm : m < 2 ^ 53) :
    ∃ v, RoundsTo (n / m) (Scalar.ofInt n / Scalar.ofInt m) v := by
  obtain ⟨d', hd', hvalue'⟩ := Normal.exists_ofNat hpos hm
  rw [hd', ← hvalue']
  rcases Nat.eq_zero_or_pos n with rfl | hpos'
  · refine ⟨0, ?_⟩
    rw [Nat.cast_zero, zero_div, Int.natCast_zero, d'.zero_div_toFloat]
    exact .zero rfl
  · obtain ⟨d, hd, hvalue⟩ := Normal.exists_ofNat hpos' hn
    rw [hd, ← hvalue]
    have hone : (1 : Rat) ≤ n := by exact_mod_cast hpos'
    have hone' : (1 : Rat) ≤ m := by exact_mod_cast hpos
    have hlimit : (n : Rat) < 2 ^ 53 := by exact_mod_cast hn
    have hlimit' : (m : Rat) < 2 ^ 53 := by exact_mod_cast hm
    have hsmall : (2 : Rat) ^ (-900 : Int) ≤ d.value / d'.value := by
      rw [hvalue, hvalue', le_div_iff₀ (by linarith)]
      have hpower : (2 : Rat) ^ (-900 : Int) * 2 ^ 53 ≤ 1 := by
        rw [← zpow_natCast, ← zpow_add₀ (by norm_num)]
        exact zpow_le_one_of_nonpos₀ (by norm_num) (by norm_num)
      exact (mul_le_mul_of_nonneg_left hlimit'.le (by positivity)).trans (hpower.trans hone)
    have hlarge : d.value / d'.value < 2 ^ (1000 : Int) := by
      rw [hvalue, hvalue']
      calc (n : Rat) / m ≤ n := div_le_self (by linarith) hone'
        _ < 2 ^ (1000 : Int) := hlimit.trans_le Normal.pow_le_limit
    obtain ⟨s, hs, hrounds⟩ := d.exists_div d' hsmall hlarge
    exact ⟨s.value, hs ▸ .normal s hrounds⟩

end Sluice
