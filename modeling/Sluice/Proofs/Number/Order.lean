import Mathlib.Data.Prod.Lex
import Mathlib.Algebra.Order.Ring.Rat
import Sluice.Number.Scalar

/-!
# The order of scalars

Which of two rules has the higher priority is decided by comparing scalars, and every statement
about a winner needs comparison to be an order. The class `Scalar` promises nothing of the kind,
and it could not: a value that is no number is neither less than, nor greater than, nor equal to
anything.

`OrderedScalar` says what is true instead: **the scalars that are numbers stand in one line**.
Each has a rank in a linear order, and the comparisons of numbers are those of their ranks. The
rank says nothing about arithmetic, so the class has both instances of `Scalar`. For exact
arithmetic the rank of a number is the number. For machine numbers it is read off the sign, the
exponent and the mantissa of the decoded value, with both zeros at one rank.
-/

set_option autoImplicit false

namespace Sluice

/-- Scalars whose numbers stand in one line. -/
class OrderedScalar (α : Type) [Scalar α] where
  Rank : Type
  order : LinearOrder Rank
  rank : α → Rank
  lt_iff_rank : ∀ {x y : α}, Scalar.isNaN x = false → Scalar.isNaN y = false →
    (x < y ↔ rank x < rank y)
  beq_iff_rank : ∀ {x y : α}, Scalar.isNaN x = false → Scalar.isNaN y = false →
    ((x == y) = true ↔ rank x = rank y)

attribute [reducible, instance] OrderedScalar.order

/-! ## 1. Exact arithmetic -/

instance : OrderedScalar Rat where
  Rank := Rat
  order := inferInstance
  rank := id
  lt_iff_rank _ _ := Iff.rfl
  beq_iff_rank _ _ := beq_iff_eq

/-! ## 2. Machine numbers

The comparison of decoded doubles looks at the kind and the sign first, then at the exponent and
then at the mantissa. This is a lexicographic order once everything is negated for the negative
ones, whatever the mantissas are: that they are normalised plays no part. -/

open Float.Model (UnpackedFloat)

/-- Where a decoded double stands. What is no number has no place of its own. -/
def unpackedRank : UnpackedFloat → Int ×ₗ Int ×ₗ Int
  | .notANumber => toLex (0, toLex (0, 0))
  | .zero _ => toLex (0, toLex (0, 0))
  | .infinity .negative => toLex (-2, toLex (0, 0))
  | .infinity .positive => toLex (2, toLex (0, 0))
  | .finite .negative m e _ => toLex (-1, toLex (-e, -(m : Int)))
  | .finite .positive m e _ => toLex (1, toLex (e, (m : Int)))

theorem triple_lt_iff (a b c a' b' c' : Int) :
    (toLex (a, toLex (b, c)) : Int ×ₗ Int ×ₗ Int) < toLex (a', toLex (b', c')) ↔
      a < a' ∨ a = a' ∧ (b < b' ∨ b = b' ∧ c < c') := by
  rw [Prod.Lex.toLex_lt_toLex, Prod.Lex.toLex_lt_toLex]

theorem triple_lt {a b c a' b' c' : Int} (h : a < a') :
    (toLex (a, toLex (b, c)) : Int ×ₗ Int ×ₗ Int) < toLex (a', toLex (b', c')) :=
  (triple_lt_iff a b c a' b' c').mpr (Or.inl h)

/-- What a comparison has to answer about two places in a line. -/
def Tells {ρ : Type} [LT ρ] (answer : Option Ordering) (p q : ρ) : Prop :=
  (answer = some .lt ↔ p < q) ∧ (answer = some .eq ↔ p = q)

theorem tells_lt {ρ : Type} [Preorder ρ] {p q : ρ} (h : p < q) : Tells (some .lt) p q :=
  ⟨iff_of_true rfl h, iff_of_false nofun h.ne⟩

theorem tells_gt {ρ : Type} [Preorder ρ] {p q : ρ} (h : q < p) : Tells (some .gt) p q :=
  ⟨iff_of_false nofun h.asymm, iff_of_false nofun h.ne'⟩

theorem tells_eq {ρ : Type} [Preorder ρ] (p : ρ) : Tells (some .eq) p p :=
  ⟨iff_of_false nofun (lt_irrefl p), iff_of_true rfl rfl⟩

/-- Positive doubles are compared by exponent and mantissa. -/
theorem tells_positive (k e e' : Int) (m m' : Nat) :
    Tells (some ((compare e e').then (compare m m')))
      (toLex (k, toLex (e, (m : Int))) : Int ×ₗ Int ×ₗ Int)
      (toLex (k, toLex (e', (m' : Int)))) := by
  simp [Tells, triple_lt_iff, Ordering.then_eq_lt, Ordering.then_eq_eq, Nat.compare_eq_lt,
    Int.compare_eq_lt]

/-- Negative doubles are compared the other way round. -/
theorem tells_negative (k e e' : Int) (m m' : Nat) :
    Tells (some ((compare e e').then (compare m m')).swap)
      (toLex (k, toLex (-e, -(m : Int))) : Int ×ₗ Int ×ₗ Int)
      (toLex (k, toLex (-e', -(m' : Int)))) := by
  have hlt : ((compare e e').then (compare m m')).swap = .lt ↔ e' < e ∨ e = e' ∧ m' < m := by
    rw [Ordering.swap_eq_lt, Ordering.then_eq_gt, Int.compare_eq_gt, Int.compare_eq_eq,
      Nat.compare_eq_gt]
  have heq : ((compare e e').then (compare m m')).swap = .eq ↔ e = e' ∧ m = m' := by
    rw [Ordering.swap_eq_eq, Ordering.then_eq_eq, Int.compare_eq_eq, Nat.compare_eq_eq]
  simp [Tells, triple_lt_iff, hlt, heq]

/-- The decoded doubles that are numbers are compared by where they stand. -/
theorem unpacked_compare {a b : UnpackedFloat} (ha : a.isNaN = false) (hb : b.isNaN = false) :
    Tells (a.compare b) (unpackedRank a) (unpackedRank b) := by
  cases a with
  | notANumber => exact absurd ha nofun
  | zero s =>
    cases b with
    | notANumber => exact absurd hb nofun
    | zero t => exact tells_eq _
    | infinity t =>
      cases t with
      | positive => exact tells_lt (triple_lt (by decide))
      | negative => exact tells_gt (triple_lt (by decide))
    | finite t m e hm =>
      cases t with
      | positive => exact tells_lt (triple_lt (by decide))
      | negative => exact tells_gt (triple_lt (by decide))
  | infinity s =>
    cases s with
    | positive =>
      cases b with
      | notANumber => exact absurd hb nofun
      | zero t => exact tells_gt (triple_lt (by decide))
      | infinity t =>
        cases t with
        | positive => exact tells_eq _
        | negative => exact tells_gt (triple_lt (by decide))
      | finite t m e hm =>
        cases t with
        | positive => exact tells_gt (triple_lt (by decide))
        | negative => exact tells_gt (triple_lt (by decide))
    | negative =>
      cases b with
      | notANumber => exact absurd hb nofun
      | zero t => exact tells_lt (triple_lt (by decide))
      | infinity t =>
        cases t with
        | positive => exact tells_lt (triple_lt (by decide))
        | negative => exact tells_eq _
      | finite t m e hm =>
        cases t with
        | positive => exact tells_lt (triple_lt (by decide))
        | negative => exact tells_lt (triple_lt (by decide))
  | finite s m e hm =>
    cases s with
    | positive =>
      cases b with
      | notANumber => exact absurd hb nofun
      | zero t => exact tells_gt (triple_lt (by decide))
      | infinity t =>
        cases t with
        | positive => exact tells_lt (triple_lt (by decide))
        | negative => exact tells_gt (triple_lt (by decide))
      | finite t m' e' hm' =>
        cases t with
        | positive => exact tells_positive 1 e e' m m'
        | negative => exact tells_gt (triple_lt (by decide))
    | negative =>
      cases b with
      | notANumber => exact absurd hb nofun
      | zero t => exact tells_lt (triple_lt (by decide))
      | infinity t =>
        cases t with
        | positive => exact tells_lt (triple_lt (by decide))
        | negative => exact tells_gt (triple_lt (by decide))
      | finite t m' e' hm' =>
        cases t with
        | positive => exact tells_lt (triple_lt (by decide))
        | negative => exact tells_negative (-1) e e' m m'

theorem float_lt_iff (x y : Float) :
    x < y ↔ x.toModel.unpack.compare y.toModel.unpack = some .lt := by
  have h : x < y ↔ decide (x.toModel < y.toModel) = true := Iff.rfl
  rw [h, decide_eq_true_iff]
  exact beq_iff_eq

theorem float_beq_iff (x y : Float) :
    (x == y) = true ↔ x.toModel.unpack.compare y.toModel.unpack = some .eq := by
  have h : (x == y) = (x.toModel.unpack.compare y.toModel.unpack == some .eq) := rfl
  rw [h, beq_iff_eq]

theorem float_le_iff (x y : Float) : x ≤ y ↔ x < y ∨ (x == y) = true := by
  have h : x ≤ y ↔ decide (x.toModel ≤ y.toModel) = true := Iff.rfl
  have hmodel : x.toModel ≤ y.toModel ↔
      (x.toModel.unpack.compare y.toModel.unpack).any (·.isLE) = true := Iff.rfl
  rw [h, decide_eq_true_iff, hmodel, float_lt_iff, float_beq_iff]
  generalize x.toModel.unpack.compare y.toModel.unpack = answer
  cases answer with
  | none => exact iff_of_false nofun nofun
  | some o => cases o <;> simp

instance : OrderedScalar Float where
  Rank := Int ×ₗ Int ×ₗ Int
  order := inferInstance
  rank x := unpackedRank x.toModel.unpack
  lt_iff_rank {x y} hx hy := (float_lt_iff x y).trans (unpacked_compare hx hy).1
  beq_iff_rank {x y} hx hy := (float_beq_iff x y).trans (unpacked_compare hx hy).2

end Sluice
