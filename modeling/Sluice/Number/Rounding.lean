/-!
# Rounding a quotient to the nearest whole number

Three places of the library turn a fraction into a whole number and have to agree on what
happens half way between two of them: seconds become time units, fractions of a second become
microseconds, and a value becomes the digits of its text. All three send a half to the even
neighbour, and all three go through `divRoundEven`, which works on natural numbers so that
nothing is rounded before it is rounded on purpose.

The two facts below are the definition's whole contract: the result is within half a unit
(`two_mul_divRoundEven_le`, `le_two_mul_divRoundEven`), and an exact half is even
(`even_of_half`).
-/

set_option autoImplicit false

namespace Sluice

/-- `n / d` rounded to the nearest natural number, a half going to the even neighbour. -/
def divRoundEven (n d : Nat) : Nat :=
  let q := n / d
  let r := n % d
  if 2 * r < d then q
  else if d < 2 * r then q + 1
  else q + q % 2

/-- The result is at most half a unit above the quotient. -/
theorem two_mul_divRoundEven_le (n d : Nat) : 2 * (d * divRoundEven n d) ≤ 2 * n + d := by
  have h := Nat.div_add_mod n d
  have hq : n / d % 2 < 2 := Nat.mod_lt _ (by decide)
  unfold divRoundEven
  simp only
  split
  · omega
  · split
    · rw [Nat.mul_add]; omega
    · rw [Nat.mul_add]
      have : d * (n / d % 2) ≤ d * 1 := Nat.mul_le_mul_left d (by omega)
      omega

/-- The result is at most half a unit below the quotient. -/
theorem le_two_mul_divRoundEven {n d : Nat} (hd : 0 < d) :
    2 * n ≤ 2 * (d * divRoundEven n d) + d := by
  have h := Nat.div_add_mod n d
  have hr : n % d < d := Nat.mod_lt _ hd
  unfold divRoundEven
  simp only
  split
  · omega
  · split
    · rw [Nat.mul_add]; omega
    · rw [Nat.mul_add]; omega

/-- Exactly half way the even neighbour is taken. -/
theorem even_of_half {n d : Nat} (h : 2 * (n % d) = d) : divRoundEven n d % 2 = 0 := by
  unfold divRoundEven
  simp only [h, Nat.lt_irrefl, if_false]
  omega

end Sluice
