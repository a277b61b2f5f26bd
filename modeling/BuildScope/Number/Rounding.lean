/-!
# Rounding Quotients

The natural number nearest to a quotient, the even one of two equally near.

* `halfEven_near`: the result is within half a unit of the quotient.
* `halfEven_even_of_tie`: of two equally near numbers the result is the even one.
* `halfEven_mul`: an exact quotient is its own rounding.
-/

namespace BuildScope.Number

/-- The natural number nearest to `num / den`, and the even one of two that are equally near. -/
def halfEven (num den : Nat) : Nat :=
  let whole := num / den
  let rest := num % den
  if 2 * rest < den then whole
  else if den < 2 * rest then whole + 1
  else whole + whole % 2

/-- Rounding moves a quotient by at most half a unit. -/
theorem halfEven_near (num : Nat) {den : Nat} (hden : 0 < den) :
    2 * num ≤ 2 * (halfEven num den * den) + den ∧
      2 * (halfEven num den * den) ≤ 2 * num + den := by
  have hdiv : den * (num / den) + num % den = num := Nat.div_add_mod num den
  have hlt : num % den < den := Nat.mod_lt num hden
  have hswap : num / den * den = den * (num / den) := Nat.mul_comm _ _
  unfold halfEven
  simp only
  split
  · omega
  split
  · rw [Nat.add_mul]; omega
  · rcases Nat.mod_two_eq_zero_or_one (num / den) with h | h <;> rw [h] <;>
      simp only [Nat.add_mul] <;> omega

/-- A quotient half way between two numbers goes to the even one. -/
theorem halfEven_even_of_tie {num den : Nat} (h : 2 * (num % den) = den) :
    halfEven num den % 2 = 0 := by
  unfold halfEven
  simp only
  rw [if_neg (by omega), if_neg (by omega)]
  omega

/-- An exact quotient is left alone. -/
@[simp]
theorem halfEven_mul (n : Nat) {den : Nat} (hden : 0 < den) : halfEven (n * den) den = n := by
  simp [halfEven, Nat.mul_mod_left, Nat.mul_div_cancel n hden, hden]

end BuildScope.Number
