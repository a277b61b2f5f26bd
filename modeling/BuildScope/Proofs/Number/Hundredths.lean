import BuildScope.Number.Fixed
import Mathlib.Algebra.Field.Rat
import Mathlib.Algebra.Order.Field.Rat
import Mathlib.Tactic.FieldSimp
import Mathlib.Tactic.Linarith

/-!
# Writing Hundredths

A double is written with its sign and two decimal places. What is written is the number of whole
hundredths nearest to the rational number that the double denotes, and the even one of two that are
equally near.

* `IsNearest`: a natural number is the one that a rational number is rounded to.
* `WritesHundredths`: a text writes a double with its sign and two decimal places.
* `writesHundredths_signedHundredths`, `WritesHundredths.unique`: there is one such text.
-/

namespace BuildScope.Number

/-! ## Rounding to a natural number -/

/-- A natural number is nearest to a rational one, and even if another is equally near. -/
structure IsNearest (q : ℚ) (n : ℕ) : Prop where
  /-- It is at most a half away. -/
  nearest : |q - n| ≤ 1 / 2
  /-- Of two that are a half away, it is the even one. -/
  tiesToEven : |q - n| = 1 / 2 → Even n

variable {q : ℚ} {m n num den : ℕ}

/-- A number is rounded in one way only. -/
theorem IsNearest.unique (hm : IsNearest q m) (hn : IsNearest q n) : m = n := by
  wlog hle : m ≤ n generalizing m n with hother
  · exact (hother hn hm (Nat.le_of_not_le hle)).symm
  obtain ⟨hlow, -⟩ := abs_le.1 hn.nearest
  obtain ⟨-, hhigh⟩ := abs_le.1 hm.nearest
  have hstep : n ≤ m + 1 := by
    have : (n : ℚ) ≤ m + 1 := by linarith
    exact_mod_cast this
  by_contra hne
  -- the two are next to each other, so that both are a half away, and only one is even
  obtain rfl : n = m + 1 := by omega
  push_cast at hlow
  have hq : q - m = 1 / 2 := by linarith
  have heven : Even m := hm.tiesToEven (by rw [hq]; norm_num)
  have heven' : Even (m + 1) := hn.tiesToEven (by
    rw [Nat.cast_succ, ← sub_sub, hq]
    norm_num)
  exact Nat.even_add_one.1 heven' heven

/-- An odd number of halves leaves a remainder of a half. -/
theorem two_mul_mod_eq_of_odd (count : ℕ) (hden : 0 < den) (h : 2 * num = count * den)
    (hodd : Odd count) : 2 * (num % den) = den := by
  obtain ⟨whole, rfl⟩ := hodd
  have hnum : 2 * num = 2 * (den * whole) + den := by
    rw [h, Nat.add_mul, Nat.one_mul, Nat.mul_assoc, Nat.mul_comm whole]
  obtain ⟨half, rfl⟩ : ∃ half, num = den * whole + half := ⟨num - den * whole, by omega⟩
  rw [Nat.mul_add_mod, Nat.mod_eq_of_lt (by omega)]
  omega

/-- A quotient is rounded to the nearest natural number. -/
theorem isNearest_halfEven (num : ℕ) (hden : 0 < den) :
    IsNearest (num / den) (halfEven num den) := by
  have hpos : (0 : ℚ) < den := by exact_mod_cast hden
  obtain ⟨hhigh, hlow⟩ := halfEven_near num hden
  have hhigh : (2 * num : ℚ) ≤ 2 * (halfEven num den * den) + den := by exact_mod_cast hhigh
  have hlow : (2 * (halfEven num den * den) : ℚ) ≤ 2 * num + den := by exact_mod_cast hlow
  refine ⟨?_, fun htie => ?_⟩
  · rw [abs_sub_le_iff, sub_le_iff_le_add, sub_le_iff_le_add', div_le_iff₀ hpos,
      ← sub_le_iff_le_add, le_div_iff₀ hpos]
    constructor <;> linarith
  · -- a tie leaves a remainder of a half, and then the even number is taken
    have hrest : 2 * (num % den) = den := by
      obtain habove | hbelow := (abs_eq (by norm_num)).1 htie
      · refine two_mul_mod_eq_of_odd (2 * halfEven num den + 1) hden ?_ ⟨_, rfl⟩
        field_simp at habove
        have : (2 * num : ℚ) = (2 * halfEven num den + 1) * den := by linarith
        exact_mod_cast this
      · field_simp at hbelow
        -- what is rounded up is not rounded to zero
        obtain ⟨whole, hwhole⟩ : ∃ whole, halfEven num den = whole + 1 := by
          refine Nat.exists_eq_succ_of_ne_zero fun hzero => ?_
          rw [hzero] at hbelow
          have : (0 : ℚ) ≤ num := Nat.cast_nonneg num
          norm_num at hbelow
          linarith
        refine two_mul_mod_eq_of_odd (2 * whole + 1) hden ?_ ⟨_, rfl⟩
        rw [hwhole] at hbelow
        push_cast at hbelow
        have : (2 * num : ℚ) = (2 * whole + 1) * den := by linarith
        exact_mod_cast this
    exact Nat.even_iff.2 (halfEven_even_of_tie hrest)

/-- The quotient of a dyadic number is the number. -/
theorem dyadic_eq (mantissa : ℕ) (exponent : ℤ) :
    ((dyadic mantissa exponent).1 / (dyadic mantissa exponent).2 : ℚ) =
      mantissa * 2 ^ exponent := by
  obtain ⟨k, rfl | rfl⟩ := exponent.eq_nat_or_neg
  · simp [dyadic]
  · simp [dyadic, div_eq_mul_inv]

/-- Hundredths are rounded from the exact number. -/
theorem isNearest_hundredths (mantissa : ℕ) (exponent : ℤ) :
    IsNearest (100 * (mantissa * 2 ^ exponent)) (hundredths mantissa exponent) := by
  have h := isNearest_halfEven (100 * (dyadic mantissa exponent).1)
    (dyadic_den_pos mantissa exponent)
  rwa [Nat.cast_mul, mul_div_assoc, dyadic_eq] at h

/-! ## The text -/

/-- The sign of a number. -/
def signMark (negative : Bool) : String :=
  if negative then "-" else "+"

/-- A text writes what a double denotes with its sign and two decimal places. -/
inductive WritesHundredths : Binary64 → String → Prop
  /-- What is no number has no sign. -/
  | nan : WritesHundredths .nan "NaN"
  /-- Infinity has no places. -/
  | infinite (negative : Bool) : WritesHundredths (.infinite negative) (signMark negative ++ "inf")
  /-- The nearest number of hundredths has two digits behind the point. -/
  | finite {negative : Bool} {mantissa : ℕ} {exponent : ℤ} {whole tenths rest : ℕ}
    (htenths : tenths < 10) (hrest : rest < 10)
    (hnearest : IsNearest (100 * (mantissa * 2 ^ exponent)) (100 * whole + 10 * tenths + rest)) :
    WritesHundredths (.finite negative mantissa exponent)
      (signMark negative ++ toString whole ++ "." ++ toString tenths ++ toString rest)

/-- The digits behind the point are those of the tenths and of the rest. -/
theorem ofList_digits (sign : String) (total : ℕ) :
    String.ofList (sign.toList ++ Nat.toDigits 10 (total / 100) ++ '.' ::
        (List.replicate (2 - (Nat.toDigits 10 (total % 100)).length) '0' ++
          Nat.toDigits 10 (total % 100))) =
      sign ++ toString (total / 100) ++ "." ++ toString (total % 100 / 10) ++
        toString (total % 100 % 10) := by
  have hplaces : ∀ n < 100, List.replicate (2 - (Nat.toDigits 10 n).length) '0' ++
      Nat.toDigits 10 n = Nat.toDigits 10 (n / 10) ++ Nat.toDigits 10 (n % 10) := by
    decide +kernel
  rw [hplaces _ (Nat.mod_lt total (by decide)), ← String.toList_inj]
  simp only [Nat.toString_eq_repr, String.toList_append, Nat.toList_repr, String.toList_ofList]
  simp

/-- A double is written with its sign and two decimal places. -/
theorem writesHundredths_signedHundredths (x : Float) :
    WritesHundredths (.ofFloat x) (signedHundredths x) := by
  unfold signedHundredths
  generalize Binary64.ofFloat x = denoted
  cases denoted with
  | nan => exact .nan
  | infinite negative => exact .infinite negative
  | finite negative mantissa exponent =>
    have hnearest := isNearest_hundredths mantissa exponent
    -- the hundredths are taken apart into what stands before and behind the point
    have htotal : hundredths mantissa exponent = 100 * (hundredths mantissa exponent / 100) +
        10 * (hundredths mantissa exponent % 100 / 10) +
        hundredths mantissa exponent % 100 % 10 := by omega
    rw [htotal] at hnearest
    have hwrites : WritesHundredths (.finite negative mantissa exponent) _ :=
      .finite (by omega) (by omega) hnearest
    rw [← ofList_digits] at hwrites
    exact hwrites

/-- A double is written in one way only. -/
theorem WritesHundredths.unique {denoted : Binary64} {text text' : String}
    (h : WritesHundredths denoted text) (h' : WritesHundredths denoted text') : text = text' := by
  cases h with
  | nan =>
    cases h'
    rfl
  | infinite negative =>
    cases h'
    rfl
  | @finite _ _ _ whole tenths rest htenths hrest hnearest =>
    cases h' with
    | @finite _ _ _ whole' tenths' rest' htenths' hrest' hnearest' =>
      -- both texts write the nearest number, which has its digits in one way
      have htotal := hnearest.unique hnearest'
      obtain rfl : whole = whole' := by omega
      obtain rfl : tenths = tenths' := by omega
      obtain rfl : rest = rest' := by omega
      rfl

end BuildScope.Number
