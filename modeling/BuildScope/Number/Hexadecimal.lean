/-!
# Hexadecimal Digits

The sixteen digits of hexadecimal numbers, with letters of either case.

* `hexDigit?_lt`: what a digit stands for is less than sixteen.
-/

namespace BuildScope.Number

/-- Value of a hexadecimal digit. -/
def hexDigit? (c : Char) : Option Nat :=
  let n := c.toNat
  if 0x30 ≤ n && n ≤ 0x39 then some (n - 0x30)
  else if 0x41 ≤ n && n ≤ 0x46 then some (n - 0x37)
  else if 0x61 ≤ n && n ≤ 0x66 then some (n - 0x57)
  else none

/-- A digit stands for a number below sixteen. -/
theorem hexDigit?_lt {c : Char} {value : Nat} (h : hexDigit? c = some value) : value < 16 := by
  simp only [hexDigit?, Bool.and_eq_true, decide_eq_true_eq] at h
  repeat' split at h
  all_goals simp only [Option.some.injEq, reduceCtorEq] at h
  all_goals omega

end BuildScope.Number
