import BuildScope.Number.Rounding

/-!
# Doubles as Numbers

What a double denotes, read off its bits, so that rounding and writing it are exact integer
arithmetic.

* `Binary64.ofFloat`: the number a double denotes.
* `roundToInt64`: the integer nearest to a double, the even one of two, kept in signed 64 bits.
-/

namespace BuildScope.Number

/-- What a double denotes. -/
inductive Binary64 where
  /-- Not a number. -/
  | nan
  /-- Infinity, with its sign. -/
  | infinite (negative : Bool)
  /-- The number `mantissa * 2 ^ exponent`, with its sign. -/
  | finite (negative : Bool) (mantissa : Nat) (exponent : Int)
  deriving DecidableEq, Repr

namespace Binary64

/-- Least exponent of a double, the one of subnormal numbers. -/
def minExponent : Int := -1074

/-- Mantissa of the smallest number of each binary order but the subnormal one. -/
def leadingBit : Nat := 0x10000000000000

/-- The number that the bits of a double denote. -/
def ofBits (bits : UInt64) : Binary64 :=
  let negative := bits.toNat / 0x8000000000000000 == 1
  let order : Nat := bits.toNat / leadingBit % 0x800
  let fraction : Nat := bits.toNat % leadingBit
  if order = 2047 then
    if fraction = 0 then .infinite negative else .nan
  -- subnormal numbers have no leading bit
  else if order = 0 then .finite negative fraction minExponent
  else .finite negative (leadingBit + fraction) (minExponent + (order - 1 : Nat))

/-- The number a double denotes. -/
def ofFloat (x : Float) : Binary64 :=
  ofBits x.toBits

end Binary64

/-- Numerator and denominator of `mantissa * 2 ^ exponent`. -/
def dyadic (mantissa : Nat) (exponent : Int) : Nat × Nat :=
  (mantissa * Nat.pow 2 exponent.toNat, Nat.pow 2 (-exponent).toNat)

/-- Dyadic denominators are positive. -/
theorem dyadic_den_pos (mantissa : Nat) (exponent : Int) : 0 < (dyadic mantissa exponent).2 :=
  Nat.two_pow_pos _

/-- The integer nearest to a double, ties going to the even one. Not-a-number is zero, and what
lies outside of signed 64 bits becomes the nearest end. -/
def roundToInt64 (x : Float) : Int64 :=
  let clamp (n : Int) : Int64 :=
    if n ≤ Int64.minValue.toInt then .minValue
    else if Int64.maxValue.toInt ≤ n then .maxValue
    else .ofInt n
  match Binary64.ofFloat x with
  | .nan => 0
  | .infinite negative => if negative then .minValue else .maxValue
  | .finite negative mantissa exponent =>
    let (num, den) := dyadic mantissa exponent
    let nearest : Int := halfEven num den
    clamp (if negative then -nearest else nearest)

end BuildScope.Number
