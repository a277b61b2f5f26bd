import BuildScope.Number.Binary64

/-!
# Fixed Places

A double written with two decimal places and its sign, rounded once from its exact value.

* `hundredths_near`: the hundredths written are within half a hundredth of the number.
-/

namespace BuildScope.Number

/-- Hundredths nearest to `mantissa * 2 ^ exponent`, ties going to the even number of them. -/
def hundredths (mantissa : Nat) (exponent : Int) : Nat :=
  let (num, den) := dyadic mantissa exponent
  halfEven (100 * num) den

/-- The hundredths are within half of one of the number. -/
theorem hundredths_near (mantissa : Nat) (exponent : Int) :
    let (num, den) := dyadic mantissa exponent
    2 * (100 * num) ≤ 2 * (hundredths mantissa exponent * den) + den ∧
      2 * (hundredths mantissa exponent * den) ≤ 2 * (100 * num) + den :=
  halfEven_near _ (dyadic_den_pos mantissa exponent)

/-- A double with its sign and two decimal places. Zero has the sign of the double. -/
def signedHundredths (x : Float) : String :=
  let sign (negative : Bool) : String := if negative then "-" else "+"
  match Binary64.ofFloat x with
  | .nan => "NaN"
  | .infinite negative => sign negative ++ "inf"
  | .finite negative mantissa exponent =>
    let total := hundredths mantissa exponent
    -- the number is whole hundredths from here on
    let places := Nat.toDigits 10 (total % 100)
    let padded := List.replicate (2 - places.length) '0' ++ places
    .ofList ((sign negative).toList ++ Nat.toDigits 10 (total / 100) ++ '.' :: padded)

end BuildScope.Number
