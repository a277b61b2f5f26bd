import BuildScope.Number.Binary64

/-!
# Shortest Decimals

The decimal with the fewest digits among those that read back as a given double, and the nearest
one of those.

* `Shortest.ofFinite`: that decimal, for a number `mantissa * 2 ^ exponent` other than zero.
* `Decimal.text`: a decimal written positionally or with an exponent.
* `floatText`: the text of a double in a JSON document.
-/

namespace BuildScope.Number

/-- The decimal `digits * 10 ^ exponent`. -/
structure Decimal where
  /-- Digits, read as one natural number. -/
  digits : Nat
  /-- Power of ten of the last digit. -/
  exponent : Int
  deriving DecidableEq, Repr

namespace Shortest

/-- A number between two neighbours half way to which readers still return it, the three over one
denominator. -/
structure Interval where
  /-- Lower end. -/
  low : Nat
  /-- The number itself. -/
  value : Nat
  /-- Upper end. -/
  high : Nat
  /-- Denominator of the three. -/
  den : Nat
  /-- Whether the ends read back as the number too. -/
  closed : Bool

/-- The decimals that read back as `mantissa * 2 ^ exponent`. The gap below the smallest number of
a binary order is half as wide as the one above, and a tie goes to the even mantissa. -/
def Interval.around (mantissa : Nat) (exponent : Int) : Interval :=
  let (scale, den) := dyadic 1 (exponent - 2)
  let narrow := mantissa = Binary64.leadingBit && Binary64.minExponent < exponent
  { low := (4 * mantissa - if narrow then 1 else 2) * scale
    value := 4 * mantissa * scale
    high := (4 * mantissa + 2) * scale
    den
    closed := mantissa % 2 = 0 }

namespace Interval

/-- Numerator over `den` of the unit `10 ^ exponent`, and the factor that the other numerators
need beside it. -/
def unit (interval : Interval) (exponent : Int) : Nat × Nat :=
  (Nat.pow 10 exponent.toNat * interval.den, Nat.pow 10 (-exponent).toNat)

/-- Whether `digits * 10 ^ exponent` reads back as the number. -/
def contains (interval : Interval) (digits : Nat) (exponent : Int) : Bool :=
  let (unit, factor) := interval.unit exponent
  let point := digits * unit
  if interval.closed then
    interval.low * factor ≤ point && point ≤ interval.high * factor
  else
    interval.low * factor < point && point < interval.high * factor

/-- The multiple of `10 ^ exponent` that reads back as the number, the nearer one of the two
neighbours, and of two equally near the one with an even last digit. -/
def onGrid? (interval : Interval) (exponent : Int) : Option Nat :=
  let (unit, factor) := interval.unit exponent
  let target := interval.value * factor
  let below := target / unit
  let above := below + 1
  match interval.contains below exponent, interval.contains above exponent with
  | false, false => none
  | true, false => some below
  | false, true => some above
  | true, true =>
    -- both read back, so the nearer one is taken
    let toBelow := target - below * unit
    let toAbove := above * unit - target
    some (if toBelow < toAbove || (toBelow = toAbove && below % 2 = 0) then below else above)

/-- Power of ten of the first digit of the number. -/
def leadingPower (interval : Interval) : Int :=
  let length (n : Nat) : Int := (Nat.toDigits 10 n).length
  let guess := length interval.value - length interval.den
  let (unit, factor) := interval.unit guess
  -- the lengths of numerator and denominator leave two powers to choose from
  if unit ≤ interval.value * factor then guess else guess - 1

end Interval

/-- Digits without the zeros at their end, of which there are at most `places`. -/
def stripZeros : (places : Nat) → Decimal → Decimal
  | 0, decimal => decimal
  | places + 1, decimal =>
    if decimal.digits % 10 = 0 then
      stripZeros places ⟨decimal.digits / 10, decimal.exponent + 1⟩
    else decimal

/-- Most digits that any double needs. -/
def maxDigits : Nat := 17

/-- The shortest decimal that reads back as `mantissa * 2 ^ exponent`, the nearest one of those.
The grids are tried from the widest on. -/
def ofFinite (mantissa : Nat) (exponent : Int) : Decimal :=
  let interval := Interval.around mantissa exponent
  let leading := interval.leadingPower
  let found := (List.range maxDigits).findSome? fun (more : Nat) =>
    let power : Int := leading - more
    (interval.onGrid? power).map fun digits => ⟨digits, power⟩
  stripZeros maxDigits (found.getD ⟨0, 0⟩)

end Shortest

/-- Where a format writes an exponent instead of zeros. -/
structure FloatFormat where
  /-- Least power of ten of a first digit that is written positionally. -/
  leastPositional : Int
  /-- First power of ten of a first digit that is written with an exponent. -/
  firstExponential : Int

/-- Text of a decimal other than zero. Whole numbers written positionally end in `.0`; an exponent
always has its sign. -/
def Decimal.text (format : FloatFormat) (decimal : Decimal) : String :=
  let digits := Nat.toDigits 10 decimal.digits
  let leading : Int := decimal.exponent + digits.length - 1
  let zeros (n : Int) : List Char := List.replicate n.toNat '0'
  .ofList <|
    if leading < format.leastPositional || format.firstExponential ≤ leading then
      -- one digit before the point, and the power of ten after the others
      let sign := if leading < 0 then '-' else '+'
      let fraction := if digits.length = 1 then [] else '.' :: digits.drop 1
      digits.take 1 ++ fraction ++ 'e' :: sign :: Nat.toDigits 10 leading.natAbs
    else if decimal.exponent ≥ 0 then digits ++ zeros decimal.exponent ++ ['.', '0']
    else if leading ≥ 0 then
      digits.take (leading.toNat + 1) ++ '.' :: digits.drop (leading.toNat + 1)
    else '0' :: '.' :: zeros (-leading - 1) ++ digits

/-- JSON documents write numbers from a hundred thousandth up to ten to the sixteenth without
exponent. -/
def jsonFloat : FloatFormat := ⟨-5, 16⟩

/-- Text of a double in a JSON document. What is not finite is written as `null`. -/
def floatText (x : Float) : String :=
  match Binary64.ofFloat x with
  | .nan | .infinite _ => "null"
  | .finite negative mantissa exponent =>
    let sign := if negative then "-" else ""
    if mantissa = 0 then sign ++ "0.0"
    else sign ++ (Shortest.ofFinite mantissa exponent).text jsonFloat

end BuildScope.Number
