/-!
# Numerals

The numbers of a JSON document. A numeral that is an integer of 64 bits stays an integer; every
other one becomes a double, by one multiplication or division of its leading digits, so that the
last bit may differ from the nearest double.

* `Numeral.value`: the number a numeral denotes, unless it is too large for a double.
* `value_natural`, `value_negative`: integers of 64 bits are kept as they are.
-/

namespace BuildScope.Json

/-- A number of a document. -/
inductive Number where
  /-- An integer, from the least signed to the greatest unsigned one of 64 bits. -/
  | integer (value : Int)
  /-- Any other number. -/
  | float (value : Float)
  deriving BEq, Repr

/-- A number as it is spelled. -/
structure Numeral where
  /-- Whether it has a minus sign. -/
  negative : Bool := false
  /-- Digits before the point. -/
  whole : List Nat := []
  /-- Digits after the point. -/
  fraction : List Nat := []
  /-- Sign and digits of the exponent. -/
  exponent : Option (Bool × List Nat) := none
  deriving Repr

/-- Value of some decimal digits. -/
def ofDigits (digits : List Nat) : Nat :=
  digits.foldl (fun n digit => n * 10 + digit) 0

/-- First number that needs more than 64 bits. -/
def wordLimit : Nat := UInt64.size

/-- Digits read into one 64 bit word, and the power of ten they stand for. -/
structure Significand where
  /-- The digits taken. -/
  digits : Nat := 0
  /-- Power of ten of the last digit taken. -/
  exponent : Int := 0

namespace Significand

/-- Take digits while they fit, each of which lowers the power by `step`; from the first one that
does not fit on, every digit changes the power by `skip` instead. -/
def take (step skip : Int) : Significand → List Nat → Significand
  | s, [] => s
  | s, digit :: rest =>
    if s.digits * 10 + digit < wordLimit then
      take step skip ⟨s.digits * 10 + digit, s.exponent - step⟩ rest
    else ⟨s.digits, s.exponent + skip * (rest.length + 1)⟩

/-- The leading digits of a numeral. Digits before the point that do not fit still count as places,
those after it do not count at all. -/
def ofNumeral (numeral : Numeral) : Significand :=
  take 1 0 (take 0 1 {} numeral.whole) numeral.fraction

end Significand

/-- Greatest power of ten that is a finite double. -/
def maxPower : Nat := 308

/-- The double ten to the `n`. -/
def powerOfTen (n : Nat) : Float :=
  .ofScientific 1 false n

/-- Multiply by a power of ten. Large negative powers are taken in steps; a result beyond all
doubles is none. -/
def scale (x : Float) (power : Int) : Option Float :=
  if power < -maxPower then
    -- the power itself would be zero as a double
    if x == 0 then some x else scale (x / powerOfTen maxPower) (power + maxPower)
  else if power < 0 then some (x / powerOfTen power.natAbs)
  else if power ≤ maxPower then
    let scaled := x * powerOfTen power.natAbs
    if scaled.isInf then none else some scaled
  else if x == 0 then some x
  else none
termination_by power.natAbs
decreasing_by simp only [maxPower] at *; omega

namespace Numeral

/-- Greatest exponent that is read; a longer one stands for infinity or zero. -/
def exponentLimit : Nat := 0x7FFFFFFF

/-- Size of the double a numeral denotes. -/
def magnitude (numeral : Numeral) : Option Float :=
  let significand := Significand.ofNumeral numeral
  let start := Float.ofNat significand.digits
  match numeral.exponent with
  | none => scale start significand.exponent
  | some (negative, digits) =>
    let exponent := ofDigits digits
    if exponentLimit < exponent then
      -- only zero, or what is divided, is still a double
      if significand.digits ≠ 0 && !negative then none else some 0
    else scale start (significand.exponent + if negative then -(exponent : Int) else exponent)

/-- The number a numeral denotes, unless it is too large for a double. Minus zero is a double. -/
def value (numeral : Numeral) : Option Number :=
  let n := ofDigits numeral.whole
  let isWord := numeral.fraction.isEmpty && numeral.exponent.isNone && n < wordLimit
  -- the sign of minus zero would be lost in an integer
  if isWord && !numeral.negative then some (.integer n)
  else if isWord && 0 < n && n ≤ 0x8000000000000000 then some (.integer (-(n : Int)))
  else numeral.magnitude.map fun x => .float (if numeral.negative then -x else x)

/-- Natural numbers of 64 bits are kept. -/
theorem value_natural {digits : List Nat} (h : ofDigits digits < wordLimit) :
    value { whole := digits } = some (.integer (ofDigits digits)) := by
  simp [value, h]

/-- Negative integers of 64 bits are kept. -/
theorem value_negative {digits : List Nat} (hpos : 0 < ofDigits digits)
    (h : ofDigits digits ≤ 0x8000000000000000) :
    value { negative := true, whole := digits } = some (.integer (-(ofDigits digits : Int))) := by
  have hword : ofDigits digits < wordLimit := Nat.lt_of_le_of_lt h (by decide)
  simp only [value, List.isEmpty_nil, Option.isNone_none, Bool.not_true, Bool.and_false,
    Bool.true_and, decide_true, hpos, h, hword, if_true, Bool.false_eq_true, if_false]

end Numeral

end BuildScope.Json
