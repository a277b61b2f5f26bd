/-!
# Natural Numbers in Decimal

Numbers as they are given on a command line: digits, perhaps after a plus sign.
-/

namespace BuildScope.Number

/-- The number that some digits spell after the digits read so far. -/
def natural?Go (value : Nat) : List Char → Option Nat
  | [] => some value
  | c :: rest => if c.isDigit then natural?Go (10 * value + (c.toNat - '0'.toNat)) rest else none

/-- The number that a text spells, if it is one. -/
def natural? (text : String) : Option Nat :=
  let digits := match text.toList with
    | '+' :: rest => rest
    | digits => digits
  if digits.isEmpty then none else natural?Go 0 digits

end BuildScope.Number
