/-!
# Character Ranges

Properties of characters given by tables of code point ranges.

* `contains_iff`: a character is in a table exactly if some range of it holds its code point.
-/

namespace BuildScope.Text

/-- Ranges of code points, each with its first and its last one. -/
abbrev CharRanges := Array (Nat × Nat)

namespace CharRanges

/-- Whether one of the ranges holds the code point of `c`. -/
def contains (ranges : CharRanges) (c : Char) : Bool :=
  ranges.any fun range => range.1 ≤ c.toNat && c.toNat ≤ range.2

/-- Membership in a table. -/
theorem contains_iff {ranges : CharRanges} {c : Char} :
    ranges.contains c ↔ ∃ range ∈ ranges, range.1 ≤ c.toNat ∧ c.toNat ≤ range.2 := by
  simp only [contains, Array.any_eq_true', Bool.and_eq_true, decide_eq_true_eq]

end CharRanges

end BuildScope.Text
