import BuildScope.Number.Binary64
import Std.Data.ExtTreeMap

/-!
# Padding Totals

Symbols that are matched by their contents no longer answer for their padding. How much of it was
gained or lost is added up for each segment, which is a section of a container.

* `PaddingTotals.get?_add_self`, `get?_add_of_ne`: adding to a segment changes that segment only.
* `PaddingTotals.rounded`: the segments that changed by whole bytes, in order.
-/

namespace BuildScope

/-- A section of a container, by their names. -/
structure Segment where
  /-- Name of the container. -/
  container : String
  /-- Raw name of the section. -/
  sectionName : String
  deriving DecidableEq, Repr

namespace Segment

/-- Segments are ordered by container, and those of a container by section. -/
instance : Ord Segment :=
  ⟨compareLex (compareOn container) (compareOn sectionName)⟩

instance : Std.TransOrd Segment :=
  inferInstanceAs (Std.TransCmp (compareLex (compareOn container) (compareOn sectionName)))

instance : Std.LawfulEqOrd Segment where
  eq_of_compare {a b} h := by
    obtain ⟨hc, hs⟩ : compare a.container b.container = .eq ∧
        compare a.sectionName b.sectionName = .eq := by
      simpa only [compare, compareLex_eq_eq, compareOn] using h
    cases a
    cases b
    simp_all

end Segment

/-- Padding gained by the matched symbols of each segment. -/
structure PaddingTotals where
  /-- Totals of the segments that were added to. -/
  totals : Std.ExtTreeMap Segment Float := {}

namespace PaddingTotals

/-- Add to the total of a segment, which starts from zero. -/
def add (padding : PaddingTotals) (segment : Segment) (delta : Float) : PaddingTotals :=
  ⟨padding.totals.alter segment fun total => some (total.getD 0 + delta)⟩

/-- Total of a segment, if it was ever added to. -/
def get? (padding : PaddingTotals) (segment : Segment) : Option Float :=
  padding.totals[segment]?

/-- Number of segments that were added to. -/
def size (padding : PaddingTotals) : Nat :=
  padding.totals.size

/-- Segments that were added to, with their totals, in order. -/
def toList (padding : PaddingTotals) : List (Segment × Float) :=
  padding.totals.toList

/-- Segments whose total rounds to some bytes, in order. -/
def rounded (padding : PaddingTotals) : List (Segment × Int64) :=
  padding.toList.filterMap fun (segment, total) =>
    let bytes := Number.roundToInt64 total
    if bytes = 0 then none else some (segment, bytes)

@[simp]
theorem get?_empty (segment : Segment) : ({} : PaddingTotals).get? segment = none := by
  simp [get?]

/-- What is added to a segment counts there. -/
@[simp]
theorem get?_add_self (padding : PaddingTotals) (segment : Segment) (delta : Float) :
    (padding.add segment delta).get? segment = some ((padding.get? segment).getD 0 + delta) := by
  simp [get?, add]

/-- What is added to a segment does not count elsewhere. -/
theorem get?_add_of_ne (padding : PaddingTotals) {segment other : Segment} (delta : Float)
    (h : segment ≠ other) : (padding.add segment delta).get? other = padding.get? other := by
  simp [get?, add, Std.ExtTreeMap.getElem?_alter, h]

/-- Segments are listed in increasing order. -/
theorem toList_sorted (padding : PaddingTotals) :
    padding.toList.Pairwise fun a b => compare a.1 b.1 = .lt :=
  Std.ExtTreeMap.ordered_keys_toList

/-- No segment is listed twice. -/
theorem nodup_toList (padding : PaddingTotals) : (padding.toList.map Prod.fst).Nodup := by
  rw [List.Nodup, List.pairwise_map]
  refine padding.toList_sorted.imp fun {a b} hlt heq => ?_
  simp [heq] at hlt

/-- A segment is listed with its total. -/
theorem mem_toList_iff {padding : PaddingTotals} {segment : Segment} {total : Float} :
    (segment, total) ∈ padding.toList ↔ padding.get? segment = some total :=
  Std.ExtTreeMap.mem_toList_iff_getElem?_eq_some

end PaddingTotals

end BuildScope
