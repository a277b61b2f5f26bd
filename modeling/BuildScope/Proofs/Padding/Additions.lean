import BuildScope.Diff.Padding
import Mathlib.Data.Finset.Card

/-!
# Additions to Padding Totals

Gains are added to the totals of their segments one after the other. A segment sees its own gains
only, so that what counts about a sequence of gains is, for each segment, which ones it has and in
what order. Gains of different segments can be added in any order.

* `PaddingTotals.addAll`: the totals that gains lead to.
* `PaddingTotals.get?_addAll`: the total of a segment is the sum of the gains added to it, in order.
* `PaddingTotals.addAll_congr`: gains that are the same for each segment lead to the same totals.
* `PaddingTotals.size_addAll`: there are as many totals as segments that something was added to.
-/

namespace BuildScope

/-- Segments differ by their container or by their section. -/
theorem Segment.ne_iff {a b : Segment} :
    a ≠ b ↔ a.container ≠ b.container ∨ a.sectionName ≠ b.sectionName := by
  obtain ⟨container, sectionName⟩ := a
  obtain ⟨container', sectionName'⟩ := b
  rw [ne_eq, Segment.mk.injEq, not_and_or]

/-- Add gains to the totals of their segments, one after the other. -/
def PaddingTotals.addAll (padding : PaddingTotals) (gains : List (Segment × Float)) :
    PaddingTotals :=
  gains.foldl (fun padding (segment, gain) => padding.add segment gain) padding

theorem PaddingTotals.addAll_cons (padding : PaddingTotals) (gain : Segment × Float)
    (gains : List (Segment × Float)) :
    padding.addAll (gain :: gains) = (padding.add gain.1 gain.2).addAll gains := rfl

theorem PaddingTotals.addAll_append (padding : PaddingTotals)
    (gains more : List (Segment × Float)) :
    padding.addAll (gains ++ more) = (padding.addAll gains).addAll more :=
  List.foldl_append

namespace PaddingTotals

variable {padding other : PaddingTotals} {gains more : List (Segment × Float)} {segment : Segment}

/-- Two collections of totals are equal if all segments have the same total in both. -/
theorem ext_get? (h : ∀ segment, padding.get? segment = other.get? segment) : padding = other := by
  cases padding
  cases other
  rw [mk.injEq]
  exact Std.ExtTreeMap.ext_getElem? h

/-! ## Gains of a segment -/

/-- The gains of a segment among those of many, in order. -/
def gainsOf (segment : Segment) (gains : List (Segment × Float)) : List Float :=
  (gains.filter fun gain => gain.1 = segment).map Prod.snd

theorem gainsOf_append : gainsOf segment (gains ++ more) =
    gainsOf segment gains ++ gainsOf segment more := by
  rw [gainsOf, List.filter_append, List.map_append, gainsOf, gainsOf]

theorem gainsOf_cons_self {gain : Segment × Float} :
    gainsOf gain.1 (gain :: gains) = gain.2 :: gainsOf gain.1 gains := by
  simp [gainsOf]

theorem gainsOf_cons_of_ne {gain : Segment × Float} (h : gain.1 ≠ segment) :
    gainsOf segment (gain :: gains) = gainsOf segment gains := by
  simp [gainsOf, h]

theorem gainsOf_eq_nil_iff : gainsOf segment gains = [] ↔ ∀ gain ∈ gains, gain.1 ≠ segment := by
  rw [gainsOf, List.map_eq_nil_iff, List.filter_eq_nil_iff]
  simp only [decide_eq_true_eq, ne_eq]

/-- A segment has the same gains if one that is elsewhere is left out. -/
theorem gainsOf_middle_of_ne {gain : Segment × Float} (h : gain.1 ≠ segment) :
    gainsOf segment (gains ++ gain :: more) = gainsOf segment (gains ++ more) := by
  rw [gainsOf_append, gainsOf_cons_of_ne h, gainsOf_append]

/-- A segment has the same gains if two that are not in the same segment trade places. -/
theorem gainsOf_swap {a b : Segment × Float} (h : a.1 ≠ b.1) (segment : Segment) :
    gainsOf segment (gains ++ a :: b :: more) = gainsOf segment (gains ++ b :: a :: more) := by
  have helsewhere {a b : Segment × Float} (ha : a.1 ≠ segment) :
      gainsOf segment (gains ++ a :: b :: more) = gainsOf segment (gains ++ b :: a :: more) := by
    rw [gainsOf_middle_of_ne ha, List.append_cons gains b (a :: more), gainsOf_middle_of_ne ha,
      ← List.append_cons]
  -- no segment has both of them
  by_cases ha : a.1 = segment
  · exact (helsewhere (ha ▸ h.symm)).symm
  · exact helsewhere ha

/-! ## Totals of a segment -/

/-- The total of a segment is what it was, and the gains of this segment added to it one after the
other. A segment without a total starts from zero once there is something to add. -/
theorem get?_addAll (padding : PaddingTotals) (gains : List (Segment × Float))
    (segment : Segment) :
    (padding.addAll gains).get? segment =
      if gainsOf segment gains = [] then padding.get? segment
      else some ((gainsOf segment gains).foldl (· + ·) ((padding.get? segment).getD 0)) := by
  -- the totals that the other gains are added to have the first one in them
  induction gains generalizing padding with
  | nil => rfl
  | cons gain gains ih =>
    rw [addAll_cons, ih]
    by_cases hsegment : gain.1 = segment
    · subst hsegment
      rw [gainsOf_cons_self, if_neg (List.cons_ne_nil _ _), List.foldl_cons, get?_add_self,
        Option.getD_some]
      split
      next hnil => rw [hnil, List.foldl_nil]
      next => rfl
    · rw [gainsOf_cons_of_ne hsegment, get?_add_of_ne padding gain.2 hsegment]

/-- Gains elsewhere leave the total of a segment alone. -/
theorem get?_addAll_of_ne (h : ∀ gain ∈ gains, gain.1 ≠ segment) :
    (padding.addAll gains).get? segment = padding.get? segment := by
  rw [get?_addAll, if_pos (gainsOf_eq_nil_iff.2 h)]

/-- The total of a segment is the same if gains elsewhere are left out. -/
theorem get?_addAll_filter (kept : Segment → Bool) (hkept : kept segment)
    (h : other.get? segment = padding.get? segment) :
    (other.addAll (gains.filter fun gain => kept gain.1)).get? segment =
      (padding.addAll gains).get? segment := by
  have hgains : gainsOf segment (gains.filter fun gain => kept gain.1) = gainsOf segment gains := by
    rw [gainsOf, gainsOf, List.filter_filter]
    congr 1
    refine List.filter_congr fun gain _ => ?_
    by_cases hsegment : gain.1 = segment
    · simp [hsegment, hkept]
    · simp [hsegment]
  rw [get?_addAll, get?_addAll, hgains, h]

/-- Of totals that start from none, a segment has none exactly if nothing was added to it. -/
theorem get?_addAll_eq_none_iff : (({} : PaddingTotals).addAll gains).get? segment = none ↔
    ∀ gain ∈ gains, gain.1 ≠ segment := by
  rw [← gainsOf_eq_nil_iff, get?_addAll, get?_empty]
  split
  next hnil => simp [hnil]
  next hsome => simp [hsome]

/-- Of totals that start from none, that of a segment is the sum of its gains. -/
theorem get?_addAll_eq_some_iff {total : Float} :
    (({} : PaddingTotals).addAll gains).get? segment = some total ↔
      (∃ gain ∈ gains, gain.1 = segment) ∧ (gainsOf segment gains).foldl (· + ·) 0 = total := by
  have hgains : gainsOf segment gains ≠ [] ↔ ∃ gain ∈ gains, gain.1 = segment := by
    rw [ne_eq, gainsOf_eq_nil_iff]
    push Not
    rfl
  rw [← hgains, get?_addAll, get?_empty, Option.getD_none]
  split
  next hnil => simp [hnil]
  next hsome => simp [hsome]

/-! ## Sequences of gains -/

/-- The totals depend on what gains each segment has, and in what order, but on no more. -/
theorem addAll_congr {gains' : List (Segment × Float)}
    (h : ∀ segment, gainsOf segment gains = gainsOf segment gains') :
    padding.addAll gains = padding.addAll gains' := by
  apply ext_get?
  intro segment
  rw [get?_addAll, get?_addAll, h segment]

/-- A gain does not count for other segments. -/
theorem get?_addAll_middle_of_ne {gain : Segment × Float} (h : gain.1 ≠ segment) :
    (padding.addAll (gains ++ gain :: more)).get? segment =
      (padding.addAll (gains ++ more)).get? segment := by
  rw [get?_addAll, get?_addAll, gainsOf_middle_of_ne h]

/-- Gains of different segments can be added in either order. -/
theorem addAll_swap {a b : Segment × Float} (h : a.1 ≠ b.1) :
    padding.addAll (gains ++ a :: b :: more) = padding.addAll (gains ++ b :: a :: more) :=
  addAll_congr fun segment => gainsOf_swap h segment

/-- The segments listed are those with a total. -/
theorem mem_map_fst_toList_iff :
    segment ∈ padding.toList.map Prod.fst ↔ padding.get? segment ≠ none := by
  simp only [List.mem_map, Prod.exists, exists_and_right, exists_eq_right, mem_toList_iff,
    Option.ne_none_iff_exists']

/-- There are as many totals as segments that something was added to. -/
theorem size_addAll (gains : List (Segment × Float)) :
    (({} : PaddingTotals).addAll gains).size = (gains.map Prod.fst).toFinset.card := by
  -- totals are listed once for each segment
  have hsegments : ((({} : PaddingTotals).addAll gains).toList.map Prod.fst).toFinset =
      (gains.map Prod.fst).toFinset := by
    ext segment
    rw [List.mem_toFinset, List.mem_toFinset, mem_map_fst_toList_iff, ne_eq,
      get?_addAll_eq_none_iff, List.mem_map]
    push Not
    rfl
  rw [← hsegments, List.toFinset_card_of_nodup (nodup_toList _), List.length_map]
  exact Std.ExtTreeMap.length_toList.symm

end PaddingTotals

end BuildScope
