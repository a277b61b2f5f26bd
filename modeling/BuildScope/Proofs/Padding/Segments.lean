import BuildScope.Proofs.Padding.Additions
import BuildScope.Proofs.Text.ByteOrder

/-!
# Padding by Segment

What padding totals say about each segment: its total, the whole bytes that the total rounds to, and
where it is listed among the segments that gained any. Segments are in the order of the bytes of
their names.

* `Segment.Precedes`: the order of segments.
* `PaddingTotals.bytesOf`: the whole bytes that a segment has gained.
* `PaddingTotals.SumsBySegment`: totals that say of each segment what was added to it.
* `PaddingTotals.addAll_by_segment`: adding gains leads to such totals, and segments that differ do
  not affect each other.
-/

namespace BuildScope

/-! ## The order of segments -/

namespace Segment

variable {a b : Segment}

/-- One segment comes before another by the bytes of its container, or is of the same container and
comes before it by the bytes of its section. -/
def Precedes (a b : Segment) : Prop :=
  Text.bytes a.container < Text.bytes b.container ∨
    a.container = b.container ∧ Text.bytes a.sectionName < Text.bytes b.sectionName

theorem compare_eq_lt_iff : compare a b = .lt ↔ a.Precedes b := by
  change (compare a.container b.container).then (compare a.sectionName b.sectionName) = .lt ↔ _
  rw [Ordering.then_eq_lt, Text.compare_eq_lt_iff_bytes_lt, Text.compare_eq_lt_iff_bytes_lt,
    compare_eq_iff_eq, Precedes]

theorem Precedes.irrefl (a : Segment) : ¬a.Precedes a := by
  rw [← compare_eq_lt_iff]
  simp

theorem Precedes.asymm (h : a.Precedes b) : ¬b.Precedes a := by
  rw [← compare_eq_lt_iff] at h ⊢
  rw [Std.OrientedOrd.eq_swap, h]
  decide

end Segment

namespace PaddingTotals

variable {padding : PaddingTotals} {gains : List (Segment × Float)} {segment : Segment}

/-! ## Whole bytes -/

/-- Whole bytes that a segment has gained, which are none if nothing was ever added to it. -/
def bytesOf (padding : PaddingTotals) (segment : Segment) : Int64 :=
  ((padding.get? segment).map Number.roundToInt64).getD 0

/-- Segments are listed whose total rounds to some bytes, with these. -/
theorem mem_rounded_iff_total {bytes : Int64} : (segment, bytes) ∈ padding.rounded ↔
    ∃ total, padding.get? segment = some total ∧ Number.roundToInt64 total = bytes ∧ bytes ≠ 0 := by
  rw [rounded, List.mem_filterMap]
  constructor
  · rintro ⟨⟨other, total⟩, htotal, hbytes⟩
    dsimp only at hbytes
    split at hbytes
    · cases hbytes
    next hne =>
      cases hbytes
      exact ⟨total, mem_toList_iff.1 htotal, rfl, hne⟩
  · rintro ⟨total, htotal, rfl, hne⟩
    exact ⟨(segment, total), mem_toList_iff.2 htotal, if_neg hne⟩

/-- Segments are listed that have gained whole bytes, with those. -/
theorem mem_rounded_iff {gain : Segment × Int64} :
    gain ∈ padding.rounded ↔ padding.bytesOf gain.1 ≠ 0 ∧ padding.bytesOf gain.1 = gain.2 := by
  obtain ⟨segment, bytes⟩ := gain
  rw [mem_rounded_iff_total, bytesOf]
  cases padding.get? segment with
  | none => simp
  | some total =>
    simp only [Option.some.injEq, exists_eq_left', Option.map_some, Option.getD_some]
    constructor
    · rintro ⟨rfl, hne⟩
      exact ⟨hne, rfl⟩
    · rintro ⟨hne, rfl⟩
      exact ⟨rfl, hne⟩

theorem mem_rounded (h : padding.bytesOf segment ≠ 0) :
    (segment, padding.bytesOf segment) ∈ padding.rounded :=
  mem_rounded_iff.2 ⟨h, rfl⟩

theorem rounded_sorted (padding : PaddingTotals) :
    padding.rounded.Pairwise fun a b => a.1.Precedes b.1 := by
  -- leaving some out and rounding the others keeps their order
  refine List.Pairwise.filterMap _ ?_ padding.toList_sorted
  rintro ⟨a, total⟩ ⟨b, total'⟩ hlt gain hgain gain' hgain'
  dsimp only at hgain hgain'
  split at hgain
  · cases hgain
  split at hgain'
  · cases hgain'
  cases hgain
  cases hgain'
  exact Segment.compare_eq_lt_iff.1 hlt

/-- No segment is listed twice. -/
theorem nodup_rounded (padding : PaddingTotals) : (padding.rounded.map Prod.fst).Nodup := by
  rw [List.Nodup, List.pairwise_map]
  refine padding.rounded_sorted.imp fun {a b} hprecedes heq => ?_
  rw [heq] at hprecedes
  exact Segment.Precedes.irrefl b.1 hprecedes

/-- What is listed before a segment precedes it, and what is listed after it follows it. -/
theorem precedes_of_rounded_eq {front back : List (Segment × Int64)} {gain : Segment × Int64}
    (h : padding.rounded = front ++ gain :: back) :
    (∀ other ∈ front, other.1.Precedes gain.1) ∧ ∀ other ∈ back, gain.1.Precedes other.1 := by
  have hsorted := padding.rounded_sorted
  rw [h, List.pairwise_append, List.pairwise_cons] at hsorted
  obtain ⟨-, ⟨hback, -⟩, hfront⟩ := hsorted
  exact ⟨fun other hother => hfront other hother gain List.mem_cons_self, hback⟩

/-- A segment has gained padding only if something was added to it. -/
theorem exists_gain_of_mem_rounded {gain : Segment × Int64}
    (h : gain ∈ (({} : PaddingTotals).addAll gains).rounded) :
    ∃ added ∈ gains, added.1 = gain.1 := by
  obtain ⟨total, htotal, -⟩ := mem_rounded_iff_total.1 h
  exact (get?_addAll_eq_some_iff.1 htotal).1

/-! ## Totals by segment -/

/-- Some totals say of each segment what gains were added to it. -/
structure SumsBySegment (padding : PaddingTotals) (gains : List (Segment × Float)) : Prop where
  /-- A segment has no total exactly if nothing was ever added to it. -/
  get?_eq_none_iff : ∀ segment, padding.get? segment = none ↔ ∀ gain ∈ gains, gain.1 ≠ segment
  /-- Otherwise its total is the sum of what was added to it, one after the other from zero. -/
  get?_eq_some_iff : ∀ segment total, padding.get? segment = some total ↔
    (∃ gain ∈ gains, gain.1 = segment) ∧ (gainsOf segment gains).foldl (· + ·) 0 = total
  /-- There are as many totals as segments that something was added to. -/
  size_eq : padding.size = (gains.map Prod.fst).toFinset.card
  /-- The segments listed are those whose total rounds to some bytes, with these. -/
  mem_rounded_iff : ∀ segment bytes, (segment, bytes) ∈ padding.rounded ↔
    ∃ total, padding.get? segment = some total ∧ Number.roundToInt64 total = bytes ∧ bytes ≠ 0
  /-- None is listed twice. -/
  nodup_rounded : (padding.rounded.map Prod.fst).Nodup
  /-- They are listed in the order of the bytes of their names. -/
  rounded_sorted : padding.rounded.Pairwise fun a b => a.1.Precedes b.1

/-- Totals that gains are added to, from none, say of each segment what was added to it. An addition
does not count for segments that differ from its own by their container or by their section, and
two additions to segments that differ can be made in either order. -/
theorem addAll_by_segment (gains : List (Segment × Float)) :
    (({} : PaddingTotals).addAll gains).SumsBySegment gains ∧
      (∀ front gain back (segment : Segment), gains = front ++ gain :: back →
        gain.1.container ≠ segment.container ∨ gain.1.sectionName ≠ segment.sectionName →
        (({} : PaddingTotals).addAll gains).get? segment =
          (({} : PaddingTotals).addAll (front ++ back)).get? segment) ∧
      ∀ front a b back, gains = front ++ a :: b :: back →
        a.1.container ≠ b.1.container ∨ a.1.sectionName ≠ b.1.sectionName →
        ({} : PaddingTotals).addAll gains =
          ({} : PaddingTotals).addAll (front ++ b :: a :: back) := by
  refine ⟨?_, ?_, ?_⟩
  · exact
      { get?_eq_none_iff := fun _ => get?_addAll_eq_none_iff
        get?_eq_some_iff := fun _ _ => get?_addAll_eq_some_iff
        size_eq := size_addAll gains
        mem_rounded_iff := fun _ _ => mem_rounded_iff_total
        nodup_rounded := nodup_rounded _
        rounded_sorted := rounded_sorted _ }
  · rintro front gain back segment rfl hapart
    exact get?_addAll_middle_of_ne (Segment.ne_iff.2 hapart)
  · rintro front a b back rfl hapart
    exact addAll_swap (Segment.ne_iff.2 hapart)

/-- Segments whose names read the same when they are put together are kept apart. The total of one
is added up from the left, and a segment whose total rounds to nothing is not listed. -/
theorem addAll_by_segment_of_lookalikes :
    let text : Segment := ⟨"a.so", ".text"⟩
    let lookalike : Segment := ⟨"a.so.", "text"⟩
    let data : Segment := ⟨"a.so", ".data"⟩
    let gains : List (Segment × Float) :=
      [(lookalike, -2.5), (text, 2.2), (data, 0.5), (text, 0.1), (text, 0.2)]
    let padding := ({} : PaddingTotals).addAll gains
    text.container ++ text.sectionName = lookalike.container ++ lookalike.sectionName ∧
      (lookalike.container ≠ text.container ∨ lookalike.sectionName ≠ text.sectionName) ∧
      padding.SumsBySegment gains ∧ padding.size = 3 ∧
      padding.get? text = some (0 + 2.2 + 0.1 + 0.2) ∧
      padding.get? text = (({} : PaddingTotals).addAll gains.tail).get? text ∧
      padding.get? ⟨"a", ".so.text"⟩ = none ∧
      padding.rounded = [(text, 3), (lookalike, -2)] ∧
      padding = ({} : PaddingTotals).addAll
        [(text, 2.2), (lookalike, -2.5), (data, 0.5), (text, 0.1), (text, 0.2)] := by
  intro text lookalike data gains padding
  obtain ⟨hsums, hapart, hswap⟩ := addAll_by_segment gains
  have hnames :
      lookalike.container ≠ text.container ∨ lookalike.sectionName ≠ text.sectionName := by
    decide
  refine ⟨by decide, hnames, hsums, ?_, ?_, ?_, ?_, by decide +kernel, ?_⟩
  · exact hsums.size_eq.trans (by decide)
  · exact (hsums.get?_eq_some_iff text _).2 ⟨by decide, rfl⟩
  · exact hapart [] _ _ text rfl hnames
  · exact (hsums.get?_eq_none_iff _).2 (by decide)
  · exact hswap [] _ _ _ rfl hnames

end PaddingTotals

end BuildScope
