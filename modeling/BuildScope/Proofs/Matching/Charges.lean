import BuildScope.Proofs.Deltas.Growth
import BuildScope.Proofs.Matching.PaddingOnce
import BuildScope.Proofs.Padding.Segments
import BuildScope.Proofs.Sums
import Mathlib.Algebra.Order.BigOperators.Group.List

/-!
# Charges for Padding

Where the padding that pairs have gained is charged, in whole bytes. The totals have that of the
pairs that share the first key, by segment. The deltas of the other pairs answer for theirs, or else
it is lost.

* `Matching.IsExact`: no total is off after rounding.
* `Matching.Reached.sum_rounded`: then the rounded totals are the gains of the charged pairs.
* `Matching.Reached.sum_unanswered`: what no delta answers for is charged to the totals or lost.
-/

namespace BuildScope

/-- Symbols share the first key exactly if their first keys are equal, as all symbols have one. -/
theorem Pass.agrees_exact_iff {b a : Side} :
    Pass.exact.Agrees b a ↔ Pass.exact.key b.symbol = Pass.exact.key a.symbol := by
  constructor
  · rintro ⟨k, hb, ha⟩
    rw [hb, ha]
  · intro h
    exact ⟨_, h, rfl⟩

/-- Totals that round to nothing add nothing. -/
theorem PaddingTotals.sum_rounded_eq (padding : PaddingTotals) (value : Int64 → Int)
    (hzero : value 0 = 0) :
    (padding.rounded.map fun gain => value gain.2).sum =
      (padding.toList.map fun total => value (Number.roundToInt64 total.2)).sum := by
  rw [rounded]
  induction padding.toList with
  | nil => rfl
  | cons total totals ih =>
    rw [List.filterMap_cons, List.map_cons, List.sum_cons, ← ih]
    by_cases hround : Number.roundToInt64 total.2 = 0
    · simp [hround, hzero]
    · simp [hround]

namespace Matching

/-- Whole bytes of padding that a pair has gained. -/
def paddingGrowth (sides : Side × Side) : Int :=
  sides.2.symbol.padding.toInt - sides.1.symbol.padding.toInt

/-- The segment that the padding gained by a pair is charged to. -/
def chargedTo (sides : Side × Side) : Segment :=
  (paddingDrift sides).1

/-- The totals are exact: each one rounds to the bytes that the pairs charged to its segment have
gained. -/
def IsExact (matching : Matching) : Prop :=
  ∀ segment total, matching.padding.get? segment = some total →
    (Number.roundToInt64 total).toInt =
      ((matching.charged.filter fun sides => chargedTo sides = segment).map paddingGrowth).sum

private theorem natAbs_sum_le (l : List Int) :
    (l.sum.natAbs : Int) ≤ (l.map fun n => (n.natAbs : Int)).sum := by
  induction l with
  | nil => exact Int.le_refl 0
  | cons n l ih =>
    rw [List.map_cons, List.sum_cons, List.sum_cons]
    omega

variable {before after : List Side} {passes : List Pass} {matching : Matching}

/-- The padding gained by the charged pairs is that of the segments with a total. -/
theorem Reached.sum_charged (h : Reached before after passes matching)
    (value : Side × Side → Int) :
    (matching.charged.map value).sum =
      (matching.padding.toList.map fun total =>
        ((matching.charged.filter fun sides => chargedTo sides = total.1).map value).sum).sum := by
  have hsegments : ∀ sides ∈ matching.charged,
      chargedTo sides ∈ matching.padding.toList.map Prod.fst := by
    intro sides hsides
    have hgain : paddingDrift sides ∈ matching.gains := by
      rw [gains_eq_map_charged]
      exact List.mem_map_of_mem hsides
    rw [PaddingTotals.mem_map_fst_toList_iff, h.padding_eq, ne_eq,
      PaddingTotals.get?_addAll_eq_none_iff]
    exact fun hnone => hnone _ hgain rfl
  rw [← sum_fibers chargedTo value matching.padding.nodup_toList hsegments, List.map_map]
  rfl

/-- Exact totals come to the padding that the charged pairs have gained. -/
theorem Reached.sum_rounded (h : Reached before after passes matching)
    (hexact : matching.IsExact) :
    (matching.padding.rounded.map fun gain => gain.2.toInt).sum =
      (matching.charged.map paddingGrowth).sum := by
  rw [matching.padding.sum_rounded_eq Int64.toInt Int64.toInt_zero, h.sum_charged]
  congr 1
  apply List.map_congr_left
  intro total htotal
  exact hexact total.1 total.2 (PaddingTotals.mem_toList_iff.1 htotal)

/-- Exact totals have no more padding than the charged pairs have gained or lost. -/
theorem Reached.sum_natAbs_rounded_le (h : Reached before after passes matching)
    (hexact : matching.IsExact) :
    (matching.padding.rounded.map fun gain => (gain.2.toInt.natAbs : Int)).sum ≤
      (matching.charged.map fun sides => ((paddingGrowth sides).natAbs : Int)).sum := by
  rw [matching.padding.sum_rounded_eq (fun bytes => (bytes.toInt.natAbs : Int)) rfl,
    h.sum_charged]
  apply List.sum_le_sum
  intro total htotal
  have hround := hexact total.1 total.2 (PaddingTotals.mem_toList_iff.1 htotal)
  have hle := natAbs_sum_le
    ((matching.charged.filter fun sides => chargedTo sides = total.1).map paddingGrowth)
  rw [List.map_map, ← hround] at hle
  exact hle

/-! ## Pairs that no delta answers for -/

/-- A pair that shares the first key was made by the first pass. -/
theorem Reached.eq_exact_of_key_eq (h : Reached before after Pass.all matching)
    {pair : Pass × Side × Side} (hpair : pair ∈ matching.credited)
    (hkey : Pass.exact.key pair.2.1.symbol = Pass.exact.key pair.2.2.symbol) :
    pair.1 = .exact := by
  apply Pass.eq_exact_of_rank_le
  by_contra hrank
  exact h.first_agreement inOrder_all hpair (Pass.mem_all .exact) (Nat.lt_of_not_le hrank)
    (Pass.agrees_exact_iff.2 hkey)

/-- The pairs that share the first key are those of the first pass. -/
theorem Reached.tracked_eq (h : Reached before after Pass.all matching) :
    matching.tracked = matching.matched.filter fun sides =>
      Pass.exact.key sides.1.symbol = Pass.exact.key sides.2.symbol := by
  rw [tracked, ← h.map_snd_credited, List.filter_map]
  congr 1
  apply List.filter_congr
  intro pair hpair
  have hexact : pair.1 = .exact ↔
      Pass.exact.key pair.2.1.symbol = Pass.exact.key pair.2.2.symbol := by
    refine ⟨fun hpass => ?_, h.eq_exact_of_key_eq hpair⟩
    have hagrees : pair.1.Agrees pair.2.1 pair.2.2 := h.agrees_of_mem_credited hpair
    rw [hpass] at hagrees
    exact Pass.agrees_exact_iff.1 hagrees
  rw [Pass.tracksPadding_eq]
  exact decide_eq_decide.2 hexact

/-- The pairs whose padding is not accounted for: their symbols do not share the first key, so that
no total has it, and they do not both consist of padding, so that no delta has it. -/
def lost (matching : Matching) : List (Side × Side) :=
  matching.matched.filter fun sides =>
    Pass.exact.key sides.1.symbol ≠ Pass.exact.key sides.2.symbol ∧
      ¬ (sides.1.symbol.size = sides.1.symbol.padding ∧
        sides.2.symbol.size = sides.2.symbol.padding)

/-- The pairs whose delta does not answer for their padding. -/
def unanswered (matching : Matching) : List (Side × Side) :=
  matching.matched.filter fun sides => !(Change.matched sides.1 sides.2).answersForPadding

/-- Padding that no delta answers for is charged to the totals or lost, if no symbol is overhead. -/
theorem Reached.sum_unanswered (h : Reached before after Pass.all matching)
    (hplain : ∀ side ∈ after, side.symbol.isOverhead = false) :
    (matching.unanswered.map paddingGrowth).sum =
      (matching.charged.map paddingGrowth).sum + (matching.lost.map paddingGrowth).sum := by
  -- without overhead, a pair answers for its padding only if both symbols are nothing else
  have hanswers : ∀ sides ∈ matching.matched,
      (!(Change.matched sides.1 sides.2).answersForPadding) =
        decide (¬ (sides.1.symbol.size = sides.1.symbol.padding ∧
          sides.2.symbol.size = sides.2.symbol.padding)) := by
    intro sides hsides
    have hafter : sides.2 ∈ after :=
      h.perm_after.subset (List.mem_append_left _ (List.mem_map_of_mem hsides))
    rw [Change.answersForPadding, hplain _ hafter, Bool.false_or, ← Bool.decide_and, decide_not]
  have hcharged : matching.charged = matching.unanswered.filter fun sides =>
      Pass.exact.key sides.1.symbol = Pass.exact.key sides.2.symbol := by
    rw [charged, h.tracked_eq, unanswered, List.filter_filter, List.filter_filter]
    apply List.filter_congr
    intro sides hsides
    by_cases hkey : Pass.exact.key sides.1.symbol = Pass.exact.key sides.2.symbol
    · -- both symbols have bytes besides their padding, or neither has
      have hbare : sides.1.symbol.bare = sides.2.symbol.bare :=
        (Pass.agrees_exact_iff.2 hkey).size_sub_padding_eq
      have hsizes : sides.1.symbol.size = sides.1.symbol.padding ↔
          sides.2.symbol.size = sides.2.symbol.padding := by
        rw [← Symbol.bare_eq_zero_iff, ← Symbol.bare_eq_zero_iff, hbare]
      rw [hanswers sides hsides]
      simp [hkey, hsizes]
    · simp [hkey]
  have hlost : matching.lost = matching.unanswered.filter fun sides =>
      ¬ Pass.exact.key sides.1.symbol = Pass.exact.key sides.2.symbol := by
    rw [lost, unanswered, List.filter_filter]
    apply List.filter_congr
    intro sides hsides
    rw [hanswers sides hsides, ← Bool.decide_and]
  rw [hcharged, hlost]
  exact (List.sum_map_filter_add_sum_map_filter_not _ paddingGrowth matching.unanswered).symm

end Matching

end BuildScope
