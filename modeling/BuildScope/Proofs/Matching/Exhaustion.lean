import BuildScope.Proofs.Matching.Passes
import Mathlib.Data.List.Induction

/-!
# Passes That Are Left Out

A matching leaves out the passes after one side has no symbol left. This changes what is reported,
but neither the pairs, nor which pass made them, nor what is left over. Two runs of the passes can
therefore be compared pass by pass, even where one of them stops before the other.

* `Matching.ofPasses`: a run that leaves out no pass.
* `Matching.Reached.alike`: every run over the same passes is like it.
-/

namespace BuildScope.Matching

/-- Let some passes run on two lists, one after the other, whatever is left. -/
def ofPasses (before after : List Side) (passes : List Pass) : Matching :=
  passes.foldl step (fresh before after)

/-- Two matchings have the same pairs, made by the same passes, and the same leftovers. -/
structure Alike (matching other : Matching) : Prop where
  credited_eq : matching.credited = other.credited
  unmatchedBefore_eq : matching.unmatchedBefore = other.unmatchedBefore
  unmatchedAfter_eq : matching.unmatchedAfter = other.unmatchedAfter

variable {before after : List Side} {passes : List Pass} {matching other : Matching}

theorem ofPasses_append_singleton (before after : List Side) (passes : List Pass) (pass : Pass) :
    ofPasses before after (passes ++ [pass]) = (ofPasses before after passes).step pass := by
  rw [ofPasses, List.foldl_append, ← ofPasses, List.foldl_cons, List.foldl_nil]

theorem reached_ofPasses (before after : List Side) (passes : List Pass) :
    Reached before after passes (ofPasses before after passes) := by
  induction passes using List.reverseRecOn with
  | nil => exact .fresh
  | append_singleton passes pass ih =>
    rw [ofPasses_append_singleton]
    exact ih.step pass

/-- A pass makes the same of matchings that are alike. -/
theorem Alike.outcome_eq (h : matching.Alike other) (pass : Pass) :
    matching.outcome pass = other.outcome pass := by
  rw [outcome, outcome, h.unmatchedBefore_eq, h.unmatchedAfter_eq]

/-- A pass finds nothing to pair where one side has no symbol left. -/
theorem outcome_of_isExhausted (h : matching.isExhausted) (pass : Pass) :
    matching.outcome pass = ⟨[], matching.unmatchedBefore, matching.unmatchedAfter⟩ := by
  rw [isExhausted, Bool.or_eq_true, List.isEmpty_iff, List.isEmpty_iff] at h
  rw [outcome]
  rcases h with h | h
  · rw [h, Pairing.byRank_nil_left]
  · rw [h, Pairing.byRank_nil_right]

/-- Passes that were left out would have changed nothing. -/
theorem Reached.alike (h : Reached before after passes matching) :
    matching.Alike (ofPasses before after passes) := by
  induction h with
  | fresh => exact ⟨rfl, rfl, rfl⟩
  | @step passes matching pass hreached ih =>
    rw [ofPasses_append_singleton]
    have hfull := reached_ofPasses before after passes
    refine ⟨?_, ?_, ?_⟩
    · rw [hreached.credited_step, hfull.credited_step, ih.credited_eq, ih.outcome_eq]
    · rw [unmatchedBefore_step, unmatchedBefore_step, ih.outcome_eq]
    · rw [unmatchedAfter_step, unmatchedAfter_step, ih.outcome_eq]
  | @skip passes matching pass _ hex ih =>
    rw [ofPasses_append_singleton]
    have hfull := reached_ofPasses before after passes
    -- the run that leaves out no pass has no symbol left either
    have houtcome := (ih.outcome_eq pass).symm.trans (outcome_of_isExhausted hex pass)
    refine ⟨?_, ?_, ?_⟩
    · rw [hfull.credited_step, houtcome, List.map_nil, List.append_nil, ih.credited_eq]
    · rw [unmatchedBefore_step, houtcome]
    · rw [unmatchedAfter_step, houtcome]

end BuildScope.Matching
