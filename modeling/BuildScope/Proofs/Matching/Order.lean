import BuildScope.Proofs.Matching.Passes

/-!
# Order of a Matching

In which order a matching lists its pairs and what is left over. The pairs come pass by pass, those
of a pass in the order of the new build, and the symbols left over in the order of their builds.

* `Matching.Ordered`: the lists of a matching are in this order.
* `Matching.Reached.ordered`: those of a matching that passes have led to are.
-/

namespace BuildScope

theorem Pass.mem_all (pass : Pass) : pass ∈ Pass.all := by
  cases pass <;> decide

namespace Matching

/-- Passes are listed by their ranks. -/
def InOrder (passes : List Pass) : Prop :=
  passes.Pairwise fun p q => p.rank < q.rank

theorem inOrder_all : InOrder Pass.all := by
  unfold InOrder
  decide

/-- The lists of a matching are in the order of the passes and of the two builds. -/
structure Ordered (before after : List Side) (matching : Matching) : Prop where
  /-- Each pair is credited to a pass. -/
  credited_eq : matching.credited.map Prod.snd = matching.matched
  /-- The pairs of a pass come before those of later passes. -/
  rank_le : matching.credited.Pairwise fun p q => p.1.rank ≤ q.1.rank
  /-- The pairs of a pass come in the order of the new build. -/
  after_sublist : ∀ pass : Pass,
    ((matching.credited.filter fun pair => pair.1 = pass).map fun pair => pair.2.2).Sublist after
  /-- Symbols of the old build that are left over come in their order. -/
  unmatchedBefore_sublist : matching.unmatchedBefore.Sublist before
  /-- Symbols of the new build that are left over come in their order. -/
  unmatchedAfter_sublist : matching.unmatchedAfter.Sublist after

variable {before after : List Side} {passes : List Pass} {matching : Matching}

/-- A list in order is so without its last pass. -/
theorem InOrder.of_append {more : List Pass} (h : InOrder (passes ++ more)) : InOrder passes :=
  (List.pairwise_append.1 h).1

/-- The last pass of a list in order has the highest rank. -/
theorem InOrder.rank_lt_last {last pass : Pass} (h : InOrder (passes ++ [last]))
    (hpass : pass ∈ passes) : pass.rank < last.rank :=
  (List.pairwise_append.1 h).2.2 pass hpass last (List.mem_singleton_self last)

namespace Reached

/-- The pairs of a pass come before those of later passes. -/
theorem pairwise_rank_le (h : Reached before after passes matching) (hranks : InOrder passes) :
    matching.credited.Pairwise fun p q => p.1.rank ≤ q.1.rank := by
  induction h with
  | fresh => exact List.Pairwise.nil
  | @step passes matching last hreached ih =>
    rw [hreached.credited_step, List.pairwise_append]
    refine ⟨ih hranks.of_append, ?_, ?_⟩
    · rw [List.pairwise_map]
      exact List.pairwise_of_forall fun _ _ => Nat.le_refl _
    · intro old hold new hnew
      obtain ⟨sides, -, rfl⟩ := List.mem_map.1 hnew
      exact Nat.le_of_lt (hranks.rank_lt_last (hreached.mem_passes_of_mem_credited hold))
  | skip _ _ _ ih => exact ih hranks.of_append

/-- The pairs of a pass come in the order of the new build. -/
theorem credited_after_sublist (h : Reached before after passes matching)
    (hranks : InOrder passes) (pass : Pass) :
    ((matching.credited.filter fun pair => pair.1 = pass).map fun pair => pair.2.2).Sublist
      after := by
  induction h with
  | fresh => exact List.nil_sublist after
  | @step passes matching last hreached ih =>
    rw [hreached.credited_step, List.filter_append, List.map_append, List.filter_map, List.map_map]
    by_cases hlast : last = pass
    · subst hlast
      -- no pass runs twice
      have hold : (matching.credited.filter fun pair => pair.1 = last) = [] := by
        rw [List.filter_eq_nil_iff]
        intro pair hpair
        have hlt := hranks.rank_lt_last (hreached.mem_passes_of_mem_credited hpair)
        simp only [decide_eq_true_eq]
        rintro rfl
        exact Nat.lt_irrefl _ hlt
      rw [hold, List.map_nil, List.nil_append]
      have hnew := (matching.outcome_pairs_sublist last).trans hreached.unmatchedAfter_sublist
      simpa [Function.comp_def] using hnew
    · simpa [Function.comp_def, hlast] using ih hranks.of_append
  | skip _ _ _ ih => exact ih hranks.of_append

/-- The lists of a matching that all passes have led to are in order. -/
theorem ordered (h : Reached before after Pass.all matching) : Ordered before after matching where
  credited_eq := h.map_snd_credited
  rank_le := h.pairwise_rank_le inOrder_all
  after_sublist := h.credited_after_sublist inOrder_all
  unmatchedBefore_sublist := h.unmatchedBefore_sublist
  unmatchedAfter_sublist := h.unmatchedAfter_sublist

end Reached

end Matching

end BuildScope
