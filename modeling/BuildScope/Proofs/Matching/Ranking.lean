import BuildScope.Proofs.Matching.Passes

/-!
# Matching by Ranks

A matching said without queues: every pass runs, whatever is left, and pairs the symbols that have
the same key and rank among those left over. The pairs of the exact pass gain padding for the
segments of their old symbols. Stopping early, as a matching does once one side has no symbol left,
cannot be told from the pairs, from what is left, nor from the padding gains.

* `Ranking.ofSymbols`: the pairs that all passes make by key and rank.
* `Ranking.gainsOf`: the padding that pairs gain, and for which segments.
* `Ranking.Describes`: a matching has the pairs, leftovers and padding gains of a ranking.
* `Ranking.describes_ofSymbols`: the matching of two lists of symbols is the one by ranks.
* `Ranking.exists_parts_eq`: what becomes deltas can be computed by ranks.
-/

namespace BuildScope

/-- Symbols paired by keys and ranks, with the padding gains in the order in which they count. -/
structure Ranking where
  /-- Pairs, in the order of the passes and, within a pass, of the new build. -/
  matched : List (Side × Side) := []
  /-- Symbols of the old build that nothing matched, in order. -/
  unmatchedBefore : List Side
  /-- Symbols of the new build that nothing matched, in order. -/
  unmatchedAfter : List Side
  /-- Padding gained by the pairs of the exact pass, in order. -/
  gains : List (Segment × Float) := []

namespace Ranking

/-- The padding that some pairs gain, in their order. A pair whose old symbol has bytes besides its
padding gains, for the segment of that symbol, what the new share of the padding is larger by. The
other pairs gain nothing. -/
def gainsOf (pairs : List (Side × Side)) : List (Segment × Float) :=
  (pairs.filter fun sides => sides.1.symbol.sizeWithoutPadding ≠ .ok 0).map fun sides =>
    (⟨sides.1.symbol.containerName, sides.1.symbol.sectionName⟩,
      sides.2.symbol.paddingPss - sides.1.symbol.paddingPss)

/-- Pair the symbols left over that have the same key of a pass and the same rank. Only the pairs of
the exact pass gain padding. -/
def step (ranking : Ranking) (pass : Pass) : Ranking :=
  let outcome := Pairing.byRank (fun side => pass.key side.symbol) ranking.unmatchedBefore
    ranking.unmatchedAfter
  { matched := ranking.matched ++ outcome.pairs
    unmatchedBefore := outcome.before
    unmatchedAfter := outcome.after
    gains := ranking.gains ++ if pass = .exact then gainsOf outcome.pairs else [] }

/-- Let some passes run on two lists, one after the other. -/
def ofPasses (before after : List Side) (passes : List Pass) : Ranking :=
  passes.foldl step { unmatchedBefore := before, unmatchedAfter := after }

/-- Let all passes run on two lists of symbols. -/
def ofSymbols (before after : List Symbol) : Ranking :=
  ofPasses (Side.ofList before) (Side.ofList after) Pass.all

/-- A matching has the pairs, the leftovers and the padding gains of a ranking. -/
structure Describes (ranking : Ranking) (matching : Matching) : Prop where
  /-- The pairs are the same, in the same order. -/
  matched_eq : matching.matched = ranking.matched
  /-- The same symbols of the old build are left over, in the same order. -/
  unmatchedBefore_eq : matching.unmatchedBefore = ranking.unmatchedBefore
  /-- The same symbols of the new build are left over, in the same order. -/
  unmatchedAfter_eq : matching.unmatchedAfter = ranking.unmatchedAfter
  /-- The same padding gains are added up, in the same order. -/
  gains_eq : matching.gains = ranking.gains
  /-- The padding is what these gains add up to. -/
  padding_eq : matching.padding = ({} : PaddingTotals).addAll ranking.gains

variable {before after : List Side} {passes : List Pass} {matching : Matching}

/-- The gains of pairs are those that a matching adds up. -/
theorem gainsOf_eq_filterMap (pairs : List (Side × Side)) :
    gainsOf pairs = pairs.filterMap Matching.paddingGain? := by
  rw [gainsOf, ← List.filterMap_eq_map, List.filterMap_filter]
  apply List.filterMap_congr
  rintro ⟨b, a⟩ -
  by_cases hsize : b.symbol.size = b.symbol.padding
  · simp [Matching.paddingGain?, Symbol.sizeWithoutPadding_eq_ok_zero_iff, hsize]
  · simp [Matching.paddingGain?, Symbol.sizeWithoutPadding_eq_ok_zero_iff, hsize]

theorem ofPasses_append_singleton (before after : List Side) (passes : List Pass) (pass : Pass) :
    ofPasses before after (passes ++ [pass]) = (ofPasses before after passes).step pass := by
  rw [ofPasses, List.foldl_append, ← ofPasses, List.foldl_cons, List.foldl_nil]

/-- A pass changes nothing once one side has no symbol left. -/
theorem step_eq_self {ranking : Ranking}
    (h : ranking.unmatchedBefore = [] ∨ ranking.unmatchedAfter = []) (pass : Pass) :
    ranking.step pass = ranking := by
  obtain ⟨matched, unmatchedBefore, unmatchedAfter, gains⟩ := ranking
  obtain rfl | rfl := h
  · simp [step, gainsOf]
  · simp [step, gainsOf]

/-- What passes lead to is what they pair by keys and ranks, also those that are left out. -/
theorem describes_of_reached (h : Matching.Reached before after passes matching) :
    (ofPasses before after passes).Describes matching := by
  induction h with
  | fresh => exact ⟨rfl, rfl, rfl, rfl, rfl⟩
  | @step passes matching pass hreached ih =>
    rw [ofPasses_append_singleton]
    -- both sides let the pass run on the same leftovers
    have houtcome : Pairing.byRank (fun side => pass.key side.symbol)
        (ofPasses before after passes).unmatchedBefore
        (ofPasses before after passes).unmatchedAfter = matching.outcome pass := by
      rw [Matching.outcome, ih.unmatchedBefore_eq, ih.unmatchedAfter_eq]
    have hgains :
        (matching.step pass).gains = ((ofPasses before after passes).step pass).gains := by
      rw [Matching.gains, hreached.tracked_step, List.filterMap_append, ← Matching.gains,
        ih.gains_eq, step, houtcome, Pass.tracksPadding_eq, gainsOf_eq_filterMap]
      by_cases hexact : pass = .exact
      · simp [hexact]
      · simp [hexact]
    refine ⟨?_, ?_, ?_, hgains, ?_⟩
    · rw [Matching.matched_step, ih.matched_eq, step, houtcome]
    · rw [Matching.unmatchedBefore_step, step, houtcome]
    · rw [Matching.unmatchedAfter_step, step, houtcome]
    · rw [(hreached.step pass).padding_eq, hgains]
  | @skip passes matching pass hreached hex ih =>
    -- the pass runs on one side only
    rw [ofPasses_append_singleton, step_eq_self]
    · exact ih
    · simpa [Matching.isExhausted, ih.unmatchedBefore_eq, ih.unmatchedAfter_eq] using hex

/-- The matching of two lists of symbols is the one by ranks. -/
theorem describes_of_eq_ok {before after : List Symbol}
    (h : Matching.ofSymbols before after = .ok matching) :
    (ofSymbols before after).Describes matching :=
  describes_of_reached (Matching.reached_of_ofSymbols h)

/-- Symbols whose sizes fit have a matching, and it is the one by ranks. -/
theorem describes_ofSymbols {before after : List Symbol} (hbefore : ∀ sym ∈ before, sym.Fits)
    (hafter : ∀ sym ∈ after, sym.Fits) :
    ∃ matching, Matching.ofSymbols before after = .ok matching ∧
      (ofSymbols before after).Describes matching := by
  obtain ⟨matching, hok, -⟩ := Matching.exists_reached_of_fits hbefore hafter
  exact ⟨matching, hok, describes_of_eq_ok hok⟩

/-- The ranking leaves the later of two equal symbols over, and so does the matching. -/
theorem describes_ofSymbols_of_tie :
    let text : Symbol := { sectionName := ".rodata", size := 4, fullName := "\"text\"" }
    (∀ sym ∈ [text, text], sym.Fits) ∧ (∀ sym ∈ [text], sym.Fits) ∧
      (ofSymbols [text, text] [text]).unmatchedBefore = [⟨some 1, text⟩] ∧
      ∃ matching, Matching.ofSymbols [text, text] [text] = .ok matching ∧
        (ofSymbols [text, text] [text]).Describes matching :=
  ⟨by decide, by decide, by decide, describes_ofSymbols (by decide) (by decide)⟩

end Ranking

/-! ## What becomes deltas -/

/-- The parts of a matching that become deltas. -/
structure Matching.Parts where
  /-- The pairs. -/
  matched : List (Side × Side)
  /-- The symbols of the old build that nothing matched. -/
  unmatchedBefore : List Side := []
  /-- The symbols of the new build that nothing matched. -/
  unmatchedAfter : List Side := []
  /-- The padding gained by segments, in whole bytes. -/
  rounded : List (Segment × Int64) := []
  deriving DecidableEq

/-- The parts of a matching. -/
def Matching.parts (matching : Matching) : Parts :=
  ⟨matching.matched, matching.unmatchedBefore, matching.unmatchedAfter, matching.padding.rounded⟩

namespace Ranking

/-- The parts of the matching that a ranking describes. -/
def parts (ranking : Ranking) : Matching.Parts :=
  ⟨ranking.matched, ranking.unmatchedBefore, ranking.unmatchedAfter,
    (({} : PaddingTotals).addAll ranking.gains).rounded⟩

theorem Describes.parts_eq {ranking : Ranking} {matching : Matching}
    (h : ranking.Describes matching) : matching.parts = ranking.parts := by
  rw [Matching.parts, h.matched_eq, h.unmatchedBefore_eq, h.unmatchedAfter_eq, h.padding_eq, parts]

/-- Symbols whose sizes fit have a matching, with the parts that their ranking has. -/
theorem exists_parts_eq {before after : List Symbol} {parts : Matching.Parts}
    (hbefore : ∀ sym ∈ before, sym.Fits) (hafter : ∀ sym ∈ after, sym.Fits)
    (hparts : (ofSymbols before after).parts = parts) :
    ∃ matching, Matching.ofSymbols before after = .ok matching ∧ matching.parts = parts := by
  obtain ⟨matching, hok, -⟩ := Matching.exists_reached_of_fits hbefore hafter
  exact ⟨matching, hok, (describes_of_eq_ok hok).parts_eq.trans hparts⟩

end Ranking

end BuildScope
