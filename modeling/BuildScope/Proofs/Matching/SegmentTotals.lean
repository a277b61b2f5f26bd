import BuildScope.Proofs.Matching.Charges
import BuildScope.Proofs.Matching.Ranking

/-!
# Totals of the Segments

Which pairs the padding total of a segment is made of. It can be told from the pairs of a matching
alone, whichever pass has made them: a pair whose symbols share the first key is never left to a
later pass, so that the pairs of the later passes count nowhere.

* `Matching.CountsFor`: the pairs that count for a segment.
* `Matching.ofSymbols_totals`: a segment has a total exactly if some pair counts for it, and the
  total is what these pairs have gained.
-/

namespace BuildScope

namespace Matching

/-! ## Pairs that count for a segment -/

/-- A pair counts for a segment: its symbols share the first key, and the old one lies in the
segment and has bytes besides its padding. -/
def CountsFor (segment : Segment) (sides : Side × Side) : Prop :=
  Pass.exact.key sides.1.symbol = Pass.exact.key sides.2.symbol ∧
    sides.1.symbol.containerName = segment.container ∧
    sides.1.symbol.sectionName = segment.sectionName ∧
    sides.1.symbol.sizeWithoutPadding ≠ .ok 0

instance (segment : Segment) : DecidablePred (CountsFor segment) :=
  fun _ => inferInstanceAs (Decidable (_ ∧ _))

/-- The pairs of a matching that count for a segment, in order. -/
def countingFor (matching : Matching) (segment : Segment) : List (Side × Side) :=
  matching.matched.filter fun sides => CountsFor segment sides

/-- The padding total of a segment is made of the pairs that count for it. -/
structure IsTotalled (after : List Side) (matching : Matching) (segment : Segment) : Prop where
  /-- There is a total exactly if some pair counts. -/
  isSome_iff : (matching.padding.get? segment).isSome ↔
    ∃ sides ∈ matching.matched, CountsFor segment sides
  /-- The total is the padding that the pairs have gained, added up in their order from zero. -/
  total_eq : ∀ total, matching.padding.get? segment = some total →
    total = ((matching.countingFor segment).map fun sides =>
      sides.2.symbol.paddingPss - sides.1.symbol.paddingPss).foldl (· + ·) 0
  /-- Their order is that of the new build. -/
  in_order : ((matching.countingFor segment).map Prod.snd).Sublist after
  /-- Pairs made by other passes than the first do not count. -/
  made_by_exact : ∀ pair ∈ matching.credited, CountsFor segment pair.2 → pair.1 = .exact

variable {before after : List Side} {matching : Matching} {segment : Segment}

/-- Which pairs count, in the terms of the charges. -/
theorem countsFor_iff {sides : Side × Side} :
    CountsFor segment sides ↔ Pass.exact.key sides.1.symbol = Pass.exact.key sides.2.symbol ∧
      sides.1.symbol.size ≠ sides.1.symbol.padding ∧ chargedTo sides = segment := by
  obtain ⟨container, sectionName⟩ := segment
  rw [chargedTo, paddingDrift, Segment.mk.injEq, CountsFor, ne_eq,
    Symbol.sizeWithoutPadding_eq_ok_zero_iff]
  tauto

namespace Reached

/-- The pairs that count for a segment are those whose gain is charged to it. -/
theorem countingFor_eq (h : Reached before after Pass.all matching) (segment : Segment) :
    matching.countingFor segment =
      matching.charged.filter fun sides => chargedTo sides = segment := by
  rw [countingFor, charged, h.tracked_eq, List.filter_filter, List.filter_filter]
  apply List.filter_congr
  intro sides _
  rw [Bool.eq_iff_iff, decide_eq_true_iff, countsFor_iff]
  simp only [Bool.and_eq_true, decide_eq_true_eq]
  tauto

/-- The gains added to a segment are those of the pairs that count for it. -/
theorem gainsOf_gains (h : Reached before after Pass.all matching) (segment : Segment) :
    PaddingTotals.gainsOf segment matching.gains =
      (matching.countingFor segment).map fun sides =>
        sides.2.symbol.paddingPss - sides.1.symbol.paddingPss := by
  rw [h.countingFor_eq, PaddingTotals.gainsOf, gains_eq_map_charged, List.filter_map,
    List.map_map]
  rfl

/-- The padding total of a segment, from the pairs that count for it. -/
theorem get?_padding (h : Reached before after Pass.all matching) (segment : Segment) :
    matching.padding.get? segment =
      if matching.countingFor segment = [] then none
      else some (((matching.countingFor segment).map fun sides =>
        sides.2.symbol.paddingPss - sides.1.symbol.paddingPss).foldl (· + ·) 0) := by
  rw [h.padding_eq, PaddingTotals.get?_addAll, h.gainsOf_gains, PaddingTotals.get?_empty]
  simp only [List.map_eq_nil_iff, Option.getD_none]

/-- The pairs that count for a segment come in the order of the new build. -/
theorem countingFor_sublist (h : Reached before after Pass.all matching) (segment : Segment) :
    ((matching.countingFor segment).map Prod.snd).Sublist after := by
  have htracked : (matching.tracked.map Prod.snd).Sublist after := by
    rw [tracked, List.map_map, List.filter_congr fun pair _ => Pass.tracksPadding_eq pair.1]
    exact h.ordered.after_sublist .exact
  have hcounting : (matching.countingFor segment).Sublist matching.tracked := by
    rw [h.countingFor_eq]
    exact List.filter_sublist.trans List.filter_sublist
  exact (hcounting.map Prod.snd).trans htracked

/-- Every segment is totalled once all passes have run. -/
theorem isTotalled (h : Reached before after Pass.all matching) (segment : Segment) :
    IsTotalled after matching segment where
  isSome_iff := by
    have hnil : matching.countingFor segment ≠ [] ↔
        ∃ sides ∈ matching.matched, CountsFor segment sides := by
      rw [countingFor, ne_eq, List.filter_eq_nil_iff]
      simp
    rw [h.get?_padding, ← hnil]
    split
    next hempty => simp [hempty]
    next hsome => simp [hsome]
  total_eq total htotal := by
    rw [h.get?_padding] at htotal
    split at htotal
    · cases htotal
    · exact (Option.some.inj htotal).symm
  in_order := h.countingFor_sublist segment
  made_by_exact _ hpair hcounts := h.eq_exact_of_key_eq hpair hcounts.1

end Reached

/-- The padding of a matching is made of the pairs that share the first key, segment by segment. -/
theorem ofSymbols_totals {before after : List Symbol} (hbefore : ∀ sym ∈ before, sym.Fits)
    (hafter : ∀ sym ∈ after, sym.Fits) :
    ∃ matching, ofSymbols before after = .ok matching ∧
      ∀ container sectionName,
        IsTotalled (Side.ofList after) matching ⟨container, sectionName⟩ := by
  obtain ⟨matching, hok, hreached⟩ := exists_reached_of_fits hbefore hafter
  exact ⟨matching, hok, fun container sectionName => hreached.isTotalled ⟨container, sectionName⟩⟩

/-- A table whose section is spelled in another way counts for the old spelling, and one that has
grown as well counts nowhere. -/
theorem ofSymbols_totals_of_spellings :
    let table : Symbol :=
      { containerName := "lib", sectionName := ".data.rel.ro", size := 10, padding := 2
        fullName := "table" }
    let respelled : Symbol :=
      { table with sectionName := ".data.rel.ro.local", size := 13, padding := 5 }
    let code : Symbol :=
      { containerName := "lib", sectionName := ".text", size := 20, padding := 1
        fullName := "main" }
    let grown : Symbol := { code with size := 40, padding := 8 }
    (∀ sym ∈ [code, table], sym.Fits) ∧ (∀ sym ∈ [respelled, grown], sym.Fits) ∧
      ∃ matching, ofSymbols [code, table] [respelled, grown] = .ok matching ∧
        matching.matched.length = 2 ∧
        matching.padding.get? ⟨"lib", ".data.rel.ro"⟩ =
          some (0 + (respelled.paddingPss - table.paddingPss)) ∧
        matching.padding.get? ⟨"lib", ".data.rel.ro.local"⟩ = none ∧
        matching.padding.get? ⟨"lib", ".text"⟩ = none := by
  intro table respelled code grown
  have hbefore : ∀ sym ∈ [code, table], sym.Fits := by decide
  have hafter : ∀ sym ∈ [respelled, grown], sym.Fits := by decide
  obtain ⟨matching, hok, htotals⟩ := ofSymbols_totals hbefore hafter
  -- the pair of a later pass comes behind the exact one
  have hmatched : matching.matched =
      [(⟨some 1, table⟩, ⟨some 0, respelled⟩), (⟨some 0, code⟩, ⟨some 1, grown⟩)] := by
    rw [(Ranking.describes_of_eq_ok hok).matched_eq]
    decide
  have hnone : ∀ segment, (¬ ∃ sides ∈ matching.matched, CountsFor segment sides) →
      IsTotalled (Side.ofList [respelled, grown]) matching segment →
      matching.padding.get? segment = none := by
    intro segment hcounts htotalled
    rw [← htotalled.isSome_iff, Bool.not_eq_true, Option.isSome_eq_false_iff] at hcounts
    exact Option.isNone_iff_eq_none.1 hcounts
  refine ⟨hbefore, hafter, matching, hok, by rw [hmatched]; rfl, ?_, ?_, ?_⟩
  · have htable := htotals "lib" ".data.rel.ro"
    have hsome : (matching.padding.get? ⟨"lib", ".data.rel.ro"⟩).isSome := by
      rw [htable.isSome_iff, hmatched]
      exact ⟨_, List.mem_cons_self, by decide⟩
    obtain ⟨total, htotal⟩ := Option.isSome_iff_exists.1 hsome
    have hcounting : matching.countingFor ⟨"lib", ".data.rel.ro"⟩ =
        [(⟨some 1, table⟩, ⟨some 0, respelled⟩)] := by
      rw [countingFor, hmatched]
      decide
    rw [htotal, htable.total_eq total htotal, hcounting]
    rfl
  · exact hnone _ (by rw [hmatched]; decide) (htotals _ _)
  · exact hnone _ (by rw [hmatched]; decide) (htotals _ _)

end Matching

end BuildScope
