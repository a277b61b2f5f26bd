import BuildScope.Proofs.Deltas.Footprint
import BuildScope.Proofs.Diff.Coverage
import BuildScope.Proofs.Matching.Charges

/-!
# Conservation of Size

What the sizes of the deltas of a matching come to: the growth of the build, but for padding of
pairs that neither a delta nor a total accounts for.

* `Matching.Reached.sum_growth`: the deltas of symbols miss the padding that they do not answer for.
* `Matching.Reached.exists_totalSize`: no size overflows if the symbols leave enough room.
* `Matching.totalSize_conserved`: with the deltas of the totals, they miss lost padding only.
-/

namespace BuildScope

/-- Bytes of some symbols, padding included. -/
def Symbol.bytes (symbols : List Symbol) : Int :=
  (symbols.map fun sym => sym.size.toInt).sum

/-- What the symbols of a list count together is what the matched ones count and those left over. -/
theorem Symbol.sum_of_perm (value : Symbol → Int) {symbols : List Symbol}
    {matched unmatched : List Side} (h : (matched ++ unmatched).Perm (Side.ofList symbols)) :
    (symbols.map value).sum =
      (matched.map fun side => value side.symbol).sum +
        (unmatched.map fun side => value side.symbol).sum := by
  calc (symbols.map value).sum
      = ((Side.ofList symbols).map fun side => value side.symbol).sum := by
        conv_lhs => rw [← Side.map_symbol_ofList symbols, List.map_map]
        rfl
    _ = ((matched ++ unmatched).map fun side => value side.symbol).sum := (h.map _).sum_eq.symm
    _ = _ := by rw [List.map_append, List.sum_append]

namespace Matching

/-- What became of the symbols of a matching. -/
def changes (matching : Matching) : List Change :=
  matching.matched.map (fun sides => .matched sides.1 sides.2)
    ++ matching.unmatchedAfter.map .added
    ++ matching.unmatchedBefore.map .removed

/-- The additions that account for the padding gained. -/
def paddingChanges (matching : Matching) : List Change :=
  matching.padding.rounded.map fun gain => .added ⟨none, .ofPadding gain.1 gain.2⟩

/-- The deltas of a matching are those of its changes and of its additions of padding. -/
theorem toDeltas_eq_map {matching : Matching} {containers : List ContainerDelta} {deltas : Deltas}
    (h : matching.toDeltas containers = .ok deltas) :
    deltas = (matching.changes ++ matching.paddingChanges).map Delta.single := by
  rw [toDeltas_eq h, symbolDeltas, changes, paddingChanges]
  simp only [List.map_append, List.map_map]
  rfl

/-- What the changes of a matching count is what its pairs count and what is left over. -/
theorem sum_changes (matching : Matching) (value : Change → Int) :
    (matching.changes.map value).sum =
      (matching.matched.map fun sides => value (.matched sides.1 sides.2)).sum +
        (matching.unmatchedAfter.map fun side => value (.added side)).sum +
        (matching.unmatchedBefore.map fun side => value (.removed side)).sum := by
  rw [changes, List.map_append, List.map_append, List.sum_append, List.sum_append, List.map_map,
    List.map_map, List.map_map]
  rfl

/-! ## Sizes add up -/

/-- Pairs grow by the difference of the sizes of their sides, but for padding that their deltas do
not answer for. -/
private theorem sum_growth_matched (pairs : List (Side × Side)) :
    (pairs.map fun sides => (Change.matched sides.1 sides.2).growth).sum =
      ((pairs.map Prod.snd).map fun side => side.symbol.size.toInt).sum -
        ((pairs.map Prod.fst).map fun side => side.symbol.size.toInt).sum -
        ((pairs.filter fun sides =>
          !(Change.matched sides.1 sides.2).answersForPadding).map paddingGrowth).sum := by
  induction pairs with
  | nil => rfl
  | cons sides pairs ih =>
    simp only [List.map_cons, List.sum_cons, List.filter_cons]
    rw [ih, Change.growth_matched]
    -- the filter keeps the pair exactly if its delta leaves out the padding
    by_cases hanswers : (Change.matched sides.1 sides.2).answersForPadding
    · simp only [hanswers, Bool.not_true, Bool.false_eq_true, ↓reduceIte]
      omega
    · simp only [hanswers, Bool.not_false, Bool.false_eq_true, ↓reduceIte, List.map_cons,
        List.sum_cons, paddingGrowth]
      omega

variable {before after : List Symbol} {matching : Matching}

/-- Symbols grow by the difference of all sizes, but for padding that no delta answers for. -/
theorem Reached.sum_growth
    (h : Reached (Side.ofList before) (Side.ofList after) Pass.all matching) :
    (matching.changes.map Change.growth).sum =
      Symbol.bytes after - Symbol.bytes before - (matching.unanswered.map paddingGrowth).sum := by
  have hbefore := Symbol.sum_of_perm (fun sym => sym.size.toInt) h.perm_before
  have hafter := Symbol.sum_of_perm (fun sym => sym.size.toInt) h.perm_after
  have hremoved : (matching.unmatchedBefore.map fun side => (Change.removed side).growth).sum =
      -(matching.unmatchedBefore.map fun side => side.symbol.size.toInt).sum := by
    rw [List.sum_neg, List.map_map]
    simp [Function.comp_def]
  -- symbols that are left over count with their whole sizes, as they do in the lists
  rw [sum_changes, sum_growth_matched, ← unanswered, hremoved, Symbol.bytes, Symbol.bytes, hbefore,
    hafter]
  simp only [Change.growth_added]
  omega

/-- Exact totals grow the build by the padding that the charged pairs have gained. -/
theorem Reached.sum_growth_paddingChanges {passes : List Pass}
    (h : Reached (Side.ofList before) (Side.ofList after) passes matching)
    (hexact : matching.IsExact) :
    (matching.paddingChanges.map Change.growth).sum =
      (matching.charged.map paddingGrowth).sum := by
  rw [← h.sum_rounded hexact, paddingChanges, List.map_map]
  simp [Function.comp_def, Symbol.ofPadding]

/-! ## No size overflows -/

/-- The changes of a matching have the footprint of all symbols. -/
theorem Reached.sum_footprint {passes : List Pass}
    (h : Reached (Side.ofList before) (Side.ofList after) passes matching) :
    (matching.changes.map fun change => change.sides.footprint).sum =
      Symbol.footprints before + Symbol.footprints after := by
  have hbefore := Symbol.sum_of_perm Symbol.footprint h.perm_before
  have hafter := Symbol.sum_of_perm Symbol.footprint h.perm_after
  rw [sum_changes, Symbol.footprints, Symbol.footprints, hbefore, hafter]
  simp only [Change.sides, Sides.footprint, Option.map_some, Option.map_none, Option.getD_some,
    Option.getD_none, List.sum_map_add, zero_add, add_zero, List.map_map, Function.comp_def]
  omega

/-- The charged pairs gain or lose no more padding than the footprint of all symbols. -/
theorem Reached.sum_natAbs_charged_le {passes : List Pass}
    (h : Reached (Side.ofList before) (Side.ofList after) passes matching) :
    (matching.charged.map fun sides => ((paddingGrowth sides).natAbs : Int)).sum ≤
      Symbol.footprints before + Symbol.footprints after := by
  -- other changes have footprints as well, which only makes the bound larger
  have hsublist : (matching.charged.map fun sides => Change.matched sides.1 sides.2).Sublist
      matching.changes := by
    refine ((charged_sublist h).map _).trans ?_
    rw [changes, List.append_assoc]
    exact List.sublist_append_left _ _
  have hnonneg : ∀ n ∈ matching.changes.map fun change => change.sides.footprint, 0 ≤ n := by
    intro n hn
    obtain ⟨change, -, rfl⟩ := List.mem_map.1 hn
    exact change.sides.footprint_nonneg
  calc (matching.charged.map fun sides => ((paddingGrowth sides).natAbs : Int)).sum
      ≤ (matching.charged.map fun sides => (Change.matched sides.1 sides.2).sides.footprint).sum :=
        List.sum_le_sum fun sides _ => Sides.natAbs_difference_le Symbol.natAbs_padding_le
    _ ≤ (matching.changes.map fun change => change.sides.footprint).sum := by
        have hle := (hsublist.map fun change => change.sides.footprint).sum_le_sum hnonneg
        rwa [List.map_map] at hle
    _ = Symbol.footprints before + Symbol.footprints after := h.sum_footprint

/-- If twice the footprint of all symbols fits, exact totals leave room for the total size. -/
theorem Reached.exists_totalSize {passes : List Pass}
    (h : Reached (Side.ofList before) (Side.ofList after) passes matching)
    (hexact : matching.IsExact)
    (hfits : 2 * (Symbol.footprints before + Symbol.footprints after) < 0x8000000000000000) :
    ∃ total, Deltas.totalSize ((matching.changes ++ matching.paddingChanges).map Delta.single) =
      .ok total := by
  have hchanges := h.sum_footprint
  have hpadding := (h.sum_natAbs_rounded_le hexact).trans h.sum_natAbs_charged_le
  have hchange : ∀ change ∈ matching.changes,
      change.sides.footprint ≤ Symbol.footprints before + Symbol.footprints after := by
    intro change hmem
    rw [← hchanges]
    refine List.single_le_sum ?_ _ (List.mem_map_of_mem hmem)
    intro n hn
    obtain ⟨other, -, rfl⟩ := List.mem_map.1 hn
    exact other.sides.footprint_nonneg
  have hgain : ∀ gain ∈ matching.padding.rounded,
      (gain.2.toInt.natAbs : Int) ≤ Symbol.footprints before + Symbol.footprints after := by
    intro gain hmem
    have hlisted := List.mem_map_of_mem
      (f := fun gain : Segment × Int64 => (gain.2.toInt.natAbs : Int)) hmem
    refine (List.single_le_sum ?_ _ hlisted).trans hpadding
    intro n hn
    obtain ⟨other, -, rfl⟩ := List.mem_map.1 hn
    exact Int.natCast_nonneg _
  -- symbols and totals each stay within the footprint, so that both together need it twice
  apply Deltas.exists_totalSize
  · intro change hmem
    apply Change.exists_size
    obtain hmem | hmem := List.mem_append.1 hmem
    · have hle := hchange change hmem
      have hnonneg := change.sides.footprint_nonneg
      omega
    · -- the size of an addition of padding is all padding
      obtain ⟨gain, hgain', rfl⟩ := List.mem_map.1 hmem
      have hle := hgain gain hgain'
      simp only [Change.sides, Sides.footprint, Symbol.footprint, Symbol.ofPadding,
        Option.map_none, Option.getD_none, Option.map_some, Option.getD_some]
      omega
  · have hsymbols : (matching.changes.map fun change => (change.growth.natAbs : Int)).sum ≤
        Symbol.footprints before + Symbol.footprints after := by
      rw [← hchanges]
      exact List.sum_le_sum fun change _ => change.natAbs_growth_le
    have hrounded : (matching.paddingChanges.map fun change => (change.growth.natAbs : Int)).sum ≤
        Symbol.footprints before + Symbol.footprints after := by
      rw [paddingChanges, List.map_map]
      simpa [Function.comp_def, Symbol.ofPadding] using hpadding
    rw [List.map_append, List.sum_append]
    omega

/-- The sizes of the deltas of a matching come to the growth of the build without the padding gained
by pairs that neither a delta nor a total accounts for. If all pairs share the first key, they come
to the growth of the build. Their sum can be computed if twice the footprint of all symbols fits. -/
theorem totalSize_conserved {containers : List ContainerDelta} {deltas : Deltas}
    (hmatching : ofSymbols before after = .ok matching)
    (hplain : ∀ sym ∈ after, sym.isOverhead = false) (hexact : matching.IsExact)
    (hdeltas : matching.toDeltas containers = .ok deltas) :
    (∀ total, deltas.totalSize = .ok total →
      total.toInt = Symbol.bytes after - Symbol.bytes before -
          (matching.lost.map paddingGrowth).sum ∧
        ((∀ sides ∈ matching.matched,
            Pass.exact.key sides.1.symbol = Pass.exact.key sides.2.symbol) →
          total.toInt = Symbol.bytes after - Symbol.bytes before)) ∧
      (2 * (Symbol.footprints before + Symbol.footprints after) < 0x8000000000000000 →
        ∃ total, deltas.totalSize = .ok total) := by
  have hreached := reached_of_ofSymbols hmatching
  obtain rfl := toDeltas_eq_map hdeltas
  refine ⟨fun total htotal => ?_, hreached.exists_totalSize hexact⟩
  -- what no delta answers for comes back with the totals, unless it is lost
  have hunanswered := hreached.sum_unanswered fun side hside =>
    hplain _ (Side.symbol_mem_of_mem_ofList hside)
  have hgrowth : total.toInt = Symbol.bytes after - Symbol.bytes before -
      (matching.lost.map paddingGrowth).sum := by
    rw [Deltas.toInt_of_totalSize_eq_ok htotal, List.map_append, List.sum_append,
      hreached.sum_growth, hreached.sum_growth_paddingChanges hexact, hunanswered]
    omega
  refine ⟨hgrowth, fun hkeys => ?_⟩
  have hlost : matching.lost = [] := by
    rw [lost, List.filter_eq_nil_iff]
    intro sides hsides
    simp [hkeys sides hsides]
  rw [hgrowth, hlost, List.map_nil, List.sum_nil, sub_zero]

/-- A table gains two bytes of padding, which a total has. A function that has grown gains two as
well, which are lost. -/
theorem totalSize_conserved_of_resized :
    let table : Symbol :=
      { containerName := "lib", sectionName := ".text", size := 10, padding := 2
        fullName := "table" }
    let short : Symbol := { table with size := 8, padding := 1, fullName := "main" }
    let before := [table, short]
    let after := [{ table with size := 12, padding := 4 }, { short with size := 20, padding := 3 },
      { table with fullName := "new" }]
    ∃ matching deltas, ofSymbols before after = .ok matching ∧
      (∀ sym ∈ after, sym.isOverhead = false) ∧ matching.IsExact ∧
      matching.toDeltas [⟨"lib", "", none, none⟩] = .ok deltas ∧ deltas.totalSize = .ok 22 ∧
      (matching.lost.map paddingGrowth).sum = 2 ∧
      (22 : Int64).toInt = Symbol.bytes after - Symbol.bytes before -
        (matching.lost.map paddingGrowth).sum := by
  intro table short before after
  have hplain : ∀ sym ∈ after, sym.isOverhead = false := by decide
  obtain ⟨matching, hok, hparts⟩ := Ranking.exists_parts_eq
    (by decide : ∀ sym ∈ before, sym.Fits) (by decide : ∀ sym ∈ after, sym.Fits)
    (by decide +kernel : _ =
      { matched := [(⟨some 0, table⟩, ⟨some 0, { table with size := 12, padding := 4 }⟩),
          (⟨some 1, short⟩, ⟨some 1, { short with size := 20, padding := 3 }⟩)]
        unmatchedAfter := [⟨some 2, { table with fullName := "new" }⟩]
        rounded := [(⟨"lib", ".text"⟩, 2)] })
  obtain ⟨hmatched, hremoved, hadded, hrounded⟩ := Parts.mk.inj hparts
  have hreached := reached_of_ofSymbols hok
  have hcharged : matching.charged =
      [(⟨some 0, table⟩, ⟨some 0, { table with size := 12, padding := 4 }⟩)] := by
    rw [charged, hreached.tracked_eq, hmatched]
    decide
  have hpadding : matching.padding =
      ({} : PaddingTotals).add ⟨"lib", ".text"⟩
        (Float.ofInt 4 / Float.ofNat 1 - Float.ofInt 2 / Float.ofNat 1) := by
    rw [hreached.padding_eq, gains_eq_map_charged, hcharged]
    rfl
  -- the only total is that of the code, and two bytes as a double
  have hexact : matching.IsExact := by
    intro segment total htotal
    rw [hpadding] at htotal
    rw [hcharged]
    by_cases hsegment : ⟨"lib", ".text"⟩ = segment
    · subst hsegment
      rw [PaddingTotals.get?_add_self, PaddingTotals.get?_empty] at htotal
      cases htotal
      decide +kernel
    · rw [PaddingTotals.get?_add_of_ne _ _ hsegment, PaddingTotals.get?_empty] at htotal
      cases htotal
  have hlost : (matching.lost.map paddingGrowth).sum = 2 := by
    rw [lost, hmatched]
    decide
  have hsymbols : matching.symbolDeltas =
      [.matched ⟨some 0, table⟩ ⟨some 0, { table with size := 12, padding := 4 }⟩,
        .matched ⟨some 1, short⟩ ⟨some 1, { short with size := 20, padding := 3 }⟩,
        .added ⟨some 2, { table with fullName := "new" }⟩] := by
    rw [symbolDeltas, hmatched, hadded, hremoved]
    rfl
  have hdeltas : matching.toDeltas [⟨"lib", "", none, none⟩] =
      .ok (matching.symbolDeltas ++ [Delta.ofPadding (⟨"lib", ".text"⟩, 2)]) := by
    rw [toDeltas, PaddingTotals.toSymbols, hrounded]
    rfl
  have htotal :
      Deltas.totalSize (matching.symbolDeltas ++ [Delta.ofPadding (⟨"lib", ".text"⟩, 2)]) =
        .ok 22 := by
    rw [hsymbols]
    decide +kernel
  exact ⟨matching, _, hok, hplain, hexact, hdeltas, htotal, hlost,
    ((totalSize_conserved hok hplain hexact hdeltas).1 22 htotal).1⟩

end Matching

end BuildScope
