import BuildScope.Proofs.Deltas.Totals
import BuildScope.Proofs.Diff.Composition
import BuildScope.Proofs.Diff.ContainerLists

/-!
# Summaries of Diffs

The totals of a diff come from three walks through its deltas, and from its containers. They agree
with each other: the sections add up to the total size, the counts to the number of deltas, and no
container is both added and removed.

* `DiffSummary.Describes`: what the totals of a diff are.
* `Diff.summary_describes`: a summary that can be computed has these totals.
-/

namespace BuildScope

open ContainerDelta (map_name_filter_isAdded map_name_filter_isRemoved mem_namesOnlyIn_iff
  namesOnlyIn)

/-- Some totals are those of the deltas of two snapshots. -/
structure DiffSummary.Describes (summary : DiffSummary) (before after : Snapshot)
    (deltas : Deltas) : Prop where
  /-- The size of each delta is known. -/
  exists_size : ∀ delta ∈ deltas, ∃ size, delta.size = .ok size
  /-- The sections are those of the newer sides of the deltas. -/
  mem_sections_iff : ∀ name, name ∈ summary.sectionDeltas.toList.map Prod.fst ↔
    ∃ delta ∈ deltas, ∃ side, delta.sides.newer? = some side ∧ side.symbol.sectionName = name
  /-- They are listed in the order of the bytes of their names, each once. -/
  sections_sorted : summary.sectionDeltas.toList.Pairwise fun a b => Text.bytes a.1 < Text.bytes b.1
  /-- The change of a section is the sum of the sizes of its deltas. -/
  section_eq : ∀ name total, (name, total) ∈ summary.sectionDeltas.toList →
    total.toInt = ((deltas.inSection name).map Delta.bytes).sum
  /-- The total change is the sum of all sizes. -/
  sizeDelta_eq : summary.sizeDelta.toInt = (deltas.map Delta.bytes).sum
  /-- The changes of the sections add up to it. -/
  sum_sections_eq :
    (summary.sectionDeltas.toList.map fun total => total.2.toInt).sum = summary.sizeDelta.toInt
  /-- The counts add up to the number of deltas. -/
  total_counts_eq : summary.counts.total = deltas.length
  /-- Each count is the number of deltas that a filter by the status leaves. -/
  count_eq : ∀ status, ∃ kept, deltas.withStatus status = .ok kept ∧
    summary.counts.of status = kept.length
  /-- The containers that are added are those of the new list only, in its order. -/
  added_eq : summary.addedContainers = namesOnlyIn after.containers before.containers
  /-- The containers that are removed are those of the old list only, in its order. -/
  removed_eq : summary.removedContainers = namesOnlyIn before.containers after.containers
  /-- No container is both. -/
  added_disjoint_removed : summary.addedContainers.Disjoint summary.removedContainers

namespace Diff

variable {before after : Snapshot} {sorted : Bool} {diff : Diff} {summary : DiffSummary}

/-- A summary that can be computed has three walks behind it. -/
theorem summary_eq_ok (h : diff.summary = .ok summary) :
    diff.deltas.sizeBySection = .ok summary.sectionDeltas ∧
      diff.deltas.count = .ok summary.counts ∧ diff.deltas.totalSize = .ok summary.sizeDelta ∧
      summary.addedContainers = (diff.containers.filter (·.isAdded)).map (·.name) ∧
      summary.removedContainers = (diff.containers.filter (·.isRemoved)).map (·.name) := by
  obtain ⟨sections, hsections, h⟩ := Except.bind_eq_ok.1 h
  obtain ⟨counts, hcounts, h⟩ := Except.bind_eq_ok.1 h
  obtain ⟨size, hsize, h⟩ := Except.bind_eq_ok.1 h
  obtain rfl := Except.pure_eq_ok.1 h
  exact ⟨hsections, hcounts, hsize, rfl, rfl⟩

/-- The section of a delta of a diff is that of its newer side, which it has. -/
theorem sectionName_eq_iff (h : ofSnapshots before after sorted = .ok diff) {delta : Delta}
    (hdelta : delta ∈ diff.deltas) (name : String) : delta.sectionName = name ↔
      ∃ side, delta.sides.newer? = some side ∧ side.symbol.sectionName = name := by
  have hside : delta.sides.newer?.isSome := by
    rw [Sides.newer?, Option.isSome_or, Bool.or_eq_true]
    exact (isFlat_of_mem h hdelta).hasSide.symm
  obtain ⟨side, hside⟩ := Option.isSome_iff_exists.1 hside
  have hname : delta.sectionName = side.symbol.sectionName := by
    rw [Delta.sectionName, Delta.textOf, Delta.symbol?, hside]
    rfl
  simp only [hname, hside, Option.some.injEq, exists_eq_left']

/-- The summary of the diff of two snapshots, sorted or not, agrees with its deltas and with the
containers of both snapshots. -/
theorem summary_describes {before after : Snapshot} {sorted : Bool} {diff : Diff}
    {summary : DiffSummary} (hdiff : ofSnapshots before after sorted = .ok diff)
    (hsummary : diff.summary = .ok summary) : summary.Describes before after diff.deltas := by
  obtain ⟨hsections, hcounts, hsize, hadded, hremoved⟩ := summary_eq_ok hsummary
  obtain ⟨_, -, hcontainers, -⟩ := ofSnapshots_eq_ok hdiff
  rw [hcontainers, map_name_filter_isAdded] at hadded
  rw [hcontainers, map_name_filter_isRemoved] at hremoved
  have hsums := Deltas.sumsBySection_of_eq_ok hsections
  have htotal := (Deltas.toInt_totalSize hsize).2
  exact
    { exists_size := hsums.exists_size
      mem_sections_iff := fun name => by
        rw [Deltas.mem_map_fst_sections, hsums.mem_iff]
        exact exists_congr fun delta => and_congr_right fun hdelta =>
          sectionName_eq_iff hdiff hdelta name
      sections_sorted := Deltas.pairwise_sections summary.sectionDeltas
      section_eq := fun name total hmem =>
        hsums.toInt_eq name total (Std.ExtTreeMap.mem_toList_iff_getElem?_eq_some.1 hmem)
      sizeDelta_eq := htotal
      sum_sections_eq := hsums.sum_sections_eq.trans htotal.symm
      total_counts_eq := Deltas.total_count hcounts
      count_eq := Deltas.count_eq_length_withStatus hcounts
      added_eq := hadded
      removed_eq := hremoved
      added_disjoint_removed := fun name hname hname' => by
        rw [hadded, mem_namesOnlyIn_iff] at hname
        rw [hremoved, mem_namesOnlyIn_iff] at hname'
        exact hname'.2 hname.1 }

/-- A symbol gains two bytes of padding, which count for its section, another one is added in a new
container, and a third is removed. A container that is listed twice is removed once. -/
theorem summary_describes_of_drift :
    let main : Symbol :=
      { containerName := "lib", sectionName := ".text", size := 10, padding := 2
        fullName := "main" }
    let gone : Symbol := { main with sectionName := ".rodata", size := 3, fullName := "gone" }
    let grown : Symbol := { main with size := 12, padding := 4 }
    let fresh : Symbol :=
      { main with containerName := "new", sectionName := ".bss", fullName := "fresh" }
    let before : Snapshot :=
      { containers := [⟨"lib", "", []⟩, ⟨"old", "1", []⟩, ⟨"old", "2", []⟩]
        symbols := [main, gone] }
    let after : Snapshot :=
      { containers := [⟨"new", "", []⟩, ⟨"lib", "", []⟩], symbols := [grown, fresh] }
    let diff : Diff :=
      { containers := ContainerDelta.ofLists before.containers after.containers
        deltas := [.matched ⟨some 0, main⟩ ⟨some 0, grown⟩, .added ⟨some 1, fresh⟩,
          .removed ⟨some 1, gone⟩, .ofPadding (⟨"lib", ".text"⟩, 2)] }
    ∃ summary, ofSnapshots before after false = .ok diff ∧ diff.summary = .ok summary ∧
      summary.sectionDeltas.toList = [(".bss", 10), (".rodata", -3), (".text", 2)] ∧
      summary.counts = { unchanged := 1, added := 2, removed := 1 } ∧
      summary.addedContainers = ["new"] ∧ summary.removedContainers = ["old"] ∧
      summary.Describes before after diff.deltas := by
  intro main gone grown fresh before after diff
  -- only the pair has gained padding
  obtain ⟨matching, hmatching, hparts⟩ := Ranking.exists_parts_eq
    (by decide : ∀ sym ∈ before.symbols, sym.Fits) (by decide : ∀ sym ∈ after.symbols, sym.Fits)
    (by decide +kernel : _ =
      { matched := [(⟨some 0, main⟩, ⟨some 0, grown⟩)]
        unmatchedBefore := [⟨some 1, gone⟩]
        unmatchedAfter := [⟨some 1, fresh⟩]
        rounded := [(⟨"lib", ".text"⟩, 2)] })
  obtain ⟨hmatched, hremoved, hadded, hrounded⟩ := Matching.Parts.mk.inj hparts
  have hdeltas : matching.toDeltas diff.containers = .ok diff.deltas := by
    rw [Matching.toDeltas_eq_ok, Matching.symbolDeltas, hmatched, hadded, hremoved, hrounded]
    · rfl
    · rw [hrounded]
      decide
  have hdiff : ofSnapshots before after false = .ok diff := by
    simp only [ofSnapshots, ofMatching, Except.bind_eq_ok, Except.mapError_eq_ok]
    exact ⟨matching, hmatching, _, hdeltas, _, rfl, rfl⟩
  obtain ⟨summary, hsummary, htotals⟩ : ∃ summary, diff.summary = .ok summary ∧
      decide (summary.sectionDeltas.toList = [(".bss", 10), (".rodata", -3), (".text", 2)] ∧
        summary.counts = { unchanged := 1, added := 2, removed := 1 } ∧
        summary.addedContainers = ["new"] ∧ summary.removedContainers = ["old"]) :=
    Except.exists_of_any (by decide +kernel)
  obtain ⟨hsections, hcounts, hnew, hold⟩ := of_decide_eq_true htotals
  exact ⟨summary, hdiff, hsummary, hsections, hcounts, hnew, hold,
    summary_describes hdiff hsummary⟩

end Diff

end BuildScope
