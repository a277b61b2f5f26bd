import BuildScope.Proofs.Diff.Success

/-!
# What a Diff Consists Of

A diff has the deltas of a matching, as they are or arranged. Each of them is that of a symbol or of
the padding of a segment, or else an alias group of such deltas, so that what is known of plain
deltas carries over to all of them.

* `Diff.ofSnapshots_eq_ok`: a diff comes from a matching.
* `Diff.mem_arrange`: a delta that was arranged was there before, or is a group of such deltas.
* `Diff.isFlat_of_mem`, `Diff.exists_pss_of_mem`: what is known of each delta of a diff.
-/

namespace BuildScope

namespace Diff

variable {before after : Snapshot} {sorted : Bool} {diff : Diff} {deltas arranged : Deltas}
  {delta : Delta}

/-- A diff comes from a matching of the symbols, whose deltas are arranged if that is asked for. -/
theorem ofSnapshots_eq_ok (h : ofSnapshots before after sorted = .ok diff) :
    ∃ matching, Matching.ofSymbols before.symbols after.symbols = .ok matching ∧
      diff.containers = ContainerDelta.ofLists before.containers after.containers ∧
      arrange sorted (matching.symbolDeltas ++ matching.padding.rounded.map Delta.ofPadding) =
        .ok diff.deltas := by
  simp only [ofSnapshots, ofMatching, Except.bind_eq_ok, Except.mapError_eq_ok] at h
  obtain ⟨matching, hmatching, deltas, hdeltas, arranged, harranged, h⟩ := h
  obtain rfl := Except.pure_eq_ok.1 h
  obtain rfl := Matching.toDeltas_eq hdeltas
  exact ⟨matching, hmatching, rfl, harranged⟩

/-- A delta that was arranged was there before, or is made of some that share an alias key. -/
theorem mem_arrange (h : arrange sorted deltas = .ok arranged) (hdelta : delta ∈ arranged) :
    delta ∈ deltas ∨ ∃ block key, delta = .ofAliases block ∧ 2 ≤ block.length ∧
      block ⊆ deltas ∧ ∀ member ∈ block, member.aliasKey = some key := by
  cases sorted with
  | false =>
    cases h
    exact .inl hdelta
  | true => exact Deltas.mem_groupAliases ((Deltas.sort_perm h).subset hdelta)

theorem isPlain_of_mem_append {matching : Matching}
    (h : delta ∈ matching.symbolDeltas ++ matching.padding.rounded.map Delta.ofPadding) :
    delta.IsPlain := by
  obtain h | h := List.mem_append.1 h
  · exact Matching.isPlain_of_mem_symbolDeltas h
  · obtain ⟨gain, -, rfl⟩ := List.mem_map.1 h
    exact ⟨_, rfl⟩

/-- No delta of a diff is nested. -/
theorem isFlat_of_mem (h : ofSnapshots before after sorted = .ok diff)
    (hdelta : delta ∈ diff.deltas) : delta.IsFlat := by
  obtain ⟨matching, -, -, harranged⟩ := ofSnapshots_eq_ok h
  obtain hmem | ⟨block, key, rfl, hlength, hsubset, hkey⟩ := mem_arrange harranged hdelta
  · exact (isPlain_of_mem_append hmem).isFlat
  · exact Delta.isFlat_ofAliases hlength
      (fun member hmember => isPlain_of_mem_append (hsubset hmember)) hkey

/-- The proportional size of each delta of a diff is known: the matching has computed what it
takes. -/
theorem exists_pss_of_mem (h : ofSnapshots before after sorted = .ok diff)
    (hdelta : delta ∈ diff.deltas) : ∃ x, delta.pss = .ok x := by
  obtain ⟨matching, hmatching, -, harranged⟩ := ofSnapshots_eq_ok h
  obtain hmem | ⟨block, key, rfl, -, hsubset, -⟩ := mem_arrange harranged hdelta
  · exact Matching.exists_pss hmatching hmem
  · exact Delta.exists_sumPss
      (fun member hmember => Matching.exists_pss hmatching (hsubset hmember)) 0

end Diff

end BuildScope
