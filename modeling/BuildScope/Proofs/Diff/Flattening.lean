import BuildScope.Proofs.Diff.Success

/-!
# Flattened Matchings

A matching becomes a list of deltas in which each segment that gained whole bytes has an overhead
symbol of its own. All such segments must lie in containers that are listed. Otherwise there are no
deltas at all, and the first segment that does not is reported, in the order of the bytes of the
names.

* `PaddingTotals.Blames`: the segment that is reported.
* `Delta.AccountsFor`: what the delta of a segment says.
* `Matching.toDeltas_allOrNothing`: when a matching has deltas, and which ones.
-/

namespace BuildScope

namespace PaddingTotals

variable {padding : PaddingTotals} {containerNames : List String} {segment : Segment}

/-- Of the segments that gained whole bytes in containers that are not listed, one is the first. -/
structure Blames (padding : PaddingTotals) (containerNames : List String) (segment : Segment) :
    Prop where
  /-- It has gained whole bytes. -/
  gained : padding.bytesOf segment ≠ 0
  /-- Its container is not listed. -/
  unlisted : segment.container ∉ containerNames
  /-- It comes before all others. -/
  first : ∀ other, padding.bytesOf other ≠ 0 → other.container ∉ containerNames →
    other = segment ∨ segment.Precedes other

/-- The segment to blame is in an unlisted container, and all that are listed before it are not. -/
theorem blames_iff : padding.Blames containerNames segment ↔
    ∃ front gain back, padding.rounded = front ++ gain :: back ∧
      (∀ other ∈ front, other.1.container ∈ containerNames) ∧
      gain.1 = segment ∧ segment.container ∉ containerNames := by
  constructor
  · intro h
    obtain ⟨front, back, hsplit⟩ := List.append_of_mem (mem_rounded h.gained)
    refine ⟨front, _, back, hsplit, fun other hother => ?_, rfl, h.unlisted⟩
    have hgained : padding.bytesOf other.1 ≠ 0 :=
      (mem_rounded_iff.1 (hsplit ▸ List.mem_append_left _ hother)).1
    have hbefore : other.1.Precedes segment := (precedes_of_rounded_eq hsplit).1 _ hother
    -- otherwise it would be to blame itself
    by_contra hunlisted
    obtain heq | hafter := h.first _ hgained hunlisted
    · exact Segment.Precedes.irrefl _ (heq ▸ hbefore)
    · exact hbefore.asymm hafter
  · rintro ⟨front, gain, back, hsplit, hfront, rfl, hunlisted⟩
    have hmem : gain ∈ padding.rounded :=
      hsplit ▸ List.mem_append_right _ List.mem_cons_self
    refine ⟨(mem_rounded_iff.1 hmem).1, hunlisted, fun other hgained hother => ?_⟩
    have hmem := mem_rounded hgained
    rw [hsplit, List.mem_append, List.mem_cons] at hmem
    obtain hmem | rfl | hmem := hmem
    · exact absurd (hfront _ hmem) hother
    · exact .inl rfl
    · exact .inr ((precedes_of_rounded_eq hsplit).2 _ hmem)

/-- The symbols are refused for the segment to blame, and only for it. -/
theorem toSymbols_eq_error_iff {fault : SnapshotFault} :
    padding.toSymbols containerNames = .error fault ↔
      ∃ segment, padding.Blames containerNames segment ∧
        fault = .unknownContainer segment.container := by
  simp only [toSymbols, Except.mapM_eq_error, Except.check_eq_ok, Except.check_eq_error,
    List.contains_iff_mem, blames_iff]
  constructor
  · rintro ⟨front, gain, back, hsplit, hfront, hunlisted, rfl⟩
    refine ⟨gain.1, ⟨front, gain, back, hsplit, fun other hother => ?_, rfl, hunlisted⟩, rfl⟩
    obtain ⟨_, hlisted, -⟩ := hfront other hother
    exact hlisted
  · rintro ⟨_, ⟨front, gain, back, hsplit, hfront, rfl, hunlisted⟩, rfl⟩
    exact ⟨front, gain, back, hsplit, fun other hother => ⟨_, hfront other hother, rfl⟩,
      hunlisted, rfl⟩

/-- Every segment that gained whole bytes is in a listed container if there are symbols. -/
theorem listed_of_toSymbols {symbols : List Symbol}
    (h : padding.toSymbols containerNames = .ok symbols) (hgained : padding.bytesOf segment ≠ 0) :
    segment.container ∈ containerNames := by
  obtain ⟨sym, -, hsym⟩ := Except.exists_of_mapM_of_mem h (mem_rounded hgained)
  exact List.contains_iff_mem.1 (Except.check_eq_ok.1 hsym).1

end PaddingTotals

/-- A delta accounts for bytes of padding in a segment, by an overhead symbol of the new build. -/
structure Delta.AccountsFor (delta : Delta) (segment : Segment) (bytes : Int64) : Prop where
  /-- The old build does not have the symbol. -/
  before_eq : delta.sides.before = none
  /-- The new build does. -/
  after_isSome : delta.sides.after.isSome
  containerName_eq : delta.containerName = segment.container
  sectionName_eq : delta.sectionName = segment.sectionName
  size_eq : delta.size = .ok bytes
  padding_eq : delta.padding = .ok bytes
  sizeWithoutPadding_eq : delta.sizeWithoutPadding = .ok 0
  /-- The symbol is one of overhead. -/
  isOverhead : delta.isOverhead
  status_eq : delta.status = .ok .added

theorem Delta.accountsFor_ofPadding (segment : Segment) (bytes : Int64) :
    (Delta.ofPadding (segment, bytes)).AccountsFor segment bytes := by
  have hbare : (Delta.ofPadding (segment, bytes)).sizeWithoutPadding = .ok 0 := by
    have hsym : (Symbol.ofPadding segment bytes).sizeWithoutPadding = .ok 0 :=
      Symbol.sizeWithoutPadding_eq_ok_iff.2 (Int.sub_self _).symm
    refine Except.bind_eq_ok.2 ⟨0, rfl, Except.bind_eq_ok.2 ⟨0, hsym, ?_⟩⟩
    exact Number.Checked.sub_eq_ok_iff.2 rfl
  -- it is an addition, so that it answers for its padding
  have hpadding : (Delta.ofPadding (segment, bytes)).padding = .ok bytes :=
    Number.Checked.sub_eq_ok_iff.2 (Int.sub_zero _).symm
  exact
    { before_eq := rfl
      after_isSome := rfl
      containerName_eq := rfl
      sectionName_eq := rfl
      size_eq := by
        rw [Delta.size, hbare, hpadding]
        exact Number.Checked.add_eq_ok_iff.2 (Int.zero_add _).symm
      padding_eq := hpadding
      sizeWithoutPadding_eq := hbare
      isOverhead := by
        change (Symbol.ofPadding segment bytes).isOverhead
        exact Symbol.isOverhead_iff.2 (by decide : overheadMark.toList <+: paddingName.toList)
      status_eq := rfl }

namespace Matching

variable {matching : Matching} {containers : List ContainerDelta}

theorem toDeltas_eq_error_iff {fault : SnapshotFault} :
    matching.toDeltas containers = .error fault ↔
      ∃ segment, matching.padding.Blames (containers.map ContainerDelta.name) segment ∧
        fault = .unknownContainer segment.container := by
  rw [← PaddingTotals.toSymbols_eq_error_iff, toDeltas, Except.bind_eq_error]
  -- nothing fails once there are symbols
  refine or_iff_left ?_
  rintro ⟨_, -, ⟨⟩⟩

/-- A matching has no deltas exactly if whole bytes were gained in an unlisted container. -/
theorem exists_toDeltas_eq_error_iff :
    (∃ fault, matching.toDeltas containers = .error fault) ↔
      ∃ segment, matching.padding.bytesOf segment ≠ 0 ∧
        segment.container ∉ containers.map ContainerDelta.name := by
  constructor
  · rintro ⟨fault, hfault⟩
    obtain ⟨segment, hblames, -⟩ := toDeltas_eq_error_iff.1 hfault
    exact ⟨segment, hblames.gained, hblames.unlisted⟩
  · rintro ⟨segment, hgained, hunlisted⟩
    cases hresult : matching.toDeltas containers with
    | error fault => exact ⟨fault, rfl⟩
    | ok deltas =>
      obtain ⟨symbols, hsymbols, -⟩ := Except.bind_eq_ok.1 hresult
      exact absurd (PaddingTotals.listed_of_toSymbols hsymbols hgained) hunlisted

/-- A matching has deltas exactly if every segment that gained whole bytes is in a listed container,
and otherwise the first one that is not is reported. The deltas are those of the pairs, the
additions and the removals, and then one for each segment that gained whole bytes, in order, which
accounts for these. -/
theorem toDeltas_allOrNothing (matching : Matching) (containers : List ContainerDelta) :
    let containerNames := containers.map ContainerDelta.name
    let bytesOf := matching.padding.bytesOf
    ((∃ fault, matching.toDeltas containers = .error fault) ↔
        ∃ segment, bytesOf segment ≠ 0 ∧ segment.container ∉ containerNames) ∧
      (∀ fault, matching.toDeltas containers = .error fault ↔
        ∃ segment, matching.padding.Blames containerNames segment ∧
          fault = .unknownContainer segment.container) ∧
      (∀ deltas, matching.toDeltas containers = .ok deltas → ∃ segments : List Segment,
        deltas = matching.matched.map (fun (before, after) => Delta.matched before after) ++
          matching.unmatchedAfter.map Delta.added ++ matching.unmatchedBefore.map Delta.removed ++
          segments.map (fun segment => Delta.ofPadding (segment, bytesOf segment)) ∧
        (∀ segment, segment ∈ segments ↔ bytesOf segment ≠ 0) ∧
        segments.Pairwise Segment.Precedes) ∧
      ∀ segment, (Delta.ofPadding (segment, bytesOf segment)).AccountsFor segment
        (bytesOf segment) := by
  intro containerNames bytesOf
  refine ⟨exists_toDeltas_eq_error_iff, fun fault => toDeltas_eq_error_iff,
    fun deltas hdeltas => ⟨matching.padding.rounded.map Prod.fst, ?_, fun segment => ?_, ?_⟩,
    fun segment => Delta.accountsFor_ofPadding segment (bytesOf segment)⟩
  · -- what is gained in a segment is its drift in whole bytes
    rw [toDeltas_eq hdeltas, symbolDeltas, List.map_map]
    refine congrArg _ (List.map_congr_left fun gain hgain => ?_)
    have hbytes : bytesOf gain.1 = gain.2 := (PaddingTotals.mem_rounded_iff.1 hgain).2
    rw [Function.comp_apply, hbytes]
  · rw [List.mem_map]
    constructor
    · rintro ⟨gain, hgain, rfl⟩
      exact (PaddingTotals.mem_rounded_iff.1 hgain).1
    · intro hgained
      exact ⟨_, PaddingTotals.mem_rounded hgained, rfl⟩
  · exact List.pairwise_map.2 matching.padding.rounded_sorted

end Matching

end BuildScope
