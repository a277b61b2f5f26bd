import BuildScope.Proofs.Deltas.Arrangement
import BuildScope.Proofs.Matching.Order
import BuildScope.Proofs.Matching.Ranking
import BuildScope.Proofs.Padding.Segments

/-!
# Coverage of a Diff

What the deltas of a diff are about. Every symbol of either snapshot is a side of one delta, and
besides there is at most one delta for the padding of each segment.

* `Diff.Covers`: some deltas are about each symbol of two lists once.
* `Diff.ofSnapshots_covers`: the deltas of a diff are, in the order of the matching if they are not
  sorted.
-/

namespace BuildScope

/-- The delta that accounts for padding gained in a segment. -/
def Delta.ofPadding (gain : Segment × Int64) : Delta :=
  .added ⟨none, .ofPadding gain.1 gain.2⟩

/-- The symbols of the old build that some deltas are about. -/
def Deltas.befores (deltas : Deltas) : List Side :=
  deltas.filterMap fun delta => delta.sides.before

/-- The symbols of the new build that some deltas are about. -/
def Deltas.afters (deltas : Deltas) : List Side :=
  deltas.filterMap fun delta => delta.sides.after

/-- The deltas of the symbols of a matching: pairs, additions and removals. -/
def Matching.symbolDeltas (matching : Matching) : Deltas :=
  matching.matched.map (fun (before, after) => Delta.matched before after)
    ++ matching.unmatchedAfter.map Delta.added
    ++ matching.unmatchedBefore.map Delta.removed

/-- Some deltas consist of `symbolDeltas`, which are about each symbol of two lists once, and of
those of the padding of some segments. -/
structure Diff.Covers (before after : List Symbol) (deltas symbolDeltas : Deltas)
    (padding : List (Segment × Int64)) : Prop where
  /-- With each alias group replaced by its members, the deltas are those of symbols and padding. -/
  perm : deltas.expand.Perm (symbolDeltas ++ padding.map Delta.ofPadding)
  /-- The deltas of symbols are no alias groups. -/
  isPlain : ∀ delta ∈ symbolDeltas, delta.IsPlain
  /-- Each place in the old build is the old side of one of them. -/
  before_perm : symbolDeltas.befores.Perm (Side.ofList before)
  /-- Each place in the new build is the new side of one of them. -/
  after_perm : symbolDeltas.afters.Perm (Side.ofList after)
  /-- No segment has padding twice. -/
  segments_nodup : (padding.map Prod.fst).Nodup

namespace Matching

variable {matching : Matching}

/-- The deltas of a matching are those of its symbols and of the padding gained. -/
theorem toDeltas_eq {containers : List ContainerDelta} {deltas : Deltas}
    (h : matching.toDeltas containers = .ok deltas) :
    deltas = matching.symbolDeltas ++ matching.padding.rounded.map Delta.ofPadding := by
  obtain ⟨padding, hpadding, h⟩ := Except.bind_eq_ok.1 h
  have hsymbols : padding = matching.padding.rounded.map fun gain => .ofPadding gain.1 gain.2 := by
    rw [← List.forall₂_eq_eq_eq, List.forall₂_map_right_iff]
    refine (Except.mapM_eq_ok.1 hpadding).flip.imp fun sym gain hsym => ?_
    dsimp only at hsym
    split at hsym
    · cases hsym
      rfl
    · cases hsym
  rw [← Except.pure_eq_ok.1 h, hsymbols, List.map_map]
  rfl

theorem isPlain_of_mem_symbolDeltas {delta : Delta} (h : delta ∈ matching.symbolDeltas) :
    delta.IsPlain := by
  simp only [symbolDeltas, List.mem_append, List.mem_map] at h
  obtain (⟨sides, -, rfl⟩ | ⟨side, -, rfl⟩) | ⟨side, -, rfl⟩ := h
  · exact ⟨_, rfl⟩
  · exact ⟨_, rfl⟩
  · exact ⟨_, rfl⟩

theorem befores_symbolDeltas (matching : Matching) :
    matching.symbolDeltas.befores = matching.matched.map Prod.fst ++ matching.unmatchedBefore := by
  simp [symbolDeltas, Deltas.befores, List.filterMap_map, Function.comp_def, Delta.matched,
    Delta.added, Delta.removed, Delta.sides, Change.sides]

theorem afters_symbolDeltas (matching : Matching) :
    matching.symbolDeltas.afters = matching.matched.map Prod.snd ++ matching.unmatchedAfter := by
  simp [symbolDeltas, Deltas.afters, List.filterMap_map, Function.comp_def, Delta.matched,
    Delta.added, Delta.removed, Delta.sides, Change.sides]

end Matching

namespace Diff

/-- Each symbol of two snapshots that have a diff is a side of one of its deltas, which besides are
about the padding of segments. They are listed in the order of the matching if not sorted. -/
theorem ofSnapshots_covers {before after : Snapshot} {sorted : Bool} {diff : Diff}
    (h : ofSnapshots before after sorted = .ok diff) :
    ∃ matching, Matching.ofSymbols before.symbols after.symbols = .ok matching ∧
      Covers before.symbols after.symbols diff.deltas matching.symbolDeltas
        matching.padding.rounded ∧
      matching.Ordered (Side.ofList before.symbols) (Side.ofList after.symbols) ∧
      (sorted = false →
        diff.deltas = matching.symbolDeltas ++ matching.padding.rounded.map Delta.ofPadding) := by
  obtain ⟨matching, hmatching, h⟩ := Except.bind_eq_ok.1 h
  rw [Except.mapError_eq_ok] at hmatching
  obtain ⟨deltas, hdeltas, h⟩ := Except.bind_eq_ok.1 h
  obtain rfl := Matching.toDeltas_eq (Except.mapError_eq_ok.1 hdeltas)
  obtain ⟨arranged, harranged, h⟩ := Except.bind_eq_ok.1 h
  rw [Except.mapError_eq_ok] at harranged
  obtain rfl := Except.pure_eq_ok.1 h
  have hreached := Matching.reached_of_ofSymbols hmatching
  -- before they are arranged, no delta is a group
  have hplain : ∀ delta ∈ matching.symbolDeltas ++ matching.padding.rounded.map Delta.ofPadding,
      delta.IsPlain := by
    intro delta hdelta
    obtain hdelta | hdelta := List.mem_append.1 hdelta
    · exact Matching.isPlain_of_mem_symbolDeltas hdelta
    · obtain ⟨gain, -, rfl⟩ := List.mem_map.1 hdelta
      exact ⟨_, rfl⟩
  have hcovers : Covers before.symbols after.symbols arranged matching.symbolDeltas
      matching.padding.rounded :=
    { perm := expand_arrange_perm hplain harranged
      isPlain := fun _ => Matching.isPlain_of_mem_symbolDeltas
      before_perm := by
        rw [Matching.befores_symbolDeltas]
        exact hreached.perm_before
      after_perm := by
        rw [Matching.afters_symbolDeltas]
        exact hreached.perm_after
      segments_nodup := matching.padding.nodup_rounded }
  refine ⟨matching, hmatching, hcovers, hreached.ordered, ?_⟩
  rintro rfl
  cases harranged
  rfl

/-- Two aliases that have grown, of which the old build has one only, make one delta. -/
theorem ofSnapshots_covers_of_aliases :
    let text : Symbol := { sectionName := ".text", size := 8, numAliases := 2, fullName := "main" }
    let before : Snapshot := { symbols := [text] }
    let after : Snapshot := { symbols := [{ text with size := 12 }, { text with size := 12 }] }
    ∃ diff, ofSnapshots before after true = .ok diff ∧ diff.deltas.length = 1 ∧
      ∃ matching, Matching.ofSymbols before.symbols after.symbols = .ok matching ∧
        Covers before.symbols after.symbols diff.deltas matching.symbolDeltas
          matching.padding.rounded ∧
        matching.Ordered (Side.ofList before.symbols) (Side.ofList after.symbols) ∧
        (true = false →
          diff.deltas = matching.symbolDeltas ++ matching.padding.rounded.map Delta.ofPadding) := by
  intro text before after
  -- the pair has another size, so that no padding is added up
  obtain ⟨matching, hok, hparts⟩ := Ranking.exists_parts_eq
    (by decide : ∀ sym ∈ before.symbols, sym.Fits) (by decide : ∀ sym ∈ after.symbols, sym.Fits)
    (by decide +kernel : _ =
      { matched := [(⟨some 0, text⟩, ⟨some 0, { text with size := 12 }⟩)]
        unmatchedAfter := [⟨some 1, { text with size := 12 }⟩] })
  obtain ⟨hmatched, hremoved, hadded, hrounded⟩ := Matching.Parts.mk.inj hparts
  have hsymbols : matching.symbolDeltas =
      [.matched ⟨some 0, text⟩ ⟨some 0, { text with size := 12 }⟩,
        .added ⟨some 1, { text with size := 12 }⟩] := by
    rw [Matching.symbolDeltas, hmatched, hadded, hremoved]
    rfl
  have hlength : matching.symbolDeltas.groupAliases.length = 1 := by
    rw [hsymbols, Deltas.groupAliases_eq]
    decide
  have hdeltas (containers : List ContainerDelta) :
      matching.toDeltas containers = .ok matching.symbolDeltas := by
    rw [Matching.toDeltas, PaddingTotals.toSymbols, hrounded]
    exact congrArg Except.ok (List.append_nil _)
  have harrange : arrange true matching.symbolDeltas = .ok matching.symbolDeltas.groupAliases := by
    rw [arrange, if_pos rfl, Deltas.sort, if_pos (by omega)]
  have hdiff : ofSnapshots before after true =
      .ok ⟨ContainerDelta.ofLists before.containers after.containers,
        matching.symbolDeltas.groupAliases⟩ := by
    simp only [ofSnapshots, ofMatching, Except.bind_eq_ok, Except.mapError_eq_ok]
    exact ⟨matching, hok, _, hdeltas _, _, harrange, rfl⟩
  exact ⟨_, hdiff, hlength, ofSnapshots_covers hdiff⟩

end Diff

end BuildScope
