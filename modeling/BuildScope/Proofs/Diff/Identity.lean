import BuildScope.Proofs.Deltas.Standstill
import BuildScope.Proofs.Diff.Success

/-!
# Diff of a Snapshot with Itself

A snapshot does not differ from itself. Each of its symbols is paired with itself and no padding is
accounted for, so that all deltas are unchanged, grouped by their aliases or not.

* `ContainerDelta.kept_of_mem_ofLists_self`: no container is added or removed.
* `Diff.ofSnapshots_self`: the diff of a snapshot with itself.
-/

namespace BuildScope

namespace ContainerDelta

variable {before after containers : List Container} {delta : ContainerDelta}

theorem exists_name_of_mem_ofLists (h : delta ∈ ofLists before after) :
    ∃ name ∈ names before after,
      delta.before = lastNamed? before name ∧ delta.after = lastNamed? after name := by
  obtain ⟨⟨unnumbered, place⟩, hmem, rfl⟩ := List.mem_map.1 h
  obtain ⟨name, hname, rfl⟩ := List.mem_map.1 (List.fst_mem_of_mem_zipIdx hmem)
  exact ⟨name, hname, rfl, rfl⟩

theorem isSome_lastNamed? {name : String} (h : name ∈ containers.map Container.name) :
    (lastNamed? containers name).isSome := by
  obtain ⟨container, hmem, rfl⟩ := List.mem_map.1 h
  rw [lastNamed?, List.find?_isSome]
  exact ⟨container, List.mem_reverse.2 hmem, beq_self_eq_true _⟩

/-- A list of containers that is lined up with itself has gained and lost none. -/
theorem kept_of_mem_ofLists_self (h : delta ∈ ofLists containers containers) :
    delta.isAdded = false ∧ delta.isRemoved = false := by
  obtain ⟨name, hname, hbefore, hafter⟩ := exists_name_of_mem_ofLists h
  have hlisted : name ∈ containers.map Container.name := by
    rw [names, List.mem_eraseDups, List.map_append, List.mem_append, or_self] at hname
    exact hname
  obtain ⟨container, hcontainer⟩ := Option.isSome_iff_exists.1 (isSome_lastNamed? hlisted)
  rw [isAdded, isRemoved, hbefore, hafter, hcontainer]
  exact ⟨rfl, rfl⟩

end ContainerDelta

namespace Diff

/-- Deltas of symbols that are paired with themselves stay unchanged when they are arranged. -/
theorem isStill_of_arrange {sides : List Side} (hfits : ∀ side ∈ sides, side.symbol.Fits)
    {sorted : Bool} {arranged : Deltas}
    (h : arrange sorted (sides.map fun side => .matched side side) = .ok arranged) :
    ∀ delta ∈ arranged, delta.IsStill := by
  have hmatched : ∀ delta ∈ sides.map fun side => Delta.matched side side,
      ∃ side : Side, side.symbol.Fits ∧ delta = .matched side side := by
    intro delta hdelta
    obtain ⟨side, hside, rfl⟩ := List.mem_map.1 hdelta
    exact ⟨side, hfits side hside, rfl⟩
  have hplain : ∀ delta ∈ sides.map fun side => Delta.matched side side, delta.IsStill := by
    intro delta hdelta
    obtain ⟨side, hside, rfl⟩ := hmatched delta hdelta
    exact Delta.isStill_matched_self hside
  intro delta hdelta
  cases sorted with
  | false =>
    cases h
    exact hplain delta hdelta
  | true =>
    rcases Deltas.mem_groupAliases ((Deltas.sort_perm h).subset hdelta) with
      hdelta | ⟨block, _, rfl, hlength, hsubset, _⟩
    · exact hplain delta hdelta
    · -- a group has only such deltas as members
      refine Delta.isStill_ofAliases ?_ fun member hmember => hmatched member (hsubset hmember)
      rintro rfl
      cases hlength

/-- The diff of a snapshot with itself pairs each symbol with itself, one after the other if it is
not sorted, whichever symbols are alike. It reports nothing: all deltas are unchanged, alias groups
included, and no container is added or removed. It is enough that the size of each symbol without
its padding fits. -/
theorem ofSnapshots_self {snapshot : Snapshot} (hfits : ∀ sym ∈ snapshot.symbols, sym.Fits)
    (sorted : Bool) :
    ∃ diff, ofSnapshots snapshot snapshot sorted = .ok diff ∧
      (sorted = false →
        diff.deltas = (Side.ofList snapshot.symbols).map fun side => .matched side side) ∧
      diff.deltas.expand.Perm
        ((Side.ofList snapshot.symbols).map fun side => .matched side side) ∧
      (∀ delta ∈ diff.deltas, delta.IsStill) ∧
      (∀ limit, records diff.deltas limit = .ok []) ∧
      ∀ container ∈ diff.containers, container.isAdded = false ∧ container.isRemoved = false := by
  obtain ⟨matching, hmatching, hmatched, hbefore, hafter, hrounded⟩ :=
    Matching.exists_ofSymbols_self hfits
  have hfits' : ∀ side ∈ Side.ofList snapshot.symbols, side.symbol.Fits := fun side hside =>
    hfits side.symbol (Side.symbol_mem_of_mem_ofList hside)
  -- there are neither additions nor removals, nor is there padding to account for
  have hdeltas : matching.toDeltas
        (ContainerDelta.ofLists snapshot.containers snapshot.containers) =
      .ok ((Side.ofList snapshot.symbols).map fun side => .matched side side) := by
    rw [Matching.toDeltas_eq_ok (by simp [hrounded]), Matching.symbolDeltas, hmatched, hbefore,
      hafter, hrounded, List.map_map]
    simp [Function.comp_def]
  have hself : ∀ delta ∈ (Side.ofList snapshot.symbols).map fun side => Delta.matched side side,
      delta.IsPlain ∧ delta.IsStill := by
    intro delta hdelta
    obtain ⟨side, hside, rfl⟩ := List.mem_map.1 hdelta
    exact ⟨⟨_, rfl⟩, Delta.isStill_matched_self (hfits' side hside)⟩
  obtain ⟨arranged, harranged⟩ :=
    exists_arrange (fun delta hdelta => ⟨0, (hself delta hdelta).2.pss⟩) sorted
  have hstill := isStill_of_arrange hfits' harranged
  refine ⟨⟨ContainerDelta.ofLists snapshot.containers snapshot.containers, arranged⟩, ?_, ?_,
    expand_arrange_perm (fun delta hdelta => (hself delta hdelta).1) harranged, hstill,
    records_eq_nil hstill, fun _ hcontainer => ContainerDelta.kept_of_mem_ofLists_self hcontainer⟩
  · simp only [ofSnapshots, ofMatching, Except.bind_eq_ok, Except.mapError_eq_ok]
    exact ⟨matching, hmatching, _, hdeltas, arranged, harranged, rfl⟩
  · rintro rfl
    exact (Except.ok.inj harranged).symm

/-- A snapshot lists two containers of one name, and has a symbol twice that shares its address
with a third, one that consists of padding only, and overhead of a negative size. -/
theorem ofSnapshots_self_of_twins :
    let twin : Symbol :=
      { containerName := "lib", sectionName := ".text", address := 64, size := 10, padding := 3
        fullName := "main", numAliases := 3 }
    let snapshot : Snapshot :=
      { containers := [⟨"lib", "", []⟩, ⟨"lib", "", []⟩]
        symbols := [twin, { twin with fullName := "other" }, twin,
          { twin with fullName := "gap", size := 4, padding := 4, numAliases := 1 },
          { twin with fullName := "Overhead: rest", size := -7, padding := 2 }] }
    snapshot.IsAccepted ∧ (∀ sym ∈ snapshot.symbols, sym.Fits) ∧
      ∀ sorted, ∃ diff, ofSnapshots snapshot snapshot sorted = .ok diff ∧
        (sorted = false →
          diff.deltas = (Side.ofList snapshot.symbols).map fun side => .matched side side) ∧
        diff.deltas.expand.Perm
          ((Side.ofList snapshot.symbols).map fun side => .matched side side) ∧
        (∀ delta ∈ diff.deltas, delta.IsStill) ∧
        (∀ limit, records diff.deltas limit = .ok []) ∧
        ∀ container ∈ diff.containers,
          container.isAdded = false ∧ container.isRemoved = false := by
  intro twin snapshot
  have haccepted : snapshot.IsAccepted := by decide
  have hfits : ∀ sym ∈ snapshot.symbols, sym.Fits := by decide
  exact ⟨haccepted, hfits, ofSnapshots_self hfits⟩

end Diff

end BuildScope
