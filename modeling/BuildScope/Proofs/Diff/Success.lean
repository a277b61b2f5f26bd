import BuildScope.Proofs.Deltas.Flatness
import BuildScope.Proofs.Deltas.Range
import BuildScope.Proofs.Deltas.Sorting
import BuildScope.Proofs.Diff.Coverage
import BuildScope.Proofs.Matching.Charges
import BuildScope.Proofs.Matching.Locality
import BuildScope.Proofs.Snapshot.Admission

/-!
# Diffs That Succeed

Snapshots that were accepted have a diff if the sizes that the exact pass needs can be computed:
padding is only gained in containers of the old build, and what sorting asks for was computed by the
matching. Where no symbol is overhead, nothing overflows at all.

* `Matching.Reached.container_of_rounded`: in which containers padding is gained.
* `Diff.ofSnapshots_succeeds`: accepted snapshots have a diff if their symbols have a matching.
* `Diff.ofSnapshots_computed`: snapshots without overhead have a diff that can be reported.
-/

namespace BuildScope

open Number (Overflow)

/-- The containers of a diff are those of either build. -/
theorem ContainerDelta.mem_map_name_ofLists {before after : List Container} {name : String} :
    name ∈ (ofLists before after).map ContainerDelta.name ↔
      name ∈ after.map Container.name ∨ name ∈ before.map Container.name := by
  rw [ofLists, map_name_number, List.map_map, ← List.mem_append, ← List.map_append]
  simp [names, Function.comp_def]

namespace Matching

variable {before after : List Symbol} {matching : Matching}

/-- Padding is gained in the containers of symbols of the old build. -/
theorem Reached.container_of_rounded {passes : List Pass}
    (h : Reached (Side.ofList before) (Side.ofList after) passes matching)
    {gain : Segment × Int64} (hgain : gain ∈ matching.padding.rounded) :
    ∃ sym ∈ before, sym.containerName = gain.1.container := by
  rw [h.padding_eq, gains_eq_map_charged] at hgain
  obtain ⟨added, hadded, hsegment⟩ := PaddingTotals.exists_gain_of_mem_rounded hgain
  obtain ⟨sides, hsides, rfl⟩ := List.mem_map.1 hadded
  have hbefore : sides.1 ∈ Side.ofList before :=
    h.perm_before.subset (List.mem_append_left _
      (List.mem_map_of_mem ((charged_sublist h).subset hsides)))
  exact ⟨sides.1.symbol, Side.symbol_mem_of_mem_ofList hbefore, congrArg Segment.container hsegment⟩

theorem fits_of_checkSizes {symbols : List Symbol} (h : checkSizes symbols = .ok ()) :
    ∀ sym ∈ symbols, sym.Fits := by
  induction symbols with
  | nil =>
    intro sym hsym
    cases hsym
  | cons sym symbols ih =>
    change ((sym.sizeWithoutPadding >>= fun _ => .ok ()) >>= fun _ => checkSizes symbols) = .ok ()
      at h
    obtain ⟨_, hsym, h⟩ := Except.bind_eq_ok.1 h
    obtain ⟨n, hn, -⟩ := Except.bind_eq_ok.1 hsym
    exact List.forall_mem_cons.2 ⟨Symbol.fits_of_eq_ok hn, ih h⟩

/-- The sizes of symbols that are matched have been computed. -/
theorem fits_of_mem_matched (h : ofSymbols before after = .ok matching) {sides : Side × Side}
    (hsides : sides ∈ matching.matched) : sides.1.symbol.Fits ∧ sides.2.symbol.Fits := by
  have hreached := reached_of_ofSymbols h
  have hbefore : sides.1.symbol ∈ before := Side.symbol_mem_of_mem_ofList
    (hreached.perm_before.subset (List.mem_append_left _ (List.mem_map_of_mem hsides)))
  have hafter : sides.2.symbol ∈ after := Side.symbol_mem_of_mem_ofList
    (hreached.perm_after.subset (List.mem_append_left _ (List.mem_map_of_mem hsides)))
  unfold ofSymbols at h
  dsimp only at h
  split at h
  · obtain ⟨_, holds, h⟩ := Except.bind_eq_ok.1 h
    obtain ⟨_, hnews, -⟩ := Except.bind_eq_ok.1 h
    exact ⟨fits_of_checkSizes holds _ hbefore, fits_of_checkSizes hnews _ hafter⟩
  next hexhausted =>
    -- nothing is matched where one side has no symbols
    rw [Bool.not_eq_true, Bool.not_eq_false'] at hexhausted
    cases h
    rw [Pass.all, run, if_pos hexhausted] at hsides
    cases hsides

/-- Whether the delta of a symbol answers for its padding is known once there is a matching. -/
theorem exists_attributesPadding (h : ofSymbols before after = .ok matching) {delta : Delta}
    (hdelta : delta ∈ matching.symbolDeltas) :
    ∃ change, delta = .single change ∧ ∃ attributed, change.attributesPadding = .ok attributed := by
  simp only [symbolDeltas, List.mem_append, List.mem_map] at hdelta
  obtain (⟨sides, hsides, rfl⟩ | ⟨side, -, rfl⟩) | ⟨side, -, rfl⟩ := hdelta
  · obtain ⟨hold, hnew⟩ := fits_of_mem_matched h hsides
    refine ⟨_, rfl, Change.exists_attributesPadding ?_⟩
    rintro side (hside | hside)
    · cases hside
      exact (Symbol.exists_sizeWithoutPadding hold).imp fun _ hn => hn.1
    · cases hside
      exact (Symbol.exists_sizeWithoutPadding hnew).imp fun _ hn => hn.1
  · exact ⟨_, rfl, true, rfl⟩
  · exact ⟨_, rfl, true, rfl⟩

/-- The proportional size of every delta of a matching can be computed. -/
theorem exists_pss (h : ofSymbols before after = .ok matching) {delta : Delta}
    (hdelta : delta ∈ matching.symbolDeltas ++ matching.padding.rounded.map Delta.ofPadding) :
    ∃ x, delta.pss = .ok x := by
  obtain hdelta | hdelta := List.mem_append.1 hdelta
  · obtain ⟨change, rfl, attributed, hattributed⟩ := exists_attributesPadding h hdelta
    exact ⟨_, Except.bind_eq_ok.2 ⟨attributed, hattributed, rfl⟩⟩
  · obtain ⟨gain, -, rfl⟩ := List.mem_map.1 hdelta
    exact ⟨_, rfl⟩

/-- The symbols of the deltas of a matching are those of the two lists. -/
theorem Reached.symbol_mem_of_mem_symbolDeltas {passes : List Pass}
    (h : Reached (Side.ofList before) (Side.ofList after) passes matching) {delta : Delta}
    (hdelta : delta ∈ matching.symbolDeltas) {side : Side}
    (hside : side ∈ delta.sides.before ∨ side ∈ delta.sides.after) :
    side.symbol ∈ before ∨ side.symbol ∈ after := by
  obtain hside | hside := hside
  · have hmem : side ∈ matching.symbolDeltas.befores := List.mem_filterMap.2 ⟨delta, hdelta, hside⟩
    rw [befores_symbolDeltas] at hmem
    exact .inl (Side.symbol_mem_of_mem_ofList (h.perm_before.subset hmem))
  · have hmem : side ∈ matching.symbolDeltas.afters := List.mem_filterMap.2 ⟨delta, hdelta, hside⟩
    rw [afters_symbolDeltas] at hmem
    exact .inr (Side.symbol_mem_of_mem_ofList (h.perm_after.subset hmem))

/-- If the containers that gain padding are listed, a matching has deltas. -/
theorem toDeltas_eq_ok {containers : List ContainerDelta}
    (h : ∀ gain ∈ matching.padding.rounded,
      gain.1.container ∈ containers.map ContainerDelta.name) :
    matching.toDeltas containers =
      .ok (matching.symbolDeltas ++ matching.padding.rounded.map Delta.ofPadding) := by
  have hsymbols : matching.padding.toSymbols (containers.map ContainerDelta.name) =
      .ok (matching.padding.rounded.map fun gain => .ofPadding gain.1 gain.2) := by
    rw [PaddingTotals.toSymbols, Except.mapM_eq_ok, List.forall₂_map_right_iff, List.forall₂_same]
    rintro ⟨segment, bytes⟩ hgain
    exact if_pos (List.contains_iff_mem.2 (h _ hgain))
  obtain ⟨deltas, hdeltas⟩ : ∃ deltas, matching.toDeltas containers = .ok deltas :=
    ⟨_, Except.bind_eq_ok.2 ⟨_, hsymbols, rfl⟩⟩
  rw [hdeltas, toDeltas_eq hdeltas]

end Matching

/-! ## Arranging -/

namespace Deltas

variable {deltas : Deltas}

/-- The proportional size of an alias group can be computed if those of its members can. -/
theorem exists_pss_groupAliases (h : ∀ delta ∈ deltas, ∃ x, delta.pss = .ok x) :
    ∀ delta ∈ deltas.groupAliases, ∃ x, delta.pss = .ok x := by
  intro delta hdelta
  obtain hdelta | ⟨block, key, rfl, -, hsubset, -⟩ := mem_groupAliases hdelta
  · exact h delta hdelta
  · exact Delta.exists_sumPss (fun member hmember => h member (hsubset hmember)) 0

/-- If the aliases among some deltas have padding that is a part of their sizes, alias groups can be
reported as well as their members, although their sides may come from different members. -/
theorem isComputed_groupAliases (hcomputed : ∀ delta ∈ deltas, delta.IsComputed)
    (hpadded : ∀ delta ∈ deltas, delta.aliasKey.isSome →
      ∀ side, side ∈ delta.sides.before ∨ side ∈ delta.sides.after → side.symbol.IsPadded) :
    ∀ delta ∈ deltas.groupAliases, delta.IsComputed := by
  intro delta hdelta
  obtain hdelta | ⟨block, key, rfl, -, hsubset, hkey⟩ := mem_groupAliases hdelta
  · exact hcomputed delta hdelta
  have hblock (member : Delta) (hmember : member ∈ block) :=
    hpadded member (hsubset hmember) (Option.isSome_of_eq_some (hkey member hmember))
  refine Delta.isComputed_aliasGroup (Sides.inRange_of_isPadded ?_)
    fun member hmember => hcomputed member (hsubset hmember)
  rintro side (hside | hside)
  · obtain ⟨member, hmember, hside⟩ := List.exists_of_findSome?_eq_some hside
    exact hblock member hmember side (.inl hside)
  · obtain ⟨member, hmember, hside⟩ := List.exists_of_findSome?_eq_some hside
    exact hblock member hmember side (.inr hside)

end Deltas

namespace Diff

theorem exists_arrange {deltas : Deltas} (h : ∀ delta ∈ deltas, ∃ x, delta.pss = .ok x)
    (sorted : Bool) : ∃ arranged, arrange sorted deltas = .ok arranged := by
  cases sorted with
  | false => exact ⟨deltas, rfl⟩
  | true => exact Deltas.exists_sort_iff.2 (.inr (Deltas.exists_pss_groupAliases h))

variable {before after : Snapshot} {matching : Matching}

/-- The containers of a diff include those that gain padding, if the old build was accepted. -/
theorem container_of_rounded (hbefore : before.IsAccepted)
    (hmatching : Matching.ofSymbols before.symbols after.symbols = .ok matching)
    {gain : Segment × Int64} (hgain : gain ∈ matching.padding.rounded) :
    gain.1.container ∈
      (ContainerDelta.ofLists before.containers after.containers).map ContainerDelta.name := by
  obtain ⟨sym, hsym, hcontainer⟩ :=
    (Matching.reached_of_ofSymbols hmatching).container_of_rounded hgain
  have hlisted := (Snapshot.isAccepted_iff.1 hbefore sym hsym).container_mem
  rw [hcontainer] at hlisted
  exact ContainerDelta.mem_map_name_ofLists.2 (.inr hlisted)

/-- A diff consists of the deltas of the matching, arranged. -/
theorem exists_ofSnapshots (hbefore : before.IsAccepted)
    (hmatching : Matching.ofSymbols before.symbols after.symbols = .ok matching) (sorted : Bool) :
    ∃ diff, ofSnapshots before after sorted = .ok diff ∧
      arrange sorted (matching.symbolDeltas ++ matching.padding.rounded.map Delta.ofPadding) =
        .ok diff.deltas := by
  have hdeltas := Matching.toDeltas_eq_ok fun gain hgain =>
    container_of_rounded hbefore hmatching hgain
  obtain ⟨arranged, harranged⟩ :=
    exists_arrange (fun delta hdelta => Matching.exists_pss hmatching hdelta) sorted
  refine ⟨⟨ContainerDelta.ofLists before.containers after.containers, arranged⟩, ?_, harranged⟩
  simp only [ofSnapshots, ofMatching, Except.bind_eq_ok, Except.mapError_eq_ok]
  exact ⟨matching, hmatching, _, hdeltas, arranged, harranged, rfl⟩

/-- If the symbols of two snapshots have a matching, sorted or not the snapshots have a diff, as the
containers that gain padding are listed. It is enough that the old one was accepted. -/
theorem ofSnapshots_succeeds {before after : Snapshot} (hbefore : before.IsAccepted)
    {matching : Matching}
    (hmatching : Matching.ofSymbols before.symbols after.symbols = .ok matching) :
    (∀ sorted, ∃ diff, ofSnapshots before after sorted = .ok diff) ∧
      ∀ gain ∈ matching.padding.rounded, gain.1.container ∈
        (ContainerDelta.ofLists before.containers after.containers).map ContainerDelta.name :=
  ⟨fun sorted => (exists_ofSnapshots hbefore hmatching sorted).imp fun _ hdiff => hdiff.1,
    fun _ hgain => container_of_rounded hbefore hmatching hgain⟩

/-- A table gains two bytes of padding in a container that the old build lists twice. -/
theorem ofSnapshots_succeeds_of_drift :
    let table : Symbol :=
      { containerName := "lib", sectionName := ".text", size := 10, padding := 2
        fullName := "table" }
    let before : Snapshot :=
      { containers := [⟨"lib", "", []⟩, ⟨"lib", "", []⟩], symbols := [table] }
    let after : Snapshot :=
      { containers := [⟨"lib", "", []⟩], symbols := [{ table with size := 12, padding := 4 }] }
    ∃ matching, before.IsAccepted ∧ after.IsAccepted ∧
      Matching.ofSymbols before.symbols after.symbols = .ok matching ∧
      matching.padding.rounded = [(⟨"lib", ".text"⟩, 2)] ∧
      (∀ sorted, ∃ diff, ofSnapshots before after sorted = .ok diff) ∧
      ∀ gain ∈ matching.padding.rounded, gain.1.container ∈
        (ContainerDelta.ofLists before.containers after.containers).map ContainerDelta.name := by
  intro table before after
  have haccepted : before.IsAccepted := by decide
  obtain ⟨matching, hmatching, hparts⟩ := Ranking.exists_parts_eq
    (by decide : ∀ sym ∈ before.symbols, sym.Fits) (by decide : ∀ sym ∈ after.symbols, sym.Fits)
    (by decide +kernel : _ =
      { matched := [(⟨some 0, table⟩, ⟨some 0, { table with size := 12, padding := 4 }⟩)]
        rounded := [(⟨"lib", ".text"⟩, 2)] })
  have hrounded : matching.padding.rounded = [(⟨"lib", ".text"⟩, 2)] :=
    congrArg Matching.Parts.rounded hparts
  exact ⟨matching, haccepted, by decide, hmatching, hrounded,
    ofSnapshots_succeeds haccepted hmatching⟩

/-- Snapshots that were accepted and have no overhead have a diff, sorted or not, and no step on the
way to what is reported of one of its deltas overflows. -/
theorem ofSnapshots_computed {before after : Snapshot} (hbefore : before.IsAccepted)
    (hafter : after.IsAccepted)
    (hplain : ∀ sym ∈ before.symbols ++ after.symbols, sym.isOverhead = false) (sorted : Bool) :
    ∃ diff, ofSnapshots before after sorted = .ok diff ∧
      ∀ delta ∈ diff.deltas, delta.IsComputed := by
  have hpadded : ∀ sym, sym ∈ before.symbols ∨ sym ∈ after.symbols → sym.IsPadded := by
    rintro sym (hsym | hsym)
    · exact (Snapshot.isAccepted_iff.1 hbefore sym hsym).padding_le
        (hplain sym (List.mem_append_left _ hsym))
    · exact (Snapshot.isAccepted_iff.1 hafter sym hsym).padding_le
        (hplain sym (List.mem_append_right _ hsym))
  obtain ⟨matching, hmatching, hreached⟩ := Matching.exists_reached_of_fits
    (fun sym hsym => (hpadded sym (.inl hsym)).fits)
    (fun sym hsym => (hpadded sym (.inr hsym)).fits)
  obtain ⟨diff, hdiff, harranged⟩ := exists_ofSnapshots hbefore hmatching sorted
  refine ⟨diff, hdiff, ?_⟩
  have hsides : ∀ delta ∈ matching.symbolDeltas,
      ∀ side, side ∈ delta.sides.before ∨ side ∈ delta.sides.after → side.symbol.IsPadded :=
    fun delta hdelta side hside =>
      hpadded _ (hreached.symbol_mem_of_mem_symbolDeltas hdelta hside)
  have hcomputed : ∀ delta ∈ matching.symbolDeltas ++ matching.padding.rounded.map Delta.ofPadding,
      delta.IsComputed := by
    intro delta hdelta
    obtain hdelta | hdelta := List.mem_append.1 hdelta
    · obtain ⟨change, rfl⟩ := Matching.isPlain_of_mem_symbolDeltas hdelta
      exact Delta.isComputed_single (Sides.inRange_of_isPadded (hsides _ hdelta))
    · obtain ⟨gain, -, rfl⟩ := List.mem_map.1 hdelta
      exact Delta.isComputed_single (Sides.inRange_ofPadding gain.1 gain.2)
  -- sorting only moves deltas, but grouping makes new ones of those with aliases
  cases sorted with
  | false =>
    rw [← Except.ok.inj harranged]
    exact hcomputed
  | true =>
    intro delta hdelta
    refine Deltas.isComputed_groupAliases hcomputed ?_ delta
      ((Deltas.sort_perm harranged).subset hdelta)
    intro member hmember hkey
    obtain hmember | hmember := List.mem_append.1 hmember
    · exact hsides member hmember
    · -- additions of padding have no aliases
      obtain ⟨gain, -, rfl⟩ := List.mem_map.1 hmember
      cases hkey

/-- One of two aliases of the greatest size shrinks to nothing, and an alias is added. -/
theorem ofSnapshots_computed_of_greatest :
    let greatest : Symbol :=
      { containerName := "lib", sectionName := ".text", size := 0x7FFFFFFFFFFFFFFF, numAliases := 2
        fullName := "main" }
    let before : Snapshot := { containers := [⟨"lib", "", []⟩], symbols := [greatest] }
    let after : Snapshot :=
      { containers := [⟨"lib", "", []⟩], symbols := [{ greatest with size := 0 }, greatest] }
    before.IsAccepted ∧ after.IsAccepted ∧
      (∀ sym ∈ before.symbols ++ after.symbols, sym.isOverhead = false) ∧
      ∃ diff, ofSnapshots before after true = .ok diff ∧
        ∀ delta ∈ diff.deltas, delta.IsComputed := by
  intro greatest before after
  have hbefore : before.IsAccepted := by decide
  have hafter : after.IsAccepted := by decide
  have hplain : ∀ sym ∈ before.symbols ++ after.symbols, sym.isOverhead = false := by decide
  exact ⟨hbefore, hafter, hplain, ofSnapshots_computed hbefore hafter hplain true⟩

end Diff

end BuildScope
