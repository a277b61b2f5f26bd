import BuildScope.Proofs.Matching.Exhaustion
import BuildScope.Proofs.Matching.Stability
import BuildScope.Proofs.Pairing.Invariance

/-!
# Locality of a Matching

An area is a section of a container. Keys name the area of their symbol, so that symbols of
different areas never meet: what becomes of one area can be found by matching its symbols alone.

* `Matching.RestrictsTo`: of two runs, one is what the other does within an area.
* `Matching.ofSymbols_restrict`: matching the symbols of an area gives the pairs, the leftovers and
  the padding totals that the whole matching has there.
-/

namespace BuildScope

/-- A section of a container, whatever its raw name. -/
structure Area where
  /-- Name of the container. -/
  container : String
  /-- Section. -/
  sectionClass : SectionClass
  deriving DecidableEq, Repr

/-- The area that a symbol lies in. -/
def Symbol.area (sym : Symbol) : Area :=
  ⟨sym.containerName, sym.sectionClass⟩

/-- The area that a segment belongs to. -/
def Segment.area (segment : Segment) : Area :=
  ⟨segment.container, .ofName segment.sectionName⟩

/-- The symbols of a list that lie in an area, in order. -/
def Area.symbols (area : Area) (symbols : List Symbol) : List Symbol :=
  symbols.filter fun sym => sym.area = area

/-- The places of the symbols of a list that lie in an area, in order. -/
def Area.places (area : Area) (symbols : List Symbol) : List Nat :=
  (symbols.zipIdx.filter fun member => member.1.area = area).map Prod.snd

/-- A symbol at a place of a part, at the place that it has in the whole. -/
def Side.relocate (places : List Nat) (side : Side) : Side :=
  { side with position := side.position.bind fun position => places[position]? }

@[simp]
theorem Side.symbol_relocate (places : List Nat) (side : Side) :
    (side.relocate places).symbol = side.symbol := rfl

/-- The symbols of an area, at their places in the whole list. -/
theorem Area.map_relocate_ofList (area : Area) (symbols : List Symbol) :
    (Side.ofList (area.symbols symbols)).map (Side.relocate (area.places symbols)) =
      (Side.ofList symbols).filter fun side => side.symbol.area = area := by
  -- the symbols of the area, each with its place in the whole list
  let members := symbols.zipIdx.filter fun member => member.1.area = area
  have hsymbols : area.symbols symbols = members.map Prod.fst := by
    conv_lhs => rw [Area.symbols, ← List.zipIdx_map_fst 0 symbols, List.filter_map]
    rfl
  calc (Side.ofList (area.symbols symbols)).map (Side.relocate (area.places symbols))
      = members.zipIdx.map fun member => ⟨(members.map Prod.snd)[member.2]?, member.1.1⟩ := by
        rw [hsymbols, Side.ofList, List.zipIdx_map, List.map_map, List.map_map]
        rfl
    _ = members.zipIdx.map fun member => ⟨some member.1.2, member.1.1⟩ := by
        apply List.map_congr_left
        intro member hmember
        rw [List.getElem?_map, List.mem_zipIdx_iff_getElem?.1 hmember]
        rfl
    _ = members.map fun member => ⟨some member.2, member.1⟩ := by
        conv_rhs => rw [← List.zipIdx_map_fst 0 members, List.map_map]
        rfl
    _ = (Side.ofList symbols).filter fun side => side.symbol.area = area := by
        rw [Side.ofList, List.filter_map]
        rfl

/-- Symbols that share a key lie in one area. -/
theorem Pass.area_eq_of_key {pass : Pass} {a b : Symbol} {k : MatchKey}
    (ha : pass.key a = some k) (hb : pass.key b = some k) : a.area = b.area := by
  obtain ⟨hcontainer, hsection⟩ := Pass.container_eq_of_key ha hb
  rw [Symbol.area, Symbol.area, hcontainer, hsection]

namespace Matching

/-- A gain is added to a segment of the area that the old symbol of its pair lies in. -/
theorem area_of_creditedGain? {pair : Pass × Side × Side} {gain : Segment × Float}
    (h : creditedGain? pair = some gain) : gain.1.area = pair.2.1.symbol.area := by
  unfold creditedGain? paddingGain? at h
  split at h
  · dsimp only at h
    split at h
    · cases h
    · cases h
      rfl
  · cases h

/-- The symbols of a pair lie in one area. -/
theorem Reached.area_eq_of_mem_credited {before after : List Side} {passes : List Pass}
    {matching : Matching} (h : Reached before after passes matching)
    {pair : Pass × Side × Side} (hpair : pair ∈ matching.credited) :
    pair.2.1.symbol.area = pair.2.2.symbol.area := by
  obtain ⟨_, hb, ha⟩ := h.agrees_of_mem_credited hpair
  exact Pass.area_eq_of_key hb ha

/-! ## Two runs -/

/-- A run on part of the symbols is what the whole run does within an area, where `f` and `g` give
the symbols of the part their places in the old and in the new build. -/
structure RestrictsTo (area : Area) (f g : Side → Side) (whole part : Matching) : Prop where
  credited_eq : (whole.credited.filter fun pair => pair.2.2.symbol.area = area) =
    part.credited.map (Prod.map id (Prod.map f g))
  unmatchedBefore_eq : (whole.unmatchedBefore.filter fun side => side.symbol.area = area) =
    part.unmatchedBefore.map f
  unmatchedAfter_eq : (whole.unmatchedAfter.filter fun side => side.symbol.area = area) =
    part.unmatchedAfter.map g

section Runs

variable {area : Area} {f g : Side → Side} {whole part : Matching}
  (hf : ∀ side, (f side).symbol = side.symbol) (hg : ∀ side, (g side).symbol = side.symbol)

include hf hg

/-- A pass makes of the part what it makes of the whole within the area. -/
theorem RestrictsTo.outcome_eq (h : RestrictsTo area f g whole part) (pass : Pass) :
    ((whole.outcome pass).pairs.filter fun sides => sides.2.symbol.area = area) =
        (part.outcome pass).pairs.map (Prod.map f g) ∧
      ((whole.outcome pass).before.filter fun side => side.symbol.area = area) =
        (part.outcome pass).before.map f ∧
      ((whole.outcome pass).after.filter fun side => side.symbol.area = area) =
        (part.outcome pass).after.map g := by
  -- a key has its area in it, so that no pair joins two areas
  have hkey : ∀ (a b : Side) (k : MatchKey), pass.key a.symbol = some k →
      pass.key b.symbol = some k →
      decide (a.symbol.area = area) = decide (b.symbol.area = area) := by
    intro a b k ha hb
    rw [Pass.area_eq_of_key ha hb]
  have hfilter := Pairing.byRank_filter hkey whole.unmatchedBefore whole.unmatchedAfter
  have hmap := Pairing.byRank_map (fun side : Side => pass.key side.symbol) (f := f) (g := g)
    (fun side => by rw [hf]) (fun side => by rw [hg]) part.unmatchedBefore part.unmatchedAfter
  rw [h.unmatchedBefore_eq, h.unmatchedAfter_eq, hmap, Pairing.mk.injEq] at hfilter
  exact ⟨hfilter.1.symm, hfilter.2.1.symm, hfilter.2.2.symm⟩

/-- Two runs, one from the symbols of an area and one from all symbols, agree within the area after
each pass. -/
theorem restrictsTo_ofPasses {before after partBefore partAfter : List Side}
    (hbefore : (before.filter fun side => side.symbol.area = area) = partBefore.map f)
    (hafter : (after.filter fun side => side.symbol.area = area) = partAfter.map g)
    (passes : List Pass) :
    RestrictsTo area f g (ofPasses before after passes) (ofPasses partBefore partAfter passes) := by
  induction passes using List.reverseRecOn with
  | nil => exact ⟨rfl, hbefore, hafter⟩
  | append_singleton passes pass ih =>
    rw [ofPasses_append_singleton, ofPasses_append_singleton]
    obtain ⟨hpairs, hleft, hright⟩ := ih.outcome_eq hf hg pass
    -- each list of the whole run is what it was and what the pass has added, and so is its part
    refine ⟨?_, ?_, ?_⟩
    · have hnew : ((((ofPasses before after passes).outcome pass).pairs.map (pass, ·)).filter
            fun pair => pair.2.2.symbol.area = area) =
          (((ofPasses partBefore partAfter passes).outcome pass).pairs.map (pass, ·)).map
            (Prod.map id (Prod.map f g)) := by
        rw [List.filter_map, List.map_map]
        exact (congrArg (List.map (pass, ·)) hpairs).trans List.map_map
      rw [(reached_ofPasses before after passes).credited_step,
        (reached_ofPasses partBefore partAfter passes).credited_step, List.filter_append,
        List.map_append, ih.credited_eq, hnew]
    · rw [unmatchedBefore_step, unmatchedBefore_step, hleft]
    · rw [unmatchedAfter_step, unmatchedAfter_step, hright]

/-- Two runs that may have left out passes, at different points, agree within the area too. -/
theorem Reached.restrictsTo {before after partBefore partAfter : List Side}
    (hbefore : (before.filter fun side => side.symbol.area = area) = partBefore.map f)
    (hafter : (after.filter fun side => side.symbol.area = area) = partAfter.map g)
    {passes : List Pass} (h : Reached before after passes whole)
    (h' : Reached partBefore partAfter passes part) : RestrictsTo area f g whole part := by
  have hfull := restrictsTo_ofPasses hf hg hbefore hafter passes
  refine ⟨?_, ?_, ?_⟩
  · rw [h.alike.credited_eq, h'.alike.credited_eq, hfull.credited_eq]
  · rw [h.alike.unmatchedBefore_eq, h'.alike.unmatchedBefore_eq, hfull.unmatchedBefore_eq]
  · rw [h.alike.unmatchedAfter_eq, h'.alike.unmatchedAfter_eq, hfull.unmatchedAfter_eq]

/-- The padding gains of the part are those of the whole run in segments of the area. -/
theorem RestrictsTo.gains_eq (h : RestrictsTo area f g whole part)
    (hapart : ∀ pair ∈ whole.credited, pair.2.1.symbol.area = pair.2.2.symbol.area) :
    part.gains = whole.gains.filter fun gain => gain.1.area = area := by
  have hgain (pair : Pass × Side × Side) :
      creditedGain? (Prod.map id (Prod.map f g) pair) = creditedGain? pair := by
    simp [creditedGain?, paddingGain?, hf, hg]
  calc part.gains
      = (part.credited.map (Prod.map id (Prod.map f g))).filterMap creditedGain? := by
        rw [gains_eq_filterMap_credited, List.filterMap_map]
        exact List.filterMap_congr fun pair _ => (hgain pair).symm
    _ = (whole.credited.filter fun pair => pair.2.2.symbol.area = area).filterMap
          creditedGain? := by
        rw [h.credited_eq]
    _ = whole.credited.filterMap fun pair =>
          (creditedGain? pair).filter fun gain => gain.1.area = area := by
        rw [List.filterMap_filter]
        apply List.filterMap_congr
        intro pair hpair
        cases hcredited : creditedGain? pair with
        | none => simp
        | some gain =>
          -- the segment of a gain lies where both of its symbols do
          have harea : gain.1.area = pair.2.2.symbol.area :=
            (area_of_creditedGain? hcredited).trans (hapart pair hpair)
          simp [Option.filter_some, harea]
    _ = whole.gains.filter fun gain => gain.1.area = area := by
        rw [gains_eq_filterMap_credited, List.filter_filterMap]

end Runs

/-! ## What becomes of an area -/

/-- A matching of the symbols of an area is the restriction of a whole matching to the area. -/
structure IsRestriction (area : Area) (before after : List Symbol) (whole part : Matching) :
    Prop where
  /-- The pairs in the area are those of the part, in the same order. -/
  matched_eq :
    (whole.matched.filter fun sides =>
        sides.1.symbol.area = area && sides.2.symbol.area = area) =
      part.matched.map
        (Prod.map (Side.relocate (area.places before)) (Side.relocate (area.places after)))
  /-- The symbols of the old build in the area that are left over are those of the part. -/
  unmatchedBefore_eq : (whole.unmatchedBefore.filter fun side => side.symbol.area = area) =
    part.unmatchedBefore.map (Side.relocate (area.places before))
  /-- The symbols of the new build in the area that are left over are those of the part. -/
  unmatchedAfter_eq : (whole.unmatchedAfter.filter fun side => side.symbol.area = area) =
    part.unmatchedAfter.map (Side.relocate (area.places after))
  /-- The part has the totals of the whole in the segments of the area, and no others. -/
  padding_eq : ∀ segment, part.padding.get? segment =
    if segment.area = area then whole.padding.get? segment else none

/-- Matching the symbols of an area alone restricts the matching of all symbols to the area. No pair
of the latter leaves its area. -/
theorem ofSymbols_restrict {before after : List Symbol} (hbefore : ∀ sym ∈ before, sym.Fits)
    (hafter : ∀ sym ∈ after, sym.Fits) (area : Area) :
    ∃ whole part, ofSymbols before after = .ok whole ∧
      ofSymbols (area.symbols before) (area.symbols after) = .ok part ∧
      IsRestriction area before after whole part ∧
      ∀ sides ∈ whole.matched, sides.1.symbol.area = sides.2.symbol.area := by
  have hpartBefore : ∀ sym ∈ area.symbols before, sym.Fits :=
    fun sym hsym => hbefore sym (List.mem_filter.1 hsym).1
  have hpartAfter : ∀ sym ∈ area.symbols after, sym.Fits :=
    fun sym hsym => hafter sym (List.mem_filter.1 hsym).1
  obtain ⟨whole, hwhole, hreached⟩ := exists_reached_of_fits hbefore hafter
  obtain ⟨part, hpart, hreached'⟩ := exists_reached_of_fits hpartBefore hpartAfter
  have hrestricts := Reached.restrictsTo (Side.symbol_relocate (area.places before))
    (Side.symbol_relocate (area.places after)) (area.map_relocate_ofList before).symm
    (area.map_relocate_ofList after).symm hreached hreached'
  have hcredited : ∀ pair ∈ whole.credited, pair.2.1.symbol.area = pair.2.2.symbol.area :=
    fun _ => hreached.area_eq_of_mem_credited
  have hmatched : ∀ sides ∈ whole.matched, sides.1.symbol.area = sides.2.symbol.area := by
    intro sides hsides
    obtain ⟨pass, hpair⟩ := hreached.exists_credited_of_mem_matched hsides
    exact hcredited _ hpair
  have hgains := hrestricts.gains_eq (Side.symbol_relocate _) (Side.symbol_relocate _) hcredited
  refine ⟨whole, part, hwhole, hpart, ⟨?_, hrestricts.unmatchedBefore_eq,
    hrestricts.unmatchedAfter_eq, ?_⟩, hmatched⟩
  · calc (whole.matched.filter fun sides =>
            sides.1.symbol.area = area && sides.2.symbol.area = area)
        = whole.matched.filter fun sides => sides.2.symbol.area = area := by
          apply List.filter_congr
          intro sides hsides
          rw [hmatched sides hsides, Bool.and_self]
      _ = (whole.credited.filter fun pair => pair.2.2.symbol.area = area).map Prod.snd := by
          rw [← hreached.map_snd_credited, List.filter_map]
          rfl
      _ = part.matched.map (Prod.map (Side.relocate (area.places before))
            (Side.relocate (area.places after))) := by
          rw [hrestricts.credited_eq, ← hreached'.map_snd_credited, List.map_map, List.map_map]
          rfl
  · intro segment
    rw [hreached'.padding_eq, hreached.padding_eq, hgains]
    split
    next harea =>
      exact PaddingTotals.get?_addAll_filter (fun segment => segment.area = area)
        (by simpa using harea) rfl
    next harea =>
      -- the part has never added to a segment elsewhere
      rw [PaddingTotals.get?_addAll_of_ne, PaddingTotals.get?_empty]
      rintro gain hgain rfl
      exact harea (by simpa using (List.mem_filter.1 hgain).2)

/-- The padding that a table gains when its section gets another name of the same kind stays apart
from that of the code around it. -/
theorem ofSymbols_restrict_of_sections :
    let code : Symbol :=
      { containerName := "lib", sectionName := ".text", size := 20, padding := 1
        fullName := "main" }
    let table : Symbol :=
      { containerName := "lib", sectionName := ".data.rel.ro", size := 10, padding := 2
        fullName := "table" }
    let moved : Symbol :=
      { table with sectionName := ".data.rel.ro.local", size := 12, padding := 4 }
    let before := [code, table]
    let after := [moved, code]
    let area : Area := ⟨"lib", .dataRelRo⟩
    (∀ sym ∈ before, sym.Fits) ∧ (∀ sym ∈ after, sym.Fits) ∧
      area.places before = [1] ∧ area.places after = [0] ∧
      ∃ whole part, ofSymbols before after = .ok whole ∧
        ofSymbols (area.symbols before) (area.symbols after) = .ok part ∧
        IsRestriction area before after whole part ∧
        ∀ sides ∈ whole.matched, sides.1.symbol.area = sides.2.symbol.area :=
  ⟨by decide, by decide, by decide, by decide, ofSymbols_restrict (by decide) (by decide) _⟩

end Matching

end BuildScope
