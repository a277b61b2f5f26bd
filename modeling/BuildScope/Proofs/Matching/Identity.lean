import BuildScope.Proofs.Matching.Exhaustion
import BuildScope.Proofs.Number.Exponents

/-!
# Matching a List with Itself

The exact pass, in which all symbols take part, pairs each symbol of a list with itself, however
many symbols share its key, and leaves nothing to the passes after it. Proportional paddings are
finite, so that no pair gains any, and the totals round to nothing.

* `Symbol.isFinite_paddingPss`, `Symbol.isFinite_pss_sub_paddingPss`: shares are finite doubles.
* `PaddingTotals.rounded_eq_nil`: gains of zero make no total that counts.
* `Matching.exists_ofSymbols_self`: what the matching of a list with itself consists of.
-/

namespace BuildScope

/-! ## Shares -/

namespace Symbol

private theorem natAbs_toInt_lt (bytes : Int64) : bytes.toInt.natAbs < 0x10000000000000000 := by
  have hlt := bytes.toInt_lt
  have hle := bytes.le_toInt
  omega

private theorem aliases_ne_zero (sym : Symbol) : max sym.numAliases.toNat 1 ≠ 0 := by
  omega

private theorem aliases_lt (sym : Symbol) : max sym.numAliases.toNat 1 < 0x10000000000000000 := by
  have hlt := sym.numAliases.toNat_lt
  omega

/-- A share has an exponent far below the greatest. -/
theorem exponentAtMost_share (sym : Symbol) (bytes : Int64) :
    Number.ExponentAtMost 66 (sym.share bytes).toModel.unpack :=
  Number.unpack_ratio (natAbs_toInt_lt bytes) sym.aliases_ne_zero sym.aliases_lt

theorem isFinite_paddingPss (sym : Symbol) : sym.paddingPss.isFinite :=
  (sym.exponentAtMost_share sym.padding).isFinite

theorem isFinite_pss_sub_paddingPss (sym : Symbol) : (sym.pss - sym.paddingPss).isFinite :=
  Number.isFinite_ratio_sub_ratio (natAbs_toInt_lt sym.size) (natAbs_toInt_lt sym.padding)
    sym.aliases_ne_zero sym.aliases_lt

end Symbol

/-! ## Totals of no gains -/

namespace PaddingTotals

/-- Zeros come to zero. -/
theorem foldl_add_of_forall_eq_zero {gains : List Float} (h : ∀ gain ∈ gains, gain = 0) :
    gains.foldl (· + ·) 0 = 0 := by
  induction gains with
  | nil => rfl
  | cons gain gains ih =>
    obtain ⟨hgain, hgains⟩ := List.forall_mem_cons.1 h
    rw [List.foldl_cons, hgain, Number.zero_add_zero, ih hgains]

/-- Zeros that are added make no total but zero. -/
theorem eq_zero_of_get?_addAll {gains : List (Segment × Float)} (h : ∀ gain ∈ gains, gain.2 = 0)
    {segment : Segment} {total : Float}
    (htotal : (({} : PaddingTotals).addAll gains).get? segment = some total) : total = 0 := by
  obtain ⟨-, rfl⟩ := get?_addAll_eq_some_iff.1 htotal
  apply foldl_add_of_forall_eq_zero
  intro gain hgain
  obtain ⟨gain, hmem, rfl⟩ := List.mem_map.1 hgain
  exact h gain (List.mem_of_mem_filter hmem)

theorem rounded_eq_nil {gains : List (Segment × Float)} (h : ∀ gain ∈ gains, gain.2 = 0) :
    (({} : PaddingTotals).addAll gains).rounded = [] := by
  rw [rounded, List.filterMap_eq_nil_iff]
  rintro ⟨segment, total⟩ hmem
  rw [eq_zero_of_get?_addAll h (mem_toList_iff.1 hmem)]
  exact if_pos Number.roundToInt64_zero

end PaddingTotals

namespace Matching

/-! ## Passes over a list and itself -/

variable {sides : List Side} {passes : List Pass} {matching : Matching}

/-- All symbols take part in the exact pass. -/
theorem isSome_key_exact (side : Side) : (Pass.exact.key side.symbol).isSome :=
  rfl

/-- The exact pass pairs each symbol with itself, and further passes find nothing left. -/
theorem ofPasses_self (sides : List Side) (passes : List Pass) :
    (ofPasses sides sides (.exact :: passes)).matched = sides.map (fun side => (side, side)) ∧
      (ofPasses sides sides (.exact :: passes)).unmatchedBefore = [] ∧
      (ofPasses sides sides (.exact :: passes)).unmatchedAfter = [] := by
  induction passes using List.reverseRecOn with
  | nil =>
    have houtcome : (fresh sides sides).outcome .exact =
        ⟨sides.map fun side => (side, side), [], []⟩ :=
      Pairing.byRank_self fun side _ => isSome_key_exact side
    show ((fresh sides sides).step .exact).matched = _ ∧
      ((fresh sides sides).step .exact).unmatchedBefore = [] ∧
      ((fresh sides sides).step .exact).unmatchedAfter = []
    rw [matched_step, unmatchedBefore_step, unmatchedAfter_step, houtcome]
    exact ⟨rfl, rfl, rfl⟩
  | append_singleton passes pass ih =>
    obtain ⟨hmatched, hbefore, hafter⟩ := ih
    -- the exact pass has left nothing for later ones
    have hexhausted : (ofPasses sides sides (.exact :: passes)).isExhausted := by
      rw [isExhausted, hbefore]
      rfl
    rw [← List.cons_append, ofPasses_append_singleton, matched_step, unmatchedBefore_step,
      unmatchedAfter_step, outcome_of_isExhausted hexhausted, List.append_nil]
    exact ⟨hmatched, hbefore, hafter⟩

/-- A pair of a symbol and itself gains nothing. -/
theorem eq_zero_of_paddingGain?_self {side : Side} {gain : Segment × Float}
    (h : paddingGain? (side, side) = some gain) : gain.2 = 0 := by
  rw [paddingGain?] at h
  dsimp only at h
  split at h
  · cases h
  · cases h
    exact Number.sub_self_of_isFinite side.symbol.isFinite_paddingPss

theorem Reached.rounded_eq_nil_of_self (h : Reached sides sides passes matching)
    (hmatched : matching.matched = sides.map fun side => (side, side)) :
    matching.padding.rounded = [] := by
  rw [h.padding_eq]
  refine PaddingTotals.rounded_eq_nil ?_
  intro gain hgain
  obtain ⟨pair, hpair, hgain⟩ := List.mem_filterMap.1 hgain
  have hmem : pair ∈ matching.matched := by
    rw [← h.map_snd_credited]
    exact (List.filter_sublist.map Prod.snd).subset hpair
  rw [hmatched] at hmem
  obtain ⟨side, -, rfl⟩ := List.mem_map.1 hmem
  exact eq_zero_of_paddingGain?_self hgain

/-- A list whose sizes fit is matched with itself place by place, and no padding is gained. -/
theorem exists_ofSymbols_self {symbols : List Symbol} (hfits : ∀ sym ∈ symbols, sym.Fits) :
    ∃ matching, ofSymbols symbols symbols = .ok matching ∧
      matching.matched = (Side.ofList symbols).map (fun side => (side, side)) ∧
      matching.unmatchedBefore = [] ∧ matching.unmatchedAfter = [] ∧
      matching.padding.rounded = [] := by
  obtain ⟨matching, hok, hreached⟩ := exists_reached_of_fits hfits hfits
  obtain ⟨hmatched, hbefore, hafter⟩ := ofPasses_self (Side.ofList symbols)
    [.resized, .renamed, .moved]
  have halike := hreached.alike
  have hpairs : matching.matched = (Side.ofList symbols).map fun side => (side, side) := by
    rw [← hreached.map_snd_credited, halike.credited_eq, (reached_ofPasses _ _ _).map_snd_credited]
    exact hmatched
  exact ⟨matching, hok, hpairs, halike.unmatchedBefore_eq.trans hbefore,
    halike.unmatchedAfter_eq.trans hafter, hreached.rounded_eq_nil_of_self hpairs⟩

end Matching

end BuildScope
