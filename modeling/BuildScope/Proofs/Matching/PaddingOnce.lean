import BuildScope.Diff.Delta
import BuildScope.Proofs.Matching.Stability

/-!
# Padding Counted Once

Where the padding gained by a pair of the exact pass is accounted for. The delta of the pair may
answer for it, or the totals of its segment. One of the two always does. Both do for symbols that
are marked as overhead and have more than padding, whose gain is thus counted twice.

* `Matching.charged`: the pairs whose padding gain the totals account for.
* `Matching.gains_eq_map_charged`: the totals are the gains of these pairs.
* `Matching.padding_counted_once_iff`: when the gain of a pair of the exact pass counts once.
-/

namespace BuildScope

open Number (Overflow Checked.add Checked.sub Checked.add_eq_ok_iff Checked.sub_eq_ok_iff)

/-! ## What the delta of a pair answers for -/

/-- The key of the exact pass names the bytes of its symbol besides the padding. -/
theorem Pass.Agrees.size_sub_padding_eq {b a : Side} (h : Pass.exact.Agrees b a) :
    b.symbol.size.toInt - b.symbol.padding.toInt =
      a.symbol.size.toInt - a.symbol.padding.toInt := by
  obtain ⟨k, hb, ha⟩ := h
  simpa [Pass.key] using congrArg (fun key => key.bind MatchKey.size) (hb.trans ha.symm)

/-- Symbols that share the key of the exact pass have the same size without padding. -/
theorem Pass.Agrees.sizeWithoutPadding_eq {b a : Side} (h : Pass.exact.Agrees b a) :
    b.symbol.sizeWithoutPadding = a.symbol.sizeWithoutPadding := by
  rw [Symbol.sizeWithoutPadding, Symbol.sizeWithoutPadding, Checked.sub, Checked.sub,
    h.size_sub_padding_eq]

/-- No pass comes before the exact one. -/
theorem Pass.eq_exact_of_rank_le {pass : Pass} (h : pass.rank ≤ Pass.exact.rank) :
    pass = .exact := by
  cases pass with
  | exact => rfl
  | resized | renamed | moved => exact absurd h (by decide)

/-- A symbol has no bytes but its padding exactly if its size is its padding. -/
theorem Symbol.sizeWithoutPadding_eq_zero_iff {sym : Symbol} {n : Int64}
    (h : sym.sizeWithoutPadding = .ok n) : n = 0 ↔ sym.size = sym.padding := by
  rw [Symbol.sizeWithoutPadding_eq_ok_iff] at h
  rw [← Int64.toInt_inj, ← Int64.toInt_inj, h, Int64.toInt_zero]
  omega

/-- The delta of two symbols with the same bytes besides their padding answers for the padding if
there are no such bytes, or if the new symbol is overhead. -/
theorem Change.attributesPadding_matched {b a : Side} (hfits : a.symbol.Fits)
    (hsame : b.symbol.sizeWithoutPadding = a.symbol.sizeWithoutPadding) :
    (Change.matched b a).attributesPadding =
      .ok (a.symbol.isOverhead || a.symbol.size = a.symbol.padding) := by
  obtain ⟨n, hn, -⟩ := Symbol.exists_sizeWithoutPadding hfits
  have hzero := Symbol.sizeWithoutPadding_eq_zero_iff hn
  -- both sizes are computed, and are the same
  have hbind {β : Type} (f : Int64 → Except Overflow β) : (Except.ok n >>= f) = f n := rfl
  rw [attributesPadding, hsame, hn]
  simp only [hbind, hzero, ne_eq, ite_not]
  by_cases hover : a.symbol.isOverhead
  · simp only [hover, ↓reduceIte, Bool.true_or]
    rfl
  · by_cases hsize : a.symbol.size = a.symbol.padding
    · simp only [hover, hsize, ↓reduceIte]
      rfl
    · simp only [hover, hsize, ↓reduceIte]
      rfl

/-- The delta of a pair counts the padding that it answers for. -/
theorem Delta.padding_matched {b a : Side} {attributed : Bool}
    (h : (Change.matched b a).attributesPadding = .ok attributed) :
    (Delta.matched b a).padding =
      if attributed then Checked.sub a.symbol.padding b.symbol.padding else .ok 0 := by
  rw [Delta.padding, Delta.matched, Delta.attributesPadding, h]
  cases attributed with
  | false => rfl
  | true => rfl

/-- The delta of two symbols with the same bytes besides their padding has grown by the padding it
answers for. -/
theorem Delta.size_matched {b a : Side} (hfits : a.symbol.Fits)
    (hsame : b.symbol.sizeWithoutPadding = a.symbol.sizeWithoutPadding) :
    (Delta.matched b a).size = (Delta.matched b a).padding := by
  obtain ⟨n, hn, -⟩ := Symbol.exists_sizeWithoutPadding hfits
  have hzero : (Delta.matched b a).sizeWithoutPadding = .ok 0 := by
    have hsub : Checked.sub n n = .ok 0 := Checked.sub_eq_ok_iff.2 (by simp)
    calc (Delta.matched b a).sizeWithoutPadding
        = (do
            let before ← b.symbol.sizeWithoutPadding
            let after ← a.symbol.sizeWithoutPadding
            Checked.sub after before) := rfl
      _ = .ok 0 := by rw [hsame, hn]; exact hsub
  rw [Delta.size, hzero]
  cases hp : (Delta.matched b a).padding with
  | error overflow => rfl
  | ok p => exact Checked.add_eq_ok_iff.2 (by simp)

namespace Matching

/-! ## What the totals account for -/

/-- The padding that a pair has gained, and the segment of its old symbol. -/
def paddingDrift (sides : Side × Side) : Segment × Float :=
  (⟨sides.1.symbol.containerName, sides.1.symbol.sectionName⟩,
    sides.2.symbol.paddingPss - sides.1.symbol.paddingPss)

/-- The pairs whose padding gain is in the totals, in the order in which it was added. -/
def charged (matching : Matching) : List (Side × Side) :=
  matching.tracked.filter fun sides => sides.1.symbol.size ≠ sides.1.symbol.padding

/-- The gains that are added up are those of the charged pairs. -/
theorem gains_eq_map_charged (matching : Matching) :
    matching.gains = matching.charged.map paddingDrift := by
  rw [gains, charged, ← List.filterMap_eq_map, List.filterMap_filter]
  apply List.filterMap_congr
  rintro ⟨b, a⟩ -
  by_cases hsize : b.symbol.size = b.symbol.padding
  · simp [paddingGain?, hsize]
  · simp [paddingGain?, paddingDrift, hsize]

variable {before after : List Symbol} {matching : Matching}

/-- Charged pairs are pairs of the matching. -/
theorem charged_sublist {passes : List Pass} {before after : List Side}
    (h : Reached before after passes matching) : matching.charged.Sublist matching.matched := by
  refine List.filter_sublist.trans ?_
  rw [← h.map_snd_credited]
  exact List.filter_sublist.map Prod.snd

/-- No pair is charged twice. -/
theorem nodup_charged {passes : List Pass}
    (h : Reached (Side.ofList before) (Side.ofList after) passes matching) :
    matching.charged.Nodup := by
  have hmatched : matching.matched.Nodup := by
    have hall := h.perm_before.nodup_iff.2 (Side.nodup_ofList before)
    exact (List.nodup_append.1 hall).1.of_map Prod.fst
  exact hmatched.sublist (charged_sublist h)

/-- A pair of the exact pass is charged exactly if its old symbol has more than padding. -/
theorem mem_charged_iff {b a : Side} (h : (Pass.exact, b, a) ∈ matching.credited) :
    (b, a) ∈ matching.charged ↔ b.symbol.size ≠ b.symbol.padding := by
  have hmem : (b, a) ∈ matching.tracked :=
    List.mem_map_of_mem (List.mem_filter.2 ⟨h, rfl⟩)
  simp [charged, hmem]

/-- The padding gain of a pair of the exact pass is accounted for by its delta or by the totals. It
counts once unless the new symbol is overhead and has more than padding. -/
theorem padding_counted_once_iff (hbefore : ∀ sym ∈ before, sym.Fits)
    (hafter : ∀ sym ∈ after, sym.Fits) :
    ∃ matching, ofSymbols before after = .ok matching ∧
      matching.padding = ({} : PaddingTotals).addAll (matching.charged.map paddingDrift) ∧
      matching.charged.Nodup ∧
      ∀ b a, (Pass.exact, b, a) ∈ matching.credited →
        ∃ attributed, (Change.matched b a).attributesPadding = .ok attributed ∧
          (Delta.matched b a).padding =
            (if attributed then Checked.sub a.symbol.padding b.symbol.padding else .ok 0) ∧
          (Delta.matched b a).size = (Delta.matched b a).padding ∧
          (attributed = true ∨ (b, a) ∈ matching.charged) ∧
          ((attributed = true ↔ (b, a) ∉ matching.charged) ↔
            (a.symbol.isOverhead → a.symbol.size = a.symbol.padding)) := by
  obtain ⟨matching, hok, hreached⟩ := exists_reached_of_fits hbefore hafter
  refine ⟨matching, hok, ?_, nodup_charged hreached, fun b a hpair => ?_⟩
  · rw [← gains_eq_map_charged]
    exact hreached.padding_eq
  have hfits : a.symbol.Fits :=
    hafter _ (Side.symbol_mem_of_mem_ofList (hreached.mem_of_mem_credited hpair).2)
  have hsame := (hreached.agrees_of_mem_credited hpair).sizeWithoutPadding_eq
  have hattributed := Change.attributesPadding_matched hfits hsame
  -- both sides have bytes besides their padding, or neither has
  have hbare : b.symbol.size = b.symbol.padding ↔ a.symbol.size = a.symbol.padding := by
    obtain ⟨n, hn, -⟩ := Symbol.exists_sizeWithoutPadding hfits
    rw [← Symbol.sizeWithoutPadding_eq_zero_iff hn,
      ← Symbol.sizeWithoutPadding_eq_zero_iff (hsame.trans hn)]
  refine ⟨_, hattributed, Delta.padding_matched hattributed, Delta.size_matched hfits hsame, ?_⟩
  rw [mem_charged_iff hpair, ne_eq, hbare]
  cases a.symbol.isOverhead <;> by_cases hsize : a.symbol.size = a.symbol.padding <;>
    simp [hsize]

/-- The padding that a marked symbol has gained is counted twice. -/
theorem padding_counted_twice_of_overhead :
    let old : Symbol :=
      { containerName := "lib", sectionName := ".text", size := 10, padding := 2
        fullName := "Overhead: table" }
    let new : Symbol := { old with size := 12, padding := 4 }
    (∀ sym ∈ [old], sym.Fits) ∧ (∀ sym ∈ [new], sym.Fits) ∧
      ∃ matching, ofSymbols [old] [new] = .ok matching ∧
        (Pass.exact, ⟨some 0, old⟩, ⟨some 0, new⟩) ∈ matching.credited ∧
        (Change.matched ⟨some 0, old⟩ ⟨some 0, new⟩).attributesPadding = .ok true ∧
        (Delta.matched ⟨some 0, old⟩ ⟨some 0, new⟩).size = .ok 2 ∧
        (⟨some 0, old⟩, ⟨some 0, new⟩) ∈ matching.charged := by
  intro old new
  have hold : ∀ sym ∈ [old], sym.Fits := by decide
  have hnew : ∀ sym ∈ [new], sym.Fits := by decide
  obtain ⟨matching, hok, -, -, hpairs⟩ := padding_counted_once_iff hold hnew
  have hreached := reached_of_ofSymbols hok
  -- the two symbols share the key of the first pass, and there are no others
  have hagrees : Pass.exact.Agrees ⟨some 0, old⟩ ⟨some 0, new⟩ := ⟨_, rfl, by decide⟩
  obtain ⟨⟨pass, b, a⟩, hpair, hrank, -⟩ := hreached.not_blocked inOrder_all
    (Pass.mem_all .exact) (List.mem_singleton_self _) (List.mem_singleton_self _) hagrees
  obtain rfl : pass = .exact := Pass.eq_exact_of_rank_le hrank
  obtain ⟨hb, ha⟩ := hreached.mem_of_mem_credited hpair
  obtain rfl : b = ⟨some 0, old⟩ := List.mem_singleton.1 hb
  obtain rfl : a = ⟨some 0, new⟩ := List.mem_singleton.1 ha
  obtain ⟨attributed, hattributed, hpadding, hsize, heither, honce⟩ := hpairs _ _ hpair
  have hmarked : ¬ (new.isOverhead → new.size = new.padding) := by decide
  have htwice : ¬ (attributed = true ↔ (⟨some 0, old⟩, ⟨some 0, new⟩) ∉ matching.charged) :=
    fun h => hmarked (honce.1 h)
  have hcharged : (⟨some 0, old⟩, ⟨some 0, new⟩) ∈ matching.charged := by
    by_contra hnot
    exact htwice ⟨fun _ => hnot, fun _ => heither.resolve_right hnot⟩
  obtain rfl : attributed = true := by
    by_contra hnot
    exact htwice ⟨fun h => absurd h hnot, fun h => absurd hcharged h⟩
  refine ⟨hold, hnew, matching, hok, hpair, hattributed, ?_, hcharged⟩
  rw [hsize, hpadding, if_pos rfl]
  exact Checked.sub_eq_ok_iff.2 (by decide)

end Matching

end BuildScope
