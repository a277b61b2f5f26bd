import BuildScope.Diff.Matching
import BuildScope.Proofs.Except
import BuildScope.Proofs.Padding.Additions
import BuildScope.Proofs.Pairing.Queues
import Mathlib.Data.List.Nodup

/-!
# Passes of a Matching

What the passes of a matching lead to, one pass after the other. A matching is reached by some
passes if each of them has run, or was left out because one side had no symbol left.

* `Matching.Reached`: the matchings that a list of passes leads to.
* `Matching.exists_reached_of_fits`: symbols whose sizes fit have a matching, reached by all passes.
* `Matching.credited`: the pairs of a matching, each with the pass that made it.
* `Matching.Reached.padding_eq`: the padding of a matching is the sum of its gains.
* `Matching.Reached.perm_before`, `Matching.Reached.perm_after`: no symbol is lost or used twice.
-/

namespace BuildScope

open Number (FitsInt64 Overflow)

/-! ## Sizes that can be computed -/

/-- The size of a symbol without its padding is a signed number of 64 bits. -/
def Symbol.Fits (sym : Symbol) : Prop :=
  FitsInt64 (sym.size.toInt - sym.padding.toInt)

instance (sym : Symbol) : Decidable sym.Fits :=
  inferInstanceAs (Decidable (FitsInt64 _))

/-- Every size without padding can be computed, and is the exact difference. -/
theorem Symbol.exists_sizeWithoutPadding {sym : Symbol} (h : sym.Fits) :
    ∃ n, sym.sizeWithoutPadding = .ok n ∧ n.toInt = sym.size.toInt - sym.padding.toInt := by
  obtain ⟨n, hn⟩ := Number.Checked.exists_sub_eq_ok h
  exact ⟨n, hn, Symbol.sizeWithoutPadding_eq_ok_iff.1 hn⟩

/-- A symbol has no bytes besides its padding exactly if its size is its padding. -/
theorem Symbol.sizeWithoutPadding_eq_ok_zero_iff {sym : Symbol} :
    sym.sizeWithoutPadding = .ok 0 ↔ sym.size = sym.padding := by
  rw [sizeWithoutPadding_eq_ok_iff, ← Int64.toInt_inj, Int64.toInt_zero]
  omega

/-- A size without padding that was computed is one that can be. -/
theorem Symbol.fits_of_eq_ok {sym : Symbol} {n : Int64} (h : sym.sizeWithoutPadding = .ok n) :
    sym.Fits := by
  rw [Fits, ← sizeWithoutPadding_eq_ok_iff.1 h]
  exact Number.fitsInt64_toInt n

/-- The symbols of a list differ in their places. -/
theorem Side.nodup_ofList (symbols : List Symbol) : (Side.ofList symbols).Nodup := by
  apply List.Nodup.of_map Side.position
  have hplaces : (Side.ofList symbols).map Side.position =
      (List.range' 0 symbols.length).map some := by
    rw [← List.zipIdx_map_snd 0 symbols, Side.ofList, List.map_map, List.map_map]
    rfl
  rw [hplaces]
  exact List.Nodup.map (fun _ _ => Option.some.inj) List.nodup_range'

theorem Side.map_symbol_ofList (symbols : List Symbol) :
    (Side.ofList symbols).map Side.symbol = symbols := by
  rw [Side.ofList, List.map_map]
  exact List.zipIdx_map_fst 0 symbols

theorem Side.symbol_mem_of_mem_ofList {symbols : List Symbol} {side : Side}
    (h : side ∈ Side.ofList symbols) : side.symbol ∈ symbols := by
  obtain ⟨⟨sym, place⟩, hmem, rfl⟩ := List.mem_map.1 h
  exact List.fst_mem_of_mem_zipIdx hmem

/-- Two symbols share their key of a pass. -/
def Pass.Agrees (pass : Pass) (before after : Side) : Prop :=
  ∃ k, pass.key before.symbol = some k ∧ pass.key after.symbol = some k

/-- Padding is accounted for by the first pass only. -/
theorem Pass.tracksPadding_eq (pass : Pass) : pass.tracksPadding = decide (pass = .exact) := by
  cases pass <;> rfl

/-- Place of a pass in the order of the passes. -/
def Pass.rank (pass : Pass) : Nat :=
  Pass.all.idxOf pass

namespace Matching

theorem checkSizes_of_fits {symbols : List Symbol} (h : ∀ sym ∈ symbols, sym.Fits) :
    checkSizes symbols = .ok () := by
  induction symbols with
  | nil => rfl
  | cons sym symbols ih =>
    obtain ⟨n, hn, -⟩ := Symbol.exists_sizeWithoutPadding (h sym (List.mem_cons_self ..))
    have hrest := ih fun other hother => h other (List.mem_cons_of_mem _ hother)
    change ((sym.sizeWithoutPadding >>= fun _ => .ok ()) >>= fun _ => checkSizes symbols) = .ok ()
    rw [hn]
    exact hrest

/-- A matching before any pass has run. -/
def fresh (before after : List Side) : Matching :=
  { unmatchedBefore := before, unmatchedAfter := after }

/-- What a pass makes of the symbols left over, by key and rank. -/
def outcome (matching : Matching) (pass : Pass) : Pairing Side :=
  Pairing.byRank (fun side => pass.key side.symbol) matching.unmatchedBefore
    matching.unmatchedAfter

@[simp]
theorem matched_step (matching : Matching) (pass : Pass) :
    (matching.step pass).matched = matching.matched ++ (matching.outcome pass).pairs := by
  simp [step, outcome, Pairing.byKey_eq_byRank]

@[simp]
theorem unmatchedBefore_step (matching : Matching) (pass : Pass) :
    (matching.step pass).unmatchedBefore = (matching.outcome pass).before := by
  simp [step, outcome, Pairing.byKey_eq_byRank]

@[simp]
theorem unmatchedAfter_step (matching : Matching) (pass : Pass) :
    (matching.step pass).unmatchedAfter = (matching.outcome pass).after := by
  simp [step, outcome, Pairing.byKey_eq_byRank]

@[simp]
theorem padding_step (matching : Matching) (pass : Pass) :
    (matching.step pass).padding =
      if pass.tracksPadding then addGains matching.padding (matching.outcome pass).pairs
      else matching.padding := by
  simp [step, outcome, Pairing.byKey_eq_byRank]

@[simp]
theorem reports_step (matching : Matching) (pass : Pass) :
    (matching.step pass).reports = matching.reports ++
      [⟨pass, (matching.outcome pass).pairs.length, matching.unmatchedAfter.length⟩] := by
  simp [step, outcome, Pairing.byKey_eq_byRank]

/-- The symbols that a pass pairs share their key. -/
theorem agrees_of_mem_outcome {matching : Matching} {pass : Pass} {sides : Side × Side}
    (h : sides ∈ (matching.outcome pass).pairs) : pass.Agrees sides.1 sides.2 :=
  Pairing.exists_key_of_mem_partnered h

theorem not_agrees_of_mem_outcome {matching : Matching} {pass : Pass} {b a : Side}
    (hb : b ∈ (matching.outcome pass).before) (ha : a ∈ (matching.outcome pass).after) :
    ¬ pass.Agrees b a :=
  fun ⟨_, hkey, hkey'⟩ => Pairing.key_ne_of_mem_left hb ha hkey hkey'

/-- A pass pairs each symbol that is left, or leaves it over. -/
theorem outcome_perm_before (matching : Matching) (pass : Pass) :
    ((matching.outcome pass).pairs.map Prod.fst ++ (matching.outcome pass).before).Perm
      matching.unmatchedBefore :=
  Pairing.perm_before (fun side : Side => pass.key side.symbol) _ _

theorem outcome_perm_after (matching : Matching) (pass : Pass) :
    ((matching.outcome pass).pairs.map Prod.snd ++ (matching.outcome pass).after).Perm
      matching.unmatchedAfter :=
  Pairing.perm_after (fun side : Side => pass.key side.symbol) _ _

theorem outcome_before_sublist (matching : Matching) (pass : Pass) :
    (matching.outcome pass).before.Sublist matching.unmatchedBefore :=
  Pairing.unpartnered_sublist (fun side : Side => pass.key side.symbol) _ _

theorem outcome_after_sublist (matching : Matching) (pass : Pass) :
    (matching.outcome pass).after.Sublist matching.unmatchedAfter :=
  Pairing.unpartnered_sublist (fun side : Side => pass.key side.symbol) _ _

/-- A pass goes through the symbols of the new build in their order. -/
theorem outcome_pairs_sublist (matching : Matching) (pass : Pass) :
    ((matching.outcome pass).pairs.map Prod.snd).Sublist matching.unmatchedAfter :=
  Pairing.map_snd_partnered_sublist (fun side : Side => pass.key side.symbol) _ _

/-! ## Matchings that passes lead to -/

/-- The matchings that a list of passes leads to. A pass runs on what the passes before have left
over, and is left out if one side has no symbol left. -/
inductive Reached (before after : List Side) : List Pass → Matching → Prop
  | fresh : Reached before after [] (fresh before after)
  | step {passes : List Pass} {matching : Matching} (pass : Pass) :
      Reached before after passes matching →
      Reached before after (passes ++ [pass]) (matching.step pass)
  | skip {passes : List Pass} {matching : Matching} (pass : Pass) :
      Reached before after passes matching → matching.isExhausted →
      Reached before after (passes ++ [pass]) matching

variable {before after : List Side} {passes : List Pass} {matching : Matching}

/-- What holds before any pass has run, and is kept by each pass, holds of all matchings. -/
@[elab_as_elim]
theorem Reached.invariant {motive : Matching → Prop} (h : Reached before after passes matching)
    (hfresh : motive (Matching.fresh before after))
    (hstep : ∀ matching pass, motive matching → motive (matching.step pass)) :
    motive matching := by
  induction h with
  | fresh => exact hfresh
  | step pass _ ih => exact hstep _ pass ih
  | skip _ _ _ ih => exact ih

/-- Further passes can be left out once one side has no symbol left. -/
theorem Reached.skip_all (h : Reached before after passes matching) (hex : matching.isExhausted)
    (more : List Pass) : Reached before after (passes ++ more) matching := by
  induction more generalizing passes with
  | nil => simpa using h
  | cons pass more ih =>
    rw [List.append_cons]
    exact ih (h.skip pass hex)

/-- Running further passes leads further. -/
theorem Reached.run (h : Reached before after passes matching) (more : List Pass) :
    Reached before after (passes ++ more) (matching.run more) := by
  induction more generalizing passes matching with
  | nil => simpa [Matching.run] using h
  | cons pass more ih =>
    rw [Matching.run]
    split
    · exact h.skip_all ‹_› (pass :: more)
    · rw [List.append_cons]
      exact ih (h.step pass)

/-- A matching of two lists of symbols is reached by all passes. -/
theorem reached_of_ofSymbols {before after : List Symbol}
    (h : ofSymbols before after = .ok matching) :
    Reached (Side.ofList before) (Side.ofList after) Pass.all matching := by
  have hrun :
      (Matching.fresh (Side.ofList before) (Side.ofList after)).run Pass.all = matching := by
    unfold ofSymbols at h
    dsimp only at h
    -- whether the sizes are computed makes no difference to what they lead to
    split at h
    · obtain ⟨-, -, h⟩ := Except.bind_eq_ok.1 h
      obtain ⟨-, -, h⟩ := Except.bind_eq_ok.1 h
      exact Except.ok.inj h
    · exact Except.ok.inj h
  rw [← hrun]
  exact Reached.fresh.run Pass.all

/-- Symbols whose sizes fit have a matching. -/
theorem exists_reached_of_fits {before after : List Symbol} (hbefore : ∀ sym ∈ before, sym.Fits)
    (hafter : ∀ sym ∈ after, sym.Fits) :
    ∃ matching, ofSymbols before after = .ok matching ∧
      Reached (Side.ofList before) (Side.ofList after) Pass.all matching := by
  have hok : ∃ matching, ofSymbols before after = .ok matching := by
    unfold ofSymbols
    rw [checkSizes_of_fits hbefore, checkSizes_of_fits hafter]
    dsimp only
    split
    · exact ⟨_, rfl⟩
    · exact ⟨_, rfl⟩
  obtain ⟨matching, hok⟩ := hok
  exact ⟨matching, hok, reached_of_ofSymbols hok⟩

/-! ## Which pass made a pair -/

/-- The passes that made the pairs of a matching, pair by pair, as they have reported it. -/
def makers (matching : Matching) : List Pass :=
  matching.reports.flatMap fun report => List.replicate report.matched report.pass

/-- The pairs of a matching, each with the pass that made it. -/
def credited (matching : Matching) : List (Pass × Side × Side) :=
  matching.makers.zip matching.matched

/-- The pairs made by the passes that track padding, in order. -/
def tracked (matching : Matching) : List (Side × Side) :=
  (matching.credited.filter fun pair => pair.1.tracksPadding).map Prod.snd

/-- The padding gains that a matching has added up, in order. -/
def gains (matching : Matching) : List (Segment × Float) :=
  matching.tracked.filterMap paddingGain?

/-- The padding gain that a pair adds to the totals, if the pass that made it tracks padding. -/
def creditedGain? (pair : Pass × Side × Side) : Option (Segment × Float) :=
  if pair.1.tracksPadding then paddingGain? pair.2 else none

theorem gains_eq_filterMap_credited (matching : Matching) :
    matching.gains = matching.credited.filterMap creditedGain? := by
  rw [gains, tracked, List.filterMap_map, List.filterMap_filter]
  rfl

/-- Giving every member of a list the same label. -/
private theorem zip_replicate_length {α β : Type} (label : α) (l : List β) :
    (List.replicate l.length label).zip l = l.map (label, ·) := by
  induction l with
  | nil => rfl
  | cons b l ih => rw [List.length_cons, List.replicate_succ, List.zip_cons_cons, ih, List.map_cons]

namespace Reached

/-- Each pair has a pass that made it. -/
theorem length_makers (h : Reached before after passes matching) :
    matching.makers.length = matching.matched.length := by
  refine h.invariant rfl ?_
  intro matching pass ih
  simp [makers, ← ih]

theorem map_snd_credited (h : Reached before after passes matching) :
    matching.credited.map Prod.snd = matching.matched :=
  List.map_snd_zip (Nat.le_of_eq h.length_makers.symm)

/-- A pass is credited with the pairs that it makes. -/
theorem credited_step (h : Reached before after passes matching) (pass : Pass) :
    (matching.step pass).credited =
      matching.credited ++ (matching.outcome pass).pairs.map (pass, ·) := by
  have hmakers : (matching.step pass).makers =
      matching.makers ++ List.replicate (matching.outcome pass).pairs.length pass := by
    simp [makers]
  rw [credited, hmakers, matched_step, List.zip_append h.length_makers, ← credited,
    zip_replicate_length]

/-- Only passes that were to run are credited. -/
theorem mem_passes_of_mem_credited (h : Reached before after passes matching)
    {pair : Pass × Side × Side} (hpair : pair ∈ matching.credited) : pair.1 ∈ passes := by
  induction h with
  | fresh => cases hpair
  | step pass hreached ih =>
    rw [hreached.credited_step, List.mem_append, List.mem_map] at hpair
    obtain hpair | ⟨sides, -, rfl⟩ := hpair
    · exact List.mem_append_left _ (ih hpair)
    · exact List.mem_append_right _ (List.mem_singleton_self pass)
  | skip pass _ _ ih => exact List.mem_append_left _ (ih hpair)

theorem exists_credited_of_mem_matched (h : Reached before after passes matching)
    {sides : Side × Side} (hsides : sides ∈ matching.matched) :
    ∃ pass, (pass, sides) ∈ matching.credited := by
  rw [← h.map_snd_credited] at hsides
  obtain ⟨⟨pass, _⟩, hmem, rfl⟩ := List.mem_map.1 hsides
  exact ⟨pass, hmem⟩

/-! ## Padding gains -/

/-- The padding of the pairs that a pass makes is tracked if the pass tracks any. -/
theorem tracked_step (h : Reached before after passes matching) (pass : Pass) :
    (matching.step pass).tracked =
      matching.tracked ++ if pass.tracksPadding then (matching.outcome pass).pairs else [] := by
  rw [tracked, h.credited_step, List.filter_append, List.map_append, ← tracked]
  congr 1
  cases htracks : pass.tracksPadding with
  | false => simp [List.filter_map, htracks, Function.comp_def]
  | true => simp [List.filter_map, htracks, Function.comp_def]

/-- The padding of a matching is the sum of its gains, added up in order. -/
theorem padding_eq (h : Reached before after passes matching) :
    matching.padding = ({} : PaddingTotals).addAll matching.gains := by
  induction h with
  | fresh => rfl
  | @step _ matching pass hreached ih =>
    rw [gains, hreached.tracked_step, padding_step, List.filterMap_append,
      PaddingTotals.addAll_append, ← gains, ← ih]
    split
    · rfl
    · rfl
  | skip _ _ _ ih => exact ih

/-! ## No symbol is lost or used twice -/

/-- Every symbol is in one pair or left over, once. -/
theorem perm_before (h : Reached before after passes matching) :
    (matching.matched.map Prod.fst ++ matching.unmatchedBefore).Perm before := by
  refine h.invariant (List.Perm.refl before) ?_
  intro matching pass ih
  refine List.Perm.trans ?_ ih
  rw [matched_step, unmatchedBefore_step, List.map_append, List.append_assoc]
  exact (matching.outcome_perm_before pass).append_left _

theorem perm_after (h : Reached before after passes matching) :
    (matching.matched.map Prod.snd ++ matching.unmatchedAfter).Perm after := by
  refine h.invariant (List.Perm.refl after) ?_
  intro matching pass ih
  refine List.Perm.trans ?_ ih
  rw [matched_step, unmatchedAfter_step, List.map_append, List.append_assoc]
  exact (matching.outcome_perm_after pass).append_left _

/-- The symbols of a credited pair are those of the two lists. -/
theorem mem_of_mem_credited (h : Reached before after passes matching)
    {pair : Pass × Side × Side} (hpair : pair ∈ matching.credited) :
    pair.2.1 ∈ before ∧ pair.2.2 ∈ after := by
  have hmatched : pair.2 ∈ matching.matched := by
    rw [← h.map_snd_credited]
    exact List.mem_map_of_mem hpair
  exact ⟨h.perm_before.subset (List.mem_append_left _ (List.mem_map_of_mem hmatched)),
    h.perm_after.subset (List.mem_append_left _ (List.mem_map_of_mem hmatched))⟩

/-- The symbols that are left over keep their order. -/
theorem unmatchedBefore_sublist (h : Reached before after passes matching) :
    matching.unmatchedBefore.Sublist before := by
  refine h.invariant (List.Sublist.refl before) ?_
  intro matching pass ih
  rw [unmatchedBefore_step]
  exact (matching.outcome_before_sublist pass).trans ih

theorem unmatchedAfter_sublist (h : Reached before after passes matching) :
    matching.unmatchedAfter.Sublist after := by
  refine h.invariant (List.Sublist.refl after) ?_
  intro matching pass ih
  rw [unmatchedAfter_step]
  exact (matching.outcome_after_sublist pass).trans ih

end Reached

end Matching

end BuildScope
