import BuildScope.Proofs.Matching.Order
import BuildScope.Proofs.Matching.Ranking

/-!
# Stability of a Matching

Passes prefer one another in their order: a symbol that could be matched by a pass is matched by
that pass or by an earlier one, unless the symbol it shares its key with is.

* `Matching.Stable`: every pair agrees on the key of its pass, and no two symbols that agree on some
  key are left for a later pass.
* `Matching.ofSymbols_stable`: the matching of two lists of symbols is stable.
-/

namespace BuildScope

namespace Matching

/-- A matching of two lists is stable with respect to the order of the passes. -/
structure Stable (before after : List Side) (matching : Matching) : Prop where
  /-- Each pair is credited to a pass. -/
  credited_eq : matching.credited.map Prod.snd = matching.matched
  /-- A pair shares the key of the pass that made it. -/
  agrees : ∀ pair ∈ matching.credited, pair.1.Agrees pair.2.1 pair.2.2
  /-- Of two symbols that share the key of a pass, one is matched by that pass or an earlier one. -/
  not_blocked : ∀ b ∈ before, ∀ a ∈ after, ∀ pass : Pass, pass.Agrees b a →
    ∃ pair ∈ matching.credited, pair.1.rank ≤ pass.rank ∧ (pair.2.1 = b ∨ pair.2.2 = a)
  /-- Two symbols that are left over share the key of no pass. -/
  left_apart : ∀ b ∈ matching.unmatchedBefore, ∀ a ∈ matching.unmatchedAfter,
    ∀ pass : Pass, ¬ pass.Agrees b a
  /-- A pair shares the key of no pass before the one that made it. -/
  first_agreement : ∀ pair ∈ matching.credited, ∀ pass : Pass, pass.rank < pair.1.rank →
    ¬ pass.Agrees pair.2.1 pair.2.2

variable {before after : List Side} {passes : List Pass} {matching : Matching}

namespace Reached

/-- A pair shares the key of the pass that made it. -/
theorem agrees_of_mem_credited (h : Reached before after passes matching)
    {pair : Pass × Side × Side} (hpair : pair ∈ matching.credited) :
    pair.1.Agrees pair.2.1 pair.2.2 := by
  induction h with
  | fresh => cases hpair
  | step pass hreached ih =>
    rw [hreached.credited_step, List.mem_append, List.mem_map] at hpair
    obtain hpair | ⟨sides, hsides, rfl⟩ := hpair
    · exact ih hpair
    · exact agrees_of_mem_outcome hsides
  | skip _ _ _ ih => exact ih hpair

/-- Symbols that are left over after a pass do not share its key. -/
theorem not_agrees_of_left (h : Reached before after passes matching) {pass : Pass}
    (hpass : pass ∈ passes) {b a : Side} (hb : b ∈ matching.unmatchedBefore)
    (ha : a ∈ matching.unmatchedAfter) : ¬ pass.Agrees b a := by
  induction h with
  | fresh => cases hpass
  | @step passes matching last _ ih =>
    rw [unmatchedBefore_step] at hb
    rw [unmatchedAfter_step] at ha
    obtain hpass | hpass := List.mem_append.1 hpass
    · exact ih hpass ((matching.outcome_before_sublist last).subset hb)
        ((matching.outcome_after_sublist last).subset ha)
    · rw [List.mem_singleton.1 hpass]
      exact not_agrees_of_mem_outcome hb ha
  | @skip passes matching last _ hex _ =>
    -- one of the two sides has no symbol left
    simp only [isExhausted, Bool.or_eq_true, List.isEmpty_iff] at hex
    obtain hex | hex := hex
    · rw [hex] at hb
      cases hb
    · rw [hex] at ha
      cases ha

/-- Symbols that share the key of a pass are not both left over, so that one of them is in a
pair. -/
theorem exists_credited_of_agrees (h : Reached before after passes matching) {pass : Pass}
    (hpass : pass ∈ passes) {b a : Side} (hb : b ∈ before) (ha : a ∈ after)
    (hagrees : pass.Agrees b a) :
    ∃ pair ∈ matching.credited, pair.2.1 = b ∨ pair.2.2 = a := by
  rw [← h.perm_before.mem_iff, List.mem_append] at hb
  rw [← h.perm_after.mem_iff, List.mem_append] at ha
  obtain hb | hb := hb
  · obtain ⟨sides, hsides, rfl⟩ := List.mem_map.1 hb
    obtain ⟨maker, hmem⟩ := h.exists_credited_of_mem_matched hsides
    exact ⟨(maker, sides), hmem, .inl rfl⟩
  obtain ha | ha := ha
  · obtain ⟨sides, hsides, rfl⟩ := List.mem_map.1 ha
    obtain ⟨maker, hmem⟩ := h.exists_credited_of_mem_matched hsides
    exact ⟨(maker, sides), hmem, .inr rfl⟩
  exact absurd hagrees (h.not_agrees_of_left hpass hb ha)

/-- Of two symbols that share the key of a pass, one is matched by that pass or by one of a lower
rank. -/
theorem not_blocked (h : Reached before after passes matching) (hranks : InOrder passes)
    {pass : Pass} (hpass : pass ∈ passes) {b a : Side} (hb : b ∈ before) (ha : a ∈ after)
    (hagrees : pass.Agrees b a) :
    ∃ pair ∈ matching.credited, pair.1.rank ≤ pass.rank ∧ (pair.2.1 = b ∨ pair.2.2 = a) := by
  -- once the pass itself is the last one, every pair has been made by it or before it
  have hlast {passes : List Pass} {matching : Matching}
      (h : Reached before after (passes ++ [pass]) matching) (hranks : InOrder (passes ++ [pass])) :
      ∃ pair ∈ matching.credited, pair.1.rank ≤ pass.rank ∧ (pair.2.1 = b ∨ pair.2.2 = a) := by
    obtain ⟨pair, hpair, hside⟩ := h.exists_credited_of_agrees
      (List.mem_append_right _ (List.mem_singleton_self pass)) hb ha hagrees
    refine ⟨pair, hpair, ?_, hside⟩
    obtain hmem | hmem := List.mem_append.1 (h.mem_passes_of_mem_credited hpair)
    · exact Nat.le_of_lt (hranks.rank_lt_last hmem)
    · exact Nat.le_of_eq (congrArg Pass.rank (List.mem_singleton.1 hmem))
  induction h with
  | fresh => cases hpass
  | @step passes matching last hreached ih =>
    obtain hold | hnew := List.mem_append.1 hpass
    · obtain ⟨pair, hpair, hrank, hside⟩ := ih hranks.of_append hold
      refine ⟨pair, ?_, hrank, hside⟩
      rw [hreached.credited_step]
      exact List.mem_append_left _ hpair
    · obtain rfl := List.mem_singleton.1 hnew
      exact hlast (hreached.step pass) hranks
  | @skip passes matching last hreached hex ih =>
    obtain hold | hnew := List.mem_append.1 hpass
    · exact ih hranks.of_append hold
    · obtain rfl := List.mem_singleton.1 hnew
      exact hlast (hreached.skip pass hex) hranks

/-- A pair shares the key of no pass of a lower rank than the one that made it. -/
theorem first_agreement (h : Reached before after passes matching) (hranks : InOrder passes)
    {pair : Pass × Side × Side} (hpair : pair ∈ matching.credited) {pass : Pass}
    (hpass : pass ∈ passes) (hrank : pass.rank < pair.1.rank) :
    ¬ pass.Agrees pair.2.1 pair.2.2 := by
  induction h with
  | fresh => cases hpass
  | @step passes matching last hreached ih =>
    rw [hreached.credited_step, List.mem_append, List.mem_map] at hpair
    obtain hold | ⟨sides, hsides, rfl⟩ := hpair
    · -- the pass of an older pair comes before the last one
      have hlt := hranks.rank_lt_last (hreached.mem_passes_of_mem_credited hold)
      obtain hpass | hpass := List.mem_append.1 hpass
      · exact ih hranks.of_append hold hpass
      · rw [List.mem_singleton.1 hpass] at hrank
        exact absurd hrank (Nat.lt_asymm hlt)
    · -- the symbols of a new pair were left over by every pass before
      obtain hpass | hpass := List.mem_append.1 hpass
      · exact hreached.not_agrees_of_left hpass
          ((matching.outcome_perm_before last).subset
            (List.mem_append_left _ (List.mem_map_of_mem hsides)))
          ((matching.outcome_perm_after last).subset
            (List.mem_append_left _ (List.mem_map_of_mem hsides)))
      · rw [List.mem_singleton.1 hpass] at hrank
        exact absurd hrank (Nat.lt_irrefl _)
  | @skip passes matching last hreached _ ih =>
    -- a pass that is skipped makes no pair
    have hlt := hranks.rank_lt_last (hreached.mem_passes_of_mem_credited hpair)
    obtain hpass | hpass := List.mem_append.1 hpass
    · exact ih hranks.of_append hpair hpass
    · rw [List.mem_singleton.1 hpass] at hrank
      exact absurd hrank (Nat.lt_asymm hlt)

/-- A matching that all passes have led to is stable. -/
theorem stable (h : Reached before after Pass.all matching) : Stable before after matching where
  credited_eq := h.map_snd_credited
  agrees _ hpair := h.agrees_of_mem_credited hpair
  not_blocked _ hb _ ha pass hagrees :=
    h.not_blocked inOrder_all (Pass.mem_all pass) hb ha hagrees
  left_apart _ hb _ ha pass := h.not_agrees_of_left (Pass.mem_all pass) hb ha
  first_agreement _ hpair pass hrank :=
    h.first_agreement inOrder_all hpair (Pass.mem_all pass) hrank

end Reached

/-- The matching of two lists of symbols is stable with respect to the order of the passes. -/
theorem ofSymbols_stable {before after : List Symbol} (hbefore : ∀ sym ∈ before, sym.Fits)
    (hafter : ∀ sym ∈ after, sym.Fits) :
    ∃ matching, ofSymbols before after = .ok matching ∧
      Stable (Side.ofList before) (Side.ofList after) matching := by
  obtain ⟨matching, hok, hreached⟩ := exists_reached_of_fits hbefore hafter
  exact ⟨matching, hok, hreached.stable⟩

/-- Two equal symbols compete for one of the largest size, and the first of them is paired with
it. -/
theorem ofSymbols_stable_of_twins :
    let twin : Symbol := { sectionName := ".rodata", size := 8, fullName := "\"text\"" }
    let largest : Symbol := { twin with size := Int64.maxValue }
    (∀ sym ∈ [twin, twin], sym.Fits) ∧ (∀ sym ∈ [largest], sym.Fits) ∧
      ∃ matching, ofSymbols [twin, twin] [largest] = .ok matching ∧
        matching.matched = [(⟨some 0, twin⟩, ⟨some 0, largest⟩)] ∧
        Stable (Side.ofList [twin, twin]) (Side.ofList [largest]) matching := by
  intro twin largest
  have hbefore : ∀ sym ∈ [twin, twin], sym.Fits := by decide
  have hafter : ∀ sym ∈ [largest], sym.Fits := by decide
  obtain ⟨matching, hok, hstable⟩ := ofSymbols_stable hbefore hafter
  exact ⟨hbefore, hafter, matching, hok,
    (Ranking.describes_of_eq_ok hok).matched_eq.trans (by decide), hstable⟩

end Matching

end BuildScope
