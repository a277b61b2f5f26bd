import BuildScope.Proofs.Matching.Exhaustion
import BuildScope.Proofs.Matching.Ranking
import BuildScope.Proofs.Pairing.Invariance

/-!
# Symmetry of a Matching

The old build waits in queues while the new one is walked through, and yet it makes no difference
which build is the old one: the same symbols are brought together, by the same passes, and the same
ones are left over. Only the order of the pairs follows the new build.

* `Matching.Mirrors`: one matching is another with its sides swapped.
* `Matching.ofSymbols_swap`: swapping two lists of symbols swaps the sides of their matching.
-/

namespace BuildScope.Matching

/-- A pass has brought together the symbols at two places of the old and the new build. -/
def PairsPlaces (matching : Matching) (pass : Pass) (old new : Nat) : Prop :=
  ∃ b a : Symbol, (pass, ⟨some old, b⟩, ⟨some new, a⟩) ∈ matching.credited

/-- A credited pair with its sides swapped. -/
def swapSides (pair : Pass × Side × Side) : Pass × Side × Side :=
  (pair.1, pair.2.2, pair.2.1)

/-- One matching is another with its sides swapped, up to the order of the pairs. -/
structure Mirrors (matching mirrored : Matching) : Prop where
  /-- The pairs are the same with their sides swapped, each made by the same pass. -/
  credited_perm : mirrored.credited.Perm (matching.credited.map swapSides)
  /-- What the new build has left over, the old build has now, in the same order. -/
  unmatchedBefore_eq : mirrored.unmatchedBefore = matching.unmatchedAfter
  /-- What the old build has left over, the new build has now, in the same order. -/
  unmatchedAfter_eq : mirrored.unmatchedAfter = matching.unmatchedBefore

variable {before after : List Side} {passes : List Pass} {matching mirrored : Matching}

/-- The pairs that a pass makes of swapped sides are swapped. -/
theorem Mirrors.outcome_pairs_perm (h : Mirrors matching mirrored) (pass : Pass) :
    (mirrored.outcome pass).pairs.Perm ((matching.outcome pass).pairs.map Prod.swap) := by
  rw [outcome, outcome, h.unmatchedBefore_eq, h.unmatchedAfter_eq]
  exact Pairing.pairs_byRank_swap _ _ _

/-- Two runs from swapped lists stay each other's mirror images. -/
theorem mirrors_ofPasses (before after : List Side) (passes : List Pass) :
    Mirrors (ofPasses before after passes) (ofPasses after before passes) := by
  induction passes using List.reverseRecOn with
  | nil => exact ⟨.refl _, rfl, rfl⟩
  | append_singleton passes pass ih =>
    rw [ofPasses_append_singleton, ofPasses_append_singleton]
    refine ⟨?_, ?_, ?_⟩
    · rw [(reached_ofPasses after before passes).credited_step,
        (reached_ofPasses before after passes).credited_step, List.map_append]
      refine ih.credited_perm.append ?_
      -- the new pairs follow the other list now, and so are the same in another order
      have hnew := (ih.outcome_pairs_perm pass).map (pass, ·)
      rw [List.map_map] at hnew ⊢
      exact hnew
    · rw [unmatchedBefore_step, unmatchedAfter_step, outcome, outcome, ih.unmatchedBefore_eq,
        ih.unmatchedAfter_eq, Pairing.before_byRank_swap]
    · rw [unmatchedBefore_step, unmatchedAfter_step, outcome, outcome, ih.unmatchedBefore_eq,
        ih.unmatchedAfter_eq, Pairing.after_byRank_swap]

/-- Runs that may have left out passes are each other's mirror images too. -/
theorem Reached.mirrors (h : Reached before after passes matching)
    (h' : Reached after before passes mirrored) : Mirrors matching mirrored := by
  have hfull := mirrors_ofPasses before after passes
  refine ⟨?_, ?_, ?_⟩
  · rw [h.alike.credited_eq, h'.alike.credited_eq]
    exact hfull.credited_perm
  · rw [h.alike.unmatchedAfter_eq, h'.alike.unmatchedBefore_eq, hfull.unmatchedBefore_eq]
  · rw [h.alike.unmatchedBefore_eq, h'.alike.unmatchedAfter_eq, hfull.unmatchedAfter_eq]

/-- The pairs of a mirror image are at the same places, on the other sides. -/
theorem Mirrors.pairsPlaces_iff (h : Mirrors matching mirrored) (pass : Pass) (old new : Nat) :
    mirrored.PairsPlaces pass new old ↔ matching.PairsPlaces pass old new := by
  have hmem (b a : Side) : (pass, a, b) ∈ mirrored.credited ↔ (pass, b, a) ∈ matching.credited := by
    rw [h.credited_perm.mem_iff, List.mem_map]
    constructor
    · rintro ⟨⟨maker, b', a'⟩, hpair, heq⟩
      cases heq
      exact hpair
    · intro hpair
      exact ⟨_, hpair, rfl⟩
  constructor
  · rintro ⟨a, b, hpair⟩
    exact ⟨b, a, (hmem _ _).1 hpair⟩
  · rintro ⟨b, a, hpair⟩
    exact ⟨a, b, (hmem _ _).2 hpair⟩

/-- Swapping two lists of symbols swaps the sides of their matching: each pass brings the same
places together, and the same symbols are left over. -/
theorem ofSymbols_swap {xs ys : List Symbol} (hxs : ∀ sym ∈ xs, sym.Fits)
    (hys : ∀ sym ∈ ys, sym.Fits) :
    ∃ matching mirrored, ofSymbols xs ys = .ok matching ∧ ofSymbols ys xs = .ok mirrored ∧
      matching.credited.map Prod.snd = matching.matched ∧
      mirrored.credited.map Prod.snd = mirrored.matched ∧
      Mirrors matching mirrored ∧
      ∀ pass i j, mirrored.PairsPlaces pass j i ↔ matching.PairsPlaces pass i j := by
  obtain ⟨matching, hok, hreached⟩ := exists_reached_of_fits hxs hys
  obtain ⟨mirrored, hok', hreached'⟩ := exists_reached_of_fits hys hxs
  have hmirrors := hreached.mirrors hreached'
  exact ⟨matching, mirrored, hok, hok', hreached.map_snd_credited, hreached'.map_snd_credited,
    hmirrors, hmirrors.pairsPlaces_iff⟩

/-- Two equal symbols compete for one, from either side, and the first of them is paired with it. -/
theorem ofSymbols_swap_of_twins :
    let twin : Symbol := { sectionName := ".rodata", size := 8, fullName := "\"text\"" }
    let other : Symbol := { twin with size := 4, fullName := "other" }
    let xs := [twin, twin, other]
    let ys := [other, twin]
    (∀ sym ∈ xs, sym.Fits) ∧ (∀ sym ∈ ys, sym.Fits) ∧
      ∃ matching mirrored, ofSymbols xs ys = .ok matching ∧ ofSymbols ys xs = .ok mirrored ∧
        matching.matched =
          [(⟨some 2, other⟩, ⟨some 0, other⟩), (⟨some 0, twin⟩, ⟨some 1, twin⟩)] ∧
        mirrored.matched =
          [(⟨some 1, twin⟩, ⟨some 0, twin⟩), (⟨some 0, other⟩, ⟨some 2, other⟩)] ∧
        matching.credited.map Prod.snd = matching.matched ∧
        mirrored.credited.map Prod.snd = mirrored.matched ∧
        Mirrors matching mirrored ∧
        ∀ pass i j, mirrored.PairsPlaces pass j i ↔ matching.PairsPlaces pass i j := by
  intro twin other xs ys
  have hxs : ∀ sym ∈ xs, sym.Fits := by decide
  have hys : ∀ sym ∈ ys, sym.Fits := by decide
  obtain ⟨matching, mirrored, hok, hok', hmirrors⟩ := ofSymbols_swap hxs hys
  exact ⟨hxs, hys, matching, mirrored, hok, hok',
    (Ranking.describes_of_eq_ok hok).matched_eq.trans (by decide),
    (Ranking.describes_of_eq_ok hok').matched_eq.trans (by decide), hmirrors⟩

end BuildScope.Matching
