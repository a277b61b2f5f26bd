import BuildScope.Proofs.Matching.Exhaustion
import BuildScope.Proofs.Matching.Stability

/-!
# How Many Symbols Are Matched

The exact pass takes symbols away from the resized pass that runs after it, and what it takes may be
the only partners that others have. No pair is lost to this. Under each key of the resized pass, the
two passes together make as many pairs as the symbols of the scarcer side allow, and so does the
exact pass alone under each of its own keys.

The argument is one of counting. A pass whose keys are stricter than some key takes as many symbols
with this key from either side as it makes pairs, so that pairs and leftovers add up to the symbols
there were; and once the pass of the key itself has run, one side has none of them left.

## Main results

* `Matching.Reached.pairsMade_eq_min`: passes with stricter and stricter keys miss no pair.
* `Matching.exists_counted`: the number of pairs under each exact and each resized key.
-/

namespace BuildScope

/-- Number of symbols of a list that have a key of a pass. -/
def Pass.population (pass : Pass) (k : MatchKey) (symbols : List Symbol) : Nat :=
  symbols.countP fun sym => pass.key sym = some k

/-- Number of symbols on one side of a diff that have a key of a pass. -/
def Pass.populationOf (pass : Pass) (k : MatchKey) (sides : List Side) : Nat :=
  sides.countP fun side => pass.key side.symbol = some k

/-- Symbols that share their key of one pass share that of another. -/
def Pass.Refines (fine coarse : Pass) : Prop :=
  ∀ a b k, fine.key a = some k → fine.key b = some k → coarse.key a = coarse.key b

theorem Pass.populationOf_ofList (pass : Pass) (k : MatchKey) (symbols : List Symbol) :
    pass.populationOf k (Side.ofList symbols) = pass.population k symbols := by
  rw [populationOf, population]
  conv_rhs => rw [← Side.map_symbol_ofList symbols, List.countP_map]
  rfl

theorem Pass.population_perm {pass : Pass} {k : MatchKey} {symbols other : List Symbol}
    (h : other.Perm symbols) : pass.population k other = pass.population k symbols :=
  h.countP_eq _

theorem Pass.Refines.refl (pass : Pass) : pass.Refines pass :=
  fun _ _ _ ha hb => ha.trans hb.symm

/-- A key of the exact pass says all that one of the resized pass does. -/
theorem Pass.resized_key_of_exact {sym : Symbol} {e : MatchKey}
    (h : Pass.exact.key sym = some e) : Pass.resized.key sym = some { e with size := none } := by
  cases h
  rfl

theorem Pass.exact_refines_resized : Pass.exact.Refines Pass.resized := by
  intro a b k ha hb
  rw [resized_key_of_exact ha, resized_key_of_exact hb]

namespace Matching

/-- A pair was made by one of some passes, and both its symbols have a key of a pass. -/
def Joins (makers : List Pass) (pass : Pass) (k : MatchKey) (pair : Pass × Side × Side) : Prop :=
  pair.1 ∈ makers ∧ pass.key pair.2.1.symbol = some k ∧ pass.key pair.2.2.symbol = some k

instance (makers : List Pass) (pass : Pass) (k : MatchKey) :
    DecidablePred (Joins makers pass k) :=
  fun _ => inferInstanceAs (Decidable (_ ∧ _))

/-- Number of pairs that some passes have made of symbols with a key of a pass. -/
def pairsMade (matching : Matching) (makers : List Pass) (pass : Pass) (k : MatchKey) : Nat :=
  matching.credited.countP (Joins makers pass k)

/-- Number of pairs whose symbols have a key of a pass. -/
def pairsOf (matching : Matching) (pass : Pass) (k : MatchKey) : Nat :=
  matching.matched.countP fun sides =>
    pass.key sides.1.symbol = some k ∧ pass.key sides.2.symbol = some k

/-- Pairs and leftovers with a key of a pass add up to the symbols there were. -/
structure Balanced (before after : List Side) (pass : Pass) (k : MatchKey)
    (matching : Matching) : Prop where
  before_eq : matching.pairsOf pass k + pass.populationOf k matching.unmatchedBefore =
    pass.populationOf k before
  after_eq : matching.pairsOf pass k + pass.populationOf k matching.unmatchedAfter =
    pass.populationOf k after

/-- A matching has brought as many symbols together as can be, under each key of the resized pass,
and as many of an unchanged size as can be, under each key of the exact pass. -/
structure Counted (before after : List Symbol) (matching : Matching) : Prop where
  resized_eq : ∀ k, matching.pairsMade [.exact, .resized] .resized k =
    min (Pass.resized.population k before) (Pass.resized.population k after)
  exact_eq : ∀ e, matching.pairsMade [.exact] .exact e =
    min (Pass.exact.population e before) (Pass.exact.population e after)
  -- the pairs of the second number are among those of the first
  joins_resized : ∀ e pair, Joins [.exact] .exact e pair →
    Joins [.exact, .resized] .resized { e with size := none } pair

variable {before after : List Side} {passes more : List Pass} {matching : Matching}
  {pass coarse : Pass} {k : MatchKey}

/-! ## One pass -/

/-- The symbols of a pair share every key that its pass refines. -/
theorem key_eq_of_mem_outcome (hrefines : pass.Refines coarse) {sides : Side × Side}
    (h : sides ∈ (matching.outcome pass).pairs) :
    coarse.key sides.1.symbol = coarse.key sides.2.symbol := by
  obtain ⟨shared, hb, ha⟩ := agrees_of_mem_outcome h
  exact hrefines _ _ shared hb ha

/-- Where one symbol of each pair tells whether both have a key, pairs and leftovers have it as
often as the symbols they are made of. -/
theorem populationOf_of_perm {pairs : List (Side × Side)} {left sides : List Side}
    (side : Side × Side → Side) (hperm : (pairs.map side ++ left).Perm sides)
    (hkey : ∀ pair ∈ pairs, (coarse.key (side pair).symbol = some k ↔
      coarse.key pair.1.symbol = some k ∧ coarse.key pair.2.symbol = some k)) :
    (pairs.countP fun pair =>
        coarse.key pair.1.symbol = some k ∧ coarse.key pair.2.symbol = some k) +
      coarse.populationOf k left = coarse.populationOf k sides := by
  have hcount := hperm.countP_eq fun side => coarse.key side.symbol = some k
  rw [List.countP_append, List.countP_map] at hcount
  rw [Pass.populationOf, Pass.populationOf, ← hcount]
  congr 1
  apply List.countP_congr
  intro pair hpair
  simp [hkey pair hpair]

/-- A pass takes as many symbols with a coarser key from the old build as it makes pairs. -/
theorem populationOf_outcome_before (hrefines : pass.Refines coarse) (k : MatchKey)
    (matching : Matching) :
    ((matching.outcome pass).pairs.countP fun sides =>
        coarse.key sides.1.symbol = some k ∧ coarse.key sides.2.symbol = some k) +
      coarse.populationOf k (matching.outcome pass).before =
        coarse.populationOf k matching.unmatchedBefore := by
  refine populationOf_of_perm Prod.fst (matching.outcome_perm_before pass) ?_
  intro sides hsides
  rw [key_eq_of_mem_outcome hrefines hsides, and_self]

theorem populationOf_outcome_after (hrefines : pass.Refines coarse) (k : MatchKey)
    (matching : Matching) :
    ((matching.outcome pass).pairs.countP fun sides =>
        coarse.key sides.1.symbol = some k ∧ coarse.key sides.2.symbol = some k) +
      coarse.populationOf k (matching.outcome pass).after =
        coarse.populationOf k matching.unmatchedAfter := by
  refine populationOf_of_perm Prod.snd (matching.outcome_perm_after pass) ?_
  intro sides hsides
  rw [key_eq_of_mem_outcome hrefines hsides, and_self]

/-- A pass with stricter keys leaves the balance of a key as it is. -/
theorem Balanced.step (h : Balanced before after coarse k matching)
    (hrefines : pass.Refines coarse) : Balanced before after coarse k (matching.step pass) := by
  have hpairs : (matching.step pass).pairsOf coarse k = matching.pairsOf coarse k +
      (matching.outcome pass).pairs.countP fun sides =>
        coarse.key sides.1.symbol = some k ∧ coarse.key sides.2.symbol = some k := by
    rw [pairsOf, matched_step, List.countP_append, ← pairsOf]
  refine ⟨?_, ?_⟩
  · rw [hpairs, unmatchedBefore_step, Nat.add_assoc, populationOf_outcome_before hrefines]
    exact h.before_eq
  · rw [hpairs, unmatchedAfter_step, Nat.add_assoc, populationOf_outcome_after hrefines]
    exact h.after_eq

/-! ## A run of passes -/

namespace Reached

/-- Passes with stricter keys keep the balance of a key. -/
theorem balanced (h : Reached before after passes matching)
    (hrefines : ∀ pass ∈ passes, pass.Refines coarse) (k : MatchKey) :
    Balanced before after coarse k matching := by
  induction h with
  | fresh => exact ⟨Nat.zero_add _, Nat.zero_add _⟩
  | step last _ ih =>
    refine (ih fun pass hpass => hrefines pass (List.mem_append_left _ hpass)).step ?_
    exact hrefines last (List.mem_append_right _ (List.mem_singleton_self last))
  | skip last _ _ ih => exact ih fun pass hpass => hrefines pass (List.mem_append_left _ hpass)

/-- After the pass of a key has run, at most one side has symbols with this key left. -/
theorem populationOf_left (h : Reached before after passes matching) (hpass : pass ∈ passes)
    (k : MatchKey) :
    pass.populationOf k matching.unmatchedBefore = 0 ∨
      pass.populationOf k matching.unmatchedAfter = 0 := by
  by_contra! hleft
  obtain ⟨hb, ha⟩ := hleft
  rw [Pass.populationOf, ← Nat.pos_iff_ne_zero, List.countP_pos_iff] at hb ha
  obtain ⟨b, hbmem, hb⟩ := hb
  obtain ⟨a, hamem, ha⟩ := ha
  exact h.not_agrees_of_left hpass hbmem hamem ⟨k, of_decide_eq_true hb, of_decide_eq_true ha⟩

/-- The scarcer side has no symbol with a key left. -/
theorem pairsOf_eq_min (h : Reached before after passes matching) (hmem : coarse ∈ passes)
    (hrefines : ∀ pass ∈ passes, pass.Refines coarse) (k : MatchKey) :
    matching.pairsOf coarse k =
      min (coarse.populationOf k before) (coarse.populationOf k after) := by
  have hbalanced := h.balanced hrefines k
  rw [← hbalanced.before_eq, ← hbalanced.after_eq]
  rcases h.populationOf_left hmem k with hb | ha
  · rw [hb]
    omega
  · rw [ha]
    omega

/-- The pairs that some passes have made are those they had made before others ran. -/
theorem filter_credited (h : Reached before after (passes ++ more) matching)
    (hdisjoint : ∀ pass ∈ more, pass ∉ passes) :
    (matching.credited.filter fun pair => pair.1 ∈ passes) =
      (ofPasses before after passes).credited := by
  rw [h.alike.credited_eq]
  clear h
  induction more using List.reverseRecOn with
  | nil =>
    rw [List.append_nil, List.filter_eq_self]
    intro pair hpair
    exact decide_eq_true ((reached_ofPasses before after passes).mem_passes_of_mem_credited hpair)
  | append_singleton more last ih =>
    rw [← List.append_assoc, ofPasses_append_singleton,
      (reached_ofPasses before after (passes ++ more)).credited_step, List.filter_append,
      ih fun pass hpass => hdisjoint pass (List.mem_append_left _ hpass)]
    -- what the last pass has made is not theirs
    have hlast := hdisjoint last (List.mem_append_right _ (List.mem_singleton_self last))
    rw [List.filter_map]
    simp [Function.comp_def, hlast]

/-- Passes whose keys are stricter than that of one of them make as many pairs under its keys as the
scarcer side has symbols, whatever passes run after them. -/
theorem pairsMade_eq_min (h : Reached before after (passes ++ more) matching)
    (hdisjoint : ∀ pass ∈ more, pass ∉ passes) (hmem : coarse ∈ passes)
    (hrefines : ∀ pass ∈ passes, pass.Refines coarse) (k : MatchKey) :
    matching.pairsMade passes coarse k =
      min (coarse.populationOf k before) (coarse.populationOf k after) := by
  have hreached := reached_ofPasses before after passes
  rw [← hreached.pairsOf_eq_min hmem hrefines k]
  -- what is credited to the first passes is what they make alone
  calc matching.pairsMade passes coarse k
      = (matching.credited.filter fun pair => pair.1 ∈ passes).countP fun pair =>
          coarse.key pair.2.1.symbol = some k ∧ coarse.key pair.2.2.symbol = some k := by
        rw [pairsMade, List.countP_filter]
        apply List.countP_congr
        intro pair _
        rw [decide_eq_true_iff, Joins]
        simp only [decide_eq_true_eq, Bool.and_eq_true]
        exact and_comm
    _ = ((ofPasses before after passes).credited.map Prod.snd).countP fun sides =>
          coarse.key sides.1.symbol = some k ∧ coarse.key sides.2.symbol = some k := by
        rw [h.filter_credited hdisjoint, List.countP_map]
        rfl
    _ = (ofPasses before after passes).pairsOf coarse k := by
        rw [hreached.map_snd_credited, pairsOf]

end Reached

/-! ## The matching of two lists of symbols -/

theorem joins_resized_of_exact {e : MatchKey} {pair : Pass × Side × Side}
    (h : Joins [.exact] .exact e pair) :
    Joins [.exact, .resized] .resized { e with size := none } pair := by
  obtain ⟨hmaker, hb, ha⟩ := h
  exact ⟨List.mem_cons.2 (.inl (List.mem_singleton.1 hmaker)), Pass.resized_key_of_exact hb,
    Pass.resized_key_of_exact ha⟩

/-- The two first passes of a matching miss no pair. -/
theorem counted_of_reached {before after : List Symbol}
    (h : Reached (Side.ofList before) (Side.ofList after) Pass.all matching) :
    Counted before after matching := by
  refine ⟨?_, ?_, fun _ _ => joins_resized_of_exact⟩
  · intro k
    have hrefines : ∀ pass ∈ [Pass.exact, Pass.resized], pass.Refines .resized := by
      simpa using ⟨Pass.exact_refines_resized, Pass.Refines.refl .resized⟩
    -- exact keys refine resized ones, and what later passes make is not counted
    have hsplit : Reached (Side.ofList before) (Side.ofList after)
        ([.exact, .resized] ++ [.renamed, .moved]) matching := h
    rw [hsplit.pairsMade_eq_min (by decide) (by decide) hrefines k, Pass.populationOf_ofList,
      Pass.populationOf_ofList]
  · intro e
    have hrefines : ∀ pass ∈ [Pass.exact], pass.Refines .exact := by
      simpa using Pass.Refines.refl .exact
    have hsplit : Reached (Side.ofList before) (Side.ofList after)
        ([.exact] ++ [.resized, .renamed, .moved]) matching := h
    rw [hsplit.pairsMade_eq_min (by decide) (by decide) hrefines e, Pass.populationOf_ofList,
      Pass.populationOf_ofList]

/-- The exact pass costs no pair of the resized pass, and the numbers of pairs are the same for the
two lists in any other order. -/
theorem exists_counted {before after : List Symbol} (hbefore : ∀ sym ∈ before, sym.Fits)
    (hafter : ∀ sym ∈ after, sym.Fits) :
    ∃ matching, ofSymbols before after = .ok matching ∧ Counted before after matching ∧
      ∀ before' after', before'.Perm before → after'.Perm after →
        ∃ reordered, ofSymbols before' after' = .ok reordered ∧
          (∀ k, reordered.pairsMade [.exact, .resized] .resized k =
            matching.pairsMade [.exact, .resized] .resized k) ∧
          ∀ e, reordered.pairsMade [.exact] .exact e = matching.pairsMade [.exact] .exact e := by
  obtain ⟨matching, hok, hreached⟩ := exists_reached_of_fits hbefore hafter
  have hcounted := counted_of_reached hreached
  refine ⟨matching, hok, hcounted, ?_⟩
  intro before' after' hperm hperm'
  obtain ⟨reordered, hok', hreached'⟩ := exists_reached_of_fits
    (fun sym hsym => hbefore sym (hperm.subset hsym))
    (fun sym hsym => hafter sym (hperm'.subset hsym))
  -- pairs are counted by the symbols that have a key, in whatever order
  have hcounted' := counted_of_reached hreached'
  refine ⟨reordered, hok', ?_, ?_⟩
  · intro k
    rw [hcounted'.resized_eq, hcounted.resized_eq, Pass.population_perm hperm,
      Pass.population_perm hperm']
  · intro e
    rw [hcounted'.exact_eq, hcounted.exact_eq, Pass.population_perm hperm,
      Pass.population_perm hperm']

/-- A text that has grown gives way to one that has not, and is still paired with the other. -/
theorem exists_counted_of_grown :
    let text : Symbol := { sectionName := ".rodata", size := 8, fullName := "\"text\"" }
    let grown : Symbol := { text with size := 16 }
    let k : MatchKey :=
      { container := "", sectionClass := text.sectionClass, name := "\"text\"", path := some ""
        size := none }
    (∀ sym ∈ [text, text], sym.Fits) ∧ (∀ sym ∈ [grown, text], sym.Fits) ∧
      ∃ matching, ofSymbols [text, text] [grown, text] = .ok matching ∧
        matching.pairsMade [.exact, .resized] .resized k = 2 ∧
        matching.pairsMade [.exact] .exact { k with size := some 8 } = 1 ∧
        ∃ reordered, ofSymbols [text, text] [text, grown] = .ok reordered ∧
          reordered.pairsMade [.exact, .resized] .resized k = 2 := by
  intro text grown k
  have hbefore : ∀ sym ∈ [text, text], sym.Fits := by decide
  have hafter : ∀ sym ∈ [grown, text], sym.Fits := by decide
  obtain ⟨matching, hok, hcounted, hreordered⟩ := exists_counted hbefore hafter
  obtain ⟨reordered, hok', hresized, -⟩ :=
    hreordered [text, text] [text, grown] (.refl _) (.swap _ _ _)
  have htwo : matching.pairsMade [.exact, .resized] .resized k = 2 := by
    rw [hcounted.resized_eq]
    decide
  have hone : matching.pairsMade [.exact] .exact { k with size := some 8 } = 1 := by
    rw [hcounted.exact_eq]
    decide
  exact ⟨hbefore, hafter, matching, hok, htwo, hone, reordered, hok', (hresized k).trans htwo⟩

end Matching

end BuildScope
