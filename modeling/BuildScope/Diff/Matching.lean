import BuildScope.Diff.Key
import BuildScope.Diff.Padding
import BuildScope.Diff.Pairing

/-!
# Matching Symbols

The symbols of two snapshots are paired in passes, each by a looser key and among what the passes
before have left over. The padding that the symbols of the exact pass gained is added up on the way.

* `Matching.ofSymbols`: the matching of two lists of symbols.
* `Matching.run`: the passes, for symbols whose sizes can be computed.
-/

namespace BuildScope

open Number (Overflow)

/-- A symbol on one side of a diff. -/
structure Side where
  /-- Place of the symbol in its snapshot; none if the diff has made it. -/
  position : Option Nat
  /-- The symbol. -/
  symbol : Symbol
  deriving DecidableEq, Repr

/-- The symbols of a snapshot with their places. -/
def Side.ofList (symbols : List Symbol) : List Side :=
  symbols.zipIdx.map fun (sym, position) => ⟨some position, sym⟩

/-- What a pass has done. -/
structure PassReport where
  /-- The pass. -/
  pass : Pass
  /-- Number of pairs it made. -/
  matched : Nat
  /-- Number of symbols of the new build it looked at. -/
  total : Nat
  deriving DecidableEq, Repr

/-- The symbols of two snapshots, paired as far as possible. -/
structure Matching where
  /-- Pairs, in the order of the passes and, within a pass, of the new build. -/
  matched : List (Side × Side) := []
  /-- Symbols of the old build that nothing matched, in order. -/
  unmatchedBefore : List Side
  /-- Symbols of the new build that nothing matched, in order. -/
  unmatchedAfter : List Side
  /-- Padding gained by the symbols that the exact pass matched. -/
  padding : PaddingTotals := {}
  /-- The passes that have run. -/
  reports : List PassReport := []

namespace Matching

/-- The segment and the padding gained of a pair, unless its symbol consists of padding only, which
then stays with the symbol. -/
def paddingGain? (pair : Side × Side) : Option (Segment × Float) :=
  let (before, after) := (pair.1.symbol, pair.2.symbol)
  if before.size = before.padding then none
  else some (⟨before.containerName, before.sectionName⟩, after.paddingPss - before.paddingPss)

/-- Add the padding gained by some pairs. -/
def addGains (padding : PaddingTotals) (pairs : List (Side × Side)) : PaddingTotals :=
  (pairs.filterMap paddingGain?).foldl (fun padding (segment, gain) => padding.add segment gain)
    padding

/-- Run one pass on what is left over. -/
def step (matching : Matching) (pass : Pass) : Matching :=
  let outcome := Pairing.byKey (fun side => pass.key side.symbol) matching.unmatchedBefore
    matching.unmatchedAfter
  { matched := matching.matched ++ outcome.pairs
    unmatchedBefore := outcome.before
    unmatchedAfter := outcome.after
    padding :=
      if pass.tracksPadding then addGains matching.padding outcome.pairs else matching.padding
    reports :=
      matching.reports ++ [⟨pass, outcome.pairs.length, matching.unmatchedAfter.length⟩] }

/-- Whether one side has no symbol left. -/
def isExhausted (matching : Matching) : Bool :=
  matching.unmatchedBefore.isEmpty || matching.unmatchedAfter.isEmpty

/-- Run passes until one side has no symbol left. -/
def run (matching : Matching) : List Pass → Matching
  | [] => matching
  | pass :: passes =>
    if matching.isExhausted then matching else (matching.step pass).run passes

/-- Compute the sizes of some symbols, or report the first that overflows. -/
def checkSizes (symbols : List Symbol) : Except Overflow Unit :=
  symbols.forM fun sym => do
    let _ ← sym.sizeWithoutPadding
    .ok ()

/-- Match two lists of symbols. The exact pass needs the sizes of all of them, unless there is
nothing to match. -/
def ofSymbols (before after : List Symbol) : Except Overflow Matching := do
  let start : Matching :=
    { unmatchedBefore := Side.ofList before, unmatchedAfter := Side.ofList after }
  if !start.isExhausted then
    -- the sizes of the old build are needed before those of the new one
    checkSizes before
    checkSizes after
  .ok (start.run Pass.all)

end Matching

end BuildScope
