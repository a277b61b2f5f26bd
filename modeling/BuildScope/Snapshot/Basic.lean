import BuildScope.Snapshot.Container
import BuildScope.Snapshot.Symbol
import BuildScope.Text.Quoted

/-!
# Snapshots

Everything known about the sizes of one build: its containers and every symbol in them. A snapshot
is made of checked symbols only.

* `Symbol.fault?_eq_none_iff`: what is asked of a symbol.
* `Snapshot.ofLists`: a snapshot from its parts, or the fault of the first symbol that has one.
-/

namespace BuildScope

/-- Snapshot of one build. -/
structure Snapshot where
  /-- Containers in build order. -/
  containers : List Container := []
  /-- Symbols in the order of the build. -/
  symbols : List Symbol := []
  /-- Build metadata of free shape, sorted by key. -/
  metadata : List (String × Json.Value) := []
  deriving BEq, Repr

/-- What makes a symbol or a padding entry inadmissible. -/
inductive SnapshotFault where
  /-- It names a container that is not listed. -/
  | unknownContainer (name : String)
  /-- The symbol has no alias, not even itself. -/
  | noAliases (fullName : String)
  /-- The padding of the symbol is negative or more than its size. -/
  | paddingOutside (fullName : String) (padding size : Int64)
  deriving DecidableEq, Repr

/-- What is reported of a fault. -/
def SnapshotFault.message : SnapshotFault → String
  | .unknownContainer name => "Unknown container: " ++ Text.quote name
  | .noAliases fullName =>
    "Invalid symbol " ++ Text.quote fullName ++ ": num_aliases must be at least 1"
  | .paddingOutside fullName padding size =>
    "Invalid symbol " ++ Text.quote fullName
      ++ s!": padding {padding.toInt} outside of 0..={size.toInt}"

namespace Symbol

/-- The first thing wrong with a symbol, given the names of the containers. Symbols that account
for overhead may have any padding. -/
def fault? (containerNames : List String) (sym : Symbol) : Option SnapshotFault :=
  if !containerNames.contains sym.containerName then
    some (.unknownContainer sym.containerName)
  else if sym.numAliases = 0 then some (.noAliases sym.fullName)
  else if !sym.isOverhead && (sym.padding < 0 || sym.size < sym.padding) then
    some (.paddingOutside sym.fullName sym.padding sym.size)
  else none

/-- What is asked of a symbol of a snapshot. -/
structure Admissible (containerNames : List String) (sym : Symbol) : Prop where
  /-- Its container is listed. -/
  container_mem : sym.containerName ∈ containerNames
  /-- It counts itself among its aliases. -/
  numAliases_ne_zero : sym.numAliases ≠ 0
  /-- Its padding is a part of its size, unless it accounts for overhead. -/
  padding_le : sym.isOverhead = false → 0 ≤ sym.padding.toInt ∧
    sym.padding.toInt ≤ sym.size.toInt

/-- Nothing is wrong with a symbol exactly if it is admissible. -/
theorem fault?_eq_none_iff {containerNames : List String} {sym : Symbol} :
    sym.fault? containerNames = none ↔ sym.Admissible containerNames := by
  have hneg : (sym.padding < 0) ↔ sym.padding.toInt < 0 := Int64.lt_iff_toInt_lt
  have hmore : (sym.size < sym.padding) ↔ sym.size.toInt < sym.padding.toInt :=
    Int64.lt_iff_toInt_lt
  unfold fault?
  constructor
  · intro h
    split at h
    · cases h
    split at h
    · cases h
    split at h
    · cases h
    · rename_i hc ha hp
      refine ⟨by simpa using hc, ha, fun ho => ?_⟩
      simp only [ho, Bool.not_false, Bool.true_and, Bool.or_eq_true, decide_eq_true_eq, hneg,
        hmore] at hp
      omega
  · intro h
    rw [if_neg (by simpa using h.container_mem), if_neg h.numAliases_ne_zero, if_neg]
    -- overhead may have any padding, all else is bounded by its size
    cases ho : sym.isOverhead
    · have := h.padding_le ho
      simp only [Bool.not_false, Bool.true_and, Bool.or_eq_true, decide_eq_true_eq, hneg, hmore]
      omega
    · simp

end Symbol

namespace Snapshot

/-- A snapshot of the given containers and symbols, or the fault of the first symbol that has
one. -/
def ofLists (containers : List Container) (symbols : List Symbol) :
    Except SnapshotFault Snapshot :=
  match symbols.findSome? (Symbol.fault? (containers.map Container.name)) with
  | some fault => .error fault
  | none => .ok { containers, symbols }

/-- The first container with a given name. -/
def container? (snapshot : Snapshot) (name : String) : Option Container :=
  snapshot.containers.find? (·.name == name)

end Snapshot

end BuildScope
