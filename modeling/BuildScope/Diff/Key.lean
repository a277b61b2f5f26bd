import BuildScope.Diff.Name
import BuildScope.Snapshot.Symbol

/-!
# Match Keys

What two symbols of different builds must share to be taken for the same one. There are four keys,
from the strictest to the loosest, and a pass of the matching for each.

* `Pass.key`: the key of a symbol for a pass, if it takes part in it.
* `Pass.checkedKey`: the same, where computing it can overflow.
-/

namespace BuildScope

open Number (Overflow)

/-- What symbols must share to be matched by a pass. What a pass does not ask for is left out by it
for every symbol. -/
structure MatchKey where
  /-- Name of the container. -/
  container : String
  /-- Section. -/
  sectionClass : SectionClass
  /-- Name, as far as it is stable. -/
  name : String
  /-- Source or object file. -/
  path : Option String
  /-- Size without padding. -/
  size : Option Int
  deriving DecidableEq, Hashable, Repr

/-- A pass of the matching. -/
inductive Pass where
  /-- Unchanged symbols, which have kept their size. -/
  | exact
  /-- Symbols of any size. -/
  | resized
  /-- Symbols whose short name is the same. -/
  | renamed
  /-- Symbols that are known from their full name, wherever they are. -/
  | moved
  deriving DecidableEq, Repr

namespace Pass

/-- The passes in their order. -/
def all : List Pass :=
  [exact, resized, renamed, moved]

/-- Name of a pass in the log. -/
def label : Pass → String
  | .exact => "exact"
  | .resized => "resized"
  | .renamed => "renamed"
  | .moved => "moved"

/-- Whether the padding of the symbols that a pass matches is accounted for in total. -/
def tracksPadding : Pass → Bool
  | .exact => true
  | _ => false

/-- The key of a symbol for a pass; none if the symbol takes no part in it. -/
def key (pass : Pass) (sym : Symbol) : Option MatchKey :=
  match pass with
  | .exact =>
    some
      { container := sym.containerName
        sectionClass := sym.sectionClass
        name := Name.stripNumbers sym.fullName
        path := some sym.path
        size := some (sym.size.toInt - sym.padding.toInt) }
  | .resized =>
    some
      { container := sym.containerName
        sectionClass := sym.sectionClass
        name := Name.stripNumbers sym.fullName
        path := some sym.path
        size := none }
  | .renamed =>
    some
      { container := sym.containerName
        sectionClass := sym.sectionClass
        name := Name.shortName sym.name
        path := some sym.path
        size := none }
  | .moved =>
    if sym.isNameUnique then
      some
        { container := sym.containerName
          sectionClass := sym.sectionClass
          name := sym.fullName
          path := none
          size := none }
    else none

/-- The key of a symbol, or the overflow of its size without padding where the pass needs that. -/
def checkedKey (pass : Pass) (sym : Symbol) : Except Overflow (Option MatchKey) :=
  match pass with
  | .exact => do
    let _ ← sym.sizeWithoutPadding
    .ok (pass.key sym)
  | _ => .ok (pass.key sym)

/-- Symbols with a key in common lie in one container and one section. -/
theorem container_eq_of_key {pass : Pass} {a b : Symbol} {k : MatchKey}
    (ha : pass.key a = some k) (hb : pass.key b = some k) :
    a.containerName = b.containerName ∧ a.sectionClass = b.sectionClass := by
  have fields {s : Symbol} (h : pass.key s = some k) :
      k.container = s.containerName ∧ k.sectionClass = s.sectionClass := by
    unfold key at h
    split at h
    · cases h; exact ⟨rfl, rfl⟩
    · cases h; exact ⟨rfl, rfl⟩
    · cases h; exact ⟨rfl, rfl⟩
    · split at h
      · cases h; exact ⟨rfl, rfl⟩
      · cases h
  exact ⟨(fields ha).1.symm.trans (fields hb).1, (fields ha).2.symm.trans (fields hb).2⟩

end Pass

end BuildScope
