import Std.Data.ExtTreeSet

/-!
# Builders

A builder runs tests, after a change has landed or while it is still pending. Builders are ordered
by name, and sets of builders are listed in that order.

* `Builder.path`: the path under which the build service knows a builder.
* `BuilderSet`: finite sets of builders, equal if they have the same members.
-/

namespace BuildScope

/-- When a builder runs. -/
inductive BuilderType where
  /-- After a change has landed. -/
  | ci
  /-- While a change is pending. -/
  | tryJob
  deriving DecidableEq, Repr

namespace BuilderType

/-- Name of a type of builders. -/
def label : BuilderType → String
  | .ci => "ci"
  | .tryJob => "try"

/-- The type of a name, if it is one. -/
def ofLabel? : String → Option BuilderType
  | "ci" => some .ci
  | "try" => some .tryJob
  | _ => none

/-- A type is known by its name. -/
@[simp]
theorem ofLabel?_label (type : BuilderType) : ofLabel? type.label = some type := by
  cases type <;> rfl

/-- Place of a type in the order of types. -/
def rank : BuilderType → Nat
  | .ci => 0
  | .tryJob => 1

/-- Types differ in rank. -/
theorem rank_inj {a b : BuilderType} (h : a.rank = b.rank) : a = b := by
  cases a <;> cases b <;> simp_all [rank]

end BuilderType

/-- A builder. -/
structure Builder where
  /-- Name without its group. -/
  name : String
  /-- When it runs. -/
  type : BuilderType
  /-- Whether it belongs to the internal project. -/
  isInternal : Bool
  deriving DecidableEq, Repr

namespace Builder

/-- Place of a project in the order of projects: the public one comes first. -/
def projectRank (builder : Builder) : Nat :=
  builder.isInternal.toNat

/-- Projects differ in rank. -/
theorem isInternal_eq_of_projectRank_eq {a b : Builder} (h : a.projectRank = b.projectRank) :
    a.isInternal = b.isInternal := by
  unfold projectRank at h
  cases ha : a.isInternal <;> cases hb : b.isInternal <;> simp_all

/-- Builders are ordered by name, then by type, then by project. -/
instance : Ord Builder :=
  ⟨compareLex (compareOn name) (compareLex (compareOn (·.type.rank)) (compareOn projectRank))⟩

instance : Std.TransOrd Builder :=
  inferInstanceAs (Std.TransCmp
    (compareLex (compareOn name) (compareLex (compareOn (·.type.rank)) (compareOn projectRank))))

instance : Std.LawfulEqOrd Builder where
  eq_of_compare {a b} h := by
    obtain ⟨hn, ht, hp⟩ : compare a.name b.name = .eq ∧ compare a.type.rank b.type.rank = .eq ∧
        compare a.projectRank b.projectRank = .eq := by
      have h : compareLex (compareOn name)
          (compareLex (compareOn (·.type.rank)) (compareOn projectRank)) a b = .eq := h
      simpa only [compareLex_eq_eq, compareOn] using h
    have hn := Std.LawfulEqOrd.eq_of_compare hn
    have ht := BuilderType.rank_inj (Std.LawfulEqOrd.eq_of_compare ht)
    have hp := isInternal_eq_of_projectRank_eq (Std.LawfulEqOrd.eq_of_compare hp)
    cases a
    cases b
    simp_all

/-- The project that a builder belongs to. -/
def project (builder : Builder) : String :=
  if builder.isInternal then "chrome" else "chromium"

/-- The path under which the build service knows a builder. -/
def path (builder : Builder) : String :=
  builder.project ++ "/" ++ builder.type.label ++ "/" ++ builder.name

end Builder

/-- A finite set of builders. -/
abbrev BuilderSet := Std.ExtTreeSet Builder

end BuildScope
