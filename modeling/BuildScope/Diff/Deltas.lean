import BuildScope.Diff.Delta
import Std.Data.ExtTreeMap

/-!
# Lists of Deltas

What is done with the deltas of a diff: aliases are put together, deltas are sorted by how much they
matter, and counted by status.

* `Deltas.groupAliases`: one delta for all aliases of a symbol.
* `Deltas.sort`: the deltas with the largest changes first.
* `Deltas.count`, `Deltas.totalSize`, `Deltas.sizeBySection`: totals.
-/

namespace BuildScope

open Number (Overflow Checked.add)

/-- The deltas of a diff, in their order. -/
abbrev Deltas := List Delta

/-- What the aliases of one symbol have in common. -/
structure AliasKey where
  /-- Container. -/
  container : String
  /-- Raw section name. -/
  sectionName : String
  /-- Full name. -/
  fullName : String
  /-- Address. -/
  address : UInt64
  /-- Number of aliases. -/
  numAliases : UInt32
  /-- Whether the newer side is that of the new build. -/
  isAfter : Bool
  deriving DecidableEq, Hashable, Repr

/-- What the aliases of the newer side of a delta have in common, if it has any aliases and does not
account for overhead. -/
def Delta.aliasKey (delta : Delta) : Option AliasKey := do
  let sym ← delta.symbol?
  if 1 < sym.numAliases && !sym.isOverhead then
    some
      { container := sym.containerName
        sectionName := sym.sectionName
        fullName := sym.fullName
        address := sym.address
        numAliases := sym.numAliases
        isAfter := delta.sides.after.isSome }
  else none

/-- Number of deltas of each status. -/
structure StatusCounts where
  /-- Unchanged deltas. -/
  unchanged : Nat := 0
  /-- Changed deltas. -/
  changed : Nat := 0
  /-- Added deltas. -/
  added : Nat := 0
  /-- Removed deltas. -/
  removed : Nat := 0
  deriving DecidableEq, Repr

namespace StatusCounts

/-- Count one more delta. -/
def add (counts : StatusCounts) : Status → StatusCounts
  | .unchanged => { counts with unchanged := counts.unchanged + 1 }
  | .changed => { counts with changed := counts.changed + 1 }
  | .added => { counts with added := counts.added + 1 }
  | .removed => { counts with removed := counts.removed + 1 }

/-- Number of deltas of a status. -/
def of (counts : StatusCounts) : Status → Nat
  | .unchanged => counts.unchanged
  | .changed => counts.changed
  | .added => counts.added
  | .removed => counts.removed

/-- Number of all deltas. -/
def total (counts : StatusCounts) : Nat :=
  counts.unchanged + counts.changed + counts.added + counts.removed

/-- One more delta of a status counts for that status only. -/
theorem of_add (counts : StatusCounts) (status other : Status) :
    (counts.add status).of other = counts.of other + if status = other then 1 else 0 := by
  cases status <;> cases other <;> simp [add, of]

end StatusCounts

namespace Deltas

/-- Put one delta into a list, last first, with all its aliases, which wait in the queues. Aliases
of a delta that is in the list already are in there too. -/
def placeAliases (state : KeyQueues AliasKey Delta × Deltas) (delta : Delta) :
    KeyQueues AliasKey Delta × Deltas :=
  let (queues, placed) := state
  match delta.aliasKey with
  | none => (queues, delta :: placed)
  | some key =>
    match queues.queue key with
    -- the first of the aliases has taken all of them along
    | [] => (queues, placed)
    | [only] => (queues.setQueue key [], only :: placed)
    | members => (queues.setQueue key [], .ofAliases members :: placed)

/-- Put the aliases of each symbol together, in the place of the first of them. -/
def groupAliases (deltas : Deltas) : Deltas :=
  (deltas.foldl placeAliases (KeyQueues.ofList Delta.aliasKey deltas, [])).2.reverse

/-- How much a delta matters in a report. -/
structure Impact where
  /-- Size of the change of proportional size. -/
  magnitude : Float
  /-- Full name. -/
  fullName : String

/-- How much a delta matters in a report. -/
def impact (delta : Delta) : Except Overflow Impact := do
  return ⟨(← delta.pss).abs, delta.fullName⟩

/-- Whether one delta may stand before another: it has the larger change, or an equal one and a
name that is not greater. -/
def Impact.precedes (a b : Impact) : Bool :=
  b.magnitude < a.magnitude || (!(a.magnitude < b.magnitude) && a.fullName ≤ b.fullName)

/-- The deltas with the largest changes first, those with equal changes by name. A list that has
nothing to compare is left as it is. -/
def sort (deltas : Deltas) : Except Overflow Deltas :=
  if deltas.length < 2 then .ok deltas
  else do
    let impacts ← deltas.mapM impact
    let sorted := (impacts.zip deltas).mergeSort fun a b => a.1.precedes b.1
    return sorted.map Prod.snd

/-- The deltas with a status, in their order. -/
def withStatus (status : Status) (deltas : Deltas) : Except Overflow Deltas :=
  deltas.filterM fun delta => do return (← delta.status) = status

/-- Count the deltas of each status. -/
def count (deltas : Deltas) : Except Overflow StatusCounts :=
  deltas.foldlM (fun counts delta => do return counts.add (← delta.status)) {}

/-- Total change of size. -/
def totalSize (deltas : Deltas) : Except Overflow Int64 :=
  deltas.foldlM (fun total delta => do Checked.add total (← delta.size)) 0

/-- Total changes of size, by raw section name. -/
abbrev SectionSizes := Std.ExtTreeMap String Int64

/-- Add the change of size of a delta to the total of its section, which starts from zero. -/
def addToSection (sizes : SectionSizes) (delta : Delta) : Except Overflow SectionSizes := do
  let size ← delta.size
  let total ← Checked.add (sizes.getD delta.sectionName 0) size
  return sizes.insert delta.sectionName total

/-- Total change of size of each section. -/
def sizeBySection (deltas : Deltas) : Except Overflow SectionSizes :=
  deltas.foldlM addToSection ∅

end Deltas

end BuildScope
