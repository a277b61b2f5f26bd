import BuildScope.Diff.Containers
import BuildScope.Diff.Deltas
import BuildScope.Snapshot.Basic

/-!
# Diffs of Snapshots

The diff of two snapshots: their containers lined up, a delta for each symbol, and an overhead
symbol for the padding that each segment gained.

* `Matching.toDeltas`: the deltas of a matching.
* `Diff.ofSnapshots`: the diff of two snapshots.
* `Diff.summary`: its totals.
-/

namespace BuildScope

open Number (Overflow)

/-- Name of the symbols that account for the padding of matched symbols. -/
def paddingName : String := "Overhead: aggregate padding of diff'ed symbols"

/-- The symbol that accounts for padding gained in a segment. -/
def Symbol.ofPadding (segment : Segment) (bytes : Int64) : Symbol :=
  { containerName := segment.container
    sectionName := segment.sectionName
    size := bytes
    padding := bytes
    fullName := paddingName
    templateName := paddingName
    name := paddingName }

/-- The symbols that account for the padding gained, or the first segment whose container is not
listed. -/
def PaddingTotals.toSymbols (padding : PaddingTotals) (containerNames : List String) :
    Except SnapshotFault (List Symbol) :=
  padding.rounded.mapM fun (segment, bytes) =>
    if containerNames.contains segment.container then .ok (.ofPadding segment bytes)
    else .error (.unknownContainer segment.container)

/-- The deltas of a matching: pairs, additions, removals, and the symbols that account for
padding. -/
def Matching.toDeltas (matching : Matching) (containers : List ContainerDelta) :
    Except SnapshotFault Deltas := do
  let padding ← matching.padding.toSymbols (containers.map ContainerDelta.name)
  return matching.matched.map (fun (before, after) => Delta.matched before after)
    ++ matching.unmatchedAfter.map Delta.added
    ++ matching.unmatchedBefore.map Delta.removed
    ++ padding.map fun sym => Delta.added ⟨none, sym⟩

/-- The diff of two snapshots. -/
structure Diff where
  /-- Containers of both builds. -/
  containers : List ContainerDelta
  /-- Deltas of the symbols. -/
  deltas : Deltas

/-- Why two snapshots have no diff. -/
inductive DiffFault where
  /-- A number of bytes does not fit. -/
  | overflow (overflow : Overflow)
  /-- A segment belongs to no container. -/
  | snapshot (fault : SnapshotFault)
  deriving DecidableEq, Repr

/-- Totals of a diff. -/
structure DiffSummary where
  /-- Number of deltas of each status. -/
  counts : StatusCounts
  /-- Total change of size. -/
  sizeDelta : Int64
  /-- Change of size of each section. -/
  sectionDeltas : Deltas.SectionSizes
  /-- Containers of the new build only. -/
  addedContainers : List String
  /-- Containers of the old build only. -/
  removedContainers : List String

namespace Diff

/-- Put aliases together and sort by impact, if that is asked for. -/
def arrange (sorted : Bool) (deltas : Deltas) : Except Overflow Deltas :=
  if sorted then deltas.groupAliases.sort else .ok deltas

/-- The diff that a matching of the symbols of two snapshots leads to. -/
def ofMatching (before after : Snapshot) (sorted : Bool) (matching : Matching) :
    Except DiffFault Diff := do
  let containers := ContainerDelta.ofLists before.containers after.containers
  let deltas ← (matching.toDeltas containers).mapError .snapshot
  let deltas ← (arrange sorted deltas).mapError .overflow
  return { containers, deltas }

/-- The diff of two snapshots. -/
def ofSnapshots (before after : Snapshot) (sorted : Bool) : Except DiffFault Diff := do
  let matching ← (Matching.ofSymbols before.symbols after.symbols).mapError .overflow
  ofMatching before after sorted matching

/-- Totals of a diff. -/
def summary (diff : Diff) : Except Overflow DiffSummary := do
  let sectionDeltas ← diff.deltas.sizeBySection
  let counts ← diff.deltas.count
  let sizeDelta ← diff.deltas.totalSize
  return {
    counts, sizeDelta, sectionDeltas
    addedContainers := (diff.containers.filter (·.isAdded)).map (·.name)
    removedContainers := (diff.containers.filter (·.isRemoved)).map (·.name) }

/-- The lines of a report: the first deltas, at most `limit` of them, that are not unchanged. -/
def records (deltas : Deltas) (limit : Option Nat) : Except Overflow (List DeltaRecord) :=
  match limit, deltas with
  | some 0, _ | _, [] => .ok []
  | limit, delta :: deltas => do
    -- what is not listed does not count towards the limit
    if (← delta.status) = .unchanged then records deltas limit
    else
      let record ← delta.record
      let rest ← records deltas (limit.map (· - 1))
      return record :: rest

end Diff

end BuildScope
