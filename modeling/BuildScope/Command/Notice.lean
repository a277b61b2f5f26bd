import BuildScope.Builder.TryBuilders
import BuildScope.Diff.Matching
import BuildScope.Log.Event

/-!
# Notices

What the commands log, and how each notice is worded.

* `Notice.event`: the event of a notice.
-/

namespace BuildScope.Command

open Buildbucket (ExitStatus Report)
open Log (Event FieldValue)

/-- Something that a command logs. -/
inductive Notice where
  /-- Two snapshots are to be diffed. -/
  | diffing (before after : String)
  /-- A snapshot is being loaded. -/
  | loading (path : String)
  /-- A snapshot has been loaded. -/
  | loaded (containers symbols : Nat)
  /-- A pass sorts the old symbols by their keys. -/
  | indexing (pass : Pass)
  /-- A pass looks for partners of the new symbols. -/
  | pairing (pass : Pass)
  /-- A pass has ended. -/
  | paired (report : PassReport)
  /-- So many symbols are left over. -/
  | unmatched (count : Nat)
  /-- Aliases are put together. -/
  | grouping
  /-- Deltas are sorted. -/
  | sorting
  /-- A diff is complete. -/
  | diffed (deltas : Nat)
  /-- CI builders are searched for. -/
  | searchingCi
  /-- CI builders have been found. -/
  | foundCi (builders : BuilderSet)
  /-- Try builders are searched for. -/
  | searchingTry
  /-- So many try builders have been found. -/
  | foundTry (count : Nat)
  /-- A CI builder belongs to another project. -/
  | nonChromium (builder : Builder)
  /-- A CI builder does not exist, but so many try builders stand in for it. -/
  | fake (builder : Builder) (count : Nat)
  /-- There is no output of a CI builder. -/
  | missing (builder : Builder)
  /-- A try builder mirrors a CI builder. -/
  | mirrored (builder mirror : Builder)
  /-- The builds of a builder could not be listed. -/
  | listingFailed (builder : Builder) (status : ExitStatus)
  /-- There are so many bytes of output of a builder. -/
  | answered (builder : Builder) (bytes : Nat)

namespace Notice

/-- Target of events of the commands themselves. -/
def commandTarget : String := "crtools"

/-- Target of events about snapshots. -/
def snapshotTarget : String := "crtools_size::models::size_info"

/-- Target of events about the matching of symbols. -/
def matcherTarget : String := "crtools_size::diff::matcher"

/-- Target of events about diffs. -/
def diffTarget : String := "crtools_size::diff"

/-- Target of events about the discovery of builders. -/
def discoveryTarget : String := "crtools_builders::discovery"

/-- Target of events about the build service. -/
def serviceTarget : String := "crtools_builders::client"

/-- The event of a notice. -/
def event : Notice → Event
  | .diffing before after => ⟨.info, commandTarget, s!"Diffing {before} against {after}", []⟩
  | .loading path => ⟨.debug, snapshotTarget, "Loading size snapshot", [("path", .shown path)]⟩
  | .loaded containers symbols =>
    ⟨.debug, snapshotTarget, "Loaded size snapshot",
      [("containers", .number containers), ("symbols", .number symbols)]⟩
  | .indexing pass =>
    ⟨.debug, matcherTarget, "Building symbol index", [("pass", .quoted pass.label)]⟩
  | .pairing pass =>
    ⟨.debug, matcherTarget, "Creating delta symbols", [("pass", .quoted pass.label)]⟩
  | .paired report =>
    ⟨.debug, matcherTarget, s!"Matched {report.matched} of {report.total} symbols",
      [("pass", .quoted report.pass.label), ("matched", .number report.matched),
        ("total", .number report.total)]⟩
  | .unmatched count =>
    ⟨.debug, matcherTarget, "Creating unmatched symbols", [("count", .number count)]⟩
  | .grouping => ⟨.debug, diffTarget, "Grouping", []⟩
  | .sorting => ⟨.debug, diffTarget, "Sorting", []⟩
  | .diffed deltas => ⟨.debug, diffTarget, "Diff complete", [("deltas", .number deltas)]⟩
  | .searchingCi => ⟨.info, discoveryTarget, "Getting CI builders", []⟩
  | .foundCi builders =>
    let names := ", ".intercalate (builders.toList.map Builder.name)
    ⟨.debug, discoveryTarget, s!"Got {builders.size} CI builders after trimming: {names}", []⟩
  | .searchingTry => ⟨.info, discoveryTarget, "Getting try builders", []⟩
  | .foundTry count => ⟨.debug, discoveryTarget, s!"Got {count} try builders", []⟩
  | .nonChromium builder =>
    ⟨.debug, discoveryTarget, s!"{builder.name} is a non-Chromium CI builder", []⟩
  | .fake builder count =>
    ⟨.debug, discoveryTarget,
      s!"{builder.name} is a fake CI builder mirrored by {count} try builders", []⟩
  | .missing builder =>
    ⟨.debug, discoveryTarget,
      s!"Did not get Buildbucket output for builder {builder.name}", []⟩
  | .mirrored builder mirror =>
    ⟨.debug, discoveryTarget, s!"Got mirrored builder for {builder.name}: {mirror.name}", []⟩
  | .listingFailed builder status =>
    ⟨.warn, serviceTarget, "bb ls failed",
      [("builder", .shown builder.name), ("status", .shown status.text)]⟩
  | .answered builder bytes =>
    ⟨.debug, serviceTarget, "Got Buildbucket output",
      [("builder", .shown builder.name), ("bytes", .number bytes)]⟩

/-- What is logged about a pass that has ended. -/
def ofPass (report : PassReport) : List Notice :=
  [.indexing report.pass, .pairing report.pass, .paired report]

/-- What is logged about a query. -/
def ofQuery (builder : Builder) (report : Report) : List Notice :=
  let listing := (report.failedListing.map (.listingFailed builder)).toList
  match report.answer with
  | .ok text => listing ++ [.answered builder (text.getD "").utf8ByteSize]
  | .error _ => listing

/-- What is logged about a lookup. Of one that fails on the name of a mirror, the mirrors before it
are logged. -/
def ofLookup {ε : Type} (builder : Builder) : Except (LookupFault ε) Lookup → List Notice
  | .ok .nonChromium => [.nonChromium builder]
  | .ok (.fake mirrors) => [.fake builder mirrors.size]
  | .ok .missing => [.missing builder]
  | .ok (.built mirrors) => mirrors.map (.mirrored builder)
  | .error (.mirrors (.malformedName found _ _)) => found.map (.mirrored builder)
  | .error _ => []

end Notice

end BuildScope.Command
