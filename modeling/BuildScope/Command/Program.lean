import BuildScope.Builder.ManifestFile
import BuildScope.Command.Arguments
import BuildScope.Command.Notice
import BuildScope.Diff.Report
import BuildScope.Log.Copy
import BuildScope.Log.Filter
import BuildScope.Snapshot.Load

/-!
# Running Commands

What the commands print and log, and how they end, given the files and the build tool. Nothing is
read or written here: the outcome says what there is to write.

* `Outcome.ofArguments`: what some arguments lead to.
-/

namespace BuildScope.Command

open Buildbucket (QueryFault Session Tool)
open Files (FileAccess)
open Log (CopyFault Event Filter Format)
open Mirrors (MirrorFault)
open Number (Overflow)
open TryBuilders (MirrorsFault)

/-- How a command ends before its time. -/
inductive Ending where
  /-- With an error. -/
  | failure (message : String)
  /-- By a fault of the program or of the data it trusts. -/
  | panic (message : String)
  deriving DecidableEq, Repr

/-- What a command has done so far. -/
structure Progress where
  /-- The lines printed. -/
  printed : Array String := #[]
  /-- The notices logged. -/
  notices : Array Notice := #[]
  /-- The session with the build service. -/
  session : Session := {}

/-- A command at work. -/
abbrev Program := ExceptT Ending (StateM Progress)

namespace Program

/-- Log something. -/
def notify (notice : Notice) : Program Unit :=
  modify fun progress => { progress with notices := progress.notices.push notice }

/-- Log several things. -/
def notifyAll (notices : List Notice) : Program Unit :=
  notices.forM notify

/-- Print lines. -/
def print (lines : List String) : Program Unit :=
  modify fun progress => { progress with printed := progress.printed ++ lines.toArray }

/-- The value of a step, or the end of the command. -/
def orEnd {ε α : Type} (ending : ε → Ending) : Except ε α → Program α
  | .ok a => pure a
  | .error fault => throw (ending fault)

end Program

open Program

/-- The end of a command at an overflow. -/
def Ending.ofOverflow (overflow : Overflow) : Ending :=
  .panic overflow.message

/-- The end of a command whose snapshots have no diff. -/
def Ending.ofDiffFault : DiffFault → Ending
  | .overflow overflow => ofOverflow overflow
  | .snapshot fault => .failure fault.message

/-- The end of a command that does not find the mirrors of a builder. -/
def Ending.ofMirrorFault : MirrorFault → Ending
  | .document fault => .failure ("JSON error: " ++ fault.message)
  | .malformedName _ name parts => .panic (Mirrors.malformedNameMessage name parts)

/-- The end of a command that does not find try builders. -/
def Ending.ofMirrorsFault : MirrorsFault QueryFault → Ending
  | .lookup (.query fault) => .failure fault.message
  | .lookup (.mirrors fault) => ofMirrorFault fault
  | .missing names => .failure (TryBuilders.missingMessage names)

/-- Load a snapshot. -/
def loadSnapshot (files : FileAccess) (path : String) : Program Snapshot := do
  notify (.loading path)
  let snapshot ← orEnd (.failure ·.message) (Snapshot.load files path)
  notify (.loaded snapshot.containers.length snapshot.symbols.length)
  return snapshot

/-- What is logged about a matching. Where it overflows, that is in the first half of the first
pass or in the second. -/
def matchingNotices (before : Snapshot) : Except Overflow Matching → List Notice
  | .ok matching =>
    matching.reports.flatMap Notice.ofPass
      ++ [.unmatched (matching.unmatchedBefore.length + matching.unmatchedAfter.length)]
  | .error _ =>
    match Matching.checkSizes before.symbols with
    | .error _ => [.indexing .exact]
    | .ok () => [.indexing .exact, .pairing .exact]

/-- Diff two snapshots. -/
def diffSnapshots (before after : Snapshot) (sorted : Bool) : Program Diff := do
  let matching := Matching.ofSymbols before.symbols after.symbols
  notifyAll (matchingNotices before matching)
  let matching ← orEnd Ending.ofOverflow matching
  if sorted then notifyAll [.grouping, .sorting]
  let diff ← orEnd Ending.ofDiffFault (Diff.ofMatching before after sorted matching)
  notify (.diffed diff.deltas.length)
  return diff

/-- The lines that a report is printed as. -/
def ReportFormat.lines (format : ReportFormat) (report : DiffReport) : List String :=
  match format with
  | .text => report.lines
  | .json => [report.toValue.pretty]

/-- Diff two snapshots and print the report. -/
def runDiff (files : FileAccess) (request : DiffRequest) : Program Unit := do
  notify (.diffing request.before request.after)
  let before ← loadSnapshot files request.before
  let after ← loadSnapshot files request.after
  let diff ← diffSnapshots before after request.sorted
  let report ← orEnd Ending.ofOverflow (DiffReport.ofDiff diff request.limit)
  print (request.format.lines report)

/-- Ask the build service for the output of a builder. -/
def askService (tool : Tool) : Service Program := fun builder => do
  let (session, report) := (← get).session.query tool builder
  modify fun progress => { progress with session }
  notifyAll (Notice.ofQuery builder report)
  return report.answer

/-- Look up the mirrors of a builder. -/
def lookUp (tool : Tool) (manifest : Manifest) (builder : Builder) :
    Program (Except (LookupFault QueryFault) Lookup) := do
  let outcome ← Lookup.ofBuilder manifest (askService tool) builder
  notifyAll (Notice.ofLookup builder outcome)
  return outcome

/-- The lines that list builders. -/
def listing (builders : BuilderSet) : List String :=
  (builders.toList.map Builder.path).mergeSort fun a b => a ≤ b

/-- List builders. -/
def runBuilders (files : FileAccess) (tool : Tool) (request : BuildersRequest) : Program Unit := do
  let manifest ← orEnd (.failure ·.message) (Manifest.load files request.manifest)
  notify .searchingCi
  let ciBuilders ← orEnd (.failure ·.message)
    (CiBuilders.ofFiles files request.places manifest request.suite)
  notify (.foundCi ciBuilders)
  print (listing ciBuilders)
  if request.tryBuilders then
    notify .searchingTry
    let found ← TryBuilders.ofBuilders (lookUp tool manifest) ciBuilders.toList
    let tryBuilders ← orEnd Ending.ofMirrorsFault found
    notify (.foundTry tryBuilders.size)
    print (listing tryBuilders)

/-- What the surroundings set for the log. -/
structure LogSettings where
  /-- The filter, if set. -/
  filter : Option String := none
  /-- The form, if set. -/
  format : Option String := none
  /-- Path of the file that gets a copy of the log, if set. -/
  file : Option String := none

/-- The surroundings of a command. -/
structure System where
  /-- The files. -/
  files : FileAccess
  /-- The build tool. -/
  tool : Tool
  /-- Settings for the log. -/
  settings : LogSettings := {}
  /-- Why the copy of the log cannot be kept that the settings ask for, if it cannot. -/
  copyFault : Option CopyFault := none

/-- Run a command. -/
def run (system : System) : Request → Program Unit
  | .diff request => runDiff system.files request
  | .builders request => runBuilders system.files system.tool request

/-- A log with its form. -/
structure LogText where
  /-- The form. -/
  format : Format
  /-- The events that the filter lets through. -/
  events : List Event

/-- The events of a log as they are written, each to be followed by a line break. -/
def LogText.entries (log : LogText) : List String :=
  match log.format with
  | .pretty => log.events.map (·.text)
  | .json => log.events.map (·.toValue.compact)

/-- What some arguments lead to. -/
inductive Outcome where
  /-- The arguments make no command. -/
  | halted (halt : Halt)
  /-- No command has run, for there can be no log of it. -/
  | unlogged (message : String)
  /-- A command has run. -/
  | ran (printed : List String) (log : LogText) (ending : Option Ending)

/-- Version of the program. -/
def versionLine : String := "crtools 0.0.0"

/-- What is printed on request about the commands. -/
def helpLines : List String :=
  ["Binary-size diffs and builder discovery", "",
    "  diff BEFORE AFTER [--sort] [--format text|json] [--limit N]",
    "  builders --manifest FILE --buildbot-dir DIR [--internal-buildbot-dir DIR] [--suite NAME]",
    "           [--try-builders]", "",
    "  --log-level LEVEL", "  --help", "  --version"]

/-- Lines as a text. -/
def textOf (lines : List String) : String :=
  String.join (lines.map (· ++ "\n"))

/-- The filter for the log of an invocation. A level among its arguments goes before what the
surroundings set. -/
def Invocation.filter (invocation : Invocation) (settings : LogSettings) :
    Except Text.CutFault Filter :=
  match invocation.logLevel with
  | some level => .ok (.ofLevel level)
  | none => Filter.ofSetting settings.filter

namespace Outcome

/-- What the command of an invocation leads to, with a filter for its log. -/
def ofInvocation (system : System) (invocation : Invocation) (filter : Filter) : Outcome :=
  let (result, progress) := (run system invocation.request).run.run {}
  let events := (progress.notices.toList.map Notice.event).filter filter.enables
  let ending := match result with
    | .ok () => none
    | .error ending => some ending
  .ran progress.printed.toList ⟨Format.ofSetting system.settings.format, events⟩ ending

/-- What some arguments lead to. The log is set up before the command runs: first its filter, then
its copy. -/
def ofArguments (system : System) (arguments : List String) : Outcome :=
  match Invocation.ofArguments arguments with
  | .error halt => .halted halt
  | .ok invocation =>
    match invocation.filter system.settings, system.copyFault with
    | .error fault, _ => .unlogged fault.message
    | .ok _, some fault => .unlogged fault.message
    | .ok filter, none => ofInvocation system invocation filter

/-- The exit code. -/
def code : Outcome → UInt8
  | .halted .usage => 2
  | .halted .help | .halted .version | .ran _ _ none => 0
  | .ran _ _ (some (.failure _)) => 1
  | .unlogged _ | .ran _ _ (some (.panic _)) => 101

/-- What is printed. -/
def output : Outcome → String
  | .halted .usage | .unlogged _ => ""
  | .halted .help => textOf helpLines
  | .halted .version => textOf [versionLine]
  | .ran printed _ _ => textOf printed

/-- The log, if a command has run. -/
def log? : Outcome → Option LogText
  | .halted _ | .unlogged _ => none
  | .ran _ log _ => some log

/-- What is said about the end of a command, if anything is. -/
def complaint? : Outcome → Option String
  | .halted _ | .ran _ _ none => none
  | .unlogged message | .ran _ _ (some (.panic message)) => some message
  | .ran _ _ (some (.failure message)) => some ("Error: " ++ message)

end Outcome

end BuildScope.Command
