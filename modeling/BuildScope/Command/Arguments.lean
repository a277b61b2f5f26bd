import BuildScope.Builder.CiBuilders
import BuildScope.Command.Options
import BuildScope.Log.Level
import BuildScope.Number.Natural

/-!
# The Command Line

There are two commands: one diffs two snapshots, the other lists builders. Both take a log level,
which may stand before the command as well.

* `Invocation.ofArguments`: what some arguments ask for.
-/

namespace BuildScope.Command

open CiBuilders (Places)
open Log (Level)

/-- Form of a diff report. -/
inductive ReportFormat where
  /-- Lines for people. -/
  | text
  /-- A JSON document. -/
  | json
  deriving DecidableEq, Repr

/-- The form that a word names. -/
def ReportFormat.ofText? : String → Option ReportFormat
  | "text" => some .text
  | "json" => some .json
  | _ => none

/-- What is asked of a diff. -/
structure DiffRequest where
  /-- Path of the snapshot of the old build. -/
  before : String
  /-- Path of the snapshot of the new build. -/
  after : String
  /-- Whether aliases are put together and the largest changes come first. -/
  sorted : Bool := false
  /-- Form of the report. -/
  format : ReportFormat := .text
  /-- Most deltas that are listed. -/
  limit : Option Nat := none
  deriving DecidableEq, Repr

/-- What is asked about builders. -/
structure BuildersRequest where
  /-- Path of the manifest. -/
  manifest : String
  /-- Where the generated files are. -/
  places : Places
  /-- The suite to which the tests are narrowed, if any. -/
  suite : Option String := none
  /-- Whether try builders are listed too. -/
  tryBuilders : Bool := false
  deriving DecidableEq, Repr

/-- A command. -/
inductive Request where
  /-- Diff two snapshots. -/
  | diff (request : DiffRequest)
  /-- List builders. -/
  | builders (request : BuildersRequest)
  deriving DecidableEq, Repr

/-- A command with what is common to all. -/
structure Invocation where
  /-- The log level, if one is given. -/
  logLevel : Option Level
  /-- The command. -/
  request : Request
  deriving DecidableEq, Repr

/-- The level that an argument names. -/
def levelArgument? (text : String) : Option Level :=
  match Level.ofText text with
  | .ok level => some level
  | .error _ => none

/-- The path that an argument is. -/
def pathArgument? (text : String) : Option String :=
  if text = "" then none else some text

/-- The limit that an argument is, which has to fit 64 bits. -/
def limitArgument? (text : String) : Option Nat :=
  (Number.natural? text).filter (· < UInt64.size)

/-- Name of the option for the log level. -/
def logLevelName : String := "log-level"

/-- What comes before a command. -/
structure CommonDraft where
  /-- The log level, if read. -/
  logLevel : Option Level := none

/-- The options before a command. -/
def CommonDraft.parameters : List (Parameter CommonDraft) :=
  [.setting logLevelName levelArgument? (·.logLevel) fun draft x => { draft with logLevel := x },
    .help, .version]

/-- A diff of which some arguments have been read. -/
structure DiffDraft where
  /-- The log level, if read. -/
  logLevel : Option Level := none
  /-- The path of the old snapshot, if read. -/
  before : Option String := none
  /-- The path of the new snapshot, if read. -/
  after : Option String := none
  /-- Whether sorting is switched on. -/
  sorted : Bool := false
  /-- The form of the report, if read. -/
  format : Option ReportFormat := none
  /-- The limit, if read. -/
  limit : Option Nat := none

namespace DiffDraft

/-- The options of a diff. -/
def parameters : List (Parameter DiffDraft) :=
  [.switch "sort" (·.sorted) fun draft => { draft with sorted := true },
    .setting "format" ReportFormat.ofText? (·.format) fun draft x => { draft with format := x },
    .setting "limit" limitArgument? (·.limit) fun draft x => { draft with limit := x },
    .setting logLevelName levelArgument? (·.logLevel) fun draft x => { draft with logLevel := x },
    .help]

/-- The words of a diff. -/
def words : List (Filling DiffDraft) :=
  [fun text draft => (pathArgument? text).map fun path => { draft with before := path },
    fun text draft => (pathArgument? text).map fun path => { draft with after := path }]

/-- The diff of a draft, which needs both snapshots. -/
def complete (logLevel : Option Level) (draft : DiffDraft) : Option Invocation := do
  let before ← draft.before
  let after ← draft.after
  return {
    logLevel := draft.logLevel.or logLevel
    request := .diff
      { before, after, sorted := draft.sorted, format := draft.format.getD .text
        limit := draft.limit } }

end DiffDraft

/-- A listing of builders of which some arguments have been read. -/
structure BuildersDraft where
  /-- The log level, if read. -/
  logLevel : Option Level := none
  /-- The path of the manifest, if read. -/
  manifest : Option String := none
  /-- The path of the public directory, if read. -/
  publicDirectory : Option String := none
  /-- The path of the internal directory, if read. -/
  internalDirectory : Option String := none
  /-- The suite, if read. -/
  suite : Option String := none
  /-- Whether try builders are switched on. -/
  tryBuilders : Bool := false

namespace BuildersDraft

/-- The options of a listing. -/
def parameters : List (Parameter BuildersDraft) :=
  [.setting "manifest" pathArgument? (·.manifest) fun draft x => { draft with manifest := x },
    .setting "buildbot-dir" pathArgument? (·.publicDirectory)
      fun draft x => { draft with publicDirectory := x },
    .setting "internal-buildbot-dir" pathArgument? (·.internalDirectory)
      fun draft x => { draft with internalDirectory := x },
    .setting "suite" some (·.suite) fun draft x => { draft with suite := x },
    .switch "try-builders" (·.tryBuilders) fun draft => { draft with tryBuilders := true },
    .setting logLevelName levelArgument? (·.logLevel) fun draft x => { draft with logLevel := x },
    .help]

/-- The listing of a draft, which needs the manifest and the public directory. -/
def complete (logLevel : Option Level) (draft : BuildersDraft) : Option Invocation := do
  let manifest ← draft.manifest
  let publicDirectory ← draft.publicDirectory
  return {
    logLevel := draft.logLevel.or logLevel
    request := .builders
      { manifest, places := { publicDirectory, internalDirectory := draft.internalDirectory }
        suite := draft.suite, tryBuilders := draft.tryBuilders } }

end BuildersDraft

/-- How far a command line has been read. -/
inductive Stage where
  /-- There is no command yet. -/
  | common (scan : Scan CommonDraft)
  /-- The command is a diff. -/
  | diff (logLevel : Option Level) (scan : Scan DiffDraft)
  /-- The command is a listing of builders. -/
  | builders (logLevel : Option Level) (scan : Scan BuildersDraft)
  /-- The command asks for help, perhaps about a command that has been named. -/
  | help (isNamed : Bool)

namespace Stage

/-- The beginning of a command line. -/
def start : Stage :=
  .common { draft := {} }

/-- What a word begins, where a command is expected. -/
def ofWord (logLevel : Option Level) : String → Except Halt Stage
  | "diff" => .ok (.diff logLevel { draft := {}, words := DiffDraft.words })
  | "builders" => .ok (.builders logLevel { draft := {} })
  | "help" => .ok (.help false)
  | _ => .error .usage

/-- Whether a word names a command. -/
def isCommand (word : String) : Bool :=
  word == "diff" || word == "builders" || word == "help"

/-- Take an argument. -/
def step (stage : Stage) (argument : String) : Except Halt Stage :=
  match stage with
  | .diff logLevel scan => return .diff logLevel (← scan.step DiffDraft.parameters argument)
  | .builders logLevel scan =>
    return .builders logLevel (← scan.step BuildersDraft.parameters argument)
  | .help isNamed =>
    if isCommand argument && !isNamed then .ok (.help true) else .error .usage
  | .common scan =>
    match Argument.ofString argument, scan.pending, scan.onlyWords with
    -- a word names the command, unless an option waits for it as its value
    | .word text, none, false => ofWord scan.draft.logLevel text
    | _, _, _ => return .common (← scan.step CommonDraft.parameters argument)

/-- What the command line asks for when the arguments end. -/
def finish : Stage → Except Halt Invocation
  | .common _ => .error .usage
  | .diff logLevel scan => scan.finish (DiffDraft.complete logLevel)
  | .builders logLevel scan => scan.finish (BuildersDraft.complete logLevel)
  | .help _ => .error .help

end Stage

/-- What some arguments ask for. -/
def Invocation.ofArguments (arguments : List String) : Except Halt Invocation := do
  let stage ← arguments.foldlM Stage.step .start
  stage.finish

end BuildScope.Command
