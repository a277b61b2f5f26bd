import BuildScope.Command.Program
import Std.Time.Format

/-!
# The Program

Reads the files that a command needs, runs the command on them, and writes what it leads to. The
build tool is not run from here, so that the build service does not answer.
-/

open BuildScope
open BuildScope.Command (Invocation LogSettings LogText Outcome Request)
open BuildScope.Files (Directory FileAccess FileFault Node)
open BuildScope.Log (CopyFault CopyPlace)
open BuildScope.Text (Document)

namespace BuildScope.Main

/-- The fault of an access that has failed, with what the system says of it. -/
def faultOf : IO.Error → FileFault
  | .alreadyExists _ number description | .interrupted _ number description
  | .noFileOrDirectory _ number description | .invalidArgument _ number description
  | .permissionDenied _ number description | .resourceExhausted _ number description
  | .inappropriateType _ number description | .noSuchThing _ number description
  | .otherError number description | .resourceBusy number description
  | .resourceVanished number description | .unsupportedOperation number description
  | .hardwareFault number description | .unsatisfiedConstraints number description
  | .illegalOperation number description | .protocolError number description
  | .timeExpired number description => .ofSystem description number.toNat
  -- the system takes no part in these
  | .unexpectedEof | .userError _ => .notFound

/-- Content of a file. -/
def readFile (path : String) : IO (Except FileFault Document) := do
  try
    let file ← IO.FS.Handle.mk path .read
    return .ok (.ofBytes (← file.readBinToEnd).toList)
  catch error => return .error (faultOf error)

/-- Entries of a directory that can hold builders, each with its content or with the fault of
reading it. -/
def readDirectory (path : String) : IO (Except FileFault Directory) := do
  try
    let entries ← (System.mkFilePath [path]).readDir
    let listed := entries.toList.filter fun entry => CiBuilders.isListed entry.fileName
    let directory ← listed.mapM fun entry => do
      match ← readFile entry.path.toString with
      | .ok content => return (entry.fileName, Node.file content)
      | .error fault => return (entry.fileName, Node.unusable fault)
    return .ok directory
  catch error => return .error (faultOf error)

/-- The files and the directories that a command needs. -/
def pathsOf : Request → List String × List String
  | .diff request => ([request.before, request.after], [])
  | .builders request =>
    ([request.manifest], request.places.publicDirectory :: request.places.internalDirectory.toList)

/-- The files that a command needs, read. -/
def access (request : Request) : IO FileAccess := do
  let (files, directories) := pathsOf request
  let contents ← files.mapM fun path => return (path, ← readFile path)
  let listings ← directories.mapM fun path => return (path, ← readDirectory path)
  return {
    read := fun path => (contents.lookup path).getD (.error .notFound)
    list := fun path => (listings.lookup path).getD (.error .notFound) }

/-- Path of the copy of the log of today that a setting asks for. -/
def copyPath (place : CopyPlace) : IO String := do
  let now ← Std.Time.Timestamp.now
  return place.path (toString (Std.Time.PlainDate.ofEpochDay now.toDaysSinceUnixEpoch))

/-- Open a file for adding to it. -/
def openCopy (path : String) : IO (Except FileFault IO.FS.Handle) := do
  try return .ok (← IO.FS.Handle.mk path .append)
  catch error => return .error (faultOf error)

/-- Open the file for the copy of a log, and make its directory if need be. -/
def keepCopy (setting : String) : IO (Except CopyFault IO.FS.Handle) := do
  let place := CopyPlace.ofText setting
  let path ← copyPath place
  match ← openCopy path with
  | .ok copy => return .ok copy
  | .error _ =>
    try IO.FS.createDirAll place.directory
    catch error => return .error (.directory (faultOf error))
    return (← openCopy path).mapError .file

/-- The file for the copy of the log, if one is asked for and there can be a log. -/
def copyOf (invocation : Invocation) (settings : LogSettings) :
    IO (Option (Except CopyFault IO.FS.Handle)) :=
  match invocation.filter settings, settings.file with
  | .ok _, some path => return some (← keepCopy path)
  | _, _ => return none

/-- Write what a command has led to. -/
def write (outcome : Outcome) (copy : Option IO.FS.Handle) : IO Unit := do
  IO.print outcome.output
  let log := (outcome.log?.map LogText.entries).getD []
  (log ++ outcome.complaint?.toList).forM fun entry => IO.eprintln entry
  if let some copy := copy then copy.putStr (Command.textOf log)

end BuildScope.Main

/-- Run the command that the arguments ask for. -/
def main (arguments : List String) : IO UInt32 := do
  let settings : LogSettings :=
    { filter := ← IO.getEnv "RUST_LOG", format := ← IO.getEnv "CRTOOLS_LOG_FORMAT"
      file := ← IO.getEnv "CRTOOLS_LOG_FILE" }
  let invocation := (Invocation.ofArguments arguments).toOption
  let copy ← match invocation with
    | some invocation => Main.copyOf invocation settings
    | none => pure none
  let files ← match invocation with
    | some invocation => Main.access invocation.request
    | none => pure (Directory.access [])
  let copyFault := match copy with
    | some (.error fault) => some fault
    | _ => none
  let outcome := Outcome.ofArguments
    { files, tool := Buildbucket.Tool.missing, settings, copyFault } arguments
  Main.write outcome (copy.bind (·.toOption))
  return outcome.code.toUInt32
