import BuildScope.Files.Place

/-!
# Copies of Logs

A copy of the log is kept in a file whose name ends with the date. The directories that it is to be
in are made if need be.

* `CopyPlace.ofText`: where the copy is that a path asks for.
* `keepCopy`: a directory after the file for a copy was opened.
-/

namespace BuildScope.Log

open Files (Directory FileFault Path)

/-- Why no copy of a log can be kept. -/
inductive CopyFault where
  /-- Its directory cannot be made. -/
  | directory (fault : FileFault)
  /-- It cannot be opened. -/
  | file (fault : FileFault)
  deriving DecidableEq, Repr

/-- What is reported of a fault. -/
def CopyFault.message (fault : CopyFault) : String :=
  let (context, source) := match fault with
    | .directory fault => ("failed to create log directory", fault)
    | .file fault => ("failed to create log file", fault)
  "initializing rolling file appender failed: "
    ++ s!"InitError \x7b context: {Text.quote context}, source: {source.details} \x7d"

/-- Where a copy of a log is kept. -/
structure CopyPlace where
  /-- Path of its directory. -/
  directory : String
  /-- Its name without the date. -/
  name : String
  deriving DecidableEq, Repr

namespace CopyPlace

/-- The path that some steps make up. Without steps it stays where it is. -/
def pathOf (isAbsolute : Bool) (steps : List String) : String :=
  let start := if isAbsolute then "/" else ""
  if steps.isEmpty && !isAbsolute then "." else start ++ "/".intercalate steps

/-- The place of the copy that a path asks for. The last step of the path is the name, unless it
leads up; then there is none. -/
def ofText (text : String) : CopyPlace :=
  let path := Path.spelled text
  match path.steps.filter (!Files.isIdle ·) with
  | [] => ⟨".", ""⟩
  | first :: more =>
    let steps := first :: more
    let last := steps.getLastD first
    ⟨pathOf path.isAbsolute steps.dropLast, if last = ".." then "" else last⟩

/-- Path of the copy of a day. -/
def path (place : CopyPlace) (date : String) : String :=
  let name := if place.name = "" then date else place.name ++ "." ++ date
  place.directory ++ "/" ++ name

end CopyPlace

/-- The directory in which the copy of a log is kept that a path asks for. What is outside of the
directory is taken to be as the copy needs it. -/
def keepCopy (directory : Directory) (text date : String) : Except CopyFault Directory :=
  let place := CopyPlace.ofText text
  let path := place.path date
  if (Path.spelled path).leaves then .ok directory
  else
    match directory.touch path with
    | .ok kept => .ok kept
    | .error _ => do
      let made ← (directory.makeAll place.directory).mapError .directory
      (made.touch path).mapError .file

end BuildScope.Log
