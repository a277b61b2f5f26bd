import BuildScope.Files.Basic
import BuildScope.Text.Parts

/-!
# Paths

A path leads from a directory to a file, name by name with slashes between.

* `Path.ofText`: the path of a text, unless no file can have it.
* `Path.leaves`: whether a path leads out of the directory that it starts in.
-/

namespace BuildScope.Files

/-- Most bytes of a name. -/
def maxNameSize : Nat := 255

/-- Most bytes of a path. -/
def maxPathSize : Nat := 4095

/-- Whether a step of a path stays where it starts. A step is empty between two slashes and after
the last one. -/
def isIdle (step : String) : Bool :=
  step == "" || step == "."

/-- A path. -/
structure Path where
  /-- Whether it starts at the root and not at the current directory. -/
  isAbsolute : Bool
  /-- Its steps. -/
  steps : List String
  deriving DecidableEq, Repr

namespace Path

/-- The path that a text spells. -/
def spelled (text : String) : Path :=
  ⟨text.startsWith "/", (Text.parts '/' text.toList).map .ofList⟩

/-- The path of a text, unless the text is none. -/
def ofText (text : String) : Except FileFault Path :=
  if text = "" then .error .notFound
  else if '\x00' ∈ text.toList then .error .nulInPath
  else if maxPathSize < text.utf8ByteSize then .error .nameTooLong
  else .ok (spelled text)

/-- The steps of a path up to the last one that has a name, and that step. Slashes at the end are no
steps. -/
def split (path : Path) : List String × Option String :=
  match path.steps.reverse.dropWhile (· == "") with
  | [] => ([], none)
  | last :: before => (before.reverse, some last)

/-- Whether a path ends with a slash, so that only a directory can be there. -/
def endsWithSlash (path : Path) : Bool :=
  path.steps.getLast? == some ""

/-- Whether some steps lead out of a directory that is so deep inside of where they start. -/
def climbsOut (depth : Nat) : List String → Bool
  | [] => false
  | step :: steps =>
    if isIdle step then climbsOut depth steps
    else if step != ".." then climbsOut (depth + 1) steps
    else depth == 0 || climbsOut (depth - 1) steps

/-- Whether a path leaves the directory that it starts in, at any of its steps. -/
def leaves (path : Path) : Bool :=
  path.isAbsolute || climbsOut 0 path.steps

end Path

end BuildScope.Files
