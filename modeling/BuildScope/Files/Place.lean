import BuildScope.Files.Path

/-!
# Places

Where paths lead from a directory. Nothing is known of what lies outside of it: a path that leaves
it finds nothing there.

* `Directory.find`, `Directory.read`, `Directory.list`: what a path leads to.
* `Directory.write`, `Directory.makeAll`: a directory after something was made in it.
-/

namespace BuildScope.Files

/-- Where a path has led so far. -/
structure Place where
  /-- What is there. -/
  node : Node
  /-- The directories that it is in, the nearest first, each with the name that leads on. -/
  above : List (String × Directory) := []

namespace Place

/-- The place where a path from a directory starts. -/
def start (directory : Directory) (path : Path) : Place :=
  ⟨.directory (if path.isAbsolute then [] else directory), []⟩

/-- Follow one step of a path. -/
def step (place : Place) (name : String) : Except FileFault Place :=
  match place.node with
  | .file _ | .unusable _ => .error .notDirectory
  | .directory entries =>
    if isIdle name then .ok place
    else if name = ".." then
      match place.above with
      -- outside of the directory nothing is known
      | [] => .ok ⟨.directory [], []⟩
      | (_, parent) :: above => .ok ⟨.directory parent, above⟩
    else if maxNameSize < name.utf8ByteSize then .error .nameTooLong
    else
      match entries.lookup name with
      | none => .error .notFound
      | some node => .ok ⟨node, (name, entries) :: place.above⟩

/-- An idle step in a directory stays there. -/
theorem step_of_isIdle {entries : Directory} {above : List (String × Directory)} {name : String}
    (h : isIdle name) :
    step ⟨.directory entries, above⟩ name = .ok ⟨.directory entries, above⟩ := by
  simp [step, h]

/-- The place where some steps from a directory lead. -/
def follow (directory : Directory) (path : Path) (steps : List String) : Except FileFault Place :=
  steps.foldlM step (start directory path)

/-- The outermost directory with the entries of this place replaced. -/
def rebuild (place : Place) (entries : Directory) : Directory :=
  place.above.foldl (fun inner (name, outer) => outer.set name (.directory inner)) entries

end Place

namespace Directory

/-- What a path leads to from a directory. -/
def find (directory : Directory) (text : String) : Except FileFault Node := do
  let path ← Path.ofText text
  let place ← Place.follow directory path path.steps
  return place.node

/-- Content of the file that a path leads to. -/
def read (directory : Directory) (path : String) : Except FileFault Text.Document := do
  match ← directory.find path with
  | .file content => .ok content
  | .unusable fault => .error fault
  | .directory _ => .error .isDirectory

/-- Entries of the directory that a path leads to. -/
def list (directory : Directory) (path : String) : Except FileFault Directory := do
  match ← directory.find path with
  | .file _ | .unusable _ => .error .notDirectory
  | .directory entries => .ok entries

/-- The files of a directory, by their paths from there. -/
def access (directory : Directory) : FileAccess :=
  ⟨directory.read, directory.list⟩

/-- The making of something where a path leads. -/
structure Making where
  /-- The fault of a path whose end is no name. -/
  unnamed : FileFault
  /-- Whether the path may end with a slash. -/
  allowsSlash : Bool
  /-- What is there then, given what is there before. -/
  make : Option Node → Except FileFault Node

/-- Make something where a path leads. The directory that it is to be in has to exist. -/
def change (directory : Directory) (path : Path) (making : Making) :
    Except FileFault Directory := do
  let (before, last) := path.split
  let place ← Place.follow directory path before
  match place.node, last with
  | .file _, _ | .unusable _, _ => .error .notDirectory
  | .directory _, none => .error making.unnamed
  | .directory entries, some name =>
    if isIdle name || name == ".." || (path.endsWithSlash && !making.allowsSlash) then
      .error making.unnamed
    else if maxNameSize < name.utf8ByteSize then .error .nameTooLong
    -- outside nothing is known, so nothing can be made there
    else if path.leaves then .error .notFound
    else do
      let node ← making.make (entries.lookup name)
      .ok (place.rebuild (Directory.set entries name node))

/-- Write a file. What cannot be used, or is a directory, is not replaced. -/
def write (directory : Directory) (path : String) (content : Text.Document) :
    Except FileFault Directory := do
  directory.change (← Path.ofText path)
    { unnamed := .isDirectory, allowsSlash := false
      make := fun
        | some (.directory _) => .error .isDirectory
        | some (.unusable fault) => .error fault
        | _ => .ok (.file content) }

/-- A file that is there, or an empty one. -/
def touch (directory : Directory) (path : String) : Except FileFault Directory :=
  directory.write path ((directory.read path).toOption.getD [])

/-- The making of a new directory, where there is nothing yet. -/
def newDirectory : Making where
  unnamed := .alreadyExists
  allowsSlash := true
  make
    | some _ => .error .alreadyExists
    | none => .ok (.directory [])

/-- Make the directory that some steps lead to, given the last of them first, and before it those
that it is to be in. Where there is a directory already, nothing is made. -/
def makeSteps (directory : Directory) (isAbsolute : Bool) :
    List String → Except FileFault Directory
  | [] => .ok directory
  | last :: before => do
    let path : Path := ⟨isAbsolute, (last :: before).reverse⟩
    let makeOrFind (directory : Directory) : Except FileFault Directory :=
      match directory.change path newDirectory, Place.follow directory path path.steps with
      | .ok made, _ => .ok made
      | .error _, .ok ⟨.directory _, _⟩ => .ok directory
      | .error fault, _ => .error fault
    match makeOrFind directory with
    | .error .notFound => makeOrFind (← directory.makeSteps isAbsolute before)
    | made => made

/-- Make a directory and all those on the way to it. -/
def makeAll (directory : Directory) (path : String) : Except FileFault Directory := do
  let path ← Path.ofText path
  directory.makeSteps path.isAbsolute path.steps.reverse

end Directory

end BuildScope.Files
