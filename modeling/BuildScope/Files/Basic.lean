import BuildScope.Text.Quoted
import BuildScope.Text.Utf8

/-!
# Files

Files and directories, and what can be wrong with the use of one.

* `FileFault.number?_ofSystem`: a fault keeps the number with which the system reports it.
* `Directory.lookup_set_self`: what was put under a name is found there.
* `FileAccess`: what a program has to know of files, whatever they are.
-/

namespace BuildScope.Files

/-- Why a file cannot be used. -/
inductive FileFault where
  /-- Nothing has that name. -/
  | notFound
  /-- It may not be used. -/
  | denied
  /-- Something has that name already. -/
  | alreadyExists
  /-- What should be a directory is a file. -/
  | notDirectory
  /-- It is a directory. -/
  | isDirectory
  /-- A name or a path is too long. -/
  | nameTooLong
  /-- A path has a character that no name has. -/
  | nulInPath
  /-- The system has another reason, with a description and a number. -/
  | other (description : String) (number : Nat)
  deriving DecidableEq, Repr

namespace FileFault

/-- The fault that the system reports with a description and a number. -/
def ofSystem (description : String) : Nat → FileFault
  | 2 => .notFound
  | 13 => .denied
  | 17 => .alreadyExists
  | 20 => .notDirectory
  | 21 => .isDirectory
  | 36 => .nameTooLong
  | number => .other description number

/-- Number of a fault that the system reports. Paths with forbidden characters do not get there. -/
def number? : FileFault → Option Nat
  | .notFound => some 2
  | .denied => some 13
  | .alreadyExists => some 17
  | .notDirectory => some 20
  | .isDirectory => some 21
  | .nameTooLong => some 36
  | .nulInPath => none
  | .other _ number => some number

/-- The system's number for a fault is kept. -/
@[simp]
theorem number?_ofSystem (description : String) (number : Nat) :
    (ofSystem description number).number? = some number := by
  unfold ofSystem
  split <;> rfl

/-- The kinds of faults that have a name of their own, by their numbers. -/
def kindNames : List (Nat × String) :=
  [(1, "PermissionDenied"), (4, "Interrupted"), (11, "WouldBlock"), (12, "OutOfMemory"),
    (16, "ResourceBusy"), (18, "CrossesDevices"), (22, "InvalidInput"),
    (26, "ExecutableFileBusy"), (27, "FileTooLarge"), (28, "StorageFull"), (29, "NotSeekable"),
    (30, "ReadOnlyFilesystem"), (31, "TooManyLinks"), (35, "Deadlock"), (38, "Unsupported"),
    (39, "DirectoryNotEmpty"), (40, "FilesystemLoop"), (95, "Unsupported"), (110, "TimedOut"),
    (116, "StaleNetworkFileHandle"), (122, "QuotaExceeded")]

/-- Name of the kind of a fault. -/
def kind : FileFault → String
  | .notFound => "NotFound"
  | .denied => "PermissionDenied"
  | .alreadyExists => "AlreadyExists"
  | .notDirectory => "NotADirectory"
  | .isDirectory => "IsADirectory"
  | .nameTooLong => "InvalidFilename"
  | .nulInPath => "InvalidInput"
  | .other _ number => (kindNames.lookup number).getD "Uncategorized"

/-- A fault in words. -/
def text : FileFault → String
  | .notFound => "No such file or directory"
  | .denied => "Permission denied"
  | .alreadyExists => "File exists"
  | .notDirectory => "Not a directory"
  | .isDirectory => "Is a directory"
  | .nameTooLong => "File name too long"
  | .nulInPath => "file name contained an unexpected NUL byte"
  | .other description _ => description

/-- What is reported of a fault. -/
def message (fault : FileFault) : String :=
  match fault.number? with
  | some number => s!"{fault.text} (os error {number})"
  | none => fault.text

/-- What is reported of a fault with everything that is known of it. -/
def details (fault : FileFault) : String :=
  let quoted := s!"message: {Text.quote fault.text} \x7d"
  match fault.number? with
  | some number => s!"Os \x7b code: {number}, kind: {fault.kind}, {quoted}"
  | none => s!"Error \x7b kind: {fault.kind}, {quoted}"

end FileFault

/-- What a name in a directory stands for. -/
inductive Node where
  /-- A file with its content. -/
  | file (content : Text.Document)
  /-- A file that cannot be used, and why. -/
  | unusable (fault : FileFault)
  /-- A directory with its entries. -/
  | directory (entries : List (String × Node))
  deriving Inhabited

/-- Entries of a directory, by name. -/
abbrev Directory := List (String × Node)

namespace Directory

/-- The entries without that of a name. -/
def erase (directory : Directory) (name : String) : Directory :=
  directory.filter (·.1 != name)

/-- Change what one of the names of a directory stands for. -/
def set (directory : Directory) (name : String) (node : Node) : Directory :=
  directory.erase name ++ [(name, node)]

/-- What was put under a name is found there. -/
@[simp]
theorem lookup_set_self (directory : Directory) (name : String) (node : Node) :
    (directory.set name node).lookup name = some node := by
  have h : (directory.erase name).lookup name = none :=
    List.lookup_eq_none_iff.2 fun entry hentry =>
      bne_iff_ne.2 (bne_iff_ne.1 (List.mem_filter.1 hentry).2).symm
  rw [set, List.lookup_append, h, List.lookup_cons_self]
  rfl

end Directory

/-- Files as a program uses them. -/
structure FileAccess where
  /-- Content of the file that a path leads to. -/
  read : String → Except FileFault Text.Document
  /-- Entries of the directory that a path leads to. -/
  list : String → Except FileFault Directory

end BuildScope.Files
