import BuildScope.Files.Place
import BuildScope.Snapshot.Text

/-!
# Snapshot Files

Snapshots are kept in files.

* `Snapshot.load`: the snapshot in a file.
* `Snapshot.save`: a directory after a snapshot has been written to a file.
-/

namespace BuildScope.Snapshot

open Files (Directory FileAccess FileFault)

/-- Why a snapshot cannot be loaded. -/
inductive LoadFault where
  /-- The file cannot be opened. -/
  | file (fault : FileFault)
  /-- It can be opened but not read, for it is a directory. -/
  | unreadable
  /-- Its content is no snapshot. -/
  | content (fault : DocumentFault)
  deriving DecidableEq, Repr

/-- What is reported of a fault. -/
def LoadFault.message : LoadFault → String
  | .file fault => "IO error: " ++ fault.message
  | .unreadable => "Malformed snapshot: " ++ FileFault.message .isDirectory
  | .content (.document fault) => "Malformed snapshot: " ++ fault.message
  | .content (.snapshot fault) => fault.message

/-- The snapshot in the file that a path leads to. -/
def load (files : FileAccess) (path : String) : Except LoadFault Snapshot :=
  match files.read path with
  | .ok content => (ofDocument content).mapError .content
  | .error .isDirectory => .error .unreadable
  | .error fault => .error (.file fault)

/-- Write a snapshot to the file that a path leads to. -/
def save (directory : Directory) (path : String) (snapshot : Snapshot) :
    Except FileFault Directory :=
  directory.write path (.ofString snapshot.text)

end BuildScope.Snapshot
