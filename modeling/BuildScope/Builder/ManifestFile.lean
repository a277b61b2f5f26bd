import BuildScope.Builder.Text
import BuildScope.Files.Basic

/-!
# Manifest Files

Manifests are kept in files.

* `Manifest.load`: the manifest in a file.
-/

namespace BuildScope.Manifest

open Files (FileAccess FileFault)

/-- Why a manifest cannot be loaded. -/
inductive LoadFault where
  /-- The file cannot be opened. -/
  | file (fault : FileFault)
  /-- It can be opened but not read, for it is a directory. -/
  | unreadable
  /-- Its content is no manifest. -/
  | content (fault : DocumentFault)
  deriving DecidableEq, Repr

/-- What is reported of a fault. -/
def LoadFault.message : LoadFault → String
  | .file fault => "IO error: " ++ fault.message
  | .unreadable => "JSON error: " ++ FileFault.message .isDirectory
  | .content (.document fault) => "JSON error: " ++ fault.message
  | .content (.manifest fault) => fault.message

/-- The manifest in the file that a path leads to. -/
def load (files : FileAccess) (path : String) : Except LoadFault Manifest :=
  match files.read path with
  | .ok content => (ofDocument content).mapError .content
  | .error .isDirectory => .error .unreadable
  | .error fault => .error (.file fault)

end BuildScope.Manifest
