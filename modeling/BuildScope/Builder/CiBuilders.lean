import BuildScope.Builder.Manifest
import BuildScope.Files.Basic
import BuildScope.Json.Reader
import BuildScope.Text.Parts

/-!
# CI Builders

The CI builders that run tests of interest, found in directories of generated files. Such a file is
an object that carries a marker; its other members are builders with what they run.

* `CiBuilders.mem_ofFile_iff`: the builders that a file contributes.
* `CiBuilders.ofFiles`: the builders of a public and perhaps an internal directory.
-/

namespace BuildScope.CiBuilders

open Files (Directory FileAccess FileFault Node)
open Json (Fault Reader Value)

/-- Key that every generated file has. -/
def markerKey : String := "AAAAA1 AUTOGENERATED FILE DO NOT EDIT"

/-- Whether a key of a generated file is a comment. -/
def isComment (key : String) : Bool :=
  Text.isWithin "AAAA".toList key.toList

/-- Whether a file of a directory can hold builders, by its name. -/
def isListed (name : String) : Bool :=
  name.endsWith ".json" && name != ".json"

/-- Why builders cannot be found. -/
inductive SearchFault where
  /-- A directory or a file cannot be used. -/
  | file (fault : FileFault)
  /-- A file is no JSON document. -/
  | document (fault : Fault)
  deriving DecidableEq, Repr

/-- What is reported of a search that fails. -/
def SearchFault.message : SearchFault → String
  | .file fault => "IO error: " ++ fault.message
  | .document fault => "JSON error: " ++ fault.message

/-- Where generated files are. -/
structure Places where
  /-- Path of the directory of the public project. -/
  publicDirectory : String
  /-- Path of the directory of the internal project, if that is searched too. -/
  internalDirectory : Option String := none
  deriving DecidableEq, Repr

/-- The builders of a file that run tests of interest. -/
def ofFile (manifest : Manifest) (suite : Option String) (isInternal : Bool) (file : Value) :
    List Builder :=
  match file with
  | .object members =>
    if (members.lookup markerKey).isSome then
      (members.filter fun (key, spec) => !isComment key && manifest.runsTest suite spec).map
        fun (key, _) => ⟨key, .ci, isInternal⟩
    else []
  | _ => []

/-- The value of a file. -/
def valueOf : Node → Except SearchFault Value
  | .directory _ => .error (.file .isDirectory)
  | .unusable fault => .error (.file fault)
  | .file content => (Reader.value.ofDocument content).mapError .document

/-- The files of a directory that can hold builders, in the order of their names. -/
def candidates (directory : Directory) : List Node :=
  ((directory.filter fun (name, _) => isListed name).mergeSort fun a b => a.1 ≤ b.1).map Prod.snd

/-- The builders of a directory that run tests of interest. -/
def ofDirectory (manifest : Manifest) (suite : Option String) (isInternal : Bool)
    (directory : Directory) : Except SearchFault (List Builder) := do
  -- every file is read, whether it contributes builders or not
  let files ← (candidates directory).mapM valueOf
  return files.flatMap (ofFile manifest suite isInternal)

/-- The builders of the directory that a path leads to. -/
def ofPath (files : FileAccess) (manifest : Manifest) (suite : Option String) (isInternal : Bool)
    (path : String) : Except SearchFault (List Builder) := do
  let directory ← (files.list path).mapError .file
  ofDirectory manifest suite isInternal directory

/-- The CI builders that run tests of interest. Internal builders are among them only if their
directory is given. -/
def ofFiles (files : FileAccess) (places : Places) (manifest : Manifest) (suite : Option String) :
    Except SearchFault BuilderSet := do
  let ofPublic ← ofPath files manifest suite false places.publicDirectory
  let ofInternal ← match places.internalDirectory with
    | none => .ok []
    | some path => ofPath files manifest suite true path
  return .ofList (ofPublic ++ ofInternal)

/-- A generated file contributes a builder for each key that is no comment and whose
specification runs a test of interest. -/
theorem mem_ofFile_iff {manifest : Manifest} {suite : Option String} {isInternal : Bool}
    {file : Value} {builder : Builder} :
    builder ∈ ofFile manifest suite isInternal file ↔
      ∃ members, file = .object members ∧ (members.lookup markerKey).isSome ∧
        ∃ spec, (builder.name, spec) ∈ members ∧ isComment builder.name = false ∧
          manifest.runsTest suite spec ∧ builder = ⟨builder.name, .ci, isInternal⟩ := by
  constructor
  · intro h
    unfold ofFile at h
    split at h
    · rename_i members
      split at h
      · rename_i hmarked
        obtain ⟨⟨key, spec⟩, hmem, rfl⟩ := List.mem_map.1 h
        obtain ⟨hmem, hruns⟩ := List.mem_filter.1 hmem
        simp only [Bool.and_eq_true, Bool.not_eq_true'] at hruns
        exact ⟨members, rfl, hmarked, spec, hmem, hruns.1, hruns.2, rfl⟩
      · simp at h
    · simp at h
  · rintro ⟨members, rfl, hmarked, spec, hmem, hcomment, hruns, hbuilder⟩
    rw [ofFile, if_pos hmarked, hbuilder]
    exact List.mem_map.2 ⟨(builder.name, spec), List.mem_filter.2 ⟨hmem, by simp [hcomment, hruns]⟩,
      rfl⟩

end BuildScope.CiBuilders
