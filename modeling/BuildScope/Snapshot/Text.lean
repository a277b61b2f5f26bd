import BuildScope.Json.Printer
import BuildScope.Json.Reader
import BuildScope.Snapshot.Basic

/-!
# Snapshots as Documents

How snapshots are written to and read from JSON documents. Every record has its fields in one
order; all of them are written, and most may be left out when read.

* `Snapshot.ofDocument`: the snapshot of a document.
* `Snapshot.text`: the document of a snapshot.
-/

namespace BuildScope

open Json (Reader Value Fault)
open Json.Reader (field record)

namespace Container

/-- A container of which some fields have been read. -/
structure Draft where
  /-- The name, if read. -/
  name : Option String := none
  /-- The label, if read. -/
  shortName : Option String := none
  /-- The metadata, if read. -/
  metadata : Option (List (String × Value)) := none

/-- The fields of a container. -/
def fields : List (Reader.Field Draft) :=
  [field "name" .text (·.name) fun draft x => { draft with name := x },
    field "short_name" .text (·.shortName) fun draft x => { draft with shortName := x },
    field "metadata" .members (·.metadata) fun draft x => { draft with metadata := x }]

/-- The container of a draft. Only the name is required. -/
def ofDraft (draft : Draft) : Option Container :=
  draft.name.map fun name =>
    { name, shortName := draft.shortName.getD "", metadata := draft.metadata.getD [] }

/-- Reader of containers. -/
def reader : Reader Container :=
  record fields {} ofDraft

/-- A container as a value. -/
def toValue (container : Container) : Value :=
  .object
    [("name", .text container.name), ("short_name", .text container.shortName),
      ("metadata", .object container.metadata)]

end Container

namespace Symbol

/-- A symbol of which some fields have been read. -/
structure Draft where
  /-- The container, if read. -/
  containerName : Option String := none
  /-- The raw section name, if read. -/
  sectionName : Option String := none
  /-- The address, if read. -/
  address : Option UInt64 := none
  /-- The size, if read. -/
  size : Option Int64 := none
  /-- The padding, if read. -/
  padding : Option Int64 := none
  /-- The full name, if read. -/
  fullName : Option String := none
  /-- The name without arguments, if read. -/
  templateName : Option String := none
  /-- The unqualified name, if read. -/
  name : Option String := none
  /-- The source file, if read. -/
  sourcePath : Option String := none
  /-- The object file, if read. -/
  objectPath : Option String := none
  /-- The attribute bits, if read. -/
  flags : Option UInt32 := none
  /-- The number of aliases, if read. -/
  numAliases : Option UInt32 := none

/-- The fields of a symbol. -/
def fields : List (Reader.Field Draft) :=
  [field "container_name" .text (·.containerName) fun draft x => { draft with containerName := x },
    field "section_name" .text (·.sectionName) fun draft x => { draft with sectionName := x },
    field "address" .uint64 (·.address) fun draft x => { draft with address := x },
    field "size" .int64 (·.size) fun draft x => { draft with size := x },
    field "padding" .int64 (·.padding) fun draft x => { draft with padding := x },
    field "full_name" .text (·.fullName) fun draft x => { draft with fullName := x },
    field "template_name" .text (·.templateName) fun draft x => { draft with templateName := x },
    field "name" .text (·.name) fun draft x => { draft with name := x },
    field "source_path" .text (·.sourcePath) fun draft x => { draft with sourcePath := x },
    field "object_path" .text (·.objectPath) fun draft x => { draft with objectPath := x },
    field "flags" .uint32 (·.flags) fun draft x => { draft with flags := x },
    field "num_aliases" .uint32 (·.numAliases) fun draft x => { draft with numAliases := x }]

/-- The symbol of a draft. Only the section and the size are required. -/
def ofDraft (draft : Draft) : Option Symbol :=
  match draft.sectionName, draft.size with
  | some sectionName, some size =>
    some
      { containerName := draft.containerName.getD ""
        sectionName
        address := draft.address.getD 0
        size
        padding := draft.padding.getD 0
        fullName := draft.fullName.getD ""
        templateName := draft.templateName.getD ""
        name := draft.name.getD ""
        sourcePath := draft.sourcePath.getD ""
        objectPath := draft.objectPath.getD ""
        flags := ⟨draft.flags.getD 0⟩
        numAliases := draft.numAliases.getD 1 }
  | _, _ => none

/-- Reader of symbols. -/
def reader : Reader Symbol :=
  record fields {} ofDraft

/-- A symbol as a value. -/
def toValue (sym : Symbol) : Value :=
  .object
    [("container_name", .text sym.containerName), ("section_name", .text sym.sectionName),
      ("address", .int sym.address.toNat), ("size", .int sym.size.toInt),
      ("padding", .int sym.padding.toInt), ("full_name", .text sym.fullName),
      ("template_name", .text sym.templateName), ("name", .text sym.name),
      ("source_path", .text sym.sourcePath), ("object_path", .text sym.objectPath),
      ("flags", .int sym.flags.bits.toNat), ("num_aliases", .int sym.numAliases.toNat)]

end Symbol

namespace Snapshot

/-- The parts of a snapshot that have been read. -/
structure Draft where
  /-- The metadata, if read. -/
  metadata : Option (List (String × Value)) := none
  /-- The containers, if read. -/
  containers : Option (List Container) := none
  /-- The symbols, if read. -/
  symbols : Option (List Symbol) := none

/-- The fields of a snapshot. -/
def fields : List (Reader.Field Draft) :=
  [field "metadata" .members (·.metadata) fun draft x => { draft with metadata := x },
    field "containers" (.list Container.reader) (·.containers)
      fun draft x => { draft with containers := x },
    field "symbols" (.list Symbol.reader) (·.symbols) fun draft x => { draft with symbols := x }]

/-- Reader of the parts of a snapshot, which are not checked. -/
def reader : Reader Snapshot :=
  record fields {} fun draft =>
    some
      { containers := draft.containers.getD []
        symbols := draft.symbols.getD []
        metadata := draft.metadata.getD [] }

/-- Why a document is no snapshot. -/
inductive DocumentFault where
  /-- The document cannot be read. -/
  | document (fault : Fault)
  /-- A symbol is inadmissible. -/
  | snapshot (fault : SnapshotFault)
  deriving DecidableEq, Repr

/-- The snapshot of a document. -/
def ofDocument (document : Text.Document) : Except DocumentFault Snapshot := do
  let parts ← (reader.ofDocument document).mapError .document
  -- the symbols are checked once the document is read to its end
  let snapshot ← (ofLists parts.containers parts.symbols).mapError .snapshot
  .ok { snapshot with metadata := parts.metadata }

/-- A snapshot as a value. -/
def toValue (snapshot : Snapshot) : Value :=
  .object
    [("metadata", .object snapshot.metadata),
      ("containers", .array (snapshot.containers.map Container.toValue)),
      ("symbols", .array (snapshot.symbols.map Symbol.toValue))]

/-- The text of the document of a snapshot. -/
def text (snapshot : Snapshot) : String :=
  snapshot.toValue.pretty

end Snapshot

end BuildScope
