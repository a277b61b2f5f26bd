import BuildScope.Builder.Manifest
import BuildScope.Json.Reader

/-!
# Builders and Manifests as Documents

How builders and manifests are read from JSON documents. A manifest lists a builder by its name, or
by an object that can say that the builder is internal.

* `Builder.reader`, `Builder.toValue`: builders.
* `Manifest.ofDocument`: the manifest of a document.
-/

namespace BuildScope

open Json (Reader Value Fault)
open Json.Reader (field record)

namespace BuilderType

/-- Reader of types: a name, or an object whose only key is the name and whose value is null. -/
def reader : Reader BuilderType := fun _ tree =>
  let named (name : Option String) : Except Fault BuilderType :=
    match name.bind ofLabel? with
    | some type => .ok type
    | none => .error .mismatched
  match tree with
  | .text name => named name
  | .object [(name, .null)] none => named name
  | tree => .error tree.mismatch

end BuilderType

namespace Builder

/-- A builder of which some fields have been read. -/
structure Draft where
  /-- The name, if read. -/
  name : Option String := none
  /-- The type, if read. -/
  type : Option BuilderType := none
  /-- Whether it is internal, if read. -/
  isInternal : Option Bool := none

/-- The fields of a builder. -/
def fields : List (Reader.Field Draft) :=
  [field "name" .text (·.name) fun draft x => { draft with name := x },
    field "builder_type" BuilderType.reader (·.type) fun draft x => { draft with type := x },
    field "is_internal" .bool (·.isInternal) fun draft x => { draft with isInternal := x }]

/-- The builder of a draft, which has to be complete. -/
def ofDraft (draft : Draft) : Option Builder := do
  return ⟨← draft.name, ← draft.type, ← draft.isInternal⟩

/-- Reader of builders. -/
def reader : Reader Builder :=
  record fields {} ofDraft

/-- A builder as a value. -/
def toValue (builder : Builder) : Value :=
  .object
    [("name", .text builder.name), ("builder_type", .text builder.type.label),
      ("is_internal", .bool builder.isInternal)]

end Builder

namespace ListedBuilder

/-- A listed builder of which some fields have been read. -/
structure Draft where
  /-- The name, if read. -/
  name : Option String := none
  /-- Whether it is internal, if read. -/
  isInternal : Option Bool := none

/-- The fields of a listed builder. -/
def fields : List (Reader.Field Draft) :=
  [field "name" .text (·.name) fun draft x => { draft with name := x },
    field "internal" .bool (·.isInternal) fun draft x => { draft with isInternal := x }]

/-- The listed builder of a draft. Only the name is required. -/
def ofDraft (draft : Draft) : Option ListedBuilder :=
  draft.name.map fun name => { name, isInternal := draft.isInternal.getD false }

/-- Reader of listed builders, each a name or an object. The value is read whole before its shape is
looked at, and then whatever is wrong with the shape is a mismatch. -/
def reader : Reader ListedBuilder := fun surroundings tree => do
  let _ ← tree.toValue surroundings.depth
  match tree with
  | .text (some name) => .ok { name }
  | .object .. =>
    match record fields {} ofDraft surroundings tree with
    | .ok listed => .ok listed
    | .error _ => .error .mismatched
  | _ => .error .mismatched

end ListedBuilder

namespace FakeBuilder

/-- A fake builder of which some fields have been read. -/
structure Draft where
  /-- The CI builder, if read. -/
  builder : Option ListedBuilder := none
  /-- The try builders, if read. -/
  mirrors : Option (List ListedBuilder) := none

/-- The fields of a fake builder. -/
def fields : List (Reader.Field Draft) :=
  [field "builder" ListedBuilder.reader (·.builder) fun draft x => { draft with builder := x },
    field "mirrors" (.list ListedBuilder.reader) (·.mirrors)
      fun draft x => { draft with mirrors := x }]

/-- Reader of fake builders. -/
def reader : Reader FakeBuilder :=
  record fields {} fun draft => do
    return ⟨← draft.builder, ← draft.mirrors⟩

end FakeBuilder

namespace ManifestListing

/-- The parts of a listing that have been read. -/
structure Draft where
  /-- The isolates, if read. -/
  isolateNames : Option (List String) := none
  /-- The fake builders, if read. -/
  fakes : Option (List FakeBuilder) := none
  /-- The builders of other projects, if read. -/
  nonChromium : Option (List ListedBuilder) := none

/-- The fields of a listing. -/
def fields : List (Reader.Field Draft) :=
  [field "isolate_names" (.list .text) (·.isolateNames)
      fun draft x => { draft with isolateNames := x },
    field "fake_ci_builders" (.list FakeBuilder.reader) (·.fakes)
      fun draft x => { draft with fakes := x },
    field "non_chromium_builders" (.list ListedBuilder.reader) (·.nonChromium)
      fun draft x => { draft with nonChromium := x }]

/-- Reader of listings. Only the isolates are required. -/
def reader : Reader ManifestListing :=
  record fields {} fun draft =>
    draft.isolateNames.map fun isolateNames =>
      { isolateNames, fakes := draft.fakes.getD [], nonChromium := draft.nonChromium.getD [] }

end ManifestListing

namespace Manifest

/-- Why a document is no manifest. -/
inductive DocumentFault where
  /-- The document cannot be read. -/
  | document (fault : Fault)
  /-- What it lists makes no manifest. -/
  | manifest (fault : ManifestFault)
  deriving DecidableEq, Repr

/-- The manifest of a document. -/
def ofDocument (document : Text.Document) : Except DocumentFault Manifest := do
  let listing ← (ManifestListing.reader.ofDocument document).mapError .document
  (ofListing listing).mapError .manifest

end Manifest

end BuildScope
