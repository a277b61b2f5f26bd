import BuildScope.Builder.Basic
import BuildScope.Json.Value
import Std.Data.ExtTreeMap

/-!
# Manifests

What a test harness says about its tests: the isolates that hold them, and the builders that the
build service cannot describe. A listing is a manifest as written; a manifest is what it means.

* `Manifest.ofListing`: the manifest of a listing, or its first fault.
* `Manifest.runsTest`: whether a builder runs a test of interest.
-/

namespace BuildScope

open Json (Value)

/-- A builder as a manifest lists it. -/
structure ListedBuilder where
  /-- Name without its group. -/
  name : String
  /-- Whether it belongs to the internal project. -/
  isInternal : Bool := false
  deriving DecidableEq, Repr

/-- The builder of a given type that is listed. -/
def ListedBuilder.toBuilder (listed : ListedBuilder) (type : BuilderType) : Builder :=
  ⟨listed.name, type, listed.isInternal⟩

/-- A CI builder that does not exist, listed with the try builders that stand in for it. -/
structure FakeBuilder where
  /-- The CI builder. -/
  builder : ListedBuilder
  /-- The try builders. -/
  mirrors : List ListedBuilder
  deriving DecidableEq, Repr

/-- A manifest as written. -/
structure ManifestListing where
  /-- Names of isolates. -/
  isolateNames : List String
  /-- CI builders that do not exist. -/
  fakes : List FakeBuilder := []
  /-- CI builders of other projects. -/
  nonChromium : List ListedBuilder := []
  deriving DecidableEq, Repr

/-- What is known about the tests of a harness. -/
structure Manifest where
  /-- Names of the isolates that hold tests of interest. -/
  isolateNames : Std.ExtTreeSet String := ∅
  /-- The try builders that stand in for CI builders which do not exist. -/
  fakes : Std.ExtTreeMap Builder BuilderSet := ∅
  /-- CI builders of other projects, which nothing mirrors. -/
  nonChromium : BuilderSet := ∅

/-- What makes a listing no manifest. -/
inductive ManifestFault where
  /-- It lists no isolates. -/
  | noIsolates
  /-- It lists no try builders for a CI builder. -/
  | noMirrors (name : String)
  deriving DecidableEq, Repr

/-- What is reported of a fault. -/
def ManifestFault.message : ManifestFault → String
  | .noIsolates => "Invalid builder manifest: no isolate names listed"
  | .noMirrors name => s!"Invalid builder manifest: fake CI builder {name} has no mirrors"

/-- The set of some listed builders. -/
def BuilderSet.ofListed (type : BuilderType) (listed : List ListedBuilder) : BuilderSet :=
  .ofList (listed.map (·.toBuilder type))

namespace ManifestListing

/-- The first thing wrong with a listing. -/
def fault? (listing : ManifestListing) : Option ManifestFault :=
  if listing.isolateNames.isEmpty then some .noIsolates
  else (listing.fakes.find? (·.mirrors.isEmpty)).map fun fake => .noMirrors fake.builder.name

/-- The try builders that stand in for CI builders. Of listings for one builder the last counts. -/
def fakeMap (fakes : List FakeBuilder) : Std.ExtTreeMap Builder BuilderSet :=
  fakes.foldl (fun map fake => map.insert (fake.builder.toBuilder .ci)
    (.ofListed .tryJob fake.mirrors)) ∅

end ManifestListing

namespace Manifest

/-- The manifest of a listing, or the first thing wrong with it. -/
def ofListing (listing : ManifestListing) : Except ManifestFault Manifest :=
  match listing.fault? with
  | some fault => .error fault
  | none =>
    .ok
      { isolateNames := .ofList listing.isolateNames
        fakes := ManifestListing.fakeMap listing.fakes
        nonChromium := .ofListed .ci listing.nonChromium }

/-- The isolate that a test is in. -/
def isolate? (test : Value) : Option String :=
  ((test.get? "isolate_name").or (test.get? "test")).bind Value.asText?

/-- Whether a value is the name of a suite. -/
def isSuite (suite : String) (value : Value) : Bool :=
  value.asText? == some suite

/-- Whether a test belongs to a suite, by one of its names or by an argument. -/
def belongsTo (suite : String) (test : Value) : Bool :=
  (test.get? "name").any (isSuite suite)
    || (test.get? "telemetry_test_name").any (isSuite suite)
    || ((test.get? "args").bind Value.asArray?).any (·.any (isSuite suite))

/-- Whether a test is of interest, which is narrowed to a suite if one is given. -/
def isOfInterest (manifest : Manifest) (suite : Option String) (test : Value) : Bool :=
  (isolate? test).any manifest.isolateNames.contains && suite.all (belongsTo · test)

/-- The tests of a builder that can be of interest. -/
def testsOf (spec : Value) : List Value :=
  ["isolated_scripts", "gtest_tests"].flatMap fun key =>
    ((spec.get? key).bind Value.asArray?).getD []

/-- Whether a builder with a given specification runs a test of interest. -/
def runsTest (manifest : Manifest) (suite : Option String) (spec : Value) : Bool :=
  (testsOf spec).any (manifest.isOfInterest suite)

end Manifest

end BuildScope
