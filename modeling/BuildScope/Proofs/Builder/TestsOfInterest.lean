import BuildScope.Builder.Manifest
import BuildScope.Proofs.Json.Lookup

/-!
# Tests of Interest

Which tests a manifest is about, in terms of what the specification of a builder says. The
specification may have any shape: what is no list, no text or not there at all says nothing.

* `Manifest.HasIsolate`, `Manifest.NamesSuite`: what a test says of its isolate and its suites.
* `Manifest.runsTest_iff`: a builder runs a test of interest if one of its lists has one.
* `Manifest.Covers.mono`: more isolates and no suite make more tests interesting.
-/

namespace BuildScope.Manifest

open Json (Value)
open Json.Value (asText?_eq_some_iff asArray?_eq_some_iff)

/-- The isolate of a test, which is named by itself or else by the test. -/
inductive HasIsolate (test : Value) : String → Prop
  | own {isolate : String} (named : test.get? "isolate_name" = some (.text isolate)) :
      HasIsolate test isolate
  -- an isolate whose name is no text is not looked for elsewhere
  | ofTest {isolate : String} (unnamed : test.get? "isolate_name" = none)
      (named : test.get? "test" = some (.text isolate)) : HasIsolate test isolate

/-- The ways in which a test names a suite. -/
inductive NamesSuite (test : Value) (suite : String) : Prop
  | name (named : test.get? "name" = some (.text suite))
  | telemetryName (named : test.get? "telemetry_test_name" = some (.text suite))
  | argument {args : List Value} (listed : test.get? "args" = some (.array args))
      (mem : .text suite ∈ args)

/-- A test is in one of the isolates of a manifest, and names the suite if one is given. -/
structure Covers (manifest : Manifest) (suite : Option String) (test : Value) : Prop where
  isolate : ∃ isolate ∈ manifest.isolateNames, HasIsolate test isolate
  suite : ∀ name ∈ suite, NamesSuite test name

/-- One of the two lists of tests of a builder has a test of interest. -/
def CoversSome (manifest : Manifest) (suite : Option String) (spec : Value) : Prop :=
  ∃ key ∈ ["isolated_scripts", "gtest_tests"], ∃ tests, spec.get? key = some (.array tests) ∧
    ∃ test ∈ tests, manifest.Covers suite test

variable {manifest wider : Manifest} {suite suite' : Option String} {test spec : Value}
  {name : String}

/-- The isolate of a test is looked for under two keys. -/
theorem isolate?_eq_some_iff : isolate? test = some name ↔ HasIsolate test name := by
  rw [isolate?, Option.bind_eq_some_iff]
  simp only [asText?_eq_some_iff, exists_eq_right, Option.or_eq_some_iff]
  constructor
  · rintro (hown | ⟨hnone, htest⟩)
    · exact .own hown
    · exact .ofTest hnone htest
  · rintro (hown | ⟨hnone, htest⟩)
    · exact .inl hown
    · exact .inr ⟨hnone, htest⟩

/-- A suite is named by a text. -/
theorem isSuite_iff {value : Value} : isSuite name value ↔ value = .text name := by
  rw [isSuite, beq_iff_eq, asText?_eq_some_iff]

/-- A test belongs to a suite that one of its names or arguments is. -/
theorem belongsTo_iff : belongsTo name test ↔ NamesSuite test name := by
  simp only [belongsTo, Bool.or_eq_true, Option.any_eq_true, List.any_eq_true,
    Option.bind_eq_some_iff, asArray?_eq_some_iff, isSuite_iff, exists_eq_right]
  constructor
  · rintro ((h | h) | ⟨args, hargs, hmem⟩)
    · exact .name h
    · exact .telemetryName h
    · exact .argument hargs hmem
  · rintro (h | h | ⟨hargs, hmem⟩)
    · exact .inl (.inl h)
    · exact .inl (.inr h)
    · exact .inr ⟨_, hargs, hmem⟩

/-- A test is of interest if the manifest covers it. -/
theorem isOfInterest_iff : manifest.isOfInterest suite test ↔ manifest.Covers suite test := by
  have hisolate : (isolate? test).any manifest.isolateNames.contains ↔
      ∃ isolate ∈ manifest.isolateNames, HasIsolate test isolate := by
    simp only [Option.any_eq_true, isolate?_eq_some_iff, Std.ExtTreeSet.contains_iff_mem, and_comm]
  have hsuite : suite.all (belongsTo · test) ↔ ∀ name ∈ suite, NamesSuite test name := by
    simp only [Option.all_eq_true, belongsTo_iff, Option.mem_def]
  rw [isOfInterest, Bool.and_eq_true, hisolate, hsuite]
  constructor
  · rintro ⟨isolate, suite⟩
    exact ⟨isolate, suite⟩
  · rintro ⟨isolate, suite⟩
    exact ⟨isolate, suite⟩

/-- A builder runs a test of interest if one of its lists has one. -/
theorem runsTest_iff : manifest.runsTest suite spec ↔ manifest.CoversSome suite spec := by
  have hlist (key : String) (test : Value) :
      test ∈ ((spec.get? key).bind Value.asArray?).getD [] ↔
        ∃ tests, spec.get? key = some (.array tests) ∧ test ∈ tests := by
    cases htests : (spec.get? key).bind Value.asArray? with
    | none =>
      simp only [Option.getD_none, List.not_mem_nil, false_iff]
      rintro ⟨tests, hlisted, -⟩
      simp [hlisted, Value.asArray?] at htests
    | some tests =>
      simp only [Option.bind_eq_some_iff, asArray?_eq_some_iff, exists_eq_right] at htests
      simp [htests]
  simp only [runsTest, testsOf, List.any_eq_true, List.mem_flatMap, hlist, isOfInterest_iff]
  constructor
  · rintro ⟨test, ⟨key, hkey, tests, htests, hmem⟩, hcovers⟩
    exact ⟨key, hkey, tests, htests, test, hmem, hcovers⟩
  · rintro ⟨key, hkey, tests, htests, test, hmem, hcovers⟩
    exact ⟨test, ⟨key, hkey, tests, htests, hmem⟩, hcovers⟩

/-- With more isolates, and the same suite or none, a test that was of interest still is. -/
theorem Covers.mono (h : manifest.Covers suite test)
    (hisolates : ∀ isolate ∈ manifest.isolateNames, isolate ∈ wider.isolateNames)
    (hsuite : ∀ name ∈ suite', name ∈ suite) : wider.Covers suite' test := by
  obtain ⟨⟨isolate, hmem, hisolate⟩, hnamed⟩ := h
  exact ⟨⟨isolate, hisolates isolate hmem, hisolate⟩,
    fun name hname => hnamed name (hsuite name hname)⟩

/-- A builder is still covered by a manifest with more isolates, and without a suite. -/
theorem CoversSome.mono (h : manifest.CoversSome suite spec)
    (hisolates : ∀ isolate ∈ manifest.isolateNames, isolate ∈ wider.isolateNames)
    (hsuite : ∀ name ∈ suite', name ∈ suite) : wider.CoversSome suite' spec := by
  obtain ⟨key, hkey, tests, htests, test, hmem, hcovers⟩ := h
  exact ⟨key, hkey, tests, htests, test, hmem, hcovers.mono hisolates hsuite⟩

end BuildScope.Manifest
