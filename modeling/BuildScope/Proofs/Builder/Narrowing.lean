import BuildScope.Proofs.Builder.Search

/-!
# Narrowing a Search

A search finds fewer builders for a suite than without one, and fewer with fewer isolates. As the
files are read before builders are chosen, neither decides whether the search succeeds. An internal
directory only adds internal builders.

* `CiBuilders.mem_ofFile_mono`: what a narrower search chooses from a file, a wider one does too.
* `CiBuilders.Narrows`: two searches that fail alike, or find fewer and more builders.
* `CiBuilders.ofFiles_narrows`: suites, isolates and directories narrow a search.
-/

namespace BuildScope.CiBuilders

open Files (Directory FileAccess Node)
open Json (Value)

/-- Two searches fail with the same fault, or what the first one finds the second one finds too. -/
inductive Narrows : Except SearchFault BuilderSet → Except SearchFault BuilderSet → Prop
  | failed (fault : SearchFault) : Narrows (.error fault) (.error fault)
  | found {narrow wide : BuilderSet} (subset : ∀ builder ∈ narrow, builder ∈ wide) :
      Narrows (.ok narrow) (.ok wide)

/-- A search fails as the narrower one does. -/
theorem Narrows.eq_error {fault : SearchFault} {wide : Except SearchFault BuilderSet}
    (h : Narrows (.error fault) wide) : wide = .error fault := by
  cases h
  rfl

/-- The builders that are found in two directories are those that are found in the public one, and
internal ones. -/
structure AddsInternal (ofPublic ofBoth : BuilderSet) : Prop where
  kept : ∀ builder ∈ ofPublic, builder ∈ ofBoth
  added : ∀ builder ∈ ofBoth, builder ∉ ofPublic → builder.isInternal
  same : ∀ builder : Builder, builder.isInternal = false →
    (builder ∈ ofBoth ↔ builder ∈ ofPublic)

variable {files : FileAccess} {places : Places} {manifest wider : Manifest}
  {suite suite' : Option String} {isInternal : Bool} {path : String} {file : Value}
  {builder : Builder} {values ofPublic : List (Bool × Value)}

/-- The builders that are chosen from a file stay chosen with more isolates, and with the same suite
or none. -/
theorem mem_ofFile_mono (h : builder ∈ ofFile manifest suite isInternal file)
    (hisolates : ∀ isolate ∈ manifest.isolateNames, isolate ∈ wider.isolateNames)
    (hsuite : ∀ name ∈ suite', name ∈ suite) : builder ∈ ofFile wider suite' isInternal file := by
  obtain ⟨members, hfile, hmarked, spec, hspec, hcomment, hruns, hbuilder⟩ := mem_ofFile_iff.1 h
  have hwider := (Manifest.runsTest_iff.1 hruns).mono hisolates hsuite
  exact mem_ofFile_iff.2 ⟨members, hfile, hmarked, spec, hspec, hcomment,
    Manifest.runsTest_iff.2 hwider, hbuilder⟩

theorem isInternal_of_mem_ofFile (h : builder ∈ ofFile manifest suite isInternal file) :
    builder.isInternal = isInternal := by
  obtain ⟨_, _, _, _, _, _, _, hbuilder⟩ := mem_ofFile_iff.1 h
  rw [hbuilder]

/-- With fewer isolates, and a suite that the wider search has too or does without, a search finds
no more, and fails alike. -/
theorem narrows_of_isolates
    (hisolates : ∀ isolate ∈ manifest.isolateNames, isolate ∈ wider.isolateNames)
    (hsuite : ∀ name ∈ suite', name ∈ suite) :
    Narrows (ofFiles files places manifest suite) (ofFiles files places wider suite') := by
  rw [ofFiles_eq_map, ofFiles_eq_map]
  cases valuesIn files places with
  | error fault => exact .failed fault
  | ok values =>
    refine .found fun builder hbuilder => ?_
    obtain ⟨isInternal, file, hfile, hchosen⟩ := mem_chosen_iff.1 hbuilder
    exact mem_chosen_iff.2 ⟨isInternal, file, hfile, mem_ofFile_mono hchosen hisolates hsuite⟩

/-! ## The internal directory -/

/-- With an internal directory the same is read of the public one, and then internal files. -/
theorem exists_internal_values
    (hpublic : valuesIn files { places with internalDirectory := none } = .ok ofPublic)
    (hboth : valuesIn files { places with internalDirectory := some path } = .ok values) :
    ∃ ofInternal, values = ofPublic ++ ofInternal ∧
      (∀ file ∈ ofPublic, file.1 = false) ∧ ∀ file ∈ ofInternal, file.1 = true := by
  obtain ⟨read, hread, hrest⟩ := Except.bind_eq_ok.1 hpublic
  obtain rfl : read.map (false, ·) ++ [] = ofPublic := Except.ok.inj hrest
  obtain ⟨again, hagain, hrest⟩ := Except.bind_eq_ok.1 hboth
  obtain ⟨internal, -, hvalues⟩ := Except.bind_eq_ok.1 hrest
  cases hread.symm.trans hagain
  cases hvalues
  refine ⟨internal.map (true, ·), by rw [List.append_nil], ?_, ?_⟩
  · rw [List.append_nil, List.forall_mem_map]
    exact fun _ _ => rfl
  · rw [List.forall_mem_map]
    exact fun _ _ => rfl

/-- An internal directory only adds internal builders. -/
theorem addsInternal_of_eq_ok {publicFound bothFound : BuilderSet}
    (hpublic : ofFiles files { places with internalDirectory := none } manifest suite =
      .ok publicFound)
    (hboth : ofFiles files { places with internalDirectory := some path } manifest suite =
      .ok bothFound) : AddsInternal publicFound bothFound := by
  rw [ofFiles_eq_map] at hpublic hboth
  cases hpublicRead : valuesIn files { places with internalDirectory := none } with
  | error fault =>
    rw [hpublicRead] at hpublic
    cases hpublic
  | ok ofPublic =>
    cases hbothRead : valuesIn files { places with internalDirectory := some path } with
    | error fault =>
      rw [hbothRead] at hboth
      cases hboth
    | ok values =>
      rw [hpublicRead] at hpublic
      rw [hbothRead] at hboth
      cases hpublic
      cases hboth
      -- the public directory is read first, and is the same
      obtain ⟨ofInternal, rfl, hofPublic, hofInternal⟩ :=
        exists_internal_values hpublicRead hbothRead
      have happend {builder : Builder} :
          builder ∈ chosen manifest suite (ofPublic ++ ofInternal) ↔
            builder ∈ chosen manifest suite ofPublic ∨
              builder ∈ chosen manifest suite ofInternal := by
        simp only [mem_chosen_iff, List.mem_append, or_and_right, exists_or]
      have hinternal {builder : Builder} (h : builder ∈ chosen manifest suite ofInternal) :
          builder.isInternal = true := by
        obtain ⟨isInternal, file, hfile, hchosen⟩ := mem_chosen_iff.1 h
        exact (isInternal_of_mem_ofFile hchosen).trans (hofInternal _ hfile)
      refine ⟨fun builder h => happend.2 (.inl h), fun builder h hnot => ?_,
        fun builder hpublic => ?_⟩
      · exact hinternal ((happend.1 h).resolve_left hnot)
      · rw [happend, or_iff_left_iff_imp]
        intro h
        rw [hinternal h] at hpublic
        cases hpublic

/-- A search for a suite narrows the one without, and a search with fewer isolates narrows the one
with more: they fail alike, or the narrower one finds no other builders. An internal directory adds
internal builders, and no others, if both searches succeed. -/
theorem ofFiles_narrows (files : FileAccess) (places : Places) {manifest wider : Manifest}
    (hisolates : ∀ isolate ∈ manifest.isolateNames, isolate ∈ wider.isolateNames)
    (suite : String) :
    Narrows (ofFiles files places manifest (some suite)) (ofFiles files places manifest none) ∧
      Narrows (ofFiles files places manifest none) (ofFiles files places wider none) ∧
      Narrows (ofFiles files places manifest (some suite))
        (ofFiles files places wider (some suite)) ∧
      ∀ (manifest : Manifest) (suite : Option String) (path : String)
        (publicFound bothFound : BuilderSet),
        ofFiles files { places with internalDirectory := none } manifest suite =
          .ok publicFound →
        ofFiles files { places with internalDirectory := some path } manifest suite =
          .ok bothFound →
        AddsInternal publicFound bothFound := by
  refine ⟨?_, ?_, ?_, fun manifest suite path publicFound bothFound hpublic hboth => ?_⟩
  · exact narrows_of_isolates (fun _ h => h) nofun
  · exact narrows_of_isolates hisolates nofun
  · exact narrows_of_isolates hisolates fun _ h => h
  · exact addsInternal_of_eq_ok hpublic hboth

/-- A builder runs a test that only the wider manifest is about. Both projects have the same file.
Once that of the internal one cannot be read, every search of both fails, with what the system
says. -/
theorem ofFiles_narrows_of_other_isolate :
    let text := "\x7b\"AAAAA1 AUTOGENERATED FILE DO NOT EDIT\":0,
      \"Mac\":\x7b\"gtest_tests\":[\x7b\"test\":\"perf\"\x7d]\x7d\x7d"
    let access (internal : Node) : FileAccess :=
      { read := fun _ => .error .notFound
        list := fun path =>
          .ok [("a.json", if path = "public" then .file (.ofString text) else internal)] }
    let files := access (.file (.ofString text))
    let failing := access (.unusable (.other "Input/output error" 5))
    let narrow : Manifest := { isolateNames := {"unit"} }
    let wide : Manifest := { isolateNames := {"unit", "perf"} }
    let places : Places := ⟨"public", none⟩
    let both : Places := ⟨"public", some "internal"⟩
    (∀ isolate ∈ narrow.isolateNames, isolate ∈ wide.isolateNames) ∧
      Narrows (ofFiles files places narrow (some "fast"))
        (ofFiles files places wide (some "fast")) ∧
      Narrows (ofFiles files places narrow none) (ofFiles files places wide none) ∧
      (∃ publicFound bothFound, ofFiles files places wide none = .ok publicFound ∧
        ofFiles files both wide none = .ok bothFound ∧
        AddsInternal publicFound bothFound ∧ ⟨"Mac", .ci, false⟩ ∈ publicFound ∧
        ⟨"Mac", .ci, true⟩ ∈ bothFound) ∧
      Narrows (ofFiles failing both narrow (some "fast")) (ofFiles failing both narrow none) ∧
      ofFiles failing both narrow (some "fast") =
        .error (.file (.other "Input/output error" 5)) ∧
      ofFiles failing both narrow none = .error (.file (.other "Input/output error" 5)) := by
  intro text access files failing narrow wide places both
  have hisolates : ∀ isolate ∈ narrow.isolateNames, isolate ∈ wide.isolateNames := by
    intro isolate h
    obtain heq | hempty := Std.ExtTreeSet.mem_insert.1 h
    · rw [← Std.LawfulEqCmp.eq_of_compare heq]
      decide +kernel
    · exact absurd hempty Std.ExtTreeSet.not_mem_empty
  obtain ⟨-, hwider, hsuite, hadds⟩ := ofFiles_narrows files places hisolates "fast"
  obtain ⟨publicFound, hpublic, hmem⟩ : ∃ found, ofFiles files places wide none = .ok found ∧
      found.contains ⟨"Mac", .ci, false⟩ := Except.exists_of_any (by decide +kernel)
  obtain ⟨bothFound, hboth, hmemBoth⟩ : ∃ found, ofFiles files both wide none = .ok found ∧
      found.contains ⟨"Mac", .ci, true⟩ := Except.exists_of_any (by decide +kernel)
  -- the internal file cannot be read, whatever is looked for in it
  have hfailing := (ofFiles_narrows failing both hisolates "fast").1
  have hfault : ofFiles failing both narrow (some "fast") =
      .error (.file (.other "Input/output error" 5)) :=
    Except.map_eq_error.1 (by decide +kernel : Except.map (fun _ => ()) _ = _)
  refine ⟨hisolates, hsuite, hwider, ⟨publicFound, bothFound, hpublic, hboth,
    hadds wide none "internal" publicFound bothFound hpublic hboth,
    Std.ExtTreeSet.contains_iff_mem.1 hmem, Std.ExtTreeSet.contains_iff_mem.1 hmemBoth⟩,
    hfailing, hfault, ?_⟩
  rw [hfault] at hfailing
  exact hfailing.eq_error

end BuildScope.CiBuilders
