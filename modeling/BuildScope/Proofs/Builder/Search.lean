import BuildScope.Builder.CiBuilders
import BuildScope.Proofs.Builder.TestsOfInterest
import BuildScope.Proofs.Text.ByteOrder

/-!
# The Search for CI Builders

A search reads the files of one or two directories and then chooses builders from them. What is read
does not depend on the manifest and the suite, and what goes wrong does so while reading: the files
are read in the order of their paths, whether they are about builders or not, and the first one that
cannot be read ends the search.

* `CiBuilders.ofFiles_eq_map`: a search reads, then chooses.
* `CiBuilders.mem_ofFile_iff_qualifies`: the builders that a file is about.
* `CiBuilders.FirstFault`: the first file of a directory that is not as it should be.
* `CiBuilders.candidates_eq_of_perm`: the order in which a directory lists its files does not count.
* `CiBuilders.ofFiles_searches`: what a search comes to.
-/

namespace BuildScope.CiBuilders

open Files (Directory FileAccess FileFault Node)
open Json (Fault Reader Value)

variable {files : FileAccess} {places : Places} {manifest : Manifest} {suite : Option String}
  {isInternal : Bool} {path name : String} {node : Node} {value : Value} {fault : SearchFault}
  {directory directory' : Directory} {builder : Builder}

/-! ## Reading and choosing -/

/-- The values of the files in the directory that a path leads to, in the order of their names. -/
def valuesAt (files : FileAccess) (path : String) : Except SearchFault (List Value) := do
  let directory ← (files.list path).mapError .file
  (candidates directory).mapM valueOf

/-- The values of all files that are searched, each with whether it is internal. -/
def valuesIn (files : FileAccess) (places : Places) :
    Except SearchFault (List (Bool × Value)) := do
  let ofPublic ← valuesAt files places.publicDirectory
  let ofInternal ← match places.internalDirectory with
    | none => .ok []
    | some path => valuesAt files path
  return ofPublic.map (false, ·) ++ ofInternal.map (true, ·)

/-- The builders of some files that run tests of interest. -/
def chosen (manifest : Manifest) (suite : Option String) (values : List (Bool × Value)) :
    BuilderSet :=
  .ofList (values.flatMap fun (isInternal, file) => ofFile manifest suite isInternal file)

/-- The builders of a directory are those of each of its values. -/
theorem ofPath_eq_map (files : FileAccess) (manifest : Manifest) (suite : Option String)
    (isInternal : Bool) (path : String) :
    ofPath files manifest suite isInternal path =
      (valuesAt files path).map fun values =>
        values.flatMap (ofFile manifest suite isInternal) := by
  rw [ofPath, valuesAt]
  cases (files.list path).mapError SearchFault.file with
  | error fault => rfl
  | ok directory =>
    show (candidates directory).mapM valueOf >>= _ = ((candidates directory).mapM valueOf).map _
    cases (candidates directory).mapM valueOf <;> rfl

/-- A search reads first, and then chooses from what it has read. -/
theorem ofFiles_eq_map (files : FileAccess) (places : Places) (manifest : Manifest)
    (suite : Option String) :
    ofFiles files places manifest suite =
      (valuesIn files places).map (chosen manifest suite) := by
  -- what is chosen is the same, whether files are put together before or after
  have hchosen (ofPublic ofInternal : List Value) :
      Std.ExtTreeSet.ofList (ofPublic.flatMap (ofFile manifest suite false) ++
          ofInternal.flatMap (ofFile manifest suite true)) =
        chosen manifest suite (ofPublic.map (false, ·) ++ ofInternal.map (true, ·)) := by
    rw [chosen, List.flatMap_append, List.flatMap_map, List.flatMap_map]
  rw [ofFiles, valuesIn, ofPath_eq_map]
  cases valuesAt files places.publicDirectory with
  | error fault => rfl
  | ok ofPublic =>
    cases places.internalDirectory with
    | none => exact congrArg Except.ok (hchosen ofPublic [])
    | some path =>
      dsimp only
      rw [ofPath_eq_map]
      cases valuesAt files path with
      | error fault => rfl
      | ok ofInternal => exact congrArg Except.ok (hchosen ofPublic ofInternal)

/-- A builder is chosen from some value. -/
theorem mem_chosen_iff {values : List (Bool × Value)} :
    builder ∈ chosen manifest suite values ↔
      ∃ isInternal file, (isInternal, file) ∈ values ∧
        builder ∈ ofFile manifest suite isInternal file := by
  rw [chosen, Std.ExtTreeSet.mem_ofList, List.contains_iff_mem, List.mem_flatMap, Prod.exists]

/-! ## What a file holds -/

/-- A file holds a JSON document with some value. -/
inductive Holds : Node → Value → Prop
  | file {content : Text.Document} {value : Value}
      (parsed : Reader.value.ofDocument content = .ok value) : Holds (.file content) value

/-- A file cannot be read, for whatever reason, or it holds no JSON document. -/
inductive Fails : Node → SearchFault → Prop
  | unusable {fault : FileFault} : Fails (.unusable fault) (.file fault)
  | directory {entries : Directory} : Fails (.directory entries) (.file .isDirectory)
  | document {content : Text.Document} {fault : Fault}
      (parsed : Reader.value.ofDocument content = .error fault) :
      Fails (.file content) (.document fault)

/-- A file that holds a value is read as that. -/
theorem valueOf_eq_ok_iff : valueOf node = .ok value ↔ Holds node value := by
  cases node with
  | unusable fault => exact iff_of_false nofun nofun
  | directory entries => exact iff_of_false nofun nofun
  | file content =>
    rw [valueOf, Except.mapError_eq_ok]
    constructor
    · exact .file
    · intro h
      cases h with
      | file parsed => exact parsed

/-- Any other node fails, with a fault of its own. -/
theorem valueOf_eq_error_iff : valueOf node = .error fault ↔ Fails node fault := by
  cases node with
  | unusable fault =>
    constructor
    · rintro ⟨⟩
      exact .unusable
    · rintro ⟨⟩
      rfl
  | directory entries =>
    constructor
    · rintro ⟨⟩
      exact .directory
    · rintro ⟨⟩
      rfl
  | file content =>
    rw [valueOf]
    constructor
    · intro h
      cases hparsed : Reader.value.ofDocument content with
      | ok value =>
        rw [hparsed] at h
        cases h
      | error fault =>
        rw [hparsed] at h
        cases h
        exact .document hparsed
    · intro h
      cases h with
      | document parsed =>
        rw [parsed]
        rfl

/-- A file that carries the marker has a builder of some name, which runs a test of interest. -/
structure Qualifies (manifest : Manifest) (suite : Option String) (file : Value) (name : String) :
    Prop where
  marked : (file.get? markerKey).isSome
  uncommented : ¬"AAAA".toList <:+: name.toList
  covered : ∃ spec, file.get? name = some spec ∧ manifest.CoversSome suite spec

theorem isComment_eq_false_iff : isComment name = false ↔ ¬"AAAA".toList <:+: name.toList := by
  rw [isComment, ← Text.isWithin_iff, Bool.not_eq_true]

/-- The builders that a file is about are those that qualify by it. -/
theorem mem_ofFile_iff_qualifies (h : Holds node value) :
    builder ∈ ofFile manifest suite isInternal value ↔
      Qualifies manifest suite value builder.name ∧
        builder.type = .ci ∧ builder.isInternal = isInternal := by
  obtain ⟨parsed⟩ := h
  have hbuilder : builder = ⟨builder.name, .ci, isInternal⟩ ↔
      builder.type = .ci ∧ builder.isInternal = isInternal := by
    cases builder
    simp
  rw [mem_ofFile_iff, ← hbuilder]
  constructor
  · rintro ⟨members, rfl, hmarked, spec, hmem, hcomment, hruns, hbuilder⟩
    have hspec := (Json.lookup_eq_some_iff_mem (Reader.nodup_keys_of_ofDocument parsed)).2 hmem
    exact ⟨⟨hmarked, isComment_eq_false_iff.1 hcomment, spec, hspec, Manifest.runsTest_iff.1 hruns⟩,
      hbuilder⟩
  · rintro ⟨⟨hmarked, hcomment, spec, hspec, hruns⟩, hbuilder⟩
    obtain ⟨members, rfl, hlookup⟩ := Value.exists_object_of_get? hspec
    have hmem :=
      (Json.lookup_eq_some_iff_mem (Reader.nodup_keys_of_ofDocument parsed)).1 hlookup
    exact ⟨members, rfl, hmarked, spec, hmem, isComment_eq_false_iff.2 hcomment,
      Manifest.runsTest_iff.2 hruns, hbuilder⟩

/-! ## The files of a directory -/

/-- A directory has a file of some name, which has the extension `json`. -/
structure IsRead (directory : Directory) (name : String) (node : Node) : Prop where
  mem : (name, node) ∈ directory
  extension : ∃ stem, stem ≠ "" ∧ name = stem ++ ".json"

/-- Each of the files that are read of a directory holds a JSON document. -/
def Readable (directory : Directory) : Prop :=
  ∀ name node, IsRead directory name node → ∃ value, Holds node value

/-- The first file of a directory that does not hold a JSON document, in the order of their paths,
which is that of the bytes of their names. -/
def FirstFault (directory : Directory) (fault : SearchFault) : Prop :=
  ∃ name node, IsRead directory name node ∧ Fails node fault ∧
    ∀ name' node', IsRead directory name' node' → Text.bytes name' < Text.bytes name →
      ∃ value, Holds node' value

/-- A directory with a file that cannot be used is not readable. -/
theorem not_readable_of_unusable {fault : FileFault}
    (h : IsRead directory name (.unusable fault)) : ¬Readable directory := by
  intro hreadable
  obtain ⟨value, hholds⟩ := hreadable _ _ h
  cases hholds

/-- A file is listed if its name ends as those of documents do, and does not consist of that. -/
theorem isListed_iff : isListed name ↔ ∃ stem, stem ≠ "" ∧ name = stem ++ ".json" := by
  have hends : name.endsWith ".json" ↔ ∃ stem, name = stem ++ ".json" := by
    rw [String.endsWith_eq_endsWith_toSlice, String.Slice.endsWith_string_iff, String.copy_toSlice]
    constructor
    · rintro ⟨stem, hstem⟩
      refine ⟨.ofList stem, String.toList_injective ?_⟩
      rw [String.toList_append, String.toList_ofList, hstem]
    · rintro ⟨stem, rfl⟩
      exact ⟨stem.toList, String.toList_append.symm⟩
  rw [isListed, Bool.and_eq_true, bne_iff_ne, hends]
  constructor
  · rintro ⟨⟨stem, rfl⟩, hne⟩
    exact ⟨stem, fun hempty => hne (by rw [hempty]; rfl), rfl⟩
  · rintro ⟨stem, hne, rfl⟩
    refine ⟨⟨stem, rfl⟩, fun heq => hne ?_⟩
    -- a name that is nothing but the extension has an empty stem
    have hlength := congrArg String.length heq
    rw [String.length_append] at hlength
    exact String.length_eq_zero_iff.1 (by omega)

/-- The files that are read of a directory with their names, in the order of these. -/
def sortedFiles (directory : Directory) : Directory :=
  (directory.filter fun (name, _) => isListed name).mergeSort fun a b => a.1 ≤ b.1

/-- The nodes that are read are those of the sorted files. -/
theorem candidates_eq (directory : Directory) :
    candidates directory = (sortedFiles directory).map Prod.snd :=
  rfl

/-- The sorted files are those that are read. -/
theorem mem_sortedFiles_iff :
    (name, node) ∈ sortedFiles directory ↔ IsRead directory name node := by
  rw [sortedFiles, List.mem_mergeSort, List.mem_filter, isListed_iff]
  exact ⟨fun ⟨mem, extension⟩ => ⟨mem, extension⟩, fun ⟨mem, extension⟩ => ⟨mem, extension⟩⟩

/-- They are in the order of their names. -/
theorem sortedFiles_sorted (directory : Directory) :
    (sortedFiles directory).Pairwise fun a b => a.1 ≤ b.1 := by
  refine (List.pairwise_mergeSort ?_ ?_ _).imp fun h => of_decide_eq_true h
  · intro a b c hab hbc
    exact decide_eq_true (String.le_trans (of_decide_eq_true hab) (of_decide_eq_true hbc))
  · intro a b
    rw [Bool.or_eq_true, decide_eq_true_iff, decide_eq_true_iff]
    exact String.le_total a.1 b.1

/-- Each file that is read has a value exactly if the directory is readable. -/
theorem exists_values_iff :
    (∃ values, (candidates directory).mapM valueOf = .ok values) ↔ Readable directory := by
  rw [Except.exists_mapM_eq_ok, candidates_eq, List.forall_mem_map]
  simp only [valueOf_eq_ok_iff, Prod.forall, mem_sortedFiles_iff, Readable]

/-- What is read of a directory is what its files hold. -/
theorem mem_values_iff {values : List Value}
    (h : (candidates directory).mapM valueOf = .ok values) :
    value ∈ values ↔ ∃ name node, IsRead directory name node ∧ Holds node value := by
  constructor
  · intro hvalue
    obtain ⟨node, hnode, hholds⟩ := Except.exists_of_mem_mapM h hvalue
    rw [candidates_eq] at hnode
    obtain ⟨⟨name, node⟩, hfile, rfl⟩ := List.mem_map.1 hnode
    exact ⟨name, node, mem_sortedFiles_iff.1 hfile, valueOf_eq_ok_iff.1 hholds⟩
  · rintro ⟨name, node, hread, hholds⟩
    have hnode : node ∈ candidates directory :=
      List.mem_map.2 ⟨(name, node), mem_sortedFiles_iff.2 hread, rfl⟩
    obtain ⟨other, hother, hvalueOf⟩ := Except.exists_of_mapM_of_mem h hnode
    rw [valueOf_eq_ok_iff.2 hholds] at hvalueOf
    cases hvalueOf
    exact hother

/-- What is wrong with a directory is wrong with the first of its files that has a fault. -/
theorem firstFault_of_error (h : (candidates directory).mapM valueOf = .error fault) :
    FirstFault directory fault := by
  have hsorted := sortedFiles_sorted directory
  rw [candidates_eq] at h
  obtain ⟨front, failing, back, hsplit, hfront, hfault⟩ := Except.mapM_eq_error.1 h
  obtain ⟨first, rest, hfiles, rfl, hrest⟩ := List.map_eq_append_iff.1 hsplit
  obtain ⟨⟨name, node⟩, last, rfl, rfl, rfl⟩ := List.map_eq_cons_iff.1 hrest
  rw [hfiles, List.pairwise_append, List.pairwise_cons] at hsorted
  refine ⟨name, node, mem_sortedFiles_iff.1 ?_, valueOf_eq_error_iff.1 hfault, ?_⟩
  · rw [hfiles]
    exact List.mem_append_cons_self
  · intro name' node' hread hlt
    rw [← Text.lt_iff_bytes_lt] at hlt
    have hmem := mem_sortedFiles_iff.2 hread
    rw [hfiles, List.mem_append, List.mem_cons] at hmem
    -- the files after the failing one do not have lower names
    obtain hmem | heq | hmem := hmem
    · obtain ⟨value, hvalue⟩ := hfront node' (List.mem_map_of_mem hmem)
      exact ⟨value, valueOf_eq_ok_iff.1 hvalue⟩
    · cases heq
      exact absurd hlt (String.lt_irrefl name)
    · exact absurd hlt (String.not_lt.2 (hsorted.2.1.1 _ hmem))

/-- A directory that lists the same files in another order is read in the same order. -/
theorem candidates_eq_of_perm (hperm : directory.Perm directory')
    (hnodup : (directory.map Prod.fst).Nodup) : candidates directory = candidates directory' := by
  -- a sorted list without equal names depends on its members only
  have hfiles : sortedFiles directory = sortedFiles directory' := by
    refine List.Perm.eq_of_pairwise ?_ (sortedFiles_sorted directory)
      (sortedFiles_sorted directory') ?_
    · rintro ⟨name, node⟩ ⟨name', node'⟩ hmem hmem' hle hge
      obtain rfl : name = name' := String.le_antisymm hle hge
      have hlookup := (Json.lookup_eq_some_iff_mem hnodup).2 (mem_sortedFiles_iff.1 hmem).mem
      have hlookup' := (Json.lookup_eq_some_iff_mem hnodup).2
        (hperm.symm.subset (mem_sortedFiles_iff.1 hmem').mem)
      rw [hlookup] at hlookup'
      cases hlookup'
      rfl
    · exact (List.mergeSort_perm _ _).trans
        ((hperm.filter _).trans (List.mergeSort_perm _ _).symm)
  rw [candidates_eq, candidates_eq, hfiles]

/-! ## The directories of a search -/

/-- The entries of the directories that are searched. -/
structure Contents where
  /-- Those of the public directory. -/
  publicEntries : Directory
  /-- Those of the internal directory, if it is searched too. -/
  internalEntries : Option Directory := none

namespace Contents

variable {contents contents' : Contents}

/-- The public or the internal directory. -/
def directory? (contents : Contents) : Bool → Option Directory
  | false => some contents.publicEntries
  | true => contents.internalEntries

/-- The directories of a search can be listed and have some entries. -/
structure ListedAt (contents : Contents) (files : FileAccess) (places : Places) : Prop where
  ofPublic : files.list places.publicDirectory = .ok contents.publicEntries
  ofInternal : places.internalDirectory.map files.list = contents.internalEntries.map .ok

/-- Every file that is searched holds a JSON document. -/
def IsReadable (contents : Contents) : Prop :=
  ∀ isInternal, ∀ directory ∈ contents.directory? isInternal, Readable directory

/-- The first file with a fault. The files of the public directory come first. -/
inductive Blames (contents : Contents) : SearchFault → Prop
  | ofPublic {fault : SearchFault} (first : FirstFault contents.publicEntries fault) :
      Blames contents fault
  | ofInternal {directory : Directory} {fault : SearchFault}
      (readable : Readable contents.publicEntries)
      (searched : contents.internalEntries = some directory) (first : FirstFault directory fault) :
      Blames contents fault

/-- A builder qualifies by a file of the directory of its project. -/
structure Tells (contents : Contents) (manifest : Manifest) (suite : Option String)
    (builder : Builder) : Prop where
  type : builder.type = .ci
  qualifies : ∃ directory ∈ contents.directory? builder.isInternal, ∃ name node file,
    IsRead directory name node ∧ Holds node file ∧ Qualifies manifest suite file builder.name

/-- Other contents list the same entries, in any order. No directory has two of one name. -/
structure Reorders (contents contents' : Contents) : Prop where
  distinct : ∀ isInternal, ∀ directory ∈ contents.directory? isInternal,
    (directory.map Prod.fst).Nodup
  ofPublic : contents.publicEntries.Perm contents'.publicEntries
  ofInternal : Option.Rel List.Perm contents.internalEntries contents'.internalEntries

/-- What a search of some directories must come to. -/
structure Decides (contents : Contents) (manifest : Manifest) (suite : Option String)
    (result : Except SearchFault BuilderSet) : Prop where
  found : contents.IsReadable → ∃ builders, result = .ok builders ∧
    ∀ builder, builder ∈ builders ↔ contents.Tells manifest suite builder
  blamed : ¬contents.IsReadable → ∃ fault, result = .error fault ∧ contents.Blames fault

/-- The values of the files of a directory that may be searched. -/
def valuesOf (directory? : Option Directory) : Except SearchFault (List Value) :=
  match directory? with
  | none => .ok []
  | some directory => (candidates directory).mapM valueOf

/-- A directory is read to its end if each of its files holds a value. -/
theorem exists_valuesOf_iff {directory? : Option Directory} :
    (∃ values, valuesOf directory? = .ok values) ↔
      ∀ directory ∈ directory?, Readable directory := by
  cases directory? with
  | none => exact iff_of_true ⟨[], rfl⟩ nofun
  | some directory => simpa [valuesOf] using exists_values_iff

/-- Without a directory nothing is read, and otherwise what its files hold. -/
theorem mem_valuesOf_iff {directory? : Option Directory} {values : List Value}
    (h : valuesOf directory? = .ok values) :
    value ∈ values ↔
      ∃ directory ∈ directory?, ∃ name node, IsRead directory name node ∧ Holds node value := by
  cases directory? with
  | none =>
    cases h
    simp
  | some directory => simpa using mem_values_iff h

/-- The order in which a directory lists its files makes no difference. -/
theorem valuesOf_eq_of_rel {directory? directory?' : Option Directory}
    (hrel : Option.Rel List.Perm directory? directory?')
    (hdistinct : ∀ directory ∈ directory?, (directory.map Prod.fst).Nodup) :
    valuesOf directory? = valuesOf directory?' := by
  cases hrel with
  | none => rfl
  | some hperm => rw [valuesOf, valuesOf, candidates_eq_of_perm hperm (hdistinct _ rfl)]

/-- The values of all files that are searched, each with whether it is internal. -/
def values (contents : Contents) : Except SearchFault (List (Bool × Value)) := do
  let ofPublic ← valuesOf (contents.directory? false)
  let ofInternal ← valuesOf (contents.directory? true)
  return ofPublic.map (false, ·) ++ ofInternal.map (true, ·)

/-- What is read at some places depends on their contents only. -/
theorem ListedAt.valuesIn_eq (h : contents.ListedAt files places) :
    valuesIn files places = contents.values := by
  obtain ⟨publicEntries, internalEntries⟩ := contents
  have hinternal := h.ofInternal
  rw [valuesIn, valuesAt, h.ofPublic]
  cases hplace : places.internalDirectory with
  | none =>
    rw [hplace] at hinternal
    cases internalEntries with
    | none => rfl
    | some entries => cases hinternal
  | some path =>
    rw [hplace] at hinternal
    cases internalEntries with
    | none => cases hinternal
    | some entries =>
      dsimp only
      rw [valuesAt, Option.some.inj hinternal]
      rfl

theorem values_eq_ok_iff {values : List (Bool × Value)} :
    contents.values = .ok values ↔
      ∃ ofPublic, valuesOf (contents.directory? false) = .ok ofPublic ∧
        ∃ ofInternal, valuesOf (contents.directory? true) = .ok ofInternal ∧
          ofPublic.map (false, ·) ++ ofInternal.map (true, ·) = values := by
  simp only [Contents.values, Except.bind_eq_ok, Except.pure_eq_ok]

/-- Both directories are read to their ends if both are readable. -/
theorem exists_values_eq_ok_iff :
    (∃ values, contents.values = .ok values) ↔ contents.IsReadable := by
  simp only [values_eq_ok_iff, IsReadable, Bool.forall_bool, ← exists_valuesOf_iff]
  constructor
  · rintro ⟨_, ofPublic, hpublic, ofInternal, hinternal, rfl⟩
    exact ⟨⟨ofPublic, hpublic⟩, ofInternal, hinternal⟩
  · rintro ⟨⟨ofPublic, hpublic⟩, ofInternal, hinternal⟩
    exact ⟨_, ofPublic, hpublic, ofInternal, hinternal, rfl⟩

/-- What is read is what the files of the two directories hold. -/
theorem mem_values_iff {values : List (Bool × Value)} (h : contents.values = .ok values) :
    (isInternal, value) ∈ values ↔ ∃ directory ∈ contents.directory? isInternal, ∃ name node,
      IsRead directory name node ∧ Holds node value := by
  obtain ⟨ofPublic, hpublic, ofInternal, hinternal, rfl⟩ := values_eq_ok_iff.1 h
  cases isInternal with
  | false => simpa using mem_valuesOf_iff hpublic
  | true => simpa using mem_valuesOf_iff hinternal

/-- The fault of the first file is the one that is met. -/
theorem blames_of_values_eq_error (h : contents.values = .error fault) :
    contents.Blames fault := by
  rw [Contents.values, Except.bind_eq_error] at h
  obtain hpublic | ⟨ofPublic, hpublic, hrest⟩ := h
  · exact .ofPublic (firstFault_of_error hpublic)
  · -- the internal directory is read once all of the public one has been
    have hreadable := exists_valuesOf_iff.1 ⟨ofPublic, hpublic⟩ contents.publicEntries rfl
    rw [Except.bind_eq_error] at hrest
    obtain hinternal | ⟨ofInternal, -, hreturn⟩ := hrest
    · cases hdirectory : contents.internalEntries with
      | none =>
        rw [directory?, hdirectory] at hinternal
        cases hinternal
      | some directory =>
        rw [directory?, hdirectory] at hinternal
        exact .ofInternal hreadable hdirectory (firstFault_of_error hinternal)
    · cases hreturn

/-- The builders that are chosen are those that qualify by a file. -/
theorem mem_chosen_iff_tells {values : List (Bool × Value)} (h : contents.values = .ok values) :
    builder ∈ chosen manifest suite values ↔ contents.Tells manifest suite builder := by
  rw [mem_chosen_iff]
  constructor
  · rintro ⟨isInternal, file, hfile, hbuilder⟩
    obtain ⟨directory, hdirectory, name, node, hread, hholds⟩ := (mem_values_iff h).1 hfile
    obtain ⟨hqualifies, htype, rfl⟩ := (mem_ofFile_iff_qualifies hholds).1 hbuilder
    exact ⟨htype, directory, hdirectory, name, node, file, hread, hholds, hqualifies⟩
  · rintro ⟨htype, directory, hdirectory, name, node, file, hread, hholds, hqualifies⟩
    exact ⟨builder.isInternal, file,
      (mem_values_iff h).2 ⟨directory, hdirectory, name, node, hread, hholds⟩,
      (mem_ofFile_iff_qualifies hholds).2 ⟨hqualifies, htype, rfl⟩⟩

/-- Listed in another order, the same entries are read in the same order. -/
theorem Reorders.values_eq (h : contents.Reorders contents') :
    contents.values = contents'.values := by
  have hpublic : valuesOf (contents.directory? false) = valuesOf (contents'.directory? false) :=
    valuesOf_eq_of_rel (.some h.ofPublic) (h.distinct false)
  have hinternal : valuesOf (contents.directory? true) = valuesOf (contents'.directory? true) :=
    valuesOf_eq_of_rel h.ofInternal (h.distinct true)
  rw [Contents.values, Contents.values, hpublic, hinternal]

end Contents

/-- A search of directories that can be listed finds the builders that qualify by some file, if
every file holds a JSON document, and otherwise blames the first file that does not. The order in
which the directories list their files does not matter. -/
theorem ofFiles_searches (files : FileAccess) (places : Places) (manifest : Manifest)
    (suite : Option String) {contents : Contents} (hlisted : contents.ListedAt files places) :
    contents.Decides manifest suite (ofFiles files places manifest suite) ∧
      ∀ files' places' contents', contents.Reorders contents' →
        contents'.ListedAt files' places' →
        ofFiles files' places' manifest suite = ofFiles files places manifest suite := by
  rw [ofFiles_eq_map, hlisted.valuesIn_eq]
  refine ⟨⟨fun hreadable => ?_, fun hunreadable => ?_⟩,
    fun files' places' contents' hreorders hlisted' => ?_⟩
  · obtain ⟨values, hvalues⟩ := Contents.exists_values_eq_ok_iff.2 hreadable
    refine ⟨chosen manifest suite values, by rw [hvalues]; rfl, fun builder => ?_⟩
    exact Contents.mem_chosen_iff_tells hvalues
  · cases hvalues : contents.values with
    | ok values => exact absurd (Contents.exists_values_eq_ok_iff.1 ⟨values, hvalues⟩) hunreadable
    | error fault => exact ⟨fault, rfl, Contents.blames_of_values_eq_error hvalues⟩
  · rw [ofFiles_eq_map, hlisted'.valuesIn_eq, hreorders.values_eq]

/-- The public directory has a file about nothing and one that is not read, in whatever order. The
internal one has a builder that runs a test of the suite. Once the public directory has a file that
may not be read, before one that holds no document, the search fails with the fault of the first. -/
theorem ofFiles_searches_of_two_directories :
    let text := "\x7b\"AAAAA1 AUTOGENERATED FILE DO NOT EDIT\": 0,
      \"Linux\": \x7b\"gtest_tests\": [0, \x7b\"test\": \"unit\", \"args\": [\"fast\"]\x7d]\x7d\x7d"
    let entries : Directory := [("b.json", .file (.ofString "[]")), ("README", .directory [])]
    let contents : Contents := ⟨entries, some [("a.json", .file (.ofString text))]⟩
    let broken : Contents :=
      { contents with
        publicEntries := ("d.json", .file []) :: ("c.json", .unusable .denied) :: entries }
    let places : Places := ⟨"public", some "internal"⟩
    let access (contents : Contents) : FileAccess :=
      { read := fun _ => .error .notFound
        list := fun path =>
          .ok (if path = "public" then contents.publicEntries
            else contents.internalEntries.getD []) }
    let search (contents : Contents) :=
      ofFiles (access contents) places { isolateNames := {"unit"} } (some "fast")
    contents.ListedAt (access contents) places ∧ contents.IsReadable ∧
      (∃ builders, search contents = .ok builders ∧ ⟨"Linux", .ci, true⟩ ∈ builders) ∧
      search { contents with publicEntries := entries.reverse } = search contents ∧
      broken.ListedAt (access broken) places ∧ ¬broken.IsReadable ∧
      search broken = .error (.file .denied) := by
  intro text entries contents broken places access search
  have hlisted (contents : Contents) (h : contents.internalEntries.isSome) :
      contents.ListedAt (access contents) places := by
    obtain ⟨_, _ | internalEntries⟩ := contents
    · cases h
    · exact ⟨rfl, rfl⟩
  -- the marked file is that of the internal directory, and its builder runs the suite
  obtain ⟨file, hparsed, hfile⟩ : ∃ file, Reader.value.ofDocument (.ofString text) = .ok file ∧
      ((file.get? markerKey).isSome && (file.get? "Linux").any
        (Manifest.runsTest { isolateNames := {"unit"} } (some "fast"))) :=
    Except.exists_of_any (by decide +kernel)
  rw [Bool.and_eq_true, Option.any_eq_true] at hfile
  obtain ⟨hmarked, spec, hspec, hruns⟩ := hfile
  obtain ⟨hdecides, hsame⟩ := ofFiles_searches (access contents) places
    { isolateNames := {"unit"} } (some "fast") (hlisted contents rfl)
  -- what has another extension need not be readable
  have hreadable : contents.IsReadable := by
    rintro (_ | _) _ ⟨⟩ name node ⟨hmem, hextension⟩
    · obtain hfirst | hsecond := List.mem_pair.1 hmem
      · cases hfirst
        exact ⟨.array [], .file rfl⟩
      · cases hsecond
        exact absurd (isListed_iff.2 hextension) (by decide +kernel)
    · cases List.mem_singleton.1 hmem
      exact ⟨file, .file hparsed⟩
  obtain ⟨builders, hbuilders, hmem⟩ := hdecides.found hreadable
  have hbroken := (ofFiles_searches (access broken) places { isolateNames := {"unit"} }
    (some "fast") (hlisted broken rfl)).1
  -- of two files that cannot be searched, the one that may not be read is the first
  have hdenied : IsRead broken.publicEntries "c.json" (.unusable .denied) :=
    ⟨List.mem_cons_of_mem _ List.mem_cons_self, "c", by decide, rfl⟩
  have hunreadable : ¬Readable broken.publicEntries := not_readable_of_unusable hdenied
  have hunsearchable : ¬broken.IsReadable := fun h => hunreadable (h false _ rfl)
  obtain ⟨fault, hsearch, hblames⟩ := hbroken.blamed hunsearchable
  refine ⟨hlisted contents rfl, hreadable, ⟨builders, hbuilders, (hmem _).2 ⟨rfl, _, rfl, ?_⟩⟩, ?_,
    hlisted broken rfl, hunsearchable, hsearch.trans (congrArg Except.error ?_)⟩
  · exact ⟨"a.json", _, file, ⟨List.mem_singleton_self _, "a", by decide, rfl⟩, .file hparsed,
      hmarked, isComment_eq_false_iff.1 (by decide +kernel), spec, hspec,
      Manifest.runsTest_iff.1 hruns⟩
  · refine hsame _ _ { contents with publicEntries := entries.reverse } ⟨?_, ?_, ?_⟩ (hlisted _ rfl)
    · rintro (_ | _) _ ⟨⟩
      · decide
      · decide
    · exact (List.reverse_perm entries).symm
    · exact .some (.refl _)
  · obtain ⟨name, node, ⟨hmem, hextension⟩, hfails, hfirst⟩ | ⟨hreadable, -, -⟩ := hblames
    · -- the file after the one that may not be read is not the first
      simp only [broken, entries, List.mem_cons, Prod.mk.injEq, List.not_mem_nil, or_false] at hmem
      obtain ⟨rfl, rfl⟩ | ⟨rfl, rfl⟩ | ⟨rfl, rfl⟩ | ⟨rfl, rfl⟩ := hmem
      · obtain ⟨_, ⟨⟩⟩ := hfirst _ _ hdenied (Text.lt_iff_bytes_lt.1 (by decide))
      · cases hfails
        rfl
      · cases hfails with
        | document parsed => cases parsed
      · exact absurd (isListed_iff.2 hextension) (by decide +kernel)
    · exact absurd hreadable hunreadable

end BuildScope.CiBuilders
