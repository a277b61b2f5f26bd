import BuildScope.Builder.Mirrors
import BuildScope.Proofs.Json.Lexing
import BuildScope.Proofs.Json.Lookup
import BuildScope.Proofs.Json.Rereading

/-!
# Mirrors Named in Build Outputs

The output of a build may have any shape. Its mirrors are the texts of one array, if it has that
array, and each of them must have exactly one colon. The first one that does not ends the program.

* `Mirrors.ofNames_eq_ok_iff`, `Mirrors.ofNames_eq_error_iff`: mirrors up to the first name of
  another form.
* `Mirrors.Lists`: the array of mirrors in a build output.
* `Mirrors.Reads.exists_of_lists`: a list of mirrors is read again.
* `Mirrors.ofOutput_exact`: what is read of a build output.
-/

namespace BuildScope.Mirrors

open Json (Fault Reader Value Tree)

variable {name own : String} {names : List String} {parts : Nat} {isInternal : Bool}
  {builder mirror : Builder} {found mirrors : List Builder} {fault : MirrorFault} {build : Value}
  {items : List Value} {pairs : List (String × String)}

/-! ## Single names -/

/-- A name has a group and a part after it, with a single colon between them. -/
def HasGroup (name : String) : Prop :=
  name.toList.count ':' = 1

/-- A name is malformed unless it has one group, and then its parts are counted. -/
theorem ofName_eq_error_iff :
    ofName name = .error parts ↔ ¬HasGroup name ∧ parts = name.toList.count ':' + 1 := by
  have hlength := Text.length_parts ':' name.toList
  rw [HasGroup, ofName]
  split
  next group part hparts =>
    -- two parts have one colon between them
    rw [hparts] at hlength
    simp only [List.length_cons, List.length_nil] at hlength
    refine iff_of_false (by rintro ⟨⟩) fun h => h.1 ?_
    omega
  next hparts =>
    rw [Except.error.injEq, hlength, eq_comm, iff_and_self]
    intro _ hcount
    rw [hcount] at hlength
    obtain ⟨group, part, hpair⟩ := List.length_eq_two.1 hlength
    exact hparts group part hpair

/-- A name with one group has an own part. -/
theorem exists_ofName_eq_ok_iff : (∃ own, ofName name = .ok own) ↔ HasGroup name := by
  cases h : ofName name with
  | ok own =>
    refine iff_of_true ⟨own, rfl⟩ ?_
    by_contra hgroup
    rw [ofName_eq_error_iff.2 ⟨hgroup, rfl⟩] at h
    cases h
  | error parts => exact iff_of_false nofun (ofName_eq_error_iff.1 h).1

/-- The own part is what follows the group. -/
theorem ofName_append {group : String} (hgroup : ':' ∉ group.toList) (hown : ':' ∉ own.toList) :
    ofName (group ++ ":" ++ own) = .ok own := by
  refine ofName_eq_ok_iff.2 ⟨group.toList, ?_, hgroup, hown⟩
  rw [String.toList_append, String.toList_append, List.append_assoc]
  rfl

/-- The part after the colon. -/
theorem ofName_eq_ok_iff_append (h : HasGroup name) :
    ofName name = .ok own ↔ ∃ group, name = group ++ ":" ++ own := by
  constructor
  · intro hown
    obtain ⟨group, hname, -, -⟩ := ofName_eq_ok_iff.1 hown
    refine ⟨.ofList group, String.toList_injective ?_⟩
    rw [hname, String.toList_append, String.toList_append, String.toList_ofList, List.append_assoc]
    rfl
  · rintro ⟨group, rfl⟩
    rw [HasGroup, String.toList_append, String.toList_append, List.count_append,
      List.count_append] at h
    have hcolon : ":".toList.count ':' = 1 := rfl
    exact ofName_append (List.count_eq_zero.1 (by omega)) (List.count_eq_zero.1 (by omega))

/-- No colon is left in it. -/
theorem colon_notMem_of_ofName (h : ofName name = .ok own) : ':' ∉ own.toList := by
  obtain ⟨_, -, -, hown⟩ := ofName_eq_ok_iff.1 h
  exact hown

/-! ## Lists of names -/

/-- If all names have the right form, their mirrors are added to those found before. -/
theorem ofNames_eq_ok_iff :
    ofNames isInternal found names = .ok mirrors ↔
      ∃ owns, List.Forall₂ (fun name own => ofName name = .ok own) names owns ∧
        mirrors = found ++ owns.map (⟨·, .tryJob, isInternal⟩) := by
  -- by the names that are left, whatever has been found in front of them
  induction names generalizing found with
  | nil =>
    simp only [ofNames, Except.ok.injEq, List.forall₂_nil_left_iff, exists_eq_left, List.map_nil,
      List.append_nil, eq_comm]
  | cons name names ih =>
    rw [ofNames]
    cases hname : ofName name with
    | error parts =>
      refine iff_of_false nofun ?_
      rintro ⟨owns, hforall, -⟩
      obtain ⟨own, _, hown, -, -⟩ := List.forall₂_cons_left_iff.1 hforall
      rw [hname] at hown
      cases hown
    | ok own =>
      dsimp only
      rw [ih]
      constructor
      · rintro ⟨owns, hforall, rfl⟩
        exact ⟨own :: owns, .cons hname hforall, by rw [List.map_cons, List.append_assoc]; rfl⟩
      · rintro ⟨_, hforall, rfl⟩
        obtain ⟨own', owns, hown', hrest, rfl⟩ := List.forall₂_cons_left_iff.1 hforall
        rw [hname] at hown'
        cases hown'
        exact ⟨owns, hrest, by rw [List.map_cons, List.append_assoc]; rfl⟩

/-- Otherwise the first name of another form is to blame. -/
theorem ofNames_eq_error_iff :
    ofNames isInternal found names = .error fault ↔
      ∃ front name back before parts, names = front ++ name :: back ∧
        ofNames isInternal found front = .ok before ∧ ofName name = .error parts ∧
        fault = .malformedName before name parts := by
  induction names generalizing found with
  | nil =>
    refine iff_of_false nofun ?_
    rintro ⟨front, name, back, _, _, hsplit, -⟩
    simp at hsplit
  | cons first names ih =>
    rw [ofNames]
    cases hfirst : ofName first with
    | error parts =>
      constructor
      · rintro ⟨⟩
        exact ⟨[], first, names, found, parts, rfl, rfl, hfirst, rfl⟩
      · rintro ⟨front, name, back, before, parts', hsplit, hfront, hname, rfl⟩
        -- no name before the malformed one is malformed
        cases front with
        | nil =>
          cases hsplit
          cases hfront
          rw [hfirst] at hname
          cases hname
          rfl
        | cons _ front =>
          cases hsplit
          rw [ofNames, hfirst] at hfront
          cases hfront
    | ok own =>
      dsimp only
      rw [ih]
      constructor
      · rintro ⟨front, name, back, before, parts, rfl, hfront, hname, rfl⟩
        refine ⟨first :: front, name, back, before, parts, rfl, ?_, hname, rfl⟩
        rw [ofNames, hfirst]
        exact hfront
      · rintro ⟨front, name, back, before, parts, hsplit, hfront, hname, rfl⟩
        cases front with
        | nil =>
          cases hsplit
          rw [hfirst] at hname
          cases hname
        | cons _ front =>
          cases hsplit
          rw [ofNames, hfirst] at hfront
          exact ⟨front, name, back, before, parts, rfl, hfront, hname, rfl⟩

/-- If all mirrors are found, each name has a group. -/
theorem hasGroup_of_ofNames (h : ofNames isInternal found names = .ok mirrors) :
    ∀ name ∈ names, HasGroup name := by
  obtain ⟨owns, hforall, -⟩ := ofNames_eq_ok_iff.1 h
  intro name hname
  rw [← exists_ofName_eq_ok_iff]
  exact Except.exists_mapM_eq_ok.1 ⟨owns, Except.mapM_eq_ok.2 hforall⟩ name hname

/-- The mirrors of some names are their parts after the colon. -/
theorem mem_iff_of_ofNames (h : ofNames isInternal [] names = .ok mirrors) :
    mirror ∈ mirrors ↔ mirror.type = .tryJob ∧ mirror.isInternal = isInternal ∧
      ∃ name ∈ names, ofName name = .ok mirror.name := by
  obtain ⟨owns, hforall, rfl⟩ := ofNames_eq_ok_iff.1 h
  -- each name has been read in turn
  have howns := Except.mapM_eq_ok.2 hforall
  rw [List.nil_append, List.mem_map]
  constructor
  · rintro ⟨own, hown, rfl⟩
    exact ⟨rfl, rfl, Except.exists_of_mem_mapM howns hown⟩
  · rintro ⟨htype, hinternal, name, hname, hown⟩
    obtain ⟨own, hmem, hown'⟩ := Except.exists_of_mapM_of_mem howns hname
    rw [hown] at hown'
    cases hown'
    refine ⟨mirror.name, hmem, ?_⟩
    rw [← htype, ← hinternal]

/-! ## Build outputs -/

/-- A build output has an array of mirrors where it is looked for. -/
def Lists (build : Value) (items : List Value) : Prop :=
  ∃ output properties, build.get? "output" = some output ∧
    output.get? "properties" = some properties ∧
    properties.get? "mirrored_builders" = some (.array items)

/-- A text in the array of mirrors. -/
def Mentions (build : Value) (name : String) : Prop :=
  ∃ items, Lists build items ∧ .text name ∈ items

/-- The first of the texts that do not have one colon, and its number of parts. -/
def FirstMalformed (build : Value) (name : String) (parts : Nat) : Prop :=
  ∃ front back, Lists build (front ++ .text name :: back) ∧
    (∀ other, .text other ∈ front → HasGroup other) ∧
    ¬HasGroup name ∧ parts = name.toList.count ':' + 1

/-- The names are the texts among the builders that a build lists. -/
theorem names_of_lists (h : Lists build items) :
    Mirrors.names build = items.filterMap Value.asText? := by
  obtain ⟨output, properties, houtput, hproperties, hitems⟩ := h
  simp only [Mirrors.names, houtput, hproperties, hitems, Option.bind_eq_bind, Option.bind_some,
    Value.asArray?, Option.getD_some]

/-- Whatever has no such array has no mirrors. -/
theorem exists_lists_of_mem_names (h : name ∈ Mirrors.names build) :
    ∃ items, Lists build items := by
  simp only [Mirrors.names, Option.bind_eq_bind] at h
  cases hmirrored : ((build.get? "output").bind fun output =>
      (output.get? "properties").bind fun properties =>
        properties.get? "mirrored_builders").bind Value.asArray? with
  | none =>
    rw [hmirrored] at h
    cases h
  | some items =>
    simp only [Option.bind_eq_some_iff, Json.Value.asArray?_eq_some_iff, exists_eq_right]
      at hmirrored
    obtain ⟨output, houtput, properties, hproperties, hitems⟩ := hmirrored
    exact ⟨items, output, properties, houtput, hproperties, hitems⟩

theorem mem_texts_iff : name ∈ items.filterMap Value.asText? ↔ .text name ∈ items := by
  simp only [List.mem_filterMap, Json.Value.asText?_eq_some_iff, exists_eq_right]

/-- A name is read if the build mentions it. -/
theorem mem_names_iff : name ∈ Mirrors.names build ↔ Mentions build name := by
  constructor
  · intro h
    obtain ⟨items, hitems⟩ := exists_lists_of_mem_names h
    rw [names_of_lists hitems, mem_texts_iff] at h
    exact ⟨items, hitems, h⟩
  · rintro ⟨items, hitems, hmem⟩
    rw [names_of_lists hitems, mem_texts_iff]
    exact hmem

/-- The builders that a mirror of a builder can be. They belong to its project. -/
structure IsMirror (builder : Builder) (build : Value) (mirror : Builder) : Prop where
  type : mirror.type = .tryJob
  isInternal : mirror.isInternal = builder.isInternal
  mentioned : ∃ group, Mentions build (group ++ ":" ++ mirror.name)

/-- What must be read of a build output. -/
structure Reads (builder : Builder) (build : Value) (result : Except MirrorFault (List Builder)) :
    Prop where
  malformed_iff : (∃ found name parts, result = .error (.malformedName found name parts)) ↔
    ∃ name, Mentions build name ∧ ¬HasGroup name
  first : ∀ found name parts, result = .error (.malformedName found name parts) →
    FirstMalformed build name parts
  mirrors : (∀ name, Mentions build name → HasGroup name) → ∃ mirrors, result = .ok mirrors ∧
    ∀ mirror, mirror ∈ mirrors ↔ IsMirror builder build mirror
  colon_notMem : ∀ mirrors, result = .ok mirrors → ∀ mirror ∈ mirrors, ':' ∉ mirror.name.toList

/-- The mirrors of an output are those of the names in it. -/
theorem ofOutput_eq {output : String}
    (h : Reader.value.ofDocument (.ofString output) = .ok build) (builder : Builder) :
    ofOutput builder output = ofNames builder.isInternal [] (Mirrors.names build) := by
  rw [ofOutput, h]
  rfl

/-- If there are no mirrors, the first malformed name is to blame. -/
theorem firstMalformed_of_ofNames
    (h : ofNames isInternal found (Mirrors.names build) = .error fault) :
    ∃ before name parts, fault = .malformedName before name parts ∧
      FirstMalformed build name parts := by
  obtain ⟨front, name, back, before, parts, hsplit, hfront, hname, rfl⟩ := ofNames_eq_error_iff.1 h
  obtain ⟨hgroup, hparts⟩ := ofName_eq_error_iff.1 hname
  have hmem : name ∈ Mirrors.names build := hsplit ▸ List.mem_append_cons_self
  obtain ⟨items, hitems⟩ := exists_lists_of_mem_names hmem
  rw [names_of_lists hitems, List.filterMap_eq_append_iff] at hsplit
  obtain ⟨first, rest, rfl, hfirst, hrest⟩ := hsplit
  obtain ⟨skipped, item, last, rfl, hskipped, hitem, rfl⟩ := List.filterMap_eq_cons_iff.1 hrest
  rw [Json.Value.asText?_eq_some_iff] at hitem
  refine ⟨before, name, parts, rfl, first ++ skipped, last, ?_, fun other hother => ?_, hgroup,
    hparts⟩
  · rwa [List.append_assoc, ← hitem]
  · -- what is skipped in between is no text
    rcases List.mem_append.1 hother with hother | hother
    · rw [← mem_texts_iff, hfirst] at hother
      exact hasGroup_of_ofNames hfront other hother
    · cases hskipped _ hother

/-- Reading the names of a build comes to what it should. -/
theorem reads_ofNames (builder : Builder) (build : Value) :
    Reads builder build (ofNames builder.isInternal [] (Mirrors.names build)) := by
  cases h : ofNames builder.isInternal [] (Mirrors.names build) with
  | error fault =>
    -- reading has ended at the first name that is malformed
    obtain ⟨before, name, parts, rfl, front, back, hlists, hfront, hgroup, hparts⟩ :=
      firstMalformed_of_ofNames h
    have hmentions : Mentions build name := ⟨_, hlists, List.mem_append_cons_self⟩
    refine ⟨iff_of_true ⟨before, name, parts, rfl⟩ ⟨name, hmentions, hgroup⟩, ?_, fun hall => ?_,
      ?_⟩
    · rintro _ _ _ ⟨⟩
      exact ⟨front, back, hlists, hfront, hgroup, hparts⟩
    · exact absurd (hall name hmentions) hgroup
    · rintro _ ⟨⟩
  | ok mirrors =>
    -- every name has a group
    have hall : ∀ name, Mentions build name → HasGroup name := fun name hname =>
      hasGroup_of_ofNames h name (mem_names_iff.2 hname)
    refine ⟨iff_of_false ?_ ?_, ?_, fun _ => ⟨mirrors, rfl, fun mirror => ?_⟩, ?_⟩
    · rintro ⟨_, _, _, ⟨⟩⟩
    · rintro ⟨name, hname, hgroup⟩
      exact hgroup (hall name hname)
    · rintro _ _ _ ⟨⟩
    · rw [mem_iff_of_ofNames h]
      constructor
      · rintro ⟨htype, hinternal, name, hname, hown⟩
        rw [mem_names_iff] at hname
        obtain ⟨group, rfl⟩ := (ofName_eq_ok_iff_append (hall name hname)).1 hown
        exact ⟨htype, hinternal, group, hname⟩
      · rintro ⟨htype, hinternal, group, hmentions⟩
        exact ⟨htype, hinternal, _, mem_names_iff.2 hmentions,
          (ofName_eq_ok_iff_append (hall _ hmentions)).2 ⟨group, rfl⟩⟩
    · rintro _ ⟨⟩ mirror hmirror
      obtain ⟨-, -, name, -, hown⟩ := (mem_iff_of_ofNames h).1 hmirror
      exact colon_notMem_of_ofName hown

/-! ## Lists of mirrors -/

/-- The entries of an array of mirrors, each with its group. -/
def entries (pairs : List (String × String)) : List Value :=
  pairs.map fun (group, own) => .text (group ++ ":" ++ own)

/-- A build output that lists some mirrors. -/
def listing (pairs : List (String × String)) : Value :=
  .object [("output", .object [("properties", .object [("mirrored_builders",
    .array (entries pairs))])])]

theorem lists_listing (pairs : List (String × String)) : Lists (listing pairs) (entries pairs) :=
  ⟨_, _, rfl, rfl, rfl⟩

/-- A listing of pairs mentions their names, put together. -/
theorem mentions_iff_of_lists (h : Lists build (entries pairs)) :
    Mentions build name ↔ ∃ pair ∈ pairs, pair.1 ++ ":" ++ pair.2 = name := by
  rw [← mem_names_iff, names_of_lists h, mem_texts_iff, entries, List.mem_map]
  simp only [Value.text.injEq]

/-- An object with one member is read again if the value of the member is. -/
theorem toValue_singleton {key : String} {value : Value} {depth : Nat}
    (h : value.toTree.toValue depth = .ok value) :
    (Value.object [(key, value)]).toTree.toValue (depth + 1) = .ok (.object [(key, value)]) := by
  rw [Json.toTree_object]
  refine Json.Tree.toValue_object_eq_ok.2 ⟨depth, [(key, value)], rfl, ?_, rfl, ?_⟩
  · rw [Except.mapM_eq_ok]
    exact .cons (Json.memberToValue_eq_ok.2 ⟨rfl, h⟩) .nil
  · rw [Json.sortMembers_eq_self (List.pairwise_singleton _ _)]

theorem toValue_listing (pairs : List (String × String)) :
    (listing pairs).toTree.toValue Json.maxDepth = .ok (listing pairs) := by
  refine toValue_singleton (toValue_singleton (toValue_singleton ?_))
  rw [Json.toTree_array, entries]
  refine Json.Tree.toValue_array_eq_ok.2 ⟨_, _, rfl, ?_, rfl, rfl⟩
  rw [Except.mapM_eq_ok, List.forall₂_map_left_iff, List.forall₂_same, List.forall_mem_map]
  exact fun _ _ => rfl

/-- A listing that is printed is read again. -/
theorem ofDocument_listing (pairs : List (String × String)) :
    Reader.value.ofDocument (.ofString (listing pairs).pretty) = .ok (listing pairs) := by
  have hnumbers : ∀ n ∈ (listing pairs).numbers, n.IsWord := by
    intro n hn
    simp only [listing, entries, Value.mem_numbers_object, Value.mem_numbers_array,
      List.mem_singleton, List.mem_map, exists_eq_left] at hn
    obtain ⟨_, ⟨pair, -, rfl⟩, hn⟩ := hn
    cases hn
  rw [Json.Reader.ofDocument_eq_ok,
    Value.parse_eq_of_tokens_eq (Value.tokens_ofString_pretty hnumbers)]
  exact ⟨toValue_listing pairs, rfl⟩

/-- The mirrors that are listed with groups and without further colons are read again. -/
theorem Reads.exists_of_lists {result : Except MirrorFault (List Builder)}
    (hreads : Reads builder build result) (hlists : Lists build (entries pairs))
    (h : ∀ pair ∈ pairs, ':' ∉ pair.1.toList ∧ ':' ∉ pair.2.toList) :
    ∃ mirrors, result = .ok mirrors ∧
      ∀ mirror, mirror ∈ mirrors ↔ mirror.type = .tryJob ∧
        mirror.isInternal = builder.isInternal ∧ ∃ group, (group, mirror.name) ∈ pairs := by
  have hname {pair : String × String} (hpair : pair ∈ pairs) :
      ofName (pair.1 ++ ":" ++ pair.2) = .ok pair.2 :=
    ofName_append (h pair hpair).1 (h pair hpair).2
  have hgroup : ∀ name, Mentions build name → HasGroup name := by
    intro name hmentions
    obtain ⟨pair, hpair, rfl⟩ := (mentions_iff_of_lists hlists).1 hmentions
    exact exists_ofName_eq_ok_iff.1 ⟨pair.2, hname hpair⟩
  obtain ⟨mirrors, hmirrors, hmem⟩ := hreads.mirrors hgroup
  refine ⟨mirrors, hmirrors, fun mirror => (hmem mirror).trans ?_⟩
  constructor
  · rintro ⟨htype, hinternal, group, hmentions⟩
    obtain ⟨pair, hpair, heq⟩ := (mentions_iff_of_lists hlists).1 hmentions
    -- the part after the colon is the same, read either way
    have hown := (ofName_eq_ok_iff_append (hgroup _ hmentions)).2 ⟨group, rfl⟩
    rw [← heq, hname hpair, Except.ok.injEq] at hown
    exact ⟨htype, hinternal, pair.1, by rwa [← hown]⟩
  · rintro ⟨htype, hinternal, group, hpair⟩
    exact ⟨htype, hinternal, group, (mentions_iff_of_lists hlists).2 ⟨_, hpair, rfl⟩⟩

/-- Of a build output that is a JSON document, the mirrors are read that its array names. The first
text of the array that does not have exactly one colon ends the program instead. Mirrors that are
listed with their groups are read again, from their printed list as from any other. -/
theorem ofOutput_exact (builder : Builder) :
    (∀ output build, Reader.value.ofDocument (.ofString output) = .ok build →
      Reads builder build (ofOutput builder output)) ∧
    ∀ pairs : List (String × String),
      (∀ pair ∈ pairs, ':' ∉ pair.1.toList ∧ ':' ∉ pair.2.toList) →
      (∀ output build, Reader.value.ofDocument (.ofString output) = .ok build →
        Lists build (entries pairs) →
        ∃ mirrors, ofOutput builder output = .ok mirrors ∧
          ∀ mirror, mirror ∈ mirrors ↔ mirror.type = .tryJob ∧
            mirror.isInternal = builder.isInternal ∧ ∃ group, (group, mirror.name) ∈ pairs) ∧
      ∃ build, Reader.value.ofDocument (.ofString (listing pairs).pretty) = .ok build ∧
        Lists build (entries pairs) := by
  have hreads : ∀ output build, Reader.value.ofDocument (.ofString output) = .ok build →
      Reads builder build (ofOutput builder output) := by
    intro output build hbuild
    rw [ofOutput_eq hbuild]
    exact reads_ofNames builder build
  refine ⟨hreads, fun pairs hpairs => ⟨fun output build hbuild hlists => ?_, ?_⟩⟩
  · exact (hreads output build hbuild).exists_of_lists hlists hpairs
  · exact ⟨listing pairs, ofDocument_listing pairs, lists_listing pairs⟩

/-- A mirror, an entry that is no text, and two names of other forms. Empty groups and names are
fine. -/
theorem ofOutput_exact_of_three_parts :
    let builder : Builder := ⟨"Linux", .ci, true⟩
    let output := "\x7b\"output\":\x7b\"properties\":\x7b
      \"mirrored_builders\":[\":a\",1,\"a:b:\",\"c\"]\x7d\x7d\x7d"
    let pairs := [("", "a"), ("b", "")]
    (∃ build, Reader.value.ofDocument (.ofString output) = .ok build ∧
      Reads builder build (ofOutput builder output) ∧ FirstMalformed build "a:b:" 3) ∧
    (∀ pair ∈ pairs, ':' ∉ pair.1.toList ∧ ':' ∉ pair.2.toList) ∧
    ∃ mirrors, ofOutput builder (listing pairs).pretty = .ok mirrors ∧
      ⟨"", .tryJob, true⟩ ∈ mirrors := by
  intro builder output pairs
  obtain ⟨hreads, hlistings⟩ := ofOutput_exact builder
  have hpairs : ∀ pair ∈ pairs, ':' ∉ pair.1.toList ∧ ':' ∉ pair.2.toList := by decide +kernel
  obtain ⟨build, hbuild, -⟩ : ∃ build, Reader.value.ofDocument (.ofString output) = .ok build ∧
      true := Except.exists_of_any (by decide +kernel)
  have hmalformed : ofOutput builder output =
      .error (.malformedName [⟨"a", .tryJob, true⟩] "a:b:" 3) := by decide +kernel
  obtain ⟨hagain, build', hbuild', hlists⟩ := hlistings pairs hpairs
  obtain ⟨mirrors, hmirrors, hmem⟩ := hagain _ build' hbuild' hlists
  have hread := hreads output build hbuild
  exact ⟨⟨build, hbuild, hread, hread.first _ _ _ hmalformed⟩, hpairs, mirrors, hmirrors,
    (hmem _).2 ⟨rfl, rfl, "b", by simp [pairs]⟩⟩

end BuildScope.Mirrors
