import BuildScope.Proofs.Builder.Shapes
import Mathlib.Data.List.Induction

/-!
# What a Manifest Keeps of Its Listing

A listing is turned into a manifest of sets and a map. No order and no repetition is left of it,
except that of several listings for one fake builder the last counts. A listing without isolates, or
with a fake builder without mirrors, is refused with the first such fault.

* `ManifestListing.FirstFault`: the first thing wrong with a listing.
* `Manifest.Represents`: what a manifest keeps of a listing.
* `Manifest.ofDocument_represents_or_blames`: what manifest is made of a document, or why none is.
-/

namespace BuildScope

open Json (Reader)

/-! ## The first fault -/

/-- The first thing wrong with a listing, as it is reported. -/
inductive ManifestListing.FirstFault (listing : ManifestListing) : ManifestFault → Prop
  /-- It lists no isolates, whatever its fake builders are. -/
  | noIsolates (hnone : listing.isolateNames = []) : FirstFault listing .noIsolates
  /-- It lists isolates, and a fake builder is the first one without mirrors. -/
  | noMirrors (hsome : listing.isolateNames ≠ []) {front back : List FakeBuilder}
      {fake : FakeBuilder} (hsplit : listing.fakes = front ++ fake :: back)
      (hfront : ∀ other ∈ front, other.mirrors ≠ []) (hfake : fake.mirrors = []) :
      FirstFault listing (.noMirrors fake.builder.name)

namespace ManifestListing

variable {listing : ManifestListing} {fault : ManifestFault}

theorem fault?_eq_some_iff : listing.fault? = some fault ↔ listing.FirstFault fault := by
  unfold fault?
  constructor
  · intro h
    split at h
    next hnone =>
      cases h
      exact .noIsolates (List.isEmpty_iff.1 hnone)
    next hsome =>
      obtain ⟨fake, hfind, rfl⟩ := Option.map_eq_some_iff.1 h
      obtain ⟨hfake, front, back, hsplit, hfront⟩ := List.find?_eq_some_iff_append.1 hfind
      refine .noMirrors (mt List.isEmpty_iff.2 hsome) hsplit (fun other hother => ?_)
        (List.isEmpty_iff.1 hfake)
      simpa using hfront other hother
  · intro h
    cases h with
    | noIsolates hnone => rw [if_pos (List.isEmpty_iff.2 hnone)]
    | noMirrors hsome hsplit hfront hfake =>
      rw [if_neg (mt List.isEmpty_iff.1 hsome), Option.map_eq_some_iff]
      refine ⟨_, List.find?_eq_some_iff_append.2 ⟨List.isEmpty_iff.2 hfake, _, _, hsplit, ?_⟩, rfl⟩
      intro other hother
      simpa using hfront other hother

/-- A listing has a fault exactly if it lists no isolates or a fake builder without mirrors. -/
theorem exists_firstFault_iff : (∃ fault, listing.FirstFault fault) ↔
    listing.isolateNames = [] ∨ ∃ fake ∈ listing.fakes, fake.mirrors = [] := by
  simp only [← fault?_eq_some_iff, ← Option.isSome_iff_exists, fault?]
  split
  next hnone => exact iff_of_true rfl (.inl (List.isEmpty_iff.1 hnone))
  next hsome =>
    rw [Option.isSome_map, List.find?_isSome, or_iff_right (mt List.isEmpty_iff.2 hsome)]
    simp only [List.isEmpty_iff]

end ManifestListing

/-! ## Fake builders -/

theorem BuilderSet.mem_ofListed {type : BuilderType} {listed : List ListedBuilder}
    {builder : Builder} : builder ∈ ofListed type listed ↔
      ∃ entry ∈ listed, builder = ⟨entry.name, type, entry.isInternal⟩ := by
  rw [ofListed, Std.ExtTreeSet.mem_ofList, List.contains_iff_mem, List.mem_map]
  exact exists_congr fun entry => and_congr_right fun _ => eq_comm

theorem BuilderSet.ofListed_eq_iff {type : BuilderType} {listed : List ListedBuilder}
    {builders : BuilderSet} : ofListed type listed = builders ↔
      ∀ builder, builder ∈ builders ↔
        ∃ entry ∈ listed, builder = ⟨entry.name, type, entry.isInternal⟩ := by
  simp only [← mem_ofListed]
  constructor
  · rintro rfl builder
    rfl
  · intro h
    exact (Std.ExtTreeSet.ext_mem h).symm

/-- No later listing is for the same builder. -/
def FakeBuilder.IsLastIn (fake : FakeBuilder) (fakes : List FakeBuilder) : Prop :=
  ∃ front back, fakes = front ++ fake :: back ∧ ∀ later ∈ back, later.builder ≠ fake.builder

theorem FakeBuilder.IsLastIn.mem {fake : FakeBuilder} {fakes : List FakeBuilder}
    (h : fake.IsLastIn fakes) : fake ∈ fakes := by
  obtain ⟨front, back, rfl, -⟩ := h
  exact List.mem_append_cons_self

namespace ManifestListing

variable {fakes : List FakeBuilder} {fake last : FakeBuilder} {builder : Builder}
  {mirrors : BuilderSet}

/-- One more listing is the last of its builder, and no other listing of it is the last any more. -/
theorem isLastIn_concat : fake.IsLastIn (fakes ++ [last]) ↔
    fake = last ∨ last.builder ≠ fake.builder ∧ fake.IsLastIn fakes := by
  constructor
  · rintro ⟨front, back, hsplit, hback⟩
    -- nothing follows the last one, or the new one is what follows at the end
    obtain rfl | ⟨back, later, rfl⟩ := back.eq_nil_or_concat
    · obtain ⟨-, hlast⟩ := List.append_inj' hsplit rfl
      cases hlast
      exact .inl rfl
    · rw [List.concat_eq_append, ← List.cons_append, ← List.append_assoc] at hsplit
      obtain ⟨rfl, hlast⟩ := List.append_inj' hsplit rfl
      cases hlast
      exact .inr ⟨hback last (by simp), front, back, rfl, fun later hlater =>
        hback later (by simp [hlater])⟩
  · rintro (rfl | ⟨hne, front, back, rfl, hback⟩)
    · exact ⟨fakes, [], rfl, nofun⟩
    · refine ⟨front, back ++ [last], by simp, fun later hlater => ?_⟩
      obtain hlater | hlater := List.mem_append.1 hlater
      · exact hback later hlater
      · rwa [List.mem_singleton.1 hlater]

theorem not_isLastIn_nil : ¬fake.IsLastIn [] := by
  rintro ⟨front, back, hsplit, -⟩
  simp at hsplit

/-- One more listing says what stands in for its builder, and nothing about other builders. -/
theorem fakeMap_concat : fakeMap (fakes ++ [last]) =
    (fakeMap fakes).insert (last.builder.toBuilder .ci) (.ofListed .tryJob last.mirrors) :=
  List.foldl_concat _ _ _ _

theorem toBuilder_inj {a b : ListedBuilder} {type : BuilderType} :
    a.toBuilder type = b.toBuilder type ↔ a = b := by
  obtain ⟨_, _⟩ := a
  obtain ⟨_, _⟩ := b
  simp [ListedBuilder.toBuilder]

/-- A fake builder is known by the last listing of it. -/
theorem getElem?_fakeMap_eq_some_iff : (fakeMap fakes)[builder]? = some mirrors ↔
    ∃ fake : FakeBuilder, fake.IsLastIn fakes ∧ fake.builder.toBuilder .ci = builder ∧
      .ofListed .tryJob fake.mirrors = mirrors := by
  -- from the end, as the map is made
  induction fakes using List.reverseRecOn with
  | nil => simp [fakeMap, not_isLastIn_nil]
  | append_singleton fakes last ih =>
    simp only [fakeMap_concat, Std.ExtTreeMap.getElem?_insert, Std.LawfulEqOrd.compare_eq_iff_eq,
      isLastIn_concat]
    by_cases hlast : last.builder.toBuilder .ci = builder
    · rw [if_pos hlast, Option.some.injEq]
      constructor
      · intro hmirrors
        exact ⟨last, .inl rfl, hlast, hmirrors⟩
      · rintro ⟨fake, rfl | ⟨hne, -⟩, hfake, hmirrors⟩
        · exact hmirrors
        -- a listing before it would be the last only if it were about another builder
        · exact absurd (toBuilder_inj.1 (hlast.trans hfake.symm)) hne
    · -- the last listing is about another builder
      rw [if_neg hlast, ih]
      refine exists_congr fun fake => and_congr_left fun ⟨hfake, _⟩ => ?_
      constructor
      · intro h
        exact .inr ⟨fun heq => hlast (heq ▸ hfake), h⟩
      · rintro (rfl | ⟨-, h⟩)
        · exact absurd hfake hlast
        · exact h

/-- The fake builders that are known are those listed. -/
theorem mem_fakeMap_iff : builder ∈ fakeMap fakes ↔
    ∃ fake ∈ fakes, fake.builder.toBuilder .ci = builder := by
  induction fakes using List.reverseRecOn with
  | nil => simp [fakeMap]
  | append_singleton fakes last ih =>
    simp only [fakeMap_concat, Std.ExtTreeMap.mem_insert, Std.LawfulEqOrd.compare_eq_iff_eq, ih,
      List.mem_append, List.mem_singleton, or_and_right, exists_or, exists_eq_left, or_comm]

end ManifestListing

/-! ## Manifests of documents -/

namespace Manifest

/-- A manifest keeps of a listing which isolates and builders there are, and for each fake builder
the mirrors of its last listing. -/
structure Represents (manifest : Manifest) (listing : ManifestListing) : Prop where
  isolateNames (name : String) : name ∈ manifest.isolateNames ↔ name ∈ listing.isolateNames
  nonChromium (builder : Builder) : builder ∈ manifest.nonChromium ↔
    ∃ entry ∈ listing.nonChromium, builder = ⟨entry.name, .ci, entry.isInternal⟩
  fakes (builder : Builder) : builder ∈ manifest.fakes ↔
    ∃ fake ∈ listing.fakes, builder = ⟨fake.builder.name, .ci, fake.builder.isInternal⟩
  mirrors (builder : Builder) (mirrors : BuilderSet) :
    manifest.fakes[builder]? = some mirrors ↔
      ∃ fake : FakeBuilder, fake.IsLastIn listing.fakes ∧
        builder = ⟨fake.builder.name, .ci, fake.builder.isInternal⟩ ∧
        ∀ mirror, mirror ∈ mirrors ↔
          ∃ entry ∈ fake.mirrors, mirror = ⟨entry.name, .tryJob, entry.isInternal⟩
  nonempty (builder : Builder) (mirrors : BuilderSet) :
    manifest.fakes[builder]? = some mirrors → mirrors ≠ ∅

variable {listing : ManifestListing} {document : Text.Document} {fault : ManifestFault}

theorem ofListing_eq_error_iff : ofListing listing = .error fault ↔ listing.FirstFault fault := by
  rw [← ManifestListing.fault?_eq_some_iff, ofListing]
  cases listing.fault? with
  | none => exact iff_of_false nofun nofun
  | some first => simp

/-- A listing without a fault is represented. -/
theorem exists_represents_of_ofListing (h : ¬∃ fault, listing.FirstFault fault) :
    ∃ manifest, ofListing listing = .ok manifest ∧ manifest.Represents listing := by
  have hnone : listing.fault? = none := by
    rw [Option.eq_none_iff_forall_ne_some]
    exact fun fault hfault => h ⟨fault, ManifestListing.fault?_eq_some_iff.1 hfault⟩
  rw [ManifestListing.exists_firstFault_iff] at h
  refine ⟨_, by rw [ofListing, hnone], ⟨fun name => ?_, fun builder => BuilderSet.mem_ofListed,
    fun builder => ?_, fun builder mirrors => ?_, fun builder mirrors hmirrors => ?_⟩⟩
  · rw [Std.ExtTreeSet.mem_ofList, List.contains_iff_mem]
  · rw [ManifestListing.mem_fakeMap_iff]
    exact exists_congr fun fake => and_congr_right fun _ => eq_comm
  · rw [ManifestListing.getElem?_fakeMap_eq_some_iff]
    exact exists_congr fun fake => and_congr_right fun _ =>
      and_congr eq_comm BuilderSet.ofListed_eq_iff
  · -- the first mirror that is listed is one of the set
    rintro rfl
    obtain ⟨fake, hlast, -, hmirrors⟩ :=
      ManifestListing.getElem?_fakeMap_eq_some_iff.1 hmirrors
    cases hlisted : fake.mirrors with
    | nil => exact h (.inr ⟨fake, hlast.mem, hlisted⟩)
    | cons entry entries =>
      rw [BuilderSet.ofListed_eq_iff, hlisted] at hmirrors
      have hmem := (hmirrors _).2 ⟨entry, List.mem_cons_self .., rfl⟩
      exact Std.ExtTreeSet.not_mem_empty hmem

/-- A document that is a value is a listing exactly if it has the shape of one, and a document that
is a listing lists what is written there. No manifest is made of a listing without isolates, or with
a fake builder without mirrors, but the first such fault is reported. Of any other listing a
manifest is made that represents it. -/
theorem ofDocument_represents_or_blames (document : Text.Document) :
    (∀ value listing, Reader.value.ofDocument document = .ok value →
      (ManifestListing.reader.ofDocument document = .ok listing ↔
        ManifestListing.Written (Json.parse document).tree listing)) ∧
    ∀ listing, ManifestListing.reader.ofDocument document = .ok listing →
      ManifestListing.Written (Json.parse document).tree listing ∧
      ((∃ fault, ofDocument document = .error (.manifest fault)) ↔
        listing.isolateNames = [] ∨ ∃ fake ∈ listing.fakes, fake.mirrors = []) ∧
      (∀ fault, ofDocument document = .error (.manifest fault) ↔ listing.FirstFault fault) ∧
      (listing.isolateNames ≠ [] → (∀ fake ∈ listing.fakes, fake.mirrors ≠ []) →
        ∃ manifest, ofDocument document = .ok manifest ∧ manifest.Represents listing) := by
  refine ⟨fun value listing hvalue => ManifestListing.ofDocument_eq_ok_iff hvalue,
    fun listing hlisting => ?_⟩
  have hdocument : ofDocument document = (ofListing listing).mapError .manifest := by
    rw [ofDocument, hlisting]
    rfl
  have hblames (fault : ManifestFault) :
      ofDocument document = .error (.manifest fault) ↔ listing.FirstFault fault := by
    rw [hdocument, ← ofListing_eq_error_iff]
    cases ofListing listing with
    | error first => simp [Except.mapError]
    | ok manifest => exact iff_of_false nofun nofun
  have hwritten := ManifestListing.written_of_reader (Json.Reader.ofDocument_eq_ok.1 hlisting).1
  refine ⟨hwritten, ?_, hblames, fun hisolates hmirrors => ?_⟩
  · simp only [hblames, ManifestListing.exists_firstFault_iff]
  · have hfaultless : ¬∃ fault, listing.FirstFault fault := by
      rw [ManifestListing.exists_firstFault_iff, not_or]
      exact ⟨hisolates, fun ⟨fake, hfake, hnone⟩ => hmirrors fake hfake hnone⟩
    obtain ⟨manifest, hmanifest, hrepresents⟩ := exists_represents_of_ofListing hfaultless
    exact ⟨manifest, by rw [hdocument, hmanifest]; rfl, hrepresents⟩

/-- A manifest in which an isolate and a fake builder come twice, and one whose second fake builder
has no mirrors. -/
theorem ofDocument_represents_or_blames_of_two_listings :
    let twice := "\x7b\"isolate_names\":[\"g\",\"g\"],
      \"fake_ci_builders\":[[\"F\",[\"a\"]],[\x7b\"name\":\"F\"\x7d,[\"b\"]]]\x7d"
    let listing : ManifestListing :=
      ⟨["g", "g"], [⟨⟨"F", false⟩, [⟨"a", false⟩]⟩, ⟨⟨"F", false⟩, [⟨"b", false⟩]⟩], []⟩
    let mirrorless := "[[\"g\"],[[\"E\",[\"a\"]],[\"F\",[]]]]"
    (∃ value, Reader.value.ofDocument (.ofString twice) = .ok value ∧
      ManifestListing.Written (Json.parse (.ofString twice)).tree listing) ∧
    (∃ manifest, ofDocument (.ofString twice) = .ok manifest ∧
      manifest.fakes[(⟨"F", .ci, false⟩ : Builder)]? = some {⟨"b", .tryJob, false⟩}) ∧
    ofDocument (.ofString mirrorless) = .error (.manifest (.noMirrors "F")) := by
  intro twice listing mirrorless
  obtain ⟨value, hvalue, -⟩ : ∃ value, Reader.value.ofDocument (.ofString twice) = .ok value ∧
      true := Except.exists_of_any (by decide +kernel)
  have hlisting : ManifestListing.reader.ofDocument (.ofString twice) = .ok listing := by
    decide +kernel
  let front : List FakeBuilder := [⟨⟨"E", false⟩, [⟨"a", false⟩]⟩]
  let fake : FakeBuilder := ⟨⟨"F", false⟩, []⟩
  let faulty : ManifestListing := ⟨["g"], front ++ [fake], []⟩
  have hfaulty : ManifestListing.reader.ofDocument (.ofString mirrorless) = .ok faulty := by
    decide +kernel
  obtain ⟨hshape, hrepresents⟩ := ofDocument_represents_or_blames (.ofString twice)
  obtain ⟨-, -, -, hmanifest⟩ := hrepresents listing hlisting
  obtain ⟨manifest, hmanifest, h⟩ := hmanifest (by decide) (by decide)
  obtain ⟨-, hblames⟩ := ofDocument_represents_or_blames (.ofString mirrorless)
  obtain ⟨-, -, hblames, -⟩ := hblames faulty hfaulty
  have hsplit : faulty.fakes = front ++ fake :: [] := rfl
  have hfirst := ManifestListing.FirstFault.noMirrors (List.cons_ne_nil _ _) hsplit (by decide) rfl
  refine ⟨⟨value, hvalue, (hshape value listing hvalue).1 hlisting⟩, ⟨manifest, hmanifest, ?_⟩,
    (hblames _).2 hfirst⟩
  -- the first listing of the builder does not count
  refine (h.mirrors _ _).2 ⟨_, ⟨[_], [], rfl, nofun⟩, rfl, fun mirror => ?_⟩
  simpa [Std.LawfulEqOrd.compare_eq_iff_eq] using eq_comm

end Manifest

end BuildScope
