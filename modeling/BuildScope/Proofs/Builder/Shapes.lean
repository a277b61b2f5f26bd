import BuildScope.Builder.Text
import BuildScope.Proofs.Json.Records

/-!
# The Shape of Manifest Documents

What a document has to look like to be read as a manifest, and what it then lists. A builder is
written as a name or as an object, and what a record may leave out has a default.

* `ListedBuilder.Written`, `FakeBuilder.Written`, `ManifestListing.Written`: what a tree lists.
* `ManifestListing.ofDocument_eq_ok_iff`: a document with this shape is read as what it lists.
-/

namespace BuildScope

open Json (Tree Surroundings)
open Json.Reader (IsField Offered Slot Separate text_eq_ok_iff bool_eq_ok_iff items_of_list
  items_of_finds list_of_items exists_finds_of_items exists_draft_of_fields exists_draft_of_offered)

/-! ## What trees list -/

/-- What a tree says about a builder: a name alone stands for a public builder, and so does an
object that does not say whether the builder is internal. -/
inductive ListedBuilder.Written : Tree → ListedBuilder → Prop
  | name (name : String) : Written (.text (some name)) ⟨name, false⟩
  | entry {members : List (Option String × Tree)} {name : String} {isInternal? : Option Bool}
      (name_at : Tree.HasField "name" 0 (.object members none) (some (.text (some name))))
      (internal_at :
        Tree.HasField "internal" 1 (.object members none) (isInternal?.map Tree.bool)) :
      Written (.object members none) ⟨name, isInternal?.getD false⟩

/-- What a tree says about a CI builder that does not exist. -/
structure FakeBuilder.Written (tree : Tree) (fake : FakeBuilder) : Prop where
  room : tree.HasRoom 2
  builder : ∃ part, tree.HasField "builder" 0 (some part) ∧ ListedBuilder.Written part fake.builder
  mirrors : ∃ part, tree.HasField "mirrors" 1 (some part) ∧
    Tree.Items ListedBuilder.Written (some part) fake.mirrors

/-- What a tree lists as a manifest. Only the isolates have to be there. -/
structure ManifestListing.Written (tree : Tree) (listing : ManifestListing) : Prop where
  room : tree.HasRoom 3
  isolateNames : ∃ part, tree.HasField "isolate_names" 0 (some part) ∧
    Tree.Items (fun item name => item = .text (some name)) (some part) listing.isolateNames
  fakes : ∃ part?, tree.HasField "fake_ci_builders" 1 part? ∧
    Tree.Items FakeBuilder.Written part? listing.fakes
  nonChromium : ∃ part?, tree.HasField "non_chromium_builders" 2 part? ∧
    Tree.Items ListedBuilder.Written part? listing.nonChromium

/-! ## What is read of them -/

section
variable {surroundings : Surroundings} {tree : Tree}

namespace ListedBuilder

/-- The slots of a listed builder. -/
def slots : List (Slot Draft) :=
  [⟨_, "name", .text, (·.name), fun draft x => { draft with name := x }⟩,
    ⟨_, "internal", .bool, (·.isInternal), fun draft x => { draft with isInternal := x }⟩]

/-- The name of a builder is kept apart from whether it is internal. -/
theorem separate_slots : Separate slots where
  distinct := by decide
  get_set := by
    simp only [slots, List.forall_mem_cons, List.not_mem_nil, false_imp_iff, implies_true, and_self]
  apart := by
    simp only [slots, List.forall_mem_cons, List.not_mem_nil, ne_eq, not_true_eq_false,
      false_imp_iff, implies_true, and_self]

theorem isField_name : IsField fields 0 "name" .text Draft.name
    fun draft x => { draft with name := x } :=
  separate_slots.isField 0 rfl

theorem isField_internal : IsField fields 1 "internal" .bool Draft.isInternal
    fun draft x => { draft with isInternal := x } :=
  separate_slots.isField 1 rfl

/-- A truth value that may be left out is read as it is written. -/
theorem finds_bool_iff {part? : Option Tree} {isInternal? : Option Bool} :
    Json.Reader.bool.Finds surroundings part? isInternal? ↔
      part? = isInternal?.map Tree.bool := by
  constructor
  · intro h
    cases h with
    | none => rfl
    | some hread => rw [bool_eq_ok_iff.1 hread, Option.map_some]
  · rintro rfl
    cases isInternal? with
    | none => exact .none
    | some isInternal => exact .some rfl

/-- What is read as a listed builder is what the tree says. -/
theorem written_of_reader {listed : ListedBuilder} (h : reader surroundings tree = .ok listed) :
    Written tree listed := by
  obtain ⟨_, -, h⟩ := Except.bind_eq_ok.1 h
  split at h
  · cases h
    exact .name _
  · split at h
    · rename_i hrecord
      cases h
      -- each field of the draft was read from its own part of the object
      obtain ⟨inner, draft, -, hfinish, hfield⟩ := exists_draft_of_fields hrecord
      obtain ⟨name, hname, rfl⟩ := Option.map_eq_some_iff.1 hfinish
      obtain ⟨_, hname_at, hread⟩ := hfield isField_name rfl
      obtain ⟨_, hinternal_at, hinternal⟩ := hfield isField_internal rfl
      rw [hname] at hread
      obtain ⟨hread⟩ := hread
      obtain rfl := text_eq_ok_iff.1 hread
      rw [finds_bool_iff.1 hinternal] at hinternal_at
      -- an object in which a field was found has its end
      cases hname_at with
      | member before after => exact .entry (.member before after) hinternal_at
    · cases h
  · cases h

/-- What the tree says is read as a listed builder, if the tree is a value. -/
theorem reader_of_written {listed : ListedBuilder} (hvalue : tree.IsValue surroundings)
    (h : Written tree listed) : reader surroundings tree = .ok listed := by
  have ⟨value, htree⟩ := hvalue
  -- a listed builder is read as a value before its shape is looked at
  refine Except.bind_eq_ok.2 ⟨value, htree, ?_⟩
  cases h with
  | name name => rfl
  | @entry members name isInternal? name_at internal_at =>
    obtain ⟨inner, henter, -⟩ := hvalue.of_object
    have hname : Json.Reader.text.Finds inner (some (.text (some name))) (some name) := .some rfl
    have hinternal : Json.Reader.bool.Finds inner (isInternal?.map Tree.bool) isInternal? :=
      finds_bool_iff.2 rfl
    -- whatever the tree has for a field can be read
    have hoffered : ∀ f ∈ fields, Offered fields {} inner (.object members none) f :=
      List.forall_mem_cons.2 ⟨isField_name.offered rfl name_at hname,
        List.forall_mem_cons.2 ⟨isField_internal.offered rfl internal_at hinternal, nofun⟩⟩
    obtain ⟨draft, hrecord, hfield⟩ :=
      exists_draft_of_offered henter hvalue hoffered (.object members)
    have hfinish : ofDraft draft = some ⟨name, isInternal?.getD false⟩ := by
      rw [ofDraft, hfield isField_name rfl name_at hname,
        hfield isField_internal rfl internal_at hinternal]
      rfl
    dsimp only
    rw [hrecord hfinish]

end ListedBuilder

namespace FakeBuilder

/-- The slots of a fake builder. -/
def slots : List (Slot Draft) :=
  [⟨_, "builder", ListedBuilder.reader, (·.builder), fun draft x => { draft with builder := x }⟩,
    ⟨_, "mirrors", .list ListedBuilder.reader, (·.mirrors),
      fun draft x => { draft with mirrors := x }⟩]

/-- A fake builder is kept apart from its mirrors. -/
theorem separate_slots : Separate slots where
  distinct := by decide
  get_set := by
    simp only [slots, List.forall_mem_cons, List.not_mem_nil, false_imp_iff, implies_true, and_self]
  apart := by
    simp only [slots, List.forall_mem_cons, List.not_mem_nil, ne_eq, not_true_eq_false,
      false_imp_iff, implies_true, and_self]

theorem isField_builder : IsField fields 0 "builder" ListedBuilder.reader Draft.builder
    fun draft x => { draft with builder := x } :=
  separate_slots.isField 0 rfl

theorem isField_mirrors : IsField fields 1 "mirrors" (.list ListedBuilder.reader) Draft.mirrors
    fun draft x => { draft with mirrors := x } :=
  separate_slots.isField 1 rfl

/-- What is read as a fake builder is what the tree says. -/
theorem written_of_reader {fake : FakeBuilder} (h : reader surroundings tree = .ok fake) :
    Written tree fake := by
  obtain ⟨inner, draft, hroom, hfinish, hfield⟩ := exists_draft_of_fields h
  obtain ⟨builder, hbuilder, hfinish⟩ := Option.bind_eq_some_iff.1 hfinish
  obtain ⟨mirrors, hmirrors, hfinish⟩ := Option.bind_eq_some_iff.1 hfinish
  cases hfinish
  obtain ⟨_, hbuilder_at, hread⟩ := hfield isField_builder rfl
  obtain ⟨_, hmirrors_at, hreadMirrors⟩ := hfield isField_mirrors rfl
  rw [hbuilder] at hread
  rw [hmirrors] at hreadMirrors
  obtain ⟨hread⟩ := hread
  obtain ⟨hreadMirrors⟩ := hreadMirrors
  exact ⟨hroom, ⟨_, hbuilder_at, ListedBuilder.written_of_reader hread⟩,
    ⟨_, hmirrors_at, items_of_list ListedBuilder.written_of_reader hreadMirrors⟩⟩

/-- What the tree says is read as a fake builder, if the tree is a value. -/
theorem reader_of_written {fake : FakeBuilder} (hvalue : tree.IsValue surroundings)
    (h : Written tree fake) : reader surroundings tree = .ok fake := by
  obtain ⟨hroom, ⟨builder, builder_at, hbuilder⟩, mirrors, mirrors_at, hmirrors⟩ := h
  obtain ⟨inner, henter⟩ := hroom.exists_enter hvalue
  have hreadBuilder : ListedBuilder.reader.Finds inner (some builder) (some fake.builder) :=
    .some (ListedBuilder.reader_of_written (builder_at.isValue hvalue henter) hbuilder)
  have hreadMirrors :
      (Json.Reader.list ListedBuilder.reader).Finds inner (some mirrors) (some fake.mirrors) :=
    .some (list_of_items (mirrors_at.isValue hvalue henter) ListedBuilder.reader_of_written
      hmirrors)
  have hoffered : ∀ f ∈ fields, Offered fields {} inner tree f :=
    List.forall_mem_cons.2 ⟨isField_builder.offered rfl builder_at hreadBuilder,
      List.forall_mem_cons.2 ⟨isField_mirrors.offered rfl mirrors_at hreadMirrors, nofun⟩⟩
  obtain ⟨draft, hrecord, hfield⟩ := exists_draft_of_offered henter hvalue hoffered hroom
  apply hrecord
  rw [hfield isField_builder rfl builder_at hreadBuilder,
    hfield isField_mirrors rfl mirrors_at hreadMirrors]
  rfl

end FakeBuilder

namespace ManifestListing

/-- The slots of a listing. -/
def slots : List (Slot Draft) :=
  [⟨_, "isolate_names", .list .text, (·.isolateNames),
      fun draft x => { draft with isolateNames := x }⟩,
    ⟨_, "fake_ci_builders", .list FakeBuilder.reader, (·.fakes),
      fun draft x => { draft with fakes := x }⟩,
    ⟨_, "non_chromium_builders", .list ListedBuilder.reader, (·.nonChromium),
      fun draft x => { draft with nonChromium := x }⟩]

/-- The three lists of a manifest are kept apart. -/
theorem separate_slots : Separate slots where
  distinct := by decide
  get_set := by
    simp only [slots, List.forall_mem_cons, List.not_mem_nil, false_imp_iff, implies_true, and_self]
  apart := by
    simp only [slots, List.forall_mem_cons, List.not_mem_nil, ne_eq, not_true_eq_false,
      false_imp_iff, implies_true, and_self]

theorem isField_isolateNames : IsField fields 0 "isolate_names" (.list .text) Draft.isolateNames
    fun draft x => { draft with isolateNames := x } :=
  separate_slots.isField 0 rfl

theorem isField_fakes : IsField fields 1 "fake_ci_builders" (.list FakeBuilder.reader) Draft.fakes
    fun draft x => { draft with fakes := x } :=
  separate_slots.isField 1 rfl

theorem isField_nonChromium : IsField fields 2 "non_chromium_builders"
    (.list ListedBuilder.reader) Draft.nonChromium
    fun draft x => { draft with nonChromium := x } :=
  separate_slots.isField 2 rfl

/-- What is read as a manifest is what the tree lists. -/
theorem written_of_reader {listing : ManifestListing}
    (h : reader surroundings tree = .ok listing) : Written tree listing := by
  obtain ⟨inner, draft, hroom, hfinish, hfield⟩ := exists_draft_of_fields h
  obtain ⟨isolateNames, hnames, rfl⟩ := Option.map_eq_some_iff.1 hfinish
  obtain ⟨_, hnames_at, hread⟩ := hfield isField_isolateNames rfl
  obtain ⟨_, hfakes_at, hfakes⟩ := hfield isField_fakes rfl
  obtain ⟨_, hnonChromium_at, hnonChromium⟩ := hfield isField_nonChromium rfl
  rw [hnames] at hread
  obtain ⟨hread⟩ := hread
  exact ⟨hroom, ⟨_, hnames_at, items_of_list text_eq_ok_iff.1 hread⟩,
    ⟨_, hfakes_at, items_of_finds FakeBuilder.written_of_reader hfakes⟩,
    ⟨_, hnonChromium_at, items_of_finds ListedBuilder.written_of_reader hnonChromium⟩⟩

/-- What the tree lists is read as a manifest, if the tree is a value. -/
theorem reader_of_written {listing : ManifestListing} (hvalue : tree.IsValue surroundings)
    (h : Written tree listing) : reader surroundings tree = .ok listing := by
  obtain ⟨hroom, ⟨names, names_at, hnames⟩, ⟨fakes?, fakes_at, hfakes⟩,
    nonChromium?, nonChromium_at, hnonChromium⟩ := h
  obtain ⟨inner, henter⟩ := hroom.exists_enter hvalue
  have hreadNames :
      (Json.Reader.list .text).Finds inner (some names) (some listing.isolateNames) :=
    .some (list_of_items (names_at.isValue hvalue henter) (fun _ => text_eq_ok_iff.2) hnames)
  obtain ⟨fakes, hreadFakes, hfakes⟩ := exists_finds_of_items
    (fun part hpart => (hpart ▸ fakes_at).isValue hvalue henter) FakeBuilder.reader_of_written
    hfakes
  obtain ⟨nonChromium, hreadNonChromium, hnonChromium⟩ := exists_finds_of_items
    (fun part hpart => (hpart ▸ nonChromium_at).isValue hvalue henter)
    ListedBuilder.reader_of_written hnonChromium
  have hoffered : ∀ f ∈ fields, Offered fields {} inner tree f :=
    List.forall_mem_cons.2 ⟨isField_isolateNames.offered rfl names_at hreadNames,
      List.forall_mem_cons.2 ⟨isField_fakes.offered rfl fakes_at hreadFakes,
        List.forall_mem_cons.2
          ⟨isField_nonChromium.offered rfl nonChromium_at hreadNonChromium, nofun⟩⟩⟩
  obtain ⟨draft, hrecord, hfield⟩ := exists_draft_of_offered henter hvalue hoffered hroom
  apply hrecord
  rw [hfield isField_isolateNames rfl names_at hreadNames,
    hfield isField_fakes rfl fakes_at hreadFakes,
    hfield isField_nonChromium rfl nonChromium_at hreadNonChromium, hfakes, hnonChromium]
  rfl

/-- A document that is a value is read as a manifest exactly if it has the shape of one. -/
theorem ofDocument_eq_ok_iff {document : Text.Document} {listing : ManifestListing}
    {value : Json.Value} (hvalue : Json.Reader.value.ofDocument document = .ok value) :
    reader.ofDocument document = .ok listing ↔ Written (Json.parse document).tree listing := by
  obtain ⟨htree, hrest⟩ := Json.Reader.ofDocument_eq_ok.1 hvalue
  rw [Json.Reader.ofDocument_eq_ok, and_iff_left hrest]
  exact ⟨written_of_reader, reader_of_written ⟨value, htree⟩⟩

end ManifestListing

end

end BuildScope
