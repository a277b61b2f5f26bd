import BuildScope.Proofs.Json.Lexing
import BuildScope.Proofs.Json.Rereading
import BuildScope.Proofs.Snapshot.Admission

/-!
# Snapshots Survive Being Stored

A snapshot that was read from a document, in whatever form the document had it, is read again from
the text it is written as. Floating point numbers in the metadata are left out: what they are
written as need not be read as the same number.

* `Symbol.reader_toTree`, `Container.reader_toTree`, `Snapshot.reader_toTree`: records are read
  again.
* `Snapshot.ofDocument_text`: the text of a snapshot is read as the snapshot.
-/

namespace BuildScope

open Json (Value Tree Number Reader.text_toTree Reader.int64_toTree Reader.uint64_toTree
  Reader.uint32_toTree Reader.list_toTree)
open Json.Reader (Rereads rereads_nil Keeps exists_draft fill_eq_ok completes_cons record_toTree)

/-- The surroundings of a value of a document that is inside of so many arrays and objects. -/
def Json.Surroundings.inside (levels : Nat) : Json.Surroundings :=
  ⟨Json.maxDepth - levels, .malformed⟩

open Json.Surroundings (inside)

/-! ## Symbols -/

namespace Symbol

theorem reader_toTree (sym : Symbol) : reader (inside 2) sym.toValue.toTree = .ok sym := by
  refine record_toTree rfl ?_
  refine completes_cons rfl rfl (Reader.text_toTree sym.containerName) ?_
  refine completes_cons rfl rfl (Reader.text_toTree sym.sectionName) ?_
  refine completes_cons rfl rfl (Reader.uint64_toTree sym.address) ?_
  refine completes_cons rfl rfl (Reader.int64_toTree sym.size) ?_
  refine completes_cons rfl rfl (Reader.int64_toTree sym.padding) ?_
  refine completes_cons rfl rfl (Reader.text_toTree sym.fullName) ?_
  refine completes_cons rfl rfl (Reader.text_toTree sym.templateName) ?_
  refine completes_cons rfl rfl (Reader.text_toTree sym.name) ?_
  refine completes_cons rfl rfl (Reader.text_toTree sym.sourcePath) ?_
  refine completes_cons rfl rfl (Reader.text_toTree sym.objectPath) ?_
  refine completes_cons rfl rfl (Reader.uint32_toTree sym.flags.bits) ?_
  refine completes_cons rfl rfl (Reader.uint32_toTree sym.numAliases) ?_
  exact ⟨_, rfl, rfl⟩

/-- The numbers of a symbol are integers of 64 bits. -/
theorem isWord_of_mem_numbers (sym : Symbol) : ∀ n ∈ sym.toValue.numbers, n.IsWord := by
  have hnumbers : sym.toValue.numbers = [.integer sym.address.toNat, .integer sym.size.toInt,
      .integer sym.padding.toInt, .integer sym.flags.bits.toNat, .integer sym.numAliases.toNat] :=
    rfl
  have hword (n : UInt32) : n.toNat < Json.wordLimit := Nat.lt_trans n.toNat_lt (by decide)
  simp only [hnumbers, List.forall_mem_cons, List.not_mem_nil, false_imp_iff, implies_true,
    and_true]
  exact ⟨Number.isWord_natCast sym.address.toNat_lt, Number.isWord_toInt sym.size,
    Number.isWord_toInt sym.padding, Number.isWord_natCast (hword sym.flags.bits),
    Number.isWord_natCast (hword sym.numAliases)⟩

end Symbol

/-! ## Containers -/

namespace Container

variable {container : Container}

/-- The metadata of a container that was read can be read again. -/
theorem rereads_metadata {tree : Tree} (hrange : tree.InRange)
    (h : reader (inside 2) tree = .ok container) : Rereads (inside 3) container.metadata := by
  let P (draft : Draft) : Prop := ∀ metadata ∈ draft.metadata, Rereads (inside 3) metadata
  have hkeeps : Keeps fields (inside 3) P := by
    intro field hfield tree hrange draft draft' hdraft hfill
    simp only [fields, List.mem_cons, List.not_mem_nil, or_false] at hfield
    -- only the last field is the metadata
    rcases hfield with rfl | rfl | rfl
    · obtain ⟨name, -, rfl⟩ := fill_eq_ok.mp hfill
      exact hdraft
    · obtain ⟨label, -, rfl⟩ := fill_eq_ok.mp hfill
      exact hdraft
    · obtain ⟨metadata, hmetadata, rfl⟩ := fill_eq_ok.mp hfill
      rintro _ ⟨⟩
      exact Rereads.of_members hrange hmetadata
  have hempty : P {} := by rintro _ ⟨⟩
  obtain ⟨draft, hdraft, hfinish⟩ := exists_draft rfl hkeeps hempty hrange h
  obtain ⟨name, -, rfl⟩ := Option.map_eq_some_iff.mp hfinish
  -- metadata that is left out is written as an empty object
  cases hmetadata : draft.metadata with
  | none => exact rereads_nil rfl
  | some metadata => exact hdraft metadata hmetadata

theorem reader_toTree (h : Rereads (inside 3) container.metadata) :
    reader (inside 2) container.toValue.toTree = .ok container := by
  refine record_toTree rfl ?_
  refine completes_cons rfl rfl (Reader.text_toTree container.name) ?_
  refine completes_cons rfl rfl (Reader.text_toTree container.shortName) ?_
  refine completes_cons rfl rfl h.again ?_
  exact ⟨_, rfl, rfl⟩

theorem numbers_toValue (container : Container) :
    container.toValue.numbers = (Value.object container.metadata).numbers :=
  List.append_nil _

end Container

/-! ## Snapshots -/

namespace Snapshot

variable {snapshot : Snapshot}

/-- All metadata of a snapshot can be read again. -/
structure MetadataRereads (snapshot : Snapshot) : Prop where
  own : Rereads (inside 1) snapshot.metadata
  containers : ∀ container ∈ snapshot.containers, Rereads (inside 3) container.metadata

theorem metadataRereads {tree : Tree} (hrange : tree.InRange)
    (h : reader .document tree = .ok snapshot) : snapshot.MetadataRereads := by
  let P (draft : Draft) : Prop :=
    (∀ metadata ∈ draft.metadata, Rereads (inside 1) metadata) ∧
      ∀ containers ∈ draft.containers, ∀ container ∈ containers,
        Rereads (inside 3) container.metadata
  -- whichever field is filled in, the metadata of a draft can be read again
  have hkeeps : Keeps fields (inside 1) P := by
    intro field hfield tree hrange draft draft' hdraft hfill
    simp only [fields, List.mem_cons, List.not_mem_nil, or_false] at hfield
    rcases hfield with rfl | rfl | rfl
    · obtain ⟨metadata, hmetadata, rfl⟩ := fill_eq_ok.mp hfill
      refine ⟨?_, hdraft.2⟩
      rintro _ ⟨⟩
      exact Rereads.of_members hrange hmetadata
    · obtain ⟨containers, hcontainers, rfl⟩ := fill_eq_ok.mp hfill
      refine ⟨hdraft.1, ?_⟩
      rintro _ ⟨⟩ container hcontainer
      obtain ⟨part, hpart, hread⟩ :=
        Json.Reader.exists_of_mem_list rfl hcontainers hrange container hcontainer
      exact Container.rereads_metadata hpart hread
    · obtain ⟨symbols, -, rfl⟩ := fill_eq_ok.mp hfill
      exact hdraft
  have hempty : P {} := by constructor <;> rintro _ ⟨⟩
  obtain ⟨draft, ⟨hown, hcontainers⟩, hfinish⟩ := exists_draft rfl hkeeps hempty hrange h
  cases hfinish
  constructor
  · cases hmetadata : draft.metadata with
    | none => exact rereads_nil rfl
    | some metadata => exact hown metadata hmetadata
  · cases hlist : draft.containers with
    | none => nofun
    | some containers => exact hcontainers containers hlist

theorem reader_toTree (h : snapshot.MetadataRereads) :
    reader .document snapshot.toValue.toTree = .ok snapshot := by
  refine record_toTree rfl ?_
  refine completes_cons rfl rfl h.own.again ?_
  refine completes_cons rfl rfl (Reader.list_toTree rfl fun container hcontainer =>
    Container.reader_toTree (h.containers container hcontainer)) ?_
  refine completes_cons rfl rfl (Reader.list_toTree rfl fun sym _ => Symbol.reader_toTree sym) ?_
  exact ⟨_, rfl, rfl⟩

/-- The metadata of a snapshot holds no floating point number, neither its own nor that of a
container. -/
def IsFloatFree (snapshot : Snapshot) : Prop :=
  ∀ metadata ∈ snapshot.metadata :: snapshot.containers.map Container.metadata,
    ∀ n ∈ (Value.object metadata).numbers, n.IsInteger

instance (snapshot : Snapshot) : Decidable snapshot.IsFloatFree :=
  inferInstanceAs (Decidable (∀ metadata ∈ _, ∀ n ∈ (Value.object metadata).numbers, n.IsInteger))

/-- The numbers of a snapshot without floating point numbers are integers of 64 bits. -/
theorem isWord_of_mem_numbers (h : snapshot.MetadataRereads) (hfree : snapshot.IsFloatFree) :
    ∀ n ∈ snapshot.toValue.numbers, n.IsWord := by
  obtain ⟨hown, hcontainers⟩ := List.forall_mem_cons.mp hfree
  rw [List.forall_mem_map] at hcontainers
  intro n hn
  obtain ⟨member, hmember, hn⟩ := Value.mem_numbers_object.mp hn
  simp only [List.mem_cons, List.not_mem_nil, or_false] at hmember
  rcases hmember with rfl | rfl | rfl
  · exact ⟨hown n hn, h.own.inRange n hn⟩
  · obtain ⟨_, hvalue, hn⟩ := Value.mem_numbers_array.mp hn
    obtain ⟨container, hcontainer, rfl⟩ := List.mem_map.mp hvalue
    rw [Container.numbers_toValue] at hn
    exact ⟨hcontainers container hcontainer n hn, (h.containers container hcontainer).inRange n hn⟩
  · obtain ⟨_, hvalue, hn⟩ := Value.mem_numbers_array.mp hn
    obtain ⟨sym, -, rfl⟩ := List.mem_map.mp hvalue
    exact sym.isWord_of_mem_numbers n hn

/-- The text of a snapshot that was read from a document, and whose metadata holds no floating
point number, is a document of that snapshot, which is written as the same text again. -/
theorem ofDocument_text {document : Text.Document} (h : ofDocument document = .ok snapshot)
    (hfree : snapshot.IsFloatFree) :
    ∃ again, ofDocument (.ofString snapshot.text) = .ok again ∧ again = snapshot ∧
      again.text = snapshot.text := by
  obtain ⟨hdocument, haccepted⟩ := ofDocument_eq_ok_iff.mp h
  obtain ⟨hread, -⟩ := Json.Reader.ofDocument_eq_ok.mp hdocument
  -- the numbers of the document are in range, and what it holds is nested no deeper when written
  have hrereads := metadataRereads (Json.inRange_parse document) hread
  have htokens := Value.tokens_ofString_pretty (isWord_of_mem_numbers hrereads hfree)
  have hparse : Json.parse (.ofString snapshot.text) = ⟨snapshot.toValue.toTree, []⟩ :=
    Value.parse_eq_of_tokens_eq htokens
  refine ⟨snapshot, ofDocument_eq_ok_iff.mpr ⟨?_, haccepted⟩, rfl, rfl⟩
  rw [Json.Reader.ofDocument_eq_ok, hparse]
  exact ⟨reader_toTree hrereads, rfl⟩

set_option maxRecDepth 4000 in
/-- A document with records in array form, repeated names, fields left out, fields that are
skipped, escapes, and the ends of the ranges of numbers. -/
theorem ofDocument_text_of_rows :
    let text := "[\x7b\"z\": [\x7b\"\": -9223372036854775808\x7d], \"a\": 18446744073709551615\x7d,
      [[\"lib\", \"\\u0001\\n\"], \x7b\"other\": 0.5, \"name\": \"lib\"\x7d],
      [[\"lib\", \".text\", 18446744073709551615, 9223372036854775807, 0, \"\\\"é\\\\\"],
      \x7b\"size\": 0, \"container_name\": \"lib\", \"section_name\": \"\"\x7d]]"
    let symbols : List Symbol :=
      [{ containerName := "lib", sectionName := ".text", address := 0xFFFFFFFFFFFFFFFF
         size := 0x7FFFFFFFFFFFFFFF, fullName := "\"é\\" },
        { containerName := "lib", sectionName := "", size := 0 }]
    ∃ snapshot, ofDocument (.ofString text) = .ok snapshot ∧ snapshot.IsFloatFree ∧
      snapshot.symbols = symbols ∧
      ∃ again, ofDocument (.ofString snapshot.text) = .ok again ∧ again = snapshot ∧
        again.text = snapshot.text := by
  intro text symbols
  -- the characters of the document without a detour through its bytes
  have htext : text.toList = _ := String.toList_ofList
  have hcheck : (ofDocument (.ofString text)).toOption.any
      (fun snapshot => decide (snapshot.IsFloatFree ∧ snapshot.symbols = symbols)) = true := by
    rw [Text.Document.ofString, htext]
    decide +kernel
  cases hread : ofDocument (.ofString text) with
  | error fault =>
    rw [hread] at hcheck
    cases hcheck
  | ok snapshot =>
    rw [hread] at hcheck
    obtain ⟨hfree, hsymbols⟩ := of_decide_eq_true hcheck
    exact ⟨snapshot, rfl, hfree, hsymbols, ofDocument_text hread hfree⟩

end Snapshot

end BuildScope
