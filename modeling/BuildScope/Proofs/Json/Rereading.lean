import BuildScope.Json.Reader
import BuildScope.Proofs.Json.Range

/-!
# Reading Values Again

A value that was read from a document is read again from the tree that spells it: its objects are
sorted already, and it is nested no deeper than the tree it was read from.

* `sortMembers_eq_self`: sorted members are left as they are.
* `Tree.toValue_toTree`: a value of free shape is read again.
* `Reader.Rereads.of_members`, `Reader.list_toTree`, `Reader.integer_toTree`: so are the parts of
  records.
* `Reader.exists_draft`: a record is made of a draft that has every property its fields keep.
* `Reader.record_toTree`: a record is read from the tree of its members, field by field.
-/

namespace BuildScope.Json

/-- Members that are sorted by their keys, each key once, are left as they are. -/
theorem sortMembers_eq_self {members : List (String × Value)}
    (h : members.Pairwise fun a b => compare a.1 b.1 = .lt) :
    sortMembers members = members := by
  have hnodup {l : List (String × Value)} (hl : l.Pairwise fun a b => compare a.1 b.1 = .lt) :
      l.Nodup := by
    refine hl.imp fun hlt heq => ?_
    rw [heq] at hlt
    exact Std.OrientedCmp.not_lt_of_lt hlt hlt
  have hdistinct : members.Pairwise fun a b => ¬compare a.1 b.1 = .eq := by
    refine h.imp fun hlt heq => ?_
    rw [hlt] at heq
    cases heq
  have hsorted := sortMembers_sorted members
  -- both lists are sorted, so that it is enough that they have the same members
  refine List.Perm.eq_of_pairwise (fun _ _ _ _ hab hba => ?_) hsorted h
    ((List.perm_ext_iff_of_nodup (hnodup hsorted) (hnodup h)).mpr ?_)
  · exact absurd hba (Std.OrientedCmp.not_lt_of_lt hab)
  · rintro ⟨key, value⟩
    refine ⟨mem_of_mem_sortMembers, fun hmem => ?_⟩
    rw [sortMembers, Std.TreeMap.mem_toList_iff_getElem?_eq_some]
    exact Std.TreeMap.getElem?_ofList_of_mem Std.ReflCmp.compare_self hdistinct hmem

/-- A value that is read from a tree is read again from its own tree, nested no deeper. -/
theorem Tree.toValue_toTree {tree : Tree} {depth : Nat} {value : Value}
    (h : tree.toValue depth = .ok value) : value.toTree.toValue depth = .ok value := by
  induction tree generalizing depth value with
  | array items ending ih =>
    obtain ⟨inner, values, rfl, hitems, rfl, rfl⟩ := Tree.toValue_array_eq_ok.mp h
    -- each item of the value was read of some item of the tree, at the same depth
    rw [toTree_array]
    refine Tree.toValue_array_eq_ok.mpr ⟨inner, values, rfl, ?_, rfl, rfl⟩
    rw [Except.mapM_eq_ok, List.forall₂_map_left_iff, List.forall₂_same]
    intro v hv
    obtain ⟨item, hitem, heq⟩ := Except.exists_of_mem_mapM hitems hv
    exact ih item hitem heq
  | object members ending ih =>
    obtain ⟨inner, values, rfl, hmembers, rfl, rfl⟩ := Tree.toValue_object_eq_ok.mp h
    rw [toTree_object]
    refine Tree.toValue_object_eq_ok.mpr ⟨inner, sortMembers values, rfl, ?_, rfl, ?_⟩
    · rw [Except.mapM_eq_ok, List.forall₂_map_left_iff, List.forall₂_same]
      intro entry hentry
      obtain ⟨member, hmember, heq⟩ :=
        Except.exists_of_mem_mapM hmembers (mem_of_mem_sortMembers hentry)
      exact memberToValue_eq_ok.mpr ⟨rfl, ih member hmember (memberToValue_eq_ok.mp heq).2⟩
    · rw [sortMembers_eq_self (sortMembers_sorted values)]
  | _ =>
    rw [Tree.toTree_eq_of_leaf h nofun nofun]
    exact h

namespace Reader

/-! ## Parts of records -/

section
variable {surroundings inner : Surroundings}

theorem text_toTree (s : String) : text surroundings (Value.text s).toTree = .ok s :=
  rfl

/-- An integer that a record can hold is read again. -/
theorem integer_toTree {α : Type} {convert : Int → Option α} {i : Int} {a : α}
    (h : convert i = some a) : integer convert surroundings (Value.int i).toTree = .ok a := by
  simp only [integer, Value.int, Value.toTree, h]

/-- So are the signed integers of 64 bits. -/
theorem int64_toTree (n : Int64) : int64 surroundings (Value.int n.toInt).toTree = .ok n := by
  refine integer_toTree ?_
  rw [if_pos ⟨n.le_toInt, n.toInt_lt⟩, Int64.ofInt_toInt]

theorem uint64_toTree (n : UInt64) : uint64 surroundings (Value.int n.toNat).toTree = .ok n := by
  refine integer_toTree ?_
  rw [if_pos ⟨Int.natCast_nonneg _, Int.ofNat_lt.mpr n.toNat_lt_size⟩, Int.toNat_natCast,
    UInt64.ofNat_toNat]

theorem uint32_toTree (n : UInt32) : uint32 surroundings (Value.int n.toNat).toTree = .ok n := by
  refine integer_toTree ?_
  rw [if_pos ⟨Int.natCast_nonneg _, Int.ofNat_lt.mpr n.toNat_lt_size⟩, Int.toNat_natCast,
    UInt32.ofNat_toNat]

/-- An object of free shape is a value of free shape that is an object. -/
theorem members_eq_ok_iff {tree : Tree} {entries : List (String × Value)} :
    members surroundings tree = .ok entries ↔
      tree.toValue surroundings.depth = .ok (.object entries) := by
  cases tree with
  | object before ending =>
    obtain ⟨depth, overlong⟩ := surroundings
    cases depth with
    | zero => constructor <;> rintro ⟨⟩
    | succ depth =>
      simp only [members, Surroundings.enter, Tree.toValue, Except.bind_eq_ok, Except.ok.injEq,
        Value.object.injEq, exists_eq_left']
  | array items ending =>
    constructor
    · rintro ⟨⟩
    · intro h
      -- an array is no object
      obtain ⟨_, _, _, _, _, heq⟩ := Tree.toValue_array_eq_ok.mp h
      cases heq
  | number n => cases n <;> constructor <;> rintro ⟨⟩
  | text s => cases s <;> constructor <;> rintro ⟨⟩
  | null | bool b | stop place => constructor <;> rintro ⟨⟩

/-- Metadata that could have been read: it is read again from its own tree, and its numbers are in
range. -/
structure Rereads (surroundings : Surroundings) (entries : List (String × Value)) : Prop where
  /-- It is read again. -/
  again : members surroundings (Value.object entries).toTree = .ok entries
  /-- Its numbers are in range. -/
  inRange : (Value.object entries).InRange

/-- Metadata that was read could be read again. -/
theorem Rereads.of_members {tree : Tree} {entries : List (String × Value)} (hrange : tree.InRange)
    (h : members surroundings tree = .ok entries) : Rereads surroundings entries := by
  rw [members_eq_ok_iff] at h
  exact ⟨members_eq_ok_iff.mpr (Tree.toValue_toTree h), Tree.inRange_of_toValue_eq_ok hrange h⟩

/-- No metadata can always be read, if nothing else is wrong at this place. -/
theorem rereads_nil (h : surroundings.enter = .ok inner) : Rereads surroundings [] := by
  refine ⟨?_, Value.inRange_object.mpr nofun⟩
  rw [toTree_object, members, List.map_nil, h]
  rfl

variable {α : Type} {item : Reader α}

/-- A list is read again if its items are. -/
theorem list_toTree (h : surroundings.enter = .ok inner) {l : List α} {spell : α → Value}
    (hitems : ∀ a ∈ l, item inner (spell a).toTree = .ok a) :
    list item surroundings (Value.array (l.map spell)).toTree = .ok l := by
  have hvalues : ((l.map spell).map Value.toTree).mapM (item inner) = .ok l := by
    rw [List.map_map, Except.mapM_eq_ok, List.forall₂_map_left_iff, List.forall₂_same]
    exact hitems
  rw [toTree_array, list, h]
  simp only [Except.bind_eq_ok]
  exact ⟨inner, rfl, l, hvalues, (), rfl, rfl⟩

/-- What is read of an array is read of its items. -/
theorem exists_of_mem_list {tree : Tree} (h : surroundings.enter = .ok inner) {l : List α}
    (hlist : list item surroundings tree = .ok l) (hrange : tree.InRange) :
    ∀ a ∈ l, ∃ part : Tree, part.InRange ∧ item inner part = .ok a := by
  cases tree with
  | array items ending =>
    rw [list, h] at hlist
    simp only [Except.bind_eq_ok, Except.ok.injEq, exists_eq_left'] at hlist
    obtain ⟨values, hvalues, -, -, rfl⟩ := hlist
    intro a ha
    obtain ⟨part, hpart, heq⟩ := Except.exists_of_mem_mapM hvalues ha
    exact ⟨part, Tree.inRange_array.mp hrange part hpart, heq⟩
  | _ => cases hlist

end

/-! ## Records -/

section
variable {δ α : Type} {fields : List (Field δ)} {surroundings inner : Surroundings} {P : δ → Prop}

/-- Every field keeps a property of drafts when it is filled in. -/
def Keeps (fields : List (Field δ)) (surroundings : Surroundings) (P : δ → Prop) : Prop :=
  ∀ field ∈ fields, ∀ tree : Tree, tree.InRange → ∀ draft draft',
    P draft → field.fill surroundings tree draft = .ok draft' → P draft'

/-- A property that every field keeps is kept along the members of an object. -/
theorem Keeps.fillByKey (hkeeps : Keeps fields surroundings P)
    {members : List (Option String × Tree)} (hrange : ∀ member ∈ members, member.2.InRange)
    {draft draft' : δ} (hdraft : P draft)
    (h : Reader.fillByKey fields surroundings members draft = .ok draft') : P draft' := by
  induction members generalizing draft with
  | nil =>
    cases h
    exact hdraft
  | cons member members ih =>
    obtain ⟨htree, hmembers⟩ := List.forall_mem_cons.mp hrange
    obtain ⟨_ | key, tree⟩ := member
    · cases h
    rw [Reader.fillByKey] at h
    split at h
    · -- a member that is no field leaves the draft as it is
      obtain ⟨-, -, h⟩ := Except.bind_eq_ok.mp h
      exact ih hmembers hdraft h
    · rename_i field hfind
      split at h
      · cases h
      · obtain ⟨filled, hfill, h⟩ := Except.bind_eq_ok.mp h
        have hfield := List.mem_of_find?_eq_some hfind
        exact ih hmembers (hkeeps field hfield tree htree draft filled hdraft hfill) h

/-- It is kept along the items of an array too. -/
theorem Keeps.fillInOrder (hkeeps : Keeps fields surroundings P) {items : List Tree}
    (hrange : ∀ item ∈ items, item.InRange) {draft draft' : δ} (hdraft : P draft)
    (h : Reader.fillInOrder surroundings fields items draft = .ok draft') : P draft' := by
  induction items generalizing fields draft with
  | nil =>
    rw [Reader.fillInOrder] at h
    cases h
    exact hdraft
  | cons item items ih =>
    obtain ⟨hitem, hitems⟩ := List.forall_mem_cons.mp hrange
    cases fields with
    -- more items than fields are refused
    | nil => cases h
    | cons field fields =>
      obtain ⟨hfield, hfields⟩ := List.forall_mem_cons.mp hkeeps
      obtain ⟨filled, hfill, h⟩ := Except.bind_eq_ok.mp h
      exact ih hfields hitems (hfield item hitem draft filled hdraft hfill) h

private theorem ofFinished_eq_ok {finished : Option α} {a : α} :
    (match finished with | some a => .ok a | none => .error .mismatched : Except Fault α) = .ok a ↔
      finished = some a := by
  cases finished with
  | none => exact iff_of_false nofun nofun
  | some a => simp only [Except.ok.injEq, Option.some.injEq]

variable {empty : δ} {finish : δ → Option α} {a : α}

/-- A record is read from an object if its members fill in a draft that is complete. -/
theorem record_object_eq_ok {members : List (Option String × Tree)} {ending : Option Stop}
    (henter : surroundings.enter = .ok inner) :
    record fields empty finish surroundings (.object members ending) = .ok a ↔
      ∃ draft, Reader.fillByKey fields inner members empty = .ok draft ∧ ending = none ∧
        finish draft = some a := by
  simp only [record, henter, Except.bind_eq_ok, Except.ok.injEq, exists_eq_left', endOf_eq_ok,
    exists_and_left, exists_const]
  exact exists_congr fun _ => and_congr_right fun _ => and_congr_right fun _ => ofFinished_eq_ok

/-- It is read from an array if the items do, in the order of the fields. -/
theorem record_array_eq_ok {items : List Tree} {ending : Option Stop}
    (henter : surroundings.enter = .ok inner) :
    record fields empty finish surroundings (.array items ending) = .ok a ↔
      ∃ draft, Reader.fillInOrder inner fields items empty = .ok draft ∧ ending = none ∧
        finish draft = some a := by
  simp only [record, henter, Except.bind_eq_ok, Except.ok.injEq, exists_eq_left', endOf_eq_ok,
    exists_and_left, exists_const]
  exact exists_congr fun _ => and_congr_right fun _ => and_congr_right fun _ => ofFinished_eq_ok

/-- A record is made of a draft that has every property that its fields keep. -/
theorem exists_draft {tree : Tree} (henter : surroundings.enter = .ok inner)
    (hkeeps : Keeps fields inner P) (hempty : P empty) (hrange : tree.InRange)
    (h : record fields empty finish surroundings tree = .ok a) :
    ∃ draft, P draft ∧ finish draft = some a := by
  cases tree with
  | object members ending =>
    obtain ⟨draft, hfill, -, hfinish⟩ := (record_object_eq_ok henter).mp h
    exact ⟨draft, hkeeps.fillByKey (Tree.inRange_object.mp hrange) hempty hfill, hfinish⟩
  | array items ending =>
    obtain ⟨draft, hfill, -, hfinish⟩ := (record_array_eq_ok henter).mp h
    exact ⟨draft, hkeeps.fillInOrder (Tree.inRange_array.mp hrange) hempty hfill, hfinish⟩
  | _ => cases h

/-- A field is filled in with what its reader finds. -/
theorem fill_eq_ok {β : Type} {name : String} {reader : Reader β} {get : δ → Option β}
    {set : δ → β → δ} {tree : Tree} {draft draft' : δ} :
    (field name reader get set).fill surroundings tree draft = .ok draft' ↔
      ∃ b, reader surroundings tree = .ok b ∧ set draft b = draft' := by
  simp only [field, Except.bind_eq_ok, Except.ok.injEq]

/-- The members of an object fill in the fields of a draft from which a record is made. -/
def Completes (fields : List (Field δ)) (surroundings : Surroundings) (finish : δ → Option α)
    (members : List (String × Value)) (draft : δ) (a : α) : Prop :=
  ∃ draft', fillByKey fields surroundings (members.map memberToTree) draft = .ok draft' ∧
    finish draft' = some a

/-- The first member fills in the field that has its key. -/
theorem completes_cons {β : Type} {name : String} {reader : Reader β} {get : δ → Option β}
    {set : δ → β → δ} {value : Value} {members : List (String × Value)} {draft : δ} {b : β}
    (hfind : fields.find? (·.name == name) = some (field name reader get set))
    (hunset : get draft = none) (hread : reader surroundings value.toTree = .ok b)
    (h : Completes fields surroundings finish members (set draft b) a) :
    Completes fields surroundings finish ((name, value) :: members) draft a := by
  obtain ⟨draft', hrest, hfinish⟩ := h
  have hfill : (field name reader get set).fill surroundings value.toTree draft =
      .ok (set draft b) := fill_eq_ok.mpr ⟨b, hread, rfl⟩
  have hisSet : (field name reader get set).isSet draft = false :=
    congrArg Option.isSome hunset
  refine ⟨draft', ?_, hfinish⟩
  rw [List.map_cons, memberToTree, Reader.fillByKey, hfind]
  simp only [hisSet, hfill]
  exact hrest

/-- The tree of an object is read as a record if its members fill in the fields of one. -/
theorem record_toTree {members : List (String × Value)} (henter : surroundings.enter = .ok inner)
    (h : Completes fields inner finish members empty a) :
    record fields empty finish surroundings (Value.object members).toTree = .ok a := by
  obtain ⟨draft, hfill, hfinish⟩ := h
  rw [toTree_object]
  exact (record_object_eq_ok henter).mpr ⟨draft, hfill, rfl, hfinish⟩

end

/-- A document is read if its tree is and nothing follows. -/
theorem ofDocument_eq_ok {α : Type} {reader : Reader α} {document : Text.Document} {a : α} :
    reader.ofDocument document = .ok a ↔
      reader .document (parse document).tree = .ok a ∧ (parse document).rest = [] := by
  simp only [ofDocument, Except.bind_eq_ok]
  constructor
  · rintro ⟨b, hread, hrest⟩
    split at hrest
    · rename_i hempty
      cases hrest
      exact ⟨hread, List.isEmpty_iff.mp hempty⟩
    · cases hrest
  · rintro ⟨hread, hrest⟩
    exact ⟨a, hread, by rw [hrest]; rfl⟩

end Reader

end BuildScope.Json
