import BuildScope.Proofs.Json.Rereading

/-!
# What the Fields of Records Were Read From

A record is read from an object, each field from the one member that has its key, or from an array,
each field from the item at its place. Here is what is known of the tree when a record was read.

* `Tree.HasField`: the part of a tree that a field is read from.
* `Tree.Items`: what the items of an array are read as.
* `Reader.IsField`: a field of a record that other fields leave alone.
* `Reader.Separate.isField`: slots of a draft that are kept apart have such fields.
* `Reader.exists_draft_of_fields`: a record is made of what its fields were read from.
-/

namespace BuildScope.Json

/-- The part of a tree that a field of a record is read from, if it has any: the only member with
the key of the field, or the item at its place. -/
inductive Tree.HasField (key : String) (place : Nat) : Tree → Option Tree → Prop
  | noMember {members : List (Option String × Tree)}
      (absent : ∀ member ∈ members, member.1 ≠ some key) :
      HasField key place (.object members none) none
  | member {front back : List (Option String × Tree)} {part : Tree}
      (before : ∀ member ∈ front, member.1 ≠ some key)
      (after : ∀ member ∈ back, member.1 ≠ some key) :
      HasField key place (.object (front ++ (some key, part) :: back) none) (some part)
  | noItem {items : List Tree} (short : items.length ≤ place) :
      HasField key place (.array items none) none
  | item {items : List Tree} {part : Tree} (listed : items[place]? = some part) :
      HasField key place (.array items none) (some part)

/-- A tree can hold so many fields: it is an object, or an array of no more items. -/
inductive Tree.HasRoom (count : Nat) : Tree → Prop
  | object (members : List (Option String × Tree)) : HasRoom count (.object members none)
  | array {items : List Tree} (short : items.length ≤ count) : HasRoom count (.array items none)

/-- The items of an array, in its order, or none if there is no array. -/
inductive Tree.Items {α : Type} (Item : Tree → α → Prop) : Option Tree → List α → Prop
  | absent : Items Item none []
  | array {items : List Tree} {l : List α} (each : List.Forall₂ Item items l) :
      Items Item (some (.array items none)) l

namespace Reader

variable {α β δ : Type} {surroundings inner : Surroundings} {tree : Tree}

theorem text_eq_ok_iff {s : String} : text surroundings tree = .ok s ↔ tree = .text (some s) := by
  cases tree with
  | text t? => cases t? <;> simp [text]
  | _ => exact iff_of_false nofun nofun

theorem bool_eq_ok_iff {b : Bool} : bool surroundings tree = .ok b ↔ tree = .bool b := by
  cases tree with
  | bool c => simp [bool]
  | _ => exact iff_of_false nofun nofun

theorem list_eq_ok_iff {item : Reader α} {l : List α} :
    list item surroundings tree = .ok l ↔
      ∃ inner items, surroundings.enter = .ok inner ∧ tree = .array items none ∧
        List.Forall₂ (fun part a => item inner part = .ok a) items l := by
  cases tree with
  | array items ending =>
    simp only [list, Except.bind_eq_ok, endOf_eq_ok, Except.ok.injEq, Tree.array.injEq,
      Except.mapM_eq_ok]
    constructor
    · rintro ⟨inner, hinner, l, hitems, -, rfl, rfl⟩
      exact ⟨inner, items, hinner, ⟨rfl, rfl⟩, hitems⟩
    · rintro ⟨inner, items, hinner, ⟨rfl, rfl⟩, hitems⟩
      exact ⟨inner, hinner, l, hitems, (), rfl, rfl⟩
  | _ =>
    constructor
    · rintro ⟨⟩
    · rintro ⟨_, _, -, ⟨⟩, -⟩

/-- What is read of a part of a tree, if there is one. -/
def Finds (reader : Reader β) (surroundings : Surroundings) : Option Tree → Option β → Prop :=
  Option.Rel fun part b => reader surroundings part = .ok b

/-- A list is read from the items of an array. -/
theorem items_of_list {item : Reader α} {Item : Tree → α → Prop} {l : List α}
    (hitem : ∀ {surroundings part a}, item surroundings part = .ok a → Item part a)
    (h : list item surroundings tree = .ok l) : Tree.Items Item (some tree) l := by
  obtain ⟨inner, items, -, rfl, hitems⟩ := list_eq_ok_iff.1 h
  exact .array (hitems.imp fun _ _ => hitem)

/-- So is one that may be left out and is empty then. -/
theorem items_of_finds {item : Reader α} {Item : Tree → α → Prop} {part? : Option Tree}
    {l? : Option (List α)}
    (hitem : ∀ {surroundings part a}, item surroundings part = .ok a → Item part a)
    (h : (list item).Finds surroundings part? l?) :
    Tree.Items Item part? (l?.getD []) := by
  cases h with
  | none => exact .absent
  | some hlist => exact items_of_list hitem hlist

/-! ## One field among others -/

/-- Filling in a field leaves something of a draft as it is. -/
def Field.Leaves (other : Field δ) (get : δ → Option β) : Prop :=
  ∀ surroundings tree draft draft',
    other.fill surroundings tree draft = .ok draft' → get draft' = get draft

theorem leaves_field {name : String} {reader : Reader α} {get' : δ → Option α} {set : δ → α → δ}
    {get : δ → Option β} (h : ∀ draft a, get (set draft a) = get draft) :
    (field name reader get' set).Leaves get := by
  intro surroundings tree draft draft' hfill
  obtain ⟨a, -, rfl⟩ := fill_eq_ok.1 hfill
  exact h draft a

/-- A record has a field at some place, and no other field has its name or fills it in. -/
structure IsField (fields : List (Field δ)) (place : Nat) (name : String) (reader : Reader β)
    (get : δ → Option β) (set : δ → β → δ) : Prop where
  at_place : fields[place]? = some (field name reader get set)
  distinct : (fields.map Field.name).Nodup
  get_set : ∀ draft b, get (set draft b) = some b
  others : ∀ other ∈ fields, other.name ≠ name → other.Leaves get

/-- A slot of a draft, and how it is read and filled in. -/
structure Slot (δ : Type) where
  /-- What is filled in. -/
  β : Type
  /-- The name of its field. -/
  name : String
  /-- How it is read. -/
  reader : Reader β
  /-- What a draft has in the slot, if it is filled in. -/
  get : δ → Option β
  /-- A draft with the slot filled in. -/
  set : δ → β → δ

/-- The field that fills in a slot. -/
def Slot.field (slot : Slot δ) : Field δ :=
  Reader.field slot.name slot.reader slot.get slot.set

/-- Some slots have different names, and none of them is filled in along with another. -/
structure Separate (slots : List (Slot δ)) : Prop where
  distinct : (slots.map Slot.name).Nodup
  get_set : ∀ slot ∈ slots, ∀ draft b, slot.get (slot.set draft b) = some b
  apart : ∀ slot ∈ slots, ∀ other ∈ slots, other.name ≠ slot.name →
    ∀ draft b, slot.get (other.set draft b) = slot.get draft

/-- Each of several slots that are kept apart has a field of their record. -/
theorem Separate.isField {slots : List (Slot δ)} {slot : Slot δ} (h : Separate slots) (place : Nat)
    (hslot : slots[place]? = some slot) :
    IsField (slots.map Slot.field) place slot.name slot.reader slot.get slot.set where
  at_place := by
    rw [List.getElem?_map, hslot]
    rfl
  distinct := by
    rw [List.map_map]
    exact h.distinct
  get_set := h.get_set slot (List.mem_of_getElem? hslot)
  others := by
    rw [List.forall_mem_map]
    exact fun other hother hname =>
      leaves_field (h.apart slot (List.mem_of_getElem? hslot) other hother hname)

namespace IsField

variable {fields : List (Field δ)} {place : Nat} {name : String} {reader : Reader β}
  {get : δ → Option β} {set : δ → β → δ} {draft draft' : δ} {b : β}

theorem find?_eq (h : IsField fields place name reader get set) :
    fields.find? (·.name == name) = some (field name reader get set) := by
  obtain ⟨hlt, hget⟩ := List.getElem?_eq_some_iff.1 h.at_place
  refine List.find?_eq_some_iff_getElem.2 ⟨beq_self_eq_true name, place, hlt, hget, fun i hi => ?_⟩
  -- an earlier field has another name
  have hne := List.pairwise_iff_getElem.1 h.distinct i place (by simp; omega) (by simpa) hi
  rw [List.getElem_map, List.getElem_map, hget] at hne
  rw [Bool.not_eq_true', beq_eq_false_iff_ne]
  exact hne

theorem get_of_fill (h : IsField fields place name reader get set)
    (hfill : (field name reader get set).fill surroundings tree draft = .ok draft') :
    ∃ b, reader surroundings tree = .ok b ∧ get draft' = some b := by
  obtain ⟨b, hread, rfl⟩ := fill_eq_ok.1 hfill
  exact ⟨b, hread, h.get_set draft b⟩

/-- A member either leaves a field as it is, or has its key and fills it in for the first time. -/
theorem fillByKey_cons (h : IsField fields place name reader get set)
    {member : Option String × Tree} {members : List (Option String × Tree)}
    (hfill : fillByKey fields surroundings (member :: members) draft = .ok draft') :
    ∃ next, fillByKey fields surroundings members next = .ok draft' ∧
      ((member.1 ≠ some name ∧ get next = get draft) ∨
        (member.1 = some name ∧ get draft = none ∧
          ∃ b, reader surroundings member.2 = .ok b ∧ get next = some b)) := by
  obtain ⟨_ | key, tree⟩ := member
  · cases hfill
  rw [fillByKey] at hfill
  by_cases hkey : key = name
  · subst hkey
    rw [h.find?_eq] at hfill
    dsimp only at hfill
    split at hfill
    · cases hfill
    · rename_i hisSet
      obtain ⟨next, hnext, hrest⟩ := Except.bind_eq_ok.1 hfill
      exact ⟨next, hrest, .inr ⟨rfl, Option.not_isSome_iff_eq_none.1 hisSet, h.get_of_fill hnext⟩⟩
  · have hother : (some key, tree).1 ≠ some name := fun heq => hkey (Option.some.inj heq)
    split at hfill
    · -- what is no field is skipped
      obtain ⟨-, -, hrest⟩ := Except.bind_eq_ok.1 hfill
      exact ⟨draft, hrest, .inl ⟨hother, rfl⟩⟩
    · rename_i other hfind
      split at hfill
      · cases hfill
      · obtain ⟨next, hnext, hrest⟩ := Except.bind_eq_ok.1 hfill
        have hname : other.name = key := by simpa using List.find?_some hfind
        have hkept := h.others other (List.mem_of_find?_eq_some hfind) (hname ▸ hkey)
        exact ⟨next, hrest, .inl ⟨hother, hkept _ _ _ _ hnext⟩⟩

/-- A field that is filled in stays so, and no member has its key again. -/
theorem fillByKey_set (h : IsField fields place name reader get set)
    {members : List (Option String × Tree)} (hset : get draft = some b)
    (hfill : fillByKey fields surroundings members draft = .ok draft') :
    get draft' = some b ∧ ∀ member ∈ members, member.1 ≠ some name := by
  induction members generalizing draft with
  | nil =>
    cases hfill
    exact ⟨hset, nofun⟩
  | cons member members ih =>
    obtain ⟨next, hrest, ⟨hother, hkept⟩ | ⟨-, hunset, -⟩⟩ := h.fillByKey_cons hfill
    · obtain ⟨hget, hmembers⟩ := ih (hkept.trans hset) hrest
      exact ⟨hget, List.forall_mem_cons.2 ⟨hother, hmembers⟩⟩
    · rw [hset] at hunset
      cases hunset

/-- A field that is not filled in is read from the only member with its key, if there is one. -/
theorem fillByKey_unset (h : IsField fields place name reader get set)
    {members : List (Option String × Tree)} (hunset : get draft = none)
    (hfill : fillByKey fields surroundings members draft = .ok draft') :
    ∃ part?, Tree.HasField name place (.object members none) part? ∧
      reader.Finds surroundings part? (get draft') := by
  induction members generalizing draft with
  | nil =>
    cases hfill
    rw [hunset]
    exact ⟨none, .noMember nofun, .none⟩
  | cons member members ih =>
    -- the first member has another key, or is the one that fills in the field
    obtain ⟨next, hrest, ⟨hother, hkept⟩ | ⟨hname, -, b, hread, hset⟩⟩ := h.fillByKey_cons hfill
    · obtain ⟨part?, hpart, hrel⟩ := ih (hkept.trans hunset) hrest
      refine ⟨part?, ?_, hrel⟩
      cases hpart with
      | noMember absent => exact .noMember (List.forall_mem_cons.2 ⟨hother, absent⟩)
      | member before after =>
        rw [← List.cons_append]
        exact .member (List.forall_mem_cons.2 ⟨hother, before⟩) after
    · obtain ⟨key, part⟩ := member
      obtain rfl : key = some name := hname
      obtain ⟨hget, hmembers⟩ := h.fillByKey_set hset hrest
      rw [hget, ← List.nil_append (_ :: members)]
      exact ⟨some part, .member nofun hmembers, .some hread⟩

/-- The first field is read from the first item, and the other fields leave it alone. -/
theorem of_cons_zero {first : Field δ} (h : IsField (first :: fields) 0 name reader get set) :
    first = field name reader get set ∧ ∀ other ∈ fields, other.name ≠ name := by
  obtain rfl : first = field name reader get set := Option.some.inj h.at_place
  refine ⟨rfl, fun other hother heq => ?_⟩
  have hfresh := (List.nodup_cons.1 h.distinct).1
  exact hfresh (List.mem_map.2 ⟨other, hother, heq⟩)

/-- A field that is not the first one is a field of the others. -/
theorem of_cons_succ {first : Field δ}
    (h : IsField (first :: fields) (place + 1) name reader get set) :
    first.name ≠ name ∧ IsField fields place name reader get set := by
  have hmem : field name reader get set ∈ fields := List.mem_of_getElem? h.at_place
  obtain ⟨hfresh, hdistinct⟩ := List.nodup_cons.1 h.distinct
  refine ⟨fun heq => hfresh (List.mem_map.2 ⟨_, hmem, heq.symm⟩), ?_⟩
  exact ⟨h.at_place, hdistinct, h.get_set,
    fun other hother => h.others other (List.mem_cons_of_mem first hother)⟩

/-- Items that are read by other fields leave a field as it is. -/
theorem get_of_fillInOrder {others : List (Field δ)} {items : List Tree}
    (hothers : ∀ other ∈ others, other.Leaves get)
    (hfill : fillInOrder surroundings others items draft = .ok draft') :
    get draft' = get draft := by
  induction items generalizing others draft with
  | nil =>
    rw [fillInOrder] at hfill
    cases hfill
    rfl
  | cons item items ih =>
    cases others with
    | nil => cases hfill
    | cons other others =>
      rw [List.forall_mem_cons] at hothers
      obtain ⟨next, hnext, hrest⟩ := Except.bind_eq_ok.1 hfill
      exact (ih hothers.2 hrest).trans (hothers.1 _ _ _ _ hnext)

/-- A field is read from the item at its place, if there is one. -/
theorem fillInOrder_unset (h : IsField fields place name reader get set) {items : List Tree}
    (hunset : get draft = none)
    (hfill : fillInOrder surroundings fields items draft = .ok draft') :
    ∃ part?, Tree.HasField name place (.array items none) part? ∧
      reader.Finds surroundings part? (get draft') := by
  -- along the items, for what is left of the fields and for the place among them
  induction items generalizing fields place draft with
  | nil =>
    rw [fillInOrder] at hfill
    cases hfill
    rw [hunset]
    exact ⟨none, .noItem (Nat.zero_le place), .none⟩
  | cons item items ih =>
    cases fields with
    | nil => cases hfill
    | cons first fields =>
      obtain ⟨next, hnext, hrest⟩ := Except.bind_eq_ok.1 hfill
      cases place with
      | zero =>
        obtain ⟨rfl, hothers⟩ := h.of_cons_zero
        obtain ⟨b, hread, hset⟩ := h.get_of_fill hnext
        have hkept := get_of_fillInOrder
          (fun other hother => h.others other (List.mem_cons_of_mem _ hother)
            (hothers other hother)) hrest
        rw [hkept, hset]
        exact ⟨some item, .item rfl, .some hread⟩
      | succ place =>
        obtain ⟨hname, htail⟩ := h.of_cons_succ
        have hkept := h.others first (List.mem_cons_self ..) hname _ _ _ _ hnext
        obtain ⟨part?, hpart, hrel⟩ := ih htail (hkept.trans hunset) hrest
        refine ⟨part?, ?_, hrel⟩
        cases hpart with
        | noItem short => exact .noItem (Nat.succ_le_succ short)
        | item listed => exact .item listed

end IsField

theorem length_le_of_fillInOrder {fields : List (Field δ)} {items : List Tree} {draft draft' : δ}
    (hfill : fillInOrder surroundings fields items draft = .ok draft') :
    items.length ≤ fields.length := by
  induction items generalizing fields draft with
  | nil => exact Nat.zero_le _
  | cons item items ih =>
    cases fields with
    | nil => cases hfill
    | cons field fields =>
      obtain ⟨next, -, hrest⟩ := Except.bind_eq_ok.1 hfill
      exact Nat.succ_le_succ (ih hrest)

/-- A record is made of a draft whose fields were read, each from its own part of the tree. -/
theorem exists_draft_of_fields {fields : List (Field δ)} {empty : δ} {finish : δ → Option α}
    {a : α} (h : record fields empty finish surroundings tree = .ok a) :
    ∃ inner draft, tree.HasRoom fields.length ∧ finish draft = some a ∧
      ∀ {β : Type} {place : Nat} {name : String} {reader : Reader β} {get : δ → Option β}
        {set : δ → β → δ}, IsField fields place name reader get set → get empty = none →
        ∃ part?, tree.HasField name place part? ∧
          reader.Finds inner part? (get draft) := by
  -- a record is read one level below its surroundings
  obtain ⟨inner, hinner⟩ : ∃ inner, surroundings.enter = .ok inner := by
    cases hinner : surroundings.enter with
    | ok inner => exact ⟨inner, rfl⟩
    | error fault => cases tree <;> simp [record, hinner, bind, Except.bind] at h
  cases tree with
  | object members ending =>
    obtain ⟨draft, hfill, rfl, hfinish⟩ := (record_object_eq_ok hinner).1 h
    exact ⟨inner, draft, .object members, hfinish,
      fun hfield hempty => hfield.fillByKey_unset hempty hfill⟩
  | array items ending =>
    obtain ⟨draft, hfill, rfl, hfinish⟩ := (record_array_eq_ok hinner).1 h
    exact ⟨inner, draft, .array (length_le_of_fillInOrder hfill), hfinish,
      fun hfield hempty => hfield.fillInOrder_unset hempty hfill⟩
  | _ => cases h

end Reader

end BuildScope.Json
