import BuildScope.Proofs.Json.Fields
import Mathlib.Data.List.Nodup

/-!
# Records That Are Read

A tree that spells a value is read as a record if each field can be read from its part of the tree.
The members that are no fields do not matter then, nor does the order of the members.

* `Tree.IsValue`: a tree can be read as a value of free shape.
* `Reader.Offered`: a field can be read from its part of a tree.
* `Reader.exists_draft_of_offered`: a record can be read if all its fields can.
-/

namespace BuildScope.Json

variable {surroundings inner : Surroundings} {tree part : Tree} {key : String} {place : Nat}

/-! ## Trees that spell values -/

namespace Tree

/-- A tree can be read as a value of free shape. -/
def IsValue (surroundings : Surroundings) (tree : Tree) : Prop :=
  ∃ value, Reader.value surroundings tree = .ok value

theorem IsValue.of_array {items : List Tree} {ending : Option Stop}
    (h : (array items ending).IsValue surroundings) :
    ∃ inner, surroundings.enter = .ok inner ∧ ∀ item ∈ items, item.IsValue inner := by
  obtain ⟨value, hvalue⟩ := h
  obtain ⟨depth, values, hdepth, hitems, -⟩ := toValue_array_eq_ok.1 hvalue
  refine ⟨{ surroundings with depth }, by rw [Surroundings.enter, hdepth], fun item hitem => ?_⟩
  obtain ⟨value, -, hitem⟩ := Except.exists_of_mapM_of_mem hitems hitem
  exact ⟨value, hitem⟩

theorem IsValue.of_object {members : List (Option String × Tree)} {ending : Option Stop}
    (h : (object members ending).IsValue surroundings) :
    ∃ inner, surroundings.enter = .ok inner ∧
      ∀ member ∈ members, (∃ key, member.1 = some key) ∧ member.2.IsValue inner := by
  obtain ⟨value, hvalue⟩ := h
  obtain ⟨depth, values, hdepth, hmembers, -⟩ := toValue_object_eq_ok.1 hvalue
  refine ⟨{ surroundings with depth }, by rw [Surroundings.enter, hdepth], fun member hmember => ?_⟩
  obtain ⟨entry, -, hentry⟩ := Except.exists_of_mapM_of_mem hmembers hmember
  obtain ⟨hkey, hvalue⟩ := memberToValue_eq_ok.1 hentry
  exact ⟨⟨entry.1, hkey⟩, entry.2, hvalue⟩

theorem itemsSkipFault?_eq_none {items : List Tree} :
    itemsSkipFault? items = none ↔ ∀ item ∈ items, item.skipFault? = none := by
  induction items with
  | nil => simp [itemsSkipFault?]
  | cons item items ih => rw [itemsSkipFault?, Option.or_eq_none_iff, ih, List.forall_mem_cons]

theorem membersSkipFault?_eq_none {members : List (Option String × Tree)} :
    membersSkipFault? members = none ↔ ∀ member ∈ members, member.2.skipFault? = none := by
  induction members with
  | nil => simp [membersSkipFault?]
  | cons member members ih =>
    rw [membersSkipFault?, Option.or_eq_none_iff, ih, List.forall_mem_cons]

theorem skipFault?_eq_none {depth : Nat} {value : Value} (h : tree.toValue depth = .ok value) :
    tree.skipFault? = none := by
  induction tree generalizing depth value with
  | array items ending ih =>
    obtain ⟨inner, values, -, hitems, rfl, -⟩ := toValue_array_eq_ok.1 h
    rw [skipFault?, Option.or_eq_none_iff, itemsSkipFault?_eq_none]
    refine ⟨fun item hitem => ?_, rfl⟩
    obtain ⟨value, -, hvalue⟩ := Except.exists_of_mapM_of_mem hitems hitem
    exact ih item hitem hvalue
  | object members ending ih =>
    obtain ⟨inner, values, -, hmembers, rfl, -⟩ := toValue_object_eq_ok.1 h
    rw [skipFault?, Option.or_eq_none_iff, membersSkipFault?_eq_none]
    refine ⟨fun member hmember => ?_, rfl⟩
    obtain ⟨entry, -, hentry⟩ := Except.exists_of_mapM_of_mem hmembers hmember
    exact ih member hmember (memberToValue_eq_ok.1 hentry).2
  | stop place => cases h
  | _ => rfl

/-- What can be read can be skipped. -/
theorem IsValue.skip (h : tree.IsValue surroundings) : tree.skip = .ok () := by
  obtain ⟨value, hvalue⟩ := h
  rw [Tree.skip, skipFault?_eq_none hvalue]

/-! ## Parts of trees -/

theorem HasRoom.exists_enter {count : Nat} (h : tree.HasRoom count)
    (hvalue : tree.IsValue surroundings) : ∃ inner, surroundings.enter = .ok inner := by
  cases h with
  | object members => exact hvalue.of_object.imp fun _ h => h.1
  | array short => exact hvalue.of_array.imp fun _ h => h.1

namespace HasField

variable {part? part?' : Option Tree}

/-- The parts of a value are values, nested less deep. -/
theorem isValue (h : tree.HasField key place (some part)) (hvalue : tree.IsValue surroundings)
    (henter : surroundings.enter = .ok inner) : part.IsValue inner := by
  cases h with
  | member before after =>
    obtain ⟨inner', henter', hmembers⟩ := hvalue.of_object
    obtain rfl : inner = inner' := Except.ok.inj (henter.symm.trans henter')
    exact (hmembers (some key, part) (by simp)).2
  | item listed =>
    obtain ⟨inner', henter', hitems⟩ := hvalue.of_array
    obtain rfl : inner = inner' := Except.ok.inj (henter.symm.trans henter')
    exact hitems part (List.mem_of_getElem? listed)

/-- The part of an object for a key is that of its first member, or of the others. -/
theorem of_cons {member : Option String × Tree} {members : List (Option String × Tree)}
    (h : HasField key place (.object (member :: members) none) part?) :
    (member.1 ≠ some key ∧ HasField key place (.object members none) part?) ∨
      (member.1 = some key ∧ part? = some member.2 ∧
        HasField key place (.object members none) none) := by
  -- where the part was found says nothing yet about the first member
  generalize hmembers : member :: members = all at h
  cases h with
  | noMember absent =>
    subst hmembers
    obtain ⟨hmember, hrest⟩ := List.forall_mem_cons.1 absent
    exact .inl ⟨hmember, .noMember hrest⟩
  | @member front back part before after =>
    cases front with
    | nil =>
      cases hmembers
      exact .inr ⟨rfl, rfl, .noMember after⟩
    | cons first front =>
      cases hmembers
      obtain ⟨hfirst, hfront⟩ := List.forall_mem_cons.1 before
      exact .inl ⟨hfirst, .member hfront after⟩

theorem unique_of_object {members : List (Option String × Tree)}
    (h : HasField key place (.object members none) part?)
    (h' : HasField key place (.object members none) part?') : part? = part?' := by
  induction members generalizing part? part?' with
  | nil =>
    -- an object without members has no field
    have hnone {part? : Option Tree} (h : HasField key place (.object [] none) part?) :
        part? = none := by
      generalize hmembers : [] = members at h
      cases h with
      | noMember absent => rfl
      | member before after => simp at hmembers
    rw [hnone h, hnone h']
  | cons member members ih =>
    -- the first member either has the key in both cases or in none
    obtain ⟨hother, hrest⟩ | ⟨hkey, hpart, -⟩ := h.of_cons
    · obtain ⟨-, hrest'⟩ | ⟨hkey', -⟩ := h'.of_cons
      · exact ih hrest hrest'
      · exact absurd hkey' hother
    · obtain ⟨hother', -⟩ | ⟨-, hpart', -⟩ := h'.of_cons
      · exact absurd hkey hother'
      · rw [hpart, hpart']

theorem eq_getElem? {items : List Tree} (h : HasField key place (.array items none) part?) :
    part? = items[place]? := by
  cases h with
  | noItem short => rw [List.getElem?_eq_none short]
  | item listed => rw [listed]

/-- A tree has no two parts for one field. -/
theorem unique (h : tree.HasField key place part?) (h' : tree.HasField key place part?') :
    part? = part?' := by
  cases tree with
  | object members ending =>
    obtain rfl : ending = none := by cases h <;> rfl
    exact unique_of_object h h'
  | array items ending =>
    obtain rfl : ending = none := by cases h <;> rfl
    exact h.eq_getElem?.trans h'.eq_getElem?.symm
  | _ => cases h

end HasField

end Tree

/-! ## Reading records -/

namespace Reader

variable {α β δ : Type} {fields : List (Field δ)} {empty draft : δ} {name : String}
  {reader : Reader β} {get : δ → Option β} {set : δ → β → δ} {b : β}

/-- The items of an array are read as a list. -/
theorem list_of_items {item : Reader α} {Item : Tree → α → Prop} {l : List α}
    (hvalue : tree.IsValue surroundings)
    (hitem : ∀ {surroundings part a}, part.IsValue surroundings → Item part a →
      item surroundings part = .ok a)
    (h : Tree.Items Item (some tree) l) : list item surroundings tree = .ok l := by
  obtain _ | ⟨each⟩ := h
  obtain ⟨inner, henter, hitems⟩ := hvalue.of_array
  refine list_eq_ok_iff.2 ⟨inner, _, henter, rfl, ?_⟩
  exact ((List.forall₂_and_left _ _).2 ⟨hitems, each⟩).imp fun _ _ h => hitem h.1 h.2

/-- So are those of an array that may be missing, as no items then. -/
theorem exists_finds_of_items {item : Reader α} {Item : Tree → α → Prop} {part? : Option Tree}
    {l : List α} (hvalue : ∀ part ∈ part?, part.IsValue surroundings)
    (hitem : ∀ {surroundings part a}, part.IsValue surroundings → Item part a →
      item surroundings part = .ok a)
    (h : Tree.Items Item part? l) :
    ∃ l?, (list item).Finds surroundings part? l? ∧ l?.getD [] = l := by
  cases part? with
  | none =>
    cases h
    exact ⟨none, .none, rfl⟩
  | some part => exact ⟨some l, .some (list_of_items (hvalue part rfl) hitem h), rfl⟩

/-- A field can be filled in from a tree, whatever is filled in already. -/
def Field.Reads (f : Field δ) (surroundings : Surroundings) (tree : Tree) : Prop :=
  ∀ draft, ∃ draft', f.fill surroundings tree draft = .ok draft'

/-- No other field fills in a field. -/
def Spared (fields : List (Field δ)) (f : Field δ) : Prop :=
  ∀ other ∈ fields, other.name ≠ f.name → ∀ surroundings tree draft draft',
    other.fill surroundings tree draft = .ok draft' → f.isSet draft' = f.isSet draft

/-- A field is filled in by no member, or by one that it can read and before which it is not
filled in. -/
def Awaits (f : Field δ) (surroundings : Surroundings) (members : List (Option String × Tree))
    (draft : δ) : Prop :=
  ∃ place part?, Tree.HasField f.name place (.object members none) part? ∧
    ∀ part ∈ part?, f.isSet draft = false ∧ f.Reads surroundings part

/-- A member with another key changes nothing for a field. -/
theorem Awaits.of_ne {f : Field δ} {draft' : δ} {member : Option String × Tree}
    {members : List (Option String × Tree)} (h : Awaits f surroundings (member :: members) draft)
    (hkey : member.1 ≠ some f.name) (hset : f.isSet draft' = f.isSet draft) :
    Awaits f surroundings members draft' := by
  obtain ⟨place, part?, hpart, hread⟩ := h
  obtain ⟨-, hrest⟩ | ⟨hkey', -⟩ := hpart.of_cons
  · exact ⟨place, part?, hrest, by rwa [hset]⟩
  · exact absurd hkey' hkey

/-- A member with its key can be read, and is the only one. -/
theorem Awaits.of_eq {f : Field δ} {member : Option String × Tree}
    {members : List (Option String × Tree)} (h : Awaits f surroundings (member :: members) draft)
    (hkey : member.1 = some f.name) :
    f.isSet draft = false ∧ f.Reads surroundings member.2 ∧
      ∀ draft', Awaits f surroundings members draft' := by
  obtain ⟨place, part?, hpart, hread⟩ := h
  obtain ⟨hkey', -⟩ | ⟨-, rfl, hrest⟩ := hpart.of_cons
  · exact absurd hkey hkey'
  · obtain ⟨hunset, hreads⟩ := hread member.2 rfl
    exact ⟨hunset, hreads, fun draft' => ⟨place, none, hrest, nofun⟩⟩

/-- The members of an object fill in all fields that await them. -/
theorem exists_fillByKey {members : List (Option String × Tree)}
    (hspared : ∀ f ∈ fields, Spared fields f)
    (hvalue : ∀ member ∈ members, (∃ key, member.1 = some key) ∧ member.2.IsValue surroundings)
    (hawaits : ∀ f ∈ fields, Awaits f surroundings members draft) :
    ∃ draft', fillByKey fields surroundings members draft = .ok draft' := by
  induction members generalizing draft with
  | nil => exact ⟨draft, rfl⟩
  | cons member members ih =>
    obtain ⟨⟨⟨key, hkey⟩, htree⟩, hvalues⟩ := List.forall_mem_cons.1 hvalue
    obtain ⟨key?, tree⟩ := member
    obtain rfl : key? = some key := hkey
    rw [fillByKey]
    split
    next hnone =>
      -- the member is no field
      rw [htree.skip]
      refine ih hvalues fun f hf => (hawaits f hf).of_ne (fun heq => ?_) rfl
      have hname := List.find?_eq_none.1 hnone f hf
      rw [Option.some.inj heq, beq_self_eq_true] at hname
      exact hname rfl
    next f hfind =>
      have hf := List.mem_of_find?_eq_some hfind
      obtain rfl : f.name = key := by simpa using List.find?_some hfind
      obtain ⟨hunset, hreads, -⟩ := (hawaits f hf).of_eq rfl
      obtain ⟨next, hnext⟩ := hreads draft
      rw [hunset, if_neg Bool.false_ne_true, hnext]
      refine ih hvalues fun g hg => ?_
      -- the member was the only one for its key, and its field leaves other fields alone
      by_cases hname : f.name = g.name
      · exact ((hawaits g hg).of_eq (congrArg some hname)).2.2 next
      · exact (hawaits g hg).of_ne (fun heq => hname (Option.some.inj heq))
          (hspared g hg f hf hname _ _ _ _ hnext)

/-- The items of an array fill in the fields, as far as they go. -/
theorem exists_fillInOrder {items : List Tree} (hshort : items.length ≤ fields.length)
    (hreads : ∀ (place : Nat) (f : Field δ) (item : Tree), fields[place]? = some f →
      items[place]? = some item → f.Reads surroundings item) :
    ∃ draft', fillInOrder surroundings fields items draft = .ok draft' := by
  induction items generalizing fields draft with
  | nil => exact ⟨draft, by rw [fillInOrder]⟩
  | cons item items ih =>
    cases fields with
    | nil => cases hshort
    | cons f fields =>
      obtain ⟨next, hnext⟩ := hreads 0 f item rfl rfl draft
      rw [fillInOrder, hnext]
      exact ih (Nat.le_of_succ_le_succ hshort) fun place f item hf hitem =>
        hreads (place + 1) f item hf hitem

/-- A field is not filled in yet, and can be read from its part of a tree. -/
structure Offered (fields : List (Field δ)) (empty : δ) (surroundings : Surroundings) (tree : Tree)
    (f : Field δ) : Prop where
  unset : f.isSet empty = false
  spared : Spared fields f
  readable : ∀ place, fields[place]? = some f →
    ∃ part?, tree.HasField f.name place part? ∧ ∀ part ∈ part?, f.Reads surroundings part

/-- A field that something is found for is offered to the record. -/
theorem IsField.offered {part? : Option Tree} {b? : Option β}
    (h : IsField fields place name reader get set) (hunset : get empty = none)
    (hpart : tree.HasField name place part?)
    (hfinds : reader.Finds surroundings part? b?) :
    Offered fields empty surroundings tree (field name reader get set) := by
  refine ⟨congrArg Option.isSome hunset, fun other hother hname _ _ _ _ hfill =>
    congrArg Option.isSome (h.others other hother hname _ _ _ _ hfill), fun place' hplace => ?_⟩
  -- the names of the fields are distinct, so that it is not at two places
  obtain ⟨hlt, -⟩ := List.getElem?_eq_some_iff.1 hplace
  obtain rfl : place' = place :=
    (List.getElem?_inj hlt (.of_map _ h.distinct)).1 (hplace.trans h.at_place.symm)
  refine ⟨part?, hpart, fun part hmem draft => ?_⟩
  obtain rfl := hmem
  obtain ⟨hread⟩ := hfinds
  exact ⟨_, fill_eq_ok.2 ⟨_, hread, rfl⟩⟩

/-- A part is read in one way. -/
theorem Finds.unique {part? : Option Tree} {b? b?' : Option β}
    (h : reader.Finds surroundings part? b?) (h' : reader.Finds surroundings part? b?') :
    b? = b?' := by
  cases h with
  | none =>
    cases h'
    rfl
  | some hread =>
    obtain ⟨hread'⟩ := h'
    exact congrArg some (Except.ok.inj (hread.symm.trans hread'))

/-- A record is made of what its fields can be read as. -/
theorem exists_draft_of_offered (henter : surroundings.enter = .ok inner)
    (hvalue : tree.IsValue surroundings)
    (hoffered : ∀ f ∈ fields, Offered fields empty inner tree f)
    (hroom : tree.HasRoom fields.length) :
    ∃ draft, (∀ {α : Type} {finish : δ → Option α} {a : α}, finish draft = some a →
        record fields empty finish surroundings tree = .ok a) ∧
      ∀ {β : Type} {place : Nat} {name : String} {reader : Reader β} {get : δ → Option β}
        {set : δ → β → δ} {part? : Option Tree} {b? : Option β},
        IsField fields place name reader get set → get empty = none →
        tree.HasField name place part? →
        reader.Finds inner part? b? → get draft = b? := by
  cases hroom with
  | object members =>
    obtain ⟨inner', henter', hmembers⟩ := hvalue.of_object
    obtain rfl : inner = inner' := Except.ok.inj (henter.symm.trans henter')
    -- each field waits for the member that has its name
    have hawaits (f : Field δ) (hf : f ∈ fields) : Awaits f inner members empty := by
      obtain ⟨place, hplace⟩ := List.mem_iff_getElem?.1 hf
      obtain ⟨part?, hpart, hreads⟩ := (hoffered f hf).readable place hplace
      exact ⟨place, part?, hpart, fun part hmem => ⟨(hoffered f hf).unset, hreads part hmem⟩⟩
    obtain ⟨draft, hfill⟩ := exists_fillByKey (fun f hf => (hoffered f hf).spared) hmembers hawaits
    refine ⟨draft, fun hfinish => (record_object_eq_ok henter).2 ⟨draft, hfill, rfl, hfinish⟩,
      fun hfield hunset hpart hfinds => ?_⟩
    obtain ⟨part?, hpart', hfinds'⟩ := hfield.fillByKey_unset hunset hfill
    obtain rfl := hpart.unique hpart'
    exact hfinds'.unique hfinds
  | array short =>
    obtain ⟨draft, hfill⟩ : ∃ draft, fillInOrder inner fields _ empty = .ok draft :=
      exists_fillInOrder short fun place f item hf hitem => by
        obtain ⟨part?, hpart, hreads⟩ := (hoffered f (List.mem_of_getElem? hf)).readable place hf
        exact hreads item (hpart.eq_getElem?.trans hitem)
    refine ⟨draft, fun hfinish => (record_array_eq_ok henter).2 ⟨draft, hfill, rfl, hfinish⟩,
      fun hfield hunset hpart hfinds => ?_⟩
    obtain ⟨part?, hpart', hfinds'⟩ := hfield.fillInOrder_unset hunset hfill
    obtain rfl := hpart.unique hpart'
    exact hfinds'.unique hfinds

end Reader

end BuildScope.Json
