import BuildScope.Json.Printer
import BuildScope.Proofs.Except

/-!
# Values and Trees by Structure

Trees and values are nested through lists, so that what is said of them speaks of the items of a
list and of the members of an object. Here are the inductions that do so, and the functions on trees
and values as maps over items and members.

* `Tree.induction`, `Value.induction`: what holds of the parts of a tree or value holds of it.
* `Tree.numbers`, `Value.numbers`: the numbers in a tree or value.
* `itemsToValues_eq_mapM`, `membersToValues_eq_mapM`: arrays and objects are read part by part.
-/

namespace BuildScope.Json

/-- Induction on trees, with a hypothesis for each item and for the value of each member. -/
@[induction_eliminator]
theorem Tree.induction {motive : Tree → Prop} (null : motive .null) (bool : ∀ b, motive (.bool b))
    (number : ∀ n, motive (.number n)) (text : ∀ s, motive (.text s))
    (array : ∀ items ending, (∀ item ∈ items, motive item) → motive (.array items ending))
    (object : ∀ members ending, (∀ member ∈ members, motive member.2) →
      motive (.object members ending))
    (stop : ∀ place, motive (.stop place)) (tree : Tree) : motive tree :=
  @Tree.rec motive (fun items => ∀ item ∈ items, motive item)
    (fun members => ∀ member ∈ members, motive member.2) (fun member => motive member.2)
    null bool number text array object stop
    (by simp) (fun _ _ hitem hitems => List.forall_mem_cons.mpr ⟨hitem, hitems⟩)
    (by simp) (fun _ _ hmember hmembers => List.forall_mem_cons.mpr ⟨hmember, hmembers⟩)
    (fun _ _ h => h) tree

/-- Induction on values, with a hypothesis for each item and for the value of each member. -/
@[induction_eliminator]
theorem Value.induction {motive : Value → Prop} (null : motive .null)
    (bool : ∀ b, motive (.bool b)) (number : ∀ n, motive (.number n))
    (text : ∀ s, motive (.text s))
    (array : ∀ items, (∀ item ∈ items, motive item) → motive (.array items))
    (object : ∀ members, (∀ member ∈ members, motive member.2) → motive (.object members))
    (value : Value) : motive value :=
  @Value.rec motive (fun items => ∀ item ∈ items, motive item)
    (fun members => ∀ member ∈ members, motive member.2) (fun member => motive member.2)
    null bool number text array object
    (by simp) (fun _ _ hitem hitems => List.forall_mem_cons.mpr ⟨hitem, hitems⟩)
    (by simp) (fun _ _ hmember hmembers => List.forall_mem_cons.mpr ⟨hmember, hmembers⟩)
    (fun _ _ h => h) value

/-! ## From trees to values and back -/

/-- The items of an array are spelled one by one. -/
theorem itemsToTrees_eq_map (items : List Value) : itemsToTrees items = items.map Value.toTree := by
  induction items with
  | nil => rfl
  | cons item items ih => rw [itemsToTrees, ih, List.map_cons]

/-- A member of an object of a document that spells it. -/
def memberToTree (member : String × Value) : Option String × Tree :=
  (some member.1, member.2.toTree)

/-- So are the members of an object. -/
theorem membersToTrees_eq_map (members : List (String × Value)) :
    membersToTrees members = members.map memberToTree := by
  induction members with
  | nil => rfl
  | cons member members ih => rw [membersToTrees, ih, List.map_cons, memberToTree]

/-- The items of an array are read one by one. -/
theorem itemsToValues_eq_mapM (depth : Nat) (items : List Tree) :
    itemsToValues depth items = items.mapM (Tree.toValue depth) := by
  induction items with
  | nil => rfl
  | cons item items ih =>
    rw [itemsToValues, ih, List.mapM_cons]
    rfl

/-- The value of a member, with its key. -/
def memberToValue (depth : Nat) : Option String × Tree → Except Fault (String × Value)
  | (none, _) => .error .malformed
  | (some key, tree) => do
    let value ← tree.toValue depth
    .ok (key, value)

/-- So are the members of an object. -/
theorem membersToValues_eq_mapM (depth : Nat) (members : List (Option String × Tree)) :
    membersToValues depth members = members.mapM (memberToValue depth) := by
  induction members with
  | nil => rfl
  | cons member members ih =>
    rw [List.mapM_cons]
    obtain ⟨_ | key, tree⟩ := member
    · rfl
    · rw [membersToValues, ih, memberToValue]
      cases tree.toValue depth <;> rfl

@[simp]
theorem toTree_array (items : List Value) :
    (Value.array items).toTree = .array (items.map Value.toTree) none := by
  rw [Value.toTree, itemsToTrees_eq_map]

@[simp]
theorem toTree_object (members : List (String × Value)) :
    (Value.object members).toTree = .object (members.map memberToTree) none := by
  rw [Value.toTree, membersToTrees_eq_map]

/-- A value ends well if nothing has stopped the parser. -/
theorem endOf_eq_ok {ending : Option Stop} {u : Unit} :
    endOf ending = .ok u ↔ ending = none := by
  cases ending with
  | none => exact iff_of_true rfl rfl
  | some stop => exact iff_of_false nofun nofun

/-- An array has a value exactly if it ends well and each of its items has a value. -/
theorem Tree.toValue_array_eq_ok {items : List Tree} {ending : Option Stop} {depth : Nat}
    {value : Value} :
    (Tree.array items ending).toValue depth = .ok value ↔
      ∃ inner values, depth = inner + 1 ∧ items.mapM (Tree.toValue inner) = .ok values ∧
        ending = none ∧ .array values = value := by
  cases depth with
  | zero => simp [Tree.toValue]
  | succ inner =>
    simp only [Tree.toValue, itemsToValues_eq_mapM, Except.bind_eq_ok, endOf_eq_ok,
      Except.ok.injEq, Nat.add_right_cancel_iff, exists_and_left, exists_eq_left', exists_const]

/-- An object has a value exactly if it ends well and each of its members has a value. -/
theorem Tree.toValue_object_eq_ok {members : List (Option String × Tree)} {ending : Option Stop}
    {depth : Nat} {value : Value} :
    (Tree.object members ending).toValue depth = .ok value ↔
      ∃ inner values, depth = inner + 1 ∧ members.mapM (memberToValue inner) = .ok values ∧
        ending = none ∧ .object (sortMembers values) = value := by
  cases depth with
  | zero => simp [Tree.toValue]
  | succ inner =>
    simp only [Tree.toValue, membersToValues_eq_mapM, Except.bind_eq_ok, endOf_eq_ok,
      Except.ok.injEq, Nat.add_right_cancel_iff, exists_and_left, exists_eq_left', exists_const]

/-- A tree without parts has the value that it spells, if it has any. -/
theorem Tree.toTree_eq_of_leaf {tree : Tree} {depth : Nat} {value : Value}
    (h : tree.toValue depth = .ok value) (harray : ∀ items ending, tree ≠ .array items ending)
    (hobject : ∀ members ending, tree ≠ .object members ending) : value.toTree = tree := by
  cases tree with
  | null | bool b =>
    cases h
    rfl
  | number n =>
    cases n <;> cases h
    rfl
  | text s =>
    cases s <;> cases h
    rfl
  | array items ending => exact absurd rfl (harray items ending)
  | object members ending => exact absurd rfl (hobject members ending)
  | stop place => cases h

/-- A member is read if it has a key and its value is read. -/
theorem memberToValue_eq_ok {depth : Nat} {member : Option String × Tree}
    {entry : String × Value} :
    memberToValue depth member = .ok entry ↔
      member.1 = some entry.1 ∧ member.2.toValue depth = .ok entry.2 := by
  obtain ⟨_ | key, tree⟩ := member
  · simp [memberToValue]
  · obtain ⟨name, value⟩ := entry
    simp only [memberToValue, Except.bind_eq_ok, Except.ok.injEq, Prod.mk.injEq, Option.some.injEq]
    constructor
    · rintro ⟨value, h, rfl, rfl⟩
      exact ⟨rfl, h⟩
    · rintro ⟨rfl, h⟩
      exact ⟨value, h, rfl, rfl⟩

/-! ## Printing -/

/-- The items of an array are printed one by one. -/
theorem prettyItems_eq_map (level : Nat) (items : List Value) :
    prettyItems level items = items.map (printPretty level) := by
  induction items with
  | nil => rfl
  | cons item items ih => rw [prettyItems, ih, List.map_cons]

/-- A member over several lines. -/
def prettyMember (level : Nat) (member : String × Value) : List Char :=
  printText member.1 ++ [':', ' '] ++ printPretty level member.2

/-- So are the members of an object. -/
theorem prettyMembers_eq_map (level : Nat) (members : List (String × Value)) :
    prettyMembers level members = members.map (prettyMember level) := by
  induction members with
  | nil => rfl
  | cons member members ih => rw [prettyMembers, ih, List.map_cons, prettyMember]

/-! ## Numbers -/

mutual

/-- The numbers in a tree. -/
def Tree.numbers : Tree → List Number
  | .number (some n) => [n]
  | .array items _ => itemsNumbers items
  | .object members _ => membersNumbers members
  | .null | .bool _ | .number none | .text _ | .stop _ => []

/-- The numbers in some items. -/
def itemsNumbers : List Tree → List Number
  | [] => []
  | item :: items => item.numbers ++ itemsNumbers items

/-- The numbers in some members. -/
def membersNumbers : List (Option String × Tree) → List Number
  | [] => []
  | (_, tree) :: members => tree.numbers ++ membersNumbers members

end

/-- The numbers of some items are those of each. -/
theorem itemsNumbers_eq_flatMap (items : List Tree) :
    itemsNumbers items = items.flatMap Tree.numbers := by
  induction items with
  | nil => rfl
  | cons item items ih => rw [itemsNumbers, ih, List.flatMap_cons]

/-- The numbers of some members are those of the value of each. -/
theorem membersNumbers_eq_flatMap (members : List (Option String × Tree)) :
    membersNumbers members = members.flatMap fun member => member.2.numbers := by
  induction members with
  | nil => rfl
  | cons member members ih => rw [membersNumbers, ih, List.flatMap_cons]

theorem Tree.numbers_array (items : List Tree) (ending : Option Stop) :
    (Tree.array items ending).numbers = items.flatMap Tree.numbers := by
  rw [Tree.numbers, itemsNumbers_eq_flatMap]

theorem Tree.numbers_object (members : List (Option String × Tree)) (ending : Option Stop) :
    (Tree.object members ending).numbers = members.flatMap fun member => member.2.numbers := by
  rw [Tree.numbers, membersNumbers_eq_flatMap]

namespace Value

/-- The numbers in a value. -/
def numbers (value : Value) : List Number :=
  value.toTree.numbers

theorem numbers_array (items : List Value) : (array items).numbers = items.flatMap numbers := by
  rw [numbers, toTree_array, Tree.numbers_array, List.flatMap_map]
  rfl

theorem numbers_object (members : List (String × Value)) :
    (object members).numbers = members.flatMap fun member => member.2.numbers := by
  rw [numbers, toTree_object, Tree.numbers_object, List.flatMap_map]
  rfl

/-- A number of an array is one of some item. -/
@[simp]
theorem mem_numbers_array {n : Number} {items : List Value} :
    n ∈ (array items).numbers ↔ ∃ item ∈ items, n ∈ item.numbers := by
  rw [numbers_array, List.mem_flatMap]

/-- A number of an object is one of some member. -/
@[simp]
theorem mem_numbers_object {n : Number} {members : List (String × Value)} :
    n ∈ (object members).numbers ↔ ∃ member ∈ members, n ∈ member.2.numbers := by
  rw [numbers_object, List.mem_flatMap]

end Value

end BuildScope.Json
