import BuildScope.Json.Value

/-!
# Readers

Readers of values whose shape is known. A reader walks a tree from the left, so that the first
problem of the document is the one reported.

* `Reader.record`: a record, read from an object, or from an array of its fields in order.
* `Reader.ofDocument`: a whole document, which nothing but white space may follow.
* `Reader.ofValue`: a value that has been read already.
-/

namespace BuildScope.Json

/-- What a reader needs to know of its surroundings. -/
structure Surroundings where
  /-- How deep arrays and objects may still be nested. -/
  depth : Nat
  /-- The fault of an array that has more items than the record has fields. -/
  overlong : Fault

/-- A reader of values of a type. -/
abbrev Reader (α : Type) := Surroundings → Tree → Except Fault α

/-- Deepest nesting of arrays and objects. -/
def maxDepth : Nat := 127

namespace Surroundings

/-- The surroundings of a value in a document. -/
def document : Surroundings := ⟨maxDepth, .malformed⟩

/-- The surroundings of a value that has been read already. -/
def value : Surroundings := ⟨maxDepth, .mismatched⟩

/-- The surroundings inside of an array or an object. -/
def enter (surroundings : Surroundings) : Except Fault Surroundings :=
  match surroundings.depth with
  | 0 => .error .malformed
  | depth + 1 => .ok { surroundings with depth }

end Surroundings

namespace Reader

variable {α β δ : Type}

/-- A text. -/
def text : Reader String := fun _ tree =>
  match tree with
  | .text (some s) => .ok s
  | tree => .error tree.mismatch

/-- A truth value. -/
def bool : Reader Bool := fun _ tree =>
  match tree with
  | .bool b => .ok b
  | tree => .error tree.mismatch

/-- An integer that `convert` accepts. Numerals with a fraction or an exponent are none. -/
def integer (convert : Int → Option α) : Reader α := fun _ tree =>
  match tree with
  | .number (some (.integer n)) =>
    match convert n with
    | some a => .ok a
    | none => .error .mismatched
  | tree => .error tree.mismatch

/-- A signed integer of 64 bits. -/
def int64 : Reader Int64 :=
  integer fun n =>
    if -0x8000000000000000 ≤ n ∧ n < 0x8000000000000000 then some (.ofInt n) else none

/-- An unsigned integer of 64 bits. -/
def uint64 : Reader UInt64 :=
  integer fun n => if 0 ≤ n ∧ n < UInt64.size then some (.ofNat n.toNat) else none

/-- An unsigned integer of 32 bits. -/
def uint32 : Reader UInt32 :=
  integer fun n => if 0 ≤ n ∧ n < UInt32.size then some (.ofNat n.toNat) else none

/-- A value of free shape. -/
def value : Reader Value := fun surroundings tree =>
  tree.toValue surroundings.depth

/-- An object of free shape. -/
def members : Reader (List (String × Value)) := fun surroundings tree =>
  match tree with
  | .object members ending => do
    let inner ← surroundings.enter
    let values ← membersToValues inner.depth members
    endOf ending
    .ok (sortMembers values)
  | tree => .error tree.mismatch

/-- An array of values of one kind. -/
def list (item : Reader α) : Reader (List α) := fun surroundings tree =>
  match tree with
  | .array items ending => do
    let inner ← surroundings.enter
    let values ← items.mapM (item inner)
    endOf ending
    .ok values
  | tree => .error tree.mismatch

/-- A field of a record, which is filled into a draft of it. -/
structure Field (δ : Type) where
  /-- Key of the field. -/
  name : String
  /-- Whether the field is filled in. -/
  isSet : δ → Bool
  /-- Fill in the field. -/
  fill : Surroundings → Tree → δ → Except Fault δ

/-- The field of a draft that `get` and `set` reach. -/
def field (name : String) (reader : Reader β) (get : δ → Option β) (set : δ → β → δ) :
    Field δ where
  name
  isSet draft := (get draft).isSome
  fill surroundings tree draft := do
    let b ← reader surroundings tree
    .ok (set draft b)

/-- Fill in the fields of a record from the members of an object. Members that are no fields are
skipped, and a field must not come twice. -/
def fillByKey (fields : List (Field δ)) (surroundings : Surroundings) :
    List (Option String × Tree) → δ → Except Fault δ
  | [], draft => .ok draft
  | (none, _) :: _, _ => .error .malformed
  | (some key, tree) :: members, draft =>
    match fields.find? (·.name == key) with
    | none => do
      -- what is skipped still has to be well formed
      tree.skip
      fillByKey fields surroundings members draft
    | some field =>
      -- a key that comes twice is refused before its value is looked at
      if field.isSet draft then .error .mismatched
      else do
        let draft ← field.fill surroundings tree draft
        fillByKey fields surroundings members draft

/-- Fill in the fields of a record from the items of an array, as far as they go. -/
def fillInOrder (surroundings : Surroundings) :
    List (Field δ) → List Tree → δ → Except Fault δ
  | _, [], draft => .ok draft
  | [], _ :: _, _ => .error surroundings.overlong
  | field :: fields, tree :: items, draft => do
    let draft ← field.fill surroundings tree draft
    fillInOrder surroundings fields items draft

/-- A record with the given fields. `finish` supplies what may be left out, and refuses a draft
that lacks more. -/
def record (fields : List (Field δ)) (empty : δ) (finish : δ → Option α) : Reader α :=
  fun surroundings tree => do
    let draft ← match tree with
      | .object members ending => do
        let inner ← surroundings.enter
        let draft ← fillByKey fields inner members empty
        endOf ending
        .ok draft
      | .array items ending => do
        let inner ← surroundings.enter
        let draft ← fillInOrder inner fields items empty
        endOf ending
        .ok draft
      | tree => .error tree.mismatch
    match finish draft with
    | some a => .ok a
    | none => .error .mismatched

/-- A whole document. -/
def ofDocument (reader : Reader α) (document : Text.Document) : Except Fault α := do
  let parsed := parse document
  let a ← reader .document parsed.tree
  if parsed.rest.isEmpty then .ok a else .error .malformed

/-- A value that has been read already. -/
def ofValue (reader : Reader α) (value : Value) : Except Fault α :=
  reader .value value.toTree

end Reader

end BuildScope.Json
