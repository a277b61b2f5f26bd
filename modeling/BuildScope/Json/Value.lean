import BuildScope.Json.Tree
import Std.Data.TreeMap

/-!
# Values

The values of a document whose shape is free. The members of an object are sorted by their keys, and
of members with one key the last one counts.

* `Tree.toValue`: the value of a tree, nested at most so deep.
* `sortMembers_sorted`: the members of an object are sorted.
* `Value.toTree`: a value seen as the tree of a document.
-/

namespace BuildScope.Json

/-- A value of free shape. -/
inductive Value where
  /-- The value `null`. -/
  | null
  /-- A truth value. -/
  | bool (value : Bool)
  /-- A number. -/
  | number (value : Number)
  /-- A text. -/
  | text (value : String)
  /-- An array. -/
  | array (items : List Value)
  /-- An object. -/
  | object (members : List (String × Value))
  deriving BEq, Repr, Inhabited

namespace Value

/-- The member of an object with a given key. -/
def get? (value : Value) (key : String) : Option Value :=
  match value with
  | .object members => members.lookup key
  | _ => none

/-- The text that a value is. -/
def asText? : Value → Option String
  | .text s => some s
  | _ => none

/-- The items of the array that a value is. -/
def asArray? : Value → Option (List Value)
  | .array items => some items
  | _ => none

/-- The value that is an integer. -/
def int (n : Int) : Value :=
  .number (.integer n)

end Value

/-- Members sorted by their keys, the last of those with one key. -/
def sortMembers (members : List (String × Value)) : List (String × Value) :=
  (Std.TreeMap.ofList members).toList

/-- Sorted members have increasing keys. -/
theorem sortMembers_sorted (members : List (String × Value)) :
    (sortMembers members).Pairwise fun a b => compare a.1 b.1 = .lt :=
  Std.TreeMap.ordered_keys_toList

/-- What follows the last item or member is the end, or the fault of the place. -/
def endOf (ending : Option Stop) : Except Fault Unit :=
  match ending with
  | none => .ok ()
  | some stop => .error stop.onRead

mutual

/-- The value of a tree. Arrays and objects may be nested `depth` deep. -/
def Tree.toValue (depth : Nat) : Tree → Except Fault Value
  | .null => .ok .null
  | .bool b => .ok (.bool b)
  | .number (some n) => .ok (.number n)
  | .text (some s) => .ok (.text s)
  | .array items ending =>
    match depth with
    | 0 => .error .malformed
    | depth + 1 => do
      let values ← itemsToValues depth items
      endOf ending
      .ok (.array values)
  | .object members ending =>
    match depth with
    | 0 => .error .malformed
    | depth + 1 => do
      let values ← membersToValues depth members
      endOf ending
      .ok (.object (sortMembers values))
  | .number none | .text none => .error .malformed
  | .stop place => .error place.onRead

/-- The values of some items. -/
def itemsToValues (depth : Nat) : List Tree → Except Fault (List Value)
  | [] => .ok []
  | item :: items => do
    let value ← item.toValue depth
    let values ← itemsToValues depth items
    .ok (value :: values)

/-- The values of some members, with their keys. -/
def membersToValues (depth : Nat) :
    List (Option String × Tree) → Except Fault (List (String × Value))
  | [] => .ok []
  | (none, _) :: _ => .error .malformed
  | (some key, tree) :: members => do
    let value ← tree.toValue depth
    let values ← membersToValues depth members
    .ok ((key, value) :: values)

end

mutual

/-- A value as the tree of a document that spells it. -/
def Value.toTree : Value → Tree
  | .null => .null
  | .bool b => .bool b
  | .number n => .number (some n)
  | .text s => .text (some s)
  | .array items => .array (itemsToTrees items) none
  | .object members => .object (membersToTrees members) none

/-- Some items as trees. -/
def itemsToTrees : List Value → List Tree
  | [] => []
  | item :: items => item.toTree :: itemsToTrees items

/-- Some members as trees. -/
def membersToTrees : List (String × Value) → List (Option String × Tree)
  | [] => []
  | (key, value) :: members => (some key, value.toTree) :: membersToTrees members

end

end BuildScope.Json
