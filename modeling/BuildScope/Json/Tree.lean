import BuildScope.Json.Token

/-!
# The Tree of a Document

The structure of as much of a document as can be read, in the order of the text and with repeated
keys kept. Where the document cannot be read on, the tree ends with a stop: in place of a value, or
in place of what should follow one. Readers walk the tree from the left and so meet the first
problem of the text first.

* `Place.run`: the parser, a recursion on the tokens with what is open on a stack.
* `Tree.skip`: whether a value can be skipped.
-/

namespace BuildScope.Json

/-- The tree of a value of a document. -/
inductive Tree where
  /-- The value `null`. -/
  | null
  /-- A truth value. -/
  | bool (value : Bool)
  /-- A number, unless it is too large to be read. -/
  | number (value : Option Number)
  /-- A text, unless it can only be skipped. -/
  | text (value : Option String)
  /-- The items of an array, and the stop in place of its next comma or its end. -/
  | array (items : List Tree) (ending : Option Stop)
  /-- Keys and values of an object, and the stop in place of its next comma, key or end. -/
  | object (members : List (Option String × Tree)) (ending : Option Stop)
  /-- A place where a value should stand and none does. -/
  | stop (stop : Stop)
  deriving Repr

/-- The arrays and objects that are open around a value, the innermost first. -/
inductive Context where
  /-- None. -/
  | top
  /-- An array with the items so far, last first. -/
  | array (items : List Tree) (outer : Context)
  /-- An object with the members so far, last first, and the key of the value. -/
  | member (members : List (Option String × Tree)) (key : Option String) (outer : Context)

/-- Close everything around a value that the document does not get past. -/
def Context.close : Context → Tree → Tree
  | .top, tree => tree
  | .array items outer, tree => outer.close (.array (tree :: items).reverse none)
  | .member members key outer, tree =>
    outer.close (.object ((key, tree) :: members).reverse none)

/-- What the parser waits for. -/
inductive Place where
  /-- A value. -/
  | value (within : Context)
  /-- The first item of an array, or its end. -/
  | firstItem (outer : Context)
  /-- A comma, or the end of an array. -/
  | afterItem (items : List Tree) (outer : Context)
  /-- The first key of an object, or its end. -/
  | firstKey (outer : Context)
  /-- A key. -/
  | key (members : List (Option String × Tree)) (outer : Context)
  /-- The colon after a key. -/
  | colon (members : List (Option String × Tree)) (key : Option String) (outer : Context)
  /-- A comma, or the end of an object. -/
  | afterMember (members : List (Option String × Tree)) (outer : Context)
  /-- Nothing more. -/
  | done (tree : Tree)

namespace Place

/-- Where the parser goes on after a value. -/
def after : Context → Tree → Place
  | .top, tree => .done tree
  | .array items outer, tree => .afterItem (tree :: items) outer
  | .member members name outer, tree => .afterMember ((name, tree) :: members) outer

/-- The tree of a document that stops at a place. -/
def halt : Place → Stop → Tree
  | .value within, stop => within.close (.stop stop)
  | .firstItem outer, stop => outer.close (.array [] (some stop))
  | .afterItem items outer, stop => outer.close (.array items.reverse (some stop))
  | .firstKey outer, stop => outer.close (.object [] (some stop))
  | .key members outer, stop => outer.close (.object members.reverse (some stop))
  | .colon members name outer, stop =>
    outer.close (.object ((name, .stop stop) :: members).reverse none)
  | .afterMember members outer, stop => outer.close (.object members.reverse (some stop))
  | .done tree, _ => tree

/-- What a token leads to in place of a value: the next place, or the tree of a document that
stops there. -/
def ofValueToken (within : Context) : Token → Place ⊕ Tree
  | .null => .inl (after within .null)
  | .bool b => .inl (after within (.bool b))
  | .number n => .inl (after within (.number n))
  | .text s => .inl (after within (.text s))
  | .openArray => .inl (.firstItem within)
  | .openObject => .inl (.firstKey within)
  | .brokenText stop | .broken stop => .inr (halt (.value within) stop)
  | .closeArray | .closeObject | .comma | .colon => .inr (halt (.value within) .malformed)

/-- What a token leads to in place of a key. -/
def ofKeyToken (members : List (Option String × Tree)) (outer : Context) : Token → Place ⊕ Tree
  | .text name => .inl (.colon members name outer)
  | .brokenText stop => .inr (halt (.key members outer) stop)
  | _ => .inr (halt (.key members outer) .malformed)

/-- What a token leads to. -/
def step : Place → Token → Place ⊕ Tree
  | .value within, token => ofValueToken within token
  | .firstItem outer, .closeArray => .inl (after outer (.array [] none))
  | .firstItem outer, token => ofValueToken (.array [] outer) token
  | .afterItem items outer, .comma => .inl (.value (.array items outer))
  | .afterItem items outer, .closeArray => .inl (after outer (.array items.reverse none))
  | .firstKey outer, .closeObject => .inl (after outer (.object [] none))
  | .firstKey outer, token => ofKeyToken [] outer token
  | .key members outer, token => ofKeyToken members outer token
  | .colon members name outer, .colon => .inl (.value (.member members name outer))
  | .afterMember members outer, .comma => .inl (.key members outer)
  | .afterMember members outer, .closeObject => .inl (after outer (.object members.reverse none))
  | place, _ => .inr (place.halt .malformed)

end Place

/-- A document read as far as it goes: the tree of its value, and the tokens after it. -/
structure Parsed where
  /-- Tree of the value. -/
  tree : Tree
  /-- Tokens that follow the value. -/
  rest : List Token

/-- Read on from a place. -/
def Place.run : Place → List Token → Parsed
  | .done tree, tokens => ⟨tree, tokens⟩
  | place, [] => ⟨place.halt .truncated, []⟩
  | place, token :: tokens =>
    match place.step token with
    | .inl next => next.run tokens
    | .inr tree => ⟨tree, []⟩

/-- Read a document as far as it goes. -/
def parse (document : Text.Document) : Parsed :=
  (Place.value .top).run (tokens document)

mutual

/-- The first fault that skipping a value meets, if any. -/
def Tree.skipFault? : Tree → Option Fault
  | .null | .bool _ | .number _ | .text _ => none
  | .stop place => some place.onSkip
  | .array items ending => (itemsSkipFault? items).or (ending.map Stop.onSkip)
  | .object members ending => (membersSkipFault? members).or (ending.map Stop.onSkip)

/-- The first fault that skipping some items meets, if any. -/
def itemsSkipFault? : List Tree → Option Fault
  | [] => none
  | item :: items => item.skipFault?.or (itemsSkipFault? items)

/-- The first fault that skipping some members meets, if any. -/
def membersSkipFault? : List (Option String × Tree) → Option Fault
  | [] => none
  | (_, value) :: members => value.skipFault?.or (membersSkipFault? members)

end

/-- Skip a value. -/
def Tree.skip (tree : Tree) : Except Fault Unit :=
  match tree.skipFault? with
  | none => .ok ()
  | some fault => .error fault

/-- The fault of a value that is not of the kind that is wanted. An array or object of the wrong
kind is refused where it opens. -/
def Tree.mismatch : Tree → Fault
  | .stop place => place.onRead
  | .number none | .text none => .malformed
  | _ => .mismatched

end BuildScope.Json
