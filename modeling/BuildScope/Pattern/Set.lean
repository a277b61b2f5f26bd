import BuildScope.Pattern.Escape

/-!
# Sets

A set of a pattern stands between brackets: characters, ranges, kinds of characters and further
sets, joined by operators. Every bracket, operator and row of several members nests one deeper.

* `Sets.ofText?`: how deep the set is nested that a text goes on with, and what comes after it.
-/

namespace BuildScope.Pattern

/-- The names of kinds of ASCII characters. -/
def kindNames : List String :=
  ["alnum", "alpha", "ascii", "blank", "cntrl", "digit", "graph", "lower", "print", "punct",
    "space", "upper", "word", "xdigit"]

/-- Whether a kind of ASCII characters is negated that is spelled after a bracket, between colons
and up to a bracket, and what comes after it. -/
def asciiKind? : List Char → Option (Bool × List Char)
  | ':' :: text =>
    let (isNegated, text) := match text with
      | '^' :: rest => (true, rest)
      | text => (false, text)
    match text.dropWhile (· != ':') with
    | ':' :: ']' :: rest =>
      if kindNames.contains (.ofList (text.takeWhile (· != ':'))) then some (isNegated, rest)
      else none
    | _ => none
  | _ => none

/-- What has been read of a set whose bracket is open. -/
structure OpenSet where
  /-- How deep everything is nested that is left of the last operator, if there is one. -/
  left : Option Nat := none
  /-- The members since then. -/
  members : Row := {}

namespace OpenSet

/-- The set with one more member, which is nested so deep. -/
def add (set : OpenSet) (depth : Nat) : OpenSet :=
  { set with members := set.members.add depth }

/-- How deep the inside of the set is nested. Operators take what is left of them together. -/
def depth (set : OpenSet) : Nat :=
  match set.left with
  | none => set.members.depth
  | some left => max left set.members.depth + 1

/-- The set after one more operator. -/
def operate (set : OpenSet) : OpenSet :=
  { left := some set.depth }

/-- The set with the dashes that a text begins with as members, and the text without them. -/
def addDashes (mode : Mode) (set : OpenSet) (text : List Char) : OpenSet × List Char :=
  match text with
  | '-' :: rest => addDashes mode (set.add 0) (mode.skip rest)
  | text => (set, text)
termination_by text.length
decreasing_by
  have := mode.length_skip_le rest
  simp only [List.length_cons]
  omega

/-- The set that opens with a bracket, and what comes after its opening. Dashes stand there for
themselves, and so does a bracket that would close the set at once. Of bytes no set can be
negated, for it would have bytes above ASCII. -/
def ofOpening? (mode : Mode) (text : List Char) : Option (OpenSet × List Char) :=
  let text := mode.skip text
  let (isNegated, text) := match text with
    | '^' :: rest => (true, mode.skip rest)
    | text => (false, text)
  if isNegated && !mode.isUnicode then none
  else
    match addDashes mode {} text with
    | (set, ']' :: rest) =>
      if set.members.count = 0 then some (set.add 0, rest) else some (set, ']' :: rest)
    | opened => some opened

end OpenSet

/-- A character, a kind or a category in a set, and what comes after it. -/
def member? (mode : Mode) : List Char → Option (Atom × List Char)
  | '\\' :: rest => escape? mode rest
  | c :: rest => some (.char c, rest)
  | [] => none

/-- Whether a range goes on after its first character. A dash before the end of the set or before
another dash makes none. -/
def isRange (mode : Mode) : List Char → Bool
  | '-' :: rest => mode.peek rest != some ']' && mode.peek rest != some '-'
  | _ => false

/-- What comes after a member of a set or a range of characters. -/
def dropMember? (mode : Mode) (text : List Char) : Option (List Char) := do
  let (first, rest) ← member? mode text
  if !first.isMember mode then none
  else
    let rest := mode.skip rest
    if isRange mode rest then
      let (last, rest) ← member? mode (mode.skip (rest.drop 1))
      if !last.isMember mode then none
      else if (← first.char?) ≤ (← last.char?) then some rest else none
    else some rest

/-- Sets whose brackets are open: the innermost, and those around it. -/
structure Sets where
  /-- The innermost set. -/
  inner : OpenSet
  /-- The sets around it, the nearest first. -/
  around : List OpenSet := []

namespace Sets

/-- What one step leads to. -/
inductive Step where
  /-- There are open sets. -/
  | more (sets : Sets)
  /-- All sets are closed. They are nested so deep. -/
  | closed (depth : Nat)

/-- Add a member of no depth to the innermost set. -/
def addMember (sets : Sets) : Step :=
  .more { sets with inner := sets.inner.add 0 }

/-- Close the innermost set. -/
def close (sets : Sets) : Step :=
  let depth := sets.inner.depth + 1
  match sets.around with
  | [] => .closed depth
  | outer :: around => .more ⟨outer.add depth, around⟩

/-- Take one member, bracket or operator, and leave what comes after it. -/
def step (mode : Mode) (sets : Sets) (text : List Char) : Option (Step × List Char) :=
  match text with
  | [] => none
  | '[' :: rest =>
    match asciiKind? rest with
    | some (isNegated, rest) =>
      if isNegated && !mode.isUnicode then none else some (sets.addMember, rest)
    | none =>
      (OpenSet.ofOpening? mode rest).map fun (set, rest) =>
        (.more ⟨set, sets.inner :: sets.around⟩, rest)
  | ']' :: rest => some (sets.close, rest)
  | '&' :: '&' :: rest | '-' :: '-' :: rest | '~' :: '~' :: rest =>
    some (.more { sets with inner := sets.inner.operate }, rest)
  | text => (dropMember? mode text).map fun rest => (sets.addMember, rest)

/-- How deep sets are nested when all are closed, and what comes after them. Every step takes up
some of the text. -/
def read? (mode : Mode) (sets : Sets) (text : List Char) : Option (Nat × List Char) :=
  match step mode sets (mode.skip text) with
  | none => none
  | some (.closed depth, rest) => some (depth, rest)
  | some (.more sets, rest) => if rest.length < text.length then read? mode sets rest else none
termination_by text.length

/-- How deep the set is nested that a text goes on with after a bracket, and what comes after it. -/
def ofText? (mode : Mode) (text : List Char) : Option (Nat × List Char) :=
  (OpenSet.ofOpening? mode text).bind fun (set, rest) => read? mode { inner := set } rest

end Sets

end BuildScope.Pattern
