import BuildScope.Pattern.Set
import BuildScope.Text.Alphabetic

/-!
# Well-Formed Patterns

Whether a text is a pattern: every part of it is known and allowed where it stands, all that opens
is closed, and nothing is nested too deep.

* `Outline.step`: the reading of one part.
* `isPattern`: whether a text is a pattern.
-/

namespace BuildScope.Pattern

/-! ## Groups -/

/-- The part of a pattern before the current place, which a repetition is about. -/
inductive Previous where
  /-- There is none. -/
  | nothing
  /-- Flags, which cannot be repeated. -/
  | flags
  /-- A part that is nested so deep. -/
  | part (depth : Nat)
  deriving DecidableEq, Repr

/-- What has been read of a group that is open. -/
structure OpenGroup where
  /-- How the rest of the group is read. -/
  mode : Mode := {}
  /-- The alternatives before the current one. -/
  alternatives : Row := {}
  /-- The parts of the current alternative, except for the last one. -/
  earlier : Row := {}
  /-- The last part of the current alternative. -/
  previous : Previous := .nothing

namespace OpenGroup

/-- All parts of the current alternative. -/
def parts (group : OpenGroup) : Row :=
  match group.previous with
  | .nothing => group.earlier
  | .flags => group.earlier.add 0
  | .part depth => group.earlier.add depth

/-- The group with one more part. -/
def add (group : OpenGroup) (part : Previous) : OpenGroup :=
  { group with earlier := group.parts, previous := part }

/-- All alternatives of the group. -/
def allAlternatives (group : OpenGroup) : Row :=
  group.alternatives.add group.parts.depth

/-- The group with one more alternative begun. -/
def branch (group : OpenGroup) : OpenGroup :=
  { mode := group.mode, alternatives := group.allAlternatives }

/-- The group with its last part repeated, if that can be. -/
def repeat? (group : OpenGroup) : Option OpenGroup :=
  match group.previous with
  | .nothing | .flags => none
  | .part depth => some { group with previous := .part (depth + 1) }

end OpenGroup

/-! ## Openings of groups -/

/-- Whether some flags switch one on or off, if they do. Those after a dash are switched off. -/
def flagState? (flag : Char) (flags : List Char) : Option Bool :=
  if flags.contains flag then some (!(flags.takeWhile (· != flag)).contains '-') else none

/-- The mode after some flags. -/
def Mode.withFlags (mode : Mode) (flags : List Char) : Mode :=
  { isVerbose := (flagState? 'x' flags).getD mode.isVerbose
    isUnicode := (flagState? 'u' flags).getD mode.isUnicode }

/-- Whether a text is made of flags. Each occurs once, and after the dash comes something. -/
def isFlags (flags : List Char) : Bool :=
  flags.all ['i', 'm', 's', 'U', 'u', 'R', 'x', '-'].contains && flags.eraseDups == flags
    && flags.getLast? != some '-'

/-- Whether a text is a name of a group. -/
def isGroupName : List Char → Bool
  | [] => false
  | c :: rest =>
    (c == '_' || Text.isAlphabetic c)
      && rest.all fun c => ['_', '.', '[', ']'].contains c || Text.isAlphanumeric c

/-- How a group begins. -/
inductive Opening where
  /-- With nothing but its parenthesis. -/
  | plain
  /-- With a name. -/
  | named (name : List Char)
  /-- With flags for what is inside. -/
  | flagged (flags : List Char)
  /-- It is no group, but sets flags for what follows. -/
  | flags (flags : List Char)

/-- A name up to its closing bracket, and what comes after that. -/
def name? (text : List Char) : Option (Opening × List Char) :=
  let name := text.takeWhile (· != '>')
  match text.dropWhile (· != '>') with
  | _ :: rest => if isGroupName name then some (.named name, rest) else none
  | [] => none

/-- How the group begins that a text goes on with after a parenthesis, and what comes then. -/
def Opening.ofText? : List Char → Option (Opening × List Char)
  | '?' :: 'P' :: '<' :: rest | '?' :: '<' :: rest => name? rest
  | '?' :: rest =>
    let isFlag (c : Char) := c != ':' && c != ')'
    let flags := rest.takeWhile isFlag
    if !isFlags flags then none
    else
      match rest.dropWhile isFlag with
      | ':' :: rest => some (.flagged flags, rest)
      | _ :: rest => if flags.isEmpty then none else some (.flags flags, rest)
      | [] => none
  | rest => some (.plain, rest)

/-! ## Patterns -/

/-- What has been read of a pattern. -/
structure Outline where
  /-- The innermost open group. The pattern itself counts as one. -/
  inner : OpenGroup := {}
  /-- The groups around it, the nearest first. -/
  around : List OpenGroup := []
  /-- The names of groups so far. -/
  names : List (List Char) := []

namespace Outline

/-- Add a part that is nested so deep. -/
def add (outline : Outline) (depth : Nat) : Outline :=
  { outline with inner := outline.inner.add (.part depth) }

/-- Add an atom, if it is allowed here. -/
def addAtom? (outline : Outline) (atom : Atom) : Option Outline :=
  if atom.isPart outline.inner.mode then some (outline.add 0) else none

/-- Open a group with a mode of its own. -/
def openGroup (outline : Outline) (mode : Mode) : Outline :=
  { outline with inner := { mode }, around := outline.inner :: outline.around }

/-- Begin a group, or set flags. Two groups must not have the same name. -/
def begin? (outline : Outline) : Opening → Option Outline
  | .plain => some (outline.openGroup outline.inner.mode)
  | .named name =>
    if outline.names.contains name then none
    else some { outline.openGroup outline.inner.mode with names := name :: outline.names }
  | .flagged flags => some (outline.openGroup (outline.inner.mode.withFlags flags))
  | .flags flags =>
    let inner := outline.inner.add .flags
    some { outline with inner := { inner with mode := inner.mode.withFlags flags } }

/-- Close the innermost group. What is around it goes on in its own mode. -/
def close? (outline : Outline) : Option Outline :=
  match outline.around with
  | [] => none
  | outer :: around =>
    some { outline with
      inner := outer.add (.part (outline.inner.allAlternatives.depth + 1)), around }

/-- Take one part, and leave what comes after it. -/
def step (outline : Outline) (text : List Char) : Option (Outline × List Char) :=
  let mode := outline.inner.mode
  match text with
  | [] => none
  | '(' :: rest => do
    let (opening, rest) ← Opening.ofText? (mode.skip rest)
    return (← outline.begin? opening, rest)
  | ')' :: rest => return (← outline.close?, rest)
  | '|' :: rest => some ({ outline with inner := outline.inner.branch }, rest)
  | '[' :: rest => do
    let (depth, rest) ← Sets.ofText? mode rest
    return (outline.add depth, rest)
  | '?' :: rest | '*' :: rest | '+' :: rest => do
    let inner ← outline.inner.repeat?
    -- a mark right after the repetition makes it a short one
    return ({ outline with inner }, if rest.head? = some '?' then rest.drop 1 else rest)
  -- a count would need its closing brace
  | '\x7b' :: _ => none
  | '\\' :: rest => do
    let (atom, rest) ← escape? mode rest
    return (← outline.addAtom? atom, rest)
  | '.' :: rest => return (← outline.addAtom? .any, rest)
  | '^' :: rest | '$' :: rest => return (← outline.addAtom? .anchor, rest)
  | c :: rest => return (← outline.addAtom? (.char c), rest)

/-- The outline of a whole pattern. Every step takes up some of the text. -/
def read? (outline : Outline) (text : List Char) : Option Outline :=
  match outline.inner.mode.skip text with
  | [] => some outline
  | text' =>
    match outline.step text' with
    | none => none
    | some (outline, rest) =>
      if rest.length < text.length then read? outline rest else none
termination_by text.length

end Outline

/-- Whether a text is a pattern. -/
def isPattern (text : List Char) : Bool :=
  (Outline.read? {} text).any fun outline =>
    outline.around.isEmpty && outline.inner.allAlternatives.depth ≤ maxDepth

end BuildScope.Pattern
