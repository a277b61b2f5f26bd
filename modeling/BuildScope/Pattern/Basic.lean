import BuildScope.Text.Blank

/-!
# Patterns

A pattern describes texts: characters that stand for themselves, sets of characters, alternatives,
repetitions and groups. A pattern here stands where neither a closing brace nor a comma can be
written, so that repetitions with a count and names in braces do not occur.

Groups set how what is inside of them is read, the mode, and a pattern may nest only so deep.

* `Mode.length_skip_le`: skipping adds nothing to a text.
* `Row.depth`: how deep things are nested that stand side by side.
* `Row.deepest_le_depth`: that is never less than each of them is nested alone.
-/

namespace BuildScope.Pattern

/-- How a pattern is read. -/
structure Mode where
  /-- Whether blanks and comments are left out. -/
  isVerbose : Bool := false
  /-- Whether the pattern is about characters, and not about bytes. -/
  isUnicode : Bool := true
  deriving DecidableEq, Repr

/-- A text from the first character on that is neither blank nor in a comment. A comment goes from
a number sign to the end of the line. -/
def dropBlanks (inComment : Bool) : List Char → List Char
  | [] => []
  | c :: rest =>
    if inComment then dropBlanks (c != '\n') rest
    else if c = '#' then dropBlanks true rest
    else if Text.isBlank c then dropBlanks false rest
    else c :: rest

/-- Dropping blanks adds nothing to a text. -/
theorem length_dropBlanks_le (inComment : Bool) (text : List Char) :
    (dropBlanks inComment text).length ≤ text.length := by
  fun_induction dropBlanks inComment text <;> grind

namespace Mode

/-- A text from the first character on that counts. -/
def skip (mode : Mode) (text : List Char) : List Char :=
  if mode.isVerbose then dropBlanks false text else text

/-- Skipping adds nothing to a text. -/
theorem length_skip_le (mode : Mode) (text : List Char) :
    (mode.skip text).length ≤ text.length := by
  unfold skip
  split
  · exact length_dropBlanks_le false text
  · exact Nat.le_refl _

/-- The next character that counts when a dash may make a range of it. Of a comment only the number
sign that begins it is left out there. -/
def peek (mode : Mode) (text : List Char) : Option Char :=
  if mode.isVerbose then
    match text.dropWhile Text.isBlank with
    | '#' :: rest => (rest.dropWhile Text.isBlank).head?
    | rest => rest.head?
  else text.head?

end Mode

/-- The most that a pattern may be nested. -/
def maxDepth : Nat := 250

/-- Things side by side. -/
structure Row where
  /-- How many they are. -/
  count : Nat := 0
  /-- How deep the one of them is nested that is nested deepest. -/
  deepest : Nat := 0
  deriving DecidableEq, Repr

namespace Row

/-- A row with one more thing, which is nested so deep. -/
def add (row : Row) (depth : Nat) : Row :=
  ⟨row.count + 1, max row.deepest depth⟩

/-- How deep a row is nested. Putting things side by side is one level more than each of them, but
a single one is as deep as it is alone. -/
def depth (row : Row) : Nat :=
  if row.count < 2 then row.deepest else row.deepest + 1

/-- A row is at least as deep as each thing in it. -/
theorem deepest_le_depth (row : Row) : row.deepest ≤ row.depth := by
  unfold depth
  split <;> omega

/-- A single thing is as deep in a row as it is alone. -/
@[simp]
theorem depth_add_empty (depth : Nat) : (({} : Row).add depth).depth = depth := by
  simp [add, Row.depth]

end Row

end BuildScope.Pattern
