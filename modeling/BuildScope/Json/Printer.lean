import BuildScope.Json.Value
import BuildScope.Number.Shortest

/-!
# Printing Documents

The text of a value: on one line, or spread over lines with two spaces for each level.

* `Value.compact`: the text on one line.
* `Value.pretty`: the text over several lines.
-/

namespace BuildScope.Json

/-- The characters that stand for one character of a text. -/
def escapeChar (c : Char) : List Char :=
  match c with
  | '"' => ['\\', '"']
  | '\\' => ['\\', '\\']
  | '\x08' => ['\\', 'b']
  | '\x0C' => ['\\', 'f']
  | '\n' => ['\\', 'n']
  | '\r' => ['\\', 'r']
  | '\t' => ['\\', 't']
  | c =>
    if c.toNat < 0x20 then
      ['\\', 'u', '0', '0', Nat.digitChar (c.toNat / 16), Nat.digitChar (c.toNat % 16)]
    else [c]

/-- A text between quotes. -/
def printText (text : String) : List Char :=
  '"' :: text.toList.flatMap escapeChar ++ ['"']

/-- A number in decimal. -/
def printNumber : Number → List Char
  | .integer n => if n < 0 then '-' :: Nat.toDigits 10 n.natAbs else Nat.toDigits 10 n.natAbs
  | .float x => (Number.floatText x).toList

/-- The line break before an entry at a level. -/
def newline (level : Nat) : List Char :=
  '\n' :: List.replicate (2 * level) ' '

/-- Entries between brackets, each on a line of its own. -/
def printBlock (opening closing : Char) (level : Nat) : List (List Char) → List Char
  | [] => [opening, closing]
  | first :: rest =>
    opening :: newline (level + 1) ++ first
      ++ rest.flatMap (fun entry => ',' :: newline (level + 1) ++ entry)
      ++ newline level ++ [closing]

/-- Entries between brackets on one line. -/
def printRow (opening closing : Char) : List (List Char) → List Char
  | [] => [opening, closing]
  | first :: rest => opening :: first ++ rest.flatMap (fun entry => ',' :: entry) ++ [closing]

mutual

/-- A value over several lines, its first line being at a level. -/
def printPretty (level : Nat) : Value → List Char
  | .null => ['n', 'u', 'l', 'l']
  | .bool true => ['t', 'r', 'u', 'e']
  | .bool false => ['f', 'a', 'l', 's', 'e']
  | .number n => printNumber n
  | .text s => printText s
  | .array items => printBlock '[' ']' level (prettyItems (level + 1) items)
  | .object members => printBlock '\x7b' '\x7d' level (prettyMembers (level + 1) members)

/-- Items, each over several lines. -/
def prettyItems (level : Nat) : List Value → List (List Char)
  | [] => []
  | item :: items => printPretty level item :: prettyItems level items

/-- Members, each over several lines. -/
def prettyMembers (level : Nat) : List (String × Value) → List (List Char)
  | [] => []
  | (key, value) :: members =>
    (printText key ++ [':', ' '] ++ printPretty level value) :: prettyMembers level members

end

mutual

/-- A value on one line. -/
def printCompact : Value → List Char
  | .null => ['n', 'u', 'l', 'l']
  | .bool true => ['t', 'r', 'u', 'e']
  | .bool false => ['f', 'a', 'l', 's', 'e']
  | .number n => printNumber n
  | .text s => printText s
  | .array items => printRow '[' ']' (compactItems items)
  | .object members => printRow '\x7b' '\x7d' (compactMembers members)

/-- Items on one line. -/
def compactItems : List Value → List (List Char)
  | [] => []
  | item :: items => printCompact item :: compactItems items

/-- Members on one line. -/
def compactMembers : List (String × Value) → List (List Char)
  | [] => []
  | (key, value) :: members =>
    (printText key ++ ':' :: printCompact value) :: compactMembers members

end

namespace Value

/-- The text of a value over several lines. -/
def pretty (value : Value) : String :=
  .ofList (printPretty 0 value)

/-- The text of a value on one line. -/
def compact (value : Value) : String :=
  .ofList (printCompact value)

end Value

end BuildScope.Json
