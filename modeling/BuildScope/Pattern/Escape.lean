import BuildScope.Number.Hexadecimal
import BuildScope.Pattern.Basic

/-!
# Escapes

What a backslash in a pattern makes of the characters after it, and where the outcome may stand.

* `Atom.isPart`, `Atom.isMember`: whether an atom may stand by itself, and in a set.
* `escape?`: the atom that is spelled after a backslash.
-/

namespace BuildScope.Pattern

/-- A smallest part of a pattern. -/
inductive Atom where
  /-- A character. -/
  | char (c : Char)
  /-- The character or the byte of a number below 256. -/
  | byte (number : Nat)
  /-- Any character but a line break. -/
  | any
  /-- A digit, a blank or a character of words, or anything else. -/
  | kind (isNegated : Bool)
  /-- A character of a general category. -/
  | category
  /-- The beginning or the end of the text or of a line. -/
  | anchor
  /-- A place where a word begins or ends, or does neither. -/
  | wordEdge
  deriving DecidableEq, Repr

namespace Atom

/-- The character that an atom stands for, if it stands for just one. -/
def char? : Atom → Option Char
  | .char c => some c
  | .byte number => some (.ofNat number)
  | _ => none

/-- Whether an atom may stand by itself. Patterns match whole characters, also where they are about
bytes: there nothing may stand for a byte above ASCII. Whether words begin or end is known only
for words of ASCII letters. -/
def isPart (mode : Mode) : Atom → Bool
  | .char _ | .anchor | .kind false => true
  | .byte number => mode.isUnicode || number < 0x80
  | .any | .category | .kind true => mode.isUnicode
  | .wordEdge => !mode.isUnicode

/-- Whether an atom may stand in a set. -/
def isMember (mode : Mode) : Atom → Bool
  | .char c => mode.isUnicode || c.toNat < 0x80
  | .byte number => mode.isUnicode || number < 0x80
  | .kind false => true
  | .category | .kind true => mode.isUnicode
  | .any | .anchor | .wordEdge => false

end Atom

/-- The number that so many hexadecimal digits spell after those read so far, and what comes after
them. -/
def hexNumber? (mode : Mode) : Nat → Nat → List Char → Option (Nat × List Char)
  | 0, value, text => some (value, text)
  | digits + 1, value, text =>
    match mode.skip text with
    | [] => none
    | c :: rest =>
      (Number.hexDigit? c).bind fun digit => hexNumber? mode digits (16 * value + digit) rest

/-- The character of a number, given by so many digits. -/
def codePoint? (mode : Mode) (digits : Nat) (text : List Char) : Option (Atom × List Char) :=
  (hexNumber? mode digits 0 text).bind fun (number, rest) =>
    if number.isValidChar then some (.char (.ofNat number), rest) else none

/-- Whether a letter names a general category. -/
def isCategory (c : Char) : Bool :=
  ['c', 'l', 'm', 'n', 'p', 's', 'z'].contains c.toLower

/-- The atom that is spelled after a backslash, and what comes after it. Every ASCII character that
is neither a letter nor a digit stands for itself there. -/
def escape? (mode : Mode) : List Char → Option (Atom × List Char)
  | [] => none
  | c :: rest =>
    match c with
    | 'x' => (hexNumber? mode 2 0 rest).map fun (number, rest) => (.byte number, rest)
    | 'u' => codePoint? mode 4 rest
    | 'U' => codePoint? mode 8 rest
    | 'p' | 'P' =>
      match mode.skip rest with
      | [] => none
      | letter :: rest => if isCategory letter then some (.category, rest) else none
    | 'd' | 's' | 'w' => some (.kind false, rest)
    | 'D' | 'S' | 'W' => some (.kind true, rest)
    | 'A' | 'z' => some (.anchor, rest)
    | 'b' | 'B' | '<' | '>' => some (.wordEdge, rest)
    | 'a' => some (.char '\x07', rest)
    | 't' => some (.char '\t', rest)
    | 'n' => some (.char '\n', rest)
    | 'v' => some (.char '\x0b', rest)
    | 'f' => some (.char '\x0c', rest)
    | 'r' => some (.char '\r', rest)
    | c => if c.toNat < 0x80 && !c.isAlphanum then some (.char c, rest) else none

end BuildScope.Pattern
