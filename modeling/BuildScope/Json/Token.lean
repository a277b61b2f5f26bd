import BuildScope.Json.Numeral
import BuildScope.Number.Hexadecimal
import BuildScope.Text.Utf8

/-!
# Tokens of a Document

The lexer turns a document into tokens, one piece at a time. Where the document cannot be read on,
the last token says so, and nothing follows it; so faults come up in the order of the text, and only
if a reader gets that far.

A reader that only skips a value is content with less than one that keeps it. Both answers are
recorded with the token: a number beyond all doubles, or a text with an unpaired surrogate or
malformed bytes, is skipped but cannot be read, and a document that ends inside of a number is
truncated for the one and malformed for the other.

* `Lexer.step`: the lexer as a machine.
* `tokens`: the tokens of a document.
-/

namespace BuildScope.Json

open Text (Piece Document)

/-- What is wrong with a document. -/
inductive Fault where
  /-- It is not a JSON document. -/
  | malformed
  /-- It ends too early. -/
  | truncated
  /-- It is one, but not of the shape that is wanted. -/
  | mismatched
  deriving DecidableEq, Repr

/-- What is reported of a document. -/
def Fault.message : Fault → String
  | .malformed => "not a JSON document"
  | .truncated => "unexpected end of the document"
  | .mismatched => "not a document of the expected shape"

/-- The place where a document cannot be read on. -/
structure Stop where
  /-- The fault if the value at this place is wanted. -/
  onRead : Fault
  /-- The fault if it is skipped. -/
  onSkip : Fault
  deriving DecidableEq, Repr

namespace Stop

/-- A place that is wrong for every reader. -/
def malformed : Stop := ⟨.malformed, .malformed⟩

/-- The end of a document that should go on. -/
def truncated : Stop := ⟨.truncated, .truncated⟩

end Stop

/-- A token of a document. -/
inductive Token where
  /-- An opening brace. -/
  | openObject
  /-- A closing brace. -/
  | closeObject
  /-- An opening bracket. -/
  | openArray
  /-- A closing bracket. -/
  | closeArray
  /-- A comma. -/
  | comma
  /-- A colon. -/
  | colon
  /-- The word `null`. -/
  | null
  /-- The word `true` or `false`. -/
  | bool (value : Bool)
  /-- A number, unless it is too large to be read. -/
  | number (value : Option Number)
  /-- A text, unless it can only be skipped. -/
  | text (value : Option String)
  /-- A text that does not end well. -/
  | brokenText (stop : Stop)
  /-- Anything else that is no token. -/
  | broken (stop : Stop)
  deriving BEq, Repr

namespace Lexer

/-- Parts of a number, in the order of the text. -/
inductive NumeralPart where
  /-- After the minus sign. -/
  | sign
  /-- After a leading zero. -/
  | zero
  /-- After another leading digit. -/
  | whole
  /-- After the point. -/
  | point
  /-- After a digit of the fraction. -/
  | fraction
  /-- After the exponent mark. -/
  | mark
  /-- After the sign of the exponent. -/
  | markSign
  /-- After a digit of the exponent. -/
  | exponent
  deriving DecidableEq, Repr

/-- Whether a number may end after this part. -/
def NumeralPart.isEnd : NumeralPart → Bool
  | .zero | .whole | .fraction | .exponent => true
  | .sign | .point | .mark | .markSign => false

/-- A number being read, digits last first. -/
structure NumeralDraft where
  /-- Where in the number. -/
  part : NumeralPart
  /-- What has been read. -/
  numeral : Numeral := {}

namespace NumeralDraft

/-- The number at its end. -/
def finish (draft : NumeralDraft) : Numeral :=
  { draft.numeral with
    whole := draft.numeral.whole.reverse
    fraction := draft.numeral.fraction.reverse
    exponent := draft.numeral.exponent.map fun (negative, digits) => (negative, digits.reverse) }

/-- Value of a digit. -/
def digit (c : Char) : Nat :=
  c.toNat - '0'.toNat

/-- Add a digit before the point. -/
def addWhole (draft : NumeralDraft) (part : NumeralPart) (c : Char) : NumeralDraft :=
  ⟨part, { draft.numeral with whole := digit c :: draft.numeral.whole }⟩

/-- Add a digit after the point. -/
def addFraction (draft : NumeralDraft) (c : Char) : NumeralDraft :=
  ⟨.fraction, { draft.numeral with fraction := digit c :: draft.numeral.fraction }⟩

/-- Add a digit of the exponent. -/
def addExponent (draft : NumeralDraft) (c : Char) : NumeralDraft :=
  let (negative, digits) := draft.numeral.exponent.getD (false, [])
  ⟨.exponent, { draft.numeral with exponent := some (negative, digit c :: digits) }⟩

/-- Open the exponent, with its sign. -/
def openExponent (draft : NumeralDraft) (part : NumeralPart) (negative : Bool) : NumeralDraft :=
  ⟨part, { draft.numeral with exponent := some (negative, []) }⟩

/-- What a character does to a number being read. -/
inductive Step where
  /-- The number goes on. -/
  | more (draft : NumeralDraft)
  /-- The number has ended before the character. -/
  | ended
  /-- The character cannot stand here. -/
  | broken

/-- The number after a point or an exponent mark, or its end. -/
def afterDigits (draft : NumeralDraft) (mayPoint : Bool) (c : Char) : Step :=
  if c = '.' && mayPoint then .more { draft with part := .point }
  else if c = 'e' || c = 'E' then .more (draft.openExponent .mark false)
  else .ended

/-- Take one character of a number. -/
def step (draft : NumeralDraft) (c : Char) : Step :=
  match draft.part with
  | .sign =>
    if c = '0' then .more (draft.addWhole .zero c)
    else if c.isDigit then .more (draft.addWhole .whole c)
    else .broken
  -- a leading zero is the only digit before the point
  | .zero => if c.isDigit then .broken else draft.afterDigits true c
  | .whole => if c.isDigit then .more (draft.addWhole .whole c) else draft.afterDigits true c
  | .point => if c.isDigit then .more (draft.addFraction c) else .broken
  | .fraction => if c.isDigit then .more (draft.addFraction c) else draft.afterDigits false c
  | .mark =>
    if c = '+' then .more (draft.openExponent .markSign false)
    else if c = '-' then .more (draft.openExponent .markSign true)
    else if c.isDigit then .more (draft.addExponent c)
    else .broken
  | .markSign => if c.isDigit then .more (draft.addExponent c) else .broken
  | .exponent => if c.isDigit then .more (draft.addExponent c) else .ended

end NumeralDraft

/-- Where in a text the lexer is. -/
inductive TextPart where
  /-- Between characters. -/
  | plain
  /-- After a backslash. -/
  | escape
  /-- Inside of an escaped code unit: its digits so far, unless one was none, and how many bytes
  are missing. -/
  | unit (value : Option Nat) (missing : Nat)

/-- A text being read. -/
structure TextDraft where
  /-- Characters read, last first; none once the text can only be skipped. -/
  chars : Option (List Char) := some []
  /-- A high surrogate that waits for its low one. -/
  pending : Option Nat := none
  /-- Whether malformed bytes have been seen. -/
  illFormed : Bool := false
  /-- Where in the text. -/
  part : TextPart := .plain

namespace TextDraft

/-- The text with one more character. A high surrogate that waits goes without its low one. -/
def push (draft : TextDraft) (c : Char) : TextDraft :=
  { draft with
    chars := if draft.pending.isSome then none else draft.chars.map (c :: ·)
    pending := none
    part := .plain }

/-- The text in which the high surrogate that waits, if any, goes without its low one. -/
def dropPending (draft : TextDraft) : TextDraft :=
  if draft.pending.isSome then { draft with chars := none, pending := none } else draft

/-- The text with one more escaped code unit. -/
def pushUnit (draft : TextDraft) (unit : Nat) : TextDraft :=
  match draft.pending with
  | some high =>
    -- a high and a low surrogate make one character
    if 0xDC00 ≤ unit && unit ≤ 0xDFFF then
      { draft with pending := none }.push
        (.ofNat (0x10000 + (high - 0xD800) * 0x400 + (unit - 0xDC00)))
    else { draft.dropPending with part := .plain }
  | none =>
    -- a low surrogate has no high one before it
    if 0xDC00 ≤ unit && unit ≤ 0xDFFF then { draft with chars := none, part := .plain }
    else if 0xD800 ≤ unit && unit ≤ 0xDBFF then { draft with pending := some unit, part := .plain }
    else draft.push (.ofNat unit)

/-- What a text ends with: its characters, unless it can only be skipped. -/
def finish (draft : TextDraft) : Option String :=
  if draft.illFormed then none
  else draft.dropPending.chars.map fun chars => .ofList chars.reverse

/-- The fault of a document that ends inside of the text. -/
def endOfDocument (draft : TextDraft) : Stop :=
  if draft.chars.isNone then ⟨.malformed, .truncated⟩ else .truncated

/-- What a piece does to a text being read. -/
inductive Step where
  /-- The text goes on. -/
  | more (draft : TextDraft)
  /-- The piece ends the text. -/
  | ended
  /-- The piece cannot stand here. -/
  | broken

/-- The character that a backslash and the given one stand for. -/
def escaped? : Char → Option Char
  | '"' => some '"'
  | '\\' => some '\\'
  | '/' => some '/'
  | 'b' => some '\x08'
  | 'f' => some '\x0C'
  | 'n' => some '\n'
  | 'r' => some '\r'
  | 't' => some '\t'
  | _ => none

/-- Take one piece of a text. The four digits of an escaped code unit are four bytes of the
document, whatever they spell. -/
def step (draft : TextDraft) (piece : Piece) : Step :=
  match draft.part, piece with
  | .plain, .malformed _ => .more { draft.dropPending with illFormed := true }
  | .plain, .char c =>
    if c = '"' then .ended
    else if c = '\\' then .more { draft with part := .escape }
    else if c.toNat < 0x20 then .broken
    else .more (draft.push c)
  | .escape, .malformed _ => .broken
  | .escape, .char c =>
    if c = 'u' then .more { draft with part := .unit (some 0) 4 }
    else match escaped? c with
      | some c => .more (draft.push c)
      | none => .broken
  | .unit value missing, piece =>
    let value := match value, piece with
      | some value, .char c => (Number.hexDigit? c).map (value * 16 + ·)
      | _, _ => none
    -- a longer piece uses up more than one of the bytes, and perhaps bytes beyond them
    match missing - piece.size, value with
    | 0, some unit => .more (draft.pushUnit unit)
    | 0, none => .broken
    | missing, value => .more { draft with part := .unit value missing }

end TextDraft

/-- What the lexer is in the middle of. -/
inductive State where
  /-- Between tokens. -/
  | blank
  /-- Inside of a word, which still has these characters and then is this token. -/
  | word (rest : List Char) (token : Token)
  /-- Inside of a number. -/
  | numeral (draft : NumeralDraft)
  /-- Inside of a text. -/
  | text (draft : TextDraft)
  /-- Past the last token. -/
  | halted

end Lexer

/-- The lexer: the tokens so far, last first, and what it is in the middle of. -/
structure Lexer where
  /-- Tokens so far, last first. -/
  tokens : List Token := []
  /-- What the lexer is in the middle of. -/
  state : Lexer.State := .blank

namespace Lexer

/-- Stop for good. -/
def halt (tokens : List Token) (last : Token) : Lexer :=
  ⟨last :: tokens, .halted⟩

/-- Take a character between tokens. -/
def start (tokens : List Token) (c : Char) : Lexer :=
  match c with
  | ' ' | '\t' | '\n' | '\r' => ⟨tokens, .blank⟩
  | '\x7b' => ⟨.openObject :: tokens, .blank⟩
  | '\x7d' => ⟨.closeObject :: tokens, .blank⟩
  | '[' => ⟨.openArray :: tokens, .blank⟩
  | ']' => ⟨.closeArray :: tokens, .blank⟩
  | ',' => ⟨.comma :: tokens, .blank⟩
  | ':' => ⟨.colon :: tokens, .blank⟩
  | '"' => ⟨tokens, .text {}⟩
  | 'n' => ⟨tokens, .word ['u', 'l', 'l'] .null⟩
  | 't' => ⟨tokens, .word ['r', 'u', 'e'] (.bool true)⟩
  | 'f' => ⟨tokens, .word ['a', 'l', 's', 'e'] (.bool false)⟩
  | '-' => ⟨tokens, .numeral ⟨.sign, { negative := true }⟩⟩
  | c =>
    match NumeralDraft.step ⟨.sign, {}⟩ c with
    | .more draft => ⟨tokens, .numeral draft⟩
    | _ => halt tokens (.broken .malformed)

/-- Take a piece between tokens. -/
def startPiece (tokens : List Token) : Piece → Lexer
  | .char c => start tokens c
  | .malformed _ => halt tokens (.broken .malformed)

/-- Take one piece. -/
def step (lexer : Lexer) (piece : Piece) : Lexer :=
  let tokens := lexer.tokens
  match lexer.state, piece with
  | .blank, piece => startPiece tokens piece
  | .word [] token, piece => startPiece (token :: tokens) piece
  | .word [last] token, .char c =>
    if c = last then ⟨token :: tokens, .blank⟩ else halt tokens (.broken .malformed)
  | .word (next :: rest) token, .char c =>
    if c = next then ⟨tokens, .word rest token⟩ else halt tokens (.broken .malformed)
  | .word _ _, .malformed _ => halt tokens (.broken .malformed)
  | .numeral draft, piece =>
    let step := match piece with
      | .char c => draft.step c
      | .malformed _ => if draft.part.isEnd then .ended else .broken
    match step with
    | .more draft => ⟨tokens, .numeral draft⟩
    -- the piece that ends a number is not a part of it
    | .ended => startPiece (.number draft.finish.value :: tokens) piece
    | .broken => halt tokens (.broken .malformed)
  | .text draft, piece =>
    match draft.step piece with
    | .more draft => ⟨tokens, .text draft⟩
    | .ended => ⟨.text draft.finish :: tokens, .blank⟩
    | .broken => halt tokens (.brokenText .malformed)
  | .halted, _ => lexer

/-- The tokens at the end of the document. -/
def finish (lexer : Lexer) : List Token :=
  let tokens := lexer.tokens
  (match lexer.state with
    | .blank | .halted => tokens
    | .word [] token => token :: tokens
    | .word _ _ => .broken .truncated :: tokens
    -- the end of the document ends a number as any other piece does
    | .numeral draft =>
      if draft.part.isEnd then .number draft.finish.value :: tokens
      else .broken ⟨.truncated, .malformed⟩ :: tokens
    | .text draft => .brokenText draft.endOfDocument :: tokens).reverse

end Lexer

/-- The tokens of a document. -/
def tokens (document : Document) : List Token :=
  (document.foldl Lexer.step {}).finish

end BuildScope.Json
