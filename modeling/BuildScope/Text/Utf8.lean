/-!
# Text from Bytes

A byte sequence is read as pieces: the characters it spells, and the runs of bytes that spell none.
A run is as long as it can be while it is still the beginning of some character, so that a truncated
character is one piece and a stray byte another.

* `Piece.size_pos`: no piece is empty.
* `Document.map_size_ofString`: the pieces of a text take as many bytes as its characters.
* `lossy`: the text in which every run that spells no character is one replacement character.
-/

namespace BuildScope.Text

/-- A stretch of a document: a character, or some bytes that are no character. -/
inductive Piece where
  /-- A character. -/
  | char (c : Char)
  /-- So many bytes, never zero, that are the beginning of a character or stray. -/
  | malformed (extra : Nat)
  deriving DecidableEq, Repr

/-- Number of bytes of a piece. A malformed piece has one byte and `extra` more. -/
def Piece.size : Piece → Nat
  | .char c => c.utf8Size
  | .malformed extra => extra + 1

/-- Pieces have at least one byte. -/
theorem Piece.size_pos (p : Piece) : 0 < p.size := by
  cases p with
  | char c => exact c.utf8Size_pos
  | malformed extra => exact Nat.succ_pos extra

/-- A document, in pieces. -/
abbrev Document := List Piece

namespace Document

/-- The document that spells a text. -/
def ofString (text : String) : Document :=
  text.toList.map .char

/-- The text of a document, one replacement character standing for each malformed piece. -/
def lossy (document : Document) : String :=
  .ofList (document.map fun
    | .char c => c
    | .malformed _ => '\uFFFD')

/-- A text survives being spelled. -/
@[simp]
theorem lossy_ofString (text : String) : (ofString text).lossy = text := by
  simp [lossy, ofString, Function.comp_def]

end Document

/-- What the next bytes owe to the character that has begun. -/
structure Owed where
  /-- Code point bits read so far. -/
  bits : Nat
  /-- Bytes read so far, less one. -/
  extra : Nat
  /-- Bytes still to come, less one. -/
  missing : Nat
  /-- Least value of the next byte. -/
  low : UInt8
  /-- Greatest value of the next byte. -/
  high : UInt8

/-- How a byte opens a piece: a character by itself, a longer one, or none. -/
inductive Opening where
  /-- An ASCII character. -/
  | whole (c : Char)
  /-- A character of several bytes. -/
  | longer (owed : Owed)
  /-- A byte that opens no character. -/
  | stray

/-- What a byte between two pieces begins. The bounds of the second byte exclude forms longer than
needed, surrogates, and code points above the last one. -/
def Opening.ofByte (byte : UInt8) : Opening :=
  let owed (mask : UInt8) (missing : Nat) (low high : UInt8) : Opening :=
    .longer ⟨(byte &&& mask).toNat, 0, missing, low, high⟩
  if byte < 0x80 then .whole (.ofUInt8 byte)
  else if byte < 0xC2 then .stray
  else if byte < 0xE0 then owed 0x1F 0 0x80 0xBF
  else if byte = 0xE0 then owed 0x0F 1 0xA0 0xBF
  else if byte = 0xED then owed 0x0F 1 0x80 0x9F
  else if byte < 0xF0 then owed 0x0F 1 0x80 0xBF
  else if byte = 0xF0 then owed 0x07 2 0x90 0xBF
  else if byte < 0xF4 then owed 0x07 2 0x80 0xBF
  else if byte = 0xF4 then owed 0x07 2 0x80 0x8F
  else .stray

/-- State between two bytes: the pieces read so far, last first, and the character begun. -/
structure Decoder where
  /-- Pieces read so far, the last one first. -/
  pieces : List Piece := []
  /-- The character that has begun, if any. -/
  owed : Option Owed := none

namespace Decoder

/-- Take a byte that opens a piece. -/
def openPiece (pieces : List Piece) (byte : UInt8) : Decoder :=
  match Opening.ofByte byte with
  | .whole c => ⟨.char c :: pieces, none⟩
  | .longer owed => ⟨pieces, some owed⟩
  | .stray => ⟨.malformed 0 :: pieces, none⟩

/-- Take one byte. A byte that cannot continue the character begun ends that piece as malformed
and opens the next. -/
def step (state : Decoder) (byte : UInt8) : Decoder :=
  match state.owed with
  | none => openPiece state.pieces byte
  | some owed =>
    if owed.low ≤ byte && byte ≤ owed.high then
      let bits := owed.bits * 64 + (byte &&& 0x3F).toNat
      match owed.missing with
      | 0 => ⟨.char (.ofNat bits) :: state.pieces, none⟩
      | missing + 1 => ⟨state.pieces, some ⟨bits, owed.extra + 1, missing, 0x80, 0xBF⟩⟩
    else
      -- the byte belongs to the next piece, so that no more is malformed than has to be
      openPiece (.malformed owed.extra :: state.pieces) byte

/-- The pieces at the end of the bytes. -/
def finish (state : Decoder) : Document :=
  (match state.owed with
    | none => state.pieces
    | some owed => .malformed owed.extra :: state.pieces).reverse

end Decoder

/-- The document that some bytes spell. -/
def Document.ofBytes (bytes : List UInt8) : Document :=
  (bytes.foldl Decoder.step {}).finish

/-- The pieces of a text take as many bytes as its characters. -/
theorem Document.map_size_ofString (text : String) :
    (Document.ofString text).map Piece.size = text.toList.map Char.utf8Size := by
  simp [Document.ofString, Function.comp_def, Piece.size]

end BuildScope.Text
