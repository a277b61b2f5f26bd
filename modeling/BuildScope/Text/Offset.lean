import BuildScope.Text.Quoted

/-!
# Byte Offsets

Places in a text given by the number of bytes before them. Such a place may lie inside of a
character, and then the text cannot be cut there.

* `splitAt_byteSize_append`: a text is cut between its characters as one would expect.
* `slice`: the part of a text between two places.
-/

namespace BuildScope.Text

/-- Number of bytes of a text. -/
def byteSize : List Char → Nat
  | [] => 0
  | c :: rest => c.utf8Size + byteSize rest

/-- The characters of a text, each with the number of bytes before it. -/
def withOffsets (offset : Nat) : List Char → List (Nat × Char)
  | [] => []
  | c :: rest => (offset, c) :: withOffsets (offset + c.utf8Size) rest

/-- Offsets take no character away and add none. -/
@[simp]
theorem map_snd_withOffsets (offset : Nat) (text : List Char) :
    (withOffsets offset text).map Prod.snd = text := by
  induction text generalizing offset with
  | nil => rfl
  | cons c rest ih => simp [withOffsets, ih]

/-- A place inside of a character. -/
structure Inside where
  /-- The character. -/
  char : Char
  /-- How many of its bytes are before the place. -/
  bytes : Nat
  deriving DecidableEq, Repr

/-- The parts of a text before and after a place. The end of the text is as far as a place goes. -/
def splitAt (offset : Nat) : List Char → Except Inside (List Char × List Char)
  | [] => .ok ([], [])
  | c :: rest =>
    if offset = 0 then .ok ([], c :: rest)
    else if offset < c.utf8Size then .error ⟨c, offset⟩
    else (splitAt (offset - c.utf8Size) rest).map fun (before, after) => (c :: before, after)

/-- A text is cut where one of its parts ends. -/
theorem splitAt_byteSize_append (before after : List Char) :
    splitAt (byteSize before) (before ++ after) = .ok (before, after) := by
  induction before with
  | nil => cases after <;> simp [splitAt, byteSize]
  | cons c before ih =>
    have hpos := c.utf8Size_pos
    have hsize : byteSize (c :: before) = c.utf8Size + byteSize before := rfl
    rw [List.cons_append, splitAt, if_neg (by omega), if_neg (by omega), hsize,
      Nat.add_sub_cancel_left, ih]
    rfl

/-- An edge of a part of a text. -/
inductive Edge where
  /-- Where it starts. -/
  | start
  /-- Where it ends. -/
  | stop
  deriving DecidableEq, Repr

/-- Why a part cannot be cut out of a text: one of its edges is inside of a character. -/
structure CutFault where
  /-- The edge. -/
  edge : Edge
  /-- The place of the edge. -/
  offset : Nat
  /-- The place in its character. -/
  inside : Inside
  deriving DecidableEq, Repr

/-- What is reported of a fault. -/
def CutFault.message (fault : CutFault) : String :=
  let edge := match fault.edge with
    | .start => "start"
    | .stop => "end"
  let first := fault.offset - fault.inside.bytes
  let last := first + fault.inside.char.utf8Size
  let shown := String.ofList (quoteChar fault.inside.char)
  s!"{edge} byte index {fault.offset} is not a char boundary; it is inside '{shown}' "
    ++ s!"(bytes {first}..{last} of string)"

/-- The rest of a text from a place on. -/
def sliceFrom (text : List Char) (start : Nat) : Except CutFault (List Char) :=
  ((splitAt start text).mapError (CutFault.mk .start start)).map Prod.snd

/-- The part of a text between two places. The first of them is looked at first. -/
def slice (text : List Char) (start stop : Nat) : Except CutFault (List Char) := do
  let rest ← sliceFrom text start
  let (part, _) ← (splitAt (stop - start) rest).mapError (CutFault.mk .stop stop)
  return part

end BuildScope.Text
