import BuildScope.Diff.Matching

/-!
# Deltas

What became of a symbol between two builds, and by how many bytes. Symbols that share an address can
be put together into one delta, which counts the bytes of each side once.

* `Delta.size`: the bytes gained, or the overflow of a step on the way to them.
* `Delta.status`: whether the symbol changed, appeared or disappeared.
-/

namespace BuildScope

open Number (Overflow Checked.add Checked.sub)

/-- How a symbol changed between two builds. -/
inductive Status where
  /-- In both builds, with the same size. -/
  | unchanged
  /-- In both builds, with another size. -/
  | changed
  /-- In the new build only. -/
  | added
  /-- In the old build only. -/
  | removed
  deriving DecidableEq, Repr

namespace Status

/-- Name of a status in documents. -/
def label : Status → String
  | .unchanged => "unchanged"
  | .changed => "changed"
  | .added => "added"
  | .removed => "removed"

/-- Mark of a status in reports. -/
def mark : Status → Char
  | .unchanged => '='
  | .changed => '~'
  | .added => '+'
  | .removed => '-'

end Status

/-- The two sides of a delta. -/
structure Sides where
  /-- The symbol of the old build, if any. -/
  before : Option Side
  /-- The symbol of the new build, if any. -/
  after : Option Side
  deriving DecidableEq, Repr

namespace Sides

/-- The newer side, which names the delta. -/
def newer? (sides : Sides) : Option Side :=
  sides.after.or sides.before

/-- Change of a number of bytes. A side that is missing has none. -/
def change (sides : Sides) (bytes : Symbol → Except Overflow Int64) : Except Overflow Int64 := do
  let of (side : Option Side) : Except Overflow Int64 :=
    match side with
    | none => .ok 0
    | some side => bytes side.symbol
  let before ← of sides.before
  let after ← of sides.after
  Checked.sub after before

/-- Change of a proportional number of bytes. A side that is missing has none. -/
def changeShare (sides : Sides) (bytes : Symbol → Float) : Float :=
  let of (side : Option Side) : Float := (side.map fun side => bytes side.symbol).getD 0
  of sides.after - of sides.before

/-- Change of size, padding excluded. -/
def sizeWithoutPadding (sides : Sides) : Except Overflow Int64 :=
  sides.change Symbol.sizeWithoutPadding

/-- Change of padding, if the delta answers for it. -/
def padding (sides : Sides) (attributed : Bool) : Except Overflow Int64 :=
  if attributed then sides.change fun sym => .ok sym.padding else .ok 0

/-- Change of proportional size, with that of the padding if the delta answers for it. -/
def pss (sides : Sides) (attributed : Bool) : Float :=
  let bare := sides.changeShare fun sym => sym.pss - sym.paddingPss
  if attributed then bare + sides.changeShare Symbol.paddingPss else bare

end Sides

/-- What became of one symbol. -/
inductive Change where
  /-- It is in both builds. -/
  | matched (before after : Side)
  /-- It is in the new build only. -/
  | added (after : Side)
  /-- It is in the old build only. -/
  | removed (before : Side)
  deriving DecidableEq, Repr

namespace Change

/-- The sides of a change. -/
def sides : Change → Sides
  | .matched before after => ⟨some before, some after⟩
  | .added after => ⟨none, some after⟩
  | .removed before => ⟨some before, none⟩

/-- Whether the delta of a change answers for its padding. The padding of symbols that are matched
by their contents is accounted for in total, unless they consist of nothing else. -/
def attributesPadding : Change → Except Overflow Bool
  | .added _ | .removed _ => .ok true
  | .matched before after => do
    if after.symbol.isOverhead then return true
    -- a symbol with other contents has its padding in the totals of its segment
    if (← before.symbol.sizeWithoutPadding) ≠ 0 then return false
    return (← after.symbol.sizeWithoutPadding) = 0

end Change

/-- What became of a symbol, or of several symbols that share an address. -/
inductive Delta where
  /-- One symbol. -/
  | single (change : Change)
  /-- Aliases of one symbol. The sides are those of the first members that have them. -/
  | aliasGroup (sides : Sides) (members : List Delta)
  deriving Repr

namespace Delta

/-- A symbol of both builds. -/
def matched (before after : Side) : Delta :=
  .single (.matched before after)

/-- A symbol of the new build. -/
def added (after : Side) : Delta :=
  .single (.added after)

/-- A symbol of the old build. -/
def removed (before : Side) : Delta :=
  .single (.removed before)

/-- The sides of a delta. -/
def sides : Delta → Sides
  | .single change => change.sides
  | .aliasGroup sides _ => sides

/-- One delta for several, which have the same newer symbol. -/
def ofAliases (members : List Delta) : Delta :=
  .aliasGroup
    { before := members.findSome? fun delta => delta.sides.before
      after := members.findSome? fun delta => delta.sides.after }
    members

/-- The members of an alias group. -/
def members : Delta → List Delta
  | .single _ => []
  | .aliasGroup _ members => members

/-- Number of aliases that a delta stands for. -/
def aliasCount (delta : Delta) : Nat :=
  max delta.members.length 1

/-- The symbol that names a delta, which is that of the newer side. -/
def symbol? (delta : Delta) : Option Symbol :=
  delta.sides.newer?.map Side.symbol

/-- A text of the symbol that names a delta. -/
def textOf (delta : Delta) (text : Symbol → String) : String :=
  (delta.symbol?.map text).getD ""

/-- Full name of a delta. -/
def fullName (delta : Delta) : String :=
  delta.textOf Symbol.fullName

/-- Unqualified name of a delta. -/
def name (delta : Delta) : String :=
  delta.textOf Symbol.name

/-- Container of a delta. -/
def containerName (delta : Delta) : String :=
  delta.textOf Symbol.containerName

/-- Raw section name of a delta. -/
def sectionName (delta : Delta) : String :=
  delta.textOf Symbol.sectionName

/-- Section of a delta. -/
def sectionClass (delta : Delta) : SectionClass :=
  .ofName delta.sectionName

/-- Whether a delta accounts for bytes of no real symbol. -/
def isOverhead (delta : Delta) : Bool :=
  delta.symbol?.any Symbol.isOverhead

mutual

/-- Whether a delta answers for its padding; an alias group does if all its members do. -/
def attributesPadding : Delta → Except Overflow Bool
  | .single change => change.attributesPadding
  | .aliasGroup _ members => allAttributePadding members

/-- Whether all of some deltas answer for their padding. -/
def allAttributePadding : List Delta → Except Overflow Bool
  | [] => .ok true
  | delta :: deltas => do
    if ← delta.attributesPadding then allAttributePadding deltas else .ok false

end

/-- Change of size, padding excluded. -/
def sizeWithoutPadding (delta : Delta) : Except Overflow Int64 :=
  delta.sides.sizeWithoutPadding

/-- Change of padding that the delta answers for. -/
def padding (delta : Delta) : Except Overflow Int64 := do
  delta.sides.padding (← delta.attributesPadding)

/-- Change of size. -/
def size (delta : Delta) : Except Overflow Int64 := do
  Checked.add (← delta.sizeWithoutPadding) (← delta.padding)

mutual

/-- Change of proportional size; that of an alias group is the sum of those of its members. -/
def pss : Delta → Except Overflow Float
  | .single change => do
    return change.sides.pss (← change.attributesPadding)
  | .aliasGroup _ members => sumPss 0 members

/-- Sum of proportional sizes, from the left. -/
def sumPss (sum : Float) : List Delta → Except Overflow Float
  | [] => .ok sum
  | delta :: deltas => do
    sumPss (sum + (← delta.pss)) deltas

end

/-- A change of proportional size up to this one is none. -/
def threshold : Float :=
  .ofBits 0x3CB0000000000000

/-- Status of a symbol that is in both builds. -/
def statusOfBoth (delta : Delta) : Except Overflow Status := do
  if (← delta.size) ≠ 0 then return .changed
  -- the aliases among which the bytes are divided may have become more or fewer
  return if threshold < (← delta.pss).abs then .changed else .unchanged

/-- Status of a delta from its sides. -/
def statusOfSides (delta : Delta) : Except Overflow Status :=
  match delta.sides.before, delta.sides.after with
  | none, _ => .ok .added
  | some _, none => .ok .removed
  | some _, some _ => delta.statusOfBoth

mutual

/-- Status of a delta. An alias group is added or removed if all its members are. -/
def status : Delta → Except Overflow Status
  | .single change => statusOfSides (.single change)
  | .aliasGroup sides members => do
    if ← allHaveStatus .added members then return .added
    if ← allHaveStatus .removed members then return .removed
    statusOfSides (.aliasGroup sides members)

/-- Whether all of some deltas have a status. -/
def allHaveStatus (wanted : Status) : List Delta → Except Overflow Bool
  | [] => .ok true
  | delta :: deltas => do
    if (← delta.status) = wanted then allHaveStatus wanted deltas else .ok false

end

end Delta

/-- A line of a report about one delta. -/
structure DeltaRecord where
  /-- Status of the delta. -/
  status : Status
  /-- Its container. -/
  container : String
  /-- Its raw section name. -/
  sectionName : String
  /-- Its full name. -/
  fullName : String
  /-- Change of size. -/
  size : Int64
  /-- Change of padding that it answers for. -/
  padding : Int64
  /-- Change of proportional size. -/
  pss : Float
  /-- Number of aliases that it stands for. -/
  aliases : Nat
  deriving Repr

/-- The line of a report about a delta. -/
def Delta.record (delta : Delta) : Except Overflow DeltaRecord := do
  let status ← delta.status
  let size ← delta.size
  let padding ← delta.padding
  let pss ← delta.pss
  return {
    status, size, padding, pss
    container := delta.containerName
    sectionName := delta.sectionName
    fullName := delta.fullName
    aliases := delta.aliasCount }

end BuildScope
