import BuildScope.Number.Checked
import BuildScope.Snapshot.Flags
import BuildScope.Snapshot.Section

/-!
# Symbols

The named, sized units of compiled output. Sizes are signed, since the symbols that account for
overhead can have negative ones.

* `Symbol.sizeWithoutPadding_eq_ok_iff`: the size without padding is the exact difference.
* `Symbol.isNameUnique_iff`: which full names identify a symbol on their own.
-/

namespace BuildScope

open Number (Overflow Checked.sub Checked.sub_eq_ok_iff)

/-- A named, sized unit of compiled output. -/
structure Symbol where
  /-- Container that owns the symbol. -/
  containerName : String := ""
  /-- Raw name of its section. -/
  sectionName : String
  /-- Start address, if it has one. -/
  address : UInt64 := 0
  /-- Bytes of the symbol, padding included. -/
  size : Int64
  /-- Bytes before the symbol that only align it. -/
  padding : Int64 := 0
  /-- Qualified name with the signature. -/
  fullName : String := ""
  /-- Qualified name without template arguments and signature. -/
  templateName : String := ""
  /-- Unqualified name. -/
  name : String := ""
  /-- Source file, or empty. -/
  sourcePath : String := ""
  /-- Object file, or empty. -/
  objectPath : String := ""
  /-- Attributes. -/
  flags : SymbolFlags := {}
  /-- Number of symbols at the same address, this one included. -/
  numAliases : UInt32 := 1
  deriving DecidableEq, Repr

/-- How the names of the symbols begin that account for bytes of no real symbol. -/
def overheadMark : String := "Overhead: "

namespace Symbol

/-- Give all three names of a symbol the same text. -/
def setName (sym : Symbol) (name : String) : Symbol :=
  { sym with fullName := name, templateName := name, name }

/-- Section of the symbol. -/
def sectionClass (sym : Symbol) : SectionClass :=
  .ofName sym.sectionName

/-- Bytes of the symbol without its padding. -/
def sizeWithoutPadding (sym : Symbol) : Except Overflow Int64 :=
  Checked.sub sym.size sym.padding

/-- A number of bytes divided evenly among the aliases of the symbol. -/
def share (sym : Symbol) (bytes : Int64) : Float :=
  .ofInt bytes.toInt / .ofNat (max sym.numAliases.toNat 1)

/-- Proportional size: the size divided among the aliases. -/
def pss (sym : Symbol) : Float :=
  sym.share sym.size

/-- The padding divided among the aliases. -/
def paddingPss (sym : Symbol) : Float :=
  sym.share sym.padding

/-- Source file when known, otherwise the object file. -/
def path (sym : Symbol) : String :=
  if sym.sourcePath.isEmpty then sym.objectPath else sym.sourcePath

/-- Whether the symbol accounts for bytes of no real symbol. -/
def isOverhead (sym : Symbol) : Bool :=
  overheadMark.toList.isPrefixOf sym.fullName.toList

/-- Whether the full name is that of a placeholder, which begins with a star. -/
def isPlaceholder (sym : Symbol) : Bool :=
  sym.fullName.toList.head? == some '*'

/-- Whether the full name identifies the symbol on its own. -/
def isNameUnique (sym : Symbol) : Bool :=
  !(sym.flags.contains .notUnique || sym.isPlaceholder || sym.isOverhead)

/-- The line that shows a symbol. -/
def display (sym : Symbol) : String :=
  s!"{sym.containerName}@{sym.sectionClass.code} {sym.fullName} ({sym.size.toInt} bytes)"

/-- The size without padding is the exact difference, if that fits. -/
theorem sizeWithoutPadding_eq_ok_iff {sym : Symbol} {n : Int64} :
    sym.sizeWithoutPadding = .ok n ↔ n.toInt = sym.size.toInt - sym.padding.toInt :=
  Checked.sub_eq_ok_iff

/-- A symbol is overhead exactly if its full name begins with the mark of overhead. -/
theorem isOverhead_iff {sym : Symbol} :
    sym.isOverhead ↔ overheadMark.toList <+: sym.fullName.toList :=
  List.isPrefixOf_iff_prefix

/-- A full name identifies a symbol unless a flag denies it, or it is one of a placeholder or of
overhead. -/
theorem isNameUnique_iff {sym : Symbol} :
    sym.isNameUnique ↔ sym.flags.contains .notUnique = false ∧ sym.isPlaceholder = false ∧
      sym.isOverhead = false := by
  simp [isNameUnique, and_assoc]

end Symbol

end BuildScope
