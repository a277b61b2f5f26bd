/-!
# Symbol Flags

The attributes of a symbol, a set of bits.

* `contains_iff`: a set contains another exactly if it has every bit of it.
-/

namespace BuildScope

/-- A set of attributes of a symbol. -/
structure SymbolFlags where
  /-- The bits of the set. -/
  bits : UInt32 := 0
  deriving DecidableEq, Repr

namespace SymbolFlags

/-- The symbol lies in an anonymous namespace. -/
def anonymous : SymbolFlags := ⟨1⟩

/-- The symbol is placed in the startup section. -/
def startup : SymbolFlags := ⟨2⟩

/-- The symbol is placed in the section of code that is unlikely to run. -/
def unlikely : SymbolFlags := ⟨4⟩

/-- The symbol lies in a relocated section. -/
def rel : SymbolFlags := ⟨8⟩

/-- The symbol lies in a locally relocated section. -/
def relLocal : SymbolFlags := ⟨16⟩

/-- The symbol comes from a generated source file. -/
def generatedSource : SymbolFlags := ⟨32⟩

/-- The symbol is a clone that the compiler made. -/
def clone : SymbolFlags := ⟨64⟩

/-- The symbol is placed in the hot section. -/
def hot : SymbolFlags := ⟨128⟩

/-- Several symbols share the full name of the symbol. -/
def notUnique : SymbolFlags := ⟨256⟩

/-- Every named attribute, by its bit. -/
def named : List SymbolFlags :=
  [anonymous, startup, unlikely, rel, relLocal, generatedSource, clone, hot, notUnique]

/-- The attributes of either set. -/
def union (a b : SymbolFlags) : SymbolFlags :=
  ⟨a.bits ||| b.bits⟩

/-- Whether a set has every attribute of another. -/
def contains (a b : SymbolFlags) : Bool :=
  a.bits &&& b.bits == b.bits

/-- A set contains another exactly if adding that one changes nothing. -/
theorem contains_iff {a b : SymbolFlags} : a.contains b ↔ a.bits &&& b.bits = b.bits := by
  simp [contains]

/-- A union contains its parts. -/
@[simp]
theorem contains_union_right (a b : SymbolFlags) : (a.union b).contains b := by
  rw [contains_iff, union, ← UInt32.toBitVec_inj]
  ext i hi
  simp only [UInt32.toBitVec_and, UInt32.toBitVec_or, BitVec.getElem_and, BitVec.getElem_or]
  cases a.bits.toBitVec[i] <;> cases b.bits.toBitVec[i] <;> rfl

end SymbolFlags

end BuildScope
