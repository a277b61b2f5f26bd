/-!
# Sections

The section of a binary that a symbol lies in. Several raw names can be one section, since tools
disagree on how to spell it, and symbols are compared by section.

* `SectionClass.code_injective`: a section is known from its code.
-/

namespace BuildScope

/-- A well-known section of a binary. -/
inductive SectionClass where
  /-- Data that starts as zero. -/
  | bss
  /-- Initialized data. -/
  | data
  /-- Data that is read-only once it is relocated. -/
  | dataRelRo
  /-- Read-only data. -/
  | rodata
  /-- Machine code. -/
  | text
  /-- What a dex file holds beside its methods. -/
  | dex
  /-- Methods of a dex file. -/
  | dexMethod
  /-- Resources that are not translated. -/
  | pakNontranslated
  /-- Translated resources. -/
  | pakTranslations
  /-- Every other section. -/
  | other
  deriving DecidableEq, Hashable, Repr

namespace SectionClass

/-- The section with a raw name. -/
def ofName (name : String) : SectionClass :=
  match name with
  | ".bss" | ".bss.rel.ro" => .bss
  | ".data" => .data
  | ".data.rel.ro" | ".data.rel.ro.local" => .dataRelRo
  | ".rodata" => .rodata
  | ".text" => .text
  | ".dex" => .dex
  | ".dex.method" => .dexMethod
  | ".pak.nontranslated" => .pakNontranslated
  | ".pak.translations" => .pakTranslations
  | _ => .other

/-- The character that stands for a section in reports. -/
def code : SectionClass → Char
  | .bss => 'b'
  | .data => 'd'
  | .dataRelRo => 'R'
  | .rodata => 'r'
  | .text => 't'
  | .dex => 'x'
  | .dexMethod => 'm'
  | .pakNontranslated => 'P'
  | .pakTranslations => 'p'
  | .other => 'o'

/-- Different sections have different codes. -/
theorem code_injective {a b : SectionClass} (h : a.code = b.code) : a = b := by
  revert h
  cases a <;> cases b <;> decide

end SectionClass

end BuildScope
