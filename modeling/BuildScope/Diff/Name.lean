import BuildScope.Text.Blank
import BuildScope.Text.DecimalDigit

/-!
# Stable Names

Names of symbols carry numbers that change from build to build: those that macros and toolchains
append, and those of anonymous classes. The functions here take such numbers off, so that names
can be compared across builds.

* `stripNumbers`: a name without its unstable numbers.
* `shortName`: an unqualified name without clone suffix and placeholder number as well.
-/

namespace BuildScope.Name

open Text (isBlank isDecimalDigit)

/-- Whether a character belongs to the numbering that tools append to a name. -/
def isNumbering (c : Char) : Bool :=
  c.isDigit || c == '.'

/-- Whether a text begins with a decimal digit. -/
def startsWithDigit (text : List Char) : Bool :=
  text.head?.any isDecimalDigit

/-- The characters of a name that are kept: not the dots and digits at its end, and no dollar sign
before a decimal digit with the digits after it. `inNumber` says that the text follows such a
dollar sign, with nothing but digits between. -/
def keepStable (inNumber : Bool) : List Char → List Char
  | [] => []
  | c :: rest =>
    if inNumber && isDecimalDigit c then keepStable true rest
    -- what is left of the name is numbering and goes as a whole
    else if (c :: rest).all isNumbering then []
    else if c = '$' && startsWithDigit rest then keepStable true rest
    else c :: keepStable false rest

/-- A name without its unstable numbers. -/
def stripNumbers (name : String) : String :=
  .ofList (keepStable false name.toList)

/-- How the suffix of a clone begins. -/
def cloneMark : List Char :=
  " [clone ".toList

/-- A text up to the first clone suffix. -/
def dropClone : List Char → List Char
  | [] => []
  | c :: rest => if cloneMark.isPrefixOf (c :: rest) then [] else c :: dropClone rest

/-- Whether a text is a space, and a remark in parentheses up to the end of the text. The remark
may hold parentheses but no line break. -/
def isRemark : List Char → Bool
  | ' ' :: '(' :: rest =>
    match rest.reverse with
    | ')' :: remark => !remark.contains '\n'
    | _ => false
  | _ => false

/-- Whether a text is white space, a number, and perhaps a remark. -/
def isPlaceholderNumber (text : List Char) : Bool :=
  let afterBlanks := text.dropWhile isBlank
  let afterDigits := afterBlanks.dropWhile isDecimalDigit
  text.head?.any isBlank && startsWithDigit afterBlanks
    && (afterDigits.isEmpty || isRemark afterDigits)

/-- A text whose number at the end, with its remark, is replaced by the plural ending. -/
def pluralize : List Char → List Char
  | [] => []
  | c :: rest => if isPlaceholderNumber (c :: rest) then ['s'] else c :: pluralize rest

/-- An unqualified name without its unstable numbers and clone suffix. The numbers that tell
placeholders apart, whose names begin with a star, are left out too. -/
def shortName (name : String) : String :=
  let stable := dropClone (keepStable false name.toList)
  .ofList (if stable.head? = some '*' then pluralize stable else stable)

/-! ## Small laws -/

@[simp]
theorem keepStable_nil (inNumber : Bool) : keepStable inNumber [] = [] := rfl

@[simp]
theorem dropClone_nil : dropClone [] = [] := rfl

@[simp]
theorem pluralize_nil : pluralize [] = [] := rfl

/-- Nothing is added to a name. -/
theorem keepStable_sublist (inNumber : Bool) (text : List Char) :
    (keepStable inNumber text).Sublist text := by
  induction text generalizing inNumber with
  | nil => exact .slnil
  | cons c rest ih =>
    unfold keepStable
    split
    · exact (ih true).cons c
    split
    · exact List.nil_sublist _
    split
    · exact (ih true).cons c
    · exact (ih false).cons_cons c

/-- A clone suffix is cut off at the end of a name only. -/
theorem dropClone_prefix (text : List Char) : dropClone text <+: text := by
  induction text with
  | nil => exact List.prefix_rfl
  | cons c rest ih =>
    unfold dropClone
    split
    · exact List.nil_prefix
    · exact List.cons_prefix_cons.2 ⟨rfl, ih⟩

end BuildScope.Name
