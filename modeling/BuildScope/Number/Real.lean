/-!
# Real Numbers in Decimal

The texts that spell a real number: a sign, digits with a point among them or at either end, and an
exponent of ten, of which only some digits are required. The words for infinity and for no number
count as well.

* `isReal`: whether a text spells a real number.
* `isReal_of_isDigits`: digits alone do.
-/

namespace BuildScope.Number

/-- A text without the sign that it may begin with. -/
def dropSign : List Char → List Char
  | '+' :: rest | '-' :: rest => rest
  | text => text

/-- Whether a text is digits, at least one. -/
def isDigits (text : List Char) : Bool :=
  !text.isEmpty && text.all Char.isDigit

/-- Whether a text is an exponent, if it is anything. -/
def isExponent : List Char → Bool
  | [] => true
  | c :: rest => (c == 'e' || c == 'E') && isDigits (dropSign rest)

/-- Whether a text without a sign spells a finite number. -/
def isFinite (text : List Char) : Bool :=
  let whole := text.takeWhile Char.isDigit
  match text.dropWhile Char.isDigit with
  | '.' :: rest =>
    !(whole ++ rest.takeWhile Char.isDigit).isEmpty && isExponent (rest.dropWhile Char.isDigit)
  | rest => !whole.isEmpty && isExponent rest

/-- Whether a word, whatever the case of its letters, stands for infinity or for no number. -/
def isSpecial (text : List Char) : Bool :=
  ["inf", "infinity", "nan"].contains (String.ofList text).toLower

/-- Whether a text spells a real number. -/
def isReal (text : List Char) : Bool :=
  let unsigned := dropSign text
  isSpecial unsigned || isFinite unsigned

/-- Whole numbers are real numbers. -/
theorem isReal_of_isDigits {text : List Char} (h : isDigits text) : isReal text := by
  simp only [isDigits, Bool.and_eq_true, Bool.not_eq_true', List.isEmpty_eq_false_iff,
    List.all_eq_true] at h
  obtain ⟨hne, hdigits⟩ := h
  have hsign : dropSign text = text := by
    unfold dropSign
    split
    · exact absurd (hdigits '+' (List.mem_cons_self ..)) (by decide)
    · exact absurd (hdigits '-' (List.mem_cons_self ..)) (by decide)
    · rfl
  have htake : text.takeWhile Char.isDigit = text := by
    simpa using @List.takeWhile_append_of_pos _ Char.isDigit text [] hdigits
  have hdrop : text.dropWhile Char.isDigit = [] := by
    simpa using @List.dropWhile_append_of_pos _ Char.isDigit text [] hdigits
  simp [isReal, hsign, isFinite, htake, hdrop, hne, isExponent]

end BuildScope.Number
