/-!
# White Space

The characters with the property White_Space, and the text left when they are taken off both ends.

* `isBlank_of_isWhitespace`: every character that the core library calls white space is blank.
* `trim_eq_self`: a text that neither starts nor ends with a blank is its own trimmed text.
-/

namespace BuildScope.Text

/-- Whether a character is white space: the controls from tab to carriage return, next line, and
every kind of space and separator. -/
def isBlank (c : Char) : Bool :=
  let n := c.toNat
  (0x09 ≤ n && n ≤ 0x0D) || n == 0x20 || n == 0x85 || n == 0xA0 || n == 0x1680
    || (0x2000 ≤ n && n ≤ 0x200A) || n == 0x2028 || n == 0x2029 || n == 0x202F || n == 0x205F
    || n == 0x3000

/-- White space of the core library is blank. -/
theorem isBlank_of_isWhitespace {c : Char} (h : c.isWhitespace) : isBlank c := by
  simp only [Char.isWhitespace, Bool.or_eq_true, decide_eq_true_eq] at h
  rcases h with ((h | h) | h) | h <;> subst h <;> rfl

/-- Characters left when the blank ones at both ends are dropped. -/
def trim (text : List Char) : List Char :=
  ((text.dropWhile isBlank).reverse.dropWhile isBlank).reverse

/-- A text with no blank end is left as it is. -/
theorem trim_eq_self {text : List Char} (hhead : ∀ c ∈ text.head?, isBlank c = false)
    (hlast : ∀ c ∈ text.reverse.head?, isBlank c = false) : trim text = text := by
  have drop {l : List Char} (h : ∀ c ∈ l.head?, isBlank c = false) :
      l.dropWhile isBlank = l := by
    cases l with
    | nil => rfl
    | cons c rest => simp [h c rfl]
  rw [trim, drop hhead, drop hlast, List.reverse_reverse]

end BuildScope.Text
