/-!
# Parts of a Text

A text cut at every occurrence of a character.

* `length_parts`: there is one part more than there are occurrences.
* `intercalate_parts`: the parts, joined by the character, are the text.
* `isWithin_iff`: whether a text occurs in another one.
-/

namespace BuildScope.Text

/-- The parts of a text between the occurrences of a character. -/
def parts (separator : Char) : List Char → List (List Char)
  | [] => [[]]
  | c :: rest =>
    if c = separator then [] :: parts separator rest
    else
      match parts separator rest with
      | [] => [[c]]
      | part :: more => (c :: part) :: more

/-- A text has one part more than it has separators. -/
theorem length_parts (separator : Char) (text : List Char) :
    (parts separator text).length = text.count separator + 1 := by
  induction text with
  | nil => rfl
  | cons c rest ih =>
    rw [parts]
    split
    · rename_i h
      simp [h, ih]
    · rename_i h
      split <;> simp_all

/-- A text has at least one part. -/
theorem parts_ne_nil (separator : Char) (text : List Char) : parts separator text ≠ [] := by
  intro h
  have := length_parts separator text
  simp [h] at this

/-- The parts of a text make up the text again. -/
theorem intercalate_parts (separator : Char) (text : List Char) :
    [separator].intercalate (parts separator text) = text := by
  induction text with
  | nil => rfl
  | cons c rest ih =>
    obtain ⟨part, more, h⟩ := List.exists_cons_of_ne_nil (parts_ne_nil separator rest)
    rw [parts]
    split
    · rename_i hc
      simpa [h, hc] using ih
    · cases more <;> simp_all

/-- No part of a text has a separator in it. -/
theorem separator_notMem_of_mem_parts {separator : Char} {text part : List Char}
    (h : part ∈ parts separator text) : separator ∉ part := by
  induction text generalizing part with
  | nil => simp_all [parts]
  | cons c rest ih =>
    obtain ⟨first, more, hrest⟩ := List.exists_cons_of_ne_nil (parts_ne_nil separator rest)
    rw [hrest] at ih
    rw [parts, hrest] at h
    split at h
    · rcases List.mem_cons.1 h with h | h
      · simp [h]
      · exact ih h
    · rename_i hc
      rcases List.mem_cons.1 h with h | h
      · subst h
        simp [Ne.symm hc, ih (List.mem_cons_self ..)]
      · exact ih (List.mem_cons_of_mem _ h)

/-- A text without separators is one part. -/
theorem parts_eq_singleton {separator : Char} {text : List Char} (h : separator ∉ text) :
    parts separator text = [text] := by
  induction text with
  | nil => rfl
  | cons c rest ih =>
    simp only [List.mem_cons, not_or] at h
    rw [parts, if_neg (Ne.symm h.1), ih h.2]

/-- The first part of a text goes up to its first separator. -/
theorem parts_append_cons {separator : Char} {part : List Char} (rest : List Char)
    (h : separator ∉ part) :
    parts separator (part ++ separator :: rest) = part :: parts separator rest := by
  induction part with
  | nil => simp [parts]
  | cons c part ih =>
    simp only [List.mem_cons, not_or] at h
    rw [List.cons_append, parts, if_neg (Ne.symm h.1), ih h.2]

/-- Whether a text occurs within another one. -/
def isWithin (inner : List Char) : List Char → Bool
  | [] => inner.isEmpty
  | c :: rest => inner.isPrefixOf (c :: rest) || isWithin inner rest

/-- A text occurs within the texts that are made of something, it, and something else. -/
theorem isWithin_iff {inner outer : List Char} : isWithin inner outer ↔ inner <:+: outer := by
  induction outer with
  | nil => simp [isWithin]
  | cons c rest ih => simp [isWithin, ih, List.infix_cons_iff]

end BuildScope.Text
