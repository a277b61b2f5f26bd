import BuildScope.Text.Hidden

/-!
# Quoted Text

The form in which a message shows a name: between double quotes, with what a reader could not see
spelled out.

* `quote_of_shown`: a text without quotes, backslashes and hidden characters is shown as it is.
-/

namespace BuildScope.Text

/-- Hexadecimal digits of a number, in lower case and without leading zeros. -/
def hexDigits (n : Nat) : List Char :=
  Nat.toDigits 16 n

/-- How a quoted text shows one character. -/
def quoteChar (c : Char) : List Char :=
  match c with
  | '"' => ['\\', '"']
  | '\\' => ['\\', '\\']
  | '\x00' => ['\\', '0']
  | '\t' => ['\\', 't']
  | '\n' => ['\\', 'n']
  | '\r' => ['\\', 'r']
  | _ => if isHidden c then ['\\', 'u', '\x7b'] ++ hexDigits c.toNat ++ ['\x7d'] else [c]

/-- A text between double quotes. -/
def quote (text : String) : String :=
  .ofList ('"' :: text.toList.flatMap quoteChar ++ ['"'])

/-- A character that needs no escape is shown as it is. -/
theorem quoteChar_of_shown {c : Char} (hq : c ≠ '"') (hb : c ≠ '\\') (h : isHidden c = false) :
    quoteChar c = [c] := by
  unfold quoteChar
  split <;> simp_all [isHidden]

/-- A text of shown characters stands between the quotes unchanged. -/
theorem quote_of_shown {text : String}
    (h : ∀ c ∈ text.toList, c ≠ '"' ∧ c ≠ '\\' ∧ isHidden c = false) :
    quote text = .ofList ('"' :: text.toList ++ ['"']) := by
  have shown (l : List Char) (h : ∀ c ∈ l, c ≠ '"' ∧ c ≠ '\\' ∧ isHidden c = false) :
      l.flatMap quoteChar = l := by
    induction l with
    | nil => rfl
    | cons c rest ih =>
      obtain ⟨hc, hrest⟩ := List.forall_mem_cons.1 h
      simp [quoteChar_of_shown hc.1 hc.2.1 hc.2.2, ih hrest]
  simp [quote, shown text.toList h]

end BuildScope.Text
