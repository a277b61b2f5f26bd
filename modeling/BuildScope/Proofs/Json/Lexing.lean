import BuildScope.Proofs.Json.Range

/-!
# The Text of a Value

The lexer on the text that a value is printed as. Most parts of the text leave the lexer between
tokens. A number does not, since more digits might follow; but whatever the printer puts after it,
and the end of the document as well, ends it.

* `Lexer.Takes`, `Lexer.Spells`: some characters are read as some tokens.
* `Lexer.takes_printText`: texts are read back, whatever their characters.
* `Lexer.spells_printNumber`: integers of 64 bits are read back.
* `Value.tokens_ofString_pretty`: the tokens of the text of a value are the tokens of the value.
-/

namespace BuildScope.Json

open Text (Document)

/-- A number that is an integer. -/
def Number.IsInteger (n : Number) : Prop :=
  ∃ i, n = .integer i

instance (n : Number) : Decidable n.IsInteger :=
  match n with
  | .integer i => .isTrue ⟨i, rfl⟩
  | .float _ => .isFalse nofun

/-- An integer of 64 bits, signed or unsigned. -/
structure Number.IsWord (n : Number) : Prop where
  isInteger : n.IsInteger
  inRange : n.InRange

theorem Number.isWord_natCast {n : Nat} (h : n < wordLimit) : (integer n).IsWord :=
  ⟨⟨n, rfl⟩, Int.le_trans (by decide) (Int.natCast_nonneg n), Int.ofNat_lt.mpr h⟩

/-- Integers of 64 bits are words. -/
theorem Number.isWord_toInt (n : Int64) : (integer n.toInt).IsWord :=
  ⟨⟨n.toInt, rfl⟩, n.le_toInt, Int.lt_trans n.toInt_lt (by decide)⟩

namespace Lexer

/-- The lexer after some characters. -/
def read (lexer : Lexer) (chars : List Char) : Lexer :=
  chars.foldl (fun lexer c => lexer.step (.char c)) lexer

theorem read_cons (lexer : Lexer) (c : Char) (chars : List Char) :
    lexer.read (c :: chars) = (lexer.step (.char c)).read chars :=
  rfl

/-- A text is read one part after the other. -/
theorem read_append (lexer : Lexer) (chars chars' : List Char) :
    lexer.read (chars ++ chars') = (lexer.read chars).read chars' :=
  List.foldl_append

/-- The tokens of a text are those that the lexer ends with. -/
theorem tokens_ofString (text : String) :
    Json.tokens (.ofString text) = (read {} text.toList).finish := by
  rw [Json.tokens, Document.ofString, List.foldl_map]
  rfl

/-- The lexer has these tokens, be it at the end of the document or before what the printer puts
after a value. -/
structure Settled (lexer : Lexer) (ts : List Token) : Prop where
  /-- At the end of the document. -/
  finish : lexer.finish = ts.reverse
  /-- Before a comma, or the line break before the end of an array or object. -/
  step : ∀ c ∈ [',', '\n'], lexer.step (.char c) = start ts c

/-- The characters are read as the tokens, and the lexer is between tokens then. -/
def Takes (chars : List Char) (spelled : List Token) : Prop :=
  ∀ ts, read ⟨ts, .blank⟩ chars = ⟨spelled.reverse ++ ts, .blank⟩

/-- The characters are read as the tokens, perhaps not before the next character. -/
def Spells (chars : List Char) (spelled : List Token) : Prop :=
  ∀ ts, (read ⟨ts, .blank⟩ chars).Settled (spelled.reverse ++ ts)

section
variable {chars chars' : List Char} {spelled spelled' : List Token}

theorem settled_blank (ts : List Token) : Settled ⟨ts, .blank⟩ ts :=
  ⟨rfl, fun _ _ => rfl⟩

/-- What takes its tokens by itself also does at the end of a text. -/
theorem Takes.spells (h : Takes chars spelled) : Spells chars spelled := by
  intro ts
  rw [h]
  exact settled_blank _

/-- Texts that take their tokens by themselves do so one after the other. -/
theorem Takes.append (h : Takes chars spelled) (h' : Takes chars' spelled') :
    Takes (chars ++ chars') (spelled ++ spelled') := by
  intro ts
  rw [read_append, h, h', List.reverse_append, List.append_assoc]

/-- So they do before one that ends. -/
theorem Takes.append_spells (h : Takes chars spelled) (h' : Spells chars' spelled') :
    Spells (chars ++ chars') (spelled ++ spelled') := by
  intro ts
  rw [read_append, h, List.reverse_append, List.append_assoc]
  exact h' _

/-- A comma or a line break brings the lexer to where it would be between tokens. -/
theorem Spells.append_takes (h : Spells chars spelled) (h' : Takes chars' spelled') {c : Char}
    (hhead : chars'.head? = some c) (hc : c ∈ [',', '\n']) :
    Takes (chars ++ chars') (spelled ++ spelled') := by
  intro ts
  obtain ⟨rest, rfl⟩ := List.head?_eq_some_iff.mp hhead
  rw [read_append, read_cons, (h ts).step c hc, List.reverse_append, List.append_assoc]
  exact h' _

/-- A line break has no tokens. -/
theorem takes_newline (level : Nat) : Takes (newline level) [] := by
  intro ts
  have blanks (n : Nat) : read ⟨ts, .blank⟩ (List.replicate n ' ') = ⟨ts, .blank⟩ := by
    induction n with
    | zero => rfl
    | succ n ih => exact ih
  exact blanks _

end

/-! ## Texts -/

theorem hexDigit?_digitChar : ∀ d < 16, Number.hexDigit? (Nat.digitChar d) = some d := by
  decide

theorem utf8Size_digitChar : ∀ d < 16, (Nat.digitChar d).utf8Size = 1 := by
  decide

/-- A digit of an escaped code unit, unless it is the last of them. -/
theorem step_unit {draft : TextDraft} {value missing d : Nat} (hd : d < 16) :
    { draft with part := .unit (some value) (missing + 2) }.step (.char (Nat.digitChar d)) =
      .more { draft with part := .unit (some (value * 16 + d)) (missing + 1) } := by
  simp only [TextDraft.step, hexDigit?_digitChar d hd, Text.Piece.size, utf8Size_digitChar d hd,
    Option.map_some]
  rfl

/-- The last digit of an escaped code unit. -/
theorem step_unit_last {draft : TextDraft} {value d : Nat} (hd : d < 16) :
    { draft with part := .unit (some value) 1 }.step (.char (Nat.digitChar d)) =
      .more ({ draft with part := .unit (some value) 1 }.pushUnit (value * 16 + d)) := by
  simp only [TextDraft.step, hexDigit?_digitChar d hd, Text.Piece.size, utf8Size_digitChar d hd,
    Option.map_some]

section
variable {ts : List Token}

/-- Within a text, a character is taken up by its draft. -/
theorem read_cons_text {draft draft' : TextDraft} {c : Char}
    (h : draft.step (.char c) = .more draft') (chars : List Char) :
    read ⟨ts, .text draft⟩ (c :: chars) = read ⟨ts, .text draft'⟩ chars := by
  rw [read_cons]
  simp only [Lexer.step, h]

/-- Inside of a text, the characters that stand for one character are read as that one. -/
theorem read_escapeChar (before : List Char) (c : Char) :
    read ⟨ts, .text { chars := some before }⟩ (escapeChar c) =
      ⟨ts, .text { chars := some (c :: before) }⟩ := by
  unfold escapeChar
  split
  -- the characters with a short escape are closed by evaluation
  case h_8 =>
    rename_i hquote hslash _ _ _ _ _
    split
    · rename_i hcontrol
      have hunit : (0 * 16 + c.toNat / 16) * 16 + c.toNat % 16 = c.toNat := by omega
      have hpush : ({ chars := some before, part := .unit (some (0 * 16 + c.toNat / 16)) 1 } :
          TextDraft).pushUnit c.toNat = { chars := some (c :: before) } := by
        have hlow : ¬(0xDC00 ≤ c.toNat ∧ c.toNat ≤ 0xDFFF) := by omega
        have hhigh : ¬(0xD800 ≤ c.toNat ∧ c.toNat ≤ 0xDBFF) := by omega
        simp [TextDraft.pushUnit, TextDraft.push, hlow, hhigh]
      -- the backslash, the letter and the two zeros come first, whatever the character is
      change read ⟨ts, .text { chars := some before, part := .unit (some 0) 2 }⟩
        [Nat.digitChar (c.toNat / 16), Nat.digitChar (c.toNat % 16)] = _
      have hfirst := @step_unit { chars := some before } 0 0 (c.toNat / 16) (by omega)
      have hlast := @step_unit_last { chars := some before } (0 * 16 + c.toNat / 16)
        (c.toNat % 16) (by omega)
      rw [hunit, hpush] at hlast
      rw [read_cons_text hfirst, read_cons_text hlast]
      rfl
    · rename_i hprintable
      have hstep : TextDraft.step { chars := some before } (.char c) =
          .more { chars := some (c :: before) } := by
        simp only [TextDraft.step, if_neg hquote, if_neg hslash, if_neg hprintable]
        rfl
      exact read_cons_text hstep []
  all_goals rfl

/-- The characters of a text are read again from what stands for them. -/
theorem read_flatMap_escapeChar (chars before : List Char) :
    read ⟨ts, .text { chars := some before }⟩ (chars.flatMap escapeChar) =
      ⟨ts, .text { chars := some (chars.reverse ++ before) }⟩ := by
  induction chars generalizing before with
  | nil => rfl
  | cons c chars ih =>
    rw [List.flatMap_cons, read_append, read_escapeChar, ih, List.reverse_cons, List.append_assoc,
      List.singleton_append]

end

/-- A text is read back, whatever its characters. -/
theorem takes_printText (text : String) : Takes (printText text) [.text (some text)] := by
  intro ts
  have hfinish : TextDraft.finish { chars := some (text.toList.reverse ++ []) } = some text := by
    simp [TextDraft.finish, TextDraft.dropPending]
  calc read ⟨ts, .blank⟩ (printText text)
      = (read ⟨ts, .text {}⟩ (text.toList.flatMap escapeChar)).read ['"'] := by
        rw [printText, List.cons_append, read_cons, read_append]
        rfl
    _ = ⟨.text (some text) :: ts, .blank⟩ := by
        rw [read_flatMap_escapeChar, ← hfinish]
        rfl

/-! ## Numbers -/

section
variable {ts : List Token}

/-- Within a number, a digit is taken up by its draft. -/
theorem read_cons_numeral {draft draft' : NumeralDraft} {c : Char}
    (h : draft.step c = .more draft') (chars : List Char) :
    read ⟨ts, .numeral draft⟩ (c :: chars) = read ⟨ts, .numeral draft'⟩ chars := by
  rw [read_cons]
  simp only [Lexer.step, h]

theorem step_sign {numeral : Numeral} {d : Nat} (hpos : 0 < d) (hlt : d < 10) :
    NumeralDraft.step ⟨.sign, numeral⟩ (Nat.digitChar d) =
      .more (NumeralDraft.addWhole ⟨.sign, numeral⟩ .whole (Nat.digitChar d)) := by
  have hne : Nat.digitChar d ≠ '0' := fun h => Nat.ne_of_gt hpos (Nat.digitChar_eq_zero.mp h)
  simp only [NumeralDraft.step, if_neg hne, Nat.isDigit_digitChar, decide_eq_true hlt, if_true]

theorem step_whole {numeral : Numeral} {d : Nat} (hlt : d < 10) :
    NumeralDraft.step ⟨.whole, numeral⟩ (Nat.digitChar d) =
      .more (NumeralDraft.addWhole ⟨.whole, numeral⟩ .whole (Nat.digitChar d)) := by
  simp only [NumeralDraft.step, Nat.isDigit_digitChar, decide_eq_true hlt, if_true]

/-- The digits of a positive number after its sign. -/
theorem read_toDigits (negative : Bool) {n : Nat} (hpos : 0 < n) :
    read ⟨ts, .numeral ⟨.sign, { negative }⟩⟩ (Nat.toDigits 10 n) =
      ⟨ts, .numeral ⟨.whole,
        { negative, whole := (Nat.toDigits 10 n).reverse.map NumeralDraft.digit }⟩⟩ := by
  -- the last digit is the remainder by ten, the digits before it are those of the quotient
  induction n using Nat.strongRecOn with
  | ind n ih =>
    rcases Nat.lt_or_ge n 10 with hlt | hge
    · rw [Nat.toDigits_of_lt_base hlt, read_cons_numeral (step_sign hpos hlt)]
      rfl
    · have hquotient : 0 < n / 10 := Nat.div_pos hge (by decide)
      have hless : n / 10 < n := Nat.div_lt_self hpos (by decide)
      rw [Nat.toDigits_of_base_le (by decide) hge, read_append, ih _ hless hquotient,
        read_cons_numeral (step_whole (Nat.mod_lt n (by decide))), List.reverse_append]
      rfl

/-- A number is what its digits denote. -/
theorem ofDigits_toDigits (n : Nat) :
    ofDigits ((Nat.toDigits 10 n).map NumeralDraft.digit) = n := by
  have h : Nat.ofDigitChars 10 (Nat.toDigits 10 n) 0 = n :=
    Nat.ofDigitChars_toDigits (by decide) (by decide)
  simp only [Nat.ofDigitChars, Nat.mul_comm 10] at h
  rw [ofDigits, List.foldl_map]
  exact h

/-- A digit between tokens begins a number that has no sign. -/
theorem start_digit {c : Char} (hdigit : c.isDigit) :
    start ts c = step ⟨ts, .numeral ⟨.sign, {}⟩⟩ (.char c) := by
  unfold start
  split
  case h_16 =>
    simp only [Lexer.step, NumeralDraft.step, hdigit]
    rcases eq_or_ne c '0' with rfl | hzero
    · rfl
    · simp only [if_neg hzero, if_true]
  -- none of the other characters is a digit
  all_goals cases hdigit

/-- Where a number may end, it does so before what the printer puts after it. -/
theorem settled_numeral {draft : NumeralDraft} {n : Number}
    (hpart : draft.part = .zero ∨ draft.part = .whole) (hvalue : draft.finish.value = some n) :
    Settled ⟨ts, .numeral draft⟩ (.number (some n) :: ts) := by
  rw [← hvalue]
  obtain ⟨part, numeral⟩ := draft
  rcases hpart with rfl | rfl
  all_goals
    refine ⟨rfl, ?_⟩
    simp only [List.forall_mem_cons, List.not_mem_nil, false_imp_iff, implies_true, and_true]
    exact ⟨rfl, rfl⟩

/-- The draft of a number whose digits are those of a natural number. -/
theorem finish_toDigits (negative : Bool) (n : Nat) :
    NumeralDraft.finish ⟨.whole,
        { negative, whole := (Nat.toDigits 10 n).reverse.map NumeralDraft.digit }⟩ =
      { negative, whole := (Nat.toDigits 10 n).map NumeralDraft.digit } := by
  simp only [NumeralDraft.finish, List.map_reverse, List.reverse_reverse, List.reverse_nil,
    Option.map_none]

end

/-- A natural number of 64 bits is read back. -/
theorem spells_natural {n : Nat} (h : n < wordLimit) :
    Spells (Nat.toDigits 10 n) [.number (some (.integer n))] := by
  intro ts
  have hvalue := Numeral.value_natural ((ofDigits_toDigits n).symm ▸ h)
  rw [ofDigits_toDigits] at hvalue
  -- zero is the one number that begins with the digit zero
  rcases Nat.eq_zero_or_pos n with rfl | hpos
  · exact settled_numeral (.inl rfl) hvalue
  · cases hdigits : Nat.toDigits 10 n with
    | nil => exact absurd hdigits Nat.toDigits_ne_nil
    | cons c digits =>
      have hdigit : c.isDigit :=
        Nat.isDigit_of_mem_toDigits (by decide) (by decide) (hdigits ▸ List.mem_cons_self ..)
      have hstart : read ⟨ts, .blank⟩ (c :: digits) =
          read ⟨ts, .numeral ⟨.sign, {}⟩⟩ (c :: digits) :=
        congrArg (read · digits) (start_digit hdigit)
      rw [hstart, ← hdigits, read_toDigits false hpos]
      exact settled_numeral (.inr rfl) ((finish_toDigits false n).symm ▸ hvalue)

/-- A negative integer of 64 bits is read back. -/
theorem spells_negative {n : Nat} (hpos : 0 < n) (h : n ≤ 0x8000000000000000) :
    Spells ('-' :: Nat.toDigits 10 n) [.number (some (.integer (-(n : Int))))] := by
  intro ts
  have hdigits := ofDigits_toDigits n
  have hvalue := Numeral.value_negative (hdigits.symm ▸ hpos) (hdigits.symm ▸ h)
  rw [hdigits] at hvalue
  have hsign : read ⟨ts, .blank⟩ ('-' :: Nat.toDigits 10 n) =
      read ⟨ts, .numeral ⟨.sign, { negative := true }⟩⟩ (Nat.toDigits 10 n) := rfl
  rw [hsign, read_toDigits true hpos]
  exact settled_numeral (.inr rfl) ((finish_toDigits true n).symm ▸ hvalue)

/-- A word is read again from its digits. -/
theorem spells_printNumber {n : Number} (h : n.IsWord) :
    Spells (printNumber n) [.number (some n)] := by
  obtain ⟨⟨i, rfl⟩, hlow, hhigh⟩ := h
  rw [printNumber]
  split
  · have hneg : i = -(i.natAbs : Int) := by omega
    have hspells := spells_negative (n := i.natAbs) (by omega) (by omega)
    rwa [← hneg] at hspells
  · have hnat : i = (i.natAbs : Int) := by omega
    have hspells := spells_natural (n := i.natAbs) (by omega)
    rwa [← hnat] at hspells

/-! ## Blocks and values -/

/-- Entries after the first, each after a comma and on a line of its own. -/
theorem spells_entries (level : Nat) {entries : List (List Char)} {rows : List (List Token)}
    (h : List.Forall₂ Spells entries rows) {first : List Char} {spelled : List Token}
    (hfirst : Spells first spelled) :
    Spells (first ++ entries.flatMap fun entry => ',' :: newline level ++ entry)
      (spelled ++ rows.flatMap fun row => .comma :: row) := by
  induction h generalizing first spelled with
  | nil => simpa only [List.flatMap_nil, List.append_nil] using hfirst
  | @cons entry row entries rows hentry _ ih =>
    have hcomma : Takes (',' :: newline level) [.comma] :=
      fun ts => takes_newline level (.comma :: ts)
    have hrest := ih ((hfirst.append_takes hcomma rfl (by decide)).append_spells hentry)
    simpa only [List.flatMap_cons, List.append_assoc, List.cons_append, List.nil_append]
      using hrest

/-- Brackets around entries, each on a line of its own. -/
theorem takes_printBlock {opening closing : Char} {first last : Token}
    (hopening : Takes [opening] [first]) (hclosing : Takes [closing] [last]) (level : Nat)
    {entries : List (List Char)} {rows : List (List Token)}
    (h : List.Forall₂ Spells entries rows) :
    Takes (printBlock opening closing level entries) (tokenBlock first last rows) := by
  cases h with
  | nil => exact hopening.append hclosing
  | @cons entry row entries rows hentry hentries =>
    -- the first entry may be a number, and ends at the comma or line break that follows it
    have hfirst := (hopening.append (takes_newline (level + 1))).append_spells hentry
    have hall := spells_entries (level + 1) hentries hfirst
    have hend : Takes (newline level ++ [closing]) [last] :=
      (takes_newline level).append hclosing
    have hblock := hall.append_takes hend rfl (by decide)
    simpa only [printBlock, tokenBlock, List.append_assoc, List.cons_append, List.nil_append]
      using hblock

end Lexer

namespace Value

open Lexer (Takes Spells)

/-- The text of a value is read as the tokens of the value, if its numbers are integers of 64
bits. -/
theorem spells_printPretty {value : Value} (h : ∀ n ∈ value.numbers, n.IsWord) (level : Nat) :
    Spells (printPretty level value) value.tokens := by
  induction value generalizing level with
  | null => exact Takes.spells fun _ => rfl
  | bool b => cases b <;> exact Takes.spells fun _ => rfl
  | number n => exact Lexer.spells_printNumber (h n (List.mem_singleton_self n))
  | text s => exact (Lexer.takes_printText s).spells
  | array items ih =>
    refine (Lexer.takes_printBlock (fun _ => rfl) (fun _ => rfl) level ?_).spells
    rw [prettyItems_eq_map, itemsTokens_eq_map, List.forall₂_map_left_iff,
      List.forall₂_map_right_iff, List.forall₂_same]
    exact fun item hitem =>
      ih item hitem (fun n hn => h n (mem_numbers_array.mpr ⟨item, hitem, hn⟩)) _
  | object members ih =>
    refine (Lexer.takes_printBlock (fun _ => rfl) (fun _ => rfl) level ?_).spells
    rw [prettyMembers_eq_map, membersTokens_eq_map, List.forall₂_map_left_iff,
      List.forall₂_map_right_iff, List.forall₂_same]
    intro member hmember
    have hvalue := ih member hmember
      (fun n hn => h n (mem_numbers_object.mpr ⟨member, hmember, hn⟩)) (level + 1)
    -- a colon ends the key, and nothing is spelled by the space behind it
    have hkey : Takes (printText member.1 ++ [':', ' ']) [.text (some member.1), .colon] :=
      (Lexer.takes_printText member.1).append fun _ => rfl
    exact hkey.append_spells hvalue

/-- The tokens of the text of a value are the tokens of the value. -/
theorem tokens_ofString_pretty {value : Value} (h : ∀ n ∈ value.numbers, n.IsWord) :
    Json.tokens (.ofString value.pretty) = value.tokens := by
  have hsettled := spells_printPretty h 0 []
  rw [List.append_nil] at hsettled
  rw [Lexer.tokens_ofString, pretty, String.toList_ofList]
  exact hsettled.finish.trans (List.reverse_reverse _)

end Value

end BuildScope.Json
