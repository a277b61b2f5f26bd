import BuildScope.Diff.Name
import Mathlib.Data.List.DropRight

/-!
# Unstable Numbers

Which characters of a name are its unstable numbers. There are two kinds of them, told by the places
of the characters in the whole name: the numbering at its end, and the dollar numbers. Where the two
meet or overlap, a character goes if it lies in one of them.

* `Name.InEnding`, `Name.InDollarNumber`: the places of either kind.
* `Name.keepStable_eq`: what is kept of a name are the characters in neither.
* `Name.LookAlike`: endings of names that no text in front of them can tell apart.
* `Name.stripNumbers_exact`: exactly the unstable numbers are taken off, whatever their digits.
-/

namespace BuildScope.Name

open Text (isDecimalDigit isDecimalDigit_of_isDigit)

-- there are finitely many characters, so these could be decided by going through all of them
scoped instance (priority := high) decidableForallMem (text : List Char) (p : Char → Prop)
    [DecidablePred p] : Decidable (∀ c ∈ text, p c) :=
  List.decidableBAll p text

scoped instance (priority := high) decidableForallMemOption (last : Option Char) (p : Char → Prop)
    [DecidablePred p] : Decidable (∀ c ∈ last, p c) :=
  last.decidableForallMem

/-! ## Places of numbers -/

/-- A place lies in the longest ending of a text that has only digits and dots. -/
def InEnding (text : List Char) (place : Nat) : Prop :=
  (text.rdropWhile isNumbering).length ≤ place

instance (text : List Char) (place : Nat) : Decidable (InEnding text place) :=
  inferInstanceAs (Decidable (_ ≤ _))

/-- The decimal digits right after a place, as many as there are. -/
def digitsAfter (text : List Char) (place : Nat) : List Char :=
  (text.drop (place + 1)).takeWhile isDecimalDigit

/-- A place lies in a dollar number, which is a dollar sign with all the decimal digits that are
right after it. There is at least one. -/
def InDollarNumber (text : List Char) (place : Nat) : Prop :=
  ∃ start, text[start]? = some '$' ∧ digitsAfter text start ≠ [] ∧
    start ≤ place ∧ place ≤ start + (digitsAfter text start).length

instance (text : List Char) (place : Nat) : Decidable (InDollarNumber text place) :=
  decidable_of_iff ((List.range (place + 1)).any fun start => text[start]? = some '$' ∧
      digitsAfter text start ≠ [] ∧ place ≤ start + (digitsAfter text start).length) <| by
    simp only [List.any_eq_true, List.mem_range, Nat.lt_succ_iff, decide_eq_true_eq,
      InDollarNumber]
    exact exists_congr fun start =>
      ⟨fun ⟨hle, hdollar, hdigits, hplace⟩ => ⟨hdollar, hdigits, hle, hplace⟩,
        fun ⟨hdollar, hdigits, hle, hplace⟩ => ⟨hle, hdollar, hdigits, hplace⟩⟩

/-- The characters of a text at the places with a property, in order. -/
def charsAt (text : List Char) (p : Nat → Prop) [DecidablePred p] : List Char :=
  (text.zipIdx.filter fun (_, place) => p place).map Prod.fst

/-- The characters of a text that lie in no unstable number, in order. -/
def stableChars (text : List Char) : List Char :=
  charsAt text fun place => ¬ (InEnding text place ∨ InDollarNumber text place)

/-- A text ends in a dollar sign, or in one with some digits after it. -/
def EndsInDollar (text : List Char) : Prop :=
  ∃ front digits, text = front ++ '$' :: digits ∧ ∀ c ∈ digits, isDecimalDigit c

variable {before rest : List Char} {c : Char}

theorem isNumbering_dollar : isNumbering '$' = false := by decide

theorem isDecimalDigit_dollar : isDecimalDigit '$' = false := by decide

section CharsAt

variable {p q : Nat → Prop} [DecidablePred p] [DecidablePred q]

/-- The places after the first character are one lower without it. -/
theorem charsAt_cons (c : Char) (text : List Char) (p : Nat → Prop) [DecidablePred p] :
    charsAt (c :: text) p =
      if p 0 then c :: charsAt text fun place => p (place + 1)
      else charsAt text fun place => p (place + 1) := by
  have hrest : ((text.zipIdx 1).filter fun (_, place) => p place).map Prod.fst =
      charsAt text fun place => p (place + 1) := by
    rw [charsAt, List.zipIdx_succ, List.filter_map, List.map_map]
    rfl
  rw [← hrest, charsAt, List.zipIdx_cons, List.filter_cons]
  by_cases hp : p 0 <;> simp [hp]

/-- Only places within a text count. -/
theorem charsAt_congr {text : List Char} (h : ∀ place < text.length, (p place ↔ q place)) :
    charsAt text p = charsAt text q := by
  rw [charsAt, charsAt]
  congr 1
  apply List.filter_congr
  rintro ⟨c, place⟩ hmem
  exact decide_eq_decide.2 (h place (List.snd_lt_of_mem_zipIdx hmem))

/-- The places of the second part of a text come after those of the first. -/
theorem charsAt_append (front back : List Char) (p : Nat → Prop) [DecidablePred p] :
    charsAt (front ++ back) p =
      charsAt front p ++ charsAt back fun place => p (front.length + place) := by
  rw [charsAt, List.zipIdx_append, List.filter_append, List.map_append, Nat.zero_add]
  congr 1
  rw [charsAt, List.zipIdx_eq_map_add, List.filter_map, List.map_map]
  rfl

/-- A text has its characters at all its places. -/
theorem charsAt_eq_self {text : List Char} (h : ∀ place < text.length, p place) :
    charsAt text p = text := by
  induction text generalizing p with
  | nil => rfl
  | cons c text ih =>
    rw [charsAt_cons, if_pos (h 0 (Nat.zero_lt_succ _)),
      ih fun place hplace => h (place + 1) (Nat.succ_lt_succ hplace)]

theorem charsAt_eq_nil {text : List Char} (h : ∀ place < text.length, ¬ p place) :
    charsAt text p = [] := by
  induction text generalizing p with
  | nil => rfl
  | cons c text ih =>
    rw [charsAt_cons, if_neg (h 0 (Nat.zero_lt_succ _)),
      ih fun place hplace => h (place + 1) (Nat.succ_lt_succ hplace)]

end CharsAt

/-- Dropping the ending of a text, from its front. -/
theorem rdropWhile_cons (p : Char → Bool) (c : Char) (rest : List Char) :
    (c :: rest).rdropWhile p = if (c :: rest).all p then [] else c :: rest.rdropWhile p := by
  have hrest : (rest.reverse.dropWhile p).isEmpty = rest.all p := by
    rw [Bool.eq_iff_iff, List.isEmpty_iff, List.dropWhile_eq_nil_iff]
    simp
  rw [List.rdropWhile, List.reverse_cons, List.dropWhile_append, hrest, List.all_cons]
  by_cases hall : rest.all p
  · have hnil : rest.rdropWhile p = [] :=
      List.rdropWhile_eq_nil_iff.2 (List.all_eq_true.1 hall)
    cases hc : p c <;> simp [hall, hc, hnil]
  · simp [hall, List.rdropWhile]

/-- A place lies in the ending exactly if only digits and dots follow from there. -/
theorem inEnding_iff {text : List Char} {place : Nat} :
    InEnding text place ↔ ∀ c ∈ text.drop place, isNumbering c := by
  induction text generalizing place with
  | nil => simp [InEnding]
  | cons c rest ih =>
    rw [InEnding, rdropWhile_cons]
    cases place with
    | zero =>
      split
      next h => simpa using h
      next h => simpa using h
    | succ place =>
      rw [List.drop_succ_cons, ← ih]
      split
      next h =>
        -- all of the text is an ending, so that nothing is left of the rest either
        have hrest : rest.rdropWhile isNumbering = [] :=
          List.rdropWhile_eq_nil_iff.2 fun d hd =>
            List.all_eq_true.1 h d (List.mem_cons_of_mem c hd)
        simp [InEnding, hrest]
      next => exact Nat.succ_le_succ_iff

/-- A text still ends in a dollar with a further digit. -/
theorem endsInDollar_append_singleton :
    EndsInDollar (before ++ [c]) ↔ c = '$' ∨ isDecimalDigit c ∧ EndsInDollar before := by
  constructor
  · rintro ⟨front, digits, htext, hdigits⟩
    -- no digit follows the sign, or the last character is one
    rcases List.eq_nil_or_concat digits with rfl | ⟨digits, last, rfl⟩
    · left
      simpa using congrArg List.getLast? htext
    · right
      rw [List.concat_eq_append] at htext hdigits
      rw [← List.cons_append, ← List.append_assoc] at htext
      obtain ⟨rfl, hlast⟩ := List.append_inj' htext rfl
      obtain rfl : c = last := by simpa using hlast
      exact ⟨hdigits c (by simp), front, digits, rfl, fun d hd => hdigits d (by simp [hd])⟩
  · rintro (rfl | ⟨hc, front, digits, rfl, hdigits⟩)
    · exact ⟨before, [], rfl, by simp⟩
    · refine ⟨front, digits ++ [c], by simp, ?_⟩
      simpa [or_imp, forall_and, hc] using hdigits

/-- A list and one more are taken as long as they have a property exactly if they all have it. -/
theorem length_lt_takeWhile_iff (p : Char → Bool) (front : List Char) (c : Char)
    (rest : List Char) :
    front.length < ((front ++ c :: rest).takeWhile p).length ↔ (∀ d ∈ front, p d) ∧ p c := by
  induction front with
  | nil => cases hc : p c <;> simp [hc]
  | cons d front ih => cases hd : p d <;> simp [hd, ih]

/-- A text starts with a digit if it has any digits in front. -/
theorem startsWithDigit_iff : startsWithDigit rest ↔ rest.takeWhile isDecimalDigit ≠ [] := by
  cases rest with
  | nil => simp [startsWithDigit]
  | cons c rest => cases hc : isDecimalDigit c <;> simp [startsWithDigit, hc]

/-- The digits after a character are those that the rest starts with. -/
theorem digitsAfter_append (front : List Char) (c : Char) (rest : List Char) :
    digitsAfter (front ++ c :: rest) front.length = rest.takeWhile isDecimalDigit := by
  rw [digitsAfter, List.append_cons, List.drop_left' (by simp)]

/-- Whether a place lies in a dollar number, from what is in front of it and what follows. -/
theorem inDollarNumber_iff :
    InDollarNumber (before ++ c :: rest) before.length ↔
      isDecimalDigit c ∧ EndsInDollar before ∨ c = '$' ∧ startsWithDigit rest := by
  constructor
  · rintro ⟨start, hdollar, hdigits, hle, hplace⟩
    rcases Nat.lt_or_eq_of_le hle with hlt | rfl
    · left
      obtain ⟨front, digits, rfl, rfl⟩ :
          ∃ front digits, before = front ++ '$' :: digits ∧ front.length = start := by
        rw [List.getElem?_append_left hlt, List.getElem?_eq_getElem hlt] at hdollar
        refine ⟨before.take start, before.drop (start + 1), ?_, List.length_take_of_le hle⟩
        rw [← Option.some.inj hdollar, ← List.drop_eq_getElem_cons hlt, List.take_append_drop]
      -- the digits after the dollar sign reach as far as the place
      rw [List.append_assoc, List.cons_append, digitsAfter_append, List.length_append,
        List.length_cons] at hplace
      obtain ⟨hall, hc⟩ := (length_lt_takeWhile_iff isDecimalDigit digits c rest).1 (by omega)
      exact ⟨hc, front, digits, rfl, hall⟩
    · right
      rw [List.getElem?_append_right (Nat.le_refl _), Nat.sub_self] at hdollar
      rw [digitsAfter_append, ← startsWithDigit_iff] at hdigits
      exact ⟨by simpa using hdollar, hdigits⟩
  · rintro (⟨hc, front, digits, rfl, hdigits⟩ | ⟨rfl, hrest⟩)
    · have hreach := (length_lt_takeWhile_iff isDecimalDigit digits c rest).2 ⟨hdigits, hc⟩
      rw [List.append_assoc, List.cons_append]
      refine ⟨front.length, by simp, ?_, by simp, ?_⟩
      · rw [digitsAfter_append]
        exact List.ne_nil_of_length_pos (by omega)
      · rw [digitsAfter_append, List.length_append, List.length_cons]
        omega
    · refine ⟨before.length, by simp, ?_, Nat.le_refl _, Nat.le_add_right _ _⟩
      rwa [digitsAfter_append, ← startsWithDigit_iff]

/-! ## What is kept -/

/-- A character is kept at the places that lie in no unstable number. What decides is whether the
text in front ends in a dollar number, which matters only if it goes on. -/
theorem keepStable_eq (inNumber : Bool)
    (hbefore : startsWithDigit rest → (inNumber ↔ EndsInDollar before)) :
    keepStable inNumber rest = charsAt rest fun place =>
      ¬ (InEnding (before ++ rest) (before.length + place) ∨
        InDollarNumber (before ++ rest) (before.length + place)) := by
  induction rest generalizing before inNumber with
  | nil => rfl
  | cons c rest ih =>
    have hdollar : InDollarNumber (before ++ c :: rest) before.length ↔
        isDecimalDigit c ∧ EndsInDollar before ∨ c = '$' ∧ startsWithDigit rest :=
      inDollarNumber_iff
    have hending : InEnding (before ++ c :: rest) before.length ↔
        (c :: rest).all isNumbering := by
      rw [inEnding_iff, List.drop_left, List.all_eq_true]
    have hgoes : isDecimalDigit c → (inNumber ↔ EndsInDollar before) := fun hc => hbefore hc
    -- what is in front of the next character ends in a dollar number if this one lies in one
    have hrest (inNumber' : Bool)
        (h : startsWithDigit rest → (inNumber' ↔ EndsInDollar (before ++ [c]))) :
        keepStable inNumber' rest = charsAt rest fun place =>
          ¬ (InEnding (before ++ c :: rest) (before.length + (place + 1)) ∨
            InDollarNumber (before ++ c :: rest) (before.length + (place + 1))) := by
      rw [ih inNumber' h]
      apply charsAt_congr
      intro place _
      rw [← List.append_cons, List.length_append, List.length_singleton, Nat.add_assoc,
        Nat.add_comm 1]
    rw [charsAt_cons, keepStable, Nat.add_zero]
    split
    next hdigit =>
      rw [Bool.and_eq_true] at hdigit
      have hends : EndsInDollar before := (hgoes hdigit.2).1 hdigit.1
      have hplace : InDollarNumber (before ++ c :: rest) before.length :=
        hdollar.2 (.inl ⟨hdigit.2, hends⟩)
      rw [if_neg (not_not_intro (.inr hplace))]
      exact hrest true fun _ => by simp [endsInDollar_append_singleton, hdigit.2, hends]
    next hdigit =>
    split
    next hall =>
      -- the places from here on are those of the ending
      have hplace : InEnding (before ++ c :: rest) before.length := hending.2 hall
      rw [if_neg (not_not_intro (.inl hplace)), charsAt_eq_nil]
      exact fun place _ => not_not_intro (.inl (Nat.le_trans hplace (Nat.le_add_right _ _)))
    next hall =>
    split
    next hsign =>
      simp only [Bool.and_eq_true, decide_eq_true_eq] at hsign
      have hplace : InDollarNumber (before ++ c :: rest) before.length := hdollar.2 (.inr hsign)
      rw [if_neg (not_not_intro (.inr hplace))]
      exact hrest true fun _ => by simp [endsInDollar_append_singleton, hsign.1]
    next hsign =>
      simp only [Bool.and_eq_true, decide_eq_true_eq] at hsign hdigit
      have hstays : ¬ (isDecimalDigit c ∧ EndsInDollar before) :=
        fun h => hdigit ⟨(hgoes h.1).2 h.2, h.1⟩
      have hplace : ¬ InDollarNumber (before ++ c :: rest) before.length := by
        rw [hdollar, not_or]
        exact ⟨hstays, hsign⟩
      rw [if_pos (not_or.2 ⟨mt hending.1 hall, hplace⟩)]
      refine congrArg (c :: ·) (hrest false fun hnext => ?_)
      rw [endsInDollar_append_singleton]
      simp only [Bool.false_eq_true, false_iff, not_or]
      exact ⟨fun hc => hsign ⟨hc, hnext⟩, hstays⟩

/-- One walk along a text keeps the characters that are stable. -/
theorem keepStable_eq_stableChars (text : List Char) :
    keepStable false text = stableChars text := by
  have hstart : ¬ EndsInDollar [] := by
    rintro ⟨front, digits, htext, -⟩
    simp at htext
  have hkeep := @keepStable_eq [] text false fun _ => by simp [hstart]
  rw [hkeep]
  exact charsAt_congr fun place _ => by rw [List.nil_append, List.length_nil, Nat.zero_add]

/-! ## Names that differ in their numbers -/

/-- Two endings of names are kept alike, whatever is in front of them. -/
structure LookAlike (back back' : List Char) : Prop where
  /-- The same is kept of both, also where a number goes on. -/
  keep_eq : ∀ inNumber, keepStable inNumber back = keepStable inNumber back'
  /-- Both belong to the ending of the name, or neither does. -/
  numbering_eq : back.all isNumbering = back'.all isNumbering
  /-- Both go on with a digit, or neither does. -/
  digit_eq : startsWithDigit back = startsWithDigit back'

variable {back back' : List Char}

/-- Texts that look alike still do behind the same text. -/
theorem LookAlike.append (h : LookAlike back back') (front : List Char) :
    LookAlike (front ++ back) (front ++ back') := by
  induction front with
  | nil => exact h
  | cons c front ih =>
    have hall : (c :: (front ++ back)).all isNumbering =
        (c :: (front ++ back')).all isNumbering := by
      rw [List.all_cons, List.all_cons, ih.numbering_eq]
    refine ⟨fun inNumber => ?_, hall, rfl⟩
    rw [List.cons_append, List.cons_append, keepStable, keepStable, hall, ih.digit_eq,
      ih.keep_eq true, ih.keep_eq false]

/-- The digits of a number that has begun are skipped. -/
theorem keepStable_true_append {digits : List Char} (h : ∀ c ∈ digits, isDecimalDigit c)
    (back : List Char) : keepStable true (digits ++ back) = keepStable true back := by
  induction digits with
  | nil => rfl
  | cons c digits ih =>
    obtain ⟨hc, hdigits⟩ := List.forall_mem_cons.1 h
    rw [List.cons_append, keepStable, if_pos (by simp [hc]), ih hdigits]

/-- Nothing is kept of an ending. -/
theorem keepStable_of_all (inNumber : Bool) (h : ∀ c ∈ back, isNumbering c) :
    keepStable inNumber back = [] := by
  induction back generalizing inNumber with
  | nil => rfl
  | cons c back ih =>
    have hall : (c :: back).all isNumbering := List.all_eq_true.2 h
    rw [keepStable, if_pos hall]
    split
    · exact ih true fun d hd => h d (List.mem_cons_of_mem c hd)
    · rfl

/-- A text that consists of digits, and has at least one. -/
def IsNumber (isDigit : Char → Bool) (text : List Char) : Prop :=
  text ≠ [] ∧ ∀ c ∈ text, isDigit c

instance (isDigit : Char → Bool) (text : List Char) : Decidable (IsNumber isDigit text) :=
  inferInstanceAs (Decidable (_ ∧ _))

theorem IsNumber.isNumbering {digits : List Char} (h : IsNumber Char.isDigit digits) :
    ∀ c ∈ digits, isNumbering c :=
  fun c hc => by simp [Name.isNumbering, h.2 c hc]

theorem IsNumber.startsWithDigit_append {digits : List Char} (h : IsNumber isDecimalDigit digits)
    (back : List Char) : startsWithDigit (digits ++ back) := by
  obtain ⟨c, digits, rfl⟩ := List.exists_cons_of_ne_nil h.1
  exact h.2 c List.mem_cons_self

/-- Dollar numbers look alike, whatever follows them. -/
theorem lookAlike_dollarNumber {digits digits' : List Char} (h : IsNumber isDecimalDigit digits)
    (h' : IsNumber isDecimalDigit digits') (back : List Char) :
    LookAlike ('$' :: (digits ++ back)) ('$' :: (digits' ++ back)) := by
  have hkeep {digits : List Char} (h : IsNumber isDecimalDigit digits) (inNumber : Bool) :
      keepStable inNumber ('$' :: (digits ++ back)) = keepStable true back := by
    rw [keepStable, if_neg (by simp [isDecimalDigit_dollar]),
      if_neg (by simp [isNumbering_dollar]), if_pos (by simp [h.startsWithDigit_append]),
      keepStable_true_append h.2]
  refine ⟨fun inNumber => ?_, ?_, rfl⟩
  · rw [hkeep h, hkeep h']
  · simp [isNumbering_dollar]

/-- Numbers at the very end look alike. -/
theorem lookAlike_number {digits digits' : List Char} (h : IsNumber Char.isDigit digits)
    (h' : IsNumber Char.isDigit digits') : LookAlike digits digits' := by
  have hstarts {digits : List Char} (h : IsNumber Char.isDigit digits) :
      startsWithDigit digits := by
    have hdecimal : IsNumber isDecimalDigit digits :=
      ⟨h.1, fun c hc => isDecimalDigit_of_isDigit (h.2 c hc)⟩
    simpa using hdecimal.startsWithDigit_append []
  refine ⟨fun inNumber => ?_, ?_, ?_⟩
  · rw [keepStable_of_all inNumber h.isNumbering, keepStable_of_all inNumber h'.isNumbering]
  · rw [List.all_eq_true.2 h.isNumbering, List.all_eq_true.2 h'.isNumbering]
  · rw [hstarts h, hstarts h']

/-- The unstable numbers of a name are taken off and nothing else. Names that differ in the digits
of a dollar number only, or in a number at their end, therefore become the same. -/
theorem stripNumbers_exact :
    (∀ name : String, (stripNumbers name).toList = stableChars name.toList) ∧
      (∀ front digits digits' back : String, IsNumber isDecimalDigit digits.toList →
        IsNumber isDecimalDigit digits'.toList →
        stripNumbers (front ++ "$" ++ digits ++ back) =
          stripNumbers (front ++ "$" ++ digits' ++ back)) ∧
      ∀ front digits digits' : String, IsNumber Char.isDigit digits.toList →
        IsNumber Char.isDigit digits'.toList →
        stripNumbers (front ++ digits) = stripNumbers (front ++ digits') := by
  refine ⟨fun name => ?_, fun front digits digits' back h h' => ?_,
    fun front digits digits' h h' => ?_⟩
  · rw [stripNumbers, String.toList_ofList, keepStable_eq_stableChars]
  · have halike := (lookAlike_dollarNumber h h' back.toList).append front.toList
    simpa [stripNumbers] using congrArg String.ofList (halike.keep_eq false)
  · have halike := (lookAlike_number h h').append front.toList
    simpa [stripNumbers] using congrArg String.ofList (halike.keep_eq false)

/-- Numbers of both kinds that touch or overlap at the end of a name, with the digits of more than
one script. -/
theorem stripNumbers_exact_of_overlaps :
    (stripNumbers "list$1.2").toList = "list".toList ∧
      (stripNumbers "list1$2").toList = "list1".toList ∧
      (stripNumbers "list$.5").toList = "list$".toList ∧
      IsNumber isDecimalDigit "1".toList ∧ IsNumber isDecimalDigit "٢7".toList ∧
      stripNumbers "list$1.2" = stripNumbers "list$٢7.2" ∧
      IsNumber Char.isDigit "2".toList ∧ IsNumber Char.isDigit "031".toList ∧
      stripNumbers "list$.2" = stripNumbers "list$.031" := by
  obtain ⟨hstable, hdollar, hend⟩ := stripNumbers_exact
  -- digits of several scripts may stand in one number
  have hmixed : IsNumber isDecimalDigit "٢7".toList := by decide +kernel
  refine ⟨?_, ?_, ?_, by decide, hmixed, hdollar "list" "1" "٢7" ".2" (by decide) hmixed,
    by decide, by decide, hend "list$." "2" "031" (by decide) (by decide)⟩
  · rw [hstable]
    decide
  · rw [hstable]
    decide
  · rw [hstable]
    decide

end BuildScope.Name
