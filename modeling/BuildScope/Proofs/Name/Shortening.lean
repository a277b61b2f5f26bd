import BuildScope.Proofs.Name.Numbers

/-!
# Clone Suffixes and Placeholder Numbers

What is cut off a short name after its unstable numbers: everything from the first clone mark on,
and the number at the end of a placeholder.

* `Name.dropClone_append_mark`: a text in front of a clone mark is what is left of the whole.
* `Name.infix_append_space`: where a clone mark can lie around a space.
* `Name.isPlaceholderNumber_iff`: a placeholder number is made of blanks, digits and a remark.
* `Name.pluralize_append_number`: the number at the end of a placeholder is replaced, with its
  remark.
-/

namespace BuildScope.Name

open Text (isBlank isDecimalDigit)

/-! ## Clone marks -/

/-- A clone mark without the space at its end. -/
def cloneStem : List Char :=
  " [clone".toList

theorem cloneMark_eq : cloneMark = cloneStem ++ [' '] := by decide

variable {text front back : List Char}

/-- The only space of a clone mark besides the first character is its last one. -/
theorem eq_cloneStem_of_cloneMark_eq {rest : List Char} (h : cloneMark = front ++ ' ' :: rest)
    (hfront : front ≠ []) : front = cloneStem := by
  have hlength : front.length < cloneMark.length := by simp [h]
  have hspace : cloneMark[front.length]? = some ' ' := by simp [h]
  have hspaces : ∀ place < cloneMark.length, place ≠ 0 → cloneMark[place]? = some ' ' →
      cloneMark.take place = cloneStem := by decide
  have htake : cloneMark.take front.length = front := by simp [h]
  rw [← htake]
  exact hspaces _ hlength (mt List.length_eq_zero_iff.1 hfront) hspace

/-- A text without a clone mark is left as it is. -/
theorem dropClone_eq_self (h : ¬ cloneMark <:+: text) : dropClone text = text := by
  induction text with
  | nil => rfl
  | cons c text ih =>
    rw [List.infix_cons_iff, not_or] at h
    rw [dropClone, if_neg (mt List.isPrefixOf_iff_prefix.1 h.1), ih h.2]

/-- What follows a text with a clone mark is cut off. -/
theorem dropClone_append (h : cloneMark <:+: front) (back : List Char) :
    dropClone (front ++ back) = dropClone front := by
  induction front with
  | nil => exact absurd (List.infix_nil.1 h) (by decide)
  | cons c front ih =>
    rw [List.cons_append, dropClone, dropClone]
    by_cases hhere : cloneMark <+: c :: front
    · have hlong : cloneMark <+: c :: (front ++ back) :=
        hhere.trans (List.prefix_append (c :: front) back)
      rw [if_pos (List.isPrefixOf_iff_prefix.2 hlong), if_pos (List.isPrefixOf_iff_prefix.2 hhere)]
    · have hrest : cloneMark <:+: front := (List.infix_cons_iff.1 h).resolve_left hhere
      -- the rest is long enough to tell whether there is a mark here
      have hlong : ¬ cloneMark <+: c :: (front ++ back) := fun hlong =>
        hhere (List.prefix_of_prefix_length_le hlong (List.prefix_append (c :: front) back)
          (Nat.le_succ_of_le hrest.length_le))
      rw [if_neg (mt List.isPrefixOf_iff_prefix.1 hlong),
        if_neg (mt List.isPrefixOf_iff_prefix.1 hhere), ih hrest]

/-- A clone mark in front of a text that begins with a space is no longer than what is in front of
that text, or ends with the space. -/
theorem prefix_of_prefix_append_space (h : cloneMark <+: front ++ ' ' :: back)
    (hfront : front ≠ []) : cloneMark <+: front ∨ front = cloneStem := by
  obtain ⟨rest, hrest⟩ := h
  -- the mark is over before the space, or the space is in it
  rcases List.append_eq_append_iff.1 hrest with ⟨more, rfl, -⟩ | ⟨more, hmark, hmore⟩
  · exact .inl (List.prefix_append cloneMark more)
  · cases more with
    | nil =>
      rw [List.append_nil] at hmark
      exact .inl (hmark ▸ List.prefix_refl _)
    | cons c more =>
      obtain ⟨rfl, -⟩ := List.cons_eq_cons.1 hmore
      exact .inr (eq_cloneStem_of_cloneMark_eq hmark hfront)

/-- A text is cut at the first clone mark. -/
theorem dropClone_append_mark (hmark : ¬ cloneMark <:+: front) (hstem : ¬ cloneStem <:+ front)
    (back : List Char) : dropClone (front ++ (cloneMark ++ back)) = front := by
  induction front with
  | nil => rfl
  | cons c front ih =>
    rw [List.infix_cons_iff, not_or] at hmark
    have hrest : ¬ cloneStem <:+ front := fun h => hstem (h.trans (List.suffix_cons c front))
    -- a mark that begins here could only end with the space of the one that follows
    have hhere : ¬ cloneMark <+: c :: (front ++ (cloneMark ++ back)) := by
      intro h
      have hcases : cloneMark <+: c :: front ∨ c :: front = cloneStem :=
        prefix_of_prefix_append_space h (List.cons_ne_nil c front)
      rcases hcases with h | h
      · exact hmark.1 h
      · exact hstem (h ▸ List.suffix_refl _)
    rw [List.cons_append, dropClone, if_neg (mt List.isPrefixOf_iff_prefix.1 hhere),
      ih hmark.2 hrest]

/-- A clone mark in a text with a space lies on one side of the space, or ends with it. -/
theorem infix_append_space (h : cloneMark <:+: front ++ ' ' :: back) :
    cloneMark <:+: front ∨ cloneStem <:+ front ∨ cloneMark <:+: ' ' :: back := by
  -- by induction up to the place where the mark begins
  induction front with
  | nil => exact .inr (.inr h)
  | cons c front ih =>
    rcases List.infix_cons_iff.1 h with h | h
    · have hcases : cloneMark <+: c :: front ∨ c :: front = cloneStem :=
        prefix_of_prefix_append_space h (List.cons_ne_nil c front)
      rcases hcases with h | h
      · exact .inl h.isInfix
      · exact .inr (.inl (h ▸ List.suffix_refl _))
    · rcases ih h with h | h | h
      · exact .inl (h.trans (List.suffix_cons c front).isInfix)
      · exact .inr (.inl (h.trans (List.suffix_cons c front)))
      · exact .inr (.inr h)

/-- A clone mark does not reach into a text without spaces, since it ends with one. -/
theorem infix_of_append (h : cloneMark <:+: front ++ back) (hspace : ' ' ∉ back) :
    cloneMark <:+: front := by
  obtain ⟨before, after, h⟩ := h
  rcases List.append_eq_append_iff.1 h with ⟨middle, rfl, -⟩ | ⟨middle, hmark, rfl⟩
  · exact ⟨before, middle, rfl⟩
  · rcases List.eq_nil_or_concat middle with rfl | ⟨middle, c, rfl⟩
    · exact ⟨before, [], by simpa using hmark⟩
    · rw [cloneMark_eq, ← List.append_assoc, List.concat_eq_append, ← List.append_assoc] at hmark
      obtain rfl : ' ' = c := by simpa using (List.append_inj' hmark rfl).2
      exact absurd (by simp) hspace

/-! ## Placeholder numbers -/

/-- The code points of white space. -/
def blankPoints : List Nat :=
  List.range' 0x09 5 ++ List.range' 0x2000 11 ++
    [0x20, 0x85, 0xA0, 0x1680, 0x2028, 0x2029, 0x202F, 0x205F, 0x3000]

/-- No digit is blank. -/
theorem isBlank_eq_false_of_isDecimalDigit {c : Char} (h : isDecimalDigit c) :
    isBlank c = false := by
  by_contra hblank
  -- the blanks are few enough to ask for each of them
  have hpoints : ∀ n ∈ blankPoints, isDecimalDigit (Char.ofNat n) = false := by decide +kernel
  have hmem : c.toNat ∈ blankPoints := by
    simp only [isBlank, Bool.not_eq_false, Bool.or_eq_true, Bool.and_eq_true, decide_eq_true_eq,
      beq_iff_eq] at hblank
    simp only [blankPoints, List.mem_append, List.mem_range'_1, List.mem_cons, List.not_mem_nil,
      or_false]
    omega
  have hdigit := hpoints c.toNat hmem
  rw [Char.ofNat_toNat, h] at hdigit
  cases hdigit

/-- A text consists of blanks and a number after them. -/
def IsSpacedNumber (text : List Char) : Prop :=
  ∃ blanks digits, text = blanks ++ digits ∧ blanks ≠ [] ∧ (∀ c ∈ blanks, isBlank c) ∧
    IsNumber isDecimalDigit digits

variable {number remark more : List Char}

namespace IsSpacedNumber

theorem isBlank_or_isDecimalDigit (h : IsSpacedNumber number) {c : Char} (hc : c ∈ number) :
    isBlank c ∨ isDecimalDigit c := by
  obtain ⟨blanks, digits, rfl, -, hblanks, hdigits⟩ := h
  exact (List.mem_append.1 hc).imp (hblanks c) (hdigits.2 c)

theorem notMem (h : IsSpacedNumber number) {c : Char} (hc : ¬ (isBlank c ∨ isDecimalDigit c)) :
    c ∉ number :=
  fun hmem => hc (h.isBlank_or_isDecimalDigit hmem)

theorem paren_notMem (h : IsSpacedNumber number) : '(' ∉ number :=
  h.notMem (by decide)

theorem exists_eq_append_singleton (h : IsSpacedNumber number) :
    ∃ front c, number = front ++ [c] ∧ isDecimalDigit c := by
  obtain ⟨blanks, digits, rfl, -, -, hne, hdigits⟩ := h
  obtain ⟨digits, c, rfl⟩ := (List.eq_nil_or_concat digits).resolve_left hne
  exact ⟨blanks ++ digits, c, by simp, hdigits c (by simp)⟩

/-- A number can only be longer to the left by blanks. -/
theorem isBlank_of_append (h : IsSpacedNumber number) (hmore : IsSpacedNumber (more ++ number)) :
    ∀ c ∈ more, isBlank c := by
  obtain ⟨blanks, digits, rfl, hne, hblanks, -⟩ := h
  obtain ⟨blanks', digits', heq, -, hblanks', -, hdigits'⟩ := hmore
  obtain ⟨c, blanks, rfl⟩ := List.exists_cons_of_ne_nil hne
  rcases List.append_eq_append_iff.1 heq with ⟨middle, rfl, -⟩ | ⟨middle, -, rfl⟩
  · exact fun d hd => hblanks' d (List.mem_append_left middle hd)
  · -- the first blank of the shorter one would be a digit of the longer one
    have hblank : isBlank c := hblanks c List.mem_cons_self
    rw [isBlank_eq_false_of_isDecimalDigit (hdigits' c (by simp))] at hblank
    cases hblank

/-- A number can be longer to the right by digits. -/
theorem append (h : IsSpacedNumber number) {digits : List Char}
    (hdigits : ∀ c ∈ digits, isDecimalDigit c) : IsSpacedNumber (number ++ digits) := by
  obtain ⟨blanks, digits', rfl, hne, hblanks, hne', hdigits'⟩ := h
  refine ⟨blanks, digits' ++ digits, List.append_assoc .., hne, hblanks, by simp [hne'], ?_⟩
  exact List.forall_mem_append.2 ⟨hdigits', hdigits⟩

end IsSpacedNumber

/-- A remark, from its first and its last characters. -/
theorem isRemark_iff :
    isRemark text ↔ ∃ remark, text = ' ' :: '(' :: (remark ++ [')']) ∧ '\n' ∉ remark := by
  constructor
  · intro h
    unfold isRemark at h
    split at h
    next rest =>
      split at h
      next remark hrest =>
        refine ⟨remark.reverse, ?_, by simpa using h⟩
        rw [← List.reverse_cons, ← hrest, List.reverse_reverse]
      next => cases h
    next => cases h
  · rintro ⟨remark, rfl, h⟩
    simpa [isRemark] using h

/-- A placeholder number is a number after blanks, and perhaps a remark. -/
theorem isPlaceholderNumber_iff :
    isPlaceholderNumber text ↔ ∃ number remark, text = number ++ remark ∧
      IsSpacedNumber number ∧ (remark = [] ∨ isRemark remark) := by
  constructor
  · intro h
    simp only [isPlaceholderNumber, Bool.and_eq_true, Bool.or_eq_true, List.isEmpty_iff] at h
    obtain ⟨⟨hblank, hdigit⟩, hremark⟩ := h
    refine ⟨text.takeWhile isBlank ++ (text.dropWhile isBlank).takeWhile isDecimalDigit,
      (text.dropWhile isBlank).dropWhile isDecimalDigit, ?_, ⟨_, _, rfl, ?_, ?_, ?_, ?_⟩, hremark⟩
    · rw [List.append_assoc, List.takeWhile_append_dropWhile, List.takeWhile_append_dropWhile]
    · cases text with
      | nil => cases hblank
      | cons c text =>
        have hc : isBlank c := hblank
        simp [hc]
    · exact fun c hc => List.mem_takeWhile_imp hc
    · exact startsWithDigit_iff.1 hdigit
    · exact fun c hc => List.mem_takeWhile_imp hc
  · rintro ⟨_, remark, rfl, ⟨blanks, digits, rfl, hne, hblanks, hdigits⟩, hremark⟩
    -- no digit is blank, and a remark begins with a space, so both runs end where they should
    have hafterBlanks : (blanks ++ digits ++ remark).dropWhile isBlank = digits ++ remark := by
      obtain ⟨c, digits, rfl⟩ := List.exists_cons_of_ne_nil hdigits.1
      rw [List.append_assoc, List.dropWhile_append_of_pos hblanks, List.cons_append,
        List.dropWhile_cons_of_neg]
      simp [isBlank_eq_false_of_isDecimalDigit (hdigits.2 c List.mem_cons_self)]
    have hafterDigits : (digits ++ remark).dropWhile isDecimalDigit = remark := by
      rw [List.dropWhile_append_of_pos hdigits.2]
      rcases hremark with rfl | hremark
      · rfl
      · obtain ⟨remark, rfl, -⟩ := isRemark_iff.1 hremark
        rfl
    rw [isPlaceholderNumber, hafterBlanks, hafterDigits]
    obtain ⟨c, blanks, rfl⟩ := List.exists_cons_of_ne_nil hne
    simp [hdigits.startsWithDigit_append, hremark, hblanks c List.mem_cons_self]

theorem ne_nil_of_isPlaceholderNumber (h : isPlaceholderNumber text) : text ≠ [] := by
  rintro rfl
  exact absurd h (by decide)

/-- A placeholder number without a remark ends with its number, and one with a remark ends with a
parenthesis. -/
theorem isSpacedNumber_or_paren (h : isPlaceholderNumber text) :
    IsSpacedNumber text ∨ '(' ∈ text ∧ text.getLast? = some ')' := by
  rcases isPlaceholderNumber_iff.1 h with ⟨number, remark, rfl, hnumber, rfl | hremark⟩
  · rw [List.append_nil]
    exact .inl hnumber
  · obtain ⟨remark, rfl, -⟩ := isRemark_iff.1 hremark
    refine .inr ⟨by simp, ?_⟩
    rw [← List.cons_append, ← List.cons_append, ← List.append_assoc, List.getLast?_concat]

/-- The first parenthesis of a text is in one place. -/
theorem eq_of_append_paren {front' back' : List Char} (h : '(' ∉ front) (h' : '(' ∉ front')
    (heq : front ++ '(' :: back = front' ++ '(' :: back') : front = front' := by
  have hfirst {front : List Char} (back : List Char) (h : '(' ∉ front) :
      (front ++ '(' :: back).takeWhile (· != '(') = front := by
    have hall : ∀ c ∈ front, (c != '(') := fun c hc => by simpa using ne_of_mem_of_not_mem hc h
    rw [List.takeWhile_append_of_pos hall, List.takeWhile_cons_of_neg (by simp), List.append_nil]
  rw [← hfirst back h, heq, hfirst back' h']

/-- A number with its remark can only be longer to the left by blanks, unless there is a parenthesis
where a remark could begin. -/
theorem isBlank_of_isPlaceholderNumber_append (h : IsSpacedNumber number)
    (hremark : remark = [] ∨ '(' ∉ more ∧ isRemark remark)
    (hmore : isPlaceholderNumber (more ++ (number ++ remark))) : ∀ c ∈ more, isBlank c := by
  apply h.isBlank_of_append
  rcases hremark with rfl | ⟨hparen, hremark⟩
  · -- without a remark, the text ends in a digit and not in a parenthesis
    obtain ⟨front, c, rfl, hc⟩ := h.exists_eq_append_singleton
    rw [List.append_nil] at hmore
    refine (isSpacedNumber_or_paren hmore).resolve_right fun hparen => ?_
    rw [← List.append_assoc, List.getLast?_concat, Option.some.injEq] at hparen
    rw [hparen.2] at hc
    exact absurd hc (by decide)
  · obtain ⟨number', remark', heq, hnumber', hremark'⟩ := isPlaceholderNumber_iff.1 hmore
    obtain ⟨remark, rfl, -⟩ := isRemark_iff.1 hremark
    rcases hremark' with rfl | hremark'
    · rw [List.append_nil] at heq
      exact absurd (heq ▸ by simp) hnumber'.paren_notMem
    · -- both remarks begin at the first parenthesis
      obtain ⟨remark', rfl, -⟩ := isRemark_iff.1 hremark'
      have hsplit : (more ++ number ++ [' ']) ++ '(' :: (remark ++ [')']) =
          (number' ++ [' ']) ++ '(' :: (remark' ++ [')']) := by
        simpa using heq
      have hfronts := eq_of_append_paren (by simp [hparen, h.paren_notMem])
        (by simp [hnumber'.paren_notMem]) hsplit
      rwa [List.append_cancel_right hfronts]

/-! ## Longest placeholder numbers -/

/-- A text without a placeholder number at its end is left as it is, and otherwise such a number is
replaced. -/
theorem pluralize_cases (text : List Char) :
    (pluralize text = text ∧ ∀ number, number <:+ text → ¬ isPlaceholderNumber number) ∨
      ∃ front number, text = front ++ number ∧ isPlaceholderNumber number ∧
        pluralize text = front ++ ['s'] := by
  induction text with
  | nil =>
    left
    refine ⟨rfl, fun number hnumber => ?_⟩
    rw [List.suffix_nil.1 hnumber]
    decide
  | cons c text ih =>
    rw [pluralize]
    split
    next hnumber => exact .inr ⟨[], c :: text, rfl, hnumber, rfl⟩
    next hnumber =>
      -- the number does not begin here, so it is one of the rest or there is none
      rcases ih with ⟨hself, hnone⟩ | ⟨front, number, rfl, hplaceholder, hfront⟩
      · left
        refine ⟨by rw [hself], fun number h => ?_⟩
        rcases List.suffix_cons_iff.1 h with rfl | h
        · exact hnumber
        · exact hnone number h
      · exact .inr ⟨c :: front, number, rfl, hplaceholder, by rw [hfront, List.cons_append]⟩

/-- The placeholder number at the end of a text is replaced if it cannot be longer to the left. -/
theorem pluralize_append (h : isPlaceholderNumber number)
    (hlongest : ∀ more, more ≠ [] → more <:+ front → ¬ isPlaceholderNumber (more ++ number)) :
    pluralize (front ++ number) = front ++ ['s'] := by
  induction front with
  | nil =>
    obtain ⟨c, number, rfl⟩ := List.exists_cons_of_ne_nil (ne_nil_of_isPlaceholderNumber h)
    exact if_pos h
  | cons c front ih =>
    have hhere : ¬ isPlaceholderNumber (c :: (front ++ number)) :=
      hlongest (c :: front) (List.cons_ne_nil c front) (List.suffix_refl _)
    rw [List.cons_append, pluralize, if_neg hhere,
      ih fun more hne hmore => hlongest more hne (hmore.trans (List.suffix_cons c front)),
      List.cons_append]

/-- The number after a text that does not end with a blank is replaced, with its remark unless there
is a parenthesis in front. -/
theorem pluralize_append_number (hfront : ∀ c ∈ front.getLast?, isBlank c = false)
    (h : IsSpacedNumber number) (hremark : remark = [] ∨ '(' ∉ front ∧ isRemark remark) :
    pluralize (front ++ (number ++ remark)) = front ++ ['s'] := by
  have hplaceholder : isPlaceholderNumber (number ++ remark) :=
    isPlaceholderNumber_iff.2 ⟨number, remark, rfl, h, hremark.imp_right And.right⟩
  refine pluralize_append hplaceholder fun more hmore hsuffix hlonger => ?_
  have hparen : remark = [] ∨ '(' ∉ more ∧ isRemark remark :=
    hremark.imp_right (And.imp_left (mt (hsuffix.subset ·)))
  -- the last character of the text in front would be blank
  obtain ⟨more, c, rfl⟩ := (List.eq_nil_or_concat more).resolve_left hmore
  obtain ⟨rest, rfl⟩ := hsuffix
  have hblank : isBlank c :=
    isBlank_of_isPlaceholderNumber_append h hparen hlonger c (by simp)
  rw [hfront c (by simp)] at hblank
  cases hblank

/-- A text that does not end with a digit or a parenthesis is left as it is. -/
theorem pluralize_append_singleton {c : Char} (hdigit : ¬ isDecimalDigit c) (hparen : c ≠ ')') :
    pluralize (front ++ [c]) = front ++ [c] := by
  rcases pluralize_cases (front ++ [c]) with ⟨hself, -⟩ | ⟨front', number, heq, hnumber, -⟩
  · exact hself
  · obtain ⟨number, last, rfl⟩ :=
      (List.eq_nil_or_concat number).resolve_left (ne_nil_of_isPlaceholderNumber hnumber)
    rw [List.concat_eq_append] at heq hnumber
    obtain rfl : c = last := by simpa using congrArg List.getLast? heq
    rcases isSpacedNumber_or_paren hnumber with hspaced | hparens
    · obtain ⟨_, last, hlast, hdecimal⟩ := hspaced.exists_eq_append_singleton
      obtain rfl : c = last := by simpa using congrArg List.getLast? hlast
      exact absurd hdecimal hdigit
    · exact absurd (by simpa using hparens.2) hparen

/-- A text gets no longer. -/
theorem length_pluralize_le (text : List Char) : (pluralize text).length ≤ text.length := by
  rcases pluralize_cases text with ⟨hself, -⟩ | ⟨front, number, rfl, hnumber, heq⟩
  · exact hself.symm ▸ Nat.le_refl _
  · have hpos : 0 < number.length :=
      List.length_pos_iff.2 (ne_nil_of_isPlaceholderNumber hnumber)
    rw [heq, List.length_append, List.length_append]
    exact Nat.add_le_add_left hpos _

/-! ## Placeholders -/

/-- A text with the number left out if it is the name of a placeholder, which begins with a star. -/
def collapse (text : List Char) : List Char :=
  if text.head? = some '*' then pluralize text else text

theorem toList_shortName (name : String) :
    (shortName name).toList = collapse (dropClone (stableChars name.toList)) := by
  rw [← keepStable_eq_stableChars]
  exact String.toList_ofList

theorem length_collapse_le (text : List Char) : (collapse text).length ≤ text.length := by
  rw [collapse]
  split
  · exact length_pluralize_le text
  · exact Nat.le_refl _

theorem collapse_append_singleton {c : Char} (hdigit : ¬ isDecimalDigit c) (hparen : c ≠ ')') :
    collapse (front ++ [c]) = front ++ [c] := by
  rw [collapse, pluralize_append_singleton hdigit hparen, ite_self]

theorem collapse_append_number (hstar : front.head? = some '*')
    (hfront : ∀ c ∈ front.getLast?, isBlank c = false) (h : IsSpacedNumber number)
    (hremark : remark = [] ∨ '(' ∉ front ∧ isRemark remark) :
    collapse (front ++ (number ++ remark)) = front ++ ['s'] := by
  have hhead : (front ++ (number ++ remark)).head? = some '*' := by simp [hstar]
  rw [collapse, if_pos hhead, pluralize_append_number hfront h hremark]

end BuildScope.Name
