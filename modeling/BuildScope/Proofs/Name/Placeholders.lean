import BuildScope.Proofs.Name.Shortening

/-!
# Numbered Placeholders

The short names of placeholders, which begin with a star and end with a number and perhaps a remark.
Neither the number nor the text of the remark makes a difference to them. Having a remark does:
without one, the number is the end of the name and goes with the unstable numbers, before the
numbers of placeholders are left out. The blanks in front of it are then left over.

* `Name.IsLabel`: the texts between the star and the number.
* `Name.IsLabel.collapse_number`, `Name.IsLabel.collapse_remark`: what is left without a remark and
  with one.
* `Name.shortName_placeholder_eq_iff`: the two are the same only where they are cut as clones.
-/

namespace BuildScope.Name

open Text (isBlank isDecimalDigit)

/-- A text on one line, without clone mark, parentheses and dollar signs. -/
structure IsPlain (text : String) : Prop where
  mark_not_infix : ¬ cloneMark <:+: text.toList
  sign_notMem : ∀ c ∈ ['\n', '(', ')', '$'], c ∉ text.toList

/-- The text between the star and the number of a placeholder. The blanks in front of the number are
not part of it. -/
structure IsLabel (label : String) : Prop extends IsPlain label where
  last_not_blank : ∀ c ∈ label.toList.getLast?, isBlank c = false

/-- The spaces in front of the number. There is at least one. -/
def IsGap (blanks : String) : Prop :=
  blanks.toList ≠ [] ∧ ∀ c ∈ blanks.toList, c = ' '

/-- The characters of a remark in a name. -/
def remarkChars (remark : String) : List Char :=
  ' ' :: '(' :: (remark.toList ++ [')'])

variable {text front back : List Char} {label blanks digits remark : String}

/-- Without dollar signs, only the ending of a text is taken off. -/
theorem stableChars_eq_rdropWhile (h : '$' ∉ text) :
    stableChars text = text.rdropWhile isNumbering := by
  rw [← keepStable_eq_stableChars]
  induction text with
  | nil => rfl
  | cons c text ih =>
    obtain ⟨hc, htext⟩ := not_or.1 (mt List.mem_cons.2 h)
    rw [keepStable, rdropWhile_cons, ih htext]
    simp [Ne.symm hc]

/-- The ending of a text without dollar signs begins after the last character that is no
numbering. -/
theorem stableChars_append_ending {c : Char} (hdollar : '$' ∉ front ++ c :: back)
    (hc : isNumbering c = false) (hback : ∀ d ∈ back, isNumbering d) :
    stableChars (front ++ c :: back) = front ++ [c] := by
  have hback' : ∀ d ∈ back.reverse, isNumbering d := fun d hd => hback d (List.mem_reverse.1 hd)
  rw [stableChars_eq_rdropWhile hdollar, List.append_cons, List.rdropWhile, List.reverse_append,
    List.dropWhile_append_of_pos hback', List.reverse_concat,
    List.dropWhile_cons_of_neg (by simp [hc]), ← List.reverse_concat, List.reverse_reverse]

/-! ## Marks around the number -/

/-- There is a bracket in a clone mark, and one in most of it. -/
theorem bracket_mem (h : cloneMark <:+: text ∨ cloneStem <:+ text) : '[' ∈ text := by
  rcases h with h | h
  · exact h.subset (by decide)
  · exact h.subset (by decide)

theorem stem_suffix_star_iff : cloneStem <:+ '*' :: text ↔ cloneStem <:+ text := by
  rw [List.suffix_cons_iff, or_iff_right]
  intro heq
  exact absurd (List.cons_eq_cons.1 heq).1 (by decide)

theorem mark_infix_cons_iff {c : Char} (hc : c ≠ ' ') :
    cloneMark <:+: c :: text ↔ cloneMark <:+: text := by
  rw [List.infix_cons_iff, or_iff_right]
  intro hprefix
  exact absurd (List.cons_prefix_cons.1 hprefix).1.symm hc

namespace IsLabel

theorem mark_not_infix_star (h : IsLabel label) : ¬ cloneMark <:+: '*' :: label.toList := by
  rw [mark_infix_cons_iff (by decide)]
  exact h.mark_not_infix

theorem last_star_not_blank (h : IsLabel label) :
    ∀ c ∈ ('*' :: label.toList).getLast?, isBlank c = false := by
  rcases List.eq_nil_or_concat label.toList with hnil | ⟨front, c, hlabel⟩
  · rw [hnil]
    decide
  · have hlast := h.last_not_blank
    rw [hlabel, List.concat_eq_append] at hlast ⊢
    rw [← List.cons_append, List.getLast?_concat]
    rwa [List.getLast?_concat] at hlast

/-- A mark around the number of a placeholder would have to begin in its label. -/
theorem mark_not_infix_append (h : IsLabel label) (hstem : ¬ cloneStem <:+ label.toList)
    (hback : ¬ cloneMark <:+: ' ' :: back) :
    ¬ cloneMark <:+: '*' :: label.toList ++ ' ' :: back := by
  intro hmark
  rcases infix_append_space hmark with hfront | hfront | hspace
  · exact h.mark_not_infix_star hfront
  · exact hstem (stem_suffix_star_iff.1 hfront)
  · exact hback hspace

end IsLabel

/-- A mark around a remark would have to begin in front of the number. -/
theorem mark_not_infix_number {number : List Char} (h : '[' ∉ number)
    (hremark : IsPlain remark) :
    ¬ cloneMark <:+: number ++ remarkChars remark := by
  intro hmark
  rcases infix_append_space hmark with hfront | hfront | hspace
  · exact h (bracket_mem (.inl hfront))
  · exact h (bracket_mem (.inr hfront))
  · have hparen : ¬ cloneMark <+: remarkChars remark := by
      intro hprefix
      have hsecond := List.cons_prefix_cons.1 (List.cons_prefix_cons.1 hprefix).2
      exact absurd hsecond.1 (by decide)
    have hremark' := (List.infix_cons_iff.1 hspace).resolve_left hparen
    rw [mark_infix_cons_iff (by decide)] at hremark'
    exact hremark.mark_not_infix (infix_of_append hremark' (by simp))

/-! ## The two ways a placeholder ends -/

theorem isSpacedNumber_append (hblanks : IsGap blanks)
    (hdigits : IsNumber Char.isDigit digits.toList) :
    IsSpacedNumber (blanks.toList ++ digits.toList) := by
  refine ⟨_, _, rfl, hblanks.1, fun c hc => ?_, hdigits.1, fun c hc =>
    Text.isDecimalDigit_of_isDigit (hdigits.2 c hc)⟩
  rw [hblanks.2 c hc]
  decide

theorem IsGap.exists_eq_cons (h : IsGap blanks) : ∃ rest, blanks.toList = ' ' :: rest := by
  obtain ⟨c, rest, hfirst⟩ := List.exists_cons_of_ne_nil h.1
  obtain rfl : c = ' ' := h.2 c (by simp [hfirst])
  exact ⟨rest, hfirst⟩

theorem IsGap.exists_eq_append (h : IsGap blanks) : ∃ front, blanks.toList = front ++ [' '] := by
  obtain ⟨front, c, hlast⟩ := (List.eq_nil_or_concat blanks.toList).resolve_left h.1
  obtain rfl : c = ' ' := h.2 c (by simp [hlast])
  exact ⟨front, by rw [hlast, List.concat_eq_append]⟩

theorem isRemark_remarkChars (h : IsPlain remark) : isRemark (remarkChars remark) :=
  isRemark_iff.2 ⟨remark.toList, rfl, h.sign_notMem '\n' (by simp)⟩

namespace IsLabel

variable {number : List Char}

theorem sign_notMem_star (h : IsLabel label) {c : Char} (hc : c ∈ ['\n', '(', ')', '$']) :
    c ∉ '*' :: label.toList := by
  rw [List.mem_cons, not_or]
  refine ⟨?_, h.sign_notMem c hc⟩
  rintro rfl
  exact absurd hc (by decide)

theorem dollar_notMem (h : IsLabel label) (hnumber : IsSpacedNumber number) :
    '$' ∉ '*' :: label.toList ++ number :=
  List.not_mem_append (h.sign_notMem_star (by simp)) (hnumber.notMem (by decide))

/-- The number at the end is taken off, and the blanks are left. -/
theorem stableChars_number (h : IsLabel label) (hblanks : IsGap blanks)
    (hdigits : IsNumber Char.isDigit digits.toList) :
    stableChars ('*' :: label.toList ++ (blanks.toList ++ digits.toList)) =
      '*' :: label.toList ++ blanks.toList := by
  have hdollar := h.dollar_notMem (isSpacedNumber_append hblanks hdigits)
  -- the ending begins after the last blank
  obtain ⟨front, hlast⟩ := hblanks.exists_eq_append
  rw [hlast, List.append_assoc, List.singleton_append, ← List.append_assoc] at hdollar ⊢
  rw [stableChars_append_ending hdollar (by decide) hdigits.isNumbering, List.append_assoc]

/-- A number with a remark stays. -/
theorem stableChars_remark (h : IsLabel label) (hnumber : IsSpacedNumber number)
    (hremark : IsPlain remark) :
    stableChars ('*' :: label.toList ++ (number ++ remarkChars remark)) =
      '*' :: label.toList ++ (number ++ remarkChars remark) := by
  have hdollar : '$' ∉ '*' :: label.toList ++ (number ++ remarkChars remark) := by
    rw [← List.append_assoc]
    refine List.not_mem_append (h.dollar_notMem hnumber) ?_
    simp [remarkChars, hremark.sign_notMem '$' (by simp)]
  have hlast : '*' :: label.toList ++ (number ++ remarkChars remark) =
      ('*' :: label.toList ++ (number ++ ' ' :: '(' :: remark.toList)) ++ [')'] := by
    simp [remarkChars]
  rw [hlast] at hdollar ⊢
  exact stableChars_append_ending hdollar (by decide) (by simp)

/-- Without a remark, the blanks in front of the number are left over. -/
theorem collapse_number (h : IsLabel label) (hstem : ¬ cloneStem <:+ label.toList)
    (hblanks : IsGap blanks) (hdigits : IsNumber Char.isDigit digits.toList) :
    collapse (dropClone (stableChars
      ('*' :: label.toList ++ (blanks.toList ++ digits.toList)))) =
      '*' :: label.toList ++ blanks.toList := by
  have hmark : ¬ cloneMark <:+: '*' :: label.toList ++ blanks.toList := by
    have hbracket : '[' ∉ blanks.toList := fun h => absurd (hblanks.2 '[' h) (by decide)
    obtain ⟨rest, hfirst⟩ := hblanks.exists_eq_cons
    rw [hfirst] at hbracket ⊢
    exact h.mark_not_infix_append hstem fun hmark => hbracket (bracket_mem (.inl hmark))
  -- a text that ends with a blank has no number at its end
  obtain ⟨front, hlast⟩ := hblanks.exists_eq_append
  rw [h.stableChars_number hblanks hdigits, dropClone_eq_self hmark, hlast,
    ← List.append_assoc, collapse_append_singleton (by decide) (by decide)]

/-- With a remark, the number is left out with its blanks and the remark. -/
theorem collapse_remark (h : IsLabel label) (hstem : ¬ cloneStem <:+ label.toList)
    (hblanks : IsGap blanks) (hdigits : IsNumber Char.isDigit digits.toList)
    (hremark : IsPlain remark) :
    collapse (dropClone (stableChars
      ('*' :: label.toList ++ (blanks.toList ++ digits.toList ++ remarkChars remark)))) =
      '*' :: label.toList ++ ['s'] := by
  have hnumber := isSpacedNumber_append hblanks hdigits
  have hmark : ¬ cloneMark <:+:
      '*' :: label.toList ++ (blanks.toList ++ digits.toList ++ remarkChars remark) := by
    have hback := mark_not_infix_number (hnumber.notMem (c := '[') (by decide)) hremark
    obtain ⟨rest, hfirst⟩ := hblanks.exists_eq_cons
    rw [hfirst] at hback ⊢
    exact h.mark_not_infix_append hstem hback
  rw [h.stableChars_remark hnumber hremark, dropClone_eq_self hmark]
  exact collapse_append_number rfl h.last_star_not_blank hnumber
    (.inr ⟨h.sign_notMem_star (by simp), isRemark_remarkChars hremark⟩)

end IsLabel

/-- A label that ends with most of a clone mark is cut there, whatever follows the next space. -/
theorem dropClone_star (hstem : cloneStem <:+ label.toList) (back : List Char) :
    dropClone ('*' :: label.toList ++ ' ' :: back) = dropClone ('*' :: label.toList ++ [' ']) := by
  obtain ⟨front, hlabel⟩ := hstem
  have hmark : cloneMark <:+: '*' :: label.toList ++ [' '] :=
    ⟨'*' :: front, [], by rw [← hlabel, cloneMark_eq]; simp⟩
  rw [List.append_cons, dropClone_append hmark]

/-- The short name of a placeholder depends neither on its number nor on the remark after it. With
and without a remark it is the same only if the label ends with most of a clone mark, which the
blanks complete. Otherwise the blanks are left over without a remark. -/
theorem shortName_placeholder_eq_iff (hlabel : IsLabel label) (hblanks : IsGap blanks) :
    ∃ bare remarked : String,
      (∀ digits : String, IsNumber Char.isDigit digits.toList →
        shortName ("*" ++ label ++ blanks ++ digits) = bare) ∧
      (∀ digits remark : String, IsNumber Char.isDigit digits.toList → IsPlain remark →
        shortName ("*" ++ label ++ blanks ++ digits ++ " (" ++ remark ++ ")") = remarked) ∧
      (bare = remarked ↔ cloneStem <:+ label.toList) ∧
      (¬ cloneStem <:+ label.toList →
        bare = "*" ++ label ++ blanks ∧ remarked = "*" ++ label ++ "s") := by
  have hbare (digits : String) : ("*" ++ label ++ blanks ++ digits).toList =
      '*' :: label.toList ++ (blanks.toList ++ digits.toList) := by simp
  have hremarked (digits remark : String) :
      ("*" ++ label ++ blanks ++ digits ++ " (" ++ remark ++ ")").toList =
        '*' :: label.toList ++ (blanks.toList ++ digits.toList ++ remarkChars remark) := by
    simp [remarkChars]
  obtain ⟨rest, hfirst⟩ := hblanks.exists_eq_cons
  by_cases hstem : cloneStem <:+ label.toList
  · -- both are cut where the label is
    refine ⟨.ofList (collapse (dropClone ('*' :: label.toList ++ [' ']))), _, ?_, ?_,
      iff_of_true rfl hstem, absurd hstem⟩
    · intro digits hdigits
      rw [← String.toList_inj, toList_shortName, hbare,
        hlabel.stableChars_number hblanks hdigits, hfirst, dropClone_star hstem,
        String.toList_ofList]
    · intro digits remark hdigits hremark
      rw [← String.toList_inj, toList_shortName, hremarked,
        hlabel.stableChars_remark (isSpacedNumber_append hblanks hdigits) hremark, hfirst,
        String.toList_ofList]
      exact congrArg collapse
        (dropClone_star hstem (rest ++ digits.toList ++ remarkChars remark))
  · -- the number alone leaves its blanks, and the remark becomes a plural ending
    refine ⟨"*" ++ label ++ blanks, "*" ++ label ++ "s", ?_, ?_, ?_, fun _ => ⟨rfl, rfl⟩⟩
    · intro digits hdigits
      rw [← String.toList_inj, toList_shortName, hbare,
        hlabel.collapse_number hstem hblanks hdigits]
      simp
    · intro digits remark hdigits hremark
      rw [← String.toList_inj, toList_shortName, hremarked,
        hlabel.collapse_remark hstem hblanks hdigits hremark]
      simp
    · refine iff_of_false (fun heq => ?_) hstem
      have hchars := congrArg String.toList heq
      simp [hfirst] at hchars

/-- A gap with and without a remark has two short names, and one whose label is cut has one. -/
theorem shortName_placeholder_eq_iff_of_gap :
    IsLabel " gap" ∧ IsLabel " gap [clone" ∧ IsGap " " ∧ IsNumber Char.isDigit "3".toList ∧
      IsNumber Char.isDigit "12".toList ∧ IsPlain "bar" ∧
      shortName ("*" ++ " gap" ++ " " ++ "3") = "* gap " ∧
      shortName ("*" ++ " gap" ++ " " ++ "12" ++ " (" ++ "bar" ++ ")") = "* gaps" ∧
      shortName ("*" ++ " gap [clone" ++ " " ++ "3") =
        shortName ("*" ++ " gap [clone" ++ " " ++ "12" ++ " (" ++ "bar" ++ ")") := by
  have hgap : IsLabel " gap" := ⟨⟨by decide, by decide⟩, by decide⟩
  have hclone : IsLabel " gap [clone" := ⟨⟨by decide +kernel, by decide⟩, by decide⟩
  have hblanks : IsGap " " := ⟨by decide, by decide⟩
  have hremark : IsPlain "bar" := ⟨by decide, by decide⟩
  obtain ⟨bare, remarked, hbare, hremarked, -, hvalues⟩ :=
    shortName_placeholder_eq_iff hgap hblanks
  obtain ⟨hbareValue, hremarkedValue⟩ := hvalues (by decide)
  obtain ⟨cut, cutRemarked, hcut, hcutRemarked, hcutEq, -⟩ :=
    shortName_placeholder_eq_iff hclone hblanks
  refine ⟨hgap, hclone, hblanks, by decide, by decide, hremark, ?_, ?_, ?_⟩
  · rw [hbare "3" (by decide), hbareValue]
    decide
  · rw [hremarked "12" "bar" (by decide) hremark, hremarkedValue]
    decide
  · rw [hcut "3" (by decide), hcutRemarked "12" "bar" (by decide) hremark]
    exact hcutEq.2 (by decide)

end BuildScope.Name
