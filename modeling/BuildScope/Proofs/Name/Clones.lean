import BuildScope.Proofs.Name.Shortening
import BuildScope.Diff.Key

/-!
# Clones of Numbered Names

When a clone suffix makes no difference to the short name. Numbers are taken off before the clone
suffix is, so that a suffix keeps the numbering in front of it from being the end of the name. The
clone of a numbered name has therefore another short name than the name itself, but for names that
are cut at an earlier clone mark and for numbers that are left out with a placeholder.

* `Name.looseNumbering`: the numbering that a clone suffix hides.
* `Name.keepStable_append_mark`: what is kept of a name with a clone suffix.
* `Name.CloneIgnored`: the three kinds of names for which a clone suffix makes no difference.
* `Name.shortName_append_clone_eq_iff`: there are no others.
-/

namespace BuildScope.Name

open Text (isBlank isDecimalDigit)

variable {text front back : List Char}

/-! ## What a clone suffix hides -/

/-- The characters of a text that lie in no dollar number, in order. -/
def outsideDollars (text : List Char) : List Char :=
  charsAt text fun place => ¬ InDollarNumber text place

/-- The numbering at the end of a text, without the characters in dollar numbers. -/
def looseNumbering (text : List Char) : List Char :=
  charsAt text fun place => InEnding text place ∧ ¬ InDollarNumber text place

theorem charsAt_sublist (text : List Char) (p : Nat → Prop) [DecidablePred p] :
    (charsAt text p).Sublist text := by
  have hplaces : (charsAt text p).Sublist (text.zipIdx.map Prod.fst) :=
    List.filter_sublist.map Prod.fst
  rwa [List.zipIdx_map_fst] at hplaces

/-- The characters at some places, from the part of a text in front of its ending and from the
ending. -/
theorem charsAt_eq_append_ending (text : List Char) (p : Nat → Prop) [DecidablePred p] :
    charsAt text p = charsAt (text.rdropWhile isNumbering) p ++
      charsAt (text.rtakeWhile isNumbering) fun place =>
        p ((text.rdropWhile isNumbering).length + place) := by
  rw [← charsAt_append, List.rdropWhile_append_rtakeWhile]

/-- The loose numbering lies in the ending. -/
theorem looseNumbering_eq (text : List Char) :
    looseNumbering text = charsAt (text.rtakeWhile isNumbering) fun place =>
      ¬ InDollarNumber text ((text.rdropWhile isNumbering).length + place) := by
  have hfront : charsAt (text.rdropWhile isNumbering)
      (fun place => InEnding text place ∧ ¬ InDollarNumber text place) = [] :=
    charsAt_eq_nil fun place h hplace => Nat.not_le_of_lt h hplace.1
  rw [looseNumbering, charsAt_eq_append_ending, hfront, List.nil_append]
  exact charsAt_congr fun place _ => and_iff_right (Nat.le_add_right _ _)

theorem isNumbering_of_mem_looseNumbering {c : Char} (h : c ∈ looseNumbering text) :
    isNumbering c := by
  rw [looseNumbering_eq] at h
  exact List.mem_rtakeWhile_imp ((charsAt_sublist _ _).subset h)

/-- The stable characters of a text and its loose numbering are all that lies in no dollar
number. -/
theorem stableChars_append_looseNumbering (text : List Char) :
    stableChars text ++ looseNumbering text = outsideDollars text := by
  have hending : charsAt (text.rtakeWhile isNumbering)
      (fun place => ¬ (InEnding text ((text.rdropWhile isNumbering).length + place) ∨
        InDollarNumber text ((text.rdropWhile isNumbering).length + place))) = [] :=
    charsAt_eq_nil fun place _ => not_not_intro (.inl (Nat.le_add_right _ _))
  have hstable : stableChars text = charsAt (text.rdropWhile isNumbering) fun place =>
      ¬ InDollarNumber text place := by
    rw [stableChars, charsAt_eq_append_ending, hending, List.append_nil]
    exact charsAt_congr fun place h => not_congr (or_iff_right (Nat.not_le_of_lt h))
  rw [hstable, looseNumbering_eq, outsideDollars, ← charsAt_eq_append_ending]

/-! ## What is kept in front of a clone suffix -/

/-- Characters that belong to no number are kept, whatever follows. -/
theorem keepStable_append_of_plain (h : ∀ c ∈ front, c ≠ '$' ∧ isNumbering c = false)
    (back : List Char) : keepStable false (front ++ back) = front ++ keepStable false back := by
  induction front with
  | nil => rfl
  | cons c front ih =>
    obtain ⟨⟨hdollar, hnumbering⟩, hfront⟩ := List.forall_mem_cons.1 h
    rw [List.cons_append, keepStable, ih hfront]
    simp [hdollar, hnumbering]

theorem cloneMark_plain : ∀ c ∈ cloneMark, c ≠ '$' ∧ isNumbering c = false := by decide

/-- A space neither is part of a dollar number nor comes before one. -/
theorem inDollarNumber_append_space {place : Nat} (h : place < text.length) :
    InDollarNumber (text ++ ' ' :: back) place ↔ InDollarNumber text place := by
  have hdigits {start : Nat} (hstart : start < text.length) :
      digitsAfter (text ++ ' ' :: back) start = digitsAfter text start := by
    have hspace : (' ' :: back).takeWhile isDecimalDigit = [] :=
      List.takeWhile_cons_of_neg (by decide)
    rw [digitsAfter, digitsAfter, List.drop_append_of_le_length hstart, List.takeWhile_append,
      hspace, List.append_nil]
    split
    next hall => exact (List.takeWhile_sublist _).eq_of_length hall |>.symm
    next => rfl
  refine exists_congr fun start => ?_
  by_cases hle : start ≤ place
  · have hstart : start < text.length := Nat.lt_of_le_of_lt hle h
    rw [hdigits hstart, List.getElem?_append_left hstart]
  · simp [hle]

/-- In front of a clone suffix, only dollar numbers are taken off. -/
theorem keepStable_append_mark (text back : List Char) :
    keepStable false (text ++ (cloneMark ++ back)) =
      outsideDollars text ++ (cloneMark ++ keepStable false back) := by
  have hmark : keepStable false (cloneMark ++ back) =
      charsAt (cloneMark ++ back) fun place =>
        ¬ (InEnding (text ++ (cloneMark ++ back)) (text.length + place) ∨
          InDollarNumber (text ++ (cloneMark ++ back)) (text.length + place)) :=
    keepStable_eq false (fun h => by cases h)
  rw [← keepStable_append_of_plain cloneMark_plain, keepStable_eq_stableChars, stableChars,
    charsAt_append, ← hmark, outsideDollars]
  congr 1
  refine charsAt_congr fun place hplace => not_congr ?_
  -- the ending of the whole text begins behind the mark
  have hending : ¬ InEnding (text ++ (cloneMark ++ back)) place := by
    rw [inEnding_iff]
    intro h
    have hspace : isNumbering ' ' := h ' ' (by
      rw [List.drop_append_of_le_length (Nat.le_of_lt hplace)]
      exact List.mem_append_right _ (List.mem_append_left _ (by decide)))
    exact absurd hspace (by decide)
  rw [or_iff_right hending]
  exact inDollarNumber_append_space hplace

/-! ## Where the hidden numbering shows -/

/-- A text ends in a number with white space in front of it. -/
def EndsInNumber (text : List Char) : Prop :=
  ∃ number, IsSpacedNumber number ∧ number <:+ text

variable {numbering : List Char}

theorem isDigit_of_isNumbering {c : Char} (h : isNumbering c) (hor : isBlank c ∨ isDecimalDigit c) :
    c.isDigit := by
  have hdot : ¬ (isBlank '.' ∨ isDecimalDigit '.') := by decide
  rw [isNumbering, Bool.or_eq_true, beq_iff_eq] at h
  rcases h with h | rfl
  · exact h
  · exact absurd hor hdot

/-- The number at the end of a text begins after a character that is not blank. -/
theorem EndsInNumber.exists_longest (h : EndsInNumber text) :
    ∃ front number, text = front ++ number ∧ IsSpacedNumber number ∧
      ∀ c ∈ front.getLast?, isBlank c = false := by
  obtain ⟨_, ⟨blanks, digits, rfl, hne, hblanks, hdigits⟩, front, rfl⟩ := h
  refine ⟨front.rdropWhile isBlank, front.rtakeWhile isBlank ++ (blanks ++ digits), ?_,
    ⟨front.rtakeWhile isBlank ++ blanks, digits, by simp, by simp [hne], ?_, hdigits⟩, ?_⟩
  · rw [← List.append_assoc, ← List.append_assoc, List.rdropWhile_append_rtakeWhile,
      List.append_assoc]
  · exact List.forall_mem_append.2 ⟨fun c hc => List.mem_rtakeWhile_imp hc, hblanks⟩
  · intro c hc
    obtain ⟨hne', rfl⟩ := List.mem_getLast?_eq_getLast hc
    simpa using List.rdropWhile_last_not isBlank front hne'

/-- A number that a placeholder ends with is left out together with the digits that follow it. -/
theorem pluralize_append_of_endsInNumber (h : EndsInNumber text)
    (hdigits : ∀ c ∈ numbering, c.isDigit) : pluralize (text ++ numbering) = pluralize text := by
  obtain ⟨front, number, rfl, hnumber, hfront⟩ := h.exists_longest
  have hlonger : IsSpacedNumber (number ++ numbering) :=
    hnumber.append fun c hc => Text.isDecimalDigit_of_isDigit (hdigits c hc)
  have hshort := pluralize_append_number hfront hnumber (.inl rfl)
  have hlong := pluralize_append_number hfront hlonger (.inl rfl)
  rw [List.append_nil] at hshort hlong
  rw [List.append_assoc, hlong, hshort]

/-- Numbering makes a difference to a text, unless it continues a number at the end. -/
theorem endsInNumber_of_pluralize_append (hne : numbering ≠ [])
    (hnumbering : ∀ c ∈ numbering, isNumbering c)
    (h : pluralize (text ++ numbering) = pluralize text) :
    EndsInNumber text ∧ ∀ c ∈ numbering, c.isDigit := by
  rcases pluralize_cases (text ++ numbering) with ⟨hself, -⟩ | ⟨front, number, heq, hlong, hfront⟩
  · -- what is left of the text alone is shorter
    have hlength := length_pluralize_le text
    rw [← h, hself, List.length_append] at hlength
    exact absurd (List.length_pos_iff.2 hne) (by omega)
  · have hspaced : IsSpacedNumber number := by
      refine (isSpacedNumber_or_paren hlong).resolve_right fun hparen => ?_
      have hlast : (text ++ numbering).getLast? = some ')' := by
        rw [heq, List.getLast?_append_of_ne_nil _ (ne_nil_of_isPlaceholderNumber hlong), hparen.2]
      rw [List.getLast?_append_of_ne_nil _ hne] at hlast
      exact absurd (hnumbering ')' (List.mem_of_getLast? hlast)) (by decide)
    rcases pluralize_cases text with ⟨hself, -⟩ | ⟨front', number', rfl, hshort, hfront'⟩
    · -- the plural ending is neither blank nor a digit
      rw [hfront, hself] at h
      subst h
      rw [List.append_assoc] at heq
      obtain rfl := List.append_cancel_left heq
      exact absurd (by simp) (hspaced.notMem (c := 's') (by decide))
    · rw [hfront, hfront'] at h
      obtain rfl := List.append_cancel_right h
      rw [List.append_assoc] at heq
      obtain rfl := List.append_cancel_left heq
      have hparen : '(' ∉ number' := fun h => hspaced.paren_notMem (List.mem_append_left _ h)
      have hshort' : IsSpacedNumber number' :=
        (isSpacedNumber_or_paren hshort).resolve_right fun h => hparen h.1
      exact ⟨⟨number', hshort', List.suffix_append _ _⟩, fun c hc => isDigit_of_isNumbering
        (hnumbering c hc) (hspaced.isBlank_or_isDecimalDigit (List.mem_append_right _ hc))⟩

/-- Numbering makes no difference to a name exactly if it continues the number of a placeholder. -/
theorem collapse_append_eq_iff (hne : numbering ≠ [])
    (hnumbering : ∀ c ∈ numbering, isNumbering c) :
    collapse (text ++ numbering) = collapse text ↔
      text.head? = some '*' ∧ EndsInNumber text ∧ ∀ c ∈ numbering, c.isDigit := by
  by_cases hstar : text.head? = some '*'
  · have hlong : (text ++ numbering).head? = some '*' := by simp [hstar]
    rw [collapse, collapse, if_pos hlong, if_pos hstar]
    exact ⟨fun h => ⟨hstar, endsInNumber_of_pluralize_append hne hnumbering h⟩,
      fun h => pluralize_append_of_endsInNumber h.2.1 h.2.2⟩
  · -- numbering does not begin with a star
    have hlong : (text ++ numbering).head? ≠ some '*' := by
      cases text with
      | nil =>
        intro h
        exact absurd (hnumbering '*' (List.mem_of_head? h)) (by decide)
      | cons c text => exact hstar
    rw [collapse, collapse, if_neg hlong, if_neg hstar]
    exact ⟨fun h => absurd (List.append_right_eq_self.1 h) hne, fun h => absurd h.1 hstar⟩

/-! ## Clone suffixes -/

/-- Names for which a clone suffix makes no difference. -/
inductive CloneIgnored (text : List Char) : Prop where
  /-- The name has a clone suffix already. -/
  | clone (hmark : cloneMark <:+: outsideDollars text)
  /-- The suffix hides no numbering. A name with most of a clone mark at its end is left aside: it
  makes a mark with the space of the suffix. -/
  | plain (hstem : ¬ cloneStem <:+ outsideDollars text) (hnone : looseNumbering text = [])
  /-- The suffix hides digits of a placeholder number, which begins with digits that are no
  numbering. -/
  | placeholder (hstar : (stableChars text).head? = some '*')
    (hnumber : EndsInNumber (stableChars text)) (hdigits : ∀ c ∈ looseNumbering text, c.isDigit)

/-- Most of a clone mark in front of a clone suffix makes a mark with the space of the suffix. -/
theorem dropClone_append_stem (h : ¬ cloneMark <:+: front ++ cloneStem) (rest : List Char) :
    dropClone (front ++ cloneStem ++ (cloneMark ++ rest)) = front := by
  have hmark : cloneStem ++ (cloneMark ++ rest) = cloneMark ++ (cloneMark.tail ++ rest) := rfl
  have hfront : ¬ cloneMark <:+: front := fun hfront =>
    h (hfront.trans (List.prefix_append front cloneStem).isInfix)
  have hstem : ¬ cloneStem <:+ front := by
    rintro ⟨before, rfl⟩
    have htwice : cloneMark <:+: cloneStem ++ cloneStem := ⟨[], cloneStem.tail, rfl⟩
    exact h (htwice.trans ⟨before, [], by simp⟩)
  rw [List.append_assoc, hmark, dropClone_append_mark hfront hstem]

theorem getLast?_of_cloneStem (h : cloneStem <:+ text) : text.getLast? = some 'e' := by
  obtain ⟨front, rfl⟩ := h
  have hlast : cloneStem.getLast? = some 'e' := by decide
  rw [List.getLast?_append_of_ne_nil _ (by decide), hlast]

theorem EndsInNumber.getLast?_ne (h : EndsInNumber text) : text.getLast? ≠ some 'e' := by
  obtain ⟨number, hnumber, front, rfl⟩ := h
  obtain ⟨number, c, rfl, hc⟩ := hnumber.exists_eq_append_singleton
  rw [← List.append_assoc, List.getLast?_concat, Ne, Option.some.injEq]
  rintro rfl
  exact absurd hc (by decide)

/-- Nothing is hidden in a name with most of a clone mark at its end. -/
theorem looseNumbering_eq_nil (h : cloneStem <:+ outsideDollars text) :
    looseNumbering text = [] := by
  by_contra hne
  have hlast := getLast?_of_cloneStem h
  rw [← stableChars_append_looseNumbering, List.getLast?_append_of_ne_nil _ hne] at hlast
  exact absurd (isNumbering_of_mem_looseNumbering (List.mem_of_getLast? hlast)) (by decide)

/-- Most of a clone mark in front of a clone suffix is cut off with the suffix only. -/
theorem collapse_dropClone_ne (hmark : ¬ cloneMark <:+: text) (hstem : cloneStem <:+ text)
    (rest : List Char) :
    collapse (dropClone (text ++ (cloneMark ++ rest))) ≠ collapse (dropClone text) := by
  intro h
  obtain ⟨front, rfl⟩ := hstem
  have hlast : cloneStem = " [clon".toList ++ ['e'] := by decide
  rw [dropClone_append_stem hmark, dropClone_eq_self hmark, hlast, ← List.append_assoc,
    collapse_append_singleton (by decide) (by decide)] at h
  have hlength := length_collapse_le front
  rw [h, List.length_append, List.length_append, List.length_singleton] at hlength
  omega

/-- A clone suffix makes no difference to what is left of a name exactly if it is ignored. -/
theorem collapse_dropClone_eq_iff (text rest : List Char) :
    collapse (dropClone (outsideDollars text ++ (cloneMark ++ rest))) =
      collapse (dropClone (stableChars text)) ↔ CloneIgnored text := by
  have hsplit := stableChars_append_looseNumbering text
  have hnumbering (c : Char) (hc : c ∈ looseNumbering text) : isNumbering c :=
    isNumbering_of_mem_looseNumbering hc
  by_cases hmark : cloneMark <:+: outsideDollars text
  · -- both are cut at the same mark
    have hstable : cloneMark <:+: stableChars text := by
      rw [← hsplit] at hmark
      exact infix_of_append hmark fun h => absurd (hnumbering ' ' h) (by decide)
    rw [dropClone_append hmark, ← hsplit, dropClone_append hstable]
    exact iff_of_true rfl (.clone hmark)
  by_cases hstem : cloneStem <:+ outsideDollars text
  · -- the name alone is not cut, and ends with a letter
    rw [looseNumbering_eq_nil hstem, List.append_nil] at hsplit
    rw [hsplit]
    refine iff_of_false (collapse_dropClone_ne hmark hstem rest) ?_
    rintro (hclone | ⟨hstem', -⟩ | ⟨-, hnumber, -⟩)
    · exact hmark hclone
    · exact hstem' hstem
    · rw [hsplit] at hnumber
      exact hnumber.getLast?_ne (getLast?_of_cloneStem hstem)
  -- neither is cut within the name
  have hstable : ¬ cloneMark <:+: stableChars text := by
    rw [← hsplit] at hmark
    exact fun h => hmark (h.trans (List.prefix_append _ _).isInfix)
  rw [dropClone_append_mark hmark hstem, dropClone_eq_self hstable, ← hsplit]
  by_cases hnone : looseNumbering text = []
  · rw [hnone, List.append_nil]
    exact iff_of_true rfl (.plain hstem hnone)
  · rw [collapse_append_eq_iff hnone hnumbering]
    constructor
    · exact fun ⟨hstar, hnumber, hdigits⟩ => .placeholder hstar hnumber hdigits
    · rintro (hclone | ⟨-, hnone'⟩ | ⟨hstar, hnumber, hdigits⟩)
      · exact absurd hclone hmark
      · exact absurd hnone' hnone
      · exact ⟨hstar, hnumber, hdigits⟩

/-- In a name without dollar sign and star, numbering at the end is what a clone suffix hides. -/
theorem cloneIgnored_iff (hmark : ¬ cloneMark <:+: text ++ [' ']) (hdollar : '$' ∉ text)
    (hstar : text.head? ≠ some '*') :
    CloneIgnored text ↔ ∀ c ∈ text.getLast?, isNumbering c = false := by
  -- without dollar signs, all that is not stable is the ending
  have hplace (place : Nat) : ¬ InDollarNumber text place :=
    fun ⟨_, hsign, _⟩ => hdollar (List.mem_of_getElem? hsign)
  have houtside : outsideDollars text = text := charsAt_eq_self fun place _ => hplace place
  have hloose : looseNumbering text = text.rtakeWhile isNumbering := by
    rw [looseNumbering_eq]
    exact charsAt_eq_self fun place _ => hplace _
  have hnone : looseNumbering text = [] ↔ ∀ c ∈ text.getLast?, isNumbering c = false := by
    rw [hloose, List.rtakeWhile_eq_nil_iff]
    rcases List.eq_nil_or_concat text with rfl | ⟨front, c, rfl⟩ <;> simp
  constructor
  · rintro (hclone | ⟨-, hloose⟩ | ⟨hhead, -, -⟩)
    · rw [houtside] at hclone
      exact absurd (hclone.trans (List.prefix_append text [' ']).isInfix) hmark
    · exact hnone.1 hloose
    · have hhead' : (outsideDollars text).head? = some '*' := by
        rw [← stableChars_append_looseNumbering, List.head?_append, hhead, Option.some_or]
      exact absurd (houtside ▸ hhead') hstar
  · refine fun hlast => .plain ?_ (hnone.2 hlast)
    rw [houtside]
    rintro ⟨front, rfl⟩
    exact hmark ⟨front, [], by rw [List.append_nil, cloneMark_eq, List.append_assoc]⟩

/-- A symbol is a clone of another one, whose short name it has with a clone suffix. -/
structure IsCloneOf (clone sym : Symbol) : Prop where
  containerName_eq : clone.containerName = sym.containerName
  sectionClass_eq : clone.sectionClass = sym.sectionClass
  path_eq : clone.path = sym.path
  exists_name_eq : ∃ text, clone.name = sym.name ++ " [clone " ++ text ++ "]"

/-- A clone suffix makes no difference to the short name, and so to the key that clones are matched
by, exactly if it is ignored for the name. For a name without dollar sign and star that means: if
the name does not end in numbering. -/
theorem shortName_append_clone_eq_iff (name : String) :
    (∀ clone : String,
      shortName (name ++ " [clone " ++ clone ++ "]") = shortName name ↔
        CloneIgnored name.toList) ∧
      (∀ clone sym : Symbol, sym.name = name → IsCloneOf clone sym →
        (Pass.renamed.key clone = Pass.renamed.key sym ↔ CloneIgnored name.toList)) ∧
      (¬ cloneMark <:+: name.toList ++ [' '] → '$' ∉ name.toList →
        name.toList.head? ≠ some '*' →
        (CloneIgnored name.toList ↔ ∀ c ∈ name.toList.getLast?, isNumbering c = false)) := by
  have hname (clone : String) :
      shortName (name ++ " [clone " ++ clone ++ "]") = shortName name ↔
        CloneIgnored name.toList := by
    rw [← String.toList_inj, toList_shortName, toList_shortName, ← keepStable_eq_stableChars,
      String.toList_append, String.toList_append, String.toList_append, List.append_assoc,
      List.append_assoc]
    show collapse (dropClone (keepStable false (name.toList ++ (cloneMark ++ _)))) = _ ↔ _
    rw [keepStable_append_mark]
    exact collapse_dropClone_eq_iff name.toList _
  refine ⟨hname, ?_, cloneIgnored_iff⟩
  rintro clone sym rfl ⟨hcontainer, hsection, hpath, text, htext⟩
  rw [← hname text, ← htext]
  simp [Pass.key, hcontainer, hsection, hpath]

/-- A clone of a numbered name has another short name and key, and one of another name has not. -/
theorem shortName_append_clone_eq_iff_of_numbered :
    let bare : Symbol := { sectionName := ".text", size := 8, name := "foo" }
    let numbered : Symbol := { bare with name := "foo.2" }
    let clone (sym : Symbol) : Symbol := { sym with name := sym.name ++ " [clone .isra.0]" }
    IsCloneOf (clone bare) bare ∧ IsCloneOf (clone numbered) numbered ∧
      (∀ sym ∈ [bare, numbered], ¬ cloneMark <:+: sym.name.toList ++ [' '] ∧
        '$' ∉ sym.name.toList ∧ sym.name.toList.head? ≠ some '*') ∧
      Pass.renamed.key (clone bare) = Pass.renamed.key bare ∧
      Pass.renamed.key (clone numbered) ≠ Pass.renamed.key numbered ∧
      shortName "foo.2 [clone .isra.0]" ≠ shortName "foo.2" := by
  intro bare numbered clone
  have hclone (sym : Symbol) : IsCloneOf (clone sym) sym :=
    ⟨rfl, rfl, rfl, ".isra.0", by simp [clone, String.append_assoc]⟩
  have hnames : ∀ sym ∈ [bare, numbered], ¬ cloneMark <:+: sym.name.toList ++ [' '] ∧
      '$' ∉ sym.name.toList ∧ sym.name.toList.head? ≠ some '*' := by decide +kernel
  obtain ⟨-, hbareKey, hbarePlain⟩ := shortName_append_clone_eq_iff bare.name
  have hbare : CloneIgnored bare.name.toList := by
    obtain ⟨hmark, hdollar, hstar⟩ := hnames bare (by simp)
    exact (hbarePlain hmark hdollar hstar).2 (by decide)
  obtain ⟨hname, hkey, hplain⟩ := shortName_append_clone_eq_iff numbered.name
  -- the number at the end of the name makes the difference
  have hnumbered : ¬ CloneIgnored numbered.name.toList := by
    obtain ⟨hmark, hdollar, hstar⟩ := hnames numbered (by simp)
    exact mt (hplain hmark hdollar hstar).1 (by decide)
  exact ⟨hclone bare, hclone numbered, hnames, (hbareKey _ _ rfl (hclone bare)).2 hbare,
    mt (hkey _ _ rfl (hclone numbered)).1 hnumbered, mt (hname ".isra.0").1 hnumbered⟩

end BuildScope.Name
