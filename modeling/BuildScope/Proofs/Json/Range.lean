import BuildScope.Proofs.Json.Parsing

/-!
# The Range of Numbers

Whatever a document spells, the integers read from it are integers of 64 bits: the lexer makes no
others, and the parser and the readers of free shape only pass on what the lexer has made.

* `Numeral.inRange_of_value_eq_some`: where numbers come from.
* `inRange_tokens`, `inRange_parse`: the numbers of a document are in range.
* `Tree.inRange_of_toValue_eq_ok`: so are the numbers of a value that is read from it.
-/

namespace BuildScope.Json

/-- An integer lies between the least signed and the greatest unsigned integer of 64 bits. -/
def Number.InRange : Number → Prop
  | .integer n => -0x8000000000000000 ≤ n ∧ n < wordLimit
  | .float _ => True

/-- A numeral denotes no integer beyond the range. -/
theorem Numeral.inRange_of_value_eq_some {numeral : Numeral} {n : Number}
    (h : numeral.value = some n) : n.InRange := by
  simp only [Numeral.value] at h
  split at h
  · rename_i hword
    simp only [Bool.and_eq_true, decide_eq_true_eq] at hword
    cases h
    exact ⟨by omega, by exact_mod_cast hword.1.2⟩
  split at h
  · rename_i hword
    simp only [Bool.and_eq_true, decide_eq_true_eq] at hword
    cases h
    have : (0 : Int) < wordLimit := by decide
    constructor <;> omega
  · obtain ⟨x, -, rfl⟩ := Option.map_eq_some_iff.mp h
    trivial

/-! ## Tokens -/

/-- The number of a token, if it is one, is in range. -/
def Token.InRange : Token → Prop
  | .number (some n) => n.InRange
  | _ => True

/-- The token of a numeral is in range, whatever the numeral. -/
theorem Token.inRange_numeral (numeral : Numeral) : (Token.number numeral.value).InRange := by
  cases hvalue : numeral.value with
  | none => trivial
  | some n => exact Numeral.inRange_of_value_eq_some hvalue

namespace Lexer

variable {ts : List Token} {lexer : Lexer}

/-- The tokens so far are in range, and so is the one that a word becomes. -/
structure InRange (lexer : Lexer) : Prop where
  /-- The tokens so far. -/
  tokens : ∀ token ∈ lexer.tokens, token.InRange
  /-- The token of a word. -/
  word : ∀ rest token, lexer.state = .word rest token → token.InRange

/-- A lexer that is halted by a token in range is in range. -/
theorem inRange_halt {last : Token} (hlast : last.InRange) (h : ∀ token ∈ ts, token.InRange) :
    (halt ts last).InRange :=
  ⟨List.forall_mem_cons.mpr ⟨hlast, h⟩, nofun⟩

/-- So is one that starts a token with some character. -/
theorem inRange_start (h : ∀ token ∈ ts, token.InRange) (c : Char) : (start ts c).InRange := by
  unfold start
  split
  case h_16 =>
    split
    · exact ⟨h, nofun⟩
    · exact inRange_halt trivial h
  -- the other characters are brackets and marks, or begin a text, a word or a number
  all_goals
    refine ⟨?_, ?_⟩
    · simpa [Token.InRange] using h
    · rintro _ _ ⟨⟩ <;> trivial

/-- So is one that starts a token with a piece of a document. -/
theorem inRange_startPiece (h : ∀ token ∈ ts, token.InRange) (piece : Text.Piece) :
    (startPiece ts piece).InRange := by
  cases piece with
  | char c => exact inRange_start h c
  | malformed extra => exact inRange_halt trivial h

/-- A step of the lexer keeps it in range. -/
theorem InRange.step (h : lexer.InRange) (piece : Text.Piece) : (lexer.step piece).InRange := by
  obtain ⟨ts, state⟩ := lexer
  have hts := h.tokens
  cases state with
  | blank => exact inRange_startPiece hts piece
  | word rest token =>
    have htoken := h.word rest token rfl
    have hall := List.forall_mem_cons.mpr ⟨htoken, hts⟩
    -- the last letter of a word completes its token
    match rest, piece with
    | [], piece => exact inRange_startPiece hall piece
    | [_], .malformed _ | _ :: _ :: _, .malformed _ => exact inRange_halt (by trivial) hts
    | [last], .char c =>
      simp only [Lexer.step]
      split
      · exact ⟨hall, nofun⟩
      · exact inRange_halt trivial hts
    | next :: _ :: _, .char c =>
      simp only [Lexer.step]
      split
      · refine ⟨hts, ?_⟩
        rintro _ _ ⟨⟩
        exact htoken
      · exact inRange_halt trivial hts
  | numeral draft =>
    simp only [Lexer.step]
    split
    · exact ⟨hts, nofun⟩
    · -- the piece that ends a numeral may begin another token
      have hnumber := Token.inRange_numeral draft.finish
      exact inRange_startPiece (List.forall_mem_cons.mpr ⟨hnumber, hts⟩) piece
    · exact inRange_halt trivial hts
  | text draft =>
    simp only [Lexer.step]
    split
    · exact ⟨hts, nofun⟩
    · exact ⟨List.forall_mem_cons.mpr ⟨trivial, hts⟩, nofun⟩
    · exact inRange_halt trivial hts
  | halted => exact h

/-- At the end, all tokens are in range. -/
theorem InRange.finish (h : lexer.InRange) : ∀ token ∈ lexer.finish, token.InRange := by
  obtain ⟨ts, state⟩ := lexer
  have hts := h.tokens
  have hall {token : Token} (htoken : token.InRange) : ∀ t ∈ (token :: ts).reverse, t.InRange := by
    simpa only [List.mem_reverse, List.forall_mem_cons] using ⟨htoken, hts⟩
  cases state with
  | blank | halted => simpa [Lexer.finish] using hts
  | word rest token =>
    cases rest with
    | nil => exact hall (h.word [] token rfl)
    | cons => exact hall trivial
  | numeral draft =>
    simp only [Lexer.finish]
    split
    · exact hall (Token.inRange_numeral draft.finish)
    · exact hall trivial
  | text draft => exact hall trivial

end Lexer

/-- The numbers among the tokens of a document are in range. -/
theorem inRange_tokens (document : Text.Document) : ∀ token ∈ tokens document, token.InRange := by
  have read (pieces : Text.Document) (lexer : Lexer) (h : lexer.InRange) :
      (pieces.foldl Lexer.step lexer).InRange := by
    induction pieces generalizing lexer with
    | nil => exact h
    | cons piece pieces ih => exact ih _ (h.step piece)
  exact (read document {} ⟨by simp, nofun⟩).finish

/-! ## Trees -/

/-- Every number in a tree is in range. -/
def Tree.InRange (tree : Tree) : Prop :=
  ∀ n ∈ tree.numbers, n.InRange

section
variable {items : List Tree} {members : List (Option String × Tree)} {ending : Option Stop}

/-- An array is in range if its items are. -/
theorem Tree.inRange_array :
    (Tree.array items ending).InRange ↔ ∀ item ∈ items, item.InRange := by
  rw [Tree.InRange, Tree.numbers_array]
  exact List.forall_mem_flatMap

/-- An object is in range if its members are. -/
theorem Tree.inRange_object :
    (Tree.object members ending).InRange ↔ ∀ member ∈ members, member.2.InRange := by
  rw [Tree.InRange, Tree.numbers_object]
  exact List.forall_mem_flatMap

end

/-- The numbers in what is open around a value are in range. -/
def Context.InRange : Context → Prop
  | .top => True
  | .array items outer => (∀ item ∈ items, item.InRange) ∧ outer.InRange
  | .member members _ outer => (∀ member ∈ members, member.2.InRange) ∧ outer.InRange

/-- The numbers in what the parser has read are in range. -/
def Place.InRange : Place → Prop
  | .value outer | .firstItem outer | .firstKey outer => outer.InRange
  | .afterItem items outer => (∀ item ∈ items, item.InRange) ∧ outer.InRange
  | .key members outer | .colon members _ outer | .afterMember members outer =>
    (∀ member ∈ members, member.2.InRange) ∧ outer.InRange
  | .done tree => tree.InRange

/-- Closing all that is open around a tree adds no numbers. -/
theorem Context.InRange.close {context : Context} {tree : Tree} (h : context.InRange)
    (htree : tree.InRange) : (context.close tree).InRange := by
  induction context generalizing tree with
  | top => exact htree
  | array items outer ih =>
    refine ih h.2 (Tree.inRange_array.mpr ?_)
    simpa only [List.mem_reverse, List.forall_mem_cons] using ⟨htree, h.1⟩
  | member members key outer ih =>
    refine ih h.2 (Tree.inRange_object.mpr ?_)
    simpa only [List.mem_reverse, List.forall_mem_cons] using ⟨htree, h.1⟩

namespace Place

/-- Once a value has been read, it belongs to what is open around it. -/
theorem inRange_after {within : Context} {tree : Tree} (h : within.InRange)
    (htree : tree.InRange) : (after within tree).InRange := by
  cases within with
  | top => exact htree
  | array items outer => exact ⟨List.forall_mem_cons.mpr ⟨htree, h.1⟩, h.2⟩
  | member members key outer => exact ⟨List.forall_mem_cons.mpr ⟨htree, h.1⟩, h.2⟩

private theorem inRange_of_numbers_eq_nil {tree : Tree} (h : tree.numbers = []) : tree.InRange := by
  simp [Tree.InRange, h]

/-- What is there when the parser halts is in range. -/
theorem InRange.halt {place : Place} (h : place.InRange) (stop : Stop) :
    (place.halt stop).InRange := by
  cases place with
  | value within => exact Context.InRange.close h (inRange_of_numbers_eq_nil rfl)
  | firstItem outer | firstKey outer =>
    exact Context.InRange.close h (inRange_of_numbers_eq_nil rfl)
  | afterItem items outer =>
    exact Context.InRange.close h.2 (Tree.inRange_array.mpr (by simpa using h.1))
  | key members outer | afterMember members outer =>
    exact Context.InRange.close h.2 (Tree.inRange_object.mpr (by simpa using h.1))
  | colon members name outer =>
    refine Context.InRange.close h.2 (Tree.inRange_object.mpr ?_)
    simpa only [List.mem_reverse, List.forall_mem_cons] using ⟨inRange_of_numbers_eq_nil rfl, h.1⟩
  | done tree => exact h

/-- What a token leads to is in range, be it a place or a tree. -/
abbrev Outcome.InRange (outcome : Place ⊕ Tree) : Prop :=
  outcome.elim Place.InRange Tree.InRange

/-- A token where a value is expected leads on in range. -/
theorem inRange_ofValueToken {within : Context} {token : Token} (h : within.InRange)
    (htoken : token.InRange) : Outcome.InRange (ofValueToken within token) := by
  have hvalue : (Place.value within).InRange := h
  cases token with
  | null | bool b | text s => exact inRange_after h (inRange_of_numbers_eq_nil rfl)
  | number n =>
    refine inRange_after h ?_
    cases n with
    | none => exact inRange_of_numbers_eq_nil rfl
    | some n =>
      rw [Tree.InRange, Tree.numbers, List.forall_mem_singleton]
      exact htoken
  | openArray | openObject => exact h
  | brokenText stop | broken stop => exact hvalue.halt stop
  | closeArray | closeObject | comma | colon => exact hvalue.halt .malformed

/-- So does one where a key is expected. -/
theorem inRange_ofKeyToken {members : List (Option String × Tree)} {outer : Context}
    (h : (Place.key members outer).InRange) (token : Token) :
    Outcome.InRange (ofKeyToken members outer token) := by
  cases token with
  | text name => exact h
  | brokenText stop => exact h.halt stop
  | _ => exact h.halt .malformed

/-- A step of the parser keeps it in range. -/
theorem InRange.step {place : Place} {token : Token} (h : place.InRange)
    (htoken : token.InRange) : Outcome.InRange (place.step token) := by
  -- the cases are the equations of a step, in their order
  unfold Place.step
  split
  · exact inRange_ofValueToken h htoken
  · exact inRange_after h (inRange_of_numbers_eq_nil rfl)
  · exact inRange_ofValueToken ⟨by simp, h⟩ htoken
  · exact h
  · exact inRange_after h.2 (Tree.inRange_array.mpr (by simpa using h.1))
  · exact inRange_after h (inRange_of_numbers_eq_nil rfl)
  · exact inRange_ofKeyToken ⟨by simp, h⟩ _
  · exact inRange_ofKeyToken h _
  · exact h
  · exact h
  · exact inRange_after h.2 (Tree.inRange_object.mpr (by simpa using h.1))
  · exact h.halt .malformed

/-- The parser makes a tree in range of tokens in range. -/
theorem InRange.run {ts : List Token} {place : Place} (h : place.InRange)
    (hts : ∀ token ∈ ts, token.InRange) : (place.run ts).tree.InRange := by
  induction ts generalizing place with
  | nil => cases place <;> first | exact h | exact h.halt .truncated
  | cons token ts ih =>
    obtain ⟨htoken, hts⟩ := List.forall_mem_cons.mp hts
    have hstep := h.step htoken
    cases hout : place.step token with
    | inl next =>
      rw [hout] at hstep
      rw [run_cons_of_inl hout]
      exact ih hstep hts
    | inr tree =>
      rw [hout] at hstep
      rw [tree_run_cons_of_inr hout]
      exact hstep

end Place

/-- The numbers in the tree of a document are in range. -/
theorem inRange_parse (document : Text.Document) : (parse document).tree.InRange :=
  have htop : (Place.value .top).InRange := trivial
  htop.run (inRange_tokens document)

/-! ## Values -/

/-- The members that are left when an object is sorted are members of it. -/
theorem mem_of_mem_sortMembers {members : List (String × Value)} {member : String × Value}
    (h : member ∈ sortMembers members) : member ∈ members := by
  -- what a table holds once all are inserted was inserted or was there before
  have insert (table : Std.TreeMap String Value) (key : String) (value : Value)
      (hget : (table.insertMany members)[key]? = some value) :
      (key, value) ∈ members ∨ table[key]? = some value := by
    clear h
    induction members generalizing table with
    | nil => exact .inr hget
    | cons head members ih =>
      rw [Std.TreeMap.insertMany_cons] at hget
      rcases ih _ hget with hmem | hget
      · exact .inl (List.mem_cons_of_mem _ hmem)
      · rw [Std.TreeMap.getElem?_insert] at hget
        split at hget
        · rename_i hkey
          rw [Std.LawfulEqCmp.compare_eq_iff_eq] at hkey
          cases hget
          exact .inl (hkey ▸ List.mem_cons_self ..)
        · exact .inr hget
  rw [sortMembers, Std.TreeMap.mem_toList_iff_getElem?_eq_some,
    Std.TreeMap.ofList_eq_insertMany_empty] at h
  simpa using insert ∅ _ _ h

/-- Every number in a value is in range. -/
def Value.InRange (value : Value) : Prop :=
  value.toTree.InRange

namespace Value

theorem inRange_array {items : List Value} :
    (array items).InRange ↔ ∀ item ∈ items, item.InRange := by
  rw [InRange, toTree_array, Tree.inRange_array, List.forall_mem_map]
  rfl

theorem inRange_object {members : List (String × Value)} :
    (object members).InRange ↔ ∀ member ∈ members, member.2.InRange := by
  rw [InRange, toTree_object, Tree.inRange_object, List.forall_mem_map]
  rfl

end Value

/-- What is read of a tree has only numbers in range, if the tree has. -/
theorem Tree.inRange_of_toValue_eq_ok {tree : Tree} {depth : Nat} {value : Value}
    (hrange : tree.InRange) (h : tree.toValue depth = .ok value) : value.InRange := by
  induction tree generalizing depth value with
  | array items ending ih =>
    obtain ⟨inner, values, rfl, hitems, rfl, rfl⟩ := Tree.toValue_array_eq_ok.mp h
    rw [Tree.inRange_array] at hrange
    rw [Value.inRange_array]
    intro v hv
    obtain ⟨item, hitem, heq⟩ := Except.exists_of_mem_mapM hitems hv
    exact ih item hitem (hrange item hitem) heq
  | object members ending ih =>
    obtain ⟨inner, values, rfl, hmembers, rfl, rfl⟩ := Tree.toValue_object_eq_ok.mp h
    rw [Tree.inRange_object] at hrange
    rw [Value.inRange_object]
    intro entry hentry
    obtain ⟨member, hmember, heq⟩ :=
      Except.exists_of_mem_mapM hmembers (mem_of_mem_sortMembers hentry)
    exact ih member hmember (hrange member hmember) (memberToValue_eq_ok.mp heq).2
  | _ =>
    rw [Value.InRange, Tree.toTree_eq_of_leaf h nofun nofun]
    exact hrange

end BuildScope.Json
