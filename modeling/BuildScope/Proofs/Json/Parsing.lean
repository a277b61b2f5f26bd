import BuildScope.Proofs.Json.Structure

/-!
# Parsing What Values Are Spelled With

The tokens that spell a value, and the parser on them: whatever is open around a value, and whatever
follows it, the parser gets past the value and has read its tree.

* `Value.tokens`: the tokens that spell a value.
* `Place.run_cons_of_inl`, `Place.tree_run_cons_of_inr`: the parser takes one token.
* `Value.run_tokens`: the parser takes the tokens of a value.
-/

namespace BuildScope.Json

/-- Entries between brackets, with commas between them. -/
def tokenBlock (opening closing : Token) : List (List Token) → List Token
  | [] => [opening, closing]
  | first :: rest => opening :: first ++ rest.flatMap (fun entry => .comma :: entry) ++ [closing]

mutual

/-- The tokens that spell a value. -/
def Value.tokens : Value → List Token
  | .null => [.null]
  | .bool b => [.bool b]
  | .number n => [.number (some n)]
  | .text s => [.text (some s)]
  | .array items => tokenBlock .openArray .closeArray (itemsTokens items)
  | .object members => tokenBlock .openObject .closeObject (membersTokens members)

/-- The tokens of each of some items. -/
def itemsTokens : List Value → List (List Token)
  | [] => []
  | item :: items => item.tokens :: itemsTokens items

/-- The tokens of each of some members. -/
def membersTokens : List (String × Value) → List (List Token)
  | [] => []
  | (key, value) :: members => (.text (some key) :: .colon :: value.tokens) :: membersTokens members

end

theorem itemsTokens_eq_map (items : List Value) : itemsTokens items = items.map Value.tokens := by
  induction items with
  | nil => rfl
  | cons item items ih => rw [itemsTokens, ih, List.map_cons]

/-- The tokens that spell a member. -/
def memberTokens (member : String × Value) : List Token :=
  .text (some member.1) :: .colon :: member.2.tokens

theorem membersTokens_eq_map (members : List (String × Value)) :
    membersTokens members = members.map memberTokens := by
  induction members with
  | nil => rfl
  | cons member members ih => rw [membersTokens, ih, List.map_cons, memberTokens]

namespace Place

variable {place next : Place} {token : Token} {ts : List Token} {tree : Tree}

/-- The parser goes on at the place that a token leads to. -/
theorem run_cons_of_inl (h : place.step token = .inl next) :
    place.run (token :: ts) = next.run ts := by
  cases place with
  | done tree => cases h
  | _ => simp only [run, h]

/-- The parser has read the tree that a token leads to. -/
theorem tree_run_cons_of_inr (h : place.step token = .inr tree) :
    (place.run (token :: ts)).tree = tree := by
  cases place with
  | done tree =>
    cases h
    rfl
  | _ => simp only [run, h]

/-- In place of the first item of an array, what does not end it is read as an item. -/
theorem run_firstItem {outer : Context} (h : token ≠ .closeArray) :
    (firstItem outer).run (token :: ts) = (value (.array [] outer)).run (token :: ts) := by
  have hstep : (firstItem outer).step token = (value (.array [] outer)).step token := by
    cases token <;> first | rfl | exact absurd rfl h
  simp only [run, hstep]

end Place

namespace Value

open Place (after run_cons_of_inl run_firstItem)

/-- The tokens of a value do not begin as an array ends. -/
theorem exists_tokens_eq_cons (value : Value) :
    ∃ token ts, value.tokens = token :: ts ∧ token ≠ .closeArray := by
  cases value with
  | null | bool b | number n | text s => exact ⟨_, _, rfl, nofun⟩
  | array items =>
    rw [tokens]
    cases itemsTokens items <;> exact ⟨_, _, rfl, nofun⟩
  | object members =>
    rw [tokens]
    cases membersTokens members <;> exact ⟨_, _, rfl, nofun⟩

/-- Wherever a value is wanted, the parser gets past the tokens of this one with its tree. -/
def Parses (value : Value) : Prop :=
  ∀ within ts, (Place.value within).run (value.tokens ++ ts) = (after within value.toTree).run ts

/-- The items of an array after the first. -/
theorem run_afterItem {items : List Value} (h : ∀ item ∈ items, item.Parses)
    (before : List Tree) (outer : Context) (ts : List Token) :
    (Place.afterItem before outer).run
        ((items.map tokens).flatMap (fun entry => .comma :: entry) ++ .closeArray :: ts) =
      (after outer (.array (before.reverse ++ items.map toTree) none)).run ts := by
  induction items generalizing before with
  | nil =>
    rw [List.map_nil, List.map_nil, List.append_nil]
    exact run_cons_of_inl rfl
  | cons item items ih =>
    obtain ⟨hitem, hitems⟩ := List.forall_mem_cons.mp h
    rw [List.map_cons, List.flatMap_cons, List.append_assoc, List.cons_append, List.map_cons,
      run_cons_of_inl rfl, hitem]
    refine (ih hitems (item.toTree :: before)).trans ?_
    rw [List.reverse_cons, List.append_assoc, List.singleton_append]

theorem parses_array {items : List Value} (h : ∀ item ∈ items, item.Parses) :
    (array items).Parses := by
  intro within ts
  rw [tokens, itemsTokens_eq_map, toTree_array]
  cases items with
  | nil => exact (run_cons_of_inl rfl).trans (run_cons_of_inl rfl)
  | cons first rest =>
    obtain ⟨hfirst, hrest⟩ := List.forall_mem_cons.mp h
    obtain ⟨token, tail, heq, hne⟩ := first.exists_tokens_eq_cons
    simp only [List.map_cons, tokenBlock, List.cons_append, List.append_assoc, List.nil_append]
    rw [run_cons_of_inl rfl]
    -- the first item is read as any other is, since it does not end the array
    have hitem (ts : List Token) : (Place.firstItem within).run (first.tokens ++ ts) =
        (Place.afterItem [first.toTree] within).run ts := by
      rw [heq, List.cons_append, run_firstItem hne, ← List.cons_append, ← heq, hfirst]
      rfl
    rw [hitem, run_afterItem hrest]
    rfl

/-- The members of an object after the first. -/
theorem run_afterMember {members : List (String × Value)}
    (h : ∀ member ∈ members, member.2.Parses) (before : List (Option String × Tree))
    (outer : Context) (ts : List Token) :
    (Place.afterMember before outer).run
        ((members.map memberTokens).flatMap (fun entry => .comma :: entry)
          ++ .closeObject :: ts) =
      (after outer (.object (before.reverse ++ members.map memberToTree) none)).run ts := by
  induction members generalizing before with
  | nil =>
    rw [List.map_nil, List.map_nil, List.append_nil]
    exact run_cons_of_inl rfl
  | cons member members ih =>
    obtain ⟨hmember, hmembers⟩ := List.forall_mem_cons.mp h
    -- the comma, the key and the colon come before the value
    rw [List.map_cons, List.flatMap_cons, List.append_assoc, List.cons_append, List.map_cons,
      memberTokens, List.cons_append, List.cons_append, run_cons_of_inl rfl, run_cons_of_inl rfl,
      run_cons_of_inl rfl, hmember]
    refine (ih hmembers (memberToTree member :: before)).trans ?_
    rw [List.reverse_cons, List.append_assoc, List.singleton_append]

theorem parses_object {members : List (String × Value)}
    (h : ∀ member ∈ members, member.2.Parses) : (object members).Parses := by
  intro within ts
  rw [tokens, membersTokens_eq_map, toTree_object]
  cases members with
  | nil => exact (run_cons_of_inl rfl).trans (run_cons_of_inl rfl)
  | cons first rest =>
    obtain ⟨hfirst, hrest⟩ := List.forall_mem_cons.mp h
    simp only [List.map_cons, tokenBlock, List.cons_append, List.append_assoc, List.nil_append,
      memberTokens]
    rw [run_cons_of_inl rfl, run_cons_of_inl rfl, run_cons_of_inl rfl, hfirst]
    refine (run_afterMember hrest [memberToTree first] within ts).trans ?_
    rfl

/-- The parser reads the tokens of a value as its tree, and goes on after it. -/
theorem run_tokens (value : Value) : value.Parses := by
  induction value with
  | null | bool b | number n | text s => exact fun _ _ => run_cons_of_inl rfl
  | array items ih => exact parses_array ih
  | object members ih => exact parses_object ih

/-- A document that consists of the tokens of a value is read as that value, to its end. -/
theorem parse_eq_of_tokens_eq {value : Value} {document : Text.Document}
    (h : Json.tokens document = value.tokens) : parse document = ⟨value.toTree, []⟩ := by
  have hrun := value.run_tokens .top []
  rw [List.append_nil] at hrun
  rw [parse, h, hrun]
  rfl

end Value

end BuildScope.Json
