import BuildScope.Diff.Pairing
import Mathlib.Data.List.Basic

/-!
# Pairing by Rank

Which members pairing by key brings together, said without queues. The rank of a member is the
number of members before it in its list that share its key, and two members are paired if they have
the same key and the same rank.

* `Pairing.byRank`: the pairs of equal key and rank, and what is left of either list.
* `Pairing.partnered_withKey`: the pairs under a key are the members under that key, zipped.
* `Pairing.perm_before`, `Pairing.perm_after`: every member is in one pair or left over, once.
* `Pairing.key_ne_of_mem_left`: what is left of the two lists has no key in common.
* `Pairing.byRank_self`: a list is paired with itself place by place.
-/

namespace BuildScope.Pairing

variable {α κ : Type}

/-! ## Zips and places -/

/-- The members of a list, paired with those of another at their places from `n` on. -/
private theorem filterMap_zipIdx_eq_zip (others members : List α) (n : Nat) :
    ((members.zipIdx n).filterMap fun member => others[member.2]?.map (·, member.1)) =
      (others.drop n).zip members := by
  induction members generalizing n with
  | nil => simp
  | cons a members ih =>
    rw [List.zipIdx_cons, List.filterMap_cons, ih]
    cases hother : others[n]? with
    | none => simp [List.drop_of_length_le, List.getElem?_eq_none_iff.1 hother, Nat.le_succ_of_le]
    | some b =>
      obtain ⟨hn, rfl⟩ := List.getElem?_eq_some_iff.1 hother
      rw [List.drop_eq_getElem_cons hn]
      rfl

/-- The members of a list whose places from `n` on lie beyond another list. -/
private theorem map_fst_filter_zipIdx (others members : List α) (n : Nat) :
    ((members.zipIdx n).filter fun member => others[member.2]?.isNone).map Prod.fst =
      members.drop (others.length - n) := by
  induction members generalizing n with
  | nil => simp
  | cons a members ih =>
    rw [List.zipIdx_cons, List.filter_cons]
    by_cases hn : n < others.length
    · have hlength : others.length - n = others.length - (n + 1) + 1 := by omega
      rw [if_neg (by simpa using hn), ih, hlength, List.drop_succ_cons]
    · have hlength : others.length - (n + 1) = 0 ∧ others.length - n = 0 := by omega
      rw [if_pos (by simpa using hn), List.map_cons, ih, hlength.1, hlength.2]
      rfl

/-- Zipping a list uses as much of it up as the other list is long. -/
private theorem map_fst_zip_append_drop (l l' : List α) :
    (l.zip l').map Prod.fst ++ l.drop l'.length = l := by
  induction l generalizing l' with
  | nil => simp
  | cons a l ih => cases l' <;> simp [ih]

private theorem map_snd_zip_append_drop (l l' : List α) :
    (l.zip l').map Prod.snd ++ l'.drop l.length = l' := by
  induction l' generalizing l with
  | nil => simp
  | cons a l' ih => cases l <;> simp [ih]

/-! ## Ranks and partners -/

variable [BEq κ]

/-- The members of a list with a key, or those without one, in order. -/
def withKey (key : α → Option κ) (k : Option κ) (members : List α) : List α :=
  members.filter fun a => key a == k

/-- The members of a list with their ranks. The rank of a member is the number of members before it
that share its key. -/
def ranked (key : α → Option κ) (members : List α) : List (α × Nat) :=
  members.zipIdx.map fun (a, place) => (a, (withKey key (key a) (members.take place)).length)

/-- Who stands at the rank of a member in the line of its key. Nobody does for a member without a
key. -/
def partner? (key : α → Option κ) (lines : κ → List α) (member : α × Nat) : Option α :=
  (key member.1).bind fun k => (lines k)[member.2]?

/-- The lines that a list forms, one under each key. -/
def linesOf (key : α → Option κ) (members : List α) (k : κ) : List α :=
  withKey key (some k) members

/-- The pairs of members with whoever stands at their rank. -/
def partnered (key : α → Option κ) (lines : κ → List α) (members : List α) : List (α × α) :=
  (ranked key members).filterMap fun member => (partner? key lines member).map (·, member.1)

/-- The members at whose rank nobody stands, in order. -/
def unpartnered (key : α → Option κ) (lines : κ → List α) (members : List α) : List α :=
  ((ranked key members).filter fun member => (partner? key lines member).isNone).map Prod.fst

/-- The lines after whoever is in front under the key of `a` has left. -/
def advance (key : α → Option κ) (a : α) (lines : κ → List α) (k : κ) : List α :=
  (lines k).drop (if key a == some k then 1 else 0)

/-- Pair the members of two lists that have the same key and rank. -/
def byRank (key : α → Option κ) (before after : List α) : Pairing α :=
  { pairs := partnered key (linesOf key before) after
    before := unpartnered key (linesOf key after) before
    after := unpartnered key (linesOf key before) after }

/-! ## Small laws -/

@[simp]
theorem withKey_nil (key : α → Option κ) (k : Option κ) : withKey key k [] = [] := rfl

theorem withKey_cons (key : α → Option κ) (k : Option κ) (a : α) (members : List α) :
    withKey key k (a :: members) =
      if key a == k then a :: withKey key k members else withKey key k members := by
  simp [withKey, List.filter_cons]

@[simp]
theorem withKey_append (key : α → Option κ) (k : Option κ) (l l' : List α) :
    withKey key k (l ++ l') = withKey key k l ++ withKey key k l' :=
  List.filter_append l l'

theorem withKey_map {β : Type} (key : α → Option κ) (k : Option κ) (f : β → α)
    (members : List β) :
    withKey key k (members.map f) = (withKey (fun b => key (f b)) k members).map f :=
  List.filter_map

@[simp]
theorem ranked_nil (key : α → Option κ) : ranked key [] = [] := rfl

/-- A further member in front has rank zero, and those that share its key come one rank later. -/
theorem ranked_cons (key : α → Option κ) (a : α) (members : List α) :
    ranked key (a :: members) = (a, 0) :: (ranked key members).map fun member =>
      (member.1, member.2 + if key a == key member.1 then 1 else 0) := by
  simp only [ranked, List.zipIdx_cons, List.map_cons, List.take_zero, withKey_nil, List.length_nil,
    Nat.zero_add, List.cons.injEq, true_and]
  rw [List.zipIdx_succ, List.map_map, List.map_map]
  -- the members before a place are one more, which counts if it shares the key
  apply List.map_congr_left
  rintro ⟨b, place⟩ -
  simp only [Function.comp_apply, List.take_succ_cons, withKey_cons]
  split <;> simp

/-- Members have the ranks of what they are made of. -/
theorem ranked_map {β : Type} (key : α → Option κ) (f : β → α) (members : List β) :
    ranked key (members.map f) = (ranked (fun b => key (f b)) members).map (Prod.map f id) := by
  rw [ranked, ranked, List.zipIdx_map, List.map_map, List.map_map]
  apply List.map_congr_left
  rintro ⟨b, place⟩ -
  simp [← List.map_take, withKey_map]

@[simp]
theorem map_fst_ranked (key : α → Option κ) (members : List α) :
    (ranked key members).map Prod.fst = members := by
  rw [ranked, List.map_map]
  exact List.zipIdx_map_fst 0 members

/-- The partners of the members of a list come in its order. -/
theorem map_snd_partnered_sublist (key : α → Option κ) (lines : κ → List α) (members : List α) :
    ((partnered key lines members).map Prod.snd).Sublist members := by
  have hsnd : (partnered key lines members).map Prod.snd =
      ((ranked key members).filter fun member => (partner? key lines member).isSome).map
        Prod.fst := by
    rw [partnered, List.map_filterMap, ← List.filterMap_eq_map, List.filterMap_filter]
    apply List.filterMap_congr
    rintro member -
    cases partner? key lines member <;> rfl
  rw [hsnd]
  conv_rhs => rw [← map_fst_ranked key members]
  exact List.filter_sublist.map Prod.fst

theorem unpartnered_sublist (key : α → Option κ) (lines : κ → List α) (members : List α) :
    (unpartnered key lines members).Sublist members := by
  conv_rhs => rw [← map_fst_ranked key members]
  exact List.filter_sublist.map Prod.fst

@[simp]
theorem partner?_linesOf_nil (key : α → Option κ) (member : α × Nat) :
    partner? key (linesOf key []) member = none := by
  cases hk : key member.1 <;> simp [partner?, linesOf, hk]

@[simp]
theorem byRank_nil_left (key : α → Option κ) (after : List α) :
    byRank key [] after = ⟨[], [], after⟩ := by
  simp [byRank, partnered, unpartnered]

@[simp]
theorem byRank_nil_right (key : α → Option κ) (before : List α) :
    byRank key before [] = ⟨[], before, []⟩ := by
  simp [byRank, partnered, unpartnered]

/-- Only members with a key are paired. -/
theorem isSome_key_of_mem_partnered {key : α → Option κ} {lines : κ → List α} {members : List α}
    {pair : α × α} (h : pair ∈ partnered key lines members) : (key pair.2).isSome := by
  obtain ⟨⟨a, rank⟩, -, hp⟩ := List.mem_filterMap.1 h
  obtain ⟨b, hb, rfl⟩ := Option.map_eq_some_iff.1 hp
  cases hk : key a with
  | none => simp [partner?, hk] at hb
  | some k => rfl

/-- Members without a key are in no pair. -/
theorem partnered_without (key : α → Option κ) (lines : κ → List α) (members : List α) :
    withKey (fun pair => key pair.2) none (partnered key lines members) = [] := by
  rw [withKey, List.filter_eq_nil_iff]
  intro pair hpair
  obtain ⟨k, hk⟩ := Option.isSome_iff_exists.1 (isSome_key_of_mem_partnered hpair)
  simp [hk]

/-- When a line has moved up, its members stand one rank earlier. -/
theorem partner?_advance (key : α → Option κ) (a : α) (lines : κ → List α) (member : α × Nat) :
    partner? key (advance key a lines) member =
      partner? key lines (member.1, member.2 + if key a == key member.1 then 1 else 0) := by
  cases hk : key member.1 with
  | none => simp [partner?, hk]
  | some k => simp [partner?, hk, advance, Nat.add_comm]

/-- The first member takes whoever is in front, and the others what is left of the lines. -/
theorem partnered_cons (key : α → Option κ) (lines : κ → List α) (a : α) (members : List α) :
    partnered key lines (a :: members) =
      ((partner? key lines (a, 0)).map (·, a)).toList ++
        partnered key (advance key a lines) members := by
  simp only [partnered, ranked_cons, List.filterMap_cons, List.filterMap_map, partner?_advance,
    Function.comp_def]
  cases partner? key lines (a, 0) <;> simp

/-- The first member is left over if its line is empty, and the others by what is left of the
lines. -/
theorem unpartnered_cons (key : α → Option κ) (lines : κ → List α) (a : α) (members : List α) :
    unpartnered key lines (a :: members) =
      (if (partner? key lines (a, 0)).isNone then [a] else []) ++
        unpartnered key (advance key a lines) members := by
  simp only [unpartnered, ranked_cons, List.filter_cons, List.filter_map, partner?_advance,
    Function.comp_def]
  split <;> simp [Function.comp_def]

section Lawful

variable [LawfulBEq κ] {key : α → Option κ}

@[simp]
theorem mem_withKey {k : Option κ} {a : α} {members : List α} :
    a ∈ withKey key k members ↔ a ∈ members ∧ key a = k := by
  simp [withKey]

/-- Under a key, ranks count from zero. -/
theorem ranked_withKey (k : Option κ) (members : List α) :
    ((ranked key members).filter fun member => key member.1 == k) =
      (withKey key k members).zipIdx := by
  induction members with
  | nil => rfl
  | cons a members ih =>
    -- the members after `a` that have the key all come one rank later, or none of them does
    have hshift : (((ranked key members).map fun member =>
          (member.1, member.2 + if key a == key member.1 then 1 else 0)).filter
          fun member => key member.1 == k) =
        (withKey key k members).zipIdx.map fun member =>
          (member.1, member.2 + if key a == k then 1 else 0) := by
      rw [List.filter_map, ← ih]
      apply List.map_congr_left
      rintro ⟨b, rank⟩ hb
      obtain ⟨-, hkey⟩ := List.mem_filter.1 hb
      have hkey : key b = k := by simpa using hkey
      rw [hkey]
    rw [ranked_cons, List.filter_cons, hshift, withKey_cons]
    by_cases hk : key a == k
    · simp only [hk, ↓reduceIte, List.zipIdx_cons, Nat.zero_add]
      rw [List.zipIdx_succ]
    · simp [hk]

/-! ## What stands under each key -/

/-- Under a key, the pairs are its line zipped with the members that have the key. -/
theorem partnered_withKey (lines : κ → List α) (members : List α) (k : κ) :
    withKey (fun pair => key pair.2) (some k) (partnered key lines members) =
      (lines k).zip (withKey key (some k) members) := by
  calc withKey (fun pair => key pair.2) (some k) (partnered key lines members)
      = ((ranked key members).filter fun member => key member.1 == some k).filterMap
          fun member => (lines k)[member.2]?.map (·, member.1) := by
        rw [withKey, partnered, List.filter_filterMap, List.filterMap_filter]
        apply List.filterMap_congr
        rintro ⟨a, rank⟩ -
        by_cases h : key a = some k
        · cases hline : (lines k)[rank]? <;> simp [partner?, h, hline]
        · cases partner? key lines (a, rank) <;> simp [h]
    _ = (lines k).zip (withKey key (some k) members) := by
        rw [ranked_withKey, filterMap_zipIdx_eq_zip, List.drop_zero]

/-- Under a key, the members beyond its line are left over. -/
theorem unpartnered_withKey (lines : κ → List α) (members : List α) (k : κ) :
    withKey key (some k) (unpartnered key lines members) =
      (withKey key (some k) members).drop (lines k).length := by
  calc withKey key (some k) (unpartnered key lines members)
      = (((ranked key members).filter fun member => key member.1 == some k).filter
          fun member => (lines k)[member.2]?.isNone).map Prod.fst := by
        rw [withKey, unpartnered, List.filter_map, List.filter_filter, List.filter_filter]
        congr 1
        apply List.filter_congr
        rintro ⟨a, rank⟩ -
        by_cases h : key a = some k
        · simp [h, partner?]
        · simp [beq_eq_false_iff_ne.2 h]
    _ = (withKey key (some k) members).drop (lines k).length := by
        rw [ranked_withKey, map_fst_filter_zipIdx, Nat.sub_zero]

/-- The members without a key are left over. -/
theorem unpartnered_without (lines : κ → List α) (members : List α) :
    withKey key none (unpartnered key lines members) = withKey key none members := by
  calc withKey key none (unpartnered key lines members)
      = ((ranked key members).filter fun member => key member.1 == none).map Prod.fst := by
        rw [withKey, unpartnered, List.filter_map, List.filter_filter]
        congr 1
        apply List.filter_congr
        rintro ⟨a, rank⟩ -
        by_cases h : key a = none <;> simp [h, partner?]
    _ = withKey key none members := by rw [ranked_withKey, List.zipIdx_map_fst]

/-! ## What becomes of the members -/

/-- Both members of a pair have its key. -/
theorem exists_key_of_mem_partnered {others members : List α} {pair : α × α}
    (h : pair ∈ partnered key (linesOf key others) members) :
    ∃ k, key pair.1 = some k ∧ key pair.2 = some k := by
  obtain ⟨k, hk⟩ := Option.isSome_iff_exists.1 (isSome_key_of_mem_partnered h)
  have hzip : pair ∈ (linesOf key others k).zip (withKey key (some k) members) := by
    rw [← partnered_withKey]
    exact mem_withKey.2 ⟨h, hk⟩
  exact ⟨k, (mem_withKey.1 (List.of_mem_zip hzip).1).2, hk⟩

/-- The pairs under a key can be told from either member. -/
theorem withKey_fst_pairs (key : α → Option κ) (before after : List α) (k : Option κ) :
    withKey (fun pair => key pair.1) k (byRank key before after).pairs =
      withKey (fun pair => key pair.2) k (byRank key before after).pairs := by
  apply List.filter_congr
  intro pair hpair
  obtain ⟨k, hbefore, hafter⟩ := exists_key_of_mem_partnered hpair
  simp only [hbefore, hafter]

/-- Lists with the same members under each key have the same members. -/
theorem perm_of_withKey (key : α → Option κ) {l l' : List α}
    (h : ∀ k, withKey key k l = withKey key k l') : l.Perm l' := by
  classical
  -- a member is counted among those with its own key only
  rw [List.perm_iff_count]
  intro a
  have hcount (l : List α) : (withKey key (key a) l).count a = l.count a :=
    List.count_filter (by simp)
  rw [← hcount l, h, hcount]

/-- Every member of the first list is in one pair or left over, once. -/
theorem perm_before (key : α → Option κ) (before after : List α) :
    ((byRank key before after).pairs.map Prod.fst ++ (byRank key before after).before).Perm
      before := by
  refine perm_of_withKey key fun k => ?_
  have hfst : withKey key k ((byRank key before after).pairs.map Prod.fst) =
      (withKey (fun pair => key pair.2) k (byRank key before after).pairs).map Prod.fst := by
    rw [← withKey_fst_pairs, withKey, withKey, List.filter_map]
    rfl
  rw [withKey_append, hfst]
  cases k with
  | none => simp [byRank, partnered_without, unpartnered_without]
  | some k =>
    simp only [byRank, partnered_withKey, unpartnered_withKey, linesOf]
    exact map_fst_zip_append_drop _ _

/-- Every member of the second list is in one pair or left over, once. -/
theorem perm_after (key : α → Option κ) (before after : List α) :
    ((byRank key before after).pairs.map Prod.snd ++ (byRank key before after).after).Perm
      after := by
  refine perm_of_withKey key fun k => ?_
  have hsnd : withKey key k ((byRank key before after).pairs.map Prod.snd) =
      (withKey (fun pair => key pair.2) k (byRank key before after).pairs).map Prod.snd := by
    rw [withKey, withKey, List.filter_map]
    rfl
  rw [withKey_append, hsnd]
  cases k with
  | none => simp [byRank, partnered_without, unpartnered_without]
  | some k =>
    simp only [byRank, partnered_withKey, unpartnered_withKey, linesOf]
    exact map_snd_zip_append_drop _ _

/-- What is left of the two lists has no key in common. -/
theorem key_ne_of_mem_left {before after : List α} {b a : α} {k : κ}
    (hb : b ∈ (byRank key before after).before) (ha : a ∈ (byRank key before after).after)
    (hkey : key b = some k) : key a ≠ some k := by
  intro hkey'
  have hb : b ∈ (withKey key (some k) before).drop (withKey key (some k) after).length := by
    rw [← linesOf, ← unpartnered_withKey]
    exact mem_withKey.2 ⟨hb, hkey⟩
  have ha : a ∈ (withKey key (some k) after).drop (withKey key (some k) before).length := by
    rw [← linesOf, ← unpartnered_withKey]
    exact mem_withKey.2 ⟨ha, hkey'⟩
  -- each of the two lines would be the longer one
  have hb := List.length_pos_of_mem hb
  have ha := List.length_pos_of_mem ha
  rw [List.length_drop] at hb ha
  omega

/-! ## Lists paired with themselves -/

/-- A member of a list stands at its own rank in its line. -/
theorem partner?_self {members : List α} {member : α × Nat} (h : member ∈ ranked key members)
    {k : κ} (hk : key member.1 = some k) :
    partner? key (linesOf key members) member = some member.1 := by
  obtain ⟨⟨a, place⟩, hmem, rfl⟩ := List.mem_map.1 h
  obtain ⟨hplace, hat⟩ : ∃ hplace : place < members.length, members[place] = a :=
    List.getElem?_eq_some_iff.1 (List.mem_zipIdx_iff_getElem?.1 hmem)
  subst hat
  -- the line is cut where the member stands
  have hline : linesOf key members k = withKey key (some k) (members.take place) ++
      members[place] :: withKey key (some k) (members.drop (place + 1)) := by
    conv_lhs => rw [← List.take_append_drop place members, List.drop_eq_getElem_cons hplace]
    rw [linesOf, withKey_append, withKey_cons, if_pos (beq_iff_eq.2 hk)]
  simp only [partner?, hk, Option.bind_some, hline]
  rw [List.getElem?_append_right (Nat.le_refl _), Nat.sub_self, List.getElem?_cons_zero]

/-- If all members have a key, a list is paired with itself place by place, whichever members share
their keys, and nothing is left over. -/
theorem byRank_self {members : List α} (h : ∀ a ∈ members, (key a).isSome) :
    byRank key members members = ⟨members.map fun a => (a, a), [], []⟩ := by
  -- on the other side, the same member has this key and rank
  have hself : ∀ member ∈ ranked key members,
      partner? key (linesOf key members) member = some member.1 := by
    intro member hmember
    have hmem : member.1 ∈ members := by
      rw [← map_fst_ranked key members]
      exact List.mem_map_of_mem hmember
    obtain ⟨k, hk⟩ := Option.isSome_iff_exists.1 (h member.1 hmem)
    exact partner?_self hmember hk
  have hpairs : partnered key (linesOf key members) members = members.map fun a => (a, a) := by
    conv_rhs => rw [← map_fst_ranked key members, List.map_map, ← List.filterMap_eq_map]
    apply List.filterMap_congr
    intro member hmember
    rw [hself member hmember]
    rfl
  have hleft : unpartnered key (linesOf key members) members = [] := by
    rw [unpartnered, List.map_eq_nil_iff, List.filter_eq_nil_iff]
    intro member hmember
    simp [hself member hmember]
  rw [byRank, hpairs, hleft]

end Lawful

end BuildScope.Pairing
