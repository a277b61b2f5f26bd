import BuildScope.Proofs.Pairing.ByRank
import Mathlib.Data.List.Zip

/-!
# What Pairing by Rank Does Not Depend On

Pairing by rank treats its two lists alike, looks at members through their keys only, and decides
about each key on its own.

* `Pairing.pairs_byRank_swap`: swapping the lists swaps the members of each pair.
* `Pairing.byRank_map`: members can be renamed, if they keep their keys.
* `Pairing.byRank_filter`: some keys can be left out, without a change to the others.
-/

namespace BuildScope.Pairing

variable {α κ : Type} [BEq κ] {key : α → Option κ}

/-! ## Swapping the lists -/

theorem before_byRank_swap (key : α → Option κ) (before after : List α) :
    (byRank key after before).before = (byRank key before after).after := rfl

theorem after_byRank_swap (key : α → Option κ) (before after : List α) :
    (byRank key after before).after = (byRank key before after).before := rfl

/-- Swapping the lists swaps the members of each pair. The pairs come in another order, since they
follow the second list. -/
theorem pairs_byRank_swap [LawfulBEq κ] (key : α → Option κ) (before after : List α) :
    (byRank key after before).pairs.Perm ((byRank key before after).pairs.map Prod.swap) := by
  -- under each key both sides pair the same two lines, the one with the other
  refine perm_of_withKey (fun pair => key pair.2) fun k => ?_
  have hswap : withKey (fun pair => key pair.2) k ((byRank key before after).pairs.map Prod.swap) =
      (withKey (fun pair => key pair.2) k (byRank key before after).pairs).map Prod.swap := by
    rw [← withKey_fst_pairs, withKey, withKey, List.filter_map]
    rfl
  rw [hswap]
  cases k with
  | none => simp [byRank, partnered_without]
  | some k =>
    simp only [byRank, partnered_withKey]
    exact (List.zip_swap _ _).symm

/-! ## Renaming members -/

section Renaming

variable {f g : α → α}

theorem linesOf_map (hf : ∀ a, key (f a) = key a) (members : List α) :
    linesOf key (members.map f) = fun k => (linesOf key members k).map f := by
  funext k
  rw [linesOf, withKey_map, funext hf, linesOf]

omit [BEq κ] in
/-- Whoever stands at a rank has been renamed as well. -/
theorem partner?_map (hg : ∀ a, key (g a) = key a) (lines : κ → List α) (member : α × Nat) :
    partner? key (fun k => (lines k).map f) (Prod.map g id member) =
      (partner? key lines member).map f := by
  cases hk : key member.1 <;> simp [partner?, hg, hk]

theorem partnered_map (hg : ∀ a, key (g a) = key a) (lines : κ → List α) (members : List α) :
    partnered key (fun k => (lines k).map f) (members.map g) =
      (partnered key lines members).map (Prod.map f g) := by
  rw [partnered, partnered, ranked_map, funext hg, List.filterMap_map, List.map_filterMap]
  apply List.filterMap_congr
  rintro member -
  rw [Function.comp_apply, partner?_map hg]
  cases partner? key lines member <;> rfl

theorem unpartnered_map (hg : ∀ a, key (g a) = key a) (lines : κ → List α) (members : List α) :
    unpartnered key (fun k => (lines k).map f) (members.map g) =
      (unpartnered key lines members).map g := by
  rw [unpartnered, unpartnered, ranked_map, funext hg, List.filter_map, List.map_map,
    List.map_map]
  congr 1
  apply List.filter_congr
  rintro member -
  rw [Function.comp_apply, partner?_map hg, Option.isNone_map]

/-- Members that are renamed and keep their keys are renamed in pairs and leftovers. -/
theorem byRank_map (key : α → Option κ) (hf : ∀ a, key (f a) = key a)
    (hg : ∀ a, key (g a) = key a) (before after : List α) :
    byRank key (before.map f) (after.map g) =
      { pairs := (byRank key before after).pairs.map (Prod.map f g)
        before := (byRank key before after).before.map f
        after := (byRank key before after).after.map g } := by
  simp only [byRank, linesOf_map hf, linesOf_map hg, partnered_map hg, unpartnered_map hf,
    unpartnered_map hg]

end Renaming

/-! ## Leaving out keys -/

section Restriction

variable {within : α → Bool} {lines kept : κ → List α}

/-- Some lines agree with others under every key that a member within a restriction has. -/
def AgreeWithin (within : α → Bool) (key : α → Option κ) (kept lines : κ → List α) : Prop :=
  ∀ a k, within a → key a = some k → kept k = lines k

omit [BEq κ] in
theorem AgreeWithin.partner?_eq (h : AgreeWithin within key kept lines) {a : α} (ha : within a)
    (rank : Nat) : partner? key kept (a, rank) = partner? key lines (a, rank) := by
  cases hk : key a with
  | none => simp [partner?, hk]
  | some k => simp [partner?, hk, h a k ha hk]

/-- Lines still agree when the same member has left them. -/
theorem AgreeWithin.advance_both (h : AgreeWithin within key kept lines) (a : α) :
    AgreeWithin within key (advance key a kept) (advance key a lines) := by
  intro b k hb hk
  rw [advance, advance, h b k hb hk]

variable [LawfulBEq κ]
  (hkey : ∀ a b k, key a = some k → key b = some k → within a = within b)

include hkey

/-- Lines still agree when somebody outside of the restriction has left. -/
theorem AgreeWithin.advance_right (h : AgreeWithin within key kept lines) {a : α}
    (ha : ¬ within a) : AgreeWithin within key kept (advance key a lines) := by
  intro b k hb hk
  have hne : key a ≠ some k := fun hka => ha (hkey a b k hka hk ▸ hb)
  rw [h b k hb hk]
  simp [advance, hne]

/-- The members within a restriction form the lines of their keys. -/
theorem agreeWithin_linesOf_filter (members : List α) :
    AgreeWithin within key (linesOf key (members.filter within)) (linesOf key members) := by
  intro a k ha hk
  rw [linesOf, linesOf, withKey, withKey, List.filter_filter]
  apply List.filter_congr
  intro b _
  by_cases hb : key b = some k
  · rw [hkey b a k hb hk, ha, Bool.and_true]
  · simp [hb]

/-- The pairs of the members within a restriction are those that these members make alone. -/
theorem partnered_filter (members : List α) (h : AgreeWithin within key kept lines) :
    partnered key kept (members.filter within) =
      (partnered key lines members).filter fun pair => within pair.2 := by
  induction members generalizing lines kept with
  | nil => rfl
  | cons a members ih =>
    rw [partnered_cons, List.filter_append]
    -- a member outside leaves a line that nobody within the restriction looks at
    by_cases ha : within a
    · rw [List.filter_cons_of_pos ha, partnered_cons, h.partner?_eq ha, ih (h.advance_both a)]
      cases partner? key lines (a, 0) <;> simp [ha]
    · rw [List.filter_cons_of_neg ha, ih (h.advance_right hkey ha)]
      cases partner? key lines (a, 0) <;> simp [ha]

/-- The members within a restriction that are left over are those that these members leave over
alone. -/
theorem unpartnered_filter (members : List α) (h : AgreeWithin within key kept lines) :
    unpartnered key kept (members.filter within) =
      (unpartnered key lines members).filter within := by
  induction members generalizing lines kept with
  | nil => rfl
  | cons a members ih =>
    rw [unpartnered_cons, List.filter_append]
    by_cases ha : within a
    · rw [List.filter_cons_of_pos ha, unpartnered_cons, h.partner?_eq ha, ih (h.advance_both a)]
      split <;> simp [ha]
    · rw [List.filter_cons_of_neg ha, ih (h.advance_right hkey ha)]
      split <;> simp [ha]

/-- Members that share no key with the others are paired among themselves, as they are in the whole
lists. -/
theorem byRank_filter (before after : List α) :
    byRank key (before.filter within) (after.filter within) =
      { pairs := (byRank key before after).pairs.filter fun pair => within pair.2
        before := (byRank key before after).before.filter within
        after := (byRank key before after).after.filter within } := by
  have hbefore := agreeWithin_linesOf_filter hkey before
  have hafter := agreeWithin_linesOf_filter hkey after
  simp only [byRank, partnered_filter hkey after hbefore, unpartnered_filter hkey after hbefore,
    unpartnered_filter hkey before hafter]

end Restriction

end BuildScope.Pairing
