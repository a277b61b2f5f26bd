import BuildScope.Proofs.Deltas.Arrangement
import Mathlib.Algebra.Order.Ring.Nat

/-!
# Grouping Is Regrouping

Putting aliases together neither changes nor moves a delta more than it has to. The places of a list
fall into blocks, those with one alias key into one and every other place into a block of its own,
and the grouping has one delta for each block.

* `Deltas.Regroups`: some deltas stand for the blocks of a list, in the order of the first members.
* `Deltas.groupAliases_regroups`: those of a grouping do.
-/

namespace BuildScope

open Pairing (blocks blocks_map blocks_perm exists_block_iff flatten_blocks_perm
  ne_nil_of_mem_blocks pairwise_blocks sublist_of_mem_blocks)

/-- A delta stands for a block: for a single member as that is, and for several as an alias
group. -/
def Delta.StandsFor (delta : Delta) (block : Deltas) : Prop :=
  block = [delta] ∨ 2 ≤ block.length ∧ delta = .ofAliases block

/-- A delta has an alias key if its newer symbol has aliases and is no overhead. -/
theorem Delta.isSome_aliasKey_iff {delta : Delta} :
    delta.aliasKey.isSome ↔ ∃ sym, delta.symbol? = some sym ∧ 1 < sym.numAliases ∧
      sym.isOverhead = false := by
  unfold aliasKey
  cases delta.symbol? with
  | none => simp
  | some sym =>
    by_cases h : 1 < sym.numAliases && !sym.isOverhead <;> simp

namespace Deltas

/-- The members of each delta of a grouping, in no order. -/
def groupMembers (deltas : Deltas) : Multiset (Multiset Delta) :=
  deltas.groupAliases.map fun delta => Multiset.ofList delta.expand

/-- Some deltas stand for the blocks into which the places of a list fall by their alias keys. -/
structure Regroups (deltas : Deltas) (blocks : List (List (Delta × Nat))) (grouped : Deltas) :
    Prop where
  /-- Each place of the list is in one block. -/
  perm : blocks.flatten.Perm deltas.zipIdx
  /-- Two places are in one block exactly if their deltas have the same alias key. -/
  together_iff : ∀ a ∈ deltas.zipIdx, ∀ b ∈ deltas.zipIdx, a ≠ b →
    ((∃ block ∈ blocks, a ∈ block ∧ b ∈ block) ↔
      ∃ key, a.1.aliasKey = some key ∧ b.1.aliasKey = some key)
  /-- The members of a block are in the order of the list. -/
  pairwise_block : ∀ block ∈ blocks, block.Pairwise fun a b => a.2 < b.2
  /-- Blocks come in the order of their first members. -/
  pairwise_head : blocks.Pairwise fun block other =>
    ∀ a ∈ block.head?, ∀ b ∈ other.head?, a.2 < b.2
  /-- There is one delta for each block, and it stands for the members of the block. -/
  standsFor : List.Forall₂ (fun delta block => delta.StandsFor (block.map Prod.fst)) grouped blocks

variable {deltas : Deltas}

/-- A place whose delta shares its key with no other is a block of its own, so that the delta is
left as it is. -/
theorem Regroups.singleton_mem {blocks : List (List (Delta × Nat))} {grouped : Deltas}
    (h : Regroups deltas blocks grouped) {a : Delta × Nat} (ha : a ∈ deltas.zipIdx)
    (halone : ∀ b ∈ deltas.zipIdx, a ≠ b → ∀ key, a.1.aliasKey = some key →
      b.1.aliasKey ≠ some key) : [a] ∈ blocks := by
  obtain ⟨block, hblock, hmem⟩ := List.mem_flatten.1 (h.perm.symm.subset ha)
  have hsame : ∀ b ∈ block, b = a := by
    intro b hb
    by_contra hne
    have hb' : b ∈ deltas.zipIdx := h.perm.subset (List.mem_flatten.2 ⟨block, hblock, hb⟩)
    obtain ⟨key, hka, hkb⟩ := (h.together_iff a ha b hb' (Ne.symm hne)).1 ⟨block, hblock, hmem, hb⟩
    exact halone b hb' (Ne.symm hne) key hka hkb
  -- the places of a block are all the same and all different
  have hreplicate : block = List.replicate block.length a := List.eq_replicate_of_mem hsame
  have hnodup : block.Nodup := by
    refine (h.pairwise_block block hblock).imp fun {b c} hlt heq => ?_
    rw [heq] at hlt
    exact Nat.lt_irrefl _ hlt
  have hlength : block.length = 1 := by
    rw [hreplicate, List.nodup_replicate] at hnodup
    exact Nat.le_antisymm hnodup (List.length_pos_of_mem hmem)
  rw [hlength, List.replicate_one] at hreplicate
  rwa [← hreplicate]

/-- Every block that is not empty has a delta that stands for it. -/
theorem exists_merge? {block : Deltas} (h : block ≠ []) :
    ∃ delta, merge? block = some delta ∧ delta.StandsFor block := by
  match block with
  | [] => exact absurd rfl h
  | [only] => exact ⟨only, rfl, .inl rfl⟩
  | first :: second :: rest => exact ⟨_, rfl, .inr ⟨by simp, rfl⟩⟩

/-- If each member of a list leads to something that fits it, all of this fits the list. -/
private theorem forall₂_filterMap {α β : Type} {r : β → α → Prop} {f : α → Option β} {l : List α}
    (h : ∀ a ∈ l, ∃ b, f a = some b ∧ r b a) : List.Forall₂ r (l.filterMap f) l := by
  induction l with
  | nil => exact .nil
  | cons a l ih =>
    obtain ⟨b, hb, hr⟩ := h a List.mem_cons_self
    rw [List.filterMap_cons_some hb]
    exact .cons hr (ih fun c hc => h c (List.mem_cons_of_mem a hc))

/-- The places of a list, put together by their alias keys. -/
def placeBlocks (deltas : Deltas) : List (List (Delta × Nat)) :=
  blocks (fun member => member.1.aliasKey) deltas.zipIdx

/-- What stands at the places of the blocks are the blocks of the deltas. -/
theorem map_placeBlocks (deltas : Deltas) :
    deltas.placeBlocks.map (List.map Prod.fst) = blocks Delta.aliasKey deltas := by
  conv_rhs => rw [← List.zipIdx_map_fst 0 deltas, blocks_map]
  rfl

theorem pairwise_zipIdx (deltas : Deltas) : deltas.zipIdx.Pairwise fun a b => a.2 < b.2 := by
  rw [← List.pairwise_map, List.zipIdx_map_snd]
  exact List.pairwise_lt_range'

/-- The deltas of a grouping stand for the blocks of the places of the list. -/
theorem regroups_groupAliases (deltas : Deltas) :
    Regroups deltas deltas.placeBlocks deltas.groupAliases where
  perm := flatten_blocks_perm _ _
  together_iff _ ha _ hb hne := exists_block_iff ha hb hne
  pairwise_block _ hblock := deltas.pairwise_zipIdx.sublist (sublist_of_mem_blocks hblock)
  pairwise_head := pairwise_blocks deltas.pairwise_zipIdx
  standsFor := by
    rw [groupAliases_eq_blocks, ← map_placeBlocks, List.filterMap_map]
    apply forall₂_filterMap
    intro block hblock
    apply exists_merge?
    have hne : block ≠ [] := ne_nil_of_mem_blocks hblock
    simpa using hne

section Plain

/-- A delta that stands for plain deltas counts them. -/
theorem aliasCount_eq_length_expand {delta : Delta} {block : Deltas} (h : delta.StandsFor block)
    (hplain : ∀ member ∈ block, member.IsPlain) : delta.aliasCount = delta.expand.length := by
  obtain rfl | ⟨hlength, rfl⟩ := h
  · obtain ⟨change, rfl⟩ := hplain delta List.mem_cons_self
    rfl
  · show max block.length 1 = block.length
    omega

variable (hplain : ∀ delta ∈ deltas, delta.IsPlain)

include hplain

theorem isPlain_of_mem_block {block : Deltas} (hblock : block ∈ blocks Delta.aliasKey deltas) :
    ∀ delta ∈ block, delta.IsPlain :=
  fun delta hdelta => hplain delta ((sublist_of_mem_blocks hblock).subset hdelta)

/-- The alias counts of a grouping add up to the length of the list. -/
theorem sum_aliasCount_groupAliases :
    (deltas.groupAliases.map Delta.aliasCount).sum = deltas.length := by
  have hcount : ∀ delta ∈ deltas.groupAliases, delta.aliasCount = delta.expand.length := by
    intro delta hdelta
    rw [groupAliases_eq_blocks] at hdelta
    obtain ⟨block, hblock, hmerge⟩ := List.mem_filterMap.1 hdelta
    obtain ⟨_, hmerge', hstands⟩ := exists_merge? (ne_nil_of_mem_blocks hblock)
    cases hmerge.symm.trans hmerge'
    exact aliasCount_eq_length_expand hstands (isPlain_of_mem_block hplain hblock)
  rw [List.map_congr_left hcount, ← List.length_flatMap]
  exact (expand_groupAliases_perm hplain).length_eq

/-- The members of the deltas of a grouping are those of the blocks. -/
theorem groupMembers_eq :
    deltas.groupMembers = ((blocks Delta.aliasKey deltas).map Multiset.ofList : List _) := by
  rw [groupMembers, groupAliases_eq_blocks, List.map_filterMap, ← List.filterMap_eq_map]
  congr 1
  -- one delta for a block has the members of the block, in the order of the block
  apply List.filterMap_congr
  intro block hblock
  obtain ⟨delta, hmerge, -⟩ := exists_merge? (ne_nil_of_mem_blocks hblock)
  have hexpand : delta.expand = block := by
    have hblock := expand_merge? (isPlain_of_mem_block hplain hblock)
    rw [hmerge] at hblock
    simpa [expand] using hblock
  rw [hmerge, Option.map_some, hexpand, Function.comp_apply]

/-- Which deltas are put together does not depend on their order. -/
theorem groupMembers_perm {other : Deltas} (h : other.Perm deltas) :
    other.groupMembers = deltas.groupMembers := by
  have hother : ∀ delta ∈ other, delta.IsPlain := fun delta hdelta => hplain delta (h.subset hdelta)
  rw [groupMembers_eq hother, groupMembers_eq hplain]
  exact Multiset.coe_eq_coe.2 (blocks_perm h)

end Plain

/-- Grouping plain deltas by their aliases is an exact regrouping: the deltas stand for the blocks
of equal alias keys, in the order of the first members, every delta is in one of them, and which
deltas are put together does not depend on their order. -/
theorem groupAliases_regroups {deltas : Deltas} (hplain : ∀ delta ∈ deltas, delta.IsPlain) :
    (∃ blocks, Regroups deltas blocks deltas.groupAliases ∧
      ∀ a ∈ deltas.zipIdx, (∀ b ∈ deltas.zipIdx, a ≠ b → ∀ key, a.1.aliasKey = some key →
        b.1.aliasKey ≠ some key) → [a] ∈ blocks) ∧
      (∀ delta : Delta, delta.aliasKey.isSome ↔
        ∃ sym, delta.symbol? = some sym ∧ 1 < sym.numAliases ∧ sym.isOverhead = false) ∧
      (expand deltas.groupAliases).Perm deltas ∧
      (deltas.groupAliases.map Delta.aliasCount).sum = deltas.length ∧
      ∀ other : Deltas, other.Perm deltas → other.groupMembers = deltas.groupMembers := by
  have hregroups := regroups_groupAliases deltas
  exact ⟨⟨_, hregroups, fun _ => hregroups.singleton_mem⟩, fun _ => Delta.isSome_aliasKey_iff,
    expand_groupAliases_perm hplain, sum_aliasCount_groupAliases hplain,
    fun _ => groupMembers_perm hplain⟩

/-- Two aliases with another delta between them make one delta, in the place of the first. -/
theorem groupAliases_regroups_of_aliases :
    let shared : Symbol :=
      { containerName := "lib", sectionName := ".text", size := 8, numAliases := 2
        fullName := "main", sourcePath := "a.h" }
    let other : Symbol := { shared with numAliases := 1, fullName := "other" }
    let deltas : Deltas :=
      [.added ⟨some 0, shared⟩, .removed ⟨some 0, other⟩,
        .added ⟨some 1, { shared with sourcePath := "b.h" }⟩]
    (∀ delta ∈ deltas, delta.IsPlain) ∧
      deltas.groupAliases.map Delta.aliasCount = [2, 1] ∧
      (∃ blocks, Regroups deltas blocks deltas.groupAliases) ∧
      (deltas.groupAliases.map Delta.aliasCount).sum = 3 := by
  intro shared other deltas
  have hplain : ∀ delta ∈ deltas, delta.IsPlain := by
    intro delta hdelta
    simp only [deltas, List.mem_cons, List.not_mem_nil, or_false] at hdelta
    obtain rfl | rfl | rfl := hdelta
    · exact ⟨_, rfl⟩
    · exact ⟨_, rfl⟩
    · exact ⟨_, rfl⟩
  obtain ⟨⟨blocks, hregroups, -⟩, -, -, hcount, -⟩ := groupAliases_regroups hplain
  refine ⟨hplain, ?_, ⟨blocks, hregroups⟩, hcount⟩
  rw [groupAliases_eq]
  decide

end Deltas

end BuildScope
