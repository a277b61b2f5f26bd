import BuildScope.Proofs.Pairing.ByRank
import Mathlib.Data.List.Dedup
import Mathlib.Data.Multiset.MapFold

/-!
# Blocks of a List

The members of a list with one key form a block, and each member without a key a block of its own.
A block stands in the place of its first member, the one of rank zero.

* `Pairing.blocks`: the blocks of a list, in the order of their first members.
* `Pairing.mem_blocks_iff`: which lists are blocks.
* `Pairing.flatten_blocks_perm`: every member is in one block, once.
* `Pairing.blocks_perm`: the blocks do not depend on the order of the list.
-/

namespace BuildScope.Pairing

/-- Where all that an element leads to passes one test just when the element passes another, either
test may be made. -/
private theorem filter_flatMap_of_forall {α β : Type} {l : List α} {f : α → List β} {p : α → Bool}
    {q : β → Bool} (h : ∀ a ∈ l, ∀ b ∈ f a, q b = p a) :
    (l.flatMap f).filter q = (l.filter p).flatMap f := by
  induction l with
  | nil => rfl
  | cons a l ih =>
    rw [List.flatMap_cons, List.filter_append, ih fun b hb => h b (by simp [hb]), List.filter_cons]
    have ha : ∀ b ∈ f a, q b = p a := h a List.mem_cons_self
    cases hp : p a with
    | false => rw [List.filter_eq_nil_iff.2 fun b hb => by simp [ha b hb, hp]]; rfl
    | true => rw [List.filter_eq_self.2 fun b hb => (ha b hb).trans hp]; rfl

/-- A list put into the place of its first member is the list. -/
private theorem flatMap_zipIdx_ite {α : Type} (l : List α) :
    (l.zipIdx.flatMap fun member => if member.2 = 0 then l else []) = l := by
  cases l with
  | nil => rfl
  | cons a l =>
    have htail : ((l.zipIdx 1).flatMap fun member => if member.2 = 0 then a :: l else []) = [] := by
      rw [List.flatMap_eq_nil_iff]
      rintro ⟨b, place⟩ hmember
      have hplace : 1 ≤ place := List.le_snd_of_mem_zipIdx hmember
      rw [if_neg (by omega)]
    rw [List.zipIdx_cons, List.flatMap_cons, htail]
    simp

variable {α κ : Type} [BEq κ]

/-- The block in the place of a member of some rank: the member itself if it has no key, and all
with its key if it is the first of them. -/
def block? (key : α → Option κ) (members : List α) (member : α × Nat) : Option (List α) :=
  match key member.1 with
  | none => some [member.1]
  | some k => if member.2 = 0 then some (withKey key (some k) members) else none

/-- The blocks of a list, each in the place of its first member. -/
def blocks (key : α → Option κ) (members : List α) : List (List α) :=
  (ranked key members).filterMap (block? key members)

variable {key : α → Option κ} {members : List α}

theorem block?_of_none {a : α} (hk : key a = none) (rank : Nat) :
    block? key members (a, rank) = some [a] := by
  simp [block?, hk]

theorem block?_of_some {a : α} {k : κ} (hk : key a = some k) (rank : Nat) :
    block? key members (a, rank) =
      if rank = 0 then some (withKey key (some k) members) else none := by
  simp [block?, hk]

/-- Members form the blocks that they form by what they are made of. -/
theorem blocks_map {β : Type} (key : α → Option κ) (f : β → α) (members : List β) :
    blocks key (members.map f) = (blocks (fun b => key (f b)) members).map (List.map f) := by
  rw [blocks, blocks, ranked_map, List.filterMap_map, List.map_filterMap]
  apply List.filterMap_congr
  rintro ⟨b, rank⟩ -
  cases hk : key (f b) with
  | none => simp [block?, hk]
  | some k => by_cases hrank : rank = 0 <;> simp [block?, hk, hrank, withKey_map]

variable [LawfulBEq κ]

/-- Of two members with one key, the later one has the higher rank. -/
theorem pairwise_ranked (key : α → Option κ) (members : List α) :
    (ranked key members).Pairwise fun member other =>
      key member.1 = key other.1 → member.2 < other.2 := by
  induction members with
  | nil => exact List.Pairwise.nil
  | cons a members ih =>
    rw [ranked_cons, List.pairwise_cons, List.pairwise_map]
    constructor
    · intro other hother heq
      obtain ⟨member, -, rfl⟩ := List.mem_map.1 hother
      simp only at heq ⊢
      rw [heq, if_pos (beq_self_eq_true _)]
      omega
    · refine ih.imp fun {member other} hlt heq => ?_
      -- both come one rank later, or neither does
      simp only at heq ⊢
      rw [heq]
      exact Nat.add_lt_add_right (hlt heq) _

theorem mem_ranked_iff {a : α} {rank : Nat} :
    (a, rank) ∈ ranked key members ↔ (withKey key (key a) members)[rank]? = some a := by
  rw [← List.mem_zipIdx_iff_getElem? (x := (a, rank)), ← ranked_withKey, List.mem_filter]
  simp

/-- The first member with a key has rank zero. -/
theorem exists_lead {k : κ} (h : withKey key (some k) members ≠ []) :
    ∃ a, (a, 0) ∈ ranked key members ∧ key a = some k := by
  obtain ⟨a, hhead⟩ := Option.isSome_iff_exists.1 (List.isSome_head?.2 h)
  have hk : key a = some k := (mem_withKey.1 (List.mem_of_mem_head? hhead)).2
  refine ⟨a, ?_, hk⟩
  rw [mem_ranked_iff, hk, ← List.head?_eq_getElem?, hhead]

/-- The member in whose place a block stands is the first of the block. -/
theorem head?_of_block? {member : α × Nat} {block : List α}
    (hmember : member ∈ ranked key members) (h : block? key members member = some block) :
    block.head? = some member.1 := by
  obtain ⟨a, rank⟩ := member
  cases hk : key a with
  | none =>
    rw [block?_of_none hk] at h
    cases h
    rfl
  | some k =>
    rw [block?_of_some hk] at h
    split at h
    next hrank =>
      cases h
      rw [mem_ranked_iff, hrank, hk] at hmember
      rw [List.head?_eq_getElem?, hmember]
    next => cases h

/-- A block is a member without a key, or all members with some key. -/
theorem mem_blocks_iff {block : List α} :
    block ∈ blocks key members ↔
      (∃ a ∈ members, key a = none ∧ block = [a]) ∨
        ∃ k, block = withKey key (some k) members ∧ block ≠ [] := by
  rw [blocks, List.mem_filterMap]
  constructor
  · rintro ⟨⟨a, rank⟩, hmember, hblock⟩
    have hhead := head?_of_block? hmember hblock
    cases hk : key a with
    | none =>
      rw [block?_of_none hk] at hblock
      have ha : a ∈ members := by
        rw [← map_fst_ranked key members]
        exact List.mem_map_of_mem hmember
      exact .inl ⟨a, ha, hk, (Option.some.inj hblock).symm⟩
    | some k =>
      rw [block?_of_some hk] at hblock
      split at hblock
      · -- the block of a key has at least the member that it begins with
        refine .inr ⟨k, (Option.some.inj hblock).symm, ?_⟩
        rintro rfl
        cases hhead
      · cases hblock
  · rintro (⟨a, ha, hk, rfl⟩ | ⟨k, rfl, hne⟩)
    · rw [← map_fst_ranked key members] at ha
      obtain ⟨⟨a, rank⟩, hmember, rfl⟩ := List.mem_map.1 ha
      exact ⟨_, hmember, block?_of_none hk rank⟩
    · obtain ⟨a, hlead, hk⟩ := exists_lead hne
      exact ⟨(a, 0), hlead, by rw [block?_of_some hk, if_pos rfl]⟩

theorem ne_nil_of_mem_blocks {block : List α} (h : block ∈ blocks key members) : block ≠ [] := by
  obtain ⟨a, -, -, rfl⟩ | ⟨k, -, hne⟩ := mem_blocks_iff.1 h
  · exact List.cons_ne_nil a []
  · exact hne

/-- Blocks come in the order of their first members. -/
theorem pairwise_blocks {r : α → α → Prop} (h : members.Pairwise r) :
    (blocks key members).Pairwise fun block other =>
      ∀ a ∈ block.head?, ∀ b ∈ other.head?, r a b := by
  rw [← map_fst_ranked key members, List.pairwise_map] at h
  rw [blocks, List.pairwise_filterMap]
  refine h.imp_of_mem ?_
  intro member other hmember hother hr block hblock block' hblock' a ha b hb
  rw [head?_of_block? hmember hblock] at ha
  rw [head?_of_block? hother hblock'] at hb
  cases ha
  cases hb
  exact hr

/-- Two members are in one block exactly if they have the same key. -/
theorem exists_block_iff {a b : α} (ha : a ∈ members) (hb : b ∈ members) (hne : a ≠ b) :
    (∃ block ∈ blocks key members, a ∈ block ∧ b ∈ block) ↔
      ∃ k, key a = some k ∧ key b = some k := by
  constructor
  · rintro ⟨block, hblock, hmema, hmemb⟩
    obtain ⟨c, -, -, rfl⟩ | ⟨k, rfl, -⟩ := mem_blocks_iff.1 hblock
    · exact absurd ((List.mem_singleton.1 hmema).trans (List.mem_singleton.1 hmemb).symm) hne
    · exact ⟨k, (mem_withKey.1 hmema).2, (mem_withKey.1 hmemb).2⟩
  · rintro ⟨k, hka, hkb⟩
    have hmema : a ∈ withKey key (some k) members := mem_withKey.2 ⟨ha, hka⟩
    exact ⟨_, mem_blocks_iff.2 (.inr ⟨k, rfl, List.ne_nil_of_mem hmema⟩), hmema,
      mem_withKey.2 ⟨hb, hkb⟩⟩

theorem sublist_of_mem_blocks {block : List α} (h : block ∈ blocks key members) :
    block.Sublist members := by
  obtain ⟨a, ha, -, rfl⟩ | ⟨k, rfl, -⟩ := mem_blocks_iff.1 h
  · exact List.singleton_sublist.2 ha
  · exact List.filter_sublist

/-- Every member is in one block, once. -/
theorem flatten_blocks_perm (key : α → Option κ) (members : List α) :
    (blocks key members).flatten.Perm members := by
  refine perm_of_withKey key fun k => ?_
  have hflatten : (blocks key members).flatten =
      (ranked key members).flatMap fun member => (block? key members member).getD [] := by
    rw [blocks, List.filterMap_eq_flatMap_toList, List.flatten_eq_flatMap, List.flatMap_assoc]
    apply List.flatMap_congr
    intro member _
    cases block? key members member <;> simp
  -- what is put into the place of a member has the key of the member
  have hkey : ∀ member ∈ ranked key members, ∀ a ∈ (block? key members member).getD [],
      (key a == k) = (key member.1 == k) := by
    rintro ⟨a, rank⟩ - b hb
    cases hk : key a with
    | none =>
      rw [block?_of_none hk, Option.getD_some, List.mem_singleton] at hb
      rw [hb, hk]
    | some k' =>
      rw [block?_of_some hk] at hb
      split at hb
      · rw [(mem_withKey.1 hb).2]
      · cases hb
  rw [hflatten, withKey, filter_flatMap_of_forall hkey, ranked_withKey]
  cases k with
  | none =>
    calc (withKey key none members).zipIdx.flatMap
            (fun member => (block? key members member).getD [])
        = (withKey key none members).zipIdx.flatMap fun member => [member.1] := by
          apply List.flatMap_congr
          rintro ⟨a, rank⟩ hmember
          have hk := (mem_withKey.1 (List.fst_mem_of_mem_zipIdx hmember)).2
          rw [block?_of_none hk, Option.getD_some]
      _ = withKey key none members := by
          rw [← List.map_eq_flatMap, List.zipIdx_map_fst]
  | some k =>
    calc (withKey key (some k) members).zipIdx.flatMap
            (fun member => (block? key members member).getD [])
        = (withKey key (some k) members).zipIdx.flatMap fun member =>
            if member.2 = 0 then withKey key (some k) members else [] := by
          apply List.flatMap_congr
          rintro ⟨a, rank⟩ hmember
          have hk := (mem_withKey.1 (List.fst_mem_of_mem_zipIdx hmember)).2
          rw [block?_of_some hk]
          split <;> rfl
      -- the first member takes the whole block along, and the others have nothing left to take
      _ = withKey key (some k) members := flatMap_zipIdx_ite _

/-- Members that all have one key form a single block. -/
theorem blocks_eq_singleton {k : κ} (hne : members ≠ []) (hkey : ∀ a ∈ members, key a = some k) :
    blocks key members = [members] := by
  have hall : ∀ block ∈ blocks key members, block = members := by
    intro block hblock
    obtain ⟨a, ha, hnone, -⟩ | ⟨k', rfl, hne'⟩ := mem_blocks_iff.1 hblock
    · rw [hkey a ha] at hnone
      cases hnone
    · obtain ⟨a, ha⟩ := List.exists_mem_of_ne_nil _ hne'
      obtain ⟨ha, hk'⟩ := mem_withKey.1 ha
      rw [← hk', hkey a ha]
      exact List.filter_eq_self.2 fun b hb => beq_iff_eq.2 (hkey b hb)
  have hblocks := List.eq_replicate_of_mem hall
  -- as every member is in one block, there is one
  have hlength := (flatten_blocks_perm key members).length_eq
  rw [hblocks, List.length_flatten, List.map_replicate, List.sum_replicate_nat] at hlength
  rw [hblocks, Nat.eq_of_mul_eq_mul_right (List.length_pos_of_ne_nil hne)
    (hlength.trans (Nat.one_mul _).symm), List.replicate_one]

/-! ## Blocks of a list in another order -/

/-- The keys of a list, in the order in which they first occur. -/
def leadKeys (key : α → Option κ) (members : List α) : List κ :=
  (ranked key members).filterMap fun member => if member.2 = 0 then key member.1 else none

theorem nodup_leadKeys (key : α → Option κ) (members : List α) :
    (leadKeys key members).Nodup := by
  rw [leadKeys, List.Nodup, List.pairwise_filterMap]
  refine (pairwise_ranked key members).imp fun {member other} hlt k hk k' hk' => ?_
  rintro rfl
  split at hk
  next hrank =>
    split at hk'
    next hrank' =>
      have hrank_lt := hlt (hk.trans hk'.symm)
      omega
    next => cases hk'
  next => cases hk

theorem mem_leadKeys_iff {k : κ} : k ∈ leadKeys key members ↔ ∃ a ∈ members, key a = some k := by
  rw [leadKeys, List.mem_filterMap]
  constructor
  · rintro ⟨member, hmember, hk⟩
    split at hk
    · rw [← map_fst_ranked key members]
      exact ⟨member.1, List.mem_map_of_mem hmember, hk⟩
    · cases hk
  · rintro ⟨a, ha, hk⟩
    obtain ⟨b, hlead, hkb⟩ := exists_lead (List.ne_nil_of_mem (mem_withKey.2 ⟨ha, hk⟩))
    exact ⟨(b, 0), hlead, by rw [if_pos rfl, hkb]⟩

/-- Each member without a key has its block, and so has each key. -/
theorem blocks_perm_append (key : α → Option κ) (members : List α) :
    (blocks key members).Perm
      ((withKey key none members).map (fun a => [a]) ++
        (leadKeys key members).map fun k => withKey key (some k) members) := by
  have hsplit := (List.filter_append_perm (fun member : α × Nat => key member.1 == none)
    (ranked key members)).filterMap (block? key members)
  rw [List.filterMap_append] at hsplit
  -- members without a key stand alone
  have hwithout : ((ranked key members).filter fun member => key member.1 == none).filterMap
      (block? key members) = (withKey key none members).map fun a => [a] := by
    calc ((ranked key members).filter fun member => key member.1 == none).filterMap
            (block? key members)
        = (withKey key none members).zipIdx.filterMap fun member => some [member.1] := by
          rw [ranked_withKey]
          apply List.filterMap_congr
          rintro ⟨a, rank⟩ hmember
          exact block?_of_none (mem_withKey.1 (List.fst_mem_of_mem_zipIdx hmember)).2 rank
      _ = ((withKey key none members).zipIdx.map Prod.fst).map fun a => [a] := by
          rw [List.filterMap_eq_map', List.map_map]
          rfl
      _ = (withKey key none members).map fun a => [a] := by
          rw [List.zipIdx_map_fst]
  -- any other block begins with the first member that has its key
  have hwith : ((ranked key members).filter fun member => !(key member.1 == none)).filterMap
      (block? key members) =
        (leadKeys key members).map fun k => withKey key (some k) members := by
    rw [leadKeys, List.map_filterMap, List.filterMap_filter]
    apply List.filterMap_congr
    rintro ⟨a, rank⟩ -
    cases hk : key a with
    | none => simp
    | some k => by_cases hrank : rank = 0 <;> simp [hrank, block?_of_some hk]
  rw [hwithout, hwith] at hsplit
  exact hsplit.symm

/-- The blocks of a list in another order have the same members. -/
theorem blocks_perm {other : List α} (h : other.Perm members) :
    ((blocks key other).map Multiset.ofList).Perm ((blocks key members).map Multiset.ofList) := by
  have hwithKey (k : Option κ) : (withKey key k other).Perm (withKey key k members) := h.filter _
  have hkeys : (leadKeys key other).Perm (leadKeys key members) := by
    rw [List.perm_ext_iff_of_nodup (nodup_leadKeys key other) (nodup_leadKeys key members)]
    intro k
    simp only [mem_leadKeys_iff, h.mem_iff]
  have hblock (k : κ) : Multiset.ofList (withKey key (some k) other) =
      Multiset.ofList (withKey key (some k) members) := Multiset.coe_eq_coe.2 (hwithKey (some k))
  refine ((blocks_perm_append key other).map _).trans (.trans ?_
    ((blocks_perm_append key members).map _).symm)
  simp only [List.map_append, List.map_map, Function.comp_def, hblock]
  exact ((hwithKey none).map _).append (hkeys.map _)

end BuildScope.Pairing
