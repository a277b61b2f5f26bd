import BuildScope.Diff.Basic
import BuildScope.Proofs.Except
import BuildScope.Proofs.Pairing.Blocks
import BuildScope.Proofs.Pairing.Queues

/-!
# Arranging Deltas

Putting aliases together and sorting keep every delta. Which deltas grouping leads to is said
without queues: a delta without an alias key stands for itself, and the first delta with a key
stands for all that have it.

* `Deltas.groupAliases_eq`: the deltas of a grouping, in the places of the deltas they stand for.
* `Deltas.groupAliases_eq_blocks`: a grouping makes one delta of each block with one alias key.
* `Deltas.expand_groupAliases_perm`: grouping plain deltas keeps each of them, once.
* `Diff.expand_arrange_perm`: so do grouping and sorting together.
-/

namespace BuildScope

open Pairing (block?_of_none block?_of_some blocks blocks_eq_singleton flatten_blocks_perm linesOf
  ranked ranked_cons sublist_of_mem_blocks)

/-- A delta stands for one symbol. -/
def Delta.IsPlain (delta : Delta) : Prop :=
  ∃ change, delta = .single change

/-- The deltas that a delta stands for: the members of an alias group, or the delta itself. -/
def Delta.expand : Delta → Deltas
  | .single change => [.single change]
  | .aliasGroup _ members => members

namespace Deltas

/-- The deltas that some deltas stand for, each alias group replaced by its members. -/
def expand (deltas : Deltas) : Deltas :=
  deltas.flatMap Delta.expand

/-- One delta for all that wait in a queue, if any do. -/
def merge? : Deltas → Option Delta
  | [] => none
  | [only] => some only
  | members => some (.ofAliases members)

/-- What takes the place of a delta of some rank: the delta itself if it has no key, and all with
its key if it is the first of them. -/
def placed? (lines : AliasKey → Deltas) (member : Delta × Nat) : Option Delta :=
  match member.1.aliasKey with
  | none => some member.1
  | some key => if member.2 = 0 then merge? (lines key) else none

/-- The lines after all have left that share the key of a delta. -/
def emptied (delta : Delta) (lines : AliasKey → Deltas) (key : AliasKey) : Deltas :=
  if delta.aliasKey == some key then [] else lines key

theorem queue_placeAliases (state : KeyQueues AliasKey Delta × Deltas) (delta : Delta) :
    (placeAliases state delta).1.queue = emptied delta state.1.queue := by
  funext key
  unfold placeAliases emptied
  cases hk : delta.aliasKey with
  | none => rfl
  | some key' =>
    by_cases h : key' = key
    · subst h
      match hq : state.1.queue key' with
      | [] => simp [hq]
      | [only] => simp [hq, KeyQueues.queue_setQueue]
      | first :: second :: rest => simp [hq, KeyQueues.queue_setQueue]
    · match hq : state.1.queue key' with
      | [] => simp [hq, h]
      | [only] => simp [hq, h, KeyQueues.queue_setQueue]
      | first :: second :: rest => simp [hq, h, KeyQueues.queue_setQueue]

theorem snd_placeAliases (state : KeyQueues AliasKey Delta × Deltas) (delta : Delta) :
    (placeAliases state delta).2 = (placed? state.1.queue (delta, 0)).toList ++ state.2 := by
  unfold placeAliases placed?
  cases hk : delta.aliasKey with
  | none => rfl
  | some key =>
    match hq : state.1.queue key with
    | [] => simp [hq, merge?]
    | [only] => simp [hq, merge?]
    | first :: second :: rest => simp [hq, merge?]

/-- After a delta has taken its place, those that share its key count one rank later. -/
theorem placed?_emptied (lines : AliasKey → Deltas) (delta : Delta) (member : Delta × Nat) :
    placed? (emptied delta lines) member =
      placed? lines
        (member.1, member.2 + if delta.aliasKey == member.1.aliasKey then 1 else 0) := by
  unfold placed? emptied
  cases hk : member.1.aliasKey with
  | none => rfl
  | some key =>
    by_cases h : delta.aliasKey = some key
    · simp [h, merge?]
    · simp [h]

theorem snd_foldl_placeAliases (deltas : Deltas) (state : KeyQueues AliasKey Delta × Deltas) :
    (deltas.foldl placeAliases state).2 =
      ((ranked Delta.aliasKey deltas).filterMap (placed? state.1.queue)).reverse ++ state.2 := by
  induction deltas generalizing state with
  | nil => rfl
  | cons delta deltas ih =>
    rw [List.foldl_cons, ih, queue_placeAliases, snd_placeAliases, ranked_cons,
      List.filterMap_cons, List.filterMap_map]
    simp only [Function.comp_def, ← placed?_emptied]
    cases placed? state.1.queue (delta, 0) <;> simp

/-- A delta without an alias key stays in its place, and the first delta with a key is replaced by
all that have it. -/
theorem groupAliases_eq (deltas : Deltas) :
    deltas.groupAliases =
      (ranked Delta.aliasKey deltas).filterMap (placed? (linesOf Delta.aliasKey deltas)) := by
  have hqueue : (KeyQueues.ofList Delta.aliasKey deltas : KeyQueues AliasKey Delta).queue =
      linesOf Delta.aliasKey deltas :=
    funext (KeyQueues.queue_ofList Delta.aliasKey deltas)
  rw [groupAliases, snd_foldl_placeAliases, hqueue, List.append_nil, List.reverse_reverse]

/-- One delta for all in a line stands for the same symbols. -/
theorem expand_merge? {line : Deltas} (h : ∀ delta ∈ line, delta.IsPlain) :
    expand (merge? line).toList = line := by
  match line with
  | [] => rfl
  | [only] =>
    obtain ⟨change, rfl⟩ := h only (by simp)
    rfl
  | first :: second :: rest => simp [expand, merge?, Delta.ofAliases, Delta.expand]

theorem expand_filterMap {α : Type} (f : α → Option Delta) (l : List α) :
    expand (l.filterMap f) = l.flatMap fun a => expand (f a).toList := by
  induction l with
  | nil => rfl
  | cons a l ih =>
    rw [List.filterMap_cons, List.flatMap_cons, ← ih]
    cases f a <;> simp [expand]

theorem expand_eq_self {deltas : Deltas} (h : ∀ delta ∈ deltas, delta.IsPlain) :
    expand deltas = deltas := by
  induction deltas with
  | nil => rfl
  | cons delta deltas ih =>
    obtain ⟨change, rfl⟩ := h delta List.mem_cons_self
    have htail : expand deltas = deltas := ih fun other hother => h other (by simp [hother])
    rw [expand, List.flatMap_cons, ← expand, htail]
    rfl

/-- Each block of deltas that share an alias key is replaced by one delta for all of them. -/
theorem groupAliases_eq_blocks (deltas : Deltas) :
    deltas.groupAliases = (blocks Delta.aliasKey deltas).filterMap merge? := by
  rw [groupAliases_eq, blocks, List.filterMap_filterMap]
  apply List.filterMap_congr
  rintro ⟨delta, rank⟩ -
  cases hk : delta.aliasKey with
  | none => simp [placed?, hk, block?_of_none hk, merge?]
  | some key => by_cases hrank : rank = 0 <;> simp [placed?, hk, hrank, block?_of_some hk, linesOf]

/-- Deltas that all share an alias key make one alias group. -/
theorem groupAliases_eq_singleton {deltas : Deltas} {key : AliasKey} (hlength : 2 ≤ deltas.length)
    (hkey : ∀ delta ∈ deltas, delta.aliasKey = some key) :
    deltas.groupAliases = [.ofAliases deltas] := by
  have hne : deltas ≠ [] := by
    rintro rfl
    cases hlength
  rw [groupAliases_eq_blocks, blocks_eq_singleton hne hkey]
  match deltas, hlength with
  | first :: second :: rest, _ => rfl

/-- Grouping plain deltas keeps each of them, once. -/
theorem expand_groupAliases_perm {deltas : Deltas} (hplain : ∀ delta ∈ deltas, delta.IsPlain) :
    (expand deltas.groupAliases).Perm deltas := by
  have hblock : ∀ block ∈ blocks Delta.aliasKey deltas, expand (merge? block).toList = block :=
    fun block hblock =>
      expand_merge? fun delta hdelta => hplain delta ((sublist_of_mem_blocks hblock).subset hdelta)
  have hexpand : expand deltas.groupAliases = (blocks Delta.aliasKey deltas).flatten := by
    rw [groupAliases_eq_blocks, expand_filterMap, List.flatMap_congr hblock, List.flatMap_id']
  rw [hexpand]
  exact flatten_blocks_perm Delta.aliasKey deltas

/-! ## Sorting -/

/-- Sorting keeps each delta, once. -/
theorem sort_perm {deltas sorted : Deltas} (h : deltas.sort = .ok sorted) : sorted.Perm deltas := by
  unfold sort at h
  split at h
  · cases h
    rfl
  obtain ⟨impacts, himpacts, h⟩ := Except.bind_eq_ok.1 h
  obtain rfl := Except.pure_eq_ok.1 h
  have hlength : impacts.length = deltas.length :=
    (Except.mapM_eq_ok.1 himpacts).length_eq.symm
  -- the impacts only ride along
  have hsnd : (impacts.zip deltas).map Prod.snd = deltas :=
    List.map_snd_zip (Nat.le_of_eq hlength.symm)
  conv_rhs => rw [← hsnd]
  exact (List.mergeSort_perm _ _).map Prod.snd

end Deltas

/-- Arranging plain deltas keeps each of them, once. -/
theorem Diff.expand_arrange_perm {sorted : Bool} {deltas arranged : Deltas}
    (hplain : ∀ delta ∈ deltas, delta.IsPlain) (h : arrange sorted deltas = .ok arranged) :
    (Deltas.expand arranged).Perm deltas := by
  cases sorted with
  | false =>
    cases h
    rw [Deltas.expand_eq_self hplain]
  | true =>
    have hsorted : (Deltas.expand arranged).Perm (Deltas.expand deltas.groupAliases) :=
      (Deltas.sort_perm h).flatMap_right Delta.expand
    exact hsorted.trans (Deltas.expand_groupAliases_perm hplain)

end BuildScope
