import BuildScope.Proofs.Deltas.Arrangement

/-!
# Alias Groups Stay Flat

Plain deltas may be sorted, put together by their aliases and filtered by status, in any order and
as often as one likes. An alias group has the alias key of its members, so that no two deltas share
a key once aliases were put together, and a second time finds nothing to put together.

* `Deltas.run`: what some operations lead to, one after the other.
* `Deltas.aliasKeys_groupAliases`: a grouping has each alias key once.
* `Deltas.groupAliases_eq_self`: where no two deltas share a key, grouping changes nothing.
* `Deltas.run_stays_flat`: no alias group is ever put into another.
-/

namespace BuildScope

open Pairing (blocks leadKeys linesOf map_fst_ranked mem_blocks_iff mem_ranked_iff mem_withKey
  nodup_leadKeys ranked ranked_cons sublist_of_mem_blocks withKey withKey_cons)

/-! ## The key of an alias group -/

namespace Delta

/-- A delta stands for at least one symbol, and an alias group for two or more deltas that are no
alias groups and share its alias key. -/
structure IsFlat (delta : Delta) : Prop where
  /-- The delta has a side. -/
  hasSide : delta.sides.before.isSome ∨ delta.sides.after.isSome
  /-- An alias group has members, all of them plain and with its key. -/
  ofGroup : ∀ sides members, delta = .aliasGroup sides members → 2 ≤ members.length ∧
    ∃ key, delta.aliasKey = some key ∧
      ∀ member ∈ members, member.IsPlain ∧ member.aliasKey = some key

theorem IsPlain.isFlat {delta : Delta} (h : delta.IsPlain) : delta.IsFlat := by
  obtain ⟨change, rfl⟩ := h
  refine ⟨?_, fun _ _ heq => nomatch heq⟩
  cases change with
  | matched before after => exact .inl rfl
  | added after => exact .inr rfl
  | removed before => exact .inl rfl

/-- A key says whether the symbol that it is taken from is one of the new build. -/
theorem isAfter_of_aliasKey {delta : Delta} {key : AliasKey} (h : delta.aliasKey = some key) :
    key.isAfter = delta.sides.after.isSome := by
  unfold aliasKey at h
  obtain ⟨sym, -, h⟩ := Option.bind_eq_some_iff.1 h
  split at h
  · rw [← Option.some.inj h]
  · cases h

/-- A delta with a key has a newer side. -/
theorem isSome_newer?_of_aliasKey {delta : Delta} {key : AliasKey}
    (h : delta.aliasKey = some key) : delta.sides.newer?.isSome := by
  unfold aliasKey at h
  obtain ⟨sym, hsym, -⟩ := Option.bind_eq_some_iff.1 h
  obtain ⟨side, hside, -⟩ := Option.map_eq_some_iff.1 hsym
  exact Option.isSome_of_eq_some hside

/-- The key of a delta is that of its newer side. -/
theorem aliasKey_congr {a b : Delta} (hnewer : a.sides.newer? = b.sides.newer?)
    (hafter : a.sides.after.isSome = b.sides.after.isSome) : a.aliasKey = b.aliasKey := by
  unfold aliasKey symbol?
  rw [hnewer, hafter]

variable {key : AliasKey} {members : Deltas}

theorem before_ofAliases (members : Deltas) :
    (ofAliases members).sides.before = members.findSome? fun delta => delta.sides.before := rfl

theorem after_ofAliases (members : Deltas) :
    (ofAliases members).sides.after = members.findSome? fun delta => delta.sides.after := rfl

/-- Aliases are all of the new build, or none of them has a symbol there. -/
theorem newer?_ofAliases (hne : members ≠ [])
    (hkey : ∀ member ∈ members, member.aliasKey = some key) :
    ∃ first ∈ members, (ofAliases members).sides.newer? = first.sides.newer? ∧
      (ofAliases members).sides.after.isSome = first.sides.after.isSome := by
  obtain ⟨first, rest, rfl⟩ := List.exists_cons_of_ne_nil hne
  refine ⟨first, List.mem_cons_self, ?_⟩
  have hfirst := hkey first List.mem_cons_self
  cases hafter : first.sides.after with
  | some side =>
    have hgroup : (ofAliases (first :: rest)).sides.after = some side := by
      rw [after_ofAliases, List.findSome?_cons_of_isSome (by simp [hafter]), hafter]
    simp [Sides.newer?, hgroup, hafter]
  | none =>
    -- the first member is a removal, and so the key says that all members are
    have hnone : ∀ member ∈ first :: rest, member.sides.after = none := by
      intro member hmember
      have hsame : member.sides.after.isSome = first.sides.after.isSome := by
        rw [← isAfter_of_aliasKey (hkey member hmember), isAfter_of_aliasKey hfirst]
      rw [hafter, Option.isSome_none] at hsame
      exact Option.isNone_iff_eq_none.1 (Option.isSome_eq_false_iff.1 hsame)
    have hgroup : (ofAliases (first :: rest)).sides.after = none :=
      List.findSome?_eq_none_iff.2 hnone
    have hnewer := isSome_newer?_of_aliasKey hfirst
    rw [Sides.newer?, hafter, Option.none_or] at hnewer
    obtain ⟨side, hbefore⟩ := Option.isSome_iff_exists.1 hnewer
    have hgroup' : (ofAliases (first :: rest)).sides.before = some side := by
      rw [before_ofAliases, List.findSome?_cons_of_isSome (by simp [hbefore]), hbefore]
    simp [Sides.newer?, hgroup, hgroup', hafter, hbefore]

/-- An alias group has the key of its members. -/
theorem aliasKey_ofAliases (hne : members ≠ [])
    (hkey : ∀ member ∈ members, member.aliasKey = some key) :
    (ofAliases members).aliasKey = some key := by
  obtain ⟨first, hfirst, hnewer, hafter⟩ := newer?_ofAliases hne hkey
  rw [aliasKey_congr hnewer hafter, hkey first hfirst]

/-- A delta with a key has a side. -/
theorem hasSide_of_aliasKey {delta : Delta} (h : delta.aliasKey = some key) :
    delta.sides.before.isSome ∨ delta.sides.after.isSome := by
  have hnewer := isSome_newer?_of_aliasKey h
  rw [Sides.newer?, Option.isSome_or, Bool.or_eq_true] at hnewer
  exact hnewer.symm

theorem isFlat_ofAliases (hlength : 2 ≤ members.length)
    (hplain : ∀ member ∈ members, member.IsPlain)
    (hkey : ∀ member ∈ members, member.aliasKey = some key) : (ofAliases members).IsFlat := by
  have hne : members ≠ [] := by
    rintro rfl
    cases hlength
  have hgroup := aliasKey_ofAliases hne hkey
  refine ⟨hasSide_of_aliasKey hgroup, ?_⟩
  rintro _ _ ⟨rfl, rfl⟩
  exact ⟨hlength, key, hgroup, fun member hmember => ⟨hplain member hmember, hkey member hmember⟩⟩

end Delta

namespace Deltas

/-! ## Keys of a grouping -/

/-- The alias keys of some deltas, in order. -/
def aliasKeys (deltas : Deltas) : List AliasKey :=
  deltas.filterMap Delta.aliasKey

theorem aliasKey_merge? {line : Deltas} {key : AliasKey} (hne : line ≠ [])
    (hkey : ∀ delta ∈ line, delta.aliasKey = some key) :
    (merge? line).bind Delta.aliasKey = some key := by
  match line with
  | [only] => exact hkey only List.mem_cons_self
  | first :: second :: rest => exact Delta.aliasKey_ofAliases hne hkey

/-- A grouping has the keys of the deltas, each once. -/
theorem aliasKeys_groupAliases (deltas : Deltas) :
    deltas.groupAliases.aliasKeys = leadKeys Delta.aliasKey deltas := by
  rw [aliasKeys, groupAliases_eq, List.filterMap_filterMap, leadKeys]
  apply List.filterMap_congr
  rintro ⟨delta, rank⟩ hmember
  cases hk : delta.aliasKey with
  | none => simp [placed?, hk]
  | some key =>
    by_cases hrank : rank = 0
    · -- the delta itself waits in the line of its key
      have hline : linesOf Delta.aliasKey deltas key ≠ [] := by
        rw [mem_ranked_iff, hk] at hmember
        rintro hnil
        rw [linesOf] at hnil
        simp [hnil] at hmember
      simpa [placed?, hk, hrank] using
        aliasKey_merge? hline fun member hmember => (mem_withKey.1 hmember).2
    · simp [placed?, hk, hrank]

/-- Where no two deltas share a key, a delta is the only one with its key. -/
theorem eq_of_mem_ranked (deltas : Deltas) (hnodup : deltas.aliasKeys.Nodup) {delta : Delta}
    {rank : Nat} {key : AliasKey} (hmember : (delta, rank) ∈ ranked Delta.aliasKey deltas)
    (hk : delta.aliasKey = some key) : rank = 0 ∧ linesOf Delta.aliasKey deltas key = [delta] := by
  rw [mem_ranked_iff, hk] at hmember
  rw [linesOf]
  -- all keys of the line are the same and all different
  have hkeys : aliasKeys (withKey Delta.aliasKey (some key) deltas) =
      List.replicate (withKey Delta.aliasKey (some key) deltas).length key := by
    have hmap : aliasKeys (withKey Delta.aliasKey (some key) deltas) =
        (withKey Delta.aliasKey (some key) deltas).map fun _ => key := by
      rw [aliasKeys, ← List.filterMap_eq_map]
      exact List.filterMap_congr fun other hother => (mem_withKey.1 hother).2
    rw [hmap, List.map_const']
  have hsublist : (aliasKeys (withKey Delta.aliasKey (some key) deltas)).Sublist deltas.aliasKeys :=
    List.filter_sublist.filterMap _
  have hle := List.nodup_replicate.1 (hkeys ▸ hnodup.sublist hsublist)
  rcases hline : withKey Delta.aliasKey (some key) deltas with _ | ⟨first, _ | ⟨second, rest⟩⟩
  · simp [hline] at hmember
  · rw [hline, List.getElem?_singleton] at hmember
    split at hmember
    · cases hmember
      exact ⟨‹_›, rfl⟩
    · cases hmember
  · simp [hline] at hle

/-- Where no two deltas share a key, nothing is put together. -/
theorem groupAliases_eq_self {deltas : Deltas} (hnodup : deltas.aliasKeys.Nodup) :
    deltas.groupAliases = deltas := by
  rw [groupAliases_eq]
  conv_rhs => rw [← map_fst_ranked Delta.aliasKey deltas, ← List.filterMap_eq_map]
  apply List.filterMap_congr
  rintro ⟨delta, rank⟩ hmember
  cases hk : delta.aliasKey with
  | none => simp [placed?, hk]
  | some key =>
    obtain ⟨hrank, hline⟩ := deltas.eq_of_mem_ranked hnodup hmember hk
    simp [placed?, hk, hrank, hline, merge?]

/-- Each delta of a grouping was there before, or is made of two or more that share a key. -/
theorem mem_groupAliases {deltas : Deltas} {delta : Delta} (h : delta ∈ deltas.groupAliases) :
    delta ∈ deltas ∨ ∃ block key, delta = .ofAliases block ∧ 2 ≤ block.length ∧ block ⊆ deltas ∧
      ∀ member ∈ block, member.aliasKey = some key := by
  rw [groupAliases_eq_blocks] at h
  obtain ⟨block, hblock, hmerge⟩ := List.mem_filterMap.1 h
  have hsubset : block ⊆ deltas := (sublist_of_mem_blocks hblock).subset
  -- a block of one is the delta itself
  match block with
  | [] => cases hmerge
  | [_] =>
    cases hmerge
    exact .inl (hsubset List.mem_cons_self)
  | first :: second :: rest =>
    cases hmerge
    obtain ⟨_, _, _, heq⟩ | ⟨key, heq, -⟩ := mem_blocks_iff.1 hblock
    · cases heq
    · refine .inr ⟨_, key, rfl, by simp, hsubset, fun member hmember => ?_⟩
      rw [heq] at hmember
      exact (mem_withKey.1 hmember).2

/-- Grouping plain deltas makes alias groups of plain deltas. -/
theorem isFlat_groupAliases {deltas : Deltas} (hplain : ∀ delta ∈ deltas, delta.IsPlain) :
    ∀ delta ∈ deltas.groupAliases, delta.IsFlat := by
  intro delta hdelta
  obtain hdelta | ⟨block, key, rfl, hlength, hsubset, hkey⟩ := mem_groupAliases hdelta
  · exact (hplain delta hdelta).isFlat
  · exact Delta.isFlat_ofAliases hlength
      (fun member hmember => hplain member (hsubset hmember)) hkey

/-- Filtering by status succeeds exactly if each delta has a status. -/
theorem withStatus_eq_ok {deltas kept : Deltas} {status : Status} :
    deltas.withStatus status = .ok kept ↔
      (∀ delta ∈ deltas, ∃ own, delta.status = .ok own) ∧
        kept = deltas.filter fun delta => delta.status = .ok status := by
  rw [withStatus, Except.filterM_eq_ok]
  refine and_congr (forall₂_congr fun delta _ => ?_) (Eq.congr_right ?_)
  · simp only [Except.bind_eq_ok, Except.pure_eq_ok]
    exact ⟨fun ⟨_, own, hown, _⟩ => ⟨own, hown⟩, fun ⟨own, hown⟩ => ⟨_, own, hown, rfl⟩⟩
  · apply List.filter_congr
    intro delta _
    cases delta.status with
    | error overflow => rfl
    | ok own => simp [Except.toOption, pure, Except.pure, bind, Except.bind]

/-- Filtering by status leaves deltas out. -/
theorem withStatus_sublist {deltas kept : Deltas} {status : Status}
    (h : deltas.withStatus status = .ok kept) : kept.Sublist deltas := by
  obtain ⟨-, rfl⟩ := withStatus_eq_ok.1 h
  exact List.filter_sublist

/-! ## Runs of operations -/

/-- What can be done with the deltas of a diff. -/
inductive Operation where
  /-- Sort them. -/
  | sort
  /-- Put aliases together. -/
  | group
  /-- Keep those with a status. -/
  | keep (status : Status)
  deriving DecidableEq, Repr

/-- What one operation leads to. -/
def apply (deltas : Deltas) : Operation → Except Number.Overflow Deltas
  | .sort => deltas.sort
  | .group => .ok deltas.groupAliases
  | .keep status => deltas.withStatus status

/-- What some operations lead to, one after the other. -/
def run (deltas : Deltas) (operations : List Operation) : Except Number.Overflow Deltas :=
  operations.foldlM apply deltas

/-- No delta is nested, and no alias group shares its key with another delta. -/
structure IsFlat (deltas : Deltas) : Prop where
  /-- Each delta is flat. -/
  delta : ∀ delta ∈ deltas, delta.IsFlat
  /-- There are no alias groups yet, or else all aliases have been put together. -/
  grouped : (∀ delta ∈ deltas, delta.IsPlain) ∨ deltas.aliasKeys.Nodup

variable {deltas result : Deltas} {operation : Operation} {operations : List Operation}

/-- Keys that are all different stay so. -/
theorem nodup_aliasKeys_apply (hnodup : deltas.aliasKeys.Nodup)
    (h : deltas.apply operation = .ok result) : result.aliasKeys.Nodup := by
  cases operation with
  | sort => exact ((sort_perm h).filterMap _).nodup_iff.2 hnodup
  | group =>
    cases h
    rwa [groupAliases_eq_self hnodup]
  | keep status => exact hnodup.sublist ((withStatus_sublist h).filterMap _)

theorem nodup_aliasKeys_groupAliases (deltas : Deltas) : deltas.groupAliases.aliasKeys.Nodup := by
  rw [aliasKeys_groupAliases]
  exact nodup_leadKeys _ _

/-- Each operation keeps deltas flat. -/
theorem IsFlat.apply (hflat : deltas.IsFlat) (h : deltas.apply operation = .ok result) :
    result.IsFlat := by
  -- sorting and filtering lead to deltas of the list only
  have hsubset (hsub : result ⊆ deltas) (hkeys : deltas.aliasKeys.Nodup → result.aliasKeys.Nodup) :
      result.IsFlat :=
    ⟨fun delta hdelta => hflat.delta delta (hsub hdelta),
      hflat.grouped.imp (fun hplain delta hdelta => hplain delta (hsub hdelta)) hkeys⟩
  cases operation with
  | sort => exact hsubset (sort_perm h).subset fun hnodup => nodup_aliasKeys_apply hnodup h
  | group =>
    cases h
    refine ⟨?_, .inr (nodup_aliasKeys_groupAliases deltas)⟩
    obtain hplain | hnodup := hflat.grouped
    · exact isFlat_groupAliases hplain
    · rw [groupAliases_eq_self hnodup]
      exact hflat.delta
  | keep status =>
    exact hsubset (withStatus_sublist h).subset fun hnodup => nodup_aliasKeys_apply hnodup h

theorem run_cons (deltas : Deltas) (operation : Operation) (operations : List Operation) :
    deltas.run (operation :: operations) =
      deltas.apply operation >>= fun next => next.run operations :=
  List.foldlM_cons

/-- What every operation keeps, runs keep. -/
theorem run_keeps {P : Deltas → Prop}
    (hstep : ∀ {deltas operation result}, P deltas → apply deltas operation = .ok result → P result)
    (hstart : P deltas) (h : deltas.run operations = .ok result) : P result := by
  induction operations generalizing deltas with
  | nil =>
    cases h
    exact hstart
  | cons operation operations ih =>
    rw [run_cons] at h
    obtain ⟨next, hnext, h⟩ := Except.bind_eq_ok.1 h
    exact ih (hstep hstart hnext) h

theorem IsFlat.run (hflat : deltas.IsFlat) (h : deltas.run operations = .ok result) :
    result.IsFlat :=
  run_keeps IsFlat.apply hflat h

/-- Once aliases were put together, no two deltas share a key. -/
theorem nodup_aliasKeys_of_group (hgroup : .group ∈ operations)
    (h : deltas.run operations = .ok result) : result.aliasKeys.Nodup := by
  -- the keys are all different from the first grouping on
  induction operations generalizing deltas with
  | nil => cases hgroup
  | cons operation operations ih =>
    rw [run_cons] at h
    obtain ⟨next, hnext, h⟩ := Except.bind_eq_ok.1 h
    obtain rfl | hgroup := List.mem_cons.1 hgroup
    · cases hnext
      exact run_keeps nodup_aliasKeys_apply (nodup_aliasKeys_groupAliases deltas) h
    · exact ih hgroup h

/-- Whatever is done with plain deltas, each delta has a side, and an alias group has at least two
members, which are plain and have its own alias key. Putting aliases together once more, after
whatever was done since, changes nothing. -/
theorem run_stays_flat {deltas : Deltas} (hplain : ∀ delta ∈ deltas, delta.IsPlain)
    {operations : List Operation} {result : Deltas} (h : deltas.run operations = .ok result) :
    (∀ delta ∈ result, delta.IsFlat) ∧
      (.group ∈ operations → result.groupAliases = result) := by
  have hflat : deltas.IsFlat := ⟨fun delta hdelta => (hplain delta hdelta).isFlat, .inl hplain⟩
  exact ⟨(hflat.run h).delta,
    fun hgroup => groupAliases_eq_self (nodup_aliasKeys_of_group hgroup h)⟩

/-- Two new aliases make one group, and it stays the same when removals are filtered out and aliases
are put together again. -/
theorem run_stays_flat_of_aliases :
    let shared : Symbol :=
      { containerName := "lib", sectionName := ".text", size := 8, numAliases := 2
        fullName := "main", sourcePath := "a.h" }
    let first := Delta.added ⟨some 0, shared⟩
    let second := Delta.added ⟨some 1, { shared with sourcePath := "b.h" }⟩
    let other := Delta.removed ⟨some 0, { shared with numAliases := 1, fullName := "other" }⟩
    let deltas : Deltas := [first, other, second]
    let operations : List Operation := [.group, .keep .added, .sort, .group]
    let result : Deltas := [.ofAliases [first, second]]
    (∀ delta ∈ deltas, delta.IsPlain) ∧ deltas.run operations = .ok result ∧
      .group ∈ operations ∧ (∀ delta ∈ result, delta.IsFlat) ∧ result.groupAliases = result := by
  intro shared first second other deltas operations result
  have hplain : ∀ delta ∈ deltas, delta.IsPlain := by
    intro delta hdelta
    simp only [deltas, List.mem_cons, List.not_mem_nil, or_false] at hdelta
    obtain rfl | rfl | rfl := hdelta
    · exact ⟨_, rfl⟩
    · exact ⟨_, rfl⟩
    · exact ⟨_, rfl⟩
  have hshared : first.aliasKey = some ⟨"lib", ".text", "main", 0, 2, true⟩ ∧
      second.aliasKey = first.aliasKey ∧ other.aliasKey = none := by decide
  -- the group takes the place of its first member
  have hgroup : deltas.groupAliases = [.ofAliases [first, second], other] := by
    simp [groupAliases_eq, deltas, ranked_cons, placed?, linesOf, withKey_cons, hshared, merge?]
  have hstatus : (Delta.ofAliases [first, second]).status = .ok .added ∧
      other.status = .ok .removed := by decide
  have hkeep : withStatus .added [.ofAliases [first, second], other] = .ok result := by
    simp [withStatus_eq_ok, hstatus, result]
  have hagain : result.groupAliases = result := groupAliases_eq_self (by decide)
  have hrun : deltas.run operations = .ok result := by
    simp only [operations, run_cons, Except.bind_eq_ok]
    exact ⟨_, congrArg _ hgroup, _, hkeep, _, rfl, _, congrArg _ hagain, rfl⟩
  have hmem : .group ∈ operations := by decide
  obtain ⟨hflat, hgrouped⟩ := run_stays_flat hplain hrun
  exact ⟨hplain, hrun, hmem, hflat, hgrouped hmem⟩

end Deltas

end BuildScope
