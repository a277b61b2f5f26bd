import BuildScope.Proofs.Deltas.Flatness
import BuildScope.Proofs.Deltas.Range

/-!
# The Status of Alias Groups

An alias group is added or removed as a whole only. Its aliases are all of the new build, or else
they are all removals, so that a group with an addition and without removals may still have an old
side, from another member. Then the sizes decide whether it has changed.

* `Delta.allHaveStatus_split`: asking for a status stops at the first member with another one.
* `Delta.FollowsMembers`: how the sides, the size and the status of a group come from its members.
* `Deltas.followsMembers_groupAliases`: the groups of plain deltas follow their members.
-/

namespace BuildScope

/-- Bytes besides the padding are counted for either side, if they can be. -/
theorem Sides.sizeWithoutPadding_eq_ok_iff {sides : Sides} {n : Int64} :
    sides.sizeWithoutPadding = .ok n ↔
      (∀ side, side ∈ sides.before ∨ side ∈ sides.after → side.symbol.Fits) ∧
        n.toInt = sides.difference Symbol.bare := by
  constructor
  · intro h
    have hn := toInt_of_change_eq_ok (fun _ _ => Symbol.sizeWithoutPadding_eq_ok_iff.1) h
    refine ⟨?_, hn⟩
    obtain ⟨before, after⟩ := sides
    obtain ⟨old, hold, h⟩ := Except.bind_eq_ok.1 h
    obtain ⟨new, hnew, -⟩ := Except.bind_eq_ok.1 h
    rintro side (rfl | rfl)
    · exact Symbol.fits_of_eq_ok hold
    · exact Symbol.fits_of_eq_ok hnew
  · rintro ⟨hfits, hn⟩
    -- the difference fits, and what is computed of it is the given number
    obtain ⟨m, hm⟩ := exists_change
      (fun side hside => Symbol.exists_sizeWithoutPadding (hfits side hside))
      (hn ▸ Number.fitsInt64_toInt n)
    have hm' := toInt_of_change_eq_ok (fun _ _ => Symbol.sizeWithoutPadding_eq_ok_iff.1) hm
    rw [Int64.toInt_inj.1 (hn.trans hm'.symm)]
    exact hm

namespace Delta

variable {delta member : Delta} {members front back : List Delta} {status wanted : Status}

/-! ## Plain deltas -/

theorem IsPlain.status_of_added (hplain : delta.IsPlain) (h : delta.sides.before = none) :
    delta.status = .ok .added := by
  obtain ⟨change, rfl⟩ := hplain
  cases change with
  | matched before after => cases h
  | added after => rfl
  | removed before => cases h

theorem IsPlain.eq_removed (hplain : delta.IsPlain) (h : delta.sides.after = none) :
    ∃ side, delta = .removed side := by
  obtain ⟨change, rfl⟩ := hplain
  cases change with
  | matched before after => cases h
  | added after => cases h
  | removed before => exact ⟨before, rfl⟩

theorem IsPlain.status_of_matched (hplain : delta.IsPlain) (hbefore : delta.sides.before.isSome)
    (hafter : delta.sides.after.isSome) : delta.status = delta.statusOfBoth := by
  obtain ⟨change, rfl⟩ := hplain
  cases change with
  | matched before after => rfl
  | added after => cases hbefore
  | removed before => cases hafter

/-- The size or the proportional size of a delta has changed. -/
def Moves (delta : Delta) : Prop :=
  (∃ n, delta.size = .ok n ∧ n ≠ 0) ∨ ∃ x, delta.pss = .ok x ∧ threshold < x.abs

/-- A symbol that is in both builds has changed if one of its sizes has. -/
theorem moves_iff_of_statusOfBoth (h : delta.statusOfBoth = .ok status) :
    status = .changed ∧ delta.Moves ∨ status = .unchanged ∧ ¬delta.Moves := by
  obtain ⟨n, hn, h⟩ := Except.bind_eq_ok.1 h
  split at h
  next hne =>
    exact .inl ⟨(Except.pure_eq_ok.1 h).symm, .inl ⟨n, hn, hne⟩⟩
  next hzero =>
    obtain ⟨x, hx, h⟩ := Except.bind_eq_ok.1 h
    obtain rfl := Except.pure_eq_ok.1 h
    split
    next hlt => exact .inl ⟨rfl, .inr ⟨x, hx, hlt⟩⟩
    next hle =>
      refine .inr ⟨rfl, ?_⟩
      rintro (⟨m, hm, hne⟩ | ⟨y, hy, hlt⟩)
      · -- only one change of size is computed, and it is zero
        cases hn.symm.trans hm
        exact hzero hne
      · cases hx.symm.trans hy
        exact hle hlt

theorem statusOfBoth_ne (h : wanted ≠ .changed) (h' : wanted ≠ .unchanged) :
    delta.statusOfBoth ≠ .ok wanted := by
  intro hboth
  obtain ⟨heq, -⟩ | ⟨heq, -⟩ := moves_iff_of_statusOfBoth hboth
  · exact h heq
  · exact h' heq

/-! ## Asking all members -/

/-- Members that have the status leave it to the others. -/
theorem allHaveStatus_append (hfront : ∀ member ∈ front, member.status = .ok wanted)
    (back : List Delta) : allHaveStatus wanted (front ++ back) = allHaveStatus wanted back := by
  induction front with
  | nil => rfl
  | cons first front ih =>
    have hfirst : first.status = .ok wanted := hfront first List.mem_cons_self
    rw [← ih fun other hother => hfront other (List.mem_cons_of_mem first hother)]
    change (first.status >>= fun own =>
      if own = wanted then allHaveStatus wanted (front ++ back) else .ok false) = _
    rw [hfirst]
    exact if_pos rfl

theorem allHaveStatus_of_forall (h : ∀ member ∈ members, member.status = .ok wanted) :
    allHaveStatus wanted members = .ok true := by
  rw [← List.append_nil members, allHaveStatus_append h]
  rfl

/-- A member that does not have the status settles that not all do. -/
theorem allHaveStatus_cons_of_ne (h : member.status ≠ .ok wanted) (back : List Delta) :
    allHaveStatus wanted (member :: back) = member.status.map fun _ => false := by
  change (member.status >>= fun own =>
    if own = wanted then allHaveStatus wanted back else .ok false) = _
  cases hstatus : member.status with
  | error overflow => rfl
  | ok own =>
    have hne : own ≠ wanted := by
      rintro rfl
      exact h hstatus
    exact if_neg hne

/-! ## Groups -/

theorem status_ofAliases_of_added (hplain : ∀ member ∈ members, member.IsPlain)
    (hbefore : ∀ member ∈ members, member.sides.before = none) :
    (ofAliases members).status = .ok .added := by
  have hadded : allHaveStatus .added members = .ok true :=
    allHaveStatus_of_forall fun member hmember =>
      (hplain member hmember).status_of_added (hbefore member hmember)
  exact Except.bind_eq_ok.2 ⟨true, hadded, rfl⟩

theorem status_ofAliases_of_removed (hne : members ≠ [])
    (hremoved : ∀ member ∈ members, ∃ side, member = removed side) :
    (ofAliases members).status = .ok .removed := by
  have hstatus : ∀ member ∈ members, member.status = .ok .removed := by
    intro member hmember
    obtain ⟨side, rfl⟩ := hremoved member hmember
    rfl
  obtain ⟨first, rest, rfl⟩ := List.exists_cons_of_ne_nil hne
  have hfirst : first.status = .ok .removed := hstatus first List.mem_cons_self
  have hadded : allHaveStatus .added (first :: rest) = .ok false := by
    rw [allHaveStatus_cons_of_ne (by simp [hfirst]), hfirst]
    rfl
  exact Except.bind_eq_ok.2 ⟨false, hadded,
    Except.bind_eq_ok.2 ⟨true, allHaveStatus_of_forall hstatus, rfl⟩⟩

/-- Where both sides are there, the sizes decide. -/
theorem statusOfSides_eq_statusOfBoth (hbefore : delta.sides.before.isSome)
    (hafter : delta.sides.after.isSome) : delta.statusOfSides = delta.statusOfBoth := by
  obtain ⟨before, hbefore⟩ := Option.isSome_iff_exists.1 hbefore
  obtain ⟨after, hafter⟩ := Option.isSome_iff_exists.1 hafter
  rw [statusOfSides, hbefore, hafter]

/-- Among aliases of the new build, some of which are also in the old one, the sizes of the group
decide. The status of the first that is in both is computed on the way. -/
theorem status_ofAliases_of_matched (hplain : ∀ member ∈ members, member.IsPlain)
    (hafter : ∀ member ∈ members, member.sides.after.isSome)
    (hsplit : members = front ++ member :: back)
    (hfront : ∀ other ∈ front, other.sides.before = none)
    (hbefore : member.sides.before.isSome) :
    (ofAliases members).status = member.status >>= fun _ => (ofAliases members).statusOfBoth := by
  have hmem : member ∈ members := hsplit ▸ List.mem_append_right _ List.mem_cons_self
  have hsub : front ⊆ members := hsplit ▸ List.subset_append_left _ _
  -- its own status is neither of the two that the members are asked for
  have hne {wanted : Status} (h : wanted ≠ .changed) (h' : wanted ≠ .unchanged) :
      member.status ≠ .ok wanted := by
    rw [(hplain member hmem).status_of_matched hbefore (hafter member hmem)]
    exact statusOfBoth_ne h h'
  have hfront' : ∀ other ∈ front, other.status = .ok .added := fun other hother =>
    (hplain other (hsub hother)).status_of_added (hfront other hother)
  have hadded : allHaveStatus .added members = member.status.map fun _ => false := by
    rw [hsplit, allHaveStatus_append hfront', allHaveStatus_cons_of_ne]
    exact hne (by decide) (by decide)
  have hsides : (ofAliases members).statusOfSides = (ofAliases members).statusOfBoth := by
    refine statusOfSides_eq_statusOfBoth ?_ ?_
    · exact List.findSome?_isSome_iff.2 ⟨member, hmem, hbefore⟩
    · exact List.findSome?_isSome_iff.2 ⟨member, hmem, hafter member hmem⟩
  change (allHaveStatus .added members >>= fun added => if added then _ else _) = _
  rw [hadded]
  cases hstatus : member.status with
  | error overflow => rfl
  | ok own =>
    have hremoved : allHaveStatus .removed members = .ok false := by
      rw [hsplit]
      cases front with
      | nil =>
        rw [List.nil_append, allHaveStatus_cons_of_ne (hne (by decide) (by decide)), hstatus]
        rfl
      | cons first front =>
        have hfirst := hfront' first List.mem_cons_self
        rw [List.cons_append, allHaveStatus_cons_of_ne (by simp [hfirst]), hfirst]
        rfl
    change (allHaveStatus .removed members >>= fun removed => if removed then _ else _) = _
    rw [hremoved]
    exact hsides

/-- A side of a group is that of the first of its members that have one. -/
def IsFirstSide (sideOf : Sides → Option Side) (members : List Delta) : Option Side → Prop
  | none => ∀ member ∈ members, sideOf member.sides = none
  | some side => ∃ front member back, members = front ++ member :: back ∧
      (∀ other ∈ front, sideOf other.sides = none) ∧ sideOf member.sides = some side

theorem isFirstSide_findSome? (sideOf : Sides → Option Side) (members : List Delta) :
    IsFirstSide sideOf members (members.findSome? fun member => sideOf member.sides) := by
  cases hfirst : members.findSome? fun member => sideOf member.sides with
  | none => exact List.findSome?_eq_none_iff.1 hfirst
  | some side =>
    obtain ⟨front, member, back, hsplit, hmember, hfront⟩ := List.findSome?_eq_some_iff.1 hfirst
    exact ⟨front, member, back, hsplit, hfront, hmember⟩

/-- The sides, the size and the status of an alias group come from its members. -/
structure FollowsMembers (group : Delta) : Prop where
  /-- The members are all of the new build, or all of them are removals. -/
  alike : (∀ member ∈ group.members, member.sides.after.isSome) ∨
    ∀ member ∈ group.members, ∃ side, member = removed side
  /-- The old side is that of the first member with one. -/
  before_isFirst : IsFirstSide Sides.before group.members group.sides.before
  /-- The new side is that of the first member with one. -/
  after_isFirst : IsFirstSide Sides.after group.members group.sides.after
  /-- However many members there are, the bytes of either side count once. -/
  sizeWithoutPadding_iff : ∀ n, group.sizeWithoutPadding = .ok n ↔
    (∀ side, side ∈ group.sides.before ∨ side ∈ group.sides.after → side.symbol.Fits) ∧
      n.toInt = group.sides.difference Symbol.bare
  /-- The group is added if no member has an old side. -/
  added_iff : group.status = .ok .added ↔ ∀ member ∈ group.members, member.sides.before = none
  /-- The group is removed if no member has a new side. -/
  removed_iff : group.status = .ok .removed ↔ ∀ member ∈ group.members, member.sides.after = none
  /-- In all other cases both sides are there, and the group has changed if its size or its
  proportional size has. It has a status if those and the statuses of its members are known. -/
  otherwise : (∃ member ∈ group.members, member.sides.before.isSome) →
    (∃ member ∈ group.members, member.sides.after.isSome) →
      group.sides.before.isSome ∧ group.sides.after.isSome ∧
      (∀ status, group.status = .ok status →
        status = .changed ∧ group.Moves ∨ status = .unchanged ∧ ¬group.Moves) ∧
      ((∀ member ∈ group.members, ∃ status, member.status = .ok status) →
        (∃ n, group.size = .ok n) → (∃ x, group.pss = .ok x) →
          ∃ status, group.status = .ok status)
  /-- All of this is known if the padding of each symbol is a part of its size. -/
  isComputed : (∀ member ∈ group.members, ∀ side,
    side ∈ member.sides.before ∨ side ∈ member.sides.after → side.symbol.IsPadded) →
      group.IsComputed

/-- A group is added, or it is removed, or its sizes decide, once it is known that those of one of
its members do. -/
theorem status_ofAliases_cases (hne : members ≠ []) (hplain : ∀ member ∈ members, member.IsPlain)
    (halike : (∀ member ∈ members, member.sides.after.isSome) ∨
      ∀ member ∈ members, ∃ side, member = removed side) :
    ((∀ member ∈ members, member.sides.before = none) ∧
        (ofAliases members).status = .ok .added) ∨
      ((∀ member ∈ members, member.sides.after = none) ∧
        (ofAliases members).status = .ok .removed) ∨
      ((∀ member ∈ members, member.sides.after.isSome) ∧ ∃ member ∈ members,
        (ofAliases members).status =
          member.status >>= fun _ => (ofAliases members).statusOfBoth) := by
  obtain hafter | hremoved := halike
  · cases hold : members.findSome? fun member => member.sides.before with
    | none =>
      have hbefore := List.findSome?_eq_none_iff.1 hold
      exact .inl ⟨hbefore, status_ofAliases_of_added hplain hbefore⟩
    | some side =>
      -- the first member with an old side is the one whose status is computed
      obtain ⟨front, member, back, hsplit, hmember, hfront⟩ := List.findSome?_eq_some_iff.1 hold
      exact .inr (.inr ⟨hafter, member, hsplit ▸ List.mem_append_right _ List.mem_cons_self,
        status_ofAliases_of_matched hplain hafter hsplit hfront
          (Option.isSome_of_eq_some hmember)⟩)
  · refine .inr (.inl ⟨fun member hmember => ?_, status_ofAliases_of_removed hne hremoved⟩)
    obtain ⟨side, rfl⟩ := hremoved member hmember
    rfl

theorem followsMembers_ofAliases (hne : members ≠ [])
    (hplain : ∀ member ∈ members, member.IsPlain)
    (halike : (∀ member ∈ members, member.sides.after.isSome) ∨
      ∀ member ∈ members, ∃ side, member = removed side) : (ofAliases members).FollowsMembers := by
  have hcases := status_ofAliases_cases hne hplain halike
  refine
    { alike := halike
      before_isFirst := isFirstSide_findSome? Sides.before members
      after_isFirst := isFirstSide_findSome? Sides.after members
      sizeWithoutPadding_iff := fun _ => Sides.sizeWithoutPadding_eq_ok_iff
      added_iff := ⟨fun hstatus => ?_, status_ofAliases_of_added hplain⟩
      removed_iff := ⟨fun hstatus => ?_, fun hafter => ?_⟩
      otherwise := fun hold hnew => ?_
      isComputed := fun hpadded => ?_ }
  · -- a group that has both sides is changed or unchanged
    obtain ⟨hbefore, -⟩ | ⟨-, heq⟩ | ⟨-, member, -, heq⟩ := hcases
    · exact hbefore
    · cases heq.symm.trans hstatus
    · obtain ⟨_, -, hboth⟩ := Except.bind_eq_ok.1 (heq.symm.trans hstatus)
      exact absurd hboth (statusOfBoth_ne (by decide) (by decide))
  · obtain ⟨-, heq⟩ | ⟨hafter, -⟩ | ⟨-, member, -, heq⟩ := hcases
    · cases heq.symm.trans hstatus
    · exact hafter
    · obtain ⟨_, -, hboth⟩ := Except.bind_eq_ok.1 (heq.symm.trans hstatus)
      exact absurd hboth (statusOfBoth_ne (by decide) (by decide))
  · exact status_ofAliases_of_removed hne fun member hmember =>
      (hplain member hmember).eq_removed (hafter member hmember)
  · have hold' : (ofAliases members).sides.before.isSome := List.findSome?_isSome_iff.2 hold
    have hnew' : (ofAliases members).sides.after.isSome := List.findSome?_isSome_iff.2 hnew
    obtain ⟨hbefore, -⟩ | ⟨hafter, -⟩ | ⟨-, member, hmember, heq⟩ := hcases
    · obtain ⟨member, hmember, hsome⟩ := hold
      rw [hbefore member hmember] at hsome
      cases hsome
    · obtain ⟨member, hmember, hsome⟩ := hnew
      rw [hafter member hmember] at hsome
      cases hsome
    · -- its sides decide, once the status of a member is computed
      refine ⟨hold', hnew', fun status hstatus => ?_, fun hmembers hsize hpss => ?_⟩
      · obtain ⟨_, -, hboth⟩ := Except.bind_eq_ok.1 (heq.symm.trans hstatus)
        exact moves_iff_of_statusOfBoth hboth
      · obtain ⟨own, hown⟩ := hmembers member hmember
        obtain ⟨status, hstatus⟩ := exists_statusOfSides hsize hpss
        rw [statusOfSides_eq_statusOfBoth hold' hnew'] at hstatus
        exact ⟨status, heq.trans (Except.bind_eq_ok.2 ⟨own, hown, hstatus⟩)⟩
  · -- the sides of the group are sides of its members
    have hside {sideOf : Sides → Option Side} {side : Side}
        (h : (members.findSome? fun member => sideOf member.sides) = some side) :
        ∃ member ∈ members, sideOf member.sides = some side :=
      List.exists_of_findSome?_eq_some h
    refine isComputed_aliasGroup (Sides.inRange_of_isPadded ?_) fun member hmember => ?_
    · rintro side (h | h)
      · obtain ⟨member, hmember, hside⟩ := hside h
        exact hpadded member hmember side (.inl hside)
      · obtain ⟨member, hmember, hside⟩ := hside h
        exact hpadded member hmember side (.inr hside)
    · obtain ⟨change, rfl⟩ := hplain member hmember
      exact isComputed_single (Sides.inRange_of_isPadded (hpadded _ hmember))

end Delta

/-- The alias groups of plain deltas have the sides, sizes and statuses that their members say. -/
theorem Deltas.followsMembers_groupAliases {deltas : Deltas}
    (hplain : ∀ delta ∈ deltas, delta.IsPlain) {sides : Sides} {members : List Delta}
    (hgroup : .aliasGroup sides members ∈ deltas.groupAliases) :
    (Delta.aliasGroup sides members).FollowsMembers := by
  obtain hmem | ⟨block, key, heq, hlength, hsubset, hkey⟩ := mem_groupAliases hgroup
  · obtain ⟨change, heq⟩ := hplain _ hmem
    cases heq
  · rw [heq]
    have hne : block ≠ [] := by
      rintro rfl
      cases hlength
    refine Delta.followsMembers_ofAliases hne (fun member hmember => hplain _ (hsubset hmember)) ?_
    have hafter (member : Delta) (hmember : member ∈ block) :
        member.sides.after.isSome = key.isAfter :=
      (Delta.isAfter_of_aliasKey (hkey member hmember)).symm
    cases hnew : key.isAfter with
    | true => exact .inl fun member hmember => (hafter member hmember).trans hnew
    | false =>
      refine .inr fun member hmember => (hplain _ (hsubset hmember)).eq_removed ?_
      rw [← Option.isNone_iff_eq_none, ← Option.not_isSome, hafter member hmember, hnew]
      rfl

/-- A symbol that gains an alias and bytes is put together with its addition, which comes first, and
is not taken for one. -/
theorem Deltas.followsMembers_groupAliases_of_mixed :
    let old : Symbol := { sectionName := ".text", size := 8, fullName := "main" }
    let new : Symbol := { old with size := 12, numAliases := 2 }
    let deltas : Deltas := [.added ⟨some 0, new⟩, .matched ⟨some 0, old⟩ ⟨some 1, new⟩]
    (∀ delta ∈ deltas, delta.IsPlain) ∧ .ofAliases deltas ∈ deltas.groupAliases ∧
      (Delta.ofAliases deltas).FollowsMembers ∧ (Delta.ofAliases deltas).status ≠ .ok .added := by
  intro old new deltas
  have hplain : ∀ delta ∈ deltas, delta.IsPlain := by
    intro delta hdelta
    simp only [deltas, List.mem_cons, List.not_mem_nil, or_false] at hdelta
    obtain rfl | rfl := hdelta
    · exact ⟨_, rfl⟩
    · exact ⟨_, rfl⟩
  have hgroup : .ofAliases deltas ∈ deltas.groupAliases := by
    have hkey : ∀ delta ∈ deltas,
        delta.aliasKey = some ⟨"", ".text", "main", 0, 2, true⟩ := by decide
    rw [groupAliases_eq_singleton (by decide) hkey]
    exact List.mem_cons_self
  have hfollows := followsMembers_groupAliases hplain hgroup
  refine ⟨hplain, hgroup, hfollows, fun hadded => ?_⟩
  -- the second member has an old side
  have hbefore := hfollows.added_iff.1 hadded (.matched ⟨some 0, old⟩ ⟨some 1, new⟩)
    (List.mem_cons_of_mem _ List.mem_cons_self)
  cases hbefore

end BuildScope
