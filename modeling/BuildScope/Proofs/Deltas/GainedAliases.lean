import BuildScope.Proofs.Deltas.GroupStatus
import BuildScope.Proofs.Deltas.Shares
import BuildScope.Proofs.Deltas.Standstill

/-!
# Symbols That Gain Aliases

The build brings more aliases of a symbol that is as large as it was. Its deltas are put together,
the bytes have not changed, and neither has what all aliases have of them together. In doubles,
though, it may have: each share is rounded, and so is each step of their sum. The status is that of
the sum.

No residue is forgiven where each alias has two bytes or more. Such a residue is a whole number of
units of the doubles from two on, and one of those is already more than the threshold.

* `Deltas.GainAliases`: the deltas of such a symbol.
* `Deltas.groupAliases_of_gainAliases`: their group, its sizes, and when it is unchanged.
-/

namespace BuildScope

/-- A symbol goes from `old` aliases to `new` ones, and nothing else happens to it. -/
structure Deltas.GainAliases (deltas : Deltas) (shared : Symbol) (old new : UInt32) : Prop where
  /-- The deltas are about aliases of the symbol. -/
  isGain : ∀ delta ∈ deltas, delta.IsGain shared old new
  /-- All aliases of the old build are matched. -/
  old_eq : deltas.befores.length = old.toNat
  /-- All aliases of the new build are there. -/
  new_eq : deltas.length = new.toNat
  /-- The old build has the symbol. -/
  old_pos : 1 ≤ old.toNat
  /-- The new build has it more than once. -/
  two_le_new : 2 ≤ new.toNat
  /-- The symbol is not overhead. -/
  isOverhead : shared.isOverhead = false
  /-- It has a size. -/
  size_nonneg : 0 ≤ shared.size.toInt

namespace Deltas.GainAliases

variable {deltas : Deltas} {shared : Symbol} {old new : UInt32}
  (h : deltas.GainAliases shared old new)
include h

theorem new_pos : 1 ≤ new.toNat := by
  have hnew := h.two_le_new
  omega

/-- No alias is lost. -/
theorem old_le_new : old.toNat ≤ new.toNat := by
  rw [← h.old_eq, ← h.new_eq]
  exact List.length_filterMap_le _ deltas

theorem isPadded : ∀ delta ∈ deltas, ∀ side,
    side ∈ delta.sides.before ∨ side ∈ delta.sides.after → side.symbol.IsPadded :=
  fun delta hdelta _ hside => (h.isGain delta hdelta).isPadded h.size_nonneg hside

/-! ## Sides -/

theorem exists_before : ∃ delta ∈ deltas, delta.sides.before.isSome := by
  obtain ⟨side, hside⟩ := List.exists_mem_of_length_pos (h.old_eq ▸ h.old_pos)
  obtain ⟨delta, hdelta, hbefore⟩ := List.mem_filterMap.1 hside
  exact ⟨delta, hdelta, Option.isSome_of_eq_some hbefore⟩

theorem exists_after : ∃ delta ∈ deltas, delta.sides.after.isSome := by
  obtain ⟨delta, hdelta⟩ := List.exists_mem_of_length_pos (h.new_eq ▸ h.new_pos)
  obtain ⟨after, -, hafter⟩ := (h.isGain delta hdelta).exists_after
  exact ⟨delta, hdelta, Option.isSome_of_eq_some hafter⟩

theorem followsMembers : (Delta.ofAliases deltas).FollowsMembers := by
  obtain ⟨first, hfirst, -⟩ := h.exists_after
  refine Delta.followsMembers_ofAliases (List.ne_nil_of_mem hfirst)
    (fun delta hdelta => (h.isGain delta hdelta).isPlain) (.inl fun delta hdelta => ?_)
  obtain ⟨after, -, hafter⟩ := (h.isGain delta hdelta).exists_after
  exact Option.isSome_of_eq_some hafter

/-- Both sides of the group are there, with all bytes of the symbol. -/
theorem exists_sides : ∃ before after : Side, (Delta.ofAliases deltas).sides = ⟨before, after⟩ ∧
    (∃ count, before.symbol.IsAliasOf shared count) ∧
      ∃ count, after.symbol.IsAliasOf shared count := by
  obtain ⟨before, hbefore⟩ :=
    Option.isSome_iff_exists.1 (List.findSome?_isSome_iff.2 h.exists_before)
  obtain ⟨after, hafter⟩ :=
    Option.isSome_iff_exists.1 (List.findSome?_isSome_iff.2 h.exists_after)
  refine ⟨before, after, ?_, ?_, ?_⟩
  · rw [Delta.ofAliases, hbefore, hafter]
    rfl
  · obtain ⟨delta, hdelta, hside⟩ := List.exists_of_findSome?_eq_some hbefore
    exact (h.isGain delta hdelta).isAliasOf (.inl hside)
  · obtain ⟨delta, hdelta, hside⟩ := List.exists_of_findSome?_eq_some hafter
    exact (h.isGain delta hdelta).isAliasOf (.inr hside)

/-! ## Sizes -/

theorem size_eq_zero : (Delta.ofAliases deltas).size = .ok 0 := by
  obtain ⟨n, hn⟩ := (h.followsMembers.isComputed h.isPadded).size
  obtain ⟨bare, hbare, hsum⟩ := Except.bind_eq_ok.1 hn
  obtain ⟨padding, hpadding, hsum⟩ := Except.bind_eq_ok.1 hsum
  obtain ⟨attributed, -, hpadding⟩ := Except.bind_eq_ok.1 hpadding
  obtain ⟨before, after, hsides, ⟨_, hbefore⟩, _, hafter⟩ := h.exists_sides
  have hbare' : bare.toInt = 0 := by
    rw [(Sides.sizeWithoutPadding_eq_ok_iff.1 hbare).2, hsides]
    simp [Sides.difference, Symbol.bare, hbefore.size, hbefore.padding, hafter.size,
      hafter.padding]
  -- there is no padding, whether or not the members answer for theirs
  have hpadding' : padding.toInt = 0 := by
    cases attributed with
    | false =>
      obtain rfl := Except.ok.inj hpadding
      rfl
    | true =>
      have hchange : (Delta.ofAliases deltas).sides.change (fun sym => .ok sym.padding) =
          .ok padding := hpadding
      have hdifference : padding.toInt = (Delta.ofAliases deltas).sides.difference fun sym =>
          sym.padding.toInt :=
        Sides.toInt_of_change_eq_ok (fun _ _ hn => by cases hn; rfl) hchange
      rw [hdifference, hsides]
      simp [Sides.difference, hbefore.padding, hafter.padding]
  have hzero : n = 0 := by
    rw [← Int64.toInt_inj, Number.Checked.add_eq_ok_iff.1 hsum, hbare', hpadding']
    rfl
  exact hzero ▸ hn

/-- All shares of the new build are the size, and so were those of the old build. -/
theorem sum_exactShareChange_eq_zero :
    (deltas.map fun delta => delta.sides.exactShareChange).sum = 0 := by
  have hold : (old.toNat : ℚ) ≠ 0 := Nat.cast_ne_zero.2 (Nat.ne_of_gt h.old_pos)
  have hnew : (new.toNat : ℚ) ≠ 0 := Nat.cast_ne_zero.2 (Nat.ne_of_gt h.new_pos)
  rw [sum_exactShareChange h.isGain h.old_pos h.new_pos, h.old_eq, h.new_eq,
    mul_div_cancel₀ _ hold, mul_div_cancel₀ _ hnew, sub_self]

/-- The shares add up to nothing if each of them is what it was. -/
theorem pss_eq_zero_of_eq (heq : old = new) : (Delta.ofAliases deltas).pss = .ok 0 := by
  -- then every delta has an old side
  have hall : deltas.befores.length = deltas.length := by
    rw [h.old_eq, h.new_eq, heq]
  refine Delta.sumPss_eq_zero fun delta hdelta => ?_
  have hbefore := List.filterMap_length_eq_length.1 hall delta hdelta
  have hgain := h.isGain delta hdelta
  obtain ⟨attributed, hattributed⟩ := (hgain.isComputed h.size_nonneg).attributesPadding
  cases hgain with
  | matched hold hnew =>
    obtain rfl := heq
    refine Except.bind_eq_ok.2 ⟨attributed, hattributed, congrArg Except.ok ?_⟩
    refine Sides.pss_eq_zero ?_ ?_ attributed
    · rw [Symbol.pss, Symbol.pss, hold.size, hnew.size, hold.share_eq hnew]
    · rw [Symbol.paddingPss, Symbol.paddingPss, hold.padding, hnew.padding, hold.share_eq hnew]
  | added hnew => cases hbefore

variable {residue : Float} (hresidue : (Delta.ofAliases deltas).pss = .ok residue)
include hresidue

/-- They do so too if they are exact, as neither those of the new build nor those of the old one are
ever more than the size. -/
theorem abs_pss_eq_zero_of_splits {places : Nat} (holdSplits : shared.Splits places old)
    (hnewSplits : shared.Splits places new) : residue.abs = 0 := by
  have hnew : deltas.length * shared.unitShare places new = shared.units places := by
    rw [h.new_eq, Symbol.unitShare, Nat.mul_div_cancel' hnewSplits.dvd]
  have hold : deltas.befores.length * shared.unitShare places old = shared.units places := by
    rw [h.old_eq, Symbol.unitShare, Nat.mul_div_cancel' holdSplits.dvd]
  have hunits := holdSplits.units_lt
  have hstart : Number.CountsUnits (-places) ((0 : Nat) - (0 : Nat)) 0 :=
    Number.countsUnits_zero (-places)
  have hcounts := Delta.countsUnits_sumPss h.isGain h.old_pos h.new_pos h.size_nonneg holdSplits
    hnewSplits hstart (by omega) (by omega) hresidue
  rw [hnew, hold, sub_self] at hcounts
  exact hcounts.abs_eq_zero

/-- Where each alias has two bytes or more, the sum exceeds the threshold unless it is zero. -/
theorem threshold_lt_abs_pss_iff (hsize : 2 * (new.toNat : Int) ≤ shared.size.toInt) :
    Delta.threshold < residue.abs ↔ residue.abs ≠ 0 := by
  have hle := h.old_le_new
  have hzero : Number.OnGrid (-51) 0 := .zero .positive
  -- the threshold is half a unit
  have hthreshold : Delta.threshold.toModel.unpack =
      .finite .positive 0x10000000000000 (-104) (by decide) := rfl
  have hgrid := Delta.onGrid_sumPss h.isGain h.old_pos h.new_pos (by omega) hsize hzero hresidue
  exact hgrid.lt_abs_iff hthreshold (by decide) (by decide)

/-! ## Status -/

/-- The group has changed if its proportional size has. -/
theorem status_eq : (Delta.ofAliases deltas).status =
    .ok (if Delta.threshold < residue.abs then .changed else .unchanged) := by
  obtain ⟨status, hstatus⟩ := (h.followsMembers.isComputed h.isPadded).status
  obtain ⟨-, -, hmoves, -⟩ := h.followsMembers.otherwise h.exists_before h.exists_after
  have hiff : (Delta.ofAliases deltas).Moves ↔ Delta.threshold < residue.abs := by
    constructor
    · rintro (⟨n, hn, hne⟩ | ⟨x, hx, hlt⟩)
      · exact absurd (Except.ok.inj (hn.symm.trans h.size_eq_zero)) hne
      · exact Except.ok.inj (hx.symm.trans hresidue) ▸ hlt
    · exact fun hlt => .inr ⟨residue, hresidue, hlt⟩
  rw [hstatus]
  obtain ⟨rfl, hmoves⟩ | ⟨rfl, hmoves⟩ := hmoves status hstatus
  · rw [if_pos (hiff.1 hmoves)]
  · rw [if_neg (mt hiff.2 hmoves)]

theorem status_eq_unchanged_iff :
    (Delta.ofAliases deltas).status = .ok .unchanged ↔ ¬Delta.threshold < residue.abs := by
  rw [h.status_eq hresidue]
  split
  next hlt => simp [hlt]
  next hle => simp [hle]

end Deltas.GainAliases

/-- The deltas of a symbol that gains aliases are put together. The group has no more bytes than the
symbol had, but it is unchanged only if the doubles of its shares add up to no more than the
threshold. They do if no alias is new or if all shares are exact; and where an alias has two bytes
or more, they have to add up to zero. -/
theorem Deltas.groupAliases_of_gainAliases {deltas : Deltas} {shared : Symbol} {old new : UInt32}
    (h : deltas.GainAliases shared old new) :
    deltas.groupAliases = [.ofAliases deltas] ∧ (Delta.ofAliases deltas).size = .ok 0 ∧
      (deltas.map fun delta => delta.sides.exactShareChange).sum = 0 ∧
      ∃ residue, (Delta.ofAliases deltas).pss = .ok residue ∧
        (Delta.ofAliases deltas).status =
          .ok (if Delta.threshold < residue.abs then .changed else .unchanged) ∧
        (old = new ∨ (∃ places, shared.Splits places old ∧ shared.Splits places new) →
          (Delta.ofAliases deltas).status = .ok .unchanged) ∧
        (2 * (new.toNat : Int) ≤ shared.size.toInt →
          ((Delta.ofAliases deltas).status = .ok .unchanged ↔ residue.abs = 0)) := by
  have hlength : 2 ≤ deltas.length := h.new_eq ▸ h.two_le_new
  -- the new sides are aliases of each other, so that all deltas have one key
  have hkey := fun delta hdelta => (h.isGain delta hdelta).aliasKey h.two_le_new h.isOverhead
  obtain ⟨residue, hresidue⟩ := (h.followsMembers.isComputed h.isPadded).pss
  refine ⟨groupAliases_eq_singleton hlength hkey, h.size_eq_zero, h.sum_exactShareChange_eq_zero,
    residue, hresidue, h.status_eq hresidue, fun hexact => ?_, fun hsize => ?_⟩
  · have hzero : residue.abs = 0 := by
      obtain heq | ⟨places, holdSplits, hnewSplits⟩ := hexact
      · obtain rfl := Except.ok.inj (hresidue.symm.trans (h.pss_eq_zero_of_eq heq))
        rfl
      · exact h.abs_pss_eq_zero_of_splits hresidue holdSplits hnewSplits
    have hthreshold : ¬Delta.threshold < (0 : Float) := by decide +kernel
    rwa [h.status_eq_unchanged_iff hresidue, hzero]
  · rw [h.status_eq_unchanged_iff hresidue, h.threshold_lt_abs_pss_iff hresidue hsize, not_not]

/-- A third of 100 bytes is not exact, and a symbol of that size which gains two aliases has
changed. -/
theorem Deltas.groupAliases_of_gainAliases_of_thirds :
    let old : Symbol :=
      { containerName := "lib", sectionName := ".text", address := 4096, size := 100,
        fullName := "main" }
    let new : Symbol := { old with numAliases := 3 }
    let deltas : Deltas := [.matched ⟨some 0, old⟩ ⟨some 0, new⟩, .added ⟨some 1, new⟩,
      .added ⟨some 2, new⟩]
    deltas.GainAliases old 1 3 ∧ deltas.groupAliases = [.ofAliases deltas] ∧
      (Delta.ofAliases deltas).size = .ok 0 ∧
      (deltas.map fun delta => delta.sides.exactShareChange).sum = 0 ∧
      (Delta.ofAliases deltas).status = .ok .changed := by
  intro old new deltas
  have hold : old.IsAliasOf old 1 := by constructor <;> rfl
  have hnew : new.IsAliasOf old 3 := by constructor <;> rfl
  have hgain : deltas.GainAliases old 1 3 := by
    refine ⟨?_, rfl, rfl, by decide, by decide, by decide, by decide⟩
    simp only [deltas, List.forall_mem_cons]
    exact ⟨.matched hold hnew, .added hnew, .added hnew, List.forall_mem_nil _⟩
  obtain ⟨hgroup, hsize, hshares, -⟩ := groupAliases_of_gainAliases hgain
  exact ⟨hgain, hgroup, hsize, hshares, by decide +kernel⟩

end BuildScope
