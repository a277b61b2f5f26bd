import BuildScope.Proofs.Deltas.Flatness
import BuildScope.Proofs.Deltas.Range
import BuildScope.Proofs.Matching.Identity

/-!
# Deltas of Symbols Against Themselves

A symbol that is paired with itself is unchanged, and so is a group of such pairs, as their sides
come from one of them and their proportional sizes are all zero. A report lists none of them.

* `Delta.IsStill`: a delta that is unchanged, by zero bytes of any kind.
* `Delta.isStill_matched_self`, `Delta.isStill_ofAliases`: pairs of symbols with themselves are.
* `Diff.records_eq_nil`: reports leave out unchanged deltas.
-/

namespace BuildScope

open Number (Overflow Checked.add_eq_ok_iff Checked.sub_eq_ok_iff)

/-! ## Sides -/

namespace Sides

variable {side : Side}

/-- Both sides are the same. -/
def same (side : Side) : Sides :=
  ⟨some side, some side⟩

theorem change_same {bytes : Symbol → Except Overflow Int64} {n : Int64}
    (h : bytes side.symbol = .ok n) : (same side).change bytes = .ok 0 := by
  have hsub : Number.Checked.sub n n = .ok 0 := by
    rw [Checked.sub_eq_ok_iff, Int.sub_self]
    rfl
  exact Except.bind_eq_ok.2 ⟨n, h, Except.bind_eq_ok.2 ⟨n, h, hsub⟩⟩

theorem padding_same (side : Side) (attributed : Bool) :
    (same side).padding attributed = .ok 0 := by
  cases attributed with
  | false => rfl
  | true =>
    show (same side).change (fun sym => .ok sym.padding) = .ok 0
    exact change_same rfl

/-- Shares are finite, so that equal ones of the two sides cancel out. -/
theorem pss_eq_zero {before after : Side} (hpss : after.symbol.pss = before.symbol.pss)
    (hpaddingPss : after.symbol.paddingPss = before.symbol.paddingPss) (attributed : Bool) :
    (⟨before, after⟩ : Sides).pss attributed = 0 := by
  have hbare : (⟨before, after⟩ : Sides).changeShare (fun sym => sym.pss - sym.paddingPss) = 0 := by
    show after.symbol.pss - after.symbol.paddingPss -
      (before.symbol.pss - before.symbol.paddingPss) = 0
    rw [hpss, hpaddingPss]
    exact Number.sub_self_of_isFinite before.symbol.isFinite_pss_sub_paddingPss
  have hpadding : (⟨before, after⟩ : Sides).changeShare Symbol.paddingPss = 0 := by
    show after.symbol.paddingPss - before.symbol.paddingPss = 0
    rw [hpaddingPss]
    exact Number.sub_self_of_isFinite before.symbol.isFinite_paddingPss
  rw [pss, hbare, hpadding, Number.zero_add_zero]
  exact ite_self 0

end Sides

/-! ## Deltas -/

namespace Delta

/-- A delta is unchanged, by zero bytes of any kind. -/
structure IsStill (delta : Delta) : Prop where
  /-- No bytes besides the padding were gained. -/
  sizeWithoutPadding : delta.sizeWithoutPadding = .ok 0
  /-- No padding was gained. -/
  padding : delta.padding = .ok 0
  /-- No bytes were gained. -/
  size : delta.size = .ok 0
  /-- Nor were any proportional bytes. -/
  pss : delta.pss = .ok 0
  /-- The delta counts as unchanged. -/
  status : delta.status = .ok .unchanged

variable {delta : Delta} {members : List Delta} {side : Side}

/-- Sizes do not change between equal sides. -/
theorem sizes_of_same (hsides : delta.sides = .same side) (hfits : side.symbol.Fits)
    (hattributes : ∃ attributed, delta.attributesPadding = .ok attributed) :
    delta.sizeWithoutPadding = .ok 0 ∧ delta.padding = .ok 0 ∧ delta.size = .ok 0 := by
  obtain ⟨attributed, hattributed⟩ := hattributes
  obtain ⟨n, hn, -⟩ := Symbol.exists_sizeWithoutPadding hfits
  have hbare : delta.sizeWithoutPadding = .ok 0 := by
    rw [sizeWithoutPadding, hsides]
    exact Sides.change_same hn
  have hpadding : delta.padding = .ok 0 := by
    refine Except.bind_eq_ok.2 ⟨attributed, hattributed, ?_⟩
    rw [hsides]
    exact Sides.padding_same side attributed
  have hsum : Number.Checked.add 0 0 = .ok 0 := rfl
  exact ⟨hbare, hpadding,
    Except.bind_eq_ok.2 ⟨0, hbare, Except.bind_eq_ok.2 ⟨0, hpadding, hsum⟩⟩⟩

theorem statusOfSides_of_same (hsides : delta.sides = .same side) (hsize : delta.size = .ok 0)
    (hpss : delta.pss = .ok 0) : delta.statusOfSides = .ok .unchanged := by
  have hthreshold : ¬ threshold < (0 : Float).abs := by decide +kernel
  rw [statusOfSides, hsides]
  refine Except.bind_eq_ok.2 ⟨0, hsize, ?_⟩
  rw [if_neg (not_not.2 rfl)]
  refine Except.bind_eq_ok.2 ⟨0, hpss, ?_⟩
  rw [if_neg hthreshold]
  rfl

/-- A symbol that is paired with itself is unchanged. -/
theorem isStill_matched_self (hfits : side.symbol.Fits) : (matched side side).IsStill := by
  have hattributes : ∃ attributed, (matched side side).attributesPadding = .ok attributed := by
    have hsize : ∃ n, side.symbol.sizeWithoutPadding = .ok n :=
      (Symbol.exists_sizeWithoutPadding hfits).imp fun _ hn => hn.1
    show ∃ attributed, (Change.matched side side).attributesPadding = .ok attributed
    refine Change.exists_attributesPadding fun other hother => ?_
    rcases hother with hother | hother
    · cases hother
      exact hsize
    · cases hother
      exact hsize
  obtain ⟨hbare, hpadding, hsize⟩ := sizes_of_same rfl hfits hattributes
  have hpss : (matched side side).pss = .ok 0 := by
    obtain ⟨attributed, hattributed⟩ := hattributes
    refine Except.bind_eq_ok.2 ⟨attributed, hattributed, ?_⟩
    exact congrArg Except.ok (Sides.pss_eq_zero rfl rfl attributed)
  exact ⟨hbare, hpadding, hsize, hpss, statusOfSides_of_same rfl hsize hpss⟩

theorem sumPss_eq_zero (h : ∀ member ∈ members, member.pss = .ok 0) : sumPss 0 members = .ok 0 := by
  induction members with
  | nil => rfl
  | cons member members ih =>
    refine Except.bind_eq_ok.2 ⟨0, h member List.mem_cons_self, ?_⟩
    rw [Number.zero_add_zero]
    exact ih fun other hother => h other (List.mem_cons_of_mem member hother)

/-- Unchanged members are neither all added nor all removed. -/
theorem allHaveStatus_eq_false (hne : members ≠ []) (h : ∀ member ∈ members, member.IsStill)
    {wanted : Status} (hwanted : wanted ≠ .unchanged) :
    allHaveStatus wanted members = .ok false := by
  cases members with
  | nil => exact absurd rfl hne
  | cons member members =>
    refine Except.bind_eq_ok.2 ⟨.unchanged, (h member List.mem_cons_self).status, ?_⟩
    rw [if_neg hwanted.symm]

/-- A group of symbols that are paired with themselves is unchanged. -/
theorem isStill_ofAliases (hne : members ≠ [])
    (h : ∀ member ∈ members, ∃ side : Side, side.symbol.Fits ∧ member = matched side side) :
    (ofAliases members).IsStill := by
  have hstill : ∀ member ∈ members, member.IsStill := by
    intro member hmember
    obtain ⟨side, hfits, rfl⟩ := h member hmember
    exact isStill_matched_self hfits
  -- both sides of the group are those of its first member
  obtain ⟨side, hfits, hsides⟩ : ∃ side : Side, side.symbol.Fits ∧
      (ofAliases members).sides = .same side := by
    cases members with
    | nil => exact absurd rfl hne
    | cons member members =>
      obtain ⟨side, hfits, rfl⟩ := h member List.mem_cons_self
      exact ⟨side, hfits, rfl⟩
  have hattributes : ∃ attributed, (ofAliases members).attributesPadding = .ok attributed := by
    apply exists_allAttributePadding
    intro member hmember
    obtain ⟨attributed, hattributed, -⟩ := Except.bind_eq_ok.1 (hstill member hmember).padding
    exact ⟨attributed, hattributed⟩
  obtain ⟨hbare, hpadding, hsize⟩ := sizes_of_same hsides hfits hattributes
  have hpss : (ofAliases members).pss = .ok 0 :=
    sumPss_eq_zero fun member hmember => (hstill member hmember).pss
  have hstatus : (ofAliases members).status = .ok .unchanged :=
    Except.bind_eq_ok.2 ⟨false, allHaveStatus_eq_false hne hstill (by decide),
      Except.bind_eq_ok.2 ⟨false, allHaveStatus_eq_false hne hstill (by decide),
        statusOfSides_of_same hsides hsize hpss⟩⟩
  exact ⟨hbare, hpadding, hsize, hpss, hstatus⟩

end Delta

/-! ## Reports -/

/-- A report has no line for deltas that are unchanged. -/
theorem Diff.records_eq_nil {deltas : Deltas} (h : ∀ delta ∈ deltas, delta.IsStill)
    (limit : Option Nat) : records deltas limit = .ok [] := by
  induction deltas with
  | nil =>
    rcases limit with _ | _ | n
    · rfl
    · rfl
    · rfl
  | cons delta deltas ih =>
    have hrest := ih fun other hother => h other (List.mem_cons_of_mem delta hother)
    have hstatus := (h delta List.mem_cons_self).status
    rcases limit with _ | _ | n
    · refine Except.bind_eq_ok.2 ⟨.unchanged, hstatus, ?_⟩
      rw [if_pos rfl]
      exact hrest
    · rfl
    · refine Except.bind_eq_ok.2 ⟨.unchanged, hstatus, ?_⟩
      rw [if_pos rfl]
      exact hrest

end BuildScope
