import BuildScope.Diff.Basic
import BuildScope.Proofs.Deltas.Growth

/-!
# Deltas in Range

When everything that is reported of a delta can be computed. It takes no more than that the bytes of
its sides differ by signed numbers of 64 bits, with and without the padding; whether the delta
answers for its padding then makes no difference.

* `Sides.inRange_of_isPadded`: symbols whose padding is a part of their size are such sides.
* `Delta.isComputed_single`, `Delta.isComputed_aliasGroup`: what such sides are enough for.
-/

namespace BuildScope

open Number (FitsInt64 Overflow Checked.add_eq_ok_iff Checked.exists_add_eq_ok
  Checked.exists_sub_eq_ok)

/-- The padding of a symbol is a part of its size. -/
def Symbol.IsPadded (sym : Symbol) : Prop :=
  0 ≤ sym.padding.toInt ∧ sym.padding.toInt ≤ sym.size.toInt

/-- Such a symbol has a size without padding. -/
theorem Symbol.IsPadded.fits {sym : Symbol} (h : sym.IsPadded) : sym.Fits := by
  have hlt := sym.size.toInt_lt
  unfold IsPadded at h
  unfold Fits FitsInt64
  omega

namespace Sides

/-- The bytes of the sides differ by numbers that fit, whichever bytes are counted. -/
structure InRange (sides : Sides) : Prop where
  /-- The size of each symbol without its padding can be computed. -/
  fits : ∀ side, side ∈ sides.before ∨ side ∈ sides.after → side.symbol.Fits
  /-- Sizes without padding differ by a number that fits. -/
  bare : FitsInt64 (sides.difference Symbol.bare)
  /-- So does the padding. -/
  padding : FitsInt64 (sides.difference fun sym => sym.padding.toInt)
  /-- And so do the sizes. -/
  size : FitsInt64 (sides.difference fun sym => sym.size.toInt)

variable {sides : Sides}

/-- Numbers of bytes that are not negative differ by one that fits. -/
private theorem fitsInt64_difference {value : Symbol → Int}
    (hvalue : ∀ side, side ∈ sides.before ∨ side ∈ sides.after →
      0 ≤ value side.symbol ∧ value side.symbol < 0x8000000000000000) :
    FitsInt64 (sides.difference value) := by
  have hside (side : Option Side) (h : side = sides.before ∨ side = sides.after) :
      0 ≤ (side.map fun side => value side.symbol).getD 0 ∧
        (side.map fun side => value side.symbol).getD 0 < 0x8000000000000000 := by
    cases side with
    | none => exact ⟨Int.le_refl 0, by simp⟩
    | some side => exact hvalue side (h.imp Eq.symm Eq.symm)
  have hbefore := hside sides.before (.inl rfl)
  have hafter := hside sides.after (.inr rfl)
  unfold FitsInt64 difference
  omega

/-- Where padding is a part of the size, no difference of bytes overflows. -/
theorem inRange_of_isPadded
    (h : ∀ side, side ∈ sides.before ∨ side ∈ sides.after → side.symbol.IsPadded) :
    sides.InRange := by
  have hbounds (side : Side) (hside : side ∈ sides.before ∨ side ∈ sides.after) :
      0 ≤ side.symbol.padding.toInt ∧ side.symbol.padding.toInt ≤ side.symbol.size.toInt ∧
        side.symbol.size.toInt < 0x8000000000000000 :=
    ⟨(h side hside).1, (h side hside).2, side.symbol.size.toInt_lt⟩
  constructor
  · exact fun side hside => (h side hside).fits
  · -- both sides are between zero and the greatest size
    apply fitsInt64_difference
    intro side hside
    have := hbounds side hside
    unfold Symbol.bare
    omega
  · apply fitsInt64_difference
    intro side hside
    have := hbounds side hside
    omega
  · apply fitsInt64_difference
    intro side hside
    have := hbounds side hside
    omega

/-- An addition that consists of padding only has no other bytes, however many they are. -/
theorem inRange_ofPadding (segment : Segment) (bytes : Int64) :
    (Change.added ⟨none, .ofPadding segment bytes⟩).sides.InRange := by
  have hbytes := Number.fitsInt64_toInt bytes
  constructor
  · rintro side (hside | hside)
    · cases hside
    · cases hside
      simp [Symbol.Fits, Symbol.ofPadding, FitsInt64]
  · simp [Change.sides, difference, Symbol.bare, Symbol.ofPadding, FitsInt64]
  · simpa [Change.sides, difference, Symbol.ofPadding] using hbytes
  · simpa [Change.sides, difference, Symbol.ofPadding] using hbytes

/-- Sizes differ by the bytes besides the padding and by the padding. -/
theorem difference_size (sides : Sides) :
    (sides.difference fun sym => sym.size.toInt) =
      sides.difference Symbol.bare + sides.difference fun sym => sym.padding.toInt := by
  obtain ⟨before, after⟩ := sides
  cases before <;> cases after <;>
    simp only [difference, Symbol.bare, Option.map_some, Option.map_none, Option.getD_some,
      Option.getD_none] <;>
    omega

/-- A change of bytes can be computed if the bytes of both sides can, and the difference fits. -/
theorem exists_change {bytes : Symbol → Except Overflow Int64} {value : Symbol → Int}
    (hbytes : ∀ side, side ∈ sides.before ∨ side ∈ sides.after →
      ∃ n, bytes side.symbol = .ok n ∧ n.toInt = value side.symbol)
    (hfits : FitsInt64 (sides.difference value)) : ∃ n, sides.change bytes = .ok n := by
  unfold change
  extract_lets bytesOf
  -- a side that is missing counts as zero
  have hside (side : Option Side) (h : side = sides.before ∨ side = sides.after) :
      ∃ m, bytesOf side = .ok m ∧
        m.toInt = (side.map fun side => value side.symbol).getD 0 := by
    cases side with
    | none => exact ⟨0, rfl, rfl⟩
    | some side => exact hbytes side (h.imp Eq.symm Eq.symm)
  obtain ⟨old, hold, hold'⟩ := hside sides.before (.inl rfl)
  obtain ⟨new, hnew, hnew'⟩ := hside sides.after (.inr rfl)
  have hsub : FitsInt64 (new.toInt - old.toInt) := by
    rw [hold', hnew']
    exact hfits
  obtain ⟨n, hn⟩ := Checked.exists_sub_eq_ok hsub
  exact ⟨n, Except.bind_eq_ok.2 ⟨old, hold, Except.bind_eq_ok.2 ⟨new, hnew, hn⟩⟩⟩

/-- Whether or not the padding counts, all steps to a size can be computed. -/
theorem InRange.exists_size (h : sides.InRange) (attributed : Bool) :
    ∃ bare padding size, sides.sizeWithoutPadding = .ok bare ∧
      sides.padding attributed = .ok padding ∧ Number.Checked.add bare padding = .ok size := by
  obtain ⟨bare, hbare⟩ := exists_change
    (fun side hside => Symbol.exists_sizeWithoutPadding (h.fits side hside)) h.bare
  obtain ⟨padding, hpadding⟩ : ∃ n, sides.change (fun sym => .ok sym.padding) = .ok n :=
    exists_change (fun side _ => ⟨side.symbol.padding, rfl, rfl⟩) h.padding
  have hbare' : bare.toInt = sides.difference Symbol.bare :=
    toInt_of_change_eq_ok (fun _ _ => Symbol.sizeWithoutPadding_eq_ok_iff.1) hbare
  have hpadding' : padding.toInt = sides.difference fun sym => sym.padding.toInt :=
    toInt_of_change_eq_ok (fun _ _ hn => by cases hn; rfl) hpadding
  cases attributed with
  | false => exact ⟨bare, 0, bare, hbare, rfl, Checked.add_eq_ok_iff.2 (by simp)⟩
  | true =>
    -- the two parts add up to the change of the whole size, which fits
    have hfits : FitsInt64 (bare.toInt + padding.toInt) := by
      rw [hbare', hpadding', ← difference_size]
      exact h.size
    obtain ⟨size, hsize⟩ := Checked.exists_add_eq_ok hfits
    exact ⟨bare, padding, size, hbare, hpadding, hsize⟩

end Sides

/-- Whether a delta answers for its padding is known once the sizes of its symbols are. -/
theorem Change.exists_attributesPadding {change : Change}
    (hsizes : ∀ side, side ∈ change.sides.before ∨ side ∈ change.sides.after →
      ∃ n, side.symbol.sizeWithoutPadding = .ok n) :
    ∃ attributed, change.attributesPadding = .ok attributed := by
  cases change with
  | added after => exact ⟨true, rfl⟩
  | removed before => exact ⟨true, rfl⟩
  | matched before after =>
    obtain ⟨old, hold⟩ := hsizes before (.inl rfl)
    obtain ⟨new, hnew⟩ := hsizes after (.inr rfl)
    simp only [attributesPadding]
    split
    · exact ⟨true, rfl⟩
    · -- the new symbol is looked at only if the old one is all padding
      by_cases hzero : old = 0
      · refine ⟨decide (new = 0), Except.bind_eq_ok.2 ⟨old, hold, ?_⟩⟩
        rw [if_neg (not_not.2 hzero)]
        exact Except.bind_eq_ok.2 ⟨new, hnew, rfl⟩
      · exact ⟨false, Except.bind_eq_ok.2 ⟨old, hold, if_pos hzero⟩⟩

namespace Delta

/-- No step on the way to what is reported of a delta overflows. -/
structure IsComputed (delta : Delta) : Prop where
  /-- Whether it answers for its padding is known. -/
  attributesPadding : ∃ attributed, delta.attributesPadding = .ok attributed
  /-- Its change of size without padding is known. -/
  sizeWithoutPadding : ∃ n, delta.sizeWithoutPadding = .ok n
  /-- Its change of padding is known. -/
  padding : ∃ n, delta.padding = .ok n
  /-- Its change of size is known. -/
  size : ∃ n, delta.size = .ok n
  /-- Its change of proportional size is known. -/
  pss : ∃ x, delta.pss = .ok x
  /-- Its status is known. -/
  status : ∃ status, delta.status = .ok status
  /-- Its line in a report is known. -/
  record : ∃ record, delta.record = .ok record

variable {delta : Delta} {members : List Delta}

/-- The three sizes of a delta can be computed from its sides. -/
theorem exists_sizes (delta : Delta) (hsides : delta.sides.InRange)
    (hattributes : ∃ attributed, delta.attributesPadding = .ok attributed) :
    (∃ n, delta.sizeWithoutPadding = .ok n) ∧ (∃ n, delta.padding = .ok n) ∧
      ∃ n, delta.size = .ok n := by
  obtain ⟨attributed, hattributed⟩ := hattributes
  obtain ⟨bare, padding, size, hbare, hpadding, hsize⟩ := hsides.exists_size attributed
  have hpadding' : delta.padding = .ok padding :=
    Except.bind_eq_ok.2 ⟨attributed, hattributed, hpadding⟩
  exact ⟨⟨bare, hbare⟩, ⟨padding, hpadding'⟩, size,
    Except.bind_eq_ok.2 ⟨bare, hbare, Except.bind_eq_ok.2 ⟨padding, hpadding', hsize⟩⟩⟩

/-- The status that sides lead to can be computed if the sizes can. -/
theorem exists_statusOfSides (hsize : ∃ n, delta.size = .ok n) (hpss : ∃ x, delta.pss = .ok x) :
    ∃ status, delta.statusOfSides = .ok status := by
  obtain ⟨n, hn⟩ := hsize
  obtain ⟨x, hx⟩ := hpss
  rw [statusOfSides]
  split
  · exact ⟨_, rfl⟩
  · exact ⟨_, rfl⟩
  · by_cases hzero : n = 0
    · refine ⟨if threshold < x.abs then .changed else .unchanged,
        Except.bind_eq_ok.2 ⟨n, hn, ?_⟩⟩
      rw [if_neg (not_not.2 hzero)]
      exact Except.bind_eq_ok.2 ⟨x, hx, rfl⟩
    · exact ⟨.changed, Except.bind_eq_ok.2 ⟨n, hn, if_pos hzero⟩⟩

/-- A line of a report says nothing that has not been computed already. -/
theorem exists_record (hstatus : ∃ status, delta.status = .ok status)
    (hsize : ∃ n, delta.size = .ok n) (hpadding : ∃ n, delta.padding = .ok n)
    (hpss : ∃ x, delta.pss = .ok x) : ∃ record, delta.record = .ok record := by
  obtain ⟨status, hstatus⟩ := hstatus
  obtain ⟨size, hsize⟩ := hsize
  obtain ⟨padding, hpadding⟩ := hpadding
  obtain ⟨pss, hpss⟩ := hpss
  simp only [record, Except.bind_eq_ok]
  exact ⟨_, status, hstatus, size, hsize, padding, hpadding, pss, hpss, rfl⟩

/-- A delta of one symbol with sides in range can be reported. -/
theorem isComputed_single {change : Change} (h : change.sides.InRange) :
    (single change).IsComputed := by
  have hattributes : ∃ attributed, (single change).attributesPadding = .ok attributed :=
    Change.exists_attributesPadding fun side hside =>
      (Symbol.exists_sizeWithoutPadding (h.fits side hside)).imp fun _ hn => hn.1
  have hpss : ∃ x, (single change).pss = .ok x := by
    obtain ⟨attributed, hattributed⟩ := hattributes
    exact ⟨_, Except.bind_eq_ok.2 ⟨attributed, hattributed, rfl⟩⟩
  obtain ⟨hbare, hpadding, hsize⟩ := exists_sizes (single change) h hattributes
  have hstatus := exists_statusOfSides hsize hpss
  exact ⟨hattributes, hbare, hpadding, hsize, hpss, hstatus,
    exists_record hstatus hsize hpadding hpss⟩

/-! ## Alias groups -/

theorem exists_allAttributePadding
    (h : ∀ member ∈ members, ∃ attributed, member.attributesPadding = .ok attributed) :
    ∃ attributed, allAttributePadding members = .ok attributed := by
  induction members with
  | nil => exact ⟨true, rfl⟩
  | cons member members ih =>
    obtain ⟨attributed, hattributed⟩ := h member List.mem_cons_self
    obtain ⟨rest, hrest⟩ := ih fun other hother => h other (List.mem_cons_of_mem member hother)
    cases attributed with
    | false => exact ⟨false, Except.bind_eq_ok.2 ⟨false, hattributed, rfl⟩⟩
    | true => exact ⟨rest, Except.bind_eq_ok.2 ⟨true, hattributed, hrest⟩⟩

theorem exists_sumPss (h : ∀ member ∈ members, ∃ x, member.pss = .ok x) (start : Float) :
    ∃ sum, sumPss start members = .ok sum := by
  induction members generalizing start with
  | nil => exact ⟨start, rfl⟩
  | cons member members ih =>
    obtain ⟨x, hx⟩ := h member List.mem_cons_self
    obtain ⟨sum, hsum⟩ := ih (fun other hother => h other (List.mem_cons_of_mem member hother))
      (start + x)
    exact ⟨sum, Except.bind_eq_ok.2 ⟨x, hx, hsum⟩⟩

theorem exists_allHaveStatus (wanted : Status)
    (h : ∀ member ∈ members, ∃ status, member.status = .ok status) :
    ∃ answer, allHaveStatus wanted members = .ok answer := by
  induction members with
  | nil => exact ⟨true, rfl⟩
  | cons member members ih =>
    obtain ⟨status, hstatus⟩ := h member List.mem_cons_self
    obtain ⟨rest, hrest⟩ := ih fun other hother => h other (List.mem_cons_of_mem member hother)
    by_cases hwanted : status = wanted
    · exact ⟨rest, Except.bind_eq_ok.2 ⟨status, hstatus, by rw [if_pos hwanted, hrest]⟩⟩
    · exact ⟨false, Except.bind_eq_ok.2 ⟨status, hstatus, by rw [if_neg hwanted]⟩⟩

/-- An alias group with sides in range can be reported if its members can. -/
theorem isComputed_aliasGroup {sides : Sides} (hsides : sides.InRange)
    (hmembers : ∀ member ∈ members, member.IsComputed) :
    (aliasGroup sides members).IsComputed := by
  have hattributes : ∃ attributed, (aliasGroup sides members).attributesPadding = .ok attributed :=
    exists_allAttributePadding fun member hmember => (hmembers member hmember).attributesPadding
  have hpss : ∃ x, (aliasGroup sides members).pss = .ok x :=
    exists_sumPss (fun member hmember => (hmembers member hmember).pss) 0
  obtain ⟨hbare, hpadding, hsize⟩ := exists_sizes (aliasGroup sides members) hsides hattributes
  have hstatus : ∃ status, (aliasGroup sides members).status = .ok status := by
    obtain ⟨added, hadded⟩ := exists_allHaveStatus .added fun member hmember =>
      (hmembers member hmember).status
    obtain ⟨removed, hremoved⟩ := exists_allHaveStatus .removed fun member hmember =>
      (hmembers member hmember).status
    obtain ⟨status, hstatus⟩ := exists_statusOfSides hsize hpss
    -- only where some members are of each kind do the sides matter
    cases added with
    | true => exact ⟨.added, Except.bind_eq_ok.2 ⟨true, hadded, rfl⟩⟩
    | false =>
      cases removed with
      | true => exact ⟨.removed, Except.bind_eq_ok.2 ⟨false, hadded,
          Except.bind_eq_ok.2 ⟨true, hremoved, rfl⟩⟩⟩
      | false => exact ⟨status, Except.bind_eq_ok.2 ⟨false, hadded,
          Except.bind_eq_ok.2 ⟨false, hremoved, hstatus⟩⟩⟩
  exact ⟨hattributes, hbare, hpadding, hsize, hpss, hstatus,
    exists_record hstatus hsize hpadding hpss⟩

end Delta

end BuildScope
