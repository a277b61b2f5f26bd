import BuildScope.Proofs.Deltas.Range
import Mathlib.Algebra.Order.BigOperators.Group.List

/-!
# Footprints

A bound on all numbers that come up on the way to the size of a delta: the bytes and the padding of
its symbols, without their signs. Where the bound is a number of 64 bits, no step overflows.

* `Change.exists_size`: the size of a delta whose footprint fits can be computed.
* `Deltas.exists_totalSize`: so can a total size, if what the deltas add or remove fits together.
-/

namespace BuildScope

open Number (FitsInt64 Checked.add Checked.add_eq_ok_iff Checked.exists_add_eq_ok)

/-- A number below the greatest magnitude fits. -/
theorem Number.fitsInt64_of_natAbs_lt {n : Int} (h : (n.natAbs : Int) < 0x8000000000000000) :
    FitsInt64 n := by
  unfold FitsInt64
  omega

/-- Bytes of a symbol and of its padding, without their signs. -/
def Symbol.footprint (sym : Symbol) : Int :=
  sym.size.toInt.natAbs + sym.padding.toInt.natAbs

/-- Footprint of some symbols together. -/
def Symbol.footprints (symbols : List Symbol) : Int :=
  (symbols.map footprint).sum

theorem Symbol.footprint_nonneg (sym : Symbol) : 0 ≤ sym.footprint := by
  unfold footprint
  omega

/-- The size without the padding is within the footprint. -/
theorem Symbol.natAbs_bare_le (sym : Symbol) : (sym.bare.natAbs : Int) ≤ sym.footprint := by
  unfold bare footprint
  omega

/-- So is the padding. -/
theorem Symbol.natAbs_padding_le (sym : Symbol) :
    (sym.padding.toInt.natAbs : Int) ≤ sym.footprint := by
  unfold footprint
  omega

/-- So is the size. -/
theorem Symbol.natAbs_size_le (sym : Symbol) :
    (sym.size.toInt.natAbs : Int) ≤ sym.footprint := by
  unfold footprint
  omega

/-- Footprint of the symbols on both sides. -/
def Sides.footprint (sides : Sides) : Int :=
  (sides.before.map fun side => side.symbol.footprint).getD 0 +
    (sides.after.map fun side => side.symbol.footprint).getD 0

namespace Sides

variable {sides : Sides}

private theorem getD_footprint_nonneg (side : Option Side) :
    0 ≤ (side.map fun side => side.symbol.footprint).getD 0 := by
  cases side with
  | none => exact Int.le_refl 0
  | some side => exact side.symbol.footprint_nonneg

theorem footprint_nonneg (sides : Sides) : 0 ≤ sides.footprint :=
  Int.add_nonneg (getD_footprint_nonneg sides.before) (getD_footprint_nonneg sides.after)

/-- Each side is within the footprint of both. -/
theorem footprint_symbol_le {side : Side} (h : side ∈ sides.before ∨ side ∈ sides.after) :
    side.symbol.footprint ≤ sides.footprint := by
  have hbefore := getD_footprint_nonneg sides.before
  have hafter := getD_footprint_nonneg sides.after
  unfold footprint
  obtain h | h := h
  · rw [Option.mem_def.1 h, Option.map_some, Option.getD_some]
    omega
  · rw [Option.mem_def.1 h, Option.map_some, Option.getD_some]
    omega

/-- What is within the footprint of each side differs by no more than that of both. -/
theorem natAbs_difference_le {value : Symbol → Int}
    (hvalue : ∀ sym, ((value sym).natAbs : Int) ≤ sym.footprint) :
    ((sides.difference value).natAbs : Int) ≤ sides.footprint := by
  have hside (side : Option Side) :
      (((side.map fun side => value side.symbol).getD 0).natAbs : Int) ≤
        (side.map fun side => side.symbol.footprint).getD 0 := by
    cases side with
    | none => exact Int.le_refl 0
    | some side => exact hvalue side.symbol
  have hbefore := hside sides.before
  have hafter := hside sides.after
  unfold difference footprint
  omega

/-- All differences between the sides are within the footprint. -/
theorem inRange_of_footprint_lt (h : sides.footprint < 0x8000000000000000) : sides.InRange := by
  have hfits {value : Symbol → Int} (hvalue : ∀ sym, ((value sym).natAbs : Int) ≤ sym.footprint) :
      FitsInt64 (sides.difference value) :=
    Number.fitsInt64_of_natAbs_lt (Int.lt_of_le_of_lt (natAbs_difference_le hvalue) h)
  refine ⟨fun side hside => ?_, hfits Symbol.natAbs_bare_le, hfits Symbol.natAbs_padding_le,
    hfits Symbol.natAbs_size_le⟩
  have hle := side.symbol.natAbs_bare_le.trans (footprint_symbol_le hside)
  exact Number.fitsInt64_of_natAbs_lt (Int.lt_of_le_of_lt hle h)

end Sides

namespace Change

variable {change : Change}

/-- A change adds or removes no more than its footprint. -/
theorem natAbs_growth_le (change : Change) :
    (change.growth.natAbs : Int) ≤ change.sides.footprint := by
  cases change with
  | added after =>
    simp only [growth_added, sides, Sides.footprint, Symbol.footprint, Option.map_none,
      Option.getD_none, Option.map_some, Option.getD_some]
    omega
  | removed before =>
    simp only [growth_removed, sides, Sides.footprint, Symbol.footprint, Option.map_none,
      Option.getD_none, Option.map_some, Option.getD_some]
    omega
  | matched before after =>
    simp only [growth_matched, sides, Sides.footprint, Symbol.footprint, Option.map_some,
      Option.getD_some]
    split <;> omega

/-- The size of a delta can be computed if its footprint fits. -/
theorem exists_size (h : change.sides.footprint < 0x8000000000000000) :
    ∃ n, (Delta.single change).size = .ok n := by
  have hrange := Sides.inRange_of_footprint_lt h
  have hattributes : ∃ attributed, (Delta.single change).attributesPadding = .ok attributed :=
    exists_attributesPadding fun side hside =>
      (Symbol.exists_sizeWithoutPadding (hrange.fits side hside)).imp fun _ hn => hn.1
  exact (Delta.exists_sizes (Delta.single change) hrange hattributes).2.2

end Change

/-- Sizes can be added up if what they add or remove fits together. -/
theorem Deltas.exists_totalSize {changes : List Change}
    (hsizes : ∀ change ∈ changes, ∃ n, (Delta.single change).size = .ok n)
    (hfits : (changes.map fun change => (change.growth.natAbs : Int)).sum < 0x8000000000000000) :
    ∃ total, totalSize (changes.map Delta.single) = .ok total := by
  -- what the deltas before have added leaves room for those that follow
  suffices hfold : ∀ start : Int64,
      start.toInt.natAbs + (changes.map fun change => (change.growth.natAbs : Int)).sum <
        0x8000000000000000 →
      ∃ total, (changes.map Delta.single).foldlM
        (fun total delta => do Checked.add total (← delta.size)) start = .ok total by
    exact hfold 0 (by simpa using hfits)
  clear hfits
  induction changes with
  | nil =>
    intro start _
    exact ⟨start, rfl⟩
  | cons change changes ih =>
    intro start hstart
    rw [List.map_cons, List.sum_cons] at hstart
    have hrest : 0 ≤ (changes.map fun change => (change.growth.natAbs : Int)).sum := by
      apply List.sum_nonneg
      intro n hn
      obtain ⟨other, -, rfl⟩ := List.mem_map.1 hn
      exact Int.natCast_nonneg _
    obtain ⟨size, hsize⟩ := hsizes change List.mem_cons_self
    have hgrowth := Change.toInt_of_size_eq_ok hsize
    obtain ⟨next, hnext⟩ := Checked.exists_add_eq_ok
      (Number.fitsInt64_of_natAbs_lt (by omega : ((start.toInt + size.toInt).natAbs : Int) < _))
    have hnext' := Checked.add_eq_ok_iff.1 hnext
    obtain ⟨total, htotal⟩ := ih (fun other hother => hsizes other (List.mem_cons_of_mem _ hother))
      next (by omega)
    refine ⟨total, ?_⟩
    rw [List.map_cons, List.foldlM_cons]
    exact Except.bind_eq_ok.2 ⟨next, Except.bind_eq_ok.2 ⟨size, hsize, hnext⟩, htotal⟩

end BuildScope
