import BuildScope.Proofs.Deltas.Range
import BuildScope.Proofs.Diff.Coverage
import BuildScope.Proofs.Number.Grid
import Mathlib.Algebra.BigOperators.Group.List.Basic
import Mathlib.Data.Rat.Cast.Order
import Mathlib.Tactic.Ring

/-!
# Shares of Aliases

What the deltas of a symbol add up to that goes from `old` aliases to `new` ones and keeps its
size. Each delta adds the share of an alias of the new build, and takes away that of an alias of the
old build if there is one. As fractions these shares add up to the difference of two sizes. As
doubles they do so if each share is exact and 53 bits are enough for all of them; otherwise what is
known is only that no sum is less than a unit of the least share, except for zero.

* `Delta.IsGain`: a delta of an alias of the new build, which may be one of the old build too.
* `Deltas.sum_exactShareChange`: the sum of the shares as fractions.
* `Delta.countsUnits_sumPss`: the sum of exact shares as doubles.
* `Delta.onGrid_sumPss`: the sum of any shares of two bytes or more.
-/

namespace BuildScope

open Number (CountsUnits FiniteOnGrid OnGrid)

/-- The bytes of a symbol divided among its aliases, without any rounding. -/
def Symbol.exactShare (sym : Symbol) : ℚ :=
  sym.size.toInt / max sym.numAliases.toNat 1

/-- Change of the exact share. A side that is missing has none. -/
def Sides.exactShareChange (sides : Sides) : ℚ :=
  (sides.after.map fun side => side.symbol.exactShare).getD 0 -
    (sides.before.map fun side => side.symbol.exactShare).getD 0

/-- A symbol is one of `count` aliases of another one. It has no padding. -/
structure Symbol.IsAliasOf (sym shared : Symbol) (count : UInt32) : Prop where
  /-- They are in the same container. -/
  containerName : sym.containerName = shared.containerName
  /-- They are in the same section. -/
  sectionName : sym.sectionName = shared.sectionName
  /-- They have the same full name. -/
  fullName : sym.fullName = shared.fullName
  /-- They have the same address. -/
  address : sym.address = shared.address
  /-- They have the same size. -/
  size : sym.size = shared.size
  /-- None of its bytes are padding. -/
  padding : sym.padding = 0
  /-- The symbol knows how many aliases there are. -/
  numAliases : sym.numAliases = count

/-- A delta is about an alias of the new build, which may be one of the old build too. -/
inductive Delta.IsGain (shared : Symbol) (old new : UInt32) : Delta → Prop
  | matched {before after : Side} (hbefore : before.symbol.IsAliasOf shared old)
      (hafter : after.symbol.IsAliasOf shared new) : IsGain shared old new (.matched before after)
  | added {after : Side} (hafter : after.symbol.IsAliasOf shared new) :
      IsGain shared old new (.added after)

variable {sym sym' shared : Symbol} {count old new : UInt32} {delta : Delta} {deltas : Deltas}
  {places : Nat}

/-! ## Deltas of aliases -/

namespace Delta

/-- The proportional size of a plain delta is that of its sides. -/
theorem IsPlain.exists_pss_eq (h : delta.IsPlain) {x : Float} (hx : delta.pss = .ok x) :
    ∃ attributed, x = delta.sides.pss attributed := by
  obtain ⟨change, rfl⟩ := h
  obtain ⟨attributed, -, hx⟩ := Except.bind_eq_ok.1 hx
  exact ⟨attributed, (Except.pure_eq_ok.1 hx).symm⟩

theorem IsGain.isPlain (h : delta.IsGain shared old new) : delta.IsPlain := by
  cases h with
  | matched hbefore hafter => exact ⟨_, rfl⟩
  | added hafter => exact ⟨_, rfl⟩

/-- There is a new side, which names the delta. -/
theorem IsGain.exists_after (h : delta.IsGain shared old new) :
    ∃ after : Side, after.symbol.IsAliasOf shared new ∧ delta.sides.after = some after := by
  cases h with
  | matched hbefore hafter => exact ⟨_, hafter, rfl⟩
  | added hafter => exact ⟨_, hafter, rfl⟩

/-- All sides have the size of the symbol, and no padding. -/
theorem IsGain.isAliasOf (h : delta.IsGain shared old new) {side : Side}
    (hside : side ∈ delta.sides.before ∨ side ∈ delta.sides.after) :
    ∃ count, side.symbol.IsAliasOf shared count := by
  cases h with
  | matched hbefore hafter =>
    obtain hside | hside := hside
    · exact ⟨old, Option.some.inj hside ▸ hbefore⟩
    · exact ⟨new, Option.some.inj hside ▸ hafter⟩
  | added hafter =>
    obtain hside | hside := hside
    · cases hside
    · exact ⟨new, Option.some.inj hside ▸ hafter⟩

/-- Deltas of one shared symbol have one alias key. -/
theorem IsGain.aliasKey (h : delta.IsGain shared old new) (hnew : 2 ≤ new.toNat)
    (hoverhead : shared.isOverhead = false) : delta.aliasKey = some
      ⟨shared.containerName, shared.sectionName, shared.fullName, shared.address, new, true⟩ := by
  obtain ⟨after, hafter, hside⟩ := h.exists_after
  have hsymbol : delta.symbol? = some after.symbol := by
    rw [symbol?, Sides.newer?, hside]
    rfl
  have halias : 1 < after.symbol.numAliases && !after.symbol.isOverhead := by
    have hlt : 1 < new := UInt32.lt_iff_toNat_lt.2 hnew
    rw [hafter.numAliases, Symbol.isOverhead, hafter.fullName, ← Symbol.isOverhead, hoverhead]
    simpa using hlt
  rw [Delta.aliasKey, hsymbol, hside]
  refine (if_pos halias).trans ?_
  rw [hafter.containerName, hafter.sectionName, hafter.fullName, hafter.address, hafter.numAliases]
  rfl

/-- Its sides have no padding. -/
theorem IsGain.isPadded (h : delta.IsGain shared old new) (hsize : 0 ≤ shared.size.toInt)
    {side : Side} (hside : side ∈ delta.sides.before ∨ side ∈ delta.sides.after) :
    side.symbol.IsPadded := by
  obtain ⟨count, hside⟩ := h.isAliasOf hside
  rw [Symbol.IsPadded, hside.padding, hside.size]
  exact ⟨Int.le_refl 0, hsize⟩

/-- All that a report says of such a delta can be computed. -/
theorem IsGain.isComputed (h : delta.IsGain shared old new) (hsize : 0 ≤ shared.size.toInt) :
    delta.IsComputed := by
  obtain ⟨change, rfl⟩ := h.isPlain
  exact isComputed_single (Sides.inRange_of_isPadded fun side hside => h.isPadded hsize hside)

end Delta

/-- The number of old sides is counted delta by delta. -/
theorem Deltas.length_befores_cons (delta : Delta) (deltas : Deltas) :
    (befores (delta :: deltas)).length = (befores [delta]).length + (befores deltas).length := by
  rw [← List.length_append, befores, befores, befores, ← List.filterMap_append]
  rfl

/-! ## Shares as fractions -/

/-- The share of an alias is the size divided by the number of aliases. -/
theorem Symbol.IsAliasOf.exactShare_eq (h : sym.IsAliasOf shared count)
    (hcount : 1 ≤ count.toNat) : sym.exactShare = shared.size.toInt / count.toNat := by
  rw [exactShare, h.size, h.numAliases, max_eq_left hcount]

/-- What a delta adds is a new share, less an old one if it has an old side. -/
theorem Delta.IsGain.exactShareChange_eq (h : delta.IsGain shared old new)
    (hold : 1 ≤ old.toNat) (hnew : 1 ≤ new.toNat) : delta.sides.exactShareChange =
      shared.size.toInt / new.toNat -
        (Deltas.befores [delta]).length * (shared.size.toInt / old.toNat) := by
  cases h with
  | @matched before after hbefore hafter =>
    have hone : (Deltas.befores [.matched before after]).length = 1 := rfl
    rw [hone, Nat.cast_one, one_mul, ← hafter.exactShare_eq hnew, ← hbefore.exactShare_eq hold]
    rfl
  | @added after hafter =>
    have hnone : (Deltas.befores [.added after]).length = 0 := rfl
    rw [hnone, Nat.cast_zero, zero_mul, ← hafter.exactShare_eq hnew]
    rfl

/-- Each alias of the new build adds its share, and each one of the old build takes its own away. -/
theorem Deltas.sum_exactShareChange (h : ∀ delta ∈ deltas, delta.IsGain shared old new)
    (hold : 1 ≤ old.toNat) (hnew : 1 ≤ new.toNat) :
    (deltas.map fun delta => delta.sides.exactShareChange).sum =
      deltas.length * (shared.size.toInt / new.toNat : ℚ) -
        deltas.befores.length * (shared.size.toInt / old.toNat) := by
  induction deltas with
  | nil => simp [befores]
  | cons delta deltas ih =>
    obtain ⟨hdelta, hdeltas⟩ := List.forall_mem_cons.1 h
    rw [List.map_cons, List.sum_cons, ih hdeltas, hdelta.exactShareChange_eq hold hnew,
      length_befores_cons delta deltas, List.length_cons]
    push_cast
    ring

/-! ## Shares as doubles -/

/-- Aliases share the same bytes alike. -/
theorem Symbol.IsAliasOf.share_eq (h : sym.IsAliasOf shared count)
    (h' : sym'.IsAliasOf shared count) (bytes : Int64) : sym.share bytes = sym'.share bytes := by
  rw [share, share, h.numAliases, h'.numAliases]

theorem Change.changeShare_matched (before after : Side) (bytes : Symbol → Float) :
    (matched before after).sides.changeShare bytes = bytes after.symbol - bytes before.symbol := rfl

theorem Change.changeShare_added (after : Side) (bytes : Symbol → Float) :
    (added after).sides.changeShare bytes = bytes after.symbol - 0 := rfl

/-- No padding is no unit. -/
theorem Symbol.IsAliasOf.countsUnits_paddingPss (h : sym.IsAliasOf shared count)
    (hcount : 1 ≤ count.toNat) (hplaces : places ≤ 52) :
    CountsUnits (-places) 0 sym.paddingPss := by
  have hlt := count.toNat_lt
  have hzero : CountsUnits (-places) (0 : Nat) (Float.ofNat 0 / Float.ofNat count.toNat) :=
    Number.countsUnits_ratio (by decide) hcount (by omega) (by simp) (by decide) (by omega)
  rw [paddingPss, share, h.padding, h.numAliases, max_eq_left hcount]
  exact hzero

/-- The padding of such deltas comes to nothing, whatever the units. -/
theorem Delta.IsGain.countsUnits_padding (h : delta.IsGain shared old new)
    (hold : 1 ≤ old.toNat) (hnew : 1 ≤ new.toNat) (hplaces : places ≤ 52) :
    CountsUnits (-places) 0 (delta.sides.changeShare Symbol.paddingPss) := by
  cases h with
  | @matched before after hbefore hafter =>
    show CountsUnits _ _ ((Change.matched before after).sides.changeShare Symbol.paddingPss)
    rw [Change.changeShare_matched]
    exact (hafter.countsUnits_paddingPss hnew hplaces).sub
      (hbefore.countsUnits_paddingPss hold hplaces) (by omega) (by omega) (by omega)
  | @added after hafter =>
    show CountsUnits _ _ ((Change.added after).sides.changeShare Symbol.paddingPss)
    rw [Change.changeShare_added]
    exact (hafter.countsUnits_paddingPss hnew hplaces).sub (Number.countsUnits_zero _) (by omega)
      (by omega) (by omega)

/-! ## Exact shares -/

/-- Size of a symbol in units of which a byte has `2 ^ places`. -/
def Symbol.units (sym : Symbol) (places : Nat) : Nat :=
  sym.size.toInt.toNat * 2 ^ places

/-- Units that each of `count` aliases has. -/
def Symbol.unitShare (sym : Symbol) (places : Nat) (count : UInt32) : Nat :=
  sym.units places / count.toNat

/-- The units of a symbol can be divided among `count` aliases, and 53 bits are enough for them. -/
structure Symbol.Splits (sym : Symbol) (places : Nat) (count : UInt32) : Prop where
  /-- The division leaves no rest. -/
  dvd : count.toNat ∣ sym.units places
  /-- The units need no more than 53 bits. -/
  units_lt : sym.units places < 2 ^ 53
  /-- Nor do those of a byte. -/
  places_le : places ≤ 52

namespace Symbol

/-- A share has no more units than a double can count. -/
theorem Splits.unitShare_lt (h : shared.Splits places count) :
    shared.unitShare places count < 2 ^ 53 :=
  (Nat.div_le_self _ _).trans_lt h.units_lt

/-- The share of an alias is counted in units exactly. -/
theorem IsAliasOf.countsUnits_pss (h : sym.IsAliasOf shared count) (hcount : 1 ≤ count.toNat)
    (hsize : 0 ≤ shared.size.toInt) (hsplits : shared.Splits places count) :
    CountsUnits (-places) (shared.unitShare places count) sym.pss := by
  have hlt := count.toNat_lt
  have hplaces := hsplits.places_le
  obtain ⟨bytes, hbytes⟩ := Int.eq_ofNat_of_zero_le hsize
  have hunits : shared.units places = bytes * 2 ^ places := by
    rw [units, hbytes]
    rfl
  -- the division is done on bytes, which are fewer than the units
  have hle : bytes ≤ shared.units places := hunits ▸ Nat.le_mul_of_pos_right _ (Nat.two_pow_pos _)
  have hshare : shared.unitShare places count * count.toNat = bytes * 2 ^ places := by
    rw [unitShare, Nat.div_mul_cancel hsplits.dvd, hunits]
  rw [pss, share, h.size, hbytes, h.numAliases, max_eq_left hcount]
  exact Number.countsUnits_ratio (hle.trans_lt hsplits.units_lt) hcount (by omega) hshare
    hsplits.unitShare_lt (by omega)

/-- Without padding, nothing is taken off. -/
theorem IsAliasOf.countsUnits_bare (h : sym.IsAliasOf shared count) (hcount : 1 ≤ count.toNat)
    (hsize : 0 ≤ shared.size.toInt) (hsplits : shared.Splits places count) :
    CountsUnits (-places) (shared.unitShare places count) (sym.pss - sym.paddingPss) := by
  have hlt := hsplits.unitShare_lt
  have hplaces := hsplits.places_le
  simpa using (h.countsUnits_pss hcount hsize hsplits).sub
    (h.countsUnits_paddingPss hcount hplaces) (by omega) (by omega) (by omega)

end Symbol

namespace Delta

/-- So is what a delta adds without its padding. -/
theorem IsGain.countsUnits_bare (h : delta.IsGain shared old new) (hold : 1 ≤ old.toNat)
    (hnew : 1 ≤ new.toNat) (hsize : 0 ≤ shared.size.toInt) (holdSplits : shared.Splits places old)
    (hnewSplits : shared.Splits places new) :
    CountsUnits (-places) (shared.unitShare places new -
        (Deltas.befores [delta]).length * shared.unitShare places old)
      (delta.sides.changeShare fun sym => sym.pss - sym.paddingPss) := by
  have hplaces := holdSplits.places_le
  have holdLt := holdSplits.unitShare_lt
  have hnewLt := hnewSplits.unitShare_lt
  cases h with
  | @matched before after hbefore hafter =>
    have hone : (Deltas.befores [.matched before after]).length = 1 := rfl
    rw [hone, Int.natCast_one, Int.one_mul]
    show CountsUnits _ _ ((Change.matched before after).sides.changeShare _)
    rw [Change.changeShare_matched]
    exact (hafter.countsUnits_bare hnew hsize hnewSplits).sub
      (hbefore.countsUnits_bare hold hsize holdSplits) (by omega) (by omega) (by omega)
  | @added after hafter =>
    have hnone : (Deltas.befores [.added after]).length = 0 := rfl
    rw [hnone, Int.natCast_zero, Int.zero_mul]
    show CountsUnits _ _ ((Change.added after).sides.changeShare _)
    rw [Change.changeShare_added]
    exact (hafter.countsUnits_bare hnew hsize hnewSplits).sub (Number.countsUnits_zero _)
      (by omega) (by omega) (by omega)

/-- A delta counts as many units as its new share has, less those of its old share if it has one. -/
theorem IsGain.countsUnits_pss (h : delta.IsGain shared old new) (hold : 1 ≤ old.toNat)
    (hnew : 1 ≤ new.toNat) (hsize : 0 ≤ shared.size.toInt) (holdSplits : shared.Splits places old)
    (hnewSplits : shared.Splits places new) {x : Float} (hx : delta.pss = .ok x) :
    CountsUnits (-places) (shared.unitShare places new -
      (Deltas.befores [delta]).length * shared.unitShare places old) x := by
  have hbare := h.countsUnits_bare hold hnew hsize holdSplits hnewSplits
  obtain ⟨attributed, rfl⟩ := h.isPlain.exists_pss_eq hx
  cases attributed with
  | false => exact hbare
  | true =>
    have hpadding := h.countsUnits_padding hold hnew holdSplits.places_le
    have hplaces := holdSplits.places_le
    have holdLt := holdSplits.unitShare_lt
    have hnewLt := hnewSplits.unitShare_lt
    -- there is at most one old share
    have hbefores : (Deltas.befores [delta]).length ≤ 1 := List.length_filterMap_le _ [delta]
    have hle := Nat.mul_le_mul_right (shared.unitShare places old) hbefores
    have hsum := hbare.add hpadding (by push_cast; omega) (by omega) (by omega)
    rw [Int.add_zero] at hsum
    exact hsum

/-- What has been gained and what has been lost may differ at any time, but neither is more than it
is in the end. -/
theorem countsUnits_sumPss (hdeltas : ∀ delta ∈ deltas, delta.IsGain shared old new)
    (hold : 1 ≤ old.toNat) (hnew : 1 ≤ new.toNat) (hsize : 0 ≤ shared.size.toInt)
    (holdSplits : shared.Splits places old) (hnewSplits : shared.Splits places new)
    {gained lost : Nat} {start x : Float} (hstart : CountsUnits (-places) (gained - lost) start)
    (hgained : gained + deltas.length * shared.unitShare places new < 2 ^ 53)
    (hlost : lost + deltas.befores.length * shared.unitShare places old < 2 ^ 53)
    (hx : sumPss start deltas = .ok x) :
    CountsUnits (-places) ((gained + deltas.length * shared.unitShare places new : Nat) -
      (lost + deltas.befores.length * shared.unitShare places old : Nat)) x := by
  have hplaces := holdSplits.places_le
  induction deltas generalizing gained lost start with
  | nil =>
    obtain rfl := Except.ok.inj hx
    simpa [Deltas.befores] using hstart
  | cons delta deltas ih =>
    obtain ⟨hdelta, hdeltas⟩ := List.forall_mem_cons.1 hdeltas
    obtain ⟨y, hy, hx⟩ := Except.bind_eq_ok.1 hx
    have hcounts := hdelta.countsUnits_pss hold hnew hsize holdSplits hnewSplits hy
    -- the delta adds one share, and takes away one or none
    have hgained' : gained + (delta :: deltas).length * shared.unitShare places new =
        gained + shared.unitShare places new + deltas.length * shared.unitShare places new := by
      rw [List.length_cons]
      ring
    have hlost' : lost + (Deltas.befores (delta :: deltas)).length * shared.unitShare places old =
        lost + (Deltas.befores [delta]).length * shared.unitShare places old +
          (Deltas.befores deltas).length * shared.unitShare places old := by
      rw [Deltas.length_befores_cons delta deltas]
      ring
    rw [hgained'] at hgained ⊢
    rw [hlost'] at hlost ⊢
    refine ih hdeltas ?_ hgained hlost hx
    have hsum := hstart.add hcounts (by push_cast; omega) (by omega) (by omega)
    have hregroup : (gained - lost + (shared.unitShare places new -
        (Deltas.befores [delta]).length * shared.unitShare places old) : Int) =
        (gained + shared.unitShare places new : Nat) -
          (lost + (Deltas.befores [delta]).length * shared.unitShare places old : Nat) := by
      push_cast
      ring
    exact hregroup ▸ hsum

end Delta

/-! ## Shares of two bytes or more -/

/-- Doubles from two on are whole numbers of this unit, of which two to the 51st are one. -/
theorem Symbol.IsAliasOf.finiteOnGrid_pss (h : sym.IsAliasOf shared count)
    (hcount : 1 ≤ count.toNat) (hsize : 2 * (count.toNat : Int) ≤ shared.size.toInt) :
    FiniteOnGrid (-51) 66 sym.pss := by
  have hlt := count.toNat_lt
  have hbits := shared.size.toInt_lt
  obtain ⟨bytes, hbytes⟩ := Int.eq_ofNat_of_zero_le (by omega : 0 ≤ shared.size.toInt)
  rw [pss, share, h.size, hbytes, h.numAliases, max_eq_left hcount]
  exact ⟨Number.onGrid_ratio (by omega) hcount (by omega) (by omega),
    Number.unpack_ratio (by omega) (by omega) (by omega)⟩

theorem Symbol.IsAliasOf.finiteOnGrid_bare (h : sym.IsAliasOf shared count)
    (hcount : 1 ≤ count.toNat) (hsize : 2 * (count.toNat : Int) ≤ shared.size.toInt) :
    FiniteOnGrid (-51) 68 (sym.pss - sym.paddingPss) :=
  (h.finiteOnGrid_pss hcount hsize).sub
    ((h.countsUnits_paddingPss hcount (Nat.zero_le 52)).finiteOnGrid _ _) (by decide) (by decide)
    (by decide)

namespace Delta

theorem IsGain.finiteOnGrid_bare (h : delta.IsGain shared old new) (hold : 1 ≤ old.toNat)
    (hnew : 1 ≤ new.toNat) (holdSize : 2 * (old.toNat : Int) ≤ shared.size.toInt)
    (hnewSize : 2 * (new.toNat : Int) ≤ shared.size.toInt) :
    FiniteOnGrid (-51) 70 (delta.sides.changeShare fun sym => sym.pss - sym.paddingPss) := by
  cases h with
  | @matched before after hbefore hafter =>
    show FiniteOnGrid _ _ ((Change.matched before after).sides.changeShare _)
    rw [Change.changeShare_matched]
    exact (hafter.finiteOnGrid_bare hnew hnewSize).sub (hbefore.finiteOnGrid_bare hold holdSize)
      (by decide) (by decide) (by decide)
  | @added after hafter =>
    show FiniteOnGrid _ _ ((Change.added after).sides.changeShare _)
    rw [Change.changeShare_added]
    exact (hafter.finiteOnGrid_bare hnew hnewSize).sub
      ((Number.countsUnits_zero 0).finiteOnGrid _ _) (by decide) (by decide) (by decide)

/-- The proportional size of a delta is a finite multiple of the unit, even where it is rounded. -/
theorem IsGain.finiteOnGrid_pss (h : delta.IsGain shared old new) (hold : 1 ≤ old.toNat)
    (hnew : 1 ≤ new.toNat) (holdSize : 2 * (old.toNat : Int) ≤ shared.size.toInt)
    (hnewSize : 2 * (new.toNat : Int) ≤ shared.size.toInt) {x : Float} (hx : delta.pss = .ok x) :
    FiniteOnGrid (-51) 72 x := by
  have hbare := h.finiteOnGrid_bare hold hnew holdSize hnewSize
  obtain ⟨attributed, rfl⟩ := h.isPlain.exists_pss_eq hx
  cases attributed with
  | false => exact ⟨hbare.onGrid, hbare.exponentAtMost.mono (by decide)⟩
  | true =>
    have hpadding := h.countsUnits_padding hold hnew (Nat.zero_le 52)
    exact hbare.add (hpadding.finiteOnGrid _ _) (by decide) (by decide) (by decide)

/-- However many shares are added up, and in whatever order, the sum stays on the grid. -/
theorem onGrid_sumPss (hdeltas : ∀ delta ∈ deltas, delta.IsGain shared old new)
    (hold : 1 ≤ old.toNat) (hnew : 1 ≤ new.toNat)
    (holdSize : 2 * (old.toNat : Int) ≤ shared.size.toInt)
    (hnewSize : 2 * (new.toNat : Int) ≤ shared.size.toInt) {start x : Float}
    (hstart : OnGrid (-51) start) (hx : sumPss start deltas = .ok x) : OnGrid (-51) x := by
  induction deltas generalizing start with
  | nil =>
    obtain rfl := Except.ok.inj hx
    exact hstart
  | cons delta deltas ih =>
    obtain ⟨hdelta, hdeltas⟩ := List.forall_mem_cons.1 hdeltas
    obtain ⟨y, hy, hx⟩ := Except.bind_eq_ok.1 hx
    -- the sum so far may be infinite, but the share is not
    have hshare := hdelta.finiteOnGrid_pss hold hnew holdSize hnewSize hy
    exact ih hdeltas (hstart.add hshare.onGrid hshare.isFinite (by decide)) hx

end Delta

end BuildScope
