import BuildScope.Proofs.Diff.Composition
import BuildScope.Proofs.Matching.Identity

/-!
# Proportional Sizes Are Numbers

The change of proportional size of a symbol is a finite double, far from the greatest there is. That
of an alias group is a sum of such changes, which may become infinite but never anything else than a
number. So the deltas of a diff can always be sorted by what they change.

* `Sides.isFinite_pss`: the change of one symbol is finite.
* `Diff.hasNumber_of_mem`: the proportional size of every delta of a diff is a number.
-/

namespace BuildScope

open Number (ExponentAtMost isNaN_add isNaN_of_isFinite)

/-! ## One symbol -/

namespace Sides

/-- A change of shares has a bounded exponent if the shares have. -/
theorem exponentAtMost_changeShare {bytes : Symbol → Float} (hi : Int) (hlo : -1074 ≤ hi)
    (hhi : hi ≤ 969) (h : ∀ sym, ExponentAtMost hi (bytes sym).toModel.unpack) (sides : Sides) :
    ExponentAtMost (hi + 2) (sides.changeShare bytes).toModel.unpack := by
  have hof (side : Option Side) :
      ExponentAtMost hi ((side.map fun side => bytes side.symbol).getD 0).toModel.unpack := by
    cases side with
    | none =>
      show ExponentAtMost hi (0 : Float).toModel.unpack
      exact .zero .positive
    | some side => exact h side.symbol
  exact ((hof sides.after).sub (hof sides.before) hlo).unpack_pack (by omega) (by omega)

/-- A change of proportional size is finite, with the padding or without. -/
theorem isFinite_pss (sides : Sides) (attributed : Bool) : (sides.pss attributed).isFinite := by
  -- with each sum or difference of two doubles, exponents become greater by two at most
  have hbare : ExponentAtMost 70
      (sides.changeShare fun sym => sym.pss - sym.paddingPss).toModel.unpack :=
    exponentAtMost_changeShare 68 (by decide) (by decide) (fun sym =>
      ((sym.exponentAtMost_share sym.size).sub (sym.exponentAtMost_share sym.padding)
        (by decide)).unpack_pack (by decide) (by decide)) sides
  have hpadding : ExponentAtMost 68 (sides.changeShare Symbol.paddingPss).toModel.unpack :=
    exponentAtMost_changeShare 66 (by decide) (by decide)
      (fun sym => sym.exponentAtMost_share sym.padding) sides
  cases attributed with
  | false => exact hbare.isFinite
  | true =>
    exact ((hbare.add (hpadding.mono (by decide)) (by decide)).unpack_pack (by decide)
      (by decide)).isFinite

end Sides

/-! ## Deltas -/

namespace Delta

variable {delta : Delta} {members : List Delta} {x start sum : Float}

theorem IsPlain.isFinite_of_pss (h : delta.IsPlain) (hx : delta.pss = .ok x) : x.isFinite := by
  obtain ⟨change, rfl⟩ := h
  obtain ⟨attributed, -, hx⟩ := Except.bind_eq_ok.1 hx
  rw [← Except.pure_eq_ok.1 hx]
  exact change.sides.isFinite_pss attributed

/-- Finite changes are added to a number one after the other, which it remains. -/
theorem isNaN_sumPss (hmembers : ∀ member ∈ members, member.IsPlain) (hstart : start.isNaN = false)
    (hsum : sumPss start members = .ok sum) : sum.isNaN = false := by
  induction members generalizing start with
  | nil =>
    cases hsum
    exact hstart
  | cons member members ih =>
    obtain ⟨x, hx, hsum⟩ := Except.bind_eq_ok.1 hsum
    obtain ⟨hmember, hmembers⟩ := List.forall_mem_cons.1 hmembers
    -- only the sum so far can be infinite
    exact ih hmembers (isNaN_add hstart (hmember.isFinite_of_pss hx)) hsum

/-- The proportional size of a delta that is not nested is a number. -/
theorem IsFlat.isNaN_of_pss (h : delta.IsFlat) (hx : delta.pss = .ok x) : x.isNaN = false := by
  cases delta with
  | single change => exact isNaN_of_isFinite (IsPlain.isFinite_of_pss ⟨change, rfl⟩ hx)
  | aliasGroup sides members =>
    obtain ⟨-, key, -, hmembers⟩ := h.ofGroup sides members rfl
    exact isNaN_sumPss (fun member hmember => (hmembers member hmember).1) rfl hx

end Delta

/-- The proportional size of every delta of a diff is a number. -/
theorem Diff.hasNumber_of_mem {before after : Snapshot} {sorted : Bool} {diff : Diff}
    {delta : Delta} (h : ofSnapshots before after sorted = .ok diff)
    (hdelta : delta ∈ diff.deltas) : delta.HasNumber := by
  obtain ⟨x, hx⟩ := exists_pss_of_mem h hdelta
  exact ⟨x, hx, (isFlat_of_mem h hdelta).isNaN_of_pss hx⟩

end BuildScope
