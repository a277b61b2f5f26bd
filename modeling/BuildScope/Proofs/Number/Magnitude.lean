import BuildScope.Proofs.Number.Grid
import Mathlib.Order.WithBot

/-!
# Magnitudes of Doubles

The absolute values of doubles that are numbers are in a linear order, that of the numbers they
stand for. What a double unpacks to is not changed by packing it again, so that nothing is lost when
the sign is taken off.

* `Number.IsUnpacked.unpack_pack`: what bits stand for is packed into bits that stand for it.
* `Number.magnitude`: an absolute value, as a number of the least units there are.
* `Number.abs_lt_abs_iff`, `Number.abs_eq_abs_iff`: absolute values compare as these numbers do.
* `Number.isNaN_add`: what is finite can be added to any number.
-/

namespace BuildScope.Number

open Float.Model (Format UnpackedFloat)
open Float.Model.UnpackedFloat

/-! ## What bits stand for -/

/-- What the bits of a double can stand for. Finite numbers have all 53 bits, or the least exponent
there is. -/
inductive IsUnpacked : UnpackedFloat → Prop
  | notANumber : IsUnpacked .notANumber
  | infinity (s : Sign) : IsUnpacked (.infinity s)
  | zero (s : Sign) : IsUnpacked (.zero s)
  | finite (s : Sign) (m : Nat) (e : Int) (hm : 0 < m) (hbits : m < 2 ^ 53)
      (hfull : 2 ^ 52 ≤ m ∨ e = -1074) (hge : -1074 ≤ e) (hle : e ≤ 971) :
      IsUnpacked (.finite s m e hm)

variable {u v : UnpackedFloat}

theorem isUnpacked_unpack (bits : BitVec Format.binary64.numBits) :
    IsUnpacked (unpack Format.binary64 bits) := by
  have horder : (unpackExponent bits).toNat < 2048 := (unpackExponent bits).isLt
  have hfraction : (unpackMantissa bits).toNat < 2 ^ 52 := (unpackMantissa bits).isLt
  delta unpack
  dsimp only
  by_cases hfull : unpackExponent bits = -1#11
  · rw [if_pos hfull]
    by_cases hzero : unpackMantissa bits = 0#52
    · rw [if_pos hzero]
      exact .infinity _
    · rw [if_neg hzero]
      exact .notANumber
  -- the exponent bits are not all set, so that the number is finite
  have hlow : (unpackExponent bits).toNat ≠ 2047 := fun h => hfull (BitVec.eq_of_toNat_eq h)
  rw [if_neg hfull]
  by_cases hsubnormal : unpackExponent bits = 0#11
  · have hexponent : ((unpackExponent bits).toNat : Int) - (1023 + 52) + 1 = -1074 := by
      rw [hsubnormal]
      rfl
    rw [if_pos hsubnormal]
    by_cases hzero : unpackMantissa bits = 0#52
    · rw [dif_pos hzero]
      exact .zero _
    · rw [dif_neg hzero]
      exact .finite _ _ _ _ (by omega) (.inr hexponent) (Int.le_of_eq hexponent.symm)
        (Int.le_trans (Int.le_of_eq hexponent) (by decide))
  · -- the leading bit of the mantissa is not stored
    have hpos : (unpackExponent bits).toNat ≠ 0 := fun h => hsubnormal (BitVec.eq_of_toNat_eq h)
    have hmantissa : (1#1 ++ unpackMantissa bits).toNat = 2 ^ 52 + (unpackMantissa bits).toNat :=
      toNat_append_one _
    have hexponent : -1074 ≤ ((unpackExponent bits).toNat : Int) - (1023 + 52) ∧
        ((unpackExponent bits).toNat : Int) - (1023 + 52) ≤ 971 := by omega
    rw [if_neg hsubnormal]
    exact .finite _ _ _ _ (by omega) (.inl (by omega)) hexponent.1 hexponent.2

theorem IsUnpacked.abs (h : IsUnpacked u) : IsUnpacked u.abs := by
  cases h with
  | notANumber => exact .notANumber
  | infinity s => exact .infinity _
  | zero s => exact .zero _
  | finite s m e hm hbits hfull hge hle => exact .finite _ m e hm hbits hfull hge hle

theorem unpack_pack_subnormal (s : Sign) {m : Nat} (hm : 0 < m) (hbits : m < 2 ^ 52) :
    (Float.Model.pack (.finite s m (-1074) hm)).unpack = .finite s m (-1074) hm := by
  have hlog : m.log2 ≠ 52 := by
    have hlt := (Nat.log2_lt (Nat.ne_of_gt hm)).2 hbits
    omega
  have hfraction : (BitVec.ofNat 52 m).toNat = m := by
    rw [BitVec.toNat_ofNat]
    omega
  show unpack Format.binary64 (pack Format.binary64 (.finite s m (-1074) hm)) = _
  rw [pack_finite s hm (by omega), if_neg hlog]
  exact unpack_packComponents_subnormal s hm hfraction

/-- Packing what bits can stand for gives bits that stand for it. -/
theorem IsUnpacked.unpack_pack (h : IsUnpacked u) : (Float.Model.pack u).unpack = u := by
  cases h with
  | notANumber => rfl
  | infinity s => exact unpack_pack_infinity s
  | zero s => exact unpack_pack_zero s
  | finite s m e hm hbits hfull hge hle =>
    rcases Nat.lt_or_ge m (2 ^ 52) with hshort | hlong
    · obtain rfl : e = -1074 := by omega
      exact unpack_pack_subnormal s hm hshort
    · exact unpack_pack_finite s hm ((Nat.log2_eq_iff (Nat.ne_of_gt hm)).2 ⟨hlong, hbits⟩) hge hle

/-! ## The order of magnitudes -/

/-- The absolute value of an unpacked number, in units of 2 to the -1074th. -/
def unpackedMagnitude : UnpackedFloat → WithTop ℕ
  | .zero _ => .some 0
  | .finite _ m e _ => .some (m * 2 ^ (e + 1074).toNat)
  | .infinity _ | .notANumber => ⊤

/-- A number with a lower exponent is the smaller one, as the other has all its bits. -/
theorem mul_two_pow_lt {m m' : Nat} {e e' : Int} (hlt : e < e') (hge : -1074 ≤ e)
    (hbits : m < 2 ^ 53) (hfull : 2 ^ 52 ≤ m') :
    m * 2 ^ (e + 1074).toNat < m' * 2 ^ (e' + 1074).toNat := by
  have hstep : (e + 1074).toNat + 1 ≤ (e' + 1074).toNat := by omega
  calc m * 2 ^ (e + 1074).toNat < 2 ^ 53 * 2 ^ (e + 1074).toNat :=
        Nat.mul_lt_mul_of_pos_right hbits (Nat.two_pow_pos _)
    _ = 2 ^ 52 * 2 ^ ((e + 1074).toNat + 1) := by
        rw [← Nat.pow_add, ← Nat.pow_add]
        congr 1
        omega
    _ ≤ m' * 2 ^ (e' + 1074).toNat :=
        Nat.mul_le_mul hfull (Nat.pow_le_pow_right (by decide) hstep)

/-- Finite absolute values are compared by exponent, then by mantissa. -/
theorem IsUnpacked.compare_then {s s' : Sign} {m m' : Nat} {e e' : Int} {hm : 0 < m}
    {hm' : 0 < m'} (hu : IsUnpacked (.finite s m e hm)) (hv : IsUnpacked (.finite s' m' e' hm')) :
    (compare e e').then (compare m m') =
      compare (m * 2 ^ (e + 1074).toNat) (m' * 2 ^ (e' + 1074).toNat) := by
  cases hu with
  | finite _ _ _ _ hbits hfull hge hle =>
    cases hv with
    | finite _ _ _ _ hbits' hfull' hge' hle' =>
      rcases Int.lt_trichotomy e e' with hlt | rfl | hgt
      -- the greater exponent is not that of subnormal numbers
      · rw [Int.compare_eq_lt.2 hlt,
          Nat.compare_eq_lt.2 (mul_two_pow_lt hlt hge hbits (by omega))]
        rfl
      -- at one exponent the mantissas decide
      · have hscale (a b : Nat) : a * 2 ^ (e + 1074).toNat < b * 2 ^ (e + 1074).toNat ↔ a < b :=
          Nat.mul_lt_mul_right (Nat.two_pow_pos _)
        rw [Int.compare_eq_eq.2 rfl]
        rcases Nat.lt_trichotomy m m' with hlt | rfl | hgt
        · rw [Nat.compare_eq_lt.2 ((hscale m m').2 hlt), Nat.compare_eq_lt.2 hlt]
          rfl
        · rw [Nat.compare_eq_eq.2 rfl, Nat.compare_eq_eq.2 rfl]
          rfl
        · rw [Nat.compare_eq_gt.2 ((hscale m' m).2 hgt), Nat.compare_eq_gt.2 hgt]
          rfl
      · rw [Int.compare_eq_gt.2 hgt,
          Nat.compare_eq_gt.2 (mul_two_pow_lt hgt hge' hbits' (by omega))]
        rfl

/-- Comparing absolute values compares the numbers that they are. -/
theorem IsUnpacked.compare_abs (hu : IsUnpacked u) (hv : IsUnpacked v) (hu' : u.isNaN = false)
    (hv' : v.isNaN = false) : UnpackedFloat.compare u.abs v.abs = some .lt ↔
      unpackedMagnitude u < unpackedMagnitude v := by
  cases u with
  | notANumber => cases hu'
  | infinity s =>
    cases v with
    | notANumber => cases hv'
    | infinity s' => exact ⟨fun h => (nomatch h), fun h => absurd h not_top_lt⟩
    | zero s' => exact ⟨fun h => (nomatch h), fun h => absurd h not_top_lt⟩
    | finite s' m' e' hm' => exact ⟨fun h => (nomatch h), fun h => absurd h not_top_lt⟩
  | zero s =>
    cases v with
    | notANumber => cases hv'
    | infinity s' => exact ⟨fun _ => WithTop.coe_lt_top 0, fun _ => rfl⟩
    | zero s' => exact ⟨fun h => (nomatch h), fun h => absurd h (lt_irrefl _)⟩
    | finite s' m' e' hm' =>
      exact ⟨fun _ => WithTop.coe_lt_coe.2 (Nat.mul_pos hm' (Nat.two_pow_pos _)), fun _ => rfl⟩
  | finite s m e hm =>
    cases v with
    | notANumber => cases hv'
    | infinity s' => exact ⟨fun _ => WithTop.coe_lt_top _, fun _ => rfl⟩
    | zero s' =>
      exact ⟨fun h => (nomatch h), fun h => absurd (WithTop.coe_lt_coe.1 h) (Nat.not_lt_zero _)⟩
    | finite s' m' e' hm' =>
      -- exponents are compared first, and mantissas only if these are equal
      show some ((compare e e').then (compare m m')) = some .lt ↔ _
      rw [hu.compare_then hv, Option.some_inj, Nat.compare_eq_lt]
      exact WithTop.coe_lt_coe.symm

/-- Nothing but the sign is lost in the absolute value. -/
theorem IsUnpacked.abs_eq_of_magnitude_eq (hu : IsUnpacked u) (hv : IsUnpacked v)
    (hu' : u.isNaN = false) (hv' : v.isNaN = false)
    (h : unpackedMagnitude u = unpackedMagnitude v) : u.abs = v.abs := by
  cases u with
  | notANumber => cases hu'
  | infinity s =>
    cases v with
    | notANumber => cases hv'
    | infinity s' => rfl
    | zero s' => cases h
    | finite s' m' e' hm' => cases h
  | zero s =>
    cases v with
    | notANumber => cases hv'
    | infinity s' => cases h
    | zero s' => rfl
    | finite s' m' e' hm' =>
      exact absurd (WithTop.coe_inj.1 h) (Nat.mul_pos hm' (Nat.two_pow_pos _)).ne
  | finite s m e hm =>
    cases v with
    | notANumber => cases hv'
    | infinity s' => cases h
    | zero s' => exact absurd (WithTop.coe_inj.1 h) (Nat.mul_pos hm (Nat.two_pow_pos _)).ne'
    | finite s' m' e' hm' =>
      -- equal magnitudes have equal exponents and mantissas
      have hcompare := hu.compare_then hv
      rw [Nat.compare_eq_eq.2 (WithTop.coe_inj.1 h), Ordering.then_eq_eq] at hcompare
      exact finite_congr rfl (Nat.compare_eq_eq.1 hcompare.2) (Int.compare_eq_eq.1 hcompare.1)

/-! ## Doubles -/

/-- The absolute value of a double, in units of 2 to the -1074th. -/
def magnitude (x : Float) : WithTop ℕ :=
  unpackedMagnitude x.toModel.unpack

variable {x y : Float}

theorem unpack_abs (x : Float) : x.abs.toModel.unpack = x.toModel.unpack.abs := by
  have h : IsUnpacked x.toModel.unpack := isUnpacked_unpack x.toModel.toBits.toBitVec
  exact h.abs.unpack_pack

/-- One absolute value is less than another if it is fewer units. -/
theorem abs_lt_abs_iff (hx : x.isNaN = false) (hy : y.isNaN = false) :
    x.abs < y.abs ↔ magnitude x < magnitude y := by
  rw [lt_iff_compare, unpack_abs, unpack_abs]
  exact (isUnpacked_unpack x.toModel.toBits.toBitVec).compare_abs
    (isUnpacked_unpack y.toModel.toBits.toBitVec) hx hy

theorem magnitude_abs (x : Float) : magnitude x.abs = magnitude x := by
  rw [magnitude, magnitude, unpack_abs]
  cases x.toModel.unpack with
  | notANumber => rfl
  | infinity s => rfl
  | zero s => rfl
  | finite s m e hm => rfl

/-- Two absolute values are equal if they are as many units. -/
theorem abs_eq_abs_iff (hx : x.isNaN = false) (hy : y.isNaN = false) :
    x.abs = y.abs ↔ magnitude x = magnitude y := by
  refine ⟨fun heq => ?_, fun heq => ?_⟩
  · rw [← magnitude_abs x, ← magnitude_abs y, heq]
  · have habs := (isUnpacked_unpack x.toModel.toBits.toBitVec).abs_eq_of_magnitude_eq
      (isUnpacked_unpack y.toModel.toBits.toBitVec) hx hy heq
    exact congrArg (fun u => Float.ofModel (.pack u)) habs

/-! ## Sums of numbers -/

theorem isNaN_unpack_packComponents (s : Sign) {order : BitVec 11} (fraction : BitVec 52)
    (hfull : order ≠ -1#11) :
    (unpack Format.binary64 (packComponents Format.binary64 s order fraction)).isNaN = false := by
  by_cases hzero : order = 0#11
  · rw [hzero]
    generalize hu : unpack _ _ = u
    obtain _ | _ := hu ▸ unpack_packComponents_zero s fraction
    · rfl
    · rfl
  · rw [unpack_packComponents s fraction hzero hfull]
    rfl

/-- Packing makes no number something else, although it may make it infinite or zero. -/
theorem isNaN_unpack_pack (hu : u.isNaN = false) : (Float.Model.pack u).unpack.isNaN = false := by
  cases u with
  | notANumber => cases hu
  | infinity s =>
    rw [unpack_pack_infinity]
    rfl
  | zero s =>
    rw [unpack_pack_zero]
    rfl
  | finite s m e hm =>
    rcases lt_or_ge 971 e with hlarge | hle
    · rw [unpack_pack_of_large s hm hlarge]
      rfl
    · show (unpack Format.binary64 (pack Format.binary64 (.finite s m e hm))).isNaN = false
      rw [pack_finite s hm hle]
      refine isNaN_unpack_packComponents s _ ?_
      -- the exponent bits are not those of infinity
      split
      · intro hfull
        have hbiased := toNat_biased hle
        rw [hfull] at hbiased
        change 2047 = _ at hbiased
        omega
      · decide

theorem isNaN_roundWithAccuracy (s : Sign) (m : Nat) (e : Int) (acc : Accuracy) :
    (roundWithAccuracy Format.binary64 s m e acc).isNaN = false := by
  obtain ⟨m', e', -, -, -, -, hround⟩ := roundWithAccuracy_spec s m e acc
  by_cases hzero : m' = 0
  · rw [hround, dif_pos hzero]
    rfl
  · rw [hround, dif_neg hzero]
    rfl

theorem isNaN_normalize (mantissa e : Int) (s : Sign) :
    (UnpackedFloat.normalize Format.binary64 mantissa e s).isNaN = false := by
  unfold UnpackedFloat.normalize
  split
  · exact isNaN_roundWithAccuracy _ _ _ _
  · rfl
  · exact isNaN_roundWithAccuracy _ _ _ _

/-- Only infinities of different signs have no sum. -/
theorem isNaN_unpacked_add (hu : u.isNaN = false) (hv : v.isFinite) :
    (UnpackedFloat.add Format.binary64 u v).isNaN = false := by
  cases v with
  | notANumber => cases hv
  | infinity s' => cases hv
  | zero s' =>
    cases u with
    | notANumber => cases hu
    | infinity s => rfl
    | zero s =>
      dsimp only [UnpackedFloat.add]
      split
      · rfl
      · rfl
    | finite s m e hm => rfl
  | finite s' m' e' hm' =>
    cases u with
    | notANumber => cases hu
    | infinity s => rfl
    | zero s => rfl
    | finite s m e hm => exact isNaN_normalize _ _ _

/-- A finite double can be added to any number. -/
theorem isNaN_add (hx : x.isNaN = false) (hy : y.isFinite) : (x + y).isNaN = false :=
  isNaN_unpack_pack (isNaN_unpacked_add hx hy)

theorem isNaN_of_isFinite (hx : x.isFinite) : x.isNaN = false := by
  change x.toModel.unpack.isFinite at hx
  show x.toModel.unpack.isNaN = false
  cases hu : x.toModel.unpack with
  | notANumber =>
    rw [hu] at hx
    cases hx
  | infinity s => rfl
  | zero s => rfl
  | finite s m e hm => rfl

end BuildScope.Number
