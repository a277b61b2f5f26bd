import BuildScope.Number.Binary64
import Mathlib.Algebra.Order.Ring.Int

/-!
# Exponents of Doubles

How large quotients of integers and their differences can become as doubles. Arithmetic on doubles
unpacks them to a mantissa and an exponent, rounds the result to 53 bits, and packs it. Only packing
can lead to infinity, and only from an exponent above 971, so it is enough to bound exponents.

* `Number.roundWithAccuracy_spec`: what rounding makes of a mantissa and an exponent.
* `Number.ExponentAtMost.unpack_pack`, `Number.Normal.unpack_pack`: packing keeps bounded exponents.
* `Number.isFinite_ratio_sub_ratio`: the difference of two quotients of integers is finite.
* `Number.sub_self_of_isFinite`: a finite double less itself is zero.
-/

namespace BuildScope.Number

open Float.Model (Format UnpackedFloat totalExponent)
open Float.Model.UnpackedFloat

/-! ## Binary logarithms -/

private theorem log2_half (n : Nat) : (n / 2).log2 = n.log2 - 1 := by
  rw [Nat.log2_def n]
  split
  · rfl
  · have hzero : n / 2 = 0 := by omega
    rw [hzero, Nat.log2_zero]

/-- Moving a number up adds to its logarithm. -/
theorem log2_shiftLeft {m : Nat} (hm : m ≠ 0) (k : Nat) :
    (m <<< k).log2 = m.log2 + k := by
  induction k with
  | zero => rfl
  | succ k ih =>
    have hne : m <<< k ≠ 0 := by simpa using hm
    rw [Nat.shiftLeft_succ, Nat.log2_two_mul hne, ih]
    rfl

/-- A greater number has no lower logarithm. -/
theorem log2_mono {m n : Nat} (h : m ≤ n) : m.log2 ≤ n.log2 := by
  by_cases hm : m = 0
  · rw [hm, Nat.log2_zero]
    exact Nat.zero_le _
  · exact (Nat.le_log2 (by omega)).2 (Nat.le_trans (Nat.log2_self_le hm) h)

private theorem log2_le_of_lt {n : Nat} (h : n < 0x10000000000000000) : n.log2 ≤ 63 := by
  by_cases hn : n = 0
  · rw [hn, Nat.log2_zero]
    exact Nat.zero_le 63
  · exact Nat.le_of_lt_succ ((Nat.log2_lt hn).2 (by omega))

/-- A sum has at most one bit more than its greater part. -/
private theorem log2_add_le (m n : Nat) : (m + n).log2 ≤ max m.log2 n.log2 + 1 := by
  have hle {m n : Nat} (h : m ≤ n) : (m + n).log2 ≤ n.log2 + 1 := by
    by_cases hn : n = 0
    · obtain rfl : m = 0 := by omega
      rw [hn]
      exact Nat.zero_le _
    · rw [← Nat.log2_two_mul hn]
      exact log2_mono (by omega)
  rcases Nat.le_total m n with h | h
  · have := hle h
    omega
  · have := hle h
    rw [Nat.add_comm] at this
    omega

/-! ## Rounding -/

/-- Each bit that a mantissa drops takes one from its logarithm. -/
theorem log2_mantissa_shiftRight (em : ExtendedMantissa) (k : Nat) :
    (em >>> k).mantissa.log2 = em.mantissa.log2 - k := by
  induction k with
  | zero => rfl
  | succ k ih =>
    have hstep : em >>> (k + 1) = (em >>> k).shiftRightOne := rfl
    rw [hstep, ExtendedMantissa.shiftRightOne, log2_half, ih]
    omega

/-- What is known of dropped bits is kept apart from the mantissa. -/
theorem mantissa_ofMantissaAndAccuracy (m : Nat) (acc : Accuracy) :
    (ExtendedMantissa.ofMantissaAndAccuracy m acc).mantissa = m := by
  match acc with
  | .exact => rfl
  | .inexact .lt => rfl
  | .inexact .eq => rfl
  | .inexact .gt => rfl

/-- Rounding adds at most one to a mantissa. -/
theorem roundedMantissa_bounds (em : ExtendedMantissa) :
    em.mantissa ≤ em.roundedMantissa ∧ em.roundedMantissa ≤ em.mantissa + 1 := by
  unfold ExtendedMantissa.roundedMantissa Accuracy.roundToNearestEven
  split <;> omega

/-- The exponent to be reached leaves 53 bits, and is not below that of subnormal numbers. -/
theorem targetExponent_totalExponent (m : Nat) (e : Int) :
    Format.binary64.targetExponent (totalExponent m e) = max (m.log2 + e - 52) (-1074) := by
  show max (m.log2 + 1 + e - 53) (-1074) = _
  omega

/-- A mantissa drops as many bits as its exponent is too low by. -/
theorem shiftToTargetExponent_spec (m : Nat) (e : Int) (acc : Accuracy) :
    (shiftToTargetExponent Format.binary64 m e acc).1.mantissa.log2 =
        m.log2 - (max (m.log2 + e - 52) (-1074) - e).toNat ∧
      (shiftToTargetExponent Format.binary64 m e acc).2 =
        max e (max (m.log2 + e - 52) (-1074)) := by
  unfold shiftToTargetExponent shiftToExponent
  rw [targetExponent_totalExponent]
  constructor
  · dsimp only
    rw [log2_mantissa_shiftRight, mantissa_ofMantissaAndAccuracy]
  · dsimp only
    omega

/-- A mantissa is cut to 53 bits or fewer, and its exponent becomes the one that this takes, or by
rounding up the next. All 53 bits are used if there are as many, and the exponent can be so low. -/
theorem roundWithAccuracy_spec (s : Sign) (m : Nat) (e : Int) (acc : Accuracy) :
    ∃ m' e', m'.log2 ≤ 52 ∧ max e (max (m.log2 + e - 52) (-1074)) ≤ e' ∧
      e' ≤ max e (max (m.log2 + e - 52) (-1074)) + 1 ∧
      (52 ≤ m.log2 → -1074 ≤ m.log2 + e - 52 → m'.log2 = 52) ∧
      roundWithAccuracy Format.binary64 s m e acc =
        if h : m' = 0 then .zero s else .finite s m' e' (Nat.pos_of_ne_zero h) := by
  obtain ⟨hshift, hexp⟩ := shiftToTargetExponent_spec m e acc
  generalize hfirst : shiftToTargetExponent Format.binary64 m e acc = first at hshift hexp
  obtain ⟨em, e₁⟩ := first
  dsimp only at hshift hexp
  -- rounding up can carry into one more bit, which the second shift drops
  obtain ⟨hle, hle'⟩ := roundedMantissa_bounds em
  have hlow : em.mantissa.log2 ≤ em.roundedMantissa.log2 := log2_mono hle
  have hhigh : em.roundedMantissa.log2 ≤ em.mantissa.log2 + 1 := by
    have hsum := Nat.le_trans (log2_mono hle') (log2_add_le em.mantissa 1)
    have hone : Nat.log2 1 = 0 := rfl
    omega
  obtain ⟨hshift', hexp'⟩ := shiftToTargetExponent_spec em.roundedMantissa e₁ .exact
  refine ⟨(shiftToTargetExponent Format.binary64 em.roundedMantissa e₁ .exact).1.mantissa,
    (shiftToTargetExponent Format.binary64 em.roundedMantissa e₁ .exact).2, ?_, ?_, ?_, ?_, ?_⟩
  · omega
  · omega
  · omega
  · omega
  · rw [roundWithAccuracy, hfirst]

/-! ## Bounded exponents -/

/-- Zero, or a number of at most 53 bits whose exponent is at most `hi`. -/
inductive ExponentAtMost (hi : Int) : UnpackedFloat → Prop
  | zero (s : Sign) : ExponentAtMost hi (.zero s)
  | finite (s : Sign) (m : Nat) (e : Int) (hm : 0 < m) (hlog : m.log2 ≤ 52) (hle : e ≤ hi) :
      ExponentAtMost hi (.finite s m e hm)

/-- A number of exactly 53 bits whose exponent is between `lo` and `hi`. -/
inductive Normal (lo hi : Int) : UnpackedFloat → Prop
  | finite (s : Sign) (m : Nat) (e : Int) (hm : 0 < m) (hlog : m.log2 = 52) (hge : lo ≤ e)
      (hle : e ≤ hi) : Normal lo hi (.finite s m e hm)

variable {lo lo' hi hi' : Int} {u v : UnpackedFloat}

/-- A bound may be raised. -/
theorem ExponentAtMost.mono (h : ExponentAtMost hi u) (hhi : hi ≤ hi') : ExponentAtMost hi' u := by
  cases h with
  | zero s => exact .zero s
  | finite s m e hm hlog hle => exact .finite s m e hm hlog (Int.le_trans hle hhi)

/-- The range of an exponent may be widened. -/
theorem Normal.mono (h : Normal lo hi u) (hlo : lo' ≤ lo) (hhi : hi ≤ hi') : Normal lo' hi' u := by
  cases h with
  | finite s m e hm hlog hge hle =>
    exact .finite s m e hm hlog (Int.le_trans hlo hge) (Int.le_trans hle hhi)

/-- Numbers of exactly 53 bits are among those of at most 53. -/
theorem Normal.exponentAtMost (h : Normal lo hi u) : ExponentAtMost hi u := by
  cases h with
  | finite s m e hm hlog _ hle => exact .finite s m e hm (Nat.le_of_eq hlog) hle

/-- A bounded number is finite. -/
theorem ExponentAtMost.isFinite (h : ExponentAtMost hi u) : u.isFinite := by
  cases h with
  | zero => rfl
  | finite => rfl

/-! ## Packing -/

/-- The bits that stand for an exponent. -/
def biased (e : Int) : BitVec 11 :=
  BitVec.ofNat 11 (e + 1075).toNat

/-- An exponent in range has its own bits. -/
theorem toNat_biased {e : Int} (h : e ≤ 971) : (biased e).toNat = (e + 1075).toNat := by
  rw [biased, BitVec.toNat_ofNat]
  omega

/-- Packing keeps the sign, whatever the other bits are. -/
theorem ofBitVec_unpackSign {spec : Format} (s : Sign) (order : BitVec spec.exponentBits)
    (fraction : BitVec spec.mantissaBitsWithoutImplicit) :
    Sign.ofBitVec (unpackSign (packComponents spec s order fraction)) = s := by
  have hsign : unpackSign (packComponents spec s order fraction) = s.toBitVec := by
    ext i hi
    obtain rfl : i = 0 := by omega
    delta unpackSign packComponents
    simp [BitVec.getLsbD_append, BitVec.getElem_append]
  rw [hsign]
  cases s <;> rfl

/-- The leading bit counts for what the fraction falls short of. -/
theorem toNat_append_one (fraction : BitVec 52) :
    (1#1 ++ fraction).toNat = 2 ^ 52 + fraction.toNat := by
  rw [BitVec.toNat_append, ← Nat.shiftLeft_add_eq_or_of_lt fraction.isLt]
  rfl

theorem finite_congr {s s' : Sign} {m m' : Nat} {e e' : Int} {hm : 0 < m} {hm' : 0 < m'}
    (hs : s = s') (hmantissa : m = m') (hexponent : e = e') :
    UnpackedFloat.finite s m e hm = .finite s' m' e' hm' := by
  obtain rfl := hs
  obtain rfl := hmantissa
  obtain rfl := hexponent
  rfl

/-- With other exponent bits than those of zero and infinity, a leading bit is added to the
fraction. -/
theorem unpack_packComponents (s : Sign) {order : BitVec 11} (fraction : BitVec 52)
    (hzero : order ≠ 0#11) (hfull : order ≠ -1#11) :
    unpack Format.binary64 (packComponents Format.binary64 s order fraction) =
      .finite s (2 ^ 52 + fraction.toNat) (order.toNat - 1075) (by omega) := by
  have horder : unpackExponent (packComponents Format.binary64 s order fraction) = order :=
    unpackExponent_packComponents
  have hfraction : unpackMantissa (packComponents Format.binary64 s order fraction) = fraction :=
    unpackMantissa_packComponents
  delta unpack
  dsimp only
  rw [if_neg (horder.symm ▸ hfull), if_neg (horder.symm ▸ hzero)]
  refine finite_congr ?_ ?_ ?_
  · rw [ofBitVec_unpackSign]
  · rw [hfraction]
    exact toNat_append_one fraction
  · rw [horder]
    rfl

/-- With the exponent bits of zero, the fraction is all of the mantissa. -/
theorem unpack_packComponents_subnormal (s : Sign) {fraction : BitVec 52} {m : Nat} (hm : 0 < m)
    (hfraction : fraction.toNat = m) :
    unpack Format.binary64 (packComponents Format.binary64 s 0#11 fraction) =
      .finite s m (-1074) hm := by
  have horder : unpackExponent (packComponents Format.binary64 s 0#11 fraction) = 0#11 :=
    unpackExponent_packComponents
  have hmantissa : unpackMantissa (packComponents Format.binary64 s 0#11 fraction) = fraction :=
    unpackMantissa_packComponents
  have hpartial : ¬ (0#11 = -1#11) := by decide
  have hne : fraction ≠ 0#52 := by
    rintro rfl
    exact hm.ne hfraction
  delta unpack
  dsimp only
  rw [if_neg (horder.symm ▸ hpartial), if_pos horder, dif_neg (hmantissa.symm ▸ hne)]
  refine finite_congr ?_ ?_ ?_
  · rw [ofBitVec_unpackSign]
  · rw [hmantissa]
    exact hfraction
  · rw [horder]
    rfl

theorem unpack_packedZero (s : Sign) :
    unpack Format.binary64 (packComponents Format.binary64 s 0#11 0#52) = .zero s := by
  cases s <;> rfl

/-- With the exponent bits of zero, a number is subnormal or zero. -/
theorem unpack_packComponents_zero (s : Sign) (fraction : BitVec 52) :
    ExponentAtMost (-1074)
      (unpack Format.binary64 (packComponents Format.binary64 s 0#11 fraction)) := by
  rcases Nat.eq_zero_or_pos fraction.toNat with hzero | hpos
  · obtain rfl : fraction = 0#52 := BitVec.eq_of_toNat_eq hzero
    rw [unpack_packedZero]
    exact .zero s
  · rw [unpack_packComponents_subnormal s hpos rfl]
    exact .finite s _ _ hpos
      (Nat.le_of_lt ((Nat.log2_lt (Nat.ne_of_gt hpos)).2 fraction.isLt)) (Int.le_refl _)

/-- A number that does not use all 53 bits has the exponent bits of zero. -/
theorem pack_finite (s : Sign) {m : Nat} {e : Int} (hm : 0 < m) (he : e ≤ 971) :
    pack Format.binary64 (.finite s m e hm) =
      packComponents Format.binary64 s (if m.log2 = 52 then biased e else 0#11)
        (BitVec.ofNat 52 m) := by
  have hbias : e + 1023 + 52 = e + 1075 := by omega
  show (if 2048 ≤ (e + 1023 + 52).toNat + 1 then packedInfinity Format.binary64 s
    else if m.log2 + 1 = 53 then
      packComponents Format.binary64 s (BitVec.ofNat 11 (e + 1023 + 52).toNat) (BitVec.ofNat 52 m)
    else packComponents Format.binary64 s 0#11 (BitVec.ofNat 52 m)) = _
  rw [hbias, if_neg (by omega)]
  by_cases hlog : m.log2 = 52
  · rw [if_pos (by omega), if_pos hlog, biased]
  · rw [if_neg (by omega), if_neg hlog]

/-- A number of exactly 53 bits with an exponent in range is not changed by packing. -/
theorem unpack_pack_finite (s : Sign) {m : Nat} {e : Int} (hm : 0 < m) (hlog : m.log2 = 52)
    (hlo : -1074 ≤ e) (hhi : e ≤ 971) :
    (Float.Model.pack (.finite s m e hm)).unpack = .finite s m e hm := by
  have hbiased : (biased e).toNat = (e + 1075).toNat := toNat_biased hhi
  have hzero : biased e ≠ 0#11 := by
    intro h
    rw [h] at hbiased
    change 0 = _ at hbiased
    omega
  have hfull : biased e ≠ -1#11 := by
    intro h
    rw [h] at hbiased
    change 2047 = _ at hbiased
    omega
  -- the leading bit of a mantissa is left out when it is packed
  have hmantissa : 2 ^ 52 + (BitVec.ofNat 52 m).toNat = m := by
    rw [BitVec.toNat_ofNat]
    obtain ⟨hle, hlt⟩ := (Nat.log2_eq_iff (Nat.ne_of_gt hm)).1 hlog
    omega
  have hexponent : ((biased e).toNat : Int) - 1075 = e := by omega
  show unpack Format.binary64 (pack Format.binary64 (.finite s m e hm)) = _
  rw [pack_finite s hm hhi, if_pos hlog, unpack_packComponents s _ hzero hfull]
  exact finite_congr rfl hmantissa hexponent

/-- Packing keeps the range of an exponent. -/
theorem Normal.unpack_pack (h : Normal lo hi u) (hlo : -1074 ≤ lo) (hhi : hi ≤ 971) :
    Normal lo hi (Float.Model.pack u).unpack := by
  cases h with
  | finite s m e hm hlog hge hle =>
    rw [unpack_pack_finite s hm hlog (by omega) (by omega)]
    exact .finite s m e hm hlog hge hle

/-- Packing keeps a bound. A number may become subnormal, or even zero. -/
theorem ExponentAtMost.unpack_pack (h : ExponentAtMost hi u) (hlo : -1074 ≤ hi) (hhi : hi ≤ 971) :
    ExponentAtMost hi (Float.Model.pack u).unpack := by
  cases h with
  | zero s => exact (unpack_packComponents_zero s 0).mono hlo
  | finite s m e hm hlog hle =>
    by_cases hnormal : m.log2 = 52 ∧ -1074 ≤ e
    · have h : Normal e hi (.finite s m e hm) := .finite s m e hm hnormal.1 (Int.le_refl e) hle
      exact (h.unpack_pack hnormal.2 hhi).exponentAtMost
    · -- the exponent is that of subnormal numbers, or too low to be told from it
      have hbits : (if m.log2 = 52 then biased e else 0#11) = 0#11 := by
        split
        · have hlow : (e + 1075).toNat = 0 := by omega
          rw [biased, hlow]
        · rfl
      show ExponentAtMost hi (unpack Format.binary64 (pack Format.binary64 (.finite s m e hm)))
      rw [pack_finite s hm (by omega), hbits]
      exact (unpack_packComponents_zero s _).mono hlo

/-! ## Operations -/

/-- A mantissa of more than 52 bits is cut to exactly 53, unless it becomes subnormal. -/
theorem roundWithAccuracy_normal (s : Sign) {m : Nat} {e : Int} (acc : Accuracy)
    (hlog : 52 ≤ m.log2) (hmin : -1074 ≤ m.log2 + e - 52) :
    Normal (m.log2 + e - 52) (m.log2 + e - 51)
      (roundWithAccuracy Format.binary64 s m e acc) := by
  obtain ⟨m', e', -, hlo, hhi, hnormal, hround⟩ := roundWithAccuracy_spec s m e acc
  have hlog' : m'.log2 = 52 := hnormal hlog hmin
  have hne : m' ≠ 0 := by
    rintro rfl
    cases hlog'
  rw [hround, dif_neg hne]
  exact .finite s m' e' _ hlog' (by omega) (by omega)

/-- Rounding raises a bound by one, in case it carries. -/
theorem roundWithAccuracy_exponentAtMost (s : Sign) {m : Nat} {e : Int} (acc : Accuracy)
    (hmin : -1074 ≤ hi) (he : e ≤ hi) (hlog : m.log2 + e - 52 ≤ hi) :
    ExponentAtMost (hi + 1) (roundWithAccuracy Format.binary64 s m e acc) := by
  obtain ⟨m', e', hlog', -, hhi, -, hround⟩ := roundWithAccuracy_spec s m e acc
  rw [hround]
  by_cases hzero : m' = 0
  · rw [dif_pos hzero]
    exact .zero s
  · rw [dif_neg hzero]
    exact .finite s m' e' _ hlog' (by omega)

/-- Lowering an exponent moves the mantissa up by as much. -/
theorem decreaseExponent_spec {m : Nat} (hm : m ≠ 0) (e target : Int) :
    (decreaseExponent m e target).1.log2 = m.log2 + (e - target).toNat ∧
      (decreaseExponent m e target).2 = min e target := by
  unfold decreaseExponent
  exact ⟨log2_shiftLeft hm _, by dsimp only; omega⟩

/-- Before a number is rounded its mantissa is moved up, which does not change its magnitude. -/
theorem round_eq (s : Sign) {m : Nat} (hm : m ≠ 0) (e : Int) :
    ∃ m' e', m'.log2 + e' = m.log2 + e ∧ e' ≤ max (m.log2 + e - 52) (-1074) ∧
      UnpackedFloat.round Format.binary64 s m e =
        roundWithAccuracy Format.binary64 s m' e' .exact := by
  obtain ⟨hlog, hexp⟩ := decreaseExponent_spec hm e (max (m.log2 + e - 52) (-1074))
  refine ⟨(decreaseExponent m e (max (m.log2 + e - 52) (-1074))).1,
    (decreaseExponent m e (max (m.log2 + e - 52) (-1074))).2, ?_, ?_, ?_⟩
  · omega
  · omega
  · rw [UnpackedFloat.round, targetExponent_totalExponent]

/-- A number that is not subnormal is rounded to exactly 53 bits. -/
theorem round_normal (s : Sign) {m : Nat} (hm : m ≠ 0) {e : Int}
    (hmin : -1074 ≤ m.log2 + e - 52) :
    Normal (m.log2 + e - 52) (m.log2 + e - 51) (UnpackedFloat.round Format.binary64 s m e) := by
  obtain ⟨m', e', hmagnitude, hle, hround⟩ := round_eq s hm e
  rw [hround]
  exact (roundWithAccuracy_normal s .exact (by omega) (by omega)).mono (by omega) (by omega)

/-- A number is rounded to one with an exponent that its magnitude bounds. -/
theorem round_exponentAtMost (s : Sign) {m : Nat} (hm : m ≠ 0) {e : Int} (hmin : -1074 ≤ hi)
    (hlog : m.log2 + e - 52 ≤ hi) :
    ExponentAtMost (hi + 1) (UnpackedFloat.round Format.binary64 s m e) := by
  obtain ⟨m', e', hmagnitude, hle, hround⟩ := round_eq s hm e
  rw [hround]
  exact roundWithAccuracy_exponentAtMost s .exact hmin (by omega) (by omega)

/-- So is a mantissa with a sign of its own. -/
theorem normalize_exponentAtMost {mantissa e : Int} (s : Sign) (hmin : -1074 ≤ hi)
    (hlog : mantissa.natAbs.log2 + e - 52 ≤ hi) :
    ExponentAtMost (hi + 1) (UnpackedFloat.normalize Format.binary64 mantissa e s) := by
  unfold UnpackedFloat.normalize
  split
  · next hneg =>
    have hneg := Int.compare_eq_lt.1 hneg
    have habs : (-mantissa).toNat = mantissa.natAbs := by omega
    rw [habs]
    exact round_exponentAtMost _ (by omega) hmin hlog
  · exact .zero s
  · next hpos =>
    have hpos := Int.compare_eq_gt.1 hpos
    have habs : mantissa.toNat = mantissa.natAbs := by omega
    rw [habs]
    exact round_exponentAtMost _ (by omega) hmin hlog

/-- Negation keeps a bound. -/
theorem ExponentAtMost.neg (h : ExponentAtMost hi u) : ExponentAtMost hi u.neg := by
  cases h with
  | zero s => exact .zero _
  | finite s m e hm hlog hle => exact .finite _ m e hm hlog hle

/-- Numbers with signs differ by no more than both together. -/
theorem natAbs_apply_sub_le (s s' : Sign) (m n : Nat) :
    (s.apply m - s'.apply n).natAbs ≤ m + n := by
  cases s <;> cases s' <;> simp only [Sign.apply] <;> omega

/-- A difference raises a bound by two: one more bit, and rounding. -/
theorem ExponentAtMost.sub (hu : ExponentAtMost hi u) (hv : ExponentAtMost hi v)
    (hmin : -1074 ≤ hi) : ExponentAtMost (hi + 2) (UnpackedFloat.sub Format.binary64 u v) := by
  cases hu with
  | zero s =>
    cases hv with
    | zero s' =>
      dsimp only [UnpackedFloat.sub]
      split
      · exact .zero s
      · exact .zero .positive
    | finite s' m' e' hm' hlog' hle' => exact .finite (-s') m' e' hm' hlog' (by omega)
  | finite s m e hm hlog hle =>
    cases hv with
    | zero s' => exact .finite s m e hm hlog (by omega)
    | finite s' m' e' hm' hlog' hle' =>
      obtain ⟨hbits, -⟩ := decreaseExponent_spec (Nat.ne_of_gt hm) e (min e e')
      obtain ⟨hbits', -⟩ := decreaseExponent_spec (Nat.ne_of_gt hm') e' (min e e')
      dsimp only [UnpackedFloat.sub]
      -- with the lower exponent for both, mantissas become longer, but not the numbers greater
      generalize (decreaseExponent m e (min e e')).1 = n at hbits ⊢
      generalize (decreaseExponent m' e' (min e e')).1 = n' at hbits' ⊢
      have hlog : (s.apply n - s'.apply n').natAbs.log2 ≤ max n.log2 n'.log2 + 1 :=
        Nat.le_trans (log2_mono (natAbs_apply_sub_le s s' n n')) (log2_add_le n n')
      have hmin' : -1074 ≤ hi + 1 := by omega
      exact (normalize_exponentAtMost .positive hmin' (by omega)).mono (by omega)

/-- Dividing by a number of 53 bits takes the least exponent of this from the bound. -/
theorem ExponentAtMost.div (hu : ExponentAtMost hi u) (hv : Normal lo hi' v)
    (hmin : -1074 ≤ hi - lo) :
    ExponentAtMost (hi - lo + 1) (UnpackedFloat.div Format.binary64 u v) := by
  cases hv with
  | finite s' m' e' hm' hlog' hge' hle' =>
    cases hu with
    | zero s => exact .zero _
    | finite s m e hm hlog hle =>
      -- a quotient has no more bits than what is divided
      have hquotient (shift : Nat) : ((m <<< shift) / m').log2 ≤ m.log2 + shift := by
        rw [← log2_shiftLeft (Nat.ne_of_gt hm)]
        exact log2_mono (Nat.div_le_self _ _)
      dsimp only [UnpackedFloat.div, divCore]
      generalize Format.binary64.targetExponent _ = target
      have hquotient := hquotient (e - e' - min (e - e') target).toNat
      exact roundWithAccuracy_exponentAtMost _ _ hmin (by omega) (by omega)

/-! ## Integers as doubles -/

/-- An integer is rounded to exactly 53 bits. -/
theorem normalize_normal {n : Nat} (hn : n ≠ 0) (s : Sign) :
    Normal (n.log2 - 52) (n.log2 - 51) (UnpackedFloat.normalize Format.binary64 n 0 s) := by
  have hmin : -1074 ≤ (n.log2 : Int) + 0 - 52 := by omega
  unfold UnpackedFloat.normalize
  rw [Int.compare_eq_gt.2 (by omega)]
  exact (round_normal .positive hn hmin).mono (by omega) (by omega)

theorem unpack_one : (Float.ofBits 0x3FF0000000000000).toModel.unpack =
    .finite .positive 0x10000000000000 (-52) (by decide) := by
  rfl

/-- A factor of one can change no more than rounding may. -/
theorem Normal.mul_one (h : Normal lo hi u) (hmin : -1074 ≤ lo) :
    Normal lo (hi + 1) (UnpackedFloat.mul Format.binary64 u
      (.finite .positive 0x10000000000000 (-52) (by decide))) := by
  cases h with
  | finite s m e hm hlog hge hle =>
    have hproduct : m * 0x10000000000000 = m <<< 52 := by rw [Nat.shiftLeft_eq]
    have hlog' : (m <<< 52).log2 = 104 := by rw [log2_shiftLeft (Nat.ne_of_gt hm), hlog]
    dsimp only [UnpackedFloat.mul]
    rw [hproduct]
    generalize m <<< 52 = shifted at hlog'
    exact (roundWithAccuracy_normal _ .exact (by omega) (by omega)).mono (by omega) (by omega)

/-- A literal without decimals is rounded to exactly 53 bits. -/
theorem ofScientific_normal {n : Nat} (hn : n ≠ 0) :
    Normal (n.log2 - 52) (n.log2 - 51) (UnpackedFloat.ofScientific Format.binary64 n 0) := by
  have hproduct : n <<< 53 * 10 ^ (0 : Int).toNat = n <<< 53 := Nat.mul_one _
  have hlog : (n <<< 53).log2 = n.log2 + 53 := log2_shiftLeft hn 53
  have hbits : Format.binary64.mantissaBits = 53 := rfl
  have hrange : ¬ (0 : Int) < -(2 ^ Format.binary64.exponentBits + n.log2) := by
    show ¬ (0 : Int) < -(2048 + n.log2)
    omega
  rw [UnpackedFloat.ofScientific, dif_neg hn, if_neg (by decide), if_neg hrange,
    if_pos (by decide)]
  dsimp only [UnpackedFloat.mul]
  rw [hbits, hproduct]
  generalize n <<< 53 = shifted at hlog
  exact (roundWithAccuracy_normal _ .exact (by omega) (by omega)).mono (by omega) (by omega)

/-- Below this number conversion is exact, and a factor of one follows. -/
theorem unpack_ofNat_of_lt {n : Nat} (h : n < 2 ^ 53) :
    (Float.ofNat n).toModel.unpack = (Float.Model.pack (UnpackedFloat.mul Format.binary64
      (Float.Model.pack (UnpackedFloat.normalize Format.binary64 n 0 .positive)).unpack
      (.finite .positive 0x10000000000000 (-52) (by decide)))).unpack := by
  -- a small number is converted and multiplied by one
  have hof : Float.ofNat n = n.toUInt64.toFloat * Float.ofBits 0x3FF0000000000000 := by
    show Float.ofScientific n false 0 = _
    rw [Float.ofScientific, dif_pos ⟨h, by omega⟩]
    rfl
  have hnat : n.toUInt64.toNat = n := by
    rw [Nat.toUInt64_eq, UInt64.toNat_ofNat']
    omega
  have hfactor : n.toUInt64.toFloat.toModel.unpack =
      (Float.Model.pack (UnpackedFloat.normalize Format.binary64 n 0 .positive)).unpack := by
    show (Float.Model.pack (UnpackedFloat.normalize Format.binary64
      n.toUInt64.toNat 0 .positive)).unpack = _
    rw [hnat]
  rw [hof, ← hfactor, ← unpack_one]
  rfl

/-- From this number on it may be rounded to the next exponent. -/
theorem unpack_ofNat_of_ge {n : Nat} (h : 2 ^ 53 ≤ n) (hbits : n < 0x10000000000000000) :
    Normal (n.log2 - 52) (n.log2 - 51) (Float.ofNat n).toModel.unpack := by
  have hlog : n.log2 ≤ 63 := log2_le_of_lt hbits
  have hof : Float.ofNat n = .ofModel (.ofScientific n 0) := by
    show Float.ofScientific n false 0 = _
    rw [Float.ofScientific, dif_neg fun hsmall => Nat.not_lt.2 h hsmall.1]
    rfl
  rw [hof]
  exact (ofScientific_normal (by omega)).unpack_pack (by omega) (by omega)

/-- A number of at most 64 bits becomes a double that uses all 53 bits. -/
theorem unpack_ofNat {n : Nat} (hn : n ≠ 0) (hbits : n < 0x10000000000000000) :
    Normal (-52) 13 (Float.ofNat n).toModel.unpack := by
  have hlog : n.log2 ≤ 63 := log2_le_of_lt hbits
  rcases Nat.lt_or_ge n (2 ^ 53) with hsmall | hlarge
  · have hfactor : Normal (-52) 12
        (Float.Model.pack (UnpackedFloat.normalize Format.binary64 n 0 .positive)).unpack :=
      ((normalize_normal hn .positive).mono (by omega) (by omega)).unpack_pack (by decide)
        (by decide)
    rw [unpack_ofNat_of_lt hsmall]
    exact (hfactor.mul_one (by decide)).unpack_pack (by decide) (by decide)
  · exact (unpack_ofNat_of_ge hlarge hbits).mono (by omega) (by omega)

/-- An integer of at most 64 bits is bounded, whatever its sign. -/
theorem unpack_ofInt {n : Int} (hbits : n.natAbs < 0x10000000000000000) :
    ExponentAtMost 13 (Float.ofInt n).toModel.unpack := by
  match n with
  | .ofNat 0 => exact .zero .positive
  | .ofNat (n + 1) => exact (unpack_ofNat (Nat.succ_ne_zero n) hbits).exponentAtMost
  | .negSucc n =>
    exact (unpack_ofNat (Nat.succ_ne_zero n) hbits).exponentAtMost.neg.unpack_pack (by decide)
      (by decide)

/-! ## Quotients and differences -/

/-- So is a quotient of such integers. -/
theorem unpack_ratio {n : Int} {d : Nat} (hn : n.natAbs < 0x10000000000000000) (hd : d ≠ 0)
    (hd' : d < 0x10000000000000000) :
    ExponentAtMost 66 (Float.ofInt n / Float.ofNat d).toModel.unpack :=
  ((unpack_ofInt hn).div (unpack_ofNat hd hd') (by decide)).unpack_pack (by decide) (by decide)

/-- The difference of two quotients of numbers of at most 64 bits is finite. -/
theorem isFinite_ratio_sub_ratio {n n' : Int} {d : Nat} (hn : n.natAbs < 0x10000000000000000)
    (hn' : n'.natAbs < 0x10000000000000000) (hd : d ≠ 0) (hd' : d < 0x10000000000000000) :
    (Float.ofInt n / Float.ofNat d - Float.ofInt n' / Float.ofNat d).isFinite :=
  (((unpack_ratio hn hd hd').sub (unpack_ratio hn' hd hd') (by decide)).unpack_pack
    (by decide) (by decide)).isFinite

/-- A finite number less itself is zero before it is packed. -/
theorem unpacked_sub_self (hu : u.isFinite) :
    UnpackedFloat.sub Format.binary64 u u = .zero .positive := by
  cases u with
  | infinity s => cases hu
  | notANumber => cases hu
  | zero s => cases s <;> rfl
  | finite s m e hm =>
    dsimp only [UnpackedFloat.sub]
    rw [Int.sub_self]
    rfl

/-- A finite double less itself is zero. -/
theorem sub_self_of_isFinite {x : Float} (hx : x.isFinite) : x - x = 0 := by
  show Float.ofModel (.pack (UnpackedFloat.sub Format.binary64 x.toModel.unpack
    x.toModel.unpack)) = 0
  rw [unpacked_sub_self hx]
  rfl

theorem zero_add_zero : (0 : Float) + 0 = 0 := by
  rfl

theorem roundToInt64_zero : roundToInt64 0 = 0 := by
  decide +kernel

end BuildScope.Number
