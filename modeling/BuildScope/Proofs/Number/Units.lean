import BuildScope.Proofs.Number.Exponents

/-!
# Doubles That Count Units

Arithmetic on doubles is exact as long as everything is a whole number of units, each a power of
two, and there are less than 2 to the 53rd of them. All that rounding does then is to move a
mantissa up until it has 53 bits, or to drop zeros that it has at its end.

* `Number.IsUnits`, `Number.CountsUnits`: an unpacked number, or a double, that counts units.
* `Number.CountsUnits.add`, `Number.CountsUnits.sub`: so do sums and differences.
* `Number.countsUnits_ratio`: so does a quotient of whole numbers that is a whole number of units.
-/

namespace BuildScope.Number

open Float.Model (Format UnpackedFloat totalExponent)
open Float.Model.UnpackedFloat

/-! ## Rounding that loses nothing -/

theorem shiftRight_exact (m k : Nat) :
    ExtendedMantissa.ofMantissaAndAccuracy (m <<< k) .exact >>> k = ⟨m, false, false⟩ := by
  induction k generalizing m with
  | zero => rfl
  | succ k ih =>
    have hstep (em : ExtendedMantissa) : em >>> (k + 1) = (em >>> k).shiftRightOne := rfl
    rw [hstep, Nat.add_comm, Nat.shiftLeft_add, ih]
    have hhalf : m <<< 1 / 2 = m := by rw [Nat.shiftLeft_eq]; omega
    have hbit : m <<< 1 % 2 = 0 := by rw [Nat.shiftLeft_eq]; omega
    simp [ExtendedMantissa.shiftRightOne, hhalf, hbit]

theorem shiftToTargetExponent_exact {m : Nat} {e : Int} (hlog : m.log2 = 52) (he : -1074 ≤ e)
    (k : Nat) : shiftToTargetExponent Format.binary64 (m <<< k) (e - k) .exact =
      (⟨m, false, false⟩, e) := by
  have hm : m ≠ 0 := by
    rintro rfl
    cases hlog
  have hshift : (max (((m <<< k).log2 : Int) + (e - k) - 52) (-1074) - (e - k)).toNat = k := by
    rw [log2_shiftLeft hm]
    omega
  unfold shiftToTargetExponent shiftToExponent
  rw [targetExponent_totalExponent]
  dsimp only
  rw [hshift, shiftRight_exact]
  exact congrArg (Prod.mk _) (by omega)

/-- Bits that are all zero may be dropped. -/
theorem roundWithAccuracy_exact (s : Sign) {m : Nat} {e : Int} (hm : 0 < m) (hlog : m.log2 = 52)
    (he : -1074 ≤ e) (k : Nat) :
    roundWithAccuracy Format.binary64 s (m <<< k) (e - k) .exact = .finite s m e hm := by
  have hagain : shiftToTargetExponent Format.binary64 m e .exact = (⟨m, false, false⟩, e) := by
    simpa using shiftToTargetExponent_exact hlog he 0
  have hrounded : (⟨m, false, false⟩ : ExtendedMantissa).roundedMantissa = m := rfl
  unfold roundWithAccuracy
  rw [shiftToTargetExponent_exact hlog he k]
  dsimp only
  rw [hrounded, hagain]
  exact dif_neg (Nat.ne_of_gt hm)

/-- A number of at most 53 bits that is written with as many or more loses nothing. -/
theorem roundWithAccuracy_units (s : Sign) {a : Nat} {unit : Int} (ha : 0 < a) (hlog : a.log2 ≤ 52)
    (hunit : -1022 ≤ unit) {shift : Nat} (hshift : 52 ≤ a.log2 + shift) :
    roundWithAccuracy Format.binary64 s (a <<< shift) (unit - shift) .exact =
      .finite s (a <<< (52 - a.log2)) (unit - (52 - a.log2 : Nat))
        (Nat.shiftLeft_pos_iff.2 ha) := by
  have hfull : (a <<< (52 - a.log2)).log2 = 52 := by
    rw [log2_shiftLeft (Nat.ne_of_gt ha)]
    omega
  have hlonger : a <<< shift = a <<< (52 - a.log2) <<< (shift - (52 - a.log2)) := by
    rw [← Nat.shiftLeft_add]
    congr 1
    omega
  have hlower : unit - shift = unit - (52 - a.log2 : Nat) - (shift - (52 - a.log2) : Nat) := by
    omega
  rw [hlonger, hlower]
  exact roundWithAccuracy_exact s _ hfull (by omega) _

/-- So does one that is written with fewer, which is moved up first. -/
theorem round_units (s : Sign) {a : Nat} {unit : Int} (ha : 0 < a) (hlog : a.log2 ≤ 52)
    (hunit : -1022 ≤ unit) (shift : Nat) :
    UnpackedFloat.round Format.binary64 s (a <<< shift) (unit - shift) =
      .finite s (a <<< (52 - a.log2)) (unit - (52 - a.log2 : Nat))
        (Nat.shiftLeft_pos_iff.2 ha) := by
  have htarget : max (((a <<< shift).log2 : Int) + (unit - shift) - 52) (-1074) =
      unit - (52 - a.log2 : Nat) := by
    rw [log2_shiftLeft (Nat.ne_of_gt ha)]
    omega
  have hdown : unit - shift - (52 - a.log2 - shift : Nat) =
      unit - (shift + (52 - a.log2 - shift) : Nat) := by omega
  -- what is left of the shift fills the mantissa up
  have hamount : (unit - shift - (unit - (52 - a.log2 : Nat))).toNat = 52 - a.log2 - shift := by
    omega
  unfold UnpackedFloat.round decreaseExponent
  rw [targetExponent_totalExponent, htarget]
  dsimp only
  rw [hamount, ← Nat.shiftLeft_add, hdown]
  exact roundWithAccuracy_units s ha hlog hunit (by omega)

/-! ## Counting units -/

/-- Zero, or a number of exactly 53 bits, is a whole number of units. The unit is a power of two. -/
inductive IsUnits (unit count : Int) : UnpackedFloat → Prop
  | zero (s : Sign) (hcount : count = 0) : IsUnits unit count (.zero s)
  | finite (s : Sign) (m : Nat) (e : Int) (hm : 0 < m) (hlog : m.log2 = 52) (hle : e ≤ unit)
      (hcount : s.apply m = count * 2 ^ (unit - e).toNat) : IsUnits unit count (.finite s m e hm)

variable {unit count j k : Int} {u v : UnpackedFloat}

theorem apply_natCast_mul (s : Sign) (a b : Nat) :
    s.apply ((a * b : Nat) : Int) = s.apply a * b := by
  cases s with
  | positive => exact Int.natCast_mul a b
  | negative =>
    simp only [Sign.apply]
    rw [Int.natCast_mul, Int.neg_mul]

/-- A number of units that has no more than 53 bits is a double. -/
theorem isUnits_finite (s : Sign) {a : Nat} (ha : 0 < a) (hlog : a.log2 ≤ 52)
    (hcount : s.apply a = count) :
    IsUnits unit count (.finite s (a <<< (52 - a.log2)) (unit - (52 - a.log2 : Nat))
      (Nat.shiftLeft_pos_iff.2 ha)) := by
  refine .finite _ _ _ _ ?_ (by omega) ?_
  · rw [log2_shiftLeft (Nat.ne_of_gt ha)]
    omega
  · have hdrop : (unit - (unit - (52 - a.log2 : Nat))).toNat = 52 - a.log2 := by omega
    rw [hdrop, Nat.shiftLeft_eq, apply_natCast_mul, hcount]
    push_cast
    rfl

/-- A sum of numbers with one exponent is rounded without its sign. -/
theorem normalize_mul_two_pow (hne : count ≠ 0) (shift : Nat) (e : Int) (s : Sign) :
    ∃ s' : Sign, s'.apply count.natAbs = count ∧
      UnpackedFloat.normalize Format.binary64 (count * 2 ^ shift) e s =
        UnpackedFloat.round Format.binary64 s' (count.natAbs <<< shift) e := by
  have hpow : (0 : Int) < 2 ^ shift := Int.pow_pos (by decide)
  have habs : (count * 2 ^ shift).natAbs = count.natAbs <<< shift := by
    rw [Int.natAbs_mul, Int.natAbs_pow, Nat.shiftLeft_eq]
    rfl
  unfold UnpackedFloat.normalize
  rcases Int.lt_or_gt_of_ne hne with hneg | hpos
  · have hlt : count * 2 ^ shift < 0 := Int.mul_neg_of_neg_of_pos hneg hpow
    have hmantissa : (-(count * 2 ^ shift)).toNat = count.natAbs <<< shift := by omega
    rw [Int.compare_eq_lt.2 hlt, hmantissa]
    exact ⟨.negative, by simp only [Sign.apply]; omega, rfl⟩
  · have hgt : count * 2 ^ shift > 0 := Int.mul_pos hpos hpow
    have hmantissa : (count * 2 ^ shift).toNat = count.natAbs <<< shift := by omega
    rw [Int.compare_eq_gt.2 hgt, hmantissa]
    exact ⟨.positive, by simp only [Sign.apply]; omega, rfl⟩

theorem normalize_isUnits (hcount : count.natAbs < 2 ^ 53) (hunit : -1022 ≤ unit) (shift : Nat)
    (s : Sign) : IsUnits unit count
      (UnpackedFloat.normalize Format.binary64 (count * 2 ^ shift) (unit - shift) s) := by
  by_cases hzero : count = 0
  · rw [hzero, Int.zero_mul]
    exact .zero s rfl
  · obtain ⟨s', happly, hround⟩ := normalize_mul_two_pow hzero shift (unit - shift) s
    have hpos : 0 < count.natAbs := Int.natAbs_pos.2 hzero
    have hlog : count.natAbs.log2 ≤ 52 :=
      Nat.le_of_lt_succ ((Nat.log2_lt (Nat.ne_of_gt hpos)).2 hcount)
    rw [hround, round_units s' hpos hlog hunit]
    exact isUnits_finite s' hpos hlog happly

theorem natAbs_apply (s : Sign) (m : Nat) : (s.apply m).natAbs = m := by
  cases s <;> simp [Sign.apply]

/-- A number of exactly 53 bits does not end with as many zeros. -/
theorem le_exponent {s : Sign} {m : Nat} {e : Int} (hm : 0 < m) (hlog : m.log2 = 52)
    (hcount : s.apply m = count * 2 ^ (unit - e).toNat) : unit - 52 ≤ e := by
  have hlt : m < 2 ^ 53 := ((Nat.log2_eq_iff (Nat.ne_of_gt hm)).1 hlog).2
  have habs : m = count.natAbs * 2 ^ (unit - e).toNat := by
    have h := congrArg Int.natAbs hcount
    rwa [natAbs_apply, Int.natAbs_mul, Int.natAbs_pow] at h
  have hpos : 0 < count.natAbs := Nat.pos_of_mul_pos_right (habs ▸ hm)
  have hle : 2 ^ (unit - e).toNat ≤ m := by
    rw [habs]
    exact Nat.le_mul_of_pos_left _ hpos
  have hbits := (Nat.pow_lt_pow_iff_right (by decide : 1 < 2)).1 (Nat.lt_of_le_of_lt hle hlt)
  omega

theorem unpack_pack_zero (s : Sign) : (Float.Model.pack (.zero s)).unpack = .zero s :=
  unpack_packedZero s

theorem IsUnits.unpack_pack (h : IsUnits unit count u) (hlo : -1022 ≤ unit) (hhi : unit ≤ 971) :
    IsUnits unit count (Float.Model.pack u).unpack := by
  cases h with
  | zero s hcount =>
    rw [unpack_pack_zero]
    exact .zero s hcount
  | finite s m e hm hlog hle hcount =>
    have hge := le_exponent hm hlog hcount
    rw [unpack_pack_finite s hm hlog (by omega) (by omega)]
    exact .finite s m e hm hlog hle hcount

theorem IsUnits.eq_zero (h : IsUnits unit 0 u) : ∃ s, u = .zero s := by
  cases h with
  | zero s => exact ⟨s, rfl⟩
  | finite s m e hm hlog hle hcount =>
    have habs := congrArg Int.natAbs hcount
    rw [Int.zero_mul, natAbs_apply] at habs
    exact absurd habs (Nat.ne_of_gt hm)

/-- With a lower exponent, the mantissa counts smaller units. -/
theorem apply_decreaseExponent {s : Sign} {m : Nat} {e target : Int} (hle : e ≤ unit)
    (htarget : target ≤ e) (hcount : s.apply m = count * 2 ^ (unit - e).toNat) :
    s.apply (decreaseExponent m e target).1 = count * 2 ^ (unit - target).toNat := by
  have hsplit : (unit - target).toNat = (unit - e).toNat + (e - target).toNat := by omega
  have hmantissa : (decreaseExponent m e target).1 = m * 2 ^ (e - target).toNat := by
    rw [decreaseExponent, Nat.shiftLeft_eq]
  rw [hmantissa, apply_natCast_mul, hcount, hsplit, Int.pow_add, Int.mul_assoc]
  push_cast
  rfl

theorem IsUnits.neg (hu : IsUnits unit k u) : IsUnits unit (-k) u.neg := by
  cases hu with
  | zero s hk => exact .zero _ (by omega)
  | finite s m e hm hlog hle hk =>
    refine .finite _ m e hm hlog hle ?_
    rw [Int.neg_mul, ← hk]
    cases s <;> simp [Sign.apply]

/-- A sum that stays within 53 bits is exact. -/
theorem IsUnits.add (hu : IsUnits unit j u) (hv : IsUnits unit k v)
    (hsum : (j + k).natAbs < 2 ^ 53) (hunit : -1022 ≤ unit) :
    IsUnits unit (j + k) (UnpackedFloat.add Format.binary64 u v) := by
  cases hu with
  | zero s hj =>
    cases hv with
    | zero s' hk =>
      dsimp only [UnpackedFloat.add]
      split
      · exact .zero _ (by omega)
      · exact .zero _ (by omega)
    | finite s' m' e' hm' hlog' hle' hk =>
      rw [hj, Int.zero_add]
      exact .finite s' m' e' hm' hlog' hle' hk
  | finite s m e hm hlog hle hj =>
    cases hv with
    | zero s' hk =>
      rw [hk, Int.add_zero]
      exact .finite s m e hm hlog hle hj
    | finite s' m' e' hm' hlog' hle' hk =>
      -- both mantissas are moved to the smaller exponent
      have hsplit : unit - ((unit - min e e').toNat : Int) = min e e' := by omega
      have hsum := normalize_isUnits hsum hunit (unit - min e e').toNat .positive
      rw [hsplit] at hsum
      dsimp only [UnpackedFloat.add]
      rwa [apply_decreaseExponent hle (Int.min_le_left e e') hj,
        apply_decreaseExponent hle' (Int.min_le_right e e') hk, ← Int.add_mul]

theorem sub_eq_add_neg (u v : UnpackedFloat) :
    UnpackedFloat.sub Format.binary64 u v = UnpackedFloat.add Format.binary64 u v.neg := by
  cases u with
  | finite s m e hm =>
    cases v with
    | finite s' m' e' hm' =>
      have happly (n : Int) : (-s').apply n = -s'.apply n := by
        cases s' <;> simp [Sign.apply]
      dsimp only [UnpackedFloat.sub, UnpackedFloat.add, UnpackedFloat.neg]
      rw [happly, Int.sub_eq_add_neg]
    | zero => rfl
    | infinity => rfl
    | notANumber => rfl
  | zero s => cases v <;> rfl
  | infinity s => cases v <;> rfl
  | notANumber => cases v <;> rfl

/-- A difference that stays within 53 bits is exact. -/
theorem IsUnits.sub (hu : IsUnits unit j u) (hv : IsUnits unit k v)
    (hdifference : (j - k).natAbs < 2 ^ 53) (hunit : -1022 ≤ unit) :
    IsUnits unit (j - k) (UnpackedFloat.sub Format.binary64 u v) := by
  rw [sub_eq_add_neg, Int.sub_eq_add_neg]
  exact hu.add hv.neg hdifference hunit

/-- A double that counts a positive number of units is positive. -/
theorem eq_mul_of_apply {s : Sign} {m n : Nat} {e : Int} (hm : 0 < m)
    (hcount : s.apply m = (n : Int) * 2 ^ (unit - e).toNat) :
    s = .positive ∧ m = n * 2 ^ (unit - e).toNat := by
  cases s with
  | positive =>
    simp only [Sign.apply] at hcount
    exact ⟨rfl, by exact_mod_cast hcount⟩
  | negative =>
    have hnonneg : 0 ≤ (n : Int) * 2 ^ (unit - e).toNat :=
      Int.mul_nonneg (by omega) (Int.le_of_lt (Int.pow_pos (by decide)))
    simp only [Sign.apply] at hcount
    omega

/-- A quotient of at most 53 bits is what is left of its dividend, moved up by 53 bits, by a divisor
of just as many bits. It is moved up as well, to 53 bits or more. -/
theorem quotient_shift {a d q w p r : Nat} (hq : q * d = a * 2 ^ w) (hbits : q < 2 ^ 53)
    (hdividend : 2 ^ 52 ≤ a * 2 ^ p) (hdivisor : d * 2 ^ r < 2 ^ 53) :
    ∃ shift, w + r + shift = 53 + p ∧ q <<< shift * (d * 2 ^ r) = (a * 2 ^ p) <<< 53 ∧
      52 ≤ q.log2 + shift := by
  have hproduct : q * (d * 2 ^ r) = a * 2 ^ (w + r) := by
    rw [← Nat.mul_assoc, hq, Nat.mul_assoc, ← Nat.pow_add]
  -- with more places, the quotient or the divisor would be too long
  have hle : w + r ≤ 53 + p := by
    refine Nat.not_lt.1 fun hlt => ?_
    have hlower : 2 ^ 52 * 2 ^ 54 ≤ a * 2 ^ (w + r) := by
      calc 2 ^ 52 * 2 ^ 54 ≤ a * 2 ^ p * 2 ^ 54 := Nat.mul_le_mul_right _ hdividend
        _ = a * 2 ^ (p + 54) := by rw [Nat.mul_assoc, ← Nat.pow_add]
        _ ≤ a * 2 ^ (w + r) :=
          Nat.mul_le_mul_left _ (Nat.pow_le_pow_right (by decide) (by omega))
    have hupper : q * (d * 2 ^ r) < 2 ^ 53 * 2 ^ 53 := Nat.mul_lt_mul'' hbits hdivisor
    omega
  obtain ⟨shift, hshift⟩ := Nat.exists_eq_add_of_le hle
  have hmoved : q <<< shift * (d * 2 ^ r) = (a * 2 ^ p) <<< 53 := by
    calc q <<< shift * (d * 2 ^ r) = q * (d * 2 ^ r) * 2 ^ shift := by
          rw [Nat.shiftLeft_eq, Nat.mul_right_comm]
      _ = a * 2 ^ (w + r + shift) := by rw [hproduct, Nat.mul_assoc, ← Nat.pow_add]
      _ = a * 2 ^ (p + 53) := by rw [← hshift, Nat.add_comm]
      _ = (a * 2 ^ p) <<< 53 := by rw [Nat.shiftLeft_eq, Nat.mul_assoc, ← Nat.pow_add]
  refine ⟨shift, hshift.symm, hmoved, ?_⟩
  -- with less than 53 bits, the quotient would be too short for its dividend
  have hlarge : 2 ^ 52 ≤ q <<< shift := by
    refine Nat.not_lt.1 fun hlt => ?_
    have hupper : q <<< shift * (d * 2 ^ r) < 2 ^ 52 * 2 ^ 53 := Nat.mul_lt_mul'' hlt hdivisor
    rw [hmoved, Nat.shiftLeft_eq] at hupper
    omega
  have hne : q ≠ 0 := by
    rintro rfl
    simp at hlarge
  rw [← log2_shiftLeft hne]
  exact (Nat.le_log2 (by omega)).2 hlarge

/-- A quotient of numbers of 53 bits has 53 or 54 of them before it is rounded. -/
theorem div_finite (s s' : Sign) {m m' : Nat} {e e' : Int} (hm : 0 < m) (hm' : 0 < m')
    (hlog : m.log2 = 52) (hlog' : m'.log2 = 52) (hmin : -1021 ≤ e - e') :
    UnpackedFloat.div Format.binary64 (.finite s m e hm) (.finite s' m' e' hm') =
      roundWithAccuracy Format.binary64 (s / s') ((m <<< 53) / m') (e - e' - 53)
        (accuracyOfFraction ((m <<< 53) % m') m') := by
  have htarget : Format.binary64.targetExponent (totalExponent m e - totalExponent m' e') =
      e - e' - 53 := by
    show max ((m.log2 + 1 + e : Int) - (m'.log2 + 1 + e') - 53) (-1074) = _
    omega
  have hmin : min (e - e') (e - e' - 53) = e - e' - 53 := by omega
  have hdrop : (e - e' - (e - e' - 53)).toNat = 53 := by omega
  dsimp only [UnpackedFloat.div, divCore]
  rw [htarget, hmin, hdrop]

/-- A quotient of whole numbers that is a whole number of units, and stays within 53 bits, is
exact. -/
theorem IsUnits.div {a d q w : Nat} (hu : IsUnits 0 a u) (hv : IsUnits 0 d v) (hd : 0 < d)
    (hq : q * d = a * 2 ^ w) (hbits : q < 2 ^ 53) (hw : w ≤ 970) :
    IsUnits (-w) q (UnpackedFloat.div Format.binary64 u v) := by
  cases hv with
  | zero s' hzero => omega
  | finite s' m' e' hm' hlog' hle' hcount' =>
    obtain ⟨rfl, hdivisor⟩ := eq_mul_of_apply hm' hcount'
    cases hu with
    | zero s hzero =>
      refine .zero _ ?_
      obtain rfl : a = 0 := by omega
      rw [Nat.zero_mul] at hq
      rcases Nat.mul_eq_zero.1 hq with hq | hd' <;> omega
    | finite s m e hm hlog hle hcount =>
      obtain ⟨rfl, hdividend⟩ := eq_mul_of_apply hm hcount
      have hge := le_exponent hm hlog hcount
      have hge' := le_exponent hm' hlog' hcount'
      obtain ⟨hlow, -⟩ := (Nat.log2_eq_iff (Nat.ne_of_gt hm)).1 hlog
      obtain ⟨-, hhigh'⟩ := (Nat.log2_eq_iff (Nat.ne_of_gt hm')).1 hlog'
      -- the mantissas divide without a remainder, since the quotient is a whole number of units
      obtain ⟨shift, hsum, hmoved, hfull⟩ := quotient_shift hq hbits (hdividend ▸ hlow)
        (hdivisor ▸ hhigh')
      rw [← hdividend, ← hdivisor] at hmoved
      have hquotient : (m <<< 53) / m' = q <<< shift := by
        rw [← hmoved, Nat.mul_div_cancel _ hm']
      have hremainder : (m <<< 53) % m' = 0 := by
        rw [← hmoved, Nat.mul_mod_left]
      have hexact : accuracyOfFraction 0 m' = .exact := rfl
      have hexponent : e - e' - 53 = -w - shift := by omega
      have hpos : 0 < q := by
        refine Nat.pos_of_ne_zero ?_
        rintro rfl
        simp at hmoved
        omega
      have hlogq : q.log2 ≤ 52 :=
        Nat.le_of_lt_succ ((Nat.log2_lt (Nat.ne_of_gt hpos)).2 hbits)
      rw [div_finite _ _ hm hm' hlog hlog' (by omega), hquotient, hremainder, hexact, hexponent,
        roundWithAccuracy_units _ hpos hlogq (by omega) hfull]
      exact isUnits_finite .positive hpos hlogq rfl

theorem IsUnits.mul_one (hu : IsUnits unit k u) (hunit : -1022 ≤ unit) :
    IsUnits unit k (UnpackedFloat.mul Format.binary64 u
      (.finite .positive 0x10000000000000 (-52) (by decide))) := by
  cases hu with
  | zero s hk => exact .zero _ hk
  | finite s m e hm hlog hle hk =>
    have hge := le_exponent hm hlog hk
    have hsign : s * .positive = s := by cases s <;> rfl
    have hproduct : m * 0x10000000000000 = m <<< 52 := by rw [Nat.shiftLeft_eq]
    dsimp only [UnpackedFloat.mul]
    rw [hsign, hproduct]
    have hexact : roundWithAccuracy Format.binary64 s (m <<< 52) (e - (52 : Nat)) .exact =
        .finite s m e hm := roundWithAccuracy_exact s hm hlog (by omega) 52
    rw [← Int.sub_eq_add_neg]
    exact hexact ▸ .finite s m e hm hlog hle hk

/-! ## Doubles -/

/-- A double counts units, each a power of two. -/
def CountsUnits (unit count : Int) (x : Float) : Prop :=
  IsUnits unit count x.toModel.unpack

variable {x y : Float}

theorem CountsUnits.add (hx : CountsUnits unit j x) (hy : CountsUnits unit k y)
    (hsum : (j + k).natAbs < 2 ^ 53) (hlo : -1022 ≤ unit) (hhi : unit ≤ 971) :
    CountsUnits unit (j + k) (x + y) :=
  (IsUnits.add hx hy hsum hlo).unpack_pack hlo hhi

theorem CountsUnits.sub (hx : CountsUnits unit j x) (hy : CountsUnits unit k y)
    (hdifference : (j - k).natAbs < 2 ^ 53) (hlo : -1022 ≤ unit) (hhi : unit ≤ 971) :
    CountsUnits unit (j - k) (x - y) :=
  (IsUnits.sub hx hy hdifference hlo).unpack_pack hlo hhi

theorem countsUnits_zero (unit : Int) : CountsUnits unit 0 0 :=
  .zero .positive rfl

theorem countsUnits_ofNat {n : Nat} (hn : n < 2 ^ 53) : CountsUnits 0 n (Float.ofNat n) := by
  have hnormal : IsUnits 0 n (UnpackedFloat.normalize Format.binary64 n 0 .positive) := by
    simpa using normalize_isUnits (Int.natAbs_natCast n ▸ hn) (by decide : -1022 ≤ (0 : Int)) 0
      .positive
  have hpacked := hnormal.unpack_pack (by decide) (by decide)
  show IsUnits 0 n (Float.ofNat n).toModel.unpack
  rw [unpack_ofNat_of_lt hn]
  exact (hpacked.mul_one (by decide)).unpack_pack (by decide) (by decide)

/-- A quotient of whole numbers that is a whole number of units, and stays within 53 bits, is
exact. -/
theorem countsUnits_ratio {a d q w : Nat} (ha : a < 2 ^ 53) (hd : 0 < d) (hd' : d < 2 ^ 53)
    (hq : q * d = a * 2 ^ w) (hbits : q < 2 ^ 53) (hw : w ≤ 970) :
    CountsUnits (-w) q (Float.ofNat a / Float.ofNat d) :=
  ((countsUnits_ofNat ha).div (countsUnits_ofNat hd') hd hq hbits hw).unpack_pack (by omega)
    (by omega)

/-- No units are no distance from zero. -/
theorem CountsUnits.abs_eq_zero (hx : CountsUnits unit 0 x) : x.abs = 0 := by
  obtain ⟨s, hs⟩ := IsUnits.eq_zero hx
  show Float.ofModel (.pack x.toModel.unpack.abs) = 0
  rw [hs]
  rfl

end BuildScope.Number
