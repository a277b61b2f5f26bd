import BuildScope.Proofs.Number.Units

/-!
# Doubles on a Grid

Sums of doubles that are whole numbers of units are whole numbers of units too, however often they
are rounded: where a sum is too long for its 53 bits, the unit of what is kept is a greater one. So
such a sum is either nothing at all or no less than a unit. It may become infinite on the way, but
what is infinite stays so as long as finite numbers are added.

* `Number.IsMultiple`, `Number.OnGrid`: an unpacked number, or a double, that is zero, infinity or a
  whole number of units.
* `Number.IsMultiple.add`: sums stay on the grid.
* `Number.onGrid_ratio`: quotients of two or more are on the grid of the doubles from two on.
* `Number.OnGrid.lt_abs_iff`: on a grid, only zero is not greater than what is less than any unit.
-/

namespace BuildScope.Number

open Float.Model (Format UnpackedFloat totalExponent)
open Float.Model.UnpackedFloat

/-- Zero, infinity, or a number of exactly 53 bits that is a whole number of units, however many. -/
inductive IsMultiple (unit : Int) : UnpackedFloat → Prop
  | zero (s : Sign) : IsMultiple unit (.zero s)
  | infinity (s : Sign) : IsMultiple unit (.infinity s)
  | finite (s : Sign) (m : Nat) (e : Int) (hm : 0 < m) (hlog : m.log2 = 52)
      (hdvd : 2 ^ (unit - e).toNat ∣ m) : IsMultiple unit (.finite s m e hm)

variable {unit lo hi j k : Int} {u v : UnpackedFloat}

/-- A number is a multiple of any unit that is not above its exponent. -/
theorem Normal.isMultiple (h : Normal lo hi u) (hlo : unit ≤ lo) : IsMultiple unit u := by
  cases h with
  | finite s m e hm hlog hge hle =>
    refine .finite s m e hm hlog ?_
    have hdrop : (unit - e).toNat = 0 := by omega
    rw [hdrop]
    exact Nat.one_dvd m

/-! ## Rounding -/

/-- Rounding keeps to the grid. It is exact where a number has no more than 53 bits, and those that
it drops elsewhere are less than a unit. -/
theorem round_isMultiple (s : Sign) {a : Nat} {e : Int} (ha : 0 < a) (hunit : -1022 ≤ unit)
    (hle : unit ≤ e) (shift : Nat) :
    IsMultiple unit (UnpackedFloat.round Format.binary64 s (a <<< shift) (e - shift)) := by
  have hne : a <<< shift ≠ 0 := Nat.ne_of_gt (Nat.shiftLeft_pos_iff.2 ha)
  have hlog : (a <<< shift).log2 = a.log2 + shift := log2_shiftLeft (Nat.ne_of_gt ha) shift
  rcases Nat.lt_or_ge 52 a.log2 with hlong | hshort
  · -- the last bit that is kept stands for more than a unit
    exact (round_normal s hne (by omega)).isMultiple (by omega)
  · rw [round_units s ha hshort (by omega)]
    have hfull : (a <<< (52 - a.log2)).log2 = 52 := by
      rw [log2_shiftLeft (Nat.ne_of_gt ha)]
      omega
    refine .finite _ _ _ _ hfull ?_
    rw [Nat.shiftLeft_eq]
    exact Nat.dvd_mul_left_of_dvd (Nat.pow_dvd_pow 2 (by omega)) a

/-- An integer that is moved down stays on the grid when it is rounded. -/
theorem normalize_isMultiple (count : Int) {e : Int} (hunit : -1022 ≤ unit) (hle : unit ≤ e)
    (shift : Nat) (s : Sign) :
    IsMultiple unit
      (UnpackedFloat.normalize Format.binary64 (count * 2 ^ shift) (e - shift) s) := by
  by_cases hzero : count = 0
  · rw [hzero, Int.zero_mul]
    exact .zero s
  · obtain ⟨s', -, hround⟩ := normalize_mul_two_pow hzero shift (e - shift) s
    rw [hround]
    exact round_isMultiple s' (Int.natAbs_pos.2 hzero) hunit hle shift

/-! ## Sums -/

/-- Negation keeps to the grid. -/
theorem IsMultiple.neg (hu : IsMultiple unit u) : IsMultiple unit u.neg := by
  cases hu with
  | zero s => exact .zero _
  | infinity s => exact .infinity _
  | finite s m e hm hlog hdvd => exact .finite _ m e hm hlog hdvd

/-- With a lower exponent, the mantissa is a multiple of more. -/
theorem dvd_apply_decreaseExponent (s : Sign) {m shift : Nat} {e target : Int}
    (hdvd : 2 ^ (unit - e).toNat ∣ m) (htarget : target ≤ e)
    (hshift : shift ≤ (unit - target).toNat) :
    (2 ^ shift : Int) ∣ s.apply (decreaseExponent m e target).1 := by
  have hmantissa : 2 ^ shift ∣ (decreaseExponent m e target).1 := by
    have hsplit : shift ≤ (unit - e).toNat + (e - target).toNat := by omega
    rw [decreaseExponent, Nat.shiftLeft_eq]
    refine Nat.dvd_trans (Nat.pow_dvd_pow 2 hsplit) ?_
    rw [Nat.pow_add]
    exact Nat.mul_dvd_mul_right hdvd _
  refine Int.natAbs_dvd_natAbs.1 ?_
  rw [natAbs_apply, Int.natAbs_pow]
  exact hmantissa

/-- A sum of multiples is one, if what is added is finite. -/
theorem IsMultiple.add (hu : IsMultiple unit u) (hv : IsMultiple unit v) (hfinite : v.isFinite)
    (hunit : -1022 ≤ unit) : IsMultiple unit (UnpackedFloat.add Format.binary64 u v) := by
  cases hv with
  | infinity s' => cases hfinite
  | zero s' =>
    cases hu with
    | zero s =>
      dsimp only [UnpackedFloat.add]
      split
      · exact .zero s
      · exact .zero .positive
    | infinity s => exact .infinity s
    | finite s m e hm hlog hdvd => exact .finite s m e hm hlog hdvd
  | finite s' m' e' hm' hlog' hdvd' =>
    cases hu with
    | zero s => exact .finite s' m' e' hm' hlog' hdvd'
    | infinity s => exact .infinity s
    | finite s m e hm hlog hdvd =>
      -- the sum is one of numbers with the lower exponent, or the unit if that is greater
      obtain ⟨shift, hshift⟩ : ∃ shift : Nat, max unit (min e e') - shift = min e e' :=
        ⟨(max unit (min e e') - min e e').toNat, by omega⟩
      have hleft := dvd_apply_decreaseExponent s hdvd (Int.min_le_left e e')
        (by omega : shift ≤ _)
      have hright := dvd_apply_decreaseExponent s' hdvd' (Int.min_le_right e e')
        (by omega : shift ≤ _)
      obtain ⟨count, hcount⟩ := Int.dvd_add hleft hright
      dsimp only [UnpackedFloat.add]
      rw [hcount, Int.mul_comm, ← hshift]
      exact normalize_isMultiple count hunit (by omega) shift .positive

/-- So does subtraction. -/
theorem IsMultiple.sub (hu : IsMultiple unit u) (hv : IsMultiple unit v) (hfinite : v.isFinite)
    (hunit : -1022 ≤ unit) : IsMultiple unit (UnpackedFloat.sub Format.binary64 u v) := by
  have hfinite' : v.neg.isFinite := by
    cases v with
    | infinity s => cases hfinite
    | notANumber => cases hfinite
    | zero s => rfl
    | finite s m e hm => rfl
  rw [sub_eq_add_neg]
  exact hu.add hv.neg hfinite' hunit

/-- A sum raises a bound by two: one more bit, and rounding. -/
theorem ExponentAtMost.add (hu : ExponentAtMost hi u) (hv : ExponentAtMost hi v)
    (hmin : -1074 ≤ hi) : ExponentAtMost (hi + 2) (UnpackedFloat.add Format.binary64 u v) := by
  have hneg : v.neg.neg = v := by
    cases v with
    | infinity s => cases s <;> rfl
    | notANumber => rfl
    | zero s => cases s <;> rfl
    | finite s m e hm => cases s <;> rfl
  have hsub := hu.sub hv.neg hmin
  rwa [sub_eq_add_neg, hneg] at hsub

/-! ## Quotients -/

/-- A quotient that is not less than `2 ^ (unit + 52)` is a whole number of units. -/
theorem div_isMultiple (s s' : Sign) {m m' : Nat} {e e' : Int} (hm : 0 < m) (hm' : 0 < m')
    (hlog : m.log2 = 52) (hlog' : m'.log2 = 52) (hunit : -1022 ≤ unit)
    (hle : unit + 52 < e - e' ∨ unit + 52 = e - e' ∧ m' ≤ m) :
    IsMultiple unit
      (UnpackedFloat.div Format.binary64 (.finite s m e hm) (.finite s' m' e' hm')) := by
  obtain ⟨hlow, -⟩ := (Nat.log2_eq_iff (Nat.ne_of_gt hm)).1 hlog
  obtain ⟨-, hhigh'⟩ := (Nat.log2_eq_iff (Nat.ne_of_gt hm')).1 hlog'
  -- the quotient has at least as many bits as are kept
  have hbits {n : Nat} (h : 2 ^ n * m' ≤ m * 2 ^ 53) : n ≤ ((m <<< 53) / m').log2 := by
    have hquotient : 2 ^ n ≤ (m <<< 53) / m' := by
      rwa [Nat.le_div_iff_mul_le hm', Nat.shiftLeft_eq]
    have hpos : 0 < 2 ^ n := Nat.two_pow_pos n
    exact (Nat.le_log2 (by omega)).2 hquotient
  have hfull : 52 ≤ ((m <<< 53) / m').log2 := hbits (by omega)
  rw [div_finite s s' hm hm' hlog hlog' (by omega)]
  refine (roundWithAccuracy_normal _ _ hfull (by omega)).isMultiple ?_
  obtain hlt | ⟨heq, hle⟩ := hle
  · omega
  · have hmore : 53 ≤ ((m <<< 53) / m').log2 := hbits (by omega)
    omega

/-! ## Packing -/

/-- Only zeros follow the mantissa of a unit, so that the exponent is not much lower. -/
theorem le_exponent_of_dvd {m : Nat} {e : Int} (hm : 0 < m) (hlog : m.log2 = 52)
    (hdvd : 2 ^ (unit - e).toNat ∣ m) : unit - 52 ≤ e := by
  have hlt : m < 2 ^ 53 := ((Nat.log2_eq_iff (Nat.ne_of_gt hm)).1 hlog).2
  have hbits := (Nat.pow_lt_pow_iff_right (by decide : 1 < 2)).1
    (Nat.lt_of_le_of_lt (Nat.le_of_dvd hm hdvd) hlt)
  omega

/-- What is too large for a double becomes infinity. -/
theorem unpack_pack_of_large (s : Sign) {m : Nat} {e : Int} (hm : 0 < m) (he : 971 < e) :
    (Float.Model.pack (.finite s m e hm)).unpack = .infinity s := by
  have hpack : pack Format.binary64 (.finite s m e hm) = packedInfinity Format.binary64 s := by
    show (if 2048 ≤ (e + 1023 + 52).toNat + 1 then packedInfinity Format.binary64 s else _) = _
    rw [if_pos (by omega)]
  show unpack Format.binary64 (pack Format.binary64 (.finite s m e hm)) = _
  rw [hpack]
  cases s <;> rfl

theorem unpack_pack_infinity (s : Sign) :
    (Float.Model.pack (.infinity s)).unpack = .infinity s := by
  cases s <;> rfl

/-- Packing keeps to the grid. -/
theorem IsMultiple.unpack_pack (hu : IsMultiple unit u) (hunit : -1022 ≤ unit) :
    IsMultiple unit (Float.Model.pack u).unpack := by
  cases hu with
  | zero s =>
    rw [unpack_pack_zero]
    exact .zero s
  | infinity s =>
    rw [unpack_pack_infinity]
    exact .infinity s
  | finite s m e hm hlog hdvd =>
    -- even a single unit has 53 bits above the subnormal numbers
    have hge := le_exponent_of_dvd hm hlog hdvd
    by_cases he : e ≤ 971
    · rw [unpack_pack_finite s hm hlog (by omega) he]
      exact .finite s m e hm hlog hdvd
    · rw [unpack_pack_of_large s hm (by omega)]
      exact .infinity s

/-! ## Doubles -/

/-- A double is zero, infinity or a whole number of units. -/
def OnGrid (unit : Int) (x : Float) : Prop :=
  IsMultiple unit x.toModel.unpack

variable {x y : Float}

/-- Doubles on a grid add up to one on it. -/
theorem OnGrid.add (hx : OnGrid unit x) (hy : OnGrid unit y) (hfinite : y.isFinite)
    (hunit : -1022 ≤ unit) : OnGrid unit (x + y) :=
  (IsMultiple.add hx hy hfinite hunit).unpack_pack hunit

/-- A double on a grid that is finite, with an exponent of at most `hi`. -/
structure FiniteOnGrid (unit hi : Int) (x : Float) : Prop where
  /-- It is a whole number of units. -/
  onGrid : OnGrid unit x
  /-- There is room above the exponent. -/
  exponentAtMost : ExponentAtMost hi x.toModel.unpack

theorem FiniteOnGrid.isFinite (hx : FiniteOnGrid unit hi x) : x.isFinite :=
  hx.exponentAtMost.isFinite

/-- A sum of finite doubles on a grid is one, of a bound that is greater by two. -/
theorem FiniteOnGrid.add (hx : FiniteOnGrid unit hi x) (hy : FiniteOnGrid unit hi y)
    (hunit : -1022 ≤ unit) (hlo : -1074 ≤ hi) (hhi : hi ≤ 969) :
    FiniteOnGrid unit (hi + 2) (x + y) :=
  ⟨hx.onGrid.add hy.onGrid hy.isFinite hunit,
    (hx.exponentAtMost.add hy.exponentAtMost hlo).unpack_pack (by omega) (by omega)⟩

/-- So is a difference. -/
theorem FiniteOnGrid.sub (hx : FiniteOnGrid unit hi x) (hy : FiniteOnGrid unit hi y)
    (hunit : -1022 ≤ unit) (hlo : -1074 ≤ hi) (hhi : hi ≤ 969) :
    FiniteOnGrid unit (hi + 2) (x - y) :=
  ⟨(IsMultiple.sub hx.onGrid hy.onGrid hy.isFinite hunit).unpack_pack hunit,
    (hx.exponentAtMost.sub hy.exponentAtMost hlo).unpack_pack (by omega) (by omega)⟩

/-- Zero is on every grid. -/
theorem CountsUnits.finiteOnGrid (hx : CountsUnits j 0 x) (unit hi : Int) :
    FiniteOnGrid unit hi x := by
  obtain ⟨s, hs⟩ := IsUnits.eq_zero hx
  refine ⟨?_, ?_⟩
  · rw [OnGrid, hs]
    exact .zero s
  · rw [hs]
    exact .zero s

theorem lt_iff_compare : x < y ↔
    UnpackedFloat.compare x.toModel.unpack y.toModel.unpack = some .lt := by
  show decide (x.toModel < y.toModel) = true ↔ _
  rw [decide_eq_true_iff]
  exact beq_iff_eq

/-- A positive number that is less than any unit is less than a number of units, whatever its sign,
but not less than zero. -/
theorem OnGrid.lt_abs_iff (hx : OnGrid unit x) {m : Nat} {e : Int} {hm : 0 < m}
    (hy : y.toModel.unpack = .finite .positive m e hm) (he : e < unit - 52)
    (hunit : -1022 ≤ unit) : y < x.abs ↔ x.abs ≠ 0 := by
  have hzero : ¬ y < 0 := by
    rw [lt_iff_compare, hy]
    exact fun h => nomatch h
  have habs : x.abs = .ofModel (.pack x.toModel.unpack.abs) := rfl
  rw [OnGrid] at hx
  refine ⟨fun hlt heq => hzero (heq ▸ hlt), fun hne => ?_⟩
  rw [habs] at hne ⊢
  rw [lt_iff_compare, hy]
  generalize x.toModel.unpack = u at hx hne
  show UnpackedFloat.compare _ (Float.Model.pack u.abs).unpack = _
  cases hx with
  | zero s => exact absurd rfl hne
  | infinity s =>
    show UnpackedFloat.compare _ (Float.Model.pack (.infinity .positive)).unpack = _
    rw [unpack_pack_infinity]
    rfl
  | finite s m' e' hm' hlog hdvd =>
    have hge := le_exponent_of_dvd hm' hlog hdvd
    show UnpackedFloat.compare _ (Float.Model.pack (.finite .positive m' e' hm')).unpack = _
    by_cases hlarge : e' ≤ 971
    · rw [unpack_pack_finite .positive hm' hlog (by omega) hlarge]
      -- the exponents decide, as all 53 bits of the mantissa are used
      show some ((compare e e').then (compare m m')) = _
      rw [Int.compare_eq_lt.2 (by omega)]
      rfl
    · rw [unpack_pack_of_large .positive hm' (by omega)]
      rfl

/-- A whole number of less than 54 bits has all of them in its mantissa. -/
theorem exists_finite_ofNat {n : Nat} (hpos : 0 < n) (hbits : n < 2 ^ 53) :
    ∃ m e, ∃ hm : 0 < m, (Float.ofNat n).toModel.unpack = .finite .positive m e hm ∧
      m.log2 = 52 ∧ e = n.log2 - 52 ∧ m = n * 2 ^ (52 - n.log2) := by
  have hcounts := countsUnits_ofNat hbits
  unfold CountsUnits at hcounts
  generalize (Float.ofNat n).toModel.unpack = u at hcounts
  cases hcounts with
  | zero s hzero => omega
  | finite s m e hm hlog hle hcount =>
    obtain ⟨rfl, hm'⟩ := eq_mul_of_apply hm hcount
    have hlog' : n.log2 + (0 - e).toNat = 52 := by
      rw [← hlog, hm', ← Nat.shiftLeft_eq, log2_shiftLeft (Nat.ne_of_gt hpos)]
    have hdrop : (0 - e).toNat = 52 - n.log2 := by omega
    exact ⟨m, e, hm, rfl, hlog, by omega, hdrop ▸ hm'⟩

/-- A quotient of two or more is on the grid of the numbers from two on. -/
theorem onGrid_ratio {a d : Nat} (ha : a < 0x10000000000000000) (hd : 0 < d) (hd' : d < 2 ^ 32)
    (hle : 2 * d ≤ a) : OnGrid (-51) (Float.ofNat a / Float.ofNat d) := by
  obtain ⟨m', e', hm', hv, hlog', he', hdivisor⟩ := exists_finite_ofNat hd (by omega)
  have hdlog : d.log2 < 32 := (Nat.log2_lt (Nat.ne_of_gt hd)).2 hd'
  refine IsMultiple.unpack_pack ?_ (by decide)
  rw [hv]
  rcases Nat.lt_or_ge a (2 ^ 53) with hsmall | hlarge
  · -- the dividend is exact too, and exponents differ by one at least
    obtain ⟨m, e, hm, hu, hlog, he, hdividend⟩ := exists_finite_ofNat (by omega) hsmall
    have hmono : d.log2 + 1 ≤ a.log2 := by
      rw [← Nat.log2_two_mul (Nat.ne_of_gt hd)]
      exact log2_mono hle
    rw [hu]
    refine div_isMultiple _ _ hm hm' hlog hlog' (by decide) ?_
    by_cases heq : d.log2 + 1 = a.log2
    · refine .inr ⟨by omega, ?_⟩
      have hplaces : 52 - d.log2 = 52 - a.log2 + 1 := by omega
      rw [hdivisor, hdividend, hplaces, Nat.pow_succ', ← Nat.mul_assoc, Nat.mul_comm d]
      exact Nat.mul_le_mul_right _ hle
    · exact .inl (by omega)
  · -- the dividend is rounded, but its exponent is greater by far
    have hnormal := unpack_ofNat_of_ge hlarge ha
    have halog : 53 ≤ a.log2 := (Nat.le_log2 (by omega)).2 hlarge
    show IsMultiple _ (UnpackedFloat.div Format.binary64 (Float.ofNat a).toModel.unpack _)
    generalize (Float.ofNat a).toModel.unpack = u at hnormal
    cases hnormal with
    | finite s m e hm hlog hge hle =>
      exact div_isMultiple _ _ hm hm' hlog hlog' (by decide) (.inl (by omega))

end BuildScope.Number
