import BuildScope.Diff.Deltas
import BuildScope.Proofs.Except
import BuildScope.Proofs.Number.Magnitude
import BuildScope.Proofs.Text.ByteOrder
import Mathlib.Data.Prod.Lex

/-!
# Sorting by Impact

Deltas are sorted by comparing doubles and names, and two that compare equal stay as they are. As
long as the proportional sizes are numbers, this is the order of the magnitudes of the changes, the
greatest first, and of the names, which is linear: the deltas are sorted by a rank.

* `Delta.rank`: the place of a delta in the order.
* `Deltas.sort_eq_sortByRank`: sorting is sorting by rank.
* `Deltas.sort_by_impact`: what this means for the deltas.
-/

namespace BuildScope

open Number (Overflow abs_lt_abs_iff abs_eq_abs_iff)

namespace Delta

/-- The proportional size of a delta can be computed, and it is a number. -/
def HasNumber (delta : Delta) : Prop :=
  ∃ x, delta.pss = .ok x ∧ x.isNaN = false

instance (delta : Delta) : Decidable delta.HasNumber :=
  decidable_of_iff (delta.pss.toOption.any fun x => !x.isNaN) <| by
    rw [HasNumber]
    cases delta.pss <;> simp [Except.toOption]

/-- One delta may stand before another: its change has the greater magnitude, or the same one and
its name is not greater, byte by byte. -/
def MayPrecede (a b : Delta) : Prop :=
  ∃ x y, a.pss = .ok x ∧ b.pss = .ok y ∧
    (y.abs < x.abs ∨ x.abs = y.abs ∧ Text.bytes a.fullName ≤ Text.bytes b.fullName)

/-- Magnitude of the change of a delta, which is the greatest where it cannot be computed. -/
def magnitude (delta : Delta) : WithTop ℕ :=
  match delta.pss with
  | .ok x => Number.magnitude x
  | .error _ => ⊤

/-- The place of a delta in the order: greater changes come first, equal ones are in the order of
the names. -/
def rank (delta : Delta) : (WithTop ℕ)ᵒᵈ ×ₗ String :=
  toLex (.toDual delta.magnitude, delta.fullName)

variable {a b : Delta} {x y : Float}

/-- The magnitude of a delta is that of its proportional size. -/
theorem magnitude_of_pss (ha : a.pss = .ok x) : a.magnitude = Number.magnitude x := by
  rw [magnitude, ha]

/-- A delta has an impact if its proportional size is known. -/
theorem impact_eq_ok (ha : a.pss = .ok x) : Deltas.impact a = .ok ⟨x.abs, a.fullName⟩ :=
  Except.bind_eq_ok.2 ⟨x, ha, rfl⟩

/-- Ranks compare by magnitude, and by name if these are equal. -/
theorem rank_le_rank_iff : a.rank ≤ b.rank ↔
    b.magnitude < a.magnitude ∨ a.magnitude = b.magnitude ∧ a.fullName ≤ b.fullName :=
  Prod.Lex.toLex_le_toLex

/-- Impacts compare as ranks do. -/
theorem precedes_eq (ha : a.pss = .ok x) (hx : x.isNaN = false) (hb : b.pss = .ok y)
    (hy : y.isNaN = false) :
    Deltas.Impact.precedes ⟨x.abs, a.fullName⟩ ⟨y.abs, b.fullName⟩ = (a.rank ≤ b.rank : Bool) := by
  rw [Bool.eq_iff_iff, decide_eq_true_iff, rank_le_rank_iff, magnitude_of_pss ha,
    magnitude_of_pss hb, Deltas.Impact.precedes]
  simp only [Bool.or_eq_true, Bool.and_eq_true, Bool.not_eq_true', decide_eq_true_iff,
    decide_eq_false_iff_not, abs_lt_abs_iff hx hy, abs_lt_abs_iff hy hx]
  -- names are compared where neither magnitude is less, which means that they are equal
  rcases lt_trichotomy (Number.magnitude x) (Number.magnitude y) with hlt | heq | hgt
  · simp [hlt, hlt.not_gt, hlt.ne]
  · simp [heq]
  · simp [hgt]

/-- A delta may stand before another if its rank is not greater. -/
theorem mayPrecede_iff (ha : a.HasNumber) (hb : b.HasNumber) :
    a.MayPrecede b ↔ a.rank ≤ b.rank := by
  obtain ⟨x, hpss, hx⟩ := ha
  obtain ⟨y, hpss', hy⟩ := hb
  rw [rank_le_rank_iff, magnitude_of_pss hpss, magnitude_of_pss hpss', ← abs_lt_abs_iff hy hx,
    ← abs_eq_abs_iff hx hy, Text.le_iff_bytes_le, MayPrecede, hpss, hpss']
  simp

/-- A delta that may stand before another has not changed less. -/
theorem MayPrecede.exists_not_lt (h : a.MayPrecede b) (ha : a.HasNumber) (hb : b.HasNumber) :
    ∃ x y, a.pss = .ok x ∧ b.pss = .ok y ∧ ¬x.abs < y.abs := by
  have hrank := (mayPrecede_iff ha hb).1 h
  obtain ⟨x, hpss, hx⟩ := ha
  obtain ⟨y, hpss', hy⟩ := hb
  refine ⟨x, y, hpss, hpss', ?_⟩
  rw [abs_lt_abs_iff hx hy, ← magnitude_of_pss hpss, ← magnitude_of_pss hpss']
  rcases rank_le_rank_iff.1 hrank with hgt | ⟨heq, -⟩
  · exact hgt.not_gt
  · exact heq.not_lt

/-- Deltas have the same rank if they have the same impact. -/
theorem impact_eq_iff (ha : a.HasNumber) (hb : b.HasNumber) :
    Deltas.impact a = Deltas.impact b ↔ a.rank = b.rank := by
  obtain ⟨x, hpss, hx⟩ := ha
  obtain ⟨y, hpss', hy⟩ := hb
  have hrank : a.rank = b.rank ↔ a.magnitude = b.magnitude ∧ a.fullName = b.fullName := by
    rw [rank, rank, toLex_inj, Prod.mk.injEq, OrderDual.toDual_inj]
  rw [hrank, magnitude_of_pss hpss, magnitude_of_pss hpss', ← abs_eq_abs_iff hx hy]
  simp [Deltas.impact, hpss, hpss', bind, Except.bind, pure, Except.pure]

end Delta

namespace Deltas

variable {deltas other sorted : Deltas}

/-- Sort by rank. -/
def sortByRank (deltas : Deltas) : Deltas :=
  deltas.mergeSort fun a b => a.rank ≤ b.rank

theorem rank_trans (a b c : Delta) (hab : decide (a.rank ≤ b.rank) = true)
    (hbc : decide (b.rank ≤ c.rank) = true) : decide (a.rank ≤ c.rank) = true :=
  decide_eq_true (le_trans (of_decide_eq_true hab) (of_decide_eq_true hbc))

theorem rank_total (a b : Delta) :
    (decide (a.rank ≤ b.rank) || decide (b.rank ≤ a.rank)) = true := by
  simpa using le_total a.rank b.rank

/-- Sorting by rank keeps each delta. -/
theorem sortByRank_perm (deltas : Deltas) : deltas.sortByRank.Perm deltas :=
  List.mergeSort_perm deltas _

/-- Sorting by rank puts the deltas in the order of their ranks. -/
theorem pairwise_sortByRank (deltas : Deltas) :
    deltas.sortByRank.Pairwise fun a b => a.rank ≤ b.rank :=
  (List.pairwise_mergeSort rank_trans rank_total deltas).imp of_decide_eq_true

/-- Deltas whose proportional sizes are known all have an impact. -/
theorem exists_impacts (h : ∀ delta ∈ deltas, ∃ x, delta.pss = .ok x) :
    ∃ impacts, deltas.mapM impact = .ok impacts :=
  Except.exists_mapM_eq_ok.2 fun delta hdelta =>
    let ⟨_, hx⟩ := h delta hdelta
    ⟨_, Delta.impact_eq_ok hx⟩

/-- If the proportional sizes are numbers, sorting is sorting by rank. -/
theorem sort_eq_sortByRank (h : ∀ delta ∈ deltas, delta.HasNumber) :
    deltas.sort = .ok deltas.sortByRank := by
  rw [sort]
  split
  next hshort =>
    -- a single delta is in order
    match deltas, hshort with
    | [], _ => rw [sortByRank, List.mergeSort_nil]
    | [delta], _ => rw [sortByRank, List.mergeSort_singleton]
  · obtain ⟨impacts, himpacts⟩ := exists_impacts fun delta hdelta =>
      (h delta hdelta).imp fun _ hx => hx.1
    -- each delta is sorted together with its own impact, so that the impact can be left out
    have hpaired : List.Forall₂ (fun i delta => impact delta = .ok i) impacts deltas :=
      (Except.mapM_eq_ok.1 himpacts).flip
    obtain ⟨hlength, hpaired⟩ := List.forall₂_iff_zip.1 hpaired
    have hsorted : ((impacts.zip deltas).mergeSort fun a b => a.1.precedes b.1).map Prod.snd =
        deltas.sortByRank := by
      rw [List.map_mergeSort (s := fun a b : Delta => a.rank ≤ b.rank), sortByRank,
        List.map_snd_zip hlength.ge]
      rintro ⟨i, a⟩ ha ⟨j, b⟩ hb
      obtain ⟨x, hpss, hx⟩ := h a (List.of_mem_zip ha).2
      obtain ⟨y, hpss', hy⟩ := h b (List.of_mem_zip hb).2
      obtain rfl := Except.ok.inj ((hpaired ha).symm.trans (Delta.impact_eq_ok hpss))
      obtain rfl := Except.ok.inj ((hpaired hb).symm.trans (Delta.impact_eq_ok hpss'))
      exact Delta.precedes_eq hpss hx hpss' hy
    rw [himpacts]
    exact congrArg Except.ok hsorted

/-- Deltas can be sorted if there is nothing to compare, or nothing to compare by is missing. -/
theorem exists_sort_iff : (∃ sorted, deltas.sort = .ok sorted) ↔
    deltas.length < 2 ∨ ∀ delta ∈ deltas, ∃ x, delta.pss = .ok x := by
  rw [sort]
  split
  next hshort => exact ⟨fun _ => .inl hshort, fun _ => ⟨deltas, rfl⟩⟩
  next hlong =>
    constructor
    · rintro ⟨sorted, h⟩
      obtain ⟨impacts, himpacts, -⟩ := Except.bind_eq_ok.1 h
      refine .inr fun delta hdelta => ?_
      obtain ⟨i, -, hi⟩ := Except.exists_of_mapM_of_mem himpacts hdelta
      obtain ⟨x, hx, -⟩ := Except.bind_eq_ok.1 hi
      exact ⟨x, hx⟩
    · rintro (hshort | hpss)
      · exact absurd hshort hlong
      · obtain ⟨impacts, himpacts⟩ := exists_impacts hpss
        exact ⟨_, Except.bind_eq_ok.2 ⟨impacts, himpacts, rfl⟩⟩

/-! ## The order that results -/

/-- Some deltas sorted by impact. -/
structure SortsTo (deltas sorted : Deltas) : Prop where
  /-- Each delta is kept, once. -/
  perm : sorted.Perm deltas
  /-- Of any two, the first one has the greater change, or an equal one and a name not greater. -/
  ordered : sorted.Pairwise Delta.MayPrecede
  /-- Deltas of equal changes and names stand in the order in which they were. -/
  stable : ∀ tied : Deltas, tied.Sublist deltas →
    tied.Pairwise (fun a b => impact a = impact b) → tied.Sublist sorted

/-- One delta alone is sorted. -/
theorem sortsTo_self (hshort : deltas.length < 2) : SortsTo deltas deltas where
  perm := .refl deltas
  ordered := by
    match deltas, hshort with
    | [], _ => exact .nil
    | [delta], _ => exact List.pairwise_singleton _ delta
  stable := fun _ htied _ => htied

theorem hasNumber_of_perm (h : ∀ delta ∈ deltas, delta.HasNumber) (hperm : other.Perm deltas) :
    ∀ delta ∈ other, delta.HasNumber :=
  fun delta hdelta => h delta (hperm.subset hdelta)

/-- Sorting by rank is sorting. -/
theorem sortsTo_sortByRank (h : ∀ delta ∈ deltas, delta.HasNumber) :
    SortsTo deltas deltas.sortByRank where
  perm := sortByRank_perm deltas
  ordered := by
    have hsorted := hasNumber_of_perm h (sortByRank_perm deltas)
    refine (pairwise_sortByRank deltas).imp_of_mem fun {a b} ha hb hab => ?_
    exact (Delta.mayPrecede_iff (hsorted a ha) (hsorted b hb)).2 hab
  stable := by
    intro tied htied hequal
    refine List.sublist_mergeSort rank_trans rank_total ?_ htied
    refine hequal.imp_of_mem fun {a b} ha hb hab => decide_eq_true ?_
    -- deltas that are tied may stand in either order, so they stand in their own
    exact ((Delta.impact_eq_iff (h a (htied.subset ha)) (h b (htied.subset hb))).1 hab).le

/-- What deltas with numbers are sorted to has their order. -/
theorem sortsTo_of_sort (h : ∀ delta ∈ deltas, delta.HasNumber) (hsort : deltas.sort = .ok sorted) :
    SortsTo deltas sorted := by
  rw [sort_eq_sortByRank h] at hsort
  obtain rfl := Except.ok.inj hsort
  exact sortsTo_sortByRank h

/-- Sorting by rank a second time changes nothing. -/
theorem sortByRank_sortByRank (deltas : Deltas) :
    deltas.sortByRank.sortByRank = deltas.sortByRank :=
  List.mergeSort_of_pairwise ((pairwise_sortByRank deltas).imp decide_eq_true)

/-- However some deltas are ordered, the same impacts come first when they are sorted. -/
theorem map_impact_sortByRank (h : ∀ delta ∈ deltas, delta.HasNumber) (hperm : other.Perm deltas) :
    other.sortByRank.map impact = deltas.sortByRank.map impact := by
  have hranks : other.sortByRank.map Delta.rank = deltas.sortByRank.map Delta.rank := by
    refine List.Perm.eq_of_pairwise (fun _ _ _ _ => le_antisymm)
      (List.pairwise_map.2 (pairwise_sortByRank other))
      (List.pairwise_map.2 (pairwise_sortByRank deltas)) (List.Perm.map _ ?_)
    exact (List.mergeSort_perm other _).trans (hperm.trans (sortByRank_perm deltas).symm)
  -- place by place, what has the same rank has the same impact
  rw [← List.forall₂_eq_eq_eq, List.forall₂_map_left_iff, List.forall₂_map_right_iff] at hranks ⊢
  obtain ⟨hlength, hrank⟩ := List.forall₂_iff_zip.1 hranks
  refine List.forall₂_iff_zip.2 ⟨hlength, fun {a b} hab => ?_⟩
  have ha := hperm.subset ((sortByRank_perm other).subset (List.of_mem_zip hab).1)
  have hb := (sortByRank_perm deltas).subset (List.of_mem_zip hab).2
  exact (Delta.impact_eq_iff (h a ha) (h b hb)).2 (hrank hab)

/-- If the proportional sizes that can be computed are numbers, sorting some deltas fails only for
want of them. It puts those with the greatest changes first, those with equal changes by name, and
leaves those with equal names in their order. Doing it again changes nothing, and neither does the
order in which the deltas were, as far as changes and names tell. -/
theorem sort_by_impact
    (hnan : ∀ delta ∈ deltas, ∀ x, delta.pss = .ok x → x.isNaN = false) :
    ((∃ sorted, deltas.sort = .ok sorted) ↔
      deltas.length < 2 ∨ ∀ delta ∈ deltas, ∃ x, delta.pss = .ok x) ∧
    ∀ sorted, deltas.sort = .ok sorted →
      SortsTo deltas sorted ∧ sorted.sort = .ok sorted ∧
        ∀ other : Deltas, other.Perm deltas →
          ∃ otherSorted, other.sort = .ok otherSorted ∧
            otherSorted.map impact = sorted.map impact := by
  refine ⟨exists_sort_iff, fun sorted hsort => ?_⟩
  rcases exists_sort_iff.1 ⟨sorted, hsort⟩ with hshort | hpss
  -- nothing was compared, so that the deltas may not even have proportional sizes
  · obtain rfl : deltas = sorted := Except.ok.inj ((if_pos hshort).symm.trans hsort)
    refine ⟨sortsTo_self hshort, hsort, fun other hperm => ?_⟩
    obtain rfl : other = deltas := by
      match deltas, hshort with
      | [], _ => exact hperm.eq_nil
      | [delta], _ => exact hperm.eq_singleton
    exact ⟨other, hsort, rfl⟩
  · have h : ∀ delta ∈ deltas, delta.HasNumber := fun delta hdelta =>
      (hpss delta hdelta).imp fun x hx => ⟨hx, hnan delta hdelta x hx⟩
    obtain rfl := Except.ok.inj ((sort_eq_sortByRank h).symm.trans hsort)
    refine ⟨sortsTo_sortByRank h, ?_, fun other hperm => ?_⟩
    · rw [sort_eq_sortByRank (hasNumber_of_perm h (sortByRank_perm deltas)),
        sortByRank_sortByRank]
    · exact ⟨_, sort_eq_sortByRank (hasNumber_of_perm h hperm), map_impact_sortByRank h hperm⟩

/-- A byte that was lost counts as much as one that was gained, so that names decide. Two symbols of
one name stay in their order. -/
theorem sort_by_impact_of_ties :
    let fresh : Symbol :=
      { containerName := "lib", sectionName := ".text", size := 1, fullName := "b" }
    let twin : Symbol := { fresh with sectionName := ".data" }
    let gone : Symbol := { fresh with fullName := "a" }
    let small : Symbol := { fresh with size := 4, fullName := "c" }
    let large : Symbol := { small with size := 12 }
    let deltas : Deltas := [.added ⟨some 0, fresh⟩, .removed ⟨some 0, gone⟩,
      .matched ⟨some 1, small⟩ ⟨some 1, large⟩, .added ⟨some 2, twin⟩]
    (∀ delta ∈ deltas, ∀ x, delta.pss = .ok x → x.isNaN = false) ∧
      ∃ sorted reversed : Deltas, deltas.sort = .ok sorted ∧ sort deltas.reverse = .ok reversed ∧
        SortsTo deltas sorted ∧ sorted.sort = .ok sorted ∧
        [.added ⟨some 0, fresh⟩, .added ⟨some 2, twin⟩].Sublist sorted ∧
        reversed.map impact = sorted.map impact := by
  intro fresh twin gone small large deltas
  have hnumber : ∀ delta ∈ deltas, delta.HasNumber := by decide +kernel
  have hnan : ∀ delta ∈ deltas, ∀ x, delta.pss = .ok x → x.isNaN = false := by
    intro delta hdelta x hx
    obtain ⟨y, hy, hnan⟩ := hnumber delta hdelta
    exact Except.ok.inj (hx.symm.trans hy) ▸ hnan
  obtain ⟨hiff, hsorts⟩ := sort_by_impact hnan
  obtain ⟨sorted, hsort⟩ :=
    hiff.2 (.inr fun delta hdelta => (hnumber delta hdelta).imp fun _ hx => hx.1)
  obtain ⟨hsorted, hagain, hany⟩ := hsorts sorted hsort
  obtain ⟨reversed, hreversed, himpacts⟩ := hany deltas.reverse (List.reverse_perm deltas)
  refine ⟨hnan, sorted, reversed, hsort, hreversed, hsorted, hagain, ?_, himpacts⟩
  exact hsorted.stable _ (by simp [deltas]) (List.pairwise_pair.2 rfl)

end Deltas

end BuildScope
