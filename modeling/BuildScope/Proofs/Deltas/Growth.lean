import BuildScope.Diff.Deltas
import BuildScope.Proofs.Matching.PaddingOnce
import Mathlib.Algebra.BigOperators.Group.List.Basic
import Mathlib.Algebra.Order.Ring.Int
import Mathlib.Data.List.Induction

/-!
# Growth of Deltas

By how many bytes changes grow a build, as an integer. Where no step of the checked arithmetic
overflows, the sizes that deltas report are these numbers.

* `Change.growth`: the bytes that a change adds.
* `Change.toInt_of_size_eq_ok`: the size of the delta of a change is its growth.
* `Deltas.toInt_totalSize`: a total size is the sum of the sizes.
* `Deltas.toInt_of_totalSize_eq_ok`: the total size of some changes is the sum of their growths.
-/

namespace BuildScope

open Number (Overflow Checked.add Checked.sub Checked.add_eq_ok_iff Checked.sub_eq_ok_iff)

/-- Bytes of a symbol besides its padding, as an integer. -/
def Symbol.bare (sym : Symbol) : Int :=
  sym.size.toInt - sym.padding.toInt

theorem Symbol.bare_eq_zero_iff {sym : Symbol} : sym.bare = 0 ↔ sym.size = sym.padding := by
  rw [bare, sub_eq_zero, Int64.toInt_inj]

/-- Change of an integer that symbols have. A side that is missing has none. -/
def Sides.difference (sides : Sides) (value : Symbol → Int) : Int :=
  (sides.after.map fun side => value side.symbol).getD 0 -
    (sides.before.map fun side => value side.symbol).getD 0

namespace Change

/-- Whether the delta of a change answers for its padding, where no size overflows. -/
def answersForPadding : Change → Bool
  | .added _ | .removed _ => true
  | .matched before after =>
    after.symbol.isOverhead ||
      (before.symbol.size = before.symbol.padding && after.symbol.size = after.symbol.padding)

/-- The bytes that a change adds, those of the padding only if its delta answers for them. -/
def growth (change : Change) : Int :=
  change.sides.difference Symbol.bare +
    if change.answersForPadding then change.sides.difference fun sym => sym.padding.toInt else 0

/-- Symbols that are matched grow by the difference of their sizes, but for padding that their delta
does not answer for. -/
theorem growth_matched (before after : Side) :
    (matched before after).growth = after.symbol.size.toInt - before.symbol.size.toInt -
      if (matched before after).answersForPadding then 0
      else after.symbol.padding.toInt - before.symbol.padding.toInt := by
  simp only [growth, sides, Sides.difference, Symbol.bare, Option.map_some, Option.getD_some]
  split <;> omega

@[simp]
theorem growth_added (after : Side) : (added after).growth = after.symbol.size.toInt := by
  simp [growth, answersForPadding, sides, Sides.difference, Symbol.bare]

@[simp]
theorem growth_removed (before : Side) : (removed before).growth = -before.symbol.size.toInt := by
  simp [growth, answersForPadding, sides, Sides.difference, Symbol.bare]
  omega

end Change

/-! ## Steps that do not overflow -/

/-- A change of bytes is the difference, if the bytes of each side are what they count. -/
theorem Sides.toInt_of_change_eq_ok {sides : Sides} {bytes : Symbol → Except Overflow Int64}
    {value : Symbol → Int} (hbytes : ∀ sym n, bytes sym = .ok n → n.toInt = value sym) {n : Int64}
    (h : sides.change bytes = .ok n) : n.toInt = sides.difference value := by
  unfold Sides.change at h
  extract_lets bytesOf at h
  have hside {side : Option Side} {m : Int64} (hm : bytesOf side = .ok m) :
      m.toInt = (side.map fun side => value side.symbol).getD 0 := by
    cases side with
    | none =>
      obtain rfl : 0 = m := Except.ok.inj hm
      rfl
    | some side => exact hbytes _ _ hm
  obtain ⟨before, hbefore, h⟩ := Except.bind_eq_ok.1 h
  obtain ⟨after, hafter, h⟩ := Except.bind_eq_ok.1 h
  rw [Checked.sub_eq_ok_iff.1 h, hside hbefore, hside hafter, Sides.difference]

/-- Whether a delta answers for its padding is decided by its sizes, if they can be computed. -/
theorem Change.answersForPadding_of_eq_ok {change : Change} {attributed : Bool}
    (h : change.attributesPadding = .ok attributed) : change.answersForPadding = attributed := by
  cases change with
  | added after => exact Except.ok.inj h
  | removed before => exact Except.ok.inj h
  | matched before after =>
    simp only [attributesPadding] at h
    rw [answersForPadding]
    -- a size without padding is zero exactly where the size is the padding
    split at h
    next hover =>
      obtain rfl := Except.pure_eq_ok.1 h
      rw [hover, Bool.true_or]
    next hover =>
      obtain ⟨old, hold, h⟩ := Except.bind_eq_ok.1 h
      rw [Bool.eq_false_iff.2 hover, Bool.false_or]
      split at h
      next hne =>
        obtain rfl := Except.pure_eq_ok.1 h
        rw [ne_eq, Symbol.sizeWithoutPadding_eq_zero_iff hold] at hne
        rw [decide_eq_false hne, Bool.false_and]
      next heq =>
        obtain ⟨new, hnew, h⟩ := Except.bind_eq_ok.1 h
        obtain rfl := Except.pure_eq_ok.1 h
        rw [not_not, Symbol.sizeWithoutPadding_eq_zero_iff hold] at heq
        rw [decide_eq_true heq, Bool.true_and, Bool.eq_iff_iff, decide_eq_true_iff,
          decide_eq_true_iff, Symbol.sizeWithoutPadding_eq_zero_iff hnew]

/-- The size of the delta of a change is its growth. -/
theorem Change.toInt_of_size_eq_ok {change : Change} {n : Int64}
    (h : (Delta.single change).size = .ok n) : n.toInt = change.growth := by
  obtain ⟨bare, hbare, h⟩ := Except.bind_eq_ok.1 h
  obtain ⟨padding, hpadding, h⟩ := Except.bind_eq_ok.1 h
  obtain ⟨attributed, hattributed, hpadding⟩ := Except.bind_eq_ok.1 hpadding
  have hbare : bare.toInt = change.sides.difference Symbol.bare :=
    Sides.toInt_of_change_eq_ok (fun _ _ => Symbol.sizeWithoutPadding_eq_ok_iff.1) hbare
  rw [Checked.add_eq_ok_iff.1 h, growth, hbare, answersForPadding_of_eq_ok hattributed]
  congr 1
  -- what is left is the padding, which counts only if it is attributed
  unfold Sides.padding at hpadding
  split at hpadding
  · rw [if_pos ‹_›]
    exact Sides.toInt_of_change_eq_ok (fun sym n hn => by cases hn; rfl) hpadding
  · rw [if_neg ‹_›]
    cases hpadding
    rfl

/-! ## Total size -/

/-- Change of size of a delta as an integer, or zero if it cannot be computed. -/
def Delta.bytes (delta : Delta) : Int :=
  match delta.size with
  | .ok size => size.toInt
  | .error _ => 0

theorem Delta.bytes_eq {delta : Delta} {size : Int64} (h : delta.size = .ok size) :
    delta.bytes = size.toInt := by
  rw [bytes, h]

namespace Deltas

theorem totalSize_append_singleton (deltas : Deltas) (delta : Delta) :
    totalSize (deltas ++ [delta]) =
      deltas.totalSize >>= fun total => delta.size >>= fun size => Checked.add total size := by
  simp [totalSize, List.foldlM_append]

/-- A total size that can be computed is the sum of the sizes. -/
theorem toInt_totalSize {deltas : Deltas} {total : Int64} (h : deltas.totalSize = .ok total) :
    (∀ delta ∈ deltas, ∃ size, delta.size = .ok size) ∧
      total.toInt = (deltas.map Delta.bytes).sum := by
  induction deltas using List.reverseRecOn generalizing total with
  | nil =>
    cases h
    exact ⟨by simp, rfl⟩
  | append_singleton deltas delta ih =>
    rw [totalSize_append_singleton] at h
    obtain ⟨rest, hrest, h⟩ := Except.bind_eq_ok.1 h
    obtain ⟨size, hsize, h⟩ := Except.bind_eq_ok.1 h
    obtain ⟨hsizes, hsum⟩ := ih hrest
    constructor
    · exact List.forall_mem_append.2 ⟨hsizes, List.forall_mem_singleton.2 ⟨size, hsize⟩⟩
    · rw [Checked.add_eq_ok_iff.1 h, hsum, List.map_append, List.sum_append, List.map_singleton,
        List.sum_singleton, Delta.bytes_eq hsize]

/-- A total size is the sum of the growths. -/
theorem toInt_of_totalSize_eq_ok {changes : List Change} {total : Int64}
    (h : totalSize (changes.map Delta.single) = .ok total) :
    total.toInt = (changes.map Change.growth).sum := by
  obtain ⟨hsizes, hsum⟩ := toInt_totalSize h
  rw [hsum, List.map_map]
  refine congrArg List.sum (List.map_congr_left fun change hchange => ?_)
  obtain ⟨size, hsize⟩ := hsizes _ (List.mem_map_of_mem hchange)
  rw [Function.comp_apply, Delta.bytes_eq hsize, Change.toInt_of_size_eq_ok hsize]

end Deltas

end BuildScope
