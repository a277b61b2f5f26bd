import Mathlib.Algebra.BigOperators.Group.List.Lemmas
import Mathlib.Algebra.Order.Ring.Int

/-!
# Sums Key by Key

A sum over a list can be taken key by key, if all keys are gone through once.

* `sum_fibers`: the sums under each key come to the sum of all.
-/

namespace BuildScope

/-- A sum can be taken key by key. -/
theorem sum_fibers {α κ : Type} [DecidableEq κ] (key : α → κ) (value : α → Int)
    {keys : List κ} (hnodup : keys.Nodup) {l : List α} (hkeys : ∀ a ∈ l, key a ∈ keys) :
    (keys.map fun k => ((l.filter fun a => key a = k).map value).sum).sum = (l.map value).sum := by
  induction l with
  | nil => simp
  | cons a l ih =>
    -- the first member counts under its own key only
    have hhead : (keys.map fun k => if k = key a then value a else 0).sum = value a := by
      rw [List.sum_map_ite_eq, List.count_eq_one_of_mem hnodup (hkeys a List.mem_cons_self)]
      simp
    have hsplit (k : κ) : (((a :: l).filter fun a => key a = k).map value).sum =
        (if k = key a then value a else 0) + ((l.filter fun a => key a = k).map value).sum := by
      by_cases hk : key a = k
      · simp [hk]
      · simp [hk, Ne.symm hk]
    simp only [hsplit]
    rw [List.sum_map_add, hhead, ih fun b hb => hkeys b (List.mem_cons_of_mem a hb),
      List.map_cons, List.sum_cons]

end BuildScope
