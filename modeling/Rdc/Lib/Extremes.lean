import Mathlib.Order.Bounds.Basic

/-!
# The extremes of a growing list

The greatest and the least element of a list when one more element is put at its end.
-/

namespace Extremes

variable {α : Type*} [LinearOrder α] {xs : List α} {m : α}

theorem isGreatest_append (h : IsGreatest {y | y ∈ xs} m) (x : α) :
    IsGreatest {y | y ∈ xs ++ [x]} (max m x) := by
  have hset : {y | y ∈ xs ++ [x]} = insert x {y | y ∈ xs} := by
    ext y
    simp [or_comm]
  rw [hset, max_comm]
  exact h.insert x

theorem isLeast_append (h : IsLeast {y | y ∈ xs} m) (x : α) :
    IsLeast {y | y ∈ xs ++ [x]} (min m x) := by
  have hset : {y | y ∈ xs ++ [x]} = insert x {y | y ∈ xs} := by
    ext y
    simp [or_comm]
  rw [hset, min_comm]
  exact h.insert x

end Extremes
