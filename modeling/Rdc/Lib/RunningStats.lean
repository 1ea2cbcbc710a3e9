import Mathlib.Algebra.BigOperators.Group.List.Lemmas
import Mathlib.Data.Rat.Cast.CharZero
import Mathlib.Tactic.FieldSimp
import Mathlib.Tactic.Ring

/-!
# Running statistics

The mean of a list and the sum of the squared deviations from it, and what one more element does to
them. A running mean gets along without the list: the new mean follows from the old one, and the new
sum of squares from the old one and the two means. The reason is that the squares about any other
centre exceed those about the mean by the length times the square of the distance (`sum_sq_sub`).
-/

namespace RunningStats

variable {K : Type*} [Field K]

/-- The mean of a list. -/
def mean (xs : List K) : K := xs.sum / xs.length

/-- The sum of the squared deviations from the mean. -/
def squares (xs : List K) : K := (xs.map fun x => (x - mean xs) ^ 2).sum

@[simp] theorem mean_singleton (x : K) : mean [x] = x := by
  simp [mean]

@[simp] theorem squares_singleton (x : K) : squares [x] = 0 := by
  simp [squares]

variable [CharZero K]

theorem length_mul_mean (xs : List K) : xs.length * mean xs = xs.sum := by
  cases xs with
  | nil => simp
  | cons x xs =>
    have hlen : (((x :: xs).length : ℕ) : K) ≠ 0 := by
      rw [List.length_cons, Nat.cast_succ]
      exact Nat.cast_add_one_ne_zero _
    rw [mean, mul_div_cancel₀ _ hlen]

omit [CharZero K] in
theorem sum_sq_expand (xs : List K) (c : K) :
    (xs.map fun x => (x - c) ^ 2).sum
      = (xs.map fun x => x ^ 2).sum - 2 * c * xs.sum + xs.length * c ^ 2 := by
  induction xs with
  | nil => simp
  | cons x xs ih =>
    simp only [List.map_cons, List.sum_cons, List.length_cons, ih, Nat.cast_succ]
    ring

/-- The squares about a centre are those about the mean, and the distance of the two once for each
element. -/
theorem sum_sq_sub (xs : List K) (c : K) :
    (xs.map fun x => (x - c) ^ 2).sum = squares xs + xs.length * (mean xs - c) ^ 2 := by
  rw [squares, sum_sq_expand, sum_sq_expand, ← length_mul_mean xs]
  ring

/-- One more element moves the mean by its share of the deviation. -/
theorem mean_append (xs : List K) (x : K) :
    mean (xs ++ [x]) = mean xs + (x - mean xs) / (xs.length + 1) := by
  have hlen : ((xs.length : K) + 1) ≠ 0 := Nat.cast_add_one_ne_zero _
  have hsum : (xs ++ [x]).sum = xs.length * mean xs + x := by
    rw [length_mul_mean, List.sum_append, List.sum_singleton]
  rw [mean, hsum, List.length_append, List.length_singleton, Nat.cast_add, Nat.cast_one]
  field_simp
  ring

/-- **One more element adds the product of its deviations** from the old mean and from the new. -/
theorem squares_append (xs : List K) (x : K) :
    squares (xs ++ [x]) = squares xs + (x - mean xs) * (x - mean (xs ++ [x])) := by
  have hlen : ((xs.length : K) + 1) ≠ 0 := Nat.cast_add_one_ne_zero _
  have hstep : squares (xs ++ [x])
      = squares xs + xs.length * (mean xs - mean (xs ++ [x])) ^ 2
        + (x - mean (xs ++ [x])) ^ 2 := by
    rw [← sum_sq_sub, squares, List.map_append, List.sum_append, List.map_singleton,
      List.sum_singleton]
  rw [hstep, mean_append]
  field_simp
  ring

end RunningStats
