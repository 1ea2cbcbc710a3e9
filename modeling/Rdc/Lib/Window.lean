import Mathlib.Data.List.TakeWhile
import Mathlib.Order.Nat

/-!
# Keeping the end of a list

A list that grows at its end is cut at its front, by a limit on its length and because its elements
get old. What is to be kept is the longest suffix that is within the limits (`IsLongestSuffix`), and
there is only one. If no element is old once an earlier one is not, it is found by dropping: first
what is too much, then what is too old (`isLongestSuffix_window`), and two such drops in a row are
one drop of the larger number (`dropWhile_drop`).
-/

namespace Window

variable {α : Type*}

/-- The longest suffix with a property. -/
structure IsLongestSuffix (Q : List α → Prop) (xs ys : List α) : Prop where
  suffix : ys <:+ xs
  holds : Q ys
  longest : ∀ zs, zs <:+ xs → Q zs → zs.length ≤ ys.length

theorem IsLongestSuffix.unique {Q : List α → Prop} {xs ys zs : List α}
    (h : IsLongestSuffix Q xs ys) (h' : IsLongestSuffix Q xs zs) : ys = zs := by
  have hlen : ys.length = zs.length :=
    Nat.le_antisymm (h'.longest ys h.suffix h.holds) (h.longest zs h'.suffix h'.holds)
  exact (List.suffix_of_suffix_length_le h.suffix h'.suffix hlen.le).eq_of_length hlen

variable {old : α → Bool}

/-- Once an element is not old, none after it is. -/
def Ages (old : α → Bool) (xs : List α) : Prop :=
  xs.Pairwise fun x y => old x = false → old y = false

variable {xs : List α}

/-- What is left by dropping the old elements is not old. -/
theorem Ages.dropWhile (h : Ages old xs) : ∀ x ∈ xs.dropWhile old, old x = false := by
  induction xs with
  | nil => exact fun x hx => absurd hx List.not_mem_nil
  | cons x xs ih =>
    obtain ⟨hx, hxs⟩ := List.pairwise_cons.mp h
    rw [List.dropWhile_cons]
    split
    · exact ih hxs
    · rename_i hnot
      have hyoung : old x = false := Bool.eq_false_iff.mpr hnot
      intro y hy
      rcases List.mem_cons.mp hy with rfl | htail
      · exact hyoung
      · exact hx y htail hyoung

theorem drop_length_takeWhile (p : α → Bool) (xs : List α) :
    xs.drop (xs.takeWhile p).length = xs.dropWhile p :=
  calc xs.drop (xs.takeWhile p).length
      = (xs.takeWhile p ++ xs.dropWhile p).drop (xs.takeWhile p).length := by
        rw [List.takeWhile_append_dropWhile]
    _ = xs.dropWhile p := List.drop_left

theorem dropWhile_of_young (h : ∀ x ∈ xs, old x = false) : xs.dropWhile old = xs := by
  cases xs with
  | nil => rfl
  | cons x xs => rw [List.dropWhile_cons, if_neg (by simp [h x (List.mem_cons_self ..)])]

/-- The first elements are all old exactly if they are among those that are dropped. -/
theorem le_length_takeWhile {p : α → Bool} {i : Nat} (hi : i ≤ xs.length) :
    i ≤ (xs.takeWhile p).length ↔ ∀ x ∈ xs.take i, p x = true := by
  induction xs generalizing i with
  | nil => simp_all
  | cons x xs ih =>
    cases i with
    | zero => simp
    | succ i =>
      rw [List.takeWhile_cons, List.take_succ_cons, List.forall_mem_cons]
      by_cases hx : p x = true
      · rw [if_pos hx, List.length_cons, Nat.succ_le_succ_iff,
          ih (Nat.le_of_succ_le_succ hi)]
        simp [hx]
      · rw [if_neg hx]
        simp [hx]

/-- **Two drops are one.** -/
theorem dropWhile_drop (h : Ages old xs) (i : Nat) :
    (xs.drop i).dropWhile old = xs.drop (max i (xs.takeWhile old).length) := by
  induction xs generalizing i with
  | nil => simp
  | cons x xs ih =>
    cases i with
    | zero => rw [List.drop_zero, Nat.zero_max, drop_length_takeWhile]
    | succ i =>
      obtain ⟨hx, hxs⟩ := List.pairwise_cons.mp h
      rw [List.drop_succ_cons, ih hxs, List.takeWhile_cons]
      split
      · rw [List.length_cons, Nat.succ_max_succ, List.drop_succ_cons]
      · -- nothing after an element that is not old is old
        rename_i hnot
        have hyoung : ∀ y ∈ xs, old y = false :=
          fun y hy => hx y hy (Bool.eq_false_iff.mpr hnot)
        have hnil : xs.takeWhile old = [] := by
          cases xs with
          | nil => rfl
          | cons y ys =>
            rw [List.takeWhile_cons, if_neg (by simp [hyoung y (List.mem_cons_self ..)])]
        rw [hnil, List.length_nil, Nat.max_zero, Nat.max_zero, List.drop_succ_cons]

/-- **Dropping finds the longest suffix** of at most `m` elements, none of them old. -/
theorem isLongestSuffix_window (h : Ages old xs) (m : Nat) :
    IsLongestSuffix (fun zs => zs.length ≤ m ∧ ∀ x ∈ zs, old x = false) xs
      (xs.drop (max (xs.length - m) (xs.takeWhile old).length)) := by
  refine ⟨List.drop_suffix .., ⟨?_, ?_⟩, ?_⟩
  · rw [List.length_drop]
    omega
  · rw [← dropWhile_drop h]
    exact Ages.dropWhile (List.Pairwise.sublist (List.drop_sublist ..) h)
  · rintro zs hsuffix ⟨hlen, hyoung⟩
    -- a suffix is a drop, and this one is not changed by dropping what is old
    have hzs := List.suffix_iff_eq_drop.mp hsuffix
    have hsame : (xs.drop (xs.length - zs.length)).dropWhile old = zs := by
      rw [← hzs]
      exact dropWhile_of_young hyoung
    rw [dropWhile_drop h] at hsame
    have hlength := congrArg List.length hsame
    rw [List.length_drop] at hlength ⊢
    omega

/-- What two drops in a row take away is old exactly if what the first takes away is. -/
theorem exists_gone_iff (p : α → Bool) (xs : List α) (i : Nat) :
    (∃ gone, xs = gone ++ (xs.drop i).dropWhile p ∧ ∀ x ∈ gone, p x = true)
      ↔ ∀ x ∈ xs.take i, p x = true := by
  have hsplit : xs = (xs.take i ++ (xs.drop i).takeWhile p) ++ (xs.drop i).dropWhile p := by
    rw [List.append_assoc, List.takeWhile_append_dropWhile, List.take_append_drop]
  constructor
  · rintro ⟨gone, heq, hgone⟩ x hx
    have hsame : gone = xs.take i ++ (xs.drop i).takeWhile p :=
      List.append_cancel_right (heq.symm.trans hsplit)
    exact hgone x (hsame ▸ List.mem_append_left _ hx)
  · intro h
    refine ⟨_, hsplit, fun x hx => ?_⟩
    rcases List.mem_append.mp hx with hfirst | hsecond
    · exact h x hfirst
    · exact List.mem_takeWhile_imp hsecond

end Window
