import Mathlib.Data.List.Basic

/-!
# Copying into an array of fixed size

`fill` writes a list into an array, one element after the other. The index is not compared with the
length of the list beforehand, so a list that is too long runs over the end, and then there is no
result. A list that fits is found in the array afterwards, at the place it was written to, and
nothing else has changed. `read` is the other way round. What is made of the elements that are read
has a result if each of them has one.
-/

namespace Buffer

variable {α : Type} {n : Nat}

/-- Write the elements to index `i`, `i + 1`, … -/
def fill : List α → Nat → Vector α n → Option (Vector α n)
  | [], _, buf => some buf
  | x :: xs, i, buf => if h : i < n then fill xs (i + 1) (buf.set i x h) else none

theorem fill_eq_none {xs : List α} {i : Nat} (h : n < i + xs.length) (hi : i ≤ n)
    (buf : Vector α n) : fill xs i buf = none := by
  induction xs generalizing i buf with
  | nil => exact absurd h (by simp only [List.length_nil]; omega)
  | cons x xs ih =>
    unfold fill
    split
    · rename_i hlt
      exact ih (by simp only [List.length_cons] at h; omega) hlt _
    · rfl

/-- What has been written last is the end of the part before the next index. -/
theorem take_toList_set (buf : Vector α n) {i : Nat} (hi : i < n) (x : α) :
    (buf.set i x hi).toList.take (i + 1) = buf.toList.take i ++ [x] := by
  have hwritten : i < (buf.toList.set i x).length := by
    rw [List.length_set, Vector.length_toList]
    exact hi
  rw [Vector.toList_set, List.take_add_one, List.getElem?_eq_getElem hwritten,
    List.take_set_of_le (Nat.le_refl i), List.getElem_set_self]
  rfl

theorem fill_eq_some {xs : List α} {i : Nat} (h : i + xs.length ≤ n) (buf : Vector α n) :
    ∃ out, fill xs i buf = some out
      ∧ out.toList = buf.toList.take i ++ xs ++ buf.toList.drop (i + xs.length) := by
  induction xs generalizing i buf with
  | nil => exact ⟨buf, rfl, by simp⟩
  | cons x xs ih =>
    rw [List.length_cons] at h
    have hi : i < n := by omega
    obtain ⟨out, hout, hlist⟩ := ih (i := i + 1) (by omega) (buf.set i x hi)
    refine ⟨out, ?_, ?_⟩
    · unfold fill
      rw [dif_pos hi, hout]
    · have hdrop : (buf.set i x hi).toList.drop (i + 1 + xs.length)
          = buf.toList.drop (i + (xs.length + 1)) := by
        rw [Vector.toList_set, List.drop_set_of_lt (by omega)]
        congr 1
        omega
      rw [hlist, take_toList_set, hdrop, List.length_cons]
      simp

/-! ## Copying out of the array -/

/-- Read `count` elements from index `i` on. -/
def read (buf : Vector α n) : Nat → Nat → Option (List α)
  | 0, _ => some []
  | count + 1, i =>
    match buf[i]? with
    | none => none
    | some x => (read buf count (i + 1)).map (x :: ·)

theorem read_eq_some (buf : Vector α n) {count i : Nat} (h : i + count ≤ n) :
    read buf count i = some ((buf.toList.drop i).take count) := by
  induction count generalizing i with
  | zero => rfl
  | succ count ih =>
    have hi : i < buf.toList.length := by rw [Vector.length_toList]; omega
    have hget : buf[i]? = some (buf.toList[i]) := by
      rw [← Vector.getElem?_toList, List.getElem?_eq_getElem hi]
    rw [read, hget, ih (by omega), List.drop_eq_getElem_cons hi, List.take_succ_cons]
    rfl

section Reads

variable {β : Type} {f : α → Option β} {xs : List α}

theorem mapM_eq_some_map {g : α → β} (h : ∀ x ∈ xs, f x = some (g x)) :
    xs.mapM f = some (xs.map g) := by
  induction xs with
  | nil => rfl
  | cons x xs ih =>
    rw [List.mapM_cons, h x (List.mem_cons_self ..),
      ih fun y hy => h y (List.mem_cons_of_mem _ hy)]
    rfl

theorem mapM_eq_none {x : α} (hmem : x ∈ xs) (hnone : f x = none) : xs.mapM f = none := by
  induction xs with
  | nil => exact absurd hmem List.not_mem_nil
  | cons y xs ih =>
    rw [List.mapM_cons]
    rcases List.mem_cons.mp hmem with heq | htail
    · rw [← heq, hnone]
      rfl
    · rw [ih htail]
      cases f y <;> rfl

end Reads

end Buffer
