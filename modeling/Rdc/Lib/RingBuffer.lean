import Mathlib.Data.List.Rotate

/-!
# A buffer that keeps the last elements

A `RingBuffer` has room for `n` elements. It grows until it is full, and from then on an element
overwrites the one at an index that goes round and round. The index moves while the ring still grows
as well, which is why it is back at the oldest element when the ring is full: read from the index
on, the buffer is the end of everything that was pushed, in order (`Holds`).
-/

/-- A buffer of at most `n` elements, and the place the next one goes to once it is full. -/
structure RingBuffer (α : Type*) (n : Nat) where
  buffer : List α
  index : Nat
  length_le : buffer.length ≤ n
  index_lt : index < n

namespace RingBuffer

variable {α : Type*} {n : Nat}

/-- The ring without elements. -/
def empty (hn : 0 < n) : RingBuffer α n := ⟨[], 0, Nat.zero_le n, hn⟩

/-- Append `x`, or overwrite an element with it. -/
def push (r : RingBuffer α n) (x : α) : RingBuffer α n where
  buffer := if r.buffer.length < n then r.buffer ++ [x] else r.buffer.set r.index x
  index := (r.index + 1) % n
  length_le := by
    split
    · rw [List.length_append, List.length_singleton]
      omega
    · rw [List.length_set]
      exact r.length_le
  index_lt := Nat.mod_lt _ (Nat.zero_lt_of_lt r.index_lt)

/-- The last `n` elements, or all if there are fewer. -/
def lastOf (n : Nat) (xs : List α) : List α := xs.drop (xs.length - n)

theorem length_lastOf (xs : List α) : (lastOf n xs).length = min xs.length n := by
  rw [lastOf, List.length_drop]
  omega

variable {xs : List α}

theorem lastOf_of_le (h : xs.length ≤ n) : lastOf n xs = xs := by
  rw [lastOf, Nat.sub_eq_zero_of_le h, List.drop_zero]

theorem lastOf_concat (h : n ≤ xs.length) (hn : 0 < n) (x : α) :
    lastOf n (xs ++ [x]) = (lastOf n xs).tail ++ [x] := by
  have hdrop : (xs ++ [x]).length - n = xs.length - n + 1 := by
    rw [List.length_append, List.length_singleton]
    omega
  rw [lastOf, hdrop, List.drop_append_of_le_length (by omega), lastOf, List.tail_drop]

/-- Read from the index on, the buffer is the end of `xs`. -/
structure Holds (r : RingBuffer α n) (xs : List α) : Prop where
  index : r.index = xs.length % n
  contents : r.buffer.rotate r.index = lastOf n xs

theorem holds_empty (hn : 0 < n) : Holds (empty hn : RingBuffer α n) [] :=
  ⟨(Nat.zero_mod n).symm, by simp [empty, lastOf]⟩

variable {r : RingBuffer α n}

theorem Holds.length (h : Holds r xs) : r.buffer.length = min xs.length n := by
  rw [← length_lastOf, ← h.contents, List.length_rotate]

theorem Holds.perm (h : Holds r xs) : r.buffer.Perm (lastOf n xs) := by
  rw [← h.contents]
  exact (List.rotate_perm r.buffer r.index).symm

theorem Holds.buffer_of_lt (h : Holds r xs) (hlt : xs.length < n) : r.buffer = xs := by
  have hlen : r.buffer.length = xs.length := h.length.trans (Nat.min_eq_left hlt.le)
  have hindex : r.index = r.buffer.length := by rw [h.index, Nat.mod_eq_of_lt hlt, hlen]
  rw [← lastOf_of_le hlt.le, ← h.contents, hindex, List.rotate_length]

/-- Overwriting at the index takes away the oldest element and adds one behind the newest. -/
theorem rotate_set {i : Nat} (hi : i < xs.length) (x : α) :
    (xs.set i x).rotate (i + 1) = (xs.rotate i).tail ++ [x] := by
  have hset : i < (xs.set i x).length := by rw [List.length_set]; exact hi
  rw [List.rotate_eq_drop_append_take hset, List.rotate_eq_drop_append_take hi.le,
    List.drop_set_of_lt (Nat.lt_succ_self i), List.take_add_one, List.getElem?_set_self hi,
    List.take_set_of_le (Nat.le_refl i), List.drop_eq_getElem_cons hi, List.cons_append,
    List.tail_cons, Option.toList_some, List.append_assoc]

/-- **Push.** -/
theorem Holds.push (h : Holds r xs) (x : α) : Holds (r.push x) (xs ++ [x]) := by
  have hn : 0 < n := Nat.zero_lt_of_lt r.index_lt
  have hindex : (r.push x).index = (xs ++ [x]).length % n := by
    show (r.index + 1) % n = _
    rw [h.index, Nat.mod_add_mod, List.length_append, List.length_singleton]
  refine ⟨hindex, ?_⟩
  by_cases hfull : xs.length < n
  · -- the ring grows, and the index is back at the front if that was the last free place
    have hbuffer : (r.push x).buffer = xs ++ [x] := by
      unfold RingBuffer.push
      dsimp only
      rw [h.buffer_of_lt hfull, if_pos hfull]
    have hle : (xs ++ [x]).length ≤ n := by
      rw [List.length_append, List.length_singleton]
      exact hfull
    rw [hindex, hbuffer, lastOf_of_le hle]
    rcases Nat.lt_or_eq_of_le hle with hlt | heq
    · rw [Nat.mod_eq_of_lt hlt, List.rotate_length]
    · rw [heq, Nat.mod_self, List.rotate_zero]
  · have hlen : r.buffer.length = n := h.length.trans (Nat.min_eq_right (Nat.le_of_not_lt hfull))
    have hbuffer : (r.push x).buffer = r.buffer.set r.index x := by
      unfold RingBuffer.push
      dsimp only
      rw [if_neg (Nat.not_lt.mpr hlen.ge)]
    have hrotate : (r.push x).buffer.rotate (r.push x).index
        = (r.buffer.set r.index x).rotate (r.index + 1) := by
      rw [hbuffer, ← List.rotate_mod _ (r.index + 1), List.length_set, hlen]
      rfl
    rw [hrotate, rotate_set (by rw [hlen]; exact r.index_lt), h.contents,
      lastOf_concat (Nat.le_of_not_lt hfull) hn]

end RingBuffer
