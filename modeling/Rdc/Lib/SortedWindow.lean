import Mathlib.Order.Defs.PartialOrder

/-!
# Windows of a sorted list

A window is the part of a list between two positions, both included. In a sorted list the elements
at its ends say whether a value that is somewhere in the list is in the window, and the segments of
one size say the same about the part of the list that they cover.
-/

namespace SortedWindow

variable {α : Type} [PartialOrder α]

/-- The value lies between the elements at the two positions. -/
def Brackets (xs : List α) (lo hi : Nat) (v : α) : Prop :=
  ∃ x y, xs[lo]? = some x ∧ xs[hi]? = some y ∧ x ≤ v ∧ v ≤ y

/-- The value is an element of the window. -/
def OccursIn (xs : List α) (lo hi : Nat) (v : α) : Prop :=
  ∃ p, lo ≤ p ∧ p ≤ hi ∧ xs[p]? = some v

variable {xs : List α} {lo hi i j n s : Nat} {v x y : α}

theorem le_of_getElem? (hs : xs.Pairwise (· ≤ ·)) (hij : i ≤ j) (hx : xs[i]? = some x)
    (hy : xs[j]? = some y) : x ≤ y := by
  obtain ⟨hi, rfl⟩ := List.getElem?_eq_some_iff.mp hx
  obtain ⟨hj, rfl⟩ := List.getElem?_eq_some_iff.mp hy
  rcases Nat.lt_or_eq_of_le hij with hlt | heq
  · exact List.pairwise_iff_getElem.mp hs i j hi hj hlt
  · subst heq
    exact le_refl _

theorem OccursIn.brackets (hs : xs.Pairwise (· ≤ ·)) (h : OccursIn xs lo hi v)
    (hhi : hi < xs.length) : Brackets xs lo hi v := by
  obtain ⟨p, hlo, hp, hv⟩ := h
  refine ⟨xs[lo], xs[hi], List.getElem?_eq_getElem _, List.getElem?_eq_getElem _, ?_, ?_⟩
  · exact le_of_getElem? hs hlo (List.getElem?_eq_getElem _) hv
  · exact le_of_getElem? hs hp hv (List.getElem?_eq_getElem _)

/-- A value of the list that lies between the ends of a window is in it: outside it could only be
equal to one of the ends. -/
theorem Brackets.occursIn (hs : xs.Pairwise (· ≤ ·)) (h : Brackets xs lo hi v) (hle : lo ≤ hi)
    (hmem : v ∈ xs) : OccursIn xs lo hi v := by
  obtain ⟨x, y, hx, hy, hxv, hvy⟩ := h
  obtain ⟨p, hp⟩ := List.mem_iff_getElem?.mp hmem
  by_cases hlo : p < lo
  · have hvx : v ≤ x := le_of_getElem? hs (Nat.le_of_lt hlo) hp hx
    exact ⟨lo, Nat.le_refl _, hle, by rw [hx, le_antisymm hxv hvx]⟩
  · by_cases hhi : hi < p
    · have hyv : y ≤ v := le_of_getElem? hs (Nat.le_of_lt hhi) hy hp
      exact ⟨hi, hle, Nat.le_refl _, by rw [hy, le_antisymm hyv hvy]⟩
    · exact ⟨p, Nat.le_of_not_lt hlo, Nat.le_of_not_lt hhi, hp⟩

theorem brackets_iff_occursIn (hs : xs.Pairwise (· ≤ ·)) (hmem : v ∈ xs) (hle : lo ≤ hi)
    (hhi : hi < xs.length) : Brackets xs lo hi v ↔ OccursIn xs lo hi v :=
  ⟨fun h => h.occursIn hs hle hmem, fun h => h.brackets hs hhi⟩

theorem Brackets.of_mem (hs : xs.Pairwise (· ≤ ·)) (hmem : v ∈ xs) :
    Brackets xs 0 (xs.length - 1) v := by
  obtain ⟨p, hp⟩ := List.mem_iff_getElem?.mp hmem
  obtain ⟨hlt, -⟩ := List.getElem?_eq_some_iff.mp hp
  exact OccursIn.brackets hs ⟨p, Nat.zero_le _, by omega, hp⟩ (by omega)

/-- Segment `i` of size `s`. -/
def Segment (xs : List α) (s i : Nat) (v : α) : Prop :=
  Brackets xs (i * s) ((i + 1) * s - 1) v

/-- A value of the list lies in one of the first `n` segments if and only if it is an element of the
part they cover. -/
theorem exists_segment_iff (hs : xs.Pairwise (· ≤ ·)) (hmem : v ∈ xs) (hpos : 0 < s)
    (hlen : n * s ≤ xs.length) :
    (∃ i < n, Segment xs s i v) ↔ ∃ p < n * s, xs[p]? = some v := by
  have hend : ∀ i < n, (i + 1) * s ≤ n * s := fun i hi => Nat.mul_le_mul_right s hi
  constructor
  · rintro ⟨i, hi, hseg⟩
    have hle := hend i hi
    rw [Nat.succ_mul] at hle
    obtain ⟨p, -, hp, hv⟩ := hseg.occursIn hs (by rw [Nat.succ_mul]; omega) hmem
    rw [Nat.succ_mul] at hp
    exact ⟨p, by omega, hv⟩
  · rintro ⟨p, hp, hv⟩
    have hi : p / s < n := (Nat.div_lt_iff_lt_mul hpos).mpr hp
    have hle := hend (p / s) hi
    have hstart : p / s * s ≤ p := Nat.div_mul_le_self p s
    have hstop : p < (p / s + 1) * s := by
      rw [Nat.mul_comm]
      exact Nat.lt_mul_div_succ p hpos
    refine ⟨p / s, hi, OccursIn.brackets hs ⟨p, hstart, by omega, hv⟩ (by omega)⟩

end SortedWindow
