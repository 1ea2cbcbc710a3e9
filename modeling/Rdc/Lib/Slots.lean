import Mathlib.Data.Nat.Basic
import Mathlib.Data.Vector.Basic

/-!
# An array that is written round and round

Writers take the `n` slots of an array in turn: writer `i` gets slot `i % n`. Not every writer
leaves a label in its slot, and one that does not leaves the label that is there. So the label in a
slot is the last one that was left in it (`latest`), or what the array held to begin with. A batch
is the slots from the front on, paired with their writers (`zip_concat_set`).
-/

namespace Slots

variable {α β : Type}

/-- The last label left in slot `r` by a writer before `i`. -/
def latest (labels : Nat → Option β) (n r : Nat) : Nat → Option β
  | 0 => none
  | i + 1 => if i % n = r then (labels i).or (latest labels n r i) else latest labels n r i

theorem latest_succ_self (labels : Nat → Option β) (n i : Nat) :
    latest labels n (i % n) (i + 1) = (labels i).or (latest labels n (i % n) i) :=
  if_pos rfl

theorem latest_succ_of_ne (labels : Nat → Option β) {n r i : Nat} (h : i % n ≠ r) :
    latest labels n r (i + 1) = latest labels n r i :=
  if_neg h

/-- The label is from a writer of the slot, and the writers of the slot after it left none. -/
theorem latest_eq_some_iff {labels : Nat → Option β} {n r i : Nat} {b : β} :
    latest labels n r i = some b ↔ ∃ j < i, j % n = r ∧ labels j = some b
      ∧ ∀ l, j < l → l < i → l % n = r → labels l = none := by
  induction i with
  | zero => simp [latest]
  | succ i ih =>
    by_cases hleft : i % n = r ∧ labels i ≠ none
    · obtain ⟨b', hb'⟩ := Option.ne_none_iff_exists'.mp hleft.2
      rw [latest, if_pos hleft.1, hb', Option.some_or]
      refine ⟨fun h => ⟨i, by omega, hleft.1, hb'.trans h, fun l hl hli => by omega⟩, ?_⟩
      rintro ⟨j, hj, -, hb, hbetween⟩
      rcases Nat.lt_succ_iff_lt_or_eq.mp hj with hlt | rfl
      · exact absurd (hbetween i hlt (by omega) hleft.1) hleft.2
      · exact hb'.symm.trans hb
    · -- the last writer left nothing here
      have hno : i % n = r → labels i = none := fun h => by_contra fun hne => hleft ⟨h, hne⟩
      have hlatest : latest labels n r (i + 1) = latest labels n r i := by
        by_cases hi : i % n = r
        · rw [latest, if_pos hi, hno hi, Option.none_or]
        · exact latest_succ_of_ne labels hi
      rw [hlatest, ih]
      refine ⟨?_, ?_⟩
      · rintro ⟨j, hj, hr, hb, hbetween⟩
        refine ⟨j, by omega, hr, hb, fun l hl hli hlr => ?_⟩
        rcases Nat.lt_succ_iff_lt_or_eq.mp hli with hlt | rfl
        · exact hbetween l hl hlt hlr
        · exact hno hlr
      · rintro ⟨j, hj, hr, hb, hbetween⟩
        have hne : j ≠ i := by
          rintro rfl
          rw [hno hr] at hb
          cases hb
        exact ⟨j, by omega, hr, hb, fun l hl hli => hbetween l hl (by omega)⟩

/-- After `i` writers, every slot shows its last label, or what `init` shows. -/
def Shows {n : Nat} (label : α → β) (labels : Nat → Option β) (init slots : Vector α n) (i : Nat) :
    Prop :=
  ∀ r (h : r < n), label slots[r] = (latest labels n r i).getD (label init[r])

variable {n : Nat} {label : α → β} {labels : Nat → Option β} {init slots : Vector α n} {i : Nat}

theorem Shows.start : Shows label labels init init 0 := fun _ _ => rfl

/-- What the slot of writer `i` shows when that writer is done. -/
theorem Shows.own (h : Shows label labels init slots i) (hi : i % n < n) {a : α}
    (ha : label a = (labels i).getD (label slots[i % n])) :
    label a = (latest labels n (i % n) (i + 1)).getD (label init[i % n]) := by
  rw [ha, h (i % n) hi, latest_succ_self]
  cases labels i <;> rfl

theorem Shows.write (h : Shows label labels init slots i) (hi : i % n < n) {a : α}
    (ha : label a = (labels i).getD (label slots[i % n])) :
    Shows label labels init (slots.set (i % n) a hi) (i + 1) := by
  intro r hr
  by_cases hri : i % n = r
  · subst hri
    rw [Vector.getElem_set_self]
    exact h.own hi ha
  · rw [Vector.getElem_set_ne _ _ hri, latest_succ_of_ne labels hri]
    exact h r hr

/-- The slots from the front on, paired with those who wrote them: one more writer leaves the pairs
before it alone. -/
theorem zip_concat_set {γ : Type} (writers : List γ) (slots : Vector α n) (x : γ) (a : α)
    (h : writers.length < n) :
    (writers ++ [x]).zip (slots.set writers.length a h).toList
      = writers.zip slots.toList ++ [(x, a)] := by
  have hlen : slots.toList.length = n := slots.length_toList
  have htake : writers.length = (slots.toList.take writers.length).length := by
    rw [List.length_take]
    omega
  have hold : writers.zip slots.toList = writers.zip (slots.toList.take writers.length) := by
    have hsplit : (writers ++ []).zip
          (slots.toList.take writers.length ++ slots.toList.drop writers.length)
        = writers.zip (slots.toList.take writers.length)
          ++ ([] : List γ).zip (slots.toList.drop writers.length) := List.zip_append htake
    rw [List.append_nil, List.take_append_drop, List.zip_nil_left, List.append_nil] at hsplit
    exact hsplit
  rw [Vector.toList_set, List.set_eq_take_append_cons_drop, if_pos (by omega),
    List.zip_append htake, hold]
  rfl

end Slots
