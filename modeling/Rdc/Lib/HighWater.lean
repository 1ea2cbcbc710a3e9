import Mathlib.Data.List.Basic
import Mathlib.Data.List.Perm.Basic

/-!
# Several sources behind one mark

Each source has a list of items for each track, and items carry a key. A reader keeps one mark for a
track, asks a source for the items that are not below it, and then moves the mark over what it has
seen. If the sources are read one after the other with the same mark, what a later source has below
the items of an earlier one is passed over.

`seen` is what the reader gets and `due` is what there was for it when it began. There are never
more items seen than due, and the two numbers agree exactly when the sources are separated: on every
track, what is due from a later source lies above everything due from an earlier one.
-/

namespace HighWater

variable {γ φ α : Type} (hist : γ → φ → List α) (key : α → Nat)

/-- The items of a source that are not below the mark of the track. -/
def fresh (g : γ) (t : φ × Nat) : List α := (hist g t.1).filter (t.2 ≤ key ·)

/-- Move a mark over some items. -/
def bump (mark : Nat) (xs : List α) : Nat := xs.foldl (fun m x => max m (key x + 1)) mark

/-- The track after a source was read. -/
def advance (g : γ) (t : φ × Nat) : φ × Nat := (t.1, bump key t.2 (fresh hist key g t))

/-- What one source has for the reader. -/
def dueFrom (g : γ) (ts : List (φ × Nat)) : List (γ × φ × α) :=
  ts.flatMap fun t => (fresh hist key g t).map fun x => (g, t.1, x)

/-- What the reader gets from the sources, one after the other. -/
def seen : List γ → List (φ × Nat) → List (γ × φ × α)
  | [], _ => []
  | g :: gs, ts => dueFrom hist key g ts ++ seen gs (ts.map (advance hist key g))

/-- What there was for the reader when it began. -/
def due (gs : List γ) (ts : List (φ × Nat)) : List (γ × φ × α) :=
  gs.flatMap fun g => dueFrom hist key g ts

/-- What is due from a later source lies above what is due from an earlier one. -/
def Separated (gs : List γ) (ts : List (φ × Nat)) : Prop :=
  ∀ t ∈ ts, gs.Pairwise fun g g' =>
    ∀ x ∈ fresh hist key g t, ∀ y ∈ fresh hist key g' t, key x < key y

section Lengths

variable {β δ : Type} {l : List β} {f g : β → List δ}

theorem length_flatMap_le (h : ∀ b ∈ l, (f b).length ≤ (g b).length) :
    (l.flatMap f).length ≤ (l.flatMap g).length := by
  induction l with
  | nil => exact Nat.le_refl _
  | cons b l ih =>
    have hb := h b (List.mem_cons_self ..)
    have hl := ih fun b' hb' => h b' (List.mem_cons_of_mem _ hb')
    simp only [List.flatMap_cons, List.length_append]
    omega

theorem length_eq_of_flatMap (h : ∀ b ∈ l, (f b).length ≤ (g b).length)
    (heq : (l.flatMap g).length ≤ (l.flatMap f).length) :
    ∀ b ∈ l, (f b).length = (g b).length := by
  induction l with
  | nil => exact fun b hb => absurd hb List.not_mem_nil
  | cons b l ih =>
    have hb := h b (List.mem_cons_self ..)
    have hrest : ∀ b' ∈ l, (f b').length ≤ (g b').length :=
      fun b' hb' => h b' (List.mem_cons_of_mem _ hb')
    have hl := length_flatMap_le hrest
    simp only [List.flatMap_cons, List.length_append] at heq
    intro b' hb'
    rcases List.mem_cons.mp hb' with rfl | hin
    · omega
    · exact ih hrest (by omega) b' hin

end Lengths

section Marks

variable {hist key} {g g' : γ} {t : φ × Nat}

theorem bump_le_iff {mark n : Nat} {xs : List α} :
    bump key mark xs ≤ n ↔ mark ≤ n ∧ ∀ x ∈ xs, key x < n := by
  induction xs generalizing mark with
  | nil => simp [bump]
  | cons x xs ih =>
    have hstep : bump key mark (x :: xs) = bump key (max mark (key x + 1)) xs := rfl
    rw [hstep, ih, List.forall_mem_cons, Nat.max_le]
    exact ⟨fun h => ⟨h.1.1, h.1.2, h.2⟩, fun h => ⟨⟨h.1, h.2.1⟩, h.2.2⟩⟩

theorem mem_fresh {x : α} : x ∈ fresh hist key g t ↔ x ∈ hist g t.1 ∧ t.2 ≤ key x := by
  unfold fresh
  rw [List.mem_filter, decide_eq_true_eq]

/-- Reading another source first leaves the items above what it had. -/
theorem fresh_advance (g : γ) :
    fresh hist key g' (advance hist key g t)
      = (fresh hist key g' t).filter fun y => ∀ x ∈ fresh hist key g t, key x < key y := by
  unfold fresh
  rw [List.filter_filter]
  refine List.filter_congr fun y _ => ?_
  rw [← Bool.decide_and, decide_eq_decide]
  exact bump_le_iff.trans and_comm

theorem length_fresh_advance_le (g : γ) {δ : Type} (f f' : α → δ) :
    ((fresh hist key g' (advance hist key g t)).map f).length
      ≤ ((fresh hist key g' t).map f').length := by
  rw [List.length_map, List.length_map, fresh_advance]
  exact List.length_filter_le ..

theorem length_dueFrom_advance_le (ts : List (φ × Nat)) :
    (dueFrom hist key g' (ts.map (advance hist key g))).length
      ≤ (dueFrom hist key g' ts).length := by
  unfold dueFrom
  rw [List.flatMap_map]
  exact length_flatMap_le fun t _ => length_fresh_advance_le g _ _

end Marks

variable {gs : List γ} {ts : List (φ × Nat)}

section Sources

variable {hist key}

theorem length_seen_le (gs : List γ) (ts : List (φ × Nat)) :
    (seen hist key gs ts).length ≤ (due hist key gs ts).length := by
  induction gs generalizing ts with
  | nil => exact Nat.le_refl _
  | cons g gs ih =>
    have hrest := ih (ts.map (advance hist key g))
    have hless : (due hist key gs (ts.map (advance hist key g))).length
        ≤ (due hist key gs ts).length :=
      length_flatMap_le fun g' _ => length_dueFrom_advance_le ts
    simp only [seen, due, List.flatMap_cons, List.length_append] at hrest hless ⊢
    omega

/-- If a source takes nothing from the others, it lies below them. -/
theorem below_of_length_le {g : γ}
    (h : (due hist key gs ts).length ≤ (due hist key gs (ts.map (advance hist key g))).length)
    {g' : γ} (hg : g' ∈ gs) {t : φ × Nat} (ht : t ∈ ts) :
    ∀ x ∈ fresh hist key g t, ∀ y ∈ fresh hist key g' t, key x < key y := by
  have hfrom := length_eq_of_flatMap (fun g' _ => length_dueFrom_advance_le ts) h g' hg
  unfold dueFrom at hfrom
  rw [List.flatMap_map] at hfrom
  have htrack := length_eq_of_flatMap (fun t _ => length_fresh_advance_le g _ _)
    (Nat.le_of_eq hfrom.symm) t ht
  rw [List.length_map, List.length_map, fresh_advance, List.length_filter_eq_length_iff] at htrack
  intro x hx y hy
  exact of_decide_eq_true (htrack y hy) x hx

/-- A source that lies below the others takes nothing from them. -/
theorem fresh_advance_of_below {g g' : γ} {t : φ × Nat}
    (h : ∀ x ∈ fresh hist key g t, ∀ y ∈ fresh hist key g' t, key x < key y) :
    fresh hist key g' (advance hist key g t) = fresh hist key g' t := by
  rw [fresh_advance, List.filter_eq_self]
  intro y hy
  exact decide_eq_true fun x hx => h x hx y hy

/-- **As much is seen as was due only if the sources are separated.** -/
theorem separated_of_length_le (h : (due hist key gs ts).length ≤ (seen hist key gs ts).length) :
    Separated hist key gs ts := by
  induction gs generalizing ts with
  | nil => exact fun t _ => List.Pairwise.nil
  | cons g gs ih =>
    have hseen : (seen hist key gs (ts.map (advance hist key g))).length
        ≤ (due hist key gs (ts.map (advance hist key g))).length := length_seen_le gs _
    have hless : (due hist key gs (ts.map (advance hist key g))).length
        ≤ (due hist key gs ts).length :=
      length_flatMap_le fun g' _ => length_dueFrom_advance_le ts
    have hdue : (due hist key (g :: gs) ts).length
        = (dueFrom hist key g ts).length + (due hist key gs ts).length := by
      simp only [due, List.flatMap_cons, List.length_append]
    rw [hdue, seen, List.length_append] at h
    have hkept : (due hist key gs ts).length
        ≤ (due hist key gs (ts.map (advance hist key g))).length := by omega
    have hbelow : ∀ g' ∈ gs, ∀ t ∈ ts,
        ∀ x ∈ fresh hist key g t, ∀ y ∈ fresh hist key g' t, key x < key y :=
      fun g' hg t ht => below_of_length_le hkept hg ht
    have hrest : Separated hist key gs (ts.map (advance hist key g)) := ih (by omega)
    intro t ht
    refine List.pairwise_cons.mpr ⟨fun g' hg => hbelow g' hg t ht, ?_⟩
    -- the others are separated behind the new marks, and there the same items are due
    have hpair := hrest (advance hist key g t) (List.mem_map_of_mem ht)
    refine hpair.imp_of_mem ?_
    intro g₁ g₂ h₁ h₂ hlt
    rwa [fresh_advance_of_below (hbelow g₁ h₁ t ht),
      fresh_advance_of_below (hbelow g₂ h₂ t ht)] at hlt

theorem Separated.keep {g : γ} (h : Separated hist key (g :: gs) ts) {t : φ × Nat} (ht : t ∈ ts)
    {g' : γ} (hg : g' ∈ gs) : fresh hist key g' (advance hist key g t) = fresh hist key g' t :=
  fresh_advance_of_below ((List.pairwise_cons.mp (h t ht)).1 g' hg)

theorem Separated.tail {g : γ} (h : Separated hist key (g :: gs) ts) :
    Separated hist key gs (ts.map (advance hist key g)) := by
  intro t' ht'
  obtain ⟨t, ht, rfl⟩ := List.mem_map.mp ht'
  refine (List.pairwise_cons.mp (h t ht)).2.imp_of_mem ?_
  intro g₁ g₂ h₁ h₂ hlt
  rwa [h.keep ht h₁, h.keep ht h₂]

/-- **Separated sources are seen in full.** -/
theorem seen_eq_due (h : Separated hist key gs ts) : seen hist key gs ts = due hist key gs ts := by
  induction gs generalizing ts with
  | nil => rfl
  | cons g gs ih =>
    have hdue : due hist key gs (ts.map (advance hist key g)) = due hist key gs ts := by
      refine List.flatMap_congr fun g' hg => ?_
      unfold dueFrom
      rw [List.flatMap_map]
      refine List.flatMap_congr fun t ht => ?_
      rw [h.keep ht hg]
      rfl
    unfold seen
    rw [ih h.tail, hdue]
    rfl

variable (hist key) in
/-- Every list the reader is given on its way satisfies `P`. -/
def Meets (P : List α → Prop) : List γ → List (φ × Nat) → Prop
  | [], _ => True
  | g :: gs, ts =>
    (∀ t ∈ ts, P (fresh hist key g t)) ∧ Meets P gs (ts.map (advance hist key g))

theorem Separated.meets_iff {P : List α → Prop} (h : Separated hist key gs ts) :
    Meets hist key P gs ts ↔ ∀ g ∈ gs, ∀ t ∈ ts, P (fresh hist key g t) := by
  induction gs generalizing ts with
  | nil => simp [Meets]
  | cons g gs ih =>
    rw [Meets, ih h.tail, List.forall_mem_cons]
    refine and_congr_right fun _ => forall₂_congr fun g' hg => ?_
    rw [List.forall_mem_map]
    refine forall₂_congr fun t ht => ?_
    rw [h.keep ht hg]

end Sources

end HighWater
