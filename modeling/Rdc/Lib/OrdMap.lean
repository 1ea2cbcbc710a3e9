import Std.Data.ExtTreeMap
import Mathlib.Order.Bounds.Basic
import Mathlib.Logic.Function.Iterate

/-!
# Ordered maps, and loops over them

`std::map` is a finite map iterated in key order, which is what `Std.ExtTreeMap` is. This file adds
the two things a loop over such a map needs and the library does not have: the lexicographic order
on pairs as a lawful comparison, and what a map holds after a loop has altered it key by key.

The loops come in two shapes. One *visits* a list of keys and alters the binding of each
(`getElem?_foldl_alter`); when the alteration is idempotent, visiting a key twice is the same as
visiting it once. The other *keeps the smallest value offered* for each key (`keepMin`), so that a
key is bound to the least value offered for it (`LeastOf`).
-/

open Std

namespace OrdMap

/-! ## Pairs in lexicographic order -/

section Pair

variable {α β : Type} [Ord α] [Ord β]

/-- The order of `std::pair`: first component, then second. -/
def pairCmp : α × β → α × β → Ordering :=
  compareLex (compareOn Prod.fst) (compareOn Prod.snd)

theorem pairCmp_eq (a b : α × β) : pairCmp a b = (compare a.1 b.1).then (compare a.2 b.2) := rfl

instance [TransOrd α] [TransOrd β] : TransCmp (pairCmp : α × β → α × β → Ordering) where
  eq_swap {a b} := by
    have h1 : compare a.1 b.1 = (compare b.1 a.1).swap := OrientedCmp.eq_swap
    have h2 : compare a.2 b.2 = (compare b.2 a.2).swap := OrientedCmp.eq_swap
    rw [pairCmp_eq, pairCmp_eq, h1, h2, Ordering.swap_then]
  isLE_trans {a b c} h1 h2 := by
    rw [pairCmp_eq, Ordering.isLE_then_iff_or] at *
    rcases h1 with h1 | ⟨h1, h1'⟩
    · left
      rcases h2 with h2 | ⟨h2, -⟩
      · exact TransCmp.lt_trans h1 h2
      · exact TransCmp.lt_of_lt_of_eq h1 h2
    · rcases h2 with h2 | ⟨h2, h2'⟩
      · exact Or.inl (TransCmp.lt_of_eq_of_lt h1 h2)
      · exact Or.inr ⟨TransCmp.eq_trans h1 h2, TransCmp.isLE_trans h1' h2'⟩

instance [LawfulEqOrd α] [LawfulEqOrd β] : LawfulEqCmp (pairCmp : α × β → α × β → Ordering) where
  compare_self {a} := by
    have h1 : compare a.1 a.1 = .eq := ReflCmp.compare_self
    have h2 : compare a.2 a.2 = .eq := ReflCmp.compare_self
    rw [pairCmp_eq, h1, h2]
    rfl
  eq_of_compare {a b} h := by
    rw [pairCmp_eq, Ordering.then_eq_eq] at h
    exact Prod.ext (LawfulEqCmp.eq_of_compare h.1) (LawfulEqCmp.eq_of_compare h.2)

end Pair

/-! ## Lookups, with the comparison as an equation -/

section Maps

variable {κ ν : Type} {cmp : κ → κ → Ordering} [TransCmp cmp]

theorem mem_of_getElem? {m : ExtTreeMap κ ν cmp} {k : κ} {v : ν} (h : m[k]? = some v) : k ∈ m :=
  ExtTreeMap.mem_iff_isSome_getElem?.mpr (by rw [h]; rfl)

theorem exists_getElem?_of_mem {m : ExtTreeMap κ ν cmp} {k : κ} (h : k ∈ m) :
    ∃ v, m[k]? = some v :=
  Option.isSome_iff_exists.mp (ExtTreeMap.mem_iff_isSome_getElem?.mp h)

theorem not_mem_iff_getElem? (m : ExtTreeMap κ ν cmp) (k : κ) : k ∉ m ↔ m[k]? = none := by
  rw [ExtTreeMap.mem_iff_isSome_getElem?]
  simp

theorem keys_split [LawfulEqCmp cmp] {m : ExtTreeMap κ ν cmp} {k : κ} (hk : k ∈ m) :
    ∃ before after, m.keys = before ++ k :: after ∧ before.Nodup ∧ after.Nodup
      ∧ k ∉ before ∧ k ∉ after ∧ ∀ a, a ∈ before ↔ a ∈ m ∧ cmp a k = .lt := by
  obtain ⟨before, after, hsplit⟩ := List.append_of_mem (ExtTreeMap.mem_keys.mpr hk)
  have hord : m.keys.Pairwise (fun a b => cmp a b = .lt) := ExtTreeMap.ordered_keys
  rw [hsplit, List.pairwise_append, List.pairwise_cons] at hord
  obtain ⟨hbefore, ⟨hafter, hafter'⟩, hcross⟩ := hord
  have hne : ∀ {a b : κ}, cmp a b = .lt → a ≠ b := by
    intro a b hlt hab
    have heq : cmp b b = .eq := ReflCmp.compare_self
    rw [hab, heq] at hlt
    cases hlt
  refine ⟨before, after, hsplit, hbefore.imp hne, hafter'.imp hne, ?_, ?_, ?_⟩
  · intro h
    exact hne (hcross k h k (List.mem_cons_self ..)) rfl
  · intro h
    exact hne (hafter k h) rfl
  · intro a
    refine ⟨fun h => ⟨?_, hcross a h k (List.mem_cons_self ..)⟩, ?_⟩
    · rw [← ExtTreeMap.mem_keys, hsplit]
      exact List.mem_append_left _ h
    · rintro ⟨ha, hlt⟩
      rw [← ExtTreeMap.mem_keys, hsplit, List.mem_append, List.mem_cons] at ha
      -- a key after `k` cannot be smaller than it
      rcases ha with h | rfl | h
      · exact h
      · exact absurd rfl (hne hlt)
      · have hgt := hafter a h
        have hswap : cmp k a = (cmp a k).swap := OrientedCmp.eq_swap
        rw [hswap, hlt] at hgt
        cases hgt

theorem keys_increasing (m : ExtTreeMap Nat ν compare) : m.keys.Pairwise (· < ·) :=
  ExtTreeMap.ordered_keys.imp fun h => Nat.compare_eq_lt.mp h

variable [LawfulEqCmp cmp] [DecidableEq κ]

theorem getElem?_insert' (m : ExtTreeMap κ ν cmp) (k a : κ) (v : ν) :
    (m.insert k v)[a]? = if k = a then some v else m[a]? := by
  rw [ExtTreeMap.getElem?_insert]
  simp

/-- What holds of the entries, and of the one that is put in, holds of the entries afterwards. -/
theorem forall_insert {P : κ → ν → Prop} {m : ExtTreeMap κ ν cmp} {k : κ} {v : ν}
    (h : ∀ a w, m[a]? = some w → P a w) (hv : P k v) (a : κ) (w : ν)
    (hget : (m.insert k v)[a]? = some w) : P a w := by
  rw [getElem?_insert'] at hget
  split at hget
  · rename_i hka
    rw [← hka, ← Option.some.inj hget]
    exact hv
  · exact h a w hget

theorem getElem?_erase' (m : ExtTreeMap κ ν cmp) (k a : κ) :
    (m.erase k)[a]? = if k = a then none else m[a]? := by
  rw [ExtTreeMap.getElem?_erase]
  simp

theorem getElem?_erase_some {m : ExtTreeMap κ ν cmp} {k a : κ} {v : ν}
    (h : (m.erase k)[a]? = some v) : k ≠ a ∧ m[a]? = some v := by
  rw [getElem?_erase'] at h
  split at h
  · simp at h
  · exact ⟨‹_›, h⟩

theorem getElem?_modify' (m : ExtTreeMap κ ν cmp) (k a : κ) (f : ν → ν) :
    (m.modify k f)[a]? = if k = a then m[k]?.map f else m[a]? := by
  rw [ExtTreeMap.getElem?_modify]
  simp

theorem erase_of_getElem?_none {m : ExtTreeMap κ ν cmp} {k : κ} (h : m[k]? = none) :
    m.erase k = m := by
  refine ExtTreeMap.ext_getElem? fun a => ?_
  rw [getElem?_erase']
  split
  · rename_i hka; rw [← hka, h]
  · rfl

theorem insertIfNew_of_getElem?_none {m : ExtTreeMap κ ν cmp} {k : κ} (h : m[k]? = none) (v : ν) :
    m.insertIfNew k v = m.insert k v := by
  refine ExtTreeMap.ext_getElem? fun a => ?_
  have hk : k ∉ m := (not_mem_iff_getElem? m k).mpr h
  rw [ExtTreeMap.getElem?_insertIfNew, getElem?_insert']
  simp [hk]

omit [DecidableEq κ] in
theorem insertIfNew_of_getElem?_some {m : ExtTreeMap κ ν cmp} {k : κ} {w : ν} (h : m[k]? = some w)
    (v : ν) : m.insertIfNew k v = m := by
  refine ExtTreeMap.ext_getElem? fun a => ?_
  rw [ExtTreeMap.getElem?_insertIfNew]
  exact if_neg fun h' => h'.2 (mem_of_getElem? h)

theorem insertIfNew_erase (m : ExtTreeMap κ ν cmp) (k : κ) (v : ν) :
    (m.erase k).insertIfNew k v = m.insert k v := by
  have h : (m.erase k)[k]? = none := by rw [getElem?_erase', if_pos rfl]
  rw [insertIfNew_of_getElem?_none h]
  refine ExtTreeMap.ext_getElem? fun a => ?_
  rw [getElem?_insert', getElem?_insert', getElem?_erase']
  split <;> rfl

theorem erase_insert (m : ExtTreeMap κ ν cmp) (k : κ) (v : ν) :
    (m.insert k v).erase k = m.erase k := by
  refine ExtTreeMap.ext_getElem? fun a => ?_
  rw [getElem?_erase', getElem?_erase', getElem?_insert']
  split <;> rfl

theorem getElem?_alter_const (m : ExtTreeMap κ ν cmp) (k a : κ) (o : Option ν) :
    (m.alter k fun _ => o)[a]? = if k = a then o else m[a]? := by
  rw [ExtTreeMap.getElem?_alter]
  simp

theorem alter_const_comm (m : ExtTreeMap κ ν cmp) {k k' : κ} (h : k ≠ k') (o o' : Option ν) :
    (m.alter k' fun _ => o').alter k (fun _ => o)
      = (m.alter k fun _ => o).alter k' fun _ => o' := by
  refine ExtTreeMap.ext_getElem? fun a => ?_
  simp only [getElem?_alter_const]
  by_cases h1 : k = a
  · by_cases h2 : k' = a
    · exact absurd (h1.trans h2.symm) h
    · simp [h1, h2]
  · simp [h1]

theorem alter_const_self (m : ExtTreeMap κ ν cmp) (k : κ) : (m.alter k fun _ => m[k]?) = m := by
  refine ExtTreeMap.ext_getElem? fun a => ?_
  rw [getElem?_alter_const]
  split
  · rename_i h
    rw [h]
  · rfl

theorem insert_eq_alter (m : ExtTreeMap κ ν cmp) (k : κ) (v : ν) :
    m.insert k v = m.alter k fun _ => some v := by
  refine ExtTreeMap.ext_getElem? fun a => ?_
  rw [getElem?_insert', getElem?_alter_const]

theorem erase_eq_alter (m : ExtTreeMap κ ν cmp) (k : κ) : m.erase k = m.alter k fun _ => none := by
  refine ExtTreeMap.ext_getElem? fun a => ?_
  rw [getElem?_erase', getElem?_alter_const]

theorem insertIfNew_eq_alter (m : ExtTreeMap κ ν cmp) (k : κ) (v : ν) :
    m.insertIfNew k v = m.alter k fun _ => m[k]?.or (some v) := by
  cases h : m[k]? with
  | none => rw [insertIfNew_of_getElem?_none h, insert_eq_alter, Option.none_or]
  | some w => rw [insertIfNew_of_getElem?_some h, Option.some_or, ← h, alter_const_self]

end Maps

/-! ## Visiting a list of keys -/

section Visit

variable {κ ν : Type} {cmp : κ → κ → Ordering} [TransCmp cmp] [LawfulEqCmp cmp] [DecidableEq κ]

/-- A loop that alters the binding of each key it visits applies the alteration once per visit. -/
theorem getElem?_foldl_alter (g : Option ν → Option ν) (ks : List κ) (m : ExtTreeMap κ ν cmp)
    (a : κ) :
    (ks.foldl (fun m k => m.alter k g) m)[a]? = g^[ks.count a] m[a]? := by
  induction ks generalizing m with
  | nil => rfl
  | cons k ks ih =>
    rw [List.foldl_cons, ih, ExtTreeMap.getElem?_alter]
    by_cases hk : k = a
    · subst hk
      simp [Function.iterate_succ_apply]
    · simp [hk]

theorem iterate_idem {γ : Type} {g : γ → γ} (hg : ∀ x, g (g x) = g x) (x : γ) :
    ∀ {n : Nat}, 0 < n → g^[n] x = g x
  | 1, _ => rfl
  | n + 2, _ => by
      rw [Function.iterate_succ_apply', iterate_idem hg x (Nat.succ_pos n), hg]

/-- Visiting with an idempotent alteration: every visited key is altered, nothing else is. -/
theorem getElem?_foldl_alter_idem {g : Option ν → Option ν} (hg : ∀ x, g (g x) = g x)
    (ks : List κ) (m : ExtTreeMap κ ν cmp) (a : κ) :
    (ks.foldl (fun m k => m.alter k g) m)[a]? = if a ∈ ks then g m[a]? else m[a]? := by
  rw [getElem?_foldl_alter]
  split
  · exact iterate_idem hg _ (List.count_pos_iff.mpr ‹_›)
  · rw [List.count_eq_zero_of_not_mem ‹_›]; rfl

/-- Emplacing a value for each key of a list: what was there stays, and a key is given its value the
first time it comes up. -/
theorem getElem?_foldl_insertIfNew (v : κ → ν) (ks : List κ) (m : ExtTreeMap κ ν cmp) (a : κ) :
    (ks.foldl (fun m k => m.insertIfNew k (v k)) m)[a]?
      = m[a]?.or (if a ∈ ks then some (v a) else none) := by
  induction ks generalizing m with
  | nil => simp
  | cons k ks ih =>
    rw [List.foldl_cons, ih, ExtTreeMap.getElem?_insertIfNew]
    by_cases hk : k = a
    · subst hk
      cases hm : m[k]? with
      | none =>
        have hnot : k ∉ m := (not_mem_iff_getElem? m k).mpr hm
        simp [hnot]
      | some v' =>
        have hmem : k ∈ m := mem_of_getElem? hm
        rw [if_neg fun h => h.2 hmem]
        rfl
    · simp [hk, Ne.symm hk]

/-- A loop over all bindings of a map, on any state, seen at one key. When each turn touches what
belongs to its own key only, the loop does to a bound key what its own turn does, and leaves the
rest alone. -/
theorem get_foldl_toList {σ α : Type} (m : ExtTreeMap κ ν cmp) (f : σ → κ × ν → σ)
    (get : σ → κ → α) (g : κ → ν → α → α)
    (hf : ∀ s p a, get (f s p) a = if p.1 = a then g a p.2 (get s a) else get s a) (s : σ) (a : κ) :
    get (m.toList.foldl f s) a = m[a]?.elim (get s a) fun v => g a v (get s a) := by
  have hframe : ∀ (l : List (κ × ν)) (s : σ), (∀ p ∈ l, p.1 ≠ a) →
      get (l.foldl f s) a = get s a := by
    intro l
    induction l with
    | nil => exact fun _ _ => rfl
    | cons p l ih =>
      intro s hne
      rw [List.foldl_cons, ih _ fun q hq => hne q (List.mem_cons_of_mem _ hq), hf,
        if_neg (hne p (List.mem_cons_self ..))]
  cases hm : m[a]? with
  | none =>
    refine hframe _ s ?_
    intro p hp hpa
    have hget := ExtTreeMap.mem_toList_iff_getElem?_eq_some.mp hp
    rw [hpa, hm] at hget
    simp at hget
  | some v =>
    obtain ⟨l₁, l₂, hl⟩ := List.append_of_mem
      (ExtTreeMap.mem_toList_iff_getElem?_eq_some.mpr hm)
    have hpw := ExtTreeMap.distinct_keys_toList (t := m)
    rw [hl, List.pairwise_append, List.pairwise_cons] at hpw
    have hl₁ : ∀ p ∈ l₁, p.1 ≠ a := by
      intro p hp hpa
      exact hpw.2.2 p hp (a, v) (List.mem_cons_self ..) (hpa ▸ ReflCmp.compare_self)
    have hl₂ : ∀ p ∈ l₂, p.1 ≠ a := by
      intro p hp hpa
      exact hpw.2.1.1 p hp (hpa ▸ ReflCmp.compare_self)
    rw [hl, List.foldl_append, List.foldl_cons, hframe l₂ _ hl₂, hf, if_pos rfl,
      hframe l₁ s hl₁]
    rfl

end Visit

/-! ## Keeping the smallest value offered for each key -/

section KeepMin

variable {κ ν : Type} {cmp : κ → κ → Ordering} [TransCmp cmp] [LawfulEqCmp cmp] [DecidableEq κ]
variable [LinearOrder ν]

/-- Offer `v` for a key: bind it if the key is free, keep the smaller of the two otherwise. -/
def offerMin (v : ν) : Option ν → Option ν
  | none => some v
  | some w => some (min w v)

/-- Offer `v` for every key of a list. -/
def keepMin (v : ν) (ks : List κ) (m : ExtTreeMap κ ν cmp) : ExtTreeMap κ ν cmp :=
  ks.foldl (fun m k => m.alter k (offerMin v)) m

theorem offerMin_idem (v : ν) (x : Option ν) : offerMin v (offerMin v x) = offerMin v x := by
  cases x <;> simp [offerMin]

theorem getElem?_keepMin (v : ν) (ks : List κ) (m : ExtTreeMap κ ν cmp) (a : κ) :
    (keepMin v ks m)[a]? = if a ∈ ks then offerMin v m[a]? else m[a]? :=
  getElem?_foldl_alter_idem (offerMin_idem v) ks m a

/-- `o` is the least element of `S`, and absent exactly when `S` is empty. -/
def LeastOf (S : Set ν) : Option ν → Prop
  | none => S = ∅
  | some v => IsLeast S v

theorem LeastOf.unique {S : Set ν} {o o' : Option ν} (h : LeastOf S o) (h' : LeastOf S o') :
    o = o' := by
  cases o with
  | none =>
    cases o' with
    | none => rfl
    | some v =>
      have hv : v ∈ S := h'.1
      rw [show S = ∅ from h] at hv
      exact absurd hv (Set.notMem_empty v)
  | some w =>
    cases o' with
    | none =>
      have hw : w ∈ S := h.1
      rw [show S = ∅ from h'] at hw
      exact absurd hw (Set.notMem_empty w)
    | some v => exact congrArg some (IsLeast.unique h h')

theorem LeastOf.offer {S : Set ν} {o : Option ν} (h : LeastOf S o) (v : ν) :
    LeastOf (insert v S) (offerMin v o) := by
  cases o with
  | none =>
    have hS : S = ∅ := h
    show IsLeast (insert v S) v
    rw [hS, insert_empty_eq]
    exact isLeast_singleton
  | some w =>
    show IsLeast (insert v S) (min w v)
    rw [min_comm]
    exact IsLeast.insert v h

/-- Offering `v` for a list of keys adds `v` to what was offered for each of them. -/
theorem leastOf_keepMin {S : Set ν} {m : ExtTreeMap κ ν cmp} {a : κ} (h : LeastOf S m[a]?) (v : ν)
    (ks : List κ) : LeastOf {w | w ∈ S ∨ (a ∈ ks ∧ w = v)} (keepMin v ks m)[a]? := by
  rw [getElem?_keepMin]
  split
  · have heq : {w | w ∈ S ∨ (a ∈ ks ∧ w = v)} = insert v S := by
      ext w
      simp [‹a ∈ ks›, or_comm]
    rw [heq]
    exact h.offer v
  · have heq : {w | w ∈ S ∨ (a ∈ ks ∧ w = v)} = S := by
      ext w
      simp [‹a ∉ ks›]
    rw [heq]
    exact h

end KeepMin

end OrdMap
