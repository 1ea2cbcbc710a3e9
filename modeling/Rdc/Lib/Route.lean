import Rdc.Lib.OrdMap
import Mathlib.Data.List.Perm.Basic
import Mathlib.Algebra.BigOperators.Group.List.Basic
import Mathlib.Algebra.Ring.Nat

/-!
# Handing requests to servers

A request goes to one server or to none. The share of a server is the list of the requests that go
to it, in their order. Collecting requests one by one in a map, by server, gives each server its
share (`Collected`), and the shares of distinct servers, with what goes to none, are the
requests again: nothing is lost and nothing is duplicated (`shares_perm`). A server that looks for
its own among the parts carries out the one it was handed (`foldl_part_of_mem`).
-/

open Std

namespace Route

variable {α μ : Type} [DecidableEq μ] (route : α → Option μ)

/-- The requests that go to `p`, or nowhere. -/
def share (p : Option μ) (xs : List α) : List α := xs.filter fun x => route x = p

variable {route}

variable {xs : List α}

theorem mem_share {p : Option μ} {x : α} : x ∈ share route p xs ↔ x ∈ xs ∧ route x = p := by
  unfold share
  rw [List.mem_filter, decide_eq_true_eq]

theorem share_concat (p : Option μ) (xs : List α) (x : α) :
    share route p (xs ++ [x]) = if route x = p then share route p xs ++ [x]
      else share route p xs := by
  unfold share
  rw [List.filter_append]
  by_cases h : route x = p <;> simp [h]

/-! ## Collecting by server -/

section Collect

variable [Ord μ] [TransOrd μ] [LawfulEqOrd μ]

/-- Add a request to the list of its server. -/
def push (m : ExtTreeMap μ (List α) compare) (p : μ) (x : α) : ExtTreeMap μ (List α) compare :=
  m.alter p fun xs => some (xs.getD [] ++ [x])

/-- The map has the shares of `xs`, and only those that are not empty. -/
def Collected (route : α → Option μ) (xs : List α) (m : ExtTreeMap μ (List α) compare) : Prop :=
  ∀ p, m[p]? = if share route (some p) xs = [] then none else some (share route (some p) xs)

omit [LawfulEqOrd μ] in
theorem Collected.nil : Collected route [] (∅ : ExtTreeMap μ (List α) compare) := by
  intro p
  rw [ExtTreeMap.getElem?_empty]
  rfl

theorem Collected.push {m : ExtTreeMap μ (List α) compare} (h : Collected route xs m) {x : α}
    {p : μ} (hx : route x = some p) : Collected route (xs ++ [x]) (push m p x) := by
  intro q
  unfold Route.push
  rw [ExtTreeMap.getElem?_alter]
  by_cases hpq : p = q
  · subst hpq
    have hshare : share route (some p) (xs ++ [x]) = share route (some p) xs ++ [x] := by
      rw [share_concat, if_pos hx]
    rw [if_pos ReflCmp.compare_self, h p, hshare, if_neg (List.append_ne_nil_of_right_ne_nil _
      (List.cons_ne_nil x []))]
    by_cases hnil : share route (some p) xs = []
    · rw [if_pos hnil, hnil]
      rfl
    · rw [if_neg hnil]
      rfl
  · have hshare : share route (some q) (xs ++ [x]) = share route (some q) xs := by
      rw [share_concat, hx, if_neg fun heq => hpq (Option.some.inj heq)]
    rw [if_neg fun heq => hpq (LawfulEqCmp.eq_of_compare heq), hshare]
    exact h q

omit [LawfulEqOrd μ] in
theorem Collected.skip {m : ExtTreeMap μ (List α) compare} (h : Collected route xs m) {x : α}
    (hx : route x = none) : Collected route (xs ++ [x]) m := by
  intro q
  have hshare : share route (some q) (xs ++ [x]) = share route (some q) xs := by
    rw [share_concat, hx, if_neg (by simp)]
  rw [hshare]
  exact h q

variable {xs : List α} {m : ExtTreeMap μ (List α) compare} (h : Collected route xs m)
include h

/-- What is in the map for a server is its share, which is not empty. -/
theorem Collected.mem_toList {p : μ} {ys : List α} :
    (p, ys) ∈ m.toList ↔ ys ≠ [] ∧ ys = share route (some p) xs := by
  rw [ExtTreeMap.mem_toList_iff_getElem?_eq_some, h p]
  by_cases hshare : share route (some p) xs = []
  · rw [if_pos hshare, hshare]
    simp
  · rw [if_neg hshare, Option.some.injEq]
    refine ⟨fun heq => ⟨heq ▸ hshare, heq.symm⟩, fun heq => heq.2.symm⟩

end Collect

/-! ## Shares make up the whole -/

/-- A request is counted once among the shares of distinct servers, if its server is among them. -/
theorem sum_count_share [DecidableEq α] (ps : List μ) (hps : ps.Nodup) (xs : List α) (x : α) :
    (ps.map fun p => (share route (some p) xs).count x).sum
      = if (∃ p ∈ ps, route x = some p) then xs.count x else 0 := by
  have hcount : ∀ p : Option μ,
      (share route p xs).count x = if route x = p then xs.count x else 0 := by
    intro p
    unfold share
    by_cases h : route x = p
    · rw [List.count_filter (by simpa using h), if_pos h]
    · rw [if_neg h]
      refine List.count_eq_zero_of_not_mem fun hmem => h ?_
      exact (mem_share.mp hmem).2
  induction ps with
  | nil => simp
  | cons p ps ih =>
    obtain ⟨hp, hps'⟩ := List.nodup_cons.mp hps
    rw [List.map_cons, List.sum_cons, ih hps', hcount]
    by_cases hx : route x = some p
    · -- the other servers have nothing of it
      have hno : ¬ ∃ q ∈ ps, route x = some q := by
        intro hq
        obtain ⟨q, hq, hxq⟩ := hq
        rw [hx] at hxq
        exact hp (Option.some.inj hxq ▸ hq)
      rw [if_pos hx, if_neg hno, if_pos ⟨p, List.mem_cons_self .., hx⟩]
      rfl
    · have hiff : (∃ q ∈ p :: ps, route x = some q) ↔ ∃ q ∈ ps, route x = some q := by
        simp [hx]
      rw [if_neg hx, Nat.zero_add]
      simp only [hiff]

/-- **The shares make up the requests.** -/
theorem shares_perm [DecidableEq α] {ps : List μ} (hps : ps.Nodup)
    (hall : ∀ x ∈ xs, ∀ p, route x = some p → p ∈ ps) :
    (ps.flatMap (fun p => share route (some p) xs) ++ share route none xs).Perm xs := by
  rw [List.perm_iff_count]
  intro x
  rw [List.count_append, List.count_flatMap, Function.comp_def, sum_count_share ps hps xs x]
  -- an element is counted in the share of its server, or among those without one
  by_cases hx : x ∈ xs
  · cases hr : route x with
    | none =>
      have hnone : (share route none xs).count x = xs.count x := by
        unfold share
        exact List.count_filter (by simpa using hr)
      simp [hnone]
    | some p =>
      have hnone : (share route none xs).count x = 0 := by
        refine List.count_eq_zero_of_not_mem fun hmem => ?_
        rw [(mem_share.mp hmem).2] at hr
        simp at hr
      rw [hnone, if_pos ⟨p, hall x hx p hr, rfl⟩, Nat.add_zero]
  · have hnone : (share route none xs).count x = 0 :=
      List.count_eq_zero_of_not_mem fun hmem => hx (mem_share.mp hmem).1
    rw [hnone, List.count_eq_zero_of_not_mem hx]
    simp

/-! ## Carrying out one part -/

section Part

variable {σ β : Type}

theorem foldl_part_of_not_mem {p : μ} (f : σ → β → σ) {parts : List (μ × β)}
    (h : ∀ q ∈ parts, q.1 ≠ p) (s : σ) :
    parts.foldl (fun s q => if q.1 = p then f s q.2 else s) s = s := by
  induction parts with
  | nil => rfl
  | cons q parts ih =>
    rw [List.foldl_cons, if_neg (h q (List.mem_cons_self ..))]
    exact ih fun q' hq' => h q' (List.mem_cons_of_mem _ hq')

theorem foldl_part_of_mem {p : μ} (f : σ → β → σ) {parts : List (μ × β)}
    (honce : (parts.map Prod.fst).Nodup) {part : β} (h : (p, part) ∈ parts) (s : σ) :
    parts.foldl (fun s q => if q.1 = p then f s q.2 else s) s = f s part := by
  obtain ⟨before, after, rfl⟩ := List.append_of_mem h
  rw [List.map_append, List.map_cons, List.nodup_append, List.nodup_cons] at honce
  obtain ⟨_, ⟨hafter, _⟩, hbefore⟩ := honce
  have hb : ∀ q ∈ before, q.1 ≠ p := fun q hq heq =>
    hbefore q.1 (List.mem_map_of_mem hq) p (List.mem_cons_self ..) heq
  have ha : ∀ q ∈ after, q.1 ≠ p := fun q hq heq => hafter (List.mem_map.mpr ⟨q, hq, heq⟩)
  rw [List.foldl_append, foldl_part_of_not_mem f hb, List.foldl_cons, if_pos rfl,
    foldl_part_of_not_mem f ha]

end Part

end Route
