import Mathlib.Data.List.Basic
import Mathlib.Data.List.Nodup

/-!
# Resources that are handed out and taken back

An owner asks for a resource under a key, keeps the handle in a table, and gives the resource back
later. The book remembers both sides: which resources have been issued, each with the key it was
asked for, and which have been returned. A resource is named by when it was issued, so a name is
never used again.

What an owner holds is out (`Holds`), and nothing is lost when conversely everything that is out is
held (`NoneLost`). The four things an owner can do are one lemma each: keep what was issued, lose
it, return what is held, drop it. With nothing lost, the resources out for a key are the one that is
held for it, if any (`outFor_eq`).
-/

namespace Lease

/-- The keys for which resources were issued, in order, and the resources returned so far. -/
structure Book (κ : Type) where
  issued : List κ
  returned : List Nat
  deriving DecidableEq

namespace Book

variable {κ : Type}

/-- Nothing has been issued. -/
def empty : Book κ := ⟨[], []⟩

/-- The name of the next resource. -/
def next (b : Book κ) : Nat := b.issued.length

/-- Issue a resource for a key. -/
def issue (b : Book κ) (k : κ) : Book κ := { b with issued := b.issued ++ [k] }

/-- Take a resource back. -/
def takeBack (b : Book κ) (h : Nat) : Book κ := { b with returned := b.returned ++ [h] }

/-- Resource `h` was issued for `k` and has not been returned. -/
def Out (b : Book κ) (k : κ) (h : Nat) : Prop := b.issued[h]? = some k ∧ h ∉ b.returned

/-- The resources that are out for a key. -/
def outFor [DecidableEq κ] (b : Book κ) (k : κ) : List Nat :=
  (List.range b.issued.length).filter fun h => b.issued[h]? = some k ∧ h ∉ b.returned

theorem mem_outFor [DecidableEq κ] {b : Book κ} {k : κ} {h : Nat} : h ∈ b.outFor k ↔ b.Out k h := by
  unfold outFor
  rw [List.mem_filter, List.mem_range, decide_eq_true_eq]
  refine ⟨fun hm => hm.2, fun hout => ⟨?_, hout⟩⟩
  exact (List.getElem?_eq_some_iff.mp hout.1).1

theorem nodup_outFor [DecidableEq κ] (b : Book κ) (k : κ) : (b.outFor k).Nodup :=
  List.Nodup.filter _ List.nodup_range

end Book

variable {κ : Type} {b : Book κ} {held held' : κ → Option Nat}

/-- The owner's table names only resources that are out, under their own keys. -/
structure Holds (b : Book κ) (held : κ → Option Nat) : Prop where
  out : ∀ k h, held k = some h → b.Out k h
  returned_lt : ∀ h ∈ b.returned, h < b.issued.length

/-- Everything that is out is in the owner's table. -/
def NoneLost (b : Book κ) (held : κ → Option Nat) : Prop := ∀ k h, b.Out k h → held k = some h

theorem Holds.empty (hnone : ∀ k, held k = none) : Holds Book.empty held where
  out k h hk := by
    rw [hnone k] at hk
    simp at hk
  returned_lt := by simp [Book.empty]

theorem NoneLost.empty : NoneLost (Book.empty : Book κ) held := by
  intro k h hout
  exact absurd hout.1 (by simp [Book.empty])

theorem out_issue (hb : Holds b held) (k : κ) {k' : κ} {h : Nat} :
    (b.issue k).Out k' h ↔ b.Out k' h ∨ (k' = k ∧ h = b.next) := by
  unfold Book.Out Book.issue Book.next
  dsimp only
  rcases Nat.lt_trichotomy h b.issued.length with hlt | heq | hgt
  · rw [List.getElem?_append_left hlt]
    refine ⟨Or.inl, ?_⟩
    intro hor
    rcases hor with hout | ⟨_, heq⟩
    · exact hout
    · omega
  · have hfresh : h ∉ b.returned := fun hr => by
      have hlt := hb.returned_lt h hr
      omega
    rw [heq, List.getElem?_concat_length, List.getElem?_eq_none (Nat.le_refl _)]
    rw [heq] at hfresh
    simp [hfresh, eq_comm]
  · rw [List.getElem?_eq_none (by simp; omega), List.getElem?_eq_none (by omega)]
    simp
    omega

theorem out_takeBack {h h' : Nat} {k : κ} : (b.takeBack h).Out k h' ↔ b.Out k h' ∧ h' ≠ h := by
  unfold Book.Out Book.takeBack
  simp [and_assoc]

theorem out_unique {k k' : κ} {h : Nat} (hk : b.Out k h) (hk' : b.Out k' h) : k = k' := by
  have heq := hk.1.symm.trans hk'.1
  exact Option.some.inj heq

theorem not_out_next {k : κ} : ¬ b.Out k b.next := by
  intro hout
  have hlt := (List.getElem?_eq_some_iff.mp hout.1).1
  exact absurd hlt (Nat.lt_irrefl _)

/-! ## Issuing -/

theorem Holds.issue_returned_lt (hb : Holds b held) (k : κ) :
    ∀ h ∈ (b.issue k).returned, h < (b.issue k).issued.length := by
  intro h hr
  have hlt := hb.returned_lt h hr
  show h < (b.issued ++ [k]).length
  rw [List.length_append]
  omega

theorem Holds.keep [DecidableEq κ] (hb : Holds b held) (k : κ)
    (hheld : ∀ a, held' a = if k = a then some b.next else held a) : Holds (b.issue k) held' where
  out := by
    intro a h ha
    rw [hheld a] at ha
    rw [out_issue hb]
    split at ha
    · rename_i hka
      exact Or.inr ⟨hka.symm, (Option.some.inj ha).symm⟩
    · exact Or.inl (hb.out a h ha)
  returned_lt := hb.issue_returned_lt k

theorem NoneLost.keep [DecidableEq κ] (hb : Holds b held) {k : κ} (hfree : held k = none)
    (hheld : ∀ a, held' a = if k = a then some b.next else held a) (hn : NoneLost b held) :
    NoneLost (b.issue k) held' := by
  intro a h hout
  rw [hheld a]
  rcases (out_issue hb k).mp hout with hold | ⟨hak, hh⟩
  · have ha := hn a h hold
    rw [if_neg]
    · exact ha
    · intro hka
      rw [← hka, hfree] at ha
      simp at ha
  · rw [if_pos hak.symm, hh]

theorem Holds.lose (hb : Holds b held) (k : κ) : Holds (b.issue k) held where
  out a h ha := (out_issue hb k).mpr (Or.inl (hb.out a h ha))
  returned_lt := hb.issue_returned_lt k

theorem not_noneLost_lose (hb : Holds b held) (k : κ) : ¬ NoneLost (b.issue k) held := by
  intro hn
  have hnew := hn k b.next ((out_issue hb k).mpr (Or.inr ⟨rfl, rfl⟩))
  exact not_out_next (hb.out k b.next hnew)

/-! ## Returning -/

section Return

variable [DecidableEq κ] {k : κ} {h : Nat}

/-- Forgetting a key leaves a table of resources that are out. -/
theorem Holds.drop (hb : Holds b held) (hheld : ∀ a, held' a = if k = a then none else held a) :
    Holds b held' where
  out := by
    intro a h ha
    rw [hheld a] at ha
    split at ha
    · simp at ha
    · exact hb.out a h ha
  returned_lt := hb.returned_lt

theorem not_noneLost_drop (hb : Holds b held) (hk : held k = some h)
    (hheld : ∀ a, held' a = if k = a then none else held a) : ¬ NoneLost b held' := by
  intro hn
  have hk' := hn k h (hb.out k h hk)
  rw [hheld k, if_pos rfl] at hk'
  simp at hk'

theorem Holds.giveBack (hb : Holds b held) (hk : held k = some h)
    (hheld : ∀ a, held' a = if k = a then none else held a) : Holds (b.takeBack h) held' where
  out := by
    intro a h' ha
    rw [hheld a] at ha
    split at ha
    · simp at ha
    · rename_i hka
      refine out_takeBack.mpr ⟨hb.out a h' ha, ?_⟩
      intro heq
      rw [heq] at ha
      exact hka (out_unique (hb.out k h hk) (hb.out a h ha))
  returned_lt := by
    intro h' hr
    rcases List.mem_append.mp hr with hr | hr
    · exact hb.returned_lt h' hr
    · rw [List.mem_singleton.mp hr]
      exact (List.getElem?_eq_some_iff.mp (hb.out k h hk).1).1

theorem NoneLost.giveBack (hk : held k = some h)
    (hheld : ∀ a, held' a = if k = a then none else held a) (hn : NoneLost b held) :
    NoneLost (b.takeBack h) held' := by
  intro a h' hout
  obtain ⟨hout, hne⟩ := out_takeBack.mp hout
  have ha := hn a h' hout
  rw [hheld a, if_neg]
  · exact ha
  · intro hka
    rw [← hka, hk] at ha
    exact hne (Option.some.inj ha).symm

end Return

/-- **What is out for a key** is what its owner holds for it. -/
theorem outFor_eq [DecidableEq κ] (hb : Holds b held) (hn : NoneLost b held) (k : κ) :
    b.outFor k = (held k).toList := by
  have hmem : ∀ h, h ∈ b.outFor k ↔ held k = some h :=
    fun h => Book.mem_outFor.trans ⟨hn k h, hb.out k h⟩
  cases hk : held k with
  | none =>
    refine List.eq_nil_iff_forall_not_mem.mpr fun h hh => ?_
    rw [hmem h, hk] at hh
    simp at hh
  | some h =>
    have hperm : (b.outFor k).Perm [h] := by
      rw [List.perm_ext_iff_of_nodup (b.nodup_outFor k) (List.nodup_singleton h)]
      intro h'
      rw [hmem h', hk, List.mem_singleton, Option.some.injEq, eq_comm]
    exact List.perm_singleton.mp hperm

end Lease
