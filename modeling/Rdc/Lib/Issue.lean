import Mathlib.Data.List.Range
import Mathlib.Data.List.Nodup

/-!
# Ids from a counter

A table gives a new entry the number its counter shows and moves the counter on, and the counter has
a fixed width `m`. What is remembered here is the history: which ids have been issued, in order, and
which of them have been taken back. As long as the counter has not wrapped, the next id is one that
no entry has or ever had, so an id is never issued twice and a retired one never comes back.

Nothing is said about the table except which ids it binds (`live`). Ids below the first one issued
may be bound from the start.
-/

namespace Issue

/-- The ids `1, 2, …` have been issued from a counter that counts modulo `m`, and those in `gone`
have been retired. -/
structure Ledger (m : Nat) (issued gone : List Nat) (next : Nat) (live : Nat → Prop) : Prop where
  counter : next = (issued.length + 1) % m
  inOrder : issued = List.range' 1 issued.length
  live_le : ∀ id, live id → id ≤ issued.length
  gone_le : ∀ id ∈ gone, id ≤ issued.length
  gone_dead : ∀ id ∈ gone, ¬ live id

namespace Ledger

variable {m next : Nat} {issued gone : List Nat} {live live' : Nat → Prop}

theorem start (hm : 1 < m) (hlive : ∀ id, live id → id = 0) : Ledger m [] [] 1 live where
  counter := (Nat.mod_eq_of_lt hm).symm
  inOrder := rfl
  live_le id h := le_of_eq (hlive id h)
  gone_le := by simp
  gone_dead := by simp

theorem nodup (h : Ledger m issued gone next live) : issued.Nodup := by
  rw [h.inOrder]
  exact List.nodup_range'

theorem pos_of_mem (h : Ledger m issued gone next live) {id : Nat} (hid : id ∈ issued) :
    0 < id := by
  rw [h.inOrder, List.mem_range'_1] at hid
  exact hid.1

/-- Before the counter wraps, it shows the successor of everything issued. -/
theorem next_eq (h : Ledger m issued gone next live) (hlt : issued.length + 1 < m) :
    next = issued.length + 1 := by
  rw [h.counter, Nat.mod_eq_of_lt hlt]

theorem mono (h : Ledger m issued gone next live) (hsub : ∀ id, live' id → live id) :
    Ledger m issued gone next live' :=
  { h with
    live_le := fun id hl => h.live_le id (hsub id hl)
    gone_dead := fun id hg hl => h.gone_dead id hg (hsub id hl) }

theorem issue (h : Ledger m issued gone next live) (hlt : issued.length + 1 < m)
    (hsub : ∀ id, live' id → live id ∨ id = next) :
    Ledger m (issued ++ [next]) gone ((next + 1) % m) live' where
  counter := by rw [h.next_eq hlt, List.length_append, List.length_singleton]
  inOrder := by
    rw [List.length_append, List.length_singleton, List.range'_1_concat, ← h.inOrder,
      h.next_eq hlt, Nat.add_comm 1]
  live_le := by
    intro id hl
    rw [List.length_append, List.length_singleton]
    rcases hsub id hl with hold | heq
    · have hle := h.live_le id hold
      omega
    · rw [heq, h.next_eq hlt]
  gone_le := by
    intro id hg
    have hle := h.gone_le id hg
    rw [List.length_append]
    omega
  gone_dead := by
    intro id hg hl
    rcases hsub id hl with hold | heq
    · exact h.gone_dead id hg hold
    · have hle := h.gone_le id hg
      rw [heq, h.next_eq hlt] at hle
      omega

theorem retire (h : Ledger m issued gone next live) {id : Nat} (hid : live id)
    (hsub : ∀ id', live' id' → live id') (hdead : ¬ live' id) :
    Ledger m issued (gone ++ [id]) next live' where
  counter := h.counter
  inOrder := h.inOrder
  live_le id' hl := h.live_le id' (hsub id' hl)
  gone_le := by
    intro id' hg
    rcases List.mem_append.mp hg with hold | hnew
    · exact h.gone_le id' hold
    · rw [List.mem_singleton.mp hnew]
      exact h.live_le id hid
  gone_dead := by
    intro id' hg hl
    rcases List.mem_append.mp hg with hold | hnew
    · exact h.gone_dead id' hold (hsub id' hl)
    · rw [List.mem_singleton.mp hnew] at hl
      exact hdead hl

end Ledger

end Issue
