import Rdc.Lib.Machine
import Mathlib.Data.Nat.Init

/-!
# Runs that do not end

A schedule gives a machine one operation after another, for ever. What is to happen at some time in
such a run needs operations that come again and again (`Recurs`), and a rank that goes down until it
has happened (`eventually_of_rank`): in each state one kind of operation is needed, it makes the
rank smaller, and no other operation makes the rank larger or changes what is needed.
-/

namespace Machine

variable {σ ι ο κ : Type} (exec : σ → ι → ο × σ)

/-- The state after `t` operations of the schedule. -/
def state (s : σ) (schedule : Nat → ι) : Nat → σ
  | 0 => s
  | t + 1 => (exec (state s schedule t) (schedule t)).2

/-- Operations of this kind come again and again. -/
def Recurs (schedule : Nat → ι) (kind : ι → Prop) : Prop := ∀ t, ∃ u, t ≤ u ∧ kind (schedule u)

variable {exec} {s : σ} {schedule : Nat → ι}

/-- The invariant rule for schedules made of operations of one kind. -/
theorem state_invariant {P : ι → Prop} {I : σ → Prop}
    (hstep : ∀ s op, P op → I s → I (exec s op).2) (hP : ∀ t, P (schedule t)) {t : Nat}
    (ht : I (state exec s schedule t)) {u : Nat} (hu : t ≤ u) : I (state exec s schedule u) := by
  induction u, hu using Nat.le_induction with
  | base => exact ht
  | succ u _ ih => exact hstep _ _ (hP u) ih

section Rank

variable {P : ι → Prop} {I Q : σ → Prop} (rank : σ → Nat) (need : σ → κ) (kind : κ → ι → Prop)
  (hstep : ∀ s op, P op → I s → ¬ Q s → Q (exec s op).2 ∨ I (exec s op).2 ∧
    (rank (exec s op).2 < rank s
      ∨ ¬ kind (need s) op ∧ rank (exec s op).2 = rank s ∧ need (exec s op).2 = need s))
  (hP : ∀ t, P (schedule t))

include hstep hP

/-- If the operation needed now comes `d` operations later, the rank goes down by then. -/
theorem rank_decreases (d : Nat) {t : Nat} (hI : I (state exec s schedule t))
    (hd : kind (need (state exec s schedule t)) (schedule (t + d))) :
    ∃ u, t ≤ u ∧ (Q (state exec s schedule u) ∨ I (state exec s schedule u)
      ∧ rank (state exec s schedule u) < rank (state exec s schedule t)) := by
  induction d generalizing t with
  | zero =>
    by_cases hQ : Q (state exec s schedule t)
    · exact ⟨t, Nat.le_refl t, Or.inl hQ⟩
    obtain hQ' | ⟨hI', hlt | ⟨hno, -⟩⟩ := hstep _ (schedule t) (hP t) hI hQ
    · exact ⟨t + 1, Nat.le_succ t, Or.inl hQ'⟩
    · exact ⟨t + 1, Nat.le_succ t, Or.inr ⟨hI', hlt⟩⟩
    · exact absurd hd hno
  | succ d ih =>
    by_cases hQ : Q (state exec s schedule t)
    · exact ⟨t, Nat.le_refl t, Or.inl hQ⟩
    obtain hQ' | ⟨hI', hlt | ⟨-, hrank, hneed⟩⟩ := hstep _ (schedule t) (hP t) hI hQ
    · exact ⟨t + 1, Nat.le_succ t, Or.inl hQ'⟩
    · exact ⟨t + 1, Nat.le_succ t, Or.inr ⟨hI', hlt⟩⟩
    · have hd' : kind (need (state exec s schedule (t + 1))) (schedule (t + 1 + d)) := by
        rw [state, hneed, Nat.add_right_comm]
        exact hd
      obtain ⟨u, hu, h⟩ := ih (t := t + 1) hI' hd'
      refine ⟨u, Nat.le_of_succ_le hu, h.imp_right fun h => ⟨h.1, ?_⟩⟩
      exact hrank ▸ h.2

/-- **The rank rule.** What is needed comes again and again, so the rank cannot stay. -/
theorem eventually_of_rank (hrec : ∀ k, Recurs schedule (kind k)) {t : Nat}
    (hI : I (state exec s schedule t)) : ∃ u, t ≤ u ∧ Q (state exec s schedule u) := by
  induction hn : rank (state exec s schedule t) using Nat.strong_induction_on generalizing t with
  | _ n ih =>
    obtain ⟨u, hu, hkind⟩ := hrec (need (state exec s schedule t)) t
    obtain ⟨d, rfl⟩ := Nat.exists_eq_add_of_le hu
    obtain ⟨v, hv, hQ | ⟨hI', hlt⟩⟩ := rank_decreases rank need kind hstep hP d hI hkind
    · exact ⟨v, hv, hQ⟩
    · obtain ⟨w, hw, hQ⟩ := ih _ (hn ▸ hlt) hI' rfl
      exact ⟨w, Nat.le_trans hv hw, hQ⟩

end Rank

end Machine
