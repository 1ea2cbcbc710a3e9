import Mathlib.Logic.Basic

/-!
# Machines that may get stuck

A step of such a machine gives the next state or nothing. A run is a list of operations that may end
early; `Along` is a condition on each step that is taken, looked at in the state before it. Where
the condition lets every step be taken, and each step carries a relation on from the states behind
it, the whole run is taken and the relation holds from its start to its end (`Along.relates`).
-/

namespace Partial

variable {σ ι : Type} (exec : σ → ι → Option σ)

/-- The state after a list of operations, if each of them can be carried out. -/
def run (s : σ) (ops : List ι) : Option σ := ops.foldlM exec s

/-- Every step that the run from `s` takes satisfies `P`, in the state it is taken. -/
def Along (P : σ → ι → Prop) : σ → List ι → Prop
  | _, [] => True
  | s, op :: ops => P s op ∧ ∀ s', exec s op = some s' → Along P s' ops

variable {exec}

theorem run_cons {s s' : σ} {op : ι} (h : exec s op = some s') (ops : List ι) :
    run exec s (op :: ops) = run exec s' ops := by
  unfold run
  rw [List.foldlM_cons, h]
  rfl

/-- **The rule for runs.** -/
theorem Along.relates {P : σ → ι → Prop} {I : σ → Prop} {R : σ → List ι → σ → Prop}
    (hnil : ∀ s, R s [] s)
    (hstep : ∀ s op, I s → P s op → ∃ s', exec s op = some s' ∧ I s'
      ∧ ∀ ops s'', R s' ops s'' → R s (op :: ops) s'')
    {s : σ} (hs : I s) {ops : List ι} (h : Along exec P s ops) :
    ∃ s', run exec s ops = some s' ∧ I s' ∧ R s ops s' := by
  induction ops generalizing s with
  | nil => exact ⟨s, rfl, hs, hnil s⟩
  | cons op ops ih =>
    obtain ⟨s', hexec, hs', hcarry⟩ := hstep s op hs h.1
    obtain ⟨s'', hrun, hs'', hrel⟩ := ih hs' (h.2 s' hexec)
    exact ⟨s'', (run_cons hexec ops).trans hrun, hs'', hcarry ops s'' hrel⟩

end Partial
