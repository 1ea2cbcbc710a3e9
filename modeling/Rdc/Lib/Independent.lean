import Mathlib.Data.Vector.Basic

/-!
# What a run makes of a buffer it is given

A program is run on a buffer whose contents nobody chose. Its outcome should not depend on them:
`Independent f` says that any two runs end in the same way. Such a property is refuted by an
observer that finds in every outcome what some part of the buffer held before
(`not_independent_of_reads`).
-/

namespace Buffered

variable {σ α β : Type}

/-- The outcome is the same whatever was there before. -/
def Independent (f : σ → α) : Prop := ∀ s s', f s = f s'

theorem independent_of_forall_eq {f : σ → α} {a : α} (h : ∀ s, f s = a) : Independent f := by
  intro s s'
  rw [h s, h s']

/-- An outcome that shows a part of the buffer that two buffers differ in. -/
theorem not_independent_of_reads {f : σ → α} (view : α → β) (part : σ → β)
    (h : ∀ s, view (f s) = part s) (s s' : σ) (hne : part s ≠ part s') : ¬ Independent f := by
  intro hind
  refine hne ?_
  rw [← h s, ← h s', hind s s']

end Buffered
