import Mathlib.Logic.Function.Basic

/-!
# Files with locks

A file has a number of its own, and a path leads to one of them or to none; what is made anew under
a path is another file than what was there before. Of each file one process may hold the lock. It
keeps it until it ends, and the lock is on the file, not on the path.
-/

namespace LockFiles

/-- The file behind each path, how many files have been made, and who holds the lock of each. -/
structure Disk (F P : Type) where
  file : F → Option Nat
  made : Nat
  holder : Nat → Option P

namespace Disk

variable {F P : Type}

/-- No file. -/
def empty : Disk F P := ⟨fun _ => none, 0, fun _ => none⟩

/-- Open a path, and make the file if there is none. -/
def openCreate [DecidableEq F] (d : Disk F P) (f : F) : Nat × Disk F P :=
  match d.file f with
  | some i => (i, d)
  | none =>
    (d.made, { d with file := Function.update d.file f (some d.made), made := d.made + 1 })

/-- Another process holds the lock. -/
def lockedFor [DecidableEq P] (d : Disk F P) (p : P) (i : Nat) : Bool :=
  (d.holder i).any fun q => decide (q ≠ p)

/-- Take the lock, unless another process holds it. -/
def tryLock [DecidableEq P] (d : Disk F P) (p : P) (i : Nat) : Option (Disk F P) :=
  if d.lockedFor p i then none
  else some { d with holder := Function.update d.holder i (some p) }

/-- What a process held is free when it ends. -/
def endOf [DecidableEq P] (d : Disk F P) (p : P) : Disk F P :=
  { d with holder := fun i => if d.holder i = some p then none else d.holder i }

/-- Take a path away. -/
def unlink [DecidableEq F] (d : Disk F P) (f : F) : Disk F P :=
  { d with file := Function.update d.file f none }

/-- What a process may do to the disk as long as it removes nothing: files stay where they are, and
the others keep their locks. -/
structure KeptBy (p : P) (d d' : Disk F P) : Prop where
  file : ∀ f i, d.file f = some i → d'.file f = some i
  holder : ∀ i q, q ≠ p → d.holder i = some q → d'.holder i = some q

theorem keptBy_refl (p : P) (d : Disk F P) : KeptBy p d d := ⟨fun _ _ h => h, fun _ _ _ h => h⟩

theorem keptBy_openCreate [DecidableEq F] (p : P) (d : Disk F P) (f : F) :
    KeptBy p d (d.openCreate f).2 := by
  unfold openCreate
  split
  · exact keptBy_refl p d
  · next hnone =>
    refine ⟨fun g i hg => ?_, fun _ _ _ h => h⟩
    have hne : g ≠ f := by
      rintro rfl
      rw [hnone] at hg
      simp at hg
    exact (Function.update_of_ne hne ..).trans hg

theorem file_openCreate [DecidableEq F] (d : Disk F P) (f : F) :
    (d.openCreate f).2.file f = some (d.openCreate f).1 := by
  unfold openCreate
  split
  · assumption
  · exact Function.update_self ..

section Locks

variable [DecidableEq P]

theorem lockedFor_of_holder {d : Disk F P} {p q : P} {i : Nat} (h : d.holder i = some q)
    (hne : q ≠ p) : d.lockedFor p i = true := by
  unfold lockedFor
  rw [h]
  exact decide_eq_true hne

theorem tryLock_some {d d' : Disk F P} {p : P} {i : Nat} (h : d.tryLock p i = some d') :
    KeptBy p d d' ∧ d'.holder i = some p := by
  unfold tryLock at h
  split at h
  · simp at h
  · next hfree =>
    obtain rfl := Option.some.inj h
    refine ⟨⟨fun _ _ hf => hf, fun j q hne hq => ?_⟩, Function.update_self ..⟩
    have hji : j ≠ i := by
      rintro rfl
      exact hfree (lockedFor_of_holder hq hne)
    exact (Function.update_of_ne hji ..).trans hq

theorem keptBy_endOf (p : P) (d : Disk F P) : KeptBy p d (d.endOf p) := by
  refine ⟨fun _ _ hf => hf, fun i q hne hq => ?_⟩
  have hother : d.holder i ≠ some p := by
    rw [hq]
    exact fun heq => hne (Option.some.inj heq)
  exact (if_neg hother).trans hq

end Locks

end Disk

end LockFiles
