import Mathlib.Logic.Basic

/-!
# Commands that may stop early

A command changes a state and either returns a value or stops, and when it stops the state is as the
command has left it, which is what a destructor gets to see. The rules are those of a program
logic with two postconditions, one for each way to end.
-/

namespace Raise

variable {ε σ α β : Type}

/-- A command over the state `σ` that may stop with an `ε`. -/
def Cmd (ε σ α : Type) : Type := σ → Except ε α × σ

namespace Cmd

/-- How the command ends, and the state it leaves. -/
def exec (x : Cmd ε σ α) (s : σ) : Except ε α × σ := x s

/-- Return a value. -/
def ret (a : α) : Cmd ε σ α := fun s => (.ok a, s)

/-- Stop. -/
def stop (e : ε) : Cmd ε σ α := fun s => (.error e, s)

/-- Update the state and return a value. -/
def atomic (f : σ → α × σ) : Cmd ε σ α := fun s => (.ok (f s).1, (f s).2)

/-- Look at the state. -/
def read (f : σ → α) : Cmd ε σ α := fun s => (.ok (f s), s)

/-- Update the state. -/
def update (f : σ → σ) : Cmd ε σ Unit := fun s => (.ok (), f s)

/-- Sequential composition. -/
def bind (x : Cmd ε σ α) (f : α → Cmd ε σ β) : Cmd ε σ β := fun s =>
  match x s with
  | (.ok a, s') => f a s'
  | (.error e, s') => (.error e, s')

instance : Monad (Cmd ε σ) where
  pure := ret
  bind := bind

@[simp] theorem exec_atomic (f : σ → α × σ) (s : σ) :
    (atomic f : Cmd ε σ α).exec s = (.ok (f s).1, (f s).2) := rfl

@[simp] theorem exec_read (f : σ → α) (s : σ) : (read f : Cmd ε σ α).exec s = (.ok (f s), s) := rfl

theorem exec_bind (x : Cmd ε σ α) (f : α → Cmd ε σ β) (s : σ) :
    (x >>= f).exec s
      = match x.exec s with
        | (.ok a, s') => (f a).exec s'
        | (.error e, s') => (.error e, s') := rfl

variable {x : Cmd ε σ α} {f : α → Cmd ε σ β}

theorem exec_bind_ok {s s' : σ} {a : α} (h : x.exec s = (.ok a, s')) :
    (x >>= f).exec s = (f a).exec s' := by
  rw [exec_bind, h]

theorem exec_bind_error {s s' : σ} {e : ε} (h : x.exec s = (.error e, s')) :
    (x >>= f).exec s = (.error e, s') := by
  rw [exec_bind, h]

end Cmd

open Cmd

/-! ## Triples -/

/-- From a state that satisfies `P`, a return satisfies `Q` and a stop satisfies `E`. -/
def Triple (P : σ → Prop) (x : Cmd ε σ α) (Q : α → σ → Prop) (E : ε → σ → Prop) : Prop :=
  ∀ s, P s → match x.exec s with
    | (.ok a, s') => Q a s'
    | (.error e, s') => E e s'

namespace Triple

variable {P P' : σ → Prop} {Q Q' : α → σ → Prop} {E : ε → σ → Prop} {x : Cmd ε σ α}
  {f : α → Cmd ε σ β}

theorem pure {a : α} (h : ∀ s, P s → Q a s) : Triple P (Pure.pure a : Cmd ε σ α) Q E := h

theorem stop {e : ε} (h : ∀ s, P s → E e s) : Triple P (Cmd.stop e : Cmd ε σ α) Q E := h

theorem atomic {f : σ → α × σ} (h : ∀ s, P s → Q (f s).1 (f s).2) :
    Triple P (Cmd.atomic f : Cmd ε σ α) Q E := h

theorem read {f : σ → α} (h : ∀ s, P s → Q (f s) s) : Triple P (Cmd.read f : Cmd ε σ α) Q E := h

theorem update {f : σ → σ} {Q : Unit → σ → Prop} (h : ∀ s, P s → Q () (f s)) :
    Triple P (Cmd.update f : Cmd ε σ Unit) Q E := h

theorem bind {R : β → σ → Prop} (hx : Triple P x Q E) (hf : ∀ a, Triple (Q a) (f a) R E) :
    Triple P (x >>= f) R E := by
  intro s hs
  have hstep := hx s hs
  rw [exec_bind]
  revert hstep
  rcases x.exec s with ⟨r, s'⟩
  cases r with
  | ok a => exact hf a s'
  | error e => exact id

/-- Strengthen what is assumed and weaken what is promised. -/
theorem conseq (h : Triple P x Q E) (hP : ∀ s, P' s → P s) (hQ : ∀ a s, Q a s → Q' a s) :
    Triple P' x Q' E := by
  intro s hs
  have hx := h s (hP s hs)
  revert hx
  rcases x.exec s with ⟨r, s'⟩
  cases r with
  | ok a => exact hQ a s'
  | error e => exact id

theorem conseqStop {E' : ε → σ → Prop} (h : Triple P x Q E) (hE : ∀ e s, E e s → E' e s) :
    Triple P x Q E' := by
  intro s hs
  have hx := h s hs
  revert hx
  rcases x.exec s with ⟨r, s'⟩
  cases r with
  | ok a => exact id
  | error e => exact hE e s'

end Triple

/-! ## Commands that are known to return -/

/-- Started in `s`, the command returns exactly if `P`, and then with `Q`. -/
def ReturnsIff (P : Prop) (x : Cmd ε σ α) (s : σ) (Q : α → σ → Prop) : Prop :=
  match x.exec s with
  | (.ok a, s') => P ∧ Q a s'
  | (.error _, _) => ¬ P

namespace ReturnsIff

variable {P P' : Prop} {s : σ} {Q Q' : α → σ → Prop} {R : β → σ → Prop} {x : Cmd ε σ α}
  {f : α → Cmd ε σ β}

theorem congr (h : ReturnsIff P x s Q) (hP : P ↔ P') (hQ : ∀ a s', Q a s' → Q' a s') :
    ReturnsIff P' x s Q' := by
  revert h
  unfold ReturnsIff
  rcases x.exec s with ⟨r, s'⟩
  cases r with
  | ok a => exact fun h => ⟨hP.mp h.1, hQ a s' h.2⟩
  | error e => exact fun h hp => h (hP.mpr hp)

theorem bind (hx : ReturnsIff P x s Q) (hf : ∀ a s', Q a s' → ReturnsIff P' (f a) s' R) :
    ReturnsIff (P ∧ P') (x >>= f) s R := by
  unfold ReturnsIff at hx ⊢
  rw [exec_bind]
  revert hx
  rcases x.exec s with ⟨r, s'⟩
  cases r with
  | ok a =>
    intro hx
    exact (hf a s' hx.2).congr ⟨fun h => ⟨hx.1, h⟩, fun h => h.2⟩ fun _ _ h => h
  | error e => exact fun hx h => hx h.1

theorem of_ok (h : ReturnsIff P x s Q) {a : α} {s' : σ} (hx : x.exec s = (.ok a, s')) :
    P ∧ Q a s' := by
  unfold ReturnsIff at h
  rwa [hx] at h

theorem exists_ok (h : ReturnsIff P x s Q) (hP : P) : ∃ a s', x.exec s = (.ok a, s') ∧ Q a s' := by
  revert h
  unfold ReturnsIff
  rcases x.exec s with ⟨r, s'⟩
  cases r with
  | ok a => exact fun h => ⟨a, s', rfl, h.2⟩
  | error e => exact fun h => absurd hP h

end ReturnsIff

end Raise
