import Mathlib.Logic.Basic

/-!
# Programs made of atomic sections

A call that takes a mutex several times is a sequence of *atomic sections*: each one updates the
shared state in a single step, and what the call does next may depend on the state the section
found. `Prog` is that, and nothing more. Run alone, a program is a function (`run`); run beside
another one, it may be cut between any two sections (`Par`).

Two calls are *serial* from a state when every interleaving ends as one of the two orders does. One
schedule is enough to refute that, and the useful ones let one program run as a whole in the middle
of the other (`Serial.of_steps`).
-/

namespace Atomic

/-- A program: its result, or one atomic section and what follows. The section maps the state by
`upd`; `next` is chosen from the state the section found. -/
inductive Prog (σ α : Type) : Type where
  | ret (a : α)
  | step (upd : σ → σ) (next : σ → Prog σ α)

variable {σ τ α β : Type}

namespace Prog

/-- One atomic section that returns a value. -/
def atomic (f : σ → α × σ) : Prog σ α :=
  .step (fun s => (f s).2) (fun s => .ret (f s).1)

/-- One atomic section that only reads. -/
def read (f : σ → α) : Prog σ α :=
  .step id (fun s => .ret (f s))

/-- Sequential composition. -/
def bind : Prog σ α → (α → Prog σ β) → Prog σ β
  | .ret a, f => f a
  | .step u k, f => .step u (fun s => (k s).bind f)

instance : Monad (Prog σ) where
  pure := .ret
  bind := .bind

/-- Run alone, to the end. -/
def run : Prog σ α → σ → α × σ
  | .ret a, s => (a, s)
  | .step u k, s => (k s).run (u s)

@[simp] theorem run_ret (a : α) (s : σ) : (ret a : Prog σ α).run s = (a, s) := rfl

@[simp] theorem run_step (u : σ → σ) (k : σ → Prog σ α) (s : σ) :
    (step u k).run s = (k s).run (u s) := rfl

@[simp] theorem run_pure (a : α) (s : σ) : (pure a : Prog σ α).run s = (a, s) := rfl

@[simp] theorem run_atomic (f : σ → α × σ) (s : σ) : (atomic f).run s = f s := rfl

@[simp] theorem run_read (f : σ → α) (s : σ) : (read f).run s = (f s, s) := rfl

@[simp] theorem run_bind (p : Prog σ α) (f : α → Prog σ β) (s : σ) :
    (p >>= f).run s = (f (p.run s).1).run (p.run s).2 := by
  show (p.bind f).run s = _
  induction p generalizing s with
  | ret a => rfl
  | step u k ih => exact ih s (u s)

theorem bind_assoc {γ : Type} (p : Prog σ α) (f : α → Prog σ β) (g : β → Prog σ γ) :
    p >>= f >>= g = p >>= fun a => f a >>= g := by
  show (p.bind f).bind g = p.bind fun a => (f a).bind g
  induction p with
  | ret a => rfl
  | step u k ih =>
    show step u _ = step u _
    exact congrArg (step u) (funext fun s => ih s)

end Prog

open Prog

/-! ## Two programs side by side -/

/-- Every way two programs can be interleaved, section by section, with the two results and the
final state. -/
inductive Par : Prog σ α → Prog σ β → σ → α × β × σ → Prop where
  | done (a : α) (b : β) (s : σ) : Par (.ret a) (.ret b) s (a, b, s)
  | left {u : σ → σ} {k : σ → Prog σ α} {q : Prog σ β} {s : σ} {r : α × β × σ} :
      Par (k s) q (u s) r → Par (.step u k) q s r
  | right {p : Prog σ α} {v : σ → σ} {l : σ → Prog σ β} {s : σ} {r : α × β × σ} :
      Par p (l s) (v s) r → Par p (.step v l) s r

/-- The first program to its end, then the second. -/
def seqLR (p : Prog σ α) (q : Prog σ β) (s : σ) : α × β × σ :=
  ((p.run s).1, (q.run (p.run s).2).1, (q.run (p.run s).2).2)

/-- The second program to its end, then the first. -/
def seqRL (p : Prog σ α) (q : Prog σ β) (s : σ) : α × β × σ :=
  ((p.run (q.run s).2).1, (q.run s).1, (p.run (q.run s).2).2)

/-- What an observer of the final state sees of an outcome. -/
def observe (obs : σ → τ) (r : α × β × σ) : α × β × τ := (r.1, r.2.1, obs r.2.2)

/-- Every interleaving from `s` looks like one of the two sequential orders. -/
def Serial (obs : σ → τ) (p : Prog σ α) (q : Prog σ β) (s : σ) : Prop :=
  ∀ r, Par p q s r →
    observe obs r = observe obs (seqLR p q s) ∨ observe obs r = observe obs (seqRL p q s)

variable {p : Prog σ α} {q : Prog σ β} {s s' : σ} {r : α × β × σ}

theorem Par.symm (h : Par p q s r) : Par q p s (r.2.1, r.1, r.2.2) := by
  induction h with
  | done a b s => exact Par.done b a s
  | left _ ih => exact Par.right ih
  | right _ ih => exact Par.left ih

theorem Serial.symm {obs : σ → τ} (h : Serial obs p q s) : Serial obs q p s := by
  intro r hr
  have hswap : ∀ {x : β × α × σ} {y : α × β × σ}, observe obs (x.2.1, x.1, x.2.2) = observe obs y →
      observe obs x = observe obs (y.2.1, y.1, y.2.2) := by
    intro x y hxy
    have h1 : x.2.1 = y.1 := congrArg (fun z => z.1) hxy
    have h2 : x.1 = y.2.1 := congrArg (fun z => z.2.1) hxy
    have h3 : obs x.2.2 = obs y.2.2 := congrArg (fun z => z.2.2) hxy
    show (x.1, x.2.1, obs x.2.2) = (y.2.1, y.1, obs y.2.2)
    rw [h1, h2, h3]
  rcases h _ hr.symm with h' | h'
  · exact Or.inr (hswap h')
  · exact Or.inl (hswap h')

theorem par_ret_left (a : α) (q : Prog σ β) (s : σ) :
    Par (.ret a) q s (a, (q.run s).1, (q.run s).2) := by
  induction q generalizing s with
  | ret b => exact Par.done a b s
  | step v l ih => exact Par.right (ih s (v s))

theorem par_seqLR (p : Prog σ α) (q : Prog σ β) (s : σ) : Par p q s (seqLR p q s) := by
  induction p generalizing s with
  | ret a => exact par_ret_left a q s
  | step u k ih => exact Par.left (ih s (u s))

/-! ## One program for a while -/

/-- Some sections of one program, with nothing in between: what is left of it, and the state. -/
inductive Steps : Prog σ α → σ → Prog σ α → σ → Prop where
  | refl (p : Prog σ α) (s : σ) : Steps p s p s
  | step {u : σ → σ} {k : σ → Prog σ α} {s s' : σ} {p' : Prog σ α} :
      Steps (k s) (u s) p' s' → Steps (.step u k) s p' s'

theorem Steps.read {f : σ → α} {g : α → Prog σ β} {p' : Prog σ β} (h : Steps (g (f s)) s p' s') :
    Steps (Prog.read f >>= g) s p' s' := Steps.step h

theorem Steps.atomic {f : σ → α × σ} {g : α → Prog σ β} {p' : Prog σ β}
    (h : Steps (g (f s).1) (f s).2 p' s') : Steps (Prog.atomic f >>= g) s p' s' := Steps.step h

variable {p' : Prog σ α}

theorem Steps.run_eq (h : Steps p s p' s') : p.run s = p'.run s' := by
  induction h with
  | refl p s => rfl
  | step _ ih => exact ih

theorem par_seqRL (p : Prog σ α) (q : Prog σ β) (s : σ) : Par p q s (seqRL p q s) :=
  (par_seqLR q p s).symm

theorem Steps.trans {p p' p'' : Prog σ α} {s s' s'' : σ} (h : Steps p s p' s')
    (h' : Steps p' s' p'' s'') : Steps p s p'' s'' := by
  induction h with
  | refl p s => exact h'
  | step _ ih => exact Steps.step (ih h')

theorem Steps.bind (h : Steps p s p' s') (f : α → Prog σ β) : Steps (p >>= f) s (p' >>= f) s' := by
  induction h with
  | refl p s => exact Steps.refl _ s
  | step _ ih => exact Steps.step ih

/-- The second program may run as a whole in the middle of the first. -/
theorem Steps.par (h : Steps p s p' s') (q : Prog σ β) : Par p q s (seqRL p' q s') := by
  induction h with
  | refl p s => exact par_seqRL p q s
  | step _ ih => exact Par.left ih

/-- So if the two are serial, that looks like one of the two orders. -/
theorem Serial.of_steps {obs : σ → τ} (h : Serial obs p q s) (hsteps : Steps p s p' s') :
    ((p'.run (q.run s').2).1 = (p.run s).1 ∧ (q.run s').1 = (q.run (p.run s).2).1
        ∧ obs (p'.run (q.run s').2).2 = obs (q.run (p.run s).2).2)
      ∨ ((p'.run (q.run s').2).1 = (p.run (q.run s).2).1 ∧ (q.run s').1 = (q.run s).1
        ∧ obs (p'.run (q.run s').2).2 = obs (p.run (q.run s).2).2) := by
  rcases h _ (hsteps.par q) with h' | h'
  · exact Or.inl ⟨congrArg (fun z => z.1) h', congrArg (fun z => z.2.1) h',
      congrArg (fun z => z.2.2) h'⟩
  · exact Or.inr ⟨congrArg (fun z => z.1) h', congrArg (fun z => z.2.1) h',
      congrArg (fun z => z.2.2) h'⟩

theorem par_ret_left_iff {a : α} (h : Par (.ret a) q s r) : r = (a, (q.run s).1, (q.run s).2) := by
  generalize hp : (Prog.ret a : Prog σ α) = p at h
  induction h with
  | done a' b s => rw [Prog.ret.inj hp]; rfl
  | left _ _ => simp at hp
  | right _ ih => exact ih hp

theorem par_ret_right_iff {b : β} (h : Par p (.ret b) s r) : r = ((p.run s).1, b, (p.run s).2) := by
  have h' := par_ret_left_iff h.symm
  rw [Prod.ext_iff, Prod.ext_iff] at h'
  exact Prod.ext h'.2.1 (Prod.ext h'.1 h'.2.2)

theorem par_step_cases {u v : σ → σ} {k : σ → Prog σ α} {l : σ → Prog σ β}
    (h : Par (.step u k) (.step v l) s r) :
    Par (k s) (.step v l) (u s) r ∨ Par (.step u k) (l s) (v s) r := by
  cases h with
  | left h => exact Or.inl h
  | right h => exact Or.inr h

end Atomic
