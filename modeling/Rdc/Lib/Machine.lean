import Mathlib.Logic.Basic

/-!
# Machines and their runs

A machine executes operations one after another: `exec s op` is the answer and the next state. A run
is a list of operations, and a condition on a run is a condition on each step taken, looked at in
the state before it (`Along`). `Along.invariant` turns a step lemma into a statement about every
run, and `Along.iff_forall_reached` does the same for a step lemma that is an equivalence.

Time is not part of the state. A run takes place on a clock when each operation has a stretch of it,
one after the other (`Clocked`), and an invariant may then speak about the present time.
-/

namespace Machine

variable {σ ι ο : Type} (exec : σ → ι → ο × σ)

/-- The state after a list of operations. -/
def run (s : σ) (ops : List ι) : σ := ops.foldl (fun s op => (exec s op).2) s

/-- Every step of the run from `s` satisfies `P`, in the state it is taken. -/
def Along (P : σ → ι → Prop) : σ → List ι → Prop
  | _, [] => True
  | s, op :: ops => P s op ∧ Along P (exec s op).2 ops

variable {exec}

@[simp] theorem run_nil (s : σ) : run exec s [] = s := rfl

@[simp] theorem run_cons (s : σ) (op : ι) (ops : List ι) :
    run exec s (op :: ops) = run exec (exec s op).2 ops := rfl

variable {P : σ → ι → Prop} {ops : List ι} {s : σ}

/-- **The invariant rule.** What every permitted step preserves holds after every permitted run. -/
theorem Along.invariant {I : σ → Prop} (hstep : ∀ s op, I s → P s op → I (exec s op).2) (hs : I s)
    (h : Along exec P s ops) : I (run exec s ops) := by
  induction ops generalizing s with
  | nil => exact hs
  | cons op ops ih => exact ih (hstep s op hs h.1) h.2

/-- A condition on operations alone holds along every run made of such operations. -/
theorem Along.of_forall (h : ∀ op ∈ ops, ∀ s, P s op) : Along exec P s ops := by
  induction ops generalizing s with
  | nil => trivial
  | cons op ops ih =>
    exact ⟨h op (List.mem_cons_self ..) s, ih fun op' h' => h op' (List.mem_cons_of_mem _ h')⟩

theorem Along.always : Along exec (fun _ _ => True) s ops :=
  Along.of_forall fun _ _ _ => trivial

/-- The invariant rule, if every step preserves the invariant. -/
theorem run_invariant {I : σ → Prop} (hstep : ∀ s op, I s → I (exec s op).2) (hs : I s)
    (ops : List ι) : I (run exec s ops) :=
  Along.invariant (fun s op h _ => hstep s op h) hs Along.always

/-- **A property kept exactly by certain steps.** If, in states that satisfy `G`, a step keeps `I`
exactly when it satisfies `Q`, then `I` holds all along a run exactly when each step of it satisfies
`Q`. -/
theorem Along.iff_forall_reached {P Q : σ → ι → Prop} {G I : σ → Prop}
    (hG : ∀ s op, G s → P s op → G (exec s op).2)
    (hI : ∀ s op, G s → P s op → I s → (I (exec s op).2 ↔ Q s op)) (hGs : G s) (hIs : I s)
    (h : Along exec P s ops) :
    (∀ done rest, ops = done ++ rest → I (run exec s done)) ↔ Along exec Q s ops := by
  induction ops generalizing s with
  | nil =>
    refine ⟨fun _ => trivial, fun _ done rest heq => ?_⟩
    rw [(List.append_eq_nil_iff.mp heq.symm).1]
    exact hIs
  | cons op ops ih =>
    have hstep := hI s op hGs h.1 hIs
    refine ⟨fun hall => ?_, fun hQ done rest heq => ?_⟩
    · have hIs' : I (exec s op).2 := hall [op] ops rfl
      refine ⟨hstep.mp hIs', (ih (hG s op hGs h.1) hIs' h.2).mp ?_⟩
      intro done rest heq
      exact hall (op :: done) rest (by rw [heq]; rfl)
    · cases done with
      | nil => exact hIs
      | cons op' done =>
        obtain ⟨hop, hrest⟩ := List.cons.inj heq
        rw [run_cons, ← hop]
        exact (ih (hG s op hGs h.1) (hstep.mpr hQ.1) h.2).mpr hQ.2 done rest hrest

/-! ## Runs on a clock -/

section Clock

variable {τ : Type}

/-- Each operation lasts from where the one before it ended to some later reading, and `R` says
which stretches an operation can have. -/
def Clocked (R : τ → τ → ι → Prop) : τ → List ι → Prop
  | _, [] => True
  | t, op :: ops => ∃ t', R t t' op ∧ Clocked R t' ops

/-- The invariant rule, for an invariant that knows the time. -/
theorem Along.invariant_clocked {R : τ → τ → ι → Prop} {I : τ → σ → Prop}
    (hstep : ∀ t t' s op, I t s → P s op → R t t' op → I t' (exec s op).2) {t : τ} (hs : I t s)
    (h : Along exec P s ops) (hc : Clocked R t ops) : ∃ t', I t' (run exec s ops) := by
  induction ops generalizing s t with
  | nil => exact ⟨t, hs⟩
  | cons op ops ih =>
    obtain ⟨t', hR, hrest⟩ := hc
    exact ih (hstep t t' s op hs h.1 hR) h.2 hrest

end Clock

end Machine
