import Rdc.Lib.Atomic
import Mathlib.Order.Defs.Unbundled

/-!
# When interleavings are serial

Four rules. A program that changes nothing and always returns the same is serial beside anything
(`serial_of_silent`); one that changes nothing and returns what it saw is serial beside a program
that changes it once (`serial_of_reader`).

A section is a *mover* for another program when it commutes with each section of it and neither
changes what the other does next. If each program has at most one section on any path that is not a
mover for the other, its *pivot*, then every interleaving is serial, in the order of the pivots
(`serial_of_onePivot`).

Last, if each program keeps to what the other relies on, both end as they promise (`Par.safe`). When
the promises leave a single outcome, the orders are among the interleavings and have it too.

Everything is relative to an invariant `I` that both programs keep, or to what they rely on, so that
the conditions need only hold in states the calls can meet.
-/

namespace Atomic

open Prog

variable {σ τ α β γ : Type}

/-! ## Programs that only look -/

/-- Every section that a program can come to satisfies `P`, in the states of `I`. -/
def Each (I : σ → Prop) (P : (σ → σ) → (σ → Prog σ α) → Prop) : Prog σ α → Prop
  | .ret _ => True
  | .step u k => P u k ∧ ∀ s, I s → Each I P (k s)

/-- Every section of the program keeps the invariant. -/
def Keeps (I : σ → Prop) : Prog σ α → Prop := Each I (fun u _ => ∀ s, I s → I (u s))

variable {I : σ → Prop} {P : (σ → σ) → (σ → Prog σ α) → Prop} {f : σ → γ} {g : γ → Prog σ α}
  {p : Prog σ α} {q : Prog σ β} {s : σ} {r : α × β × σ} {k : σ → Prog σ α}

theorem Each.read (hP : P id fun s => g (f s)) (h : ∀ s, I s → Each I P (g (f s))) :
    Each I P (Prog.read f >>= g) := ⟨hP, h⟩

theorem Each.bind {P : (σ → σ) → Prop} {f : α → Prog σ β} (hp : Each I (fun u _ => P u) p)
    (hf : ∀ a, Each I (fun u _ => P u) (f a)) : Each I (fun u _ => P u) (p >>= f) := by
  induction p with
  | ret a => exact hf a
  | step u k ih => exact ⟨hp.1, fun s hs => ih s (hp.2 s hs)⟩

theorem Keeps.read (h : ∀ s, I s → Keeps I (g (f s))) :
    Keeps I (Prog.read f >>= g) := ⟨fun _ hs => hs, h⟩

theorem Keeps.atomic {f : σ → γ × σ} (hf : ∀ s, I s → I (f s).2)
    (h : ∀ s, I s → Keeps I (g (f s).1)) :
    Keeps I (Prog.atomic f >>= g) := ⟨hf, h⟩

/-- In the states of `I` the program changes nothing and returns `a`. -/
def Silent (I : σ → Prop) (a : α) : Prog σ α → Prop
  | .ret b => b = a
  | .step u k => ∀ s, I s → u s = s ∧ Silent I a (k s)

theorem Silent.read {a : α} (h : ∀ s, I s → Silent I a (g (f s))) :
    Silent I a (Prog.read f >>= g) :=
  fun s hs => ⟨rfl, h s hs⟩

/-- A read of something that does not change may be done at once. -/
theorem Par.skip_read {c : γ} (h : Par (Prog.read f >>= g) q s r)
    (hf : ∀ s, I s → f s = c) (hq : Keeps I q) (hs : I s) : Par (g c) q s r := by
  generalize hp : Prog.read f >>= g = p at h
  induction h with
  | done a b s => exact absurd (show Prog.step _ _ = Prog.ret a from hp) (by simp)
  | @left u k q s r h _ =>
    obtain ⟨rfl, rfl⟩ := Prog.step.inj (show Prog.step _ _ = Prog.step u k from hp)
    have hgo : Par (g (f s)) q s r := h
    rwa [hf s hs] at hgo
  | right _ ih => exact Par.right (ih (hq.2 _ hs) (hq.1 _ hs) hp)

theorem Silent.par {a : α} (h : Par p q s r) (hp : Silent I a p) (hq : Keeps I q) (hs : I s) :
    r = (a, (q.run s).1, (q.run s).2) := by
  induction h with
  | done b c s =>
    have hb : b = a := hp
    rw [hb]
    rfl
  | left _ ih =>
    obtain ⟨hu, hk⟩ := hp _ hs
    rw [hu] at ih
    exact ih hk hq hs
  | right _ ih => exact ih hp (hq.2 _ hs) (hq.1 _ hs)

theorem Silent.run {a : α} (hp : Silent I a p) (hs : I s) : p.run s = (a, s) := by
  induction p generalizing s with
  | ret b =>
    have hb : b = a := hp
    rw [hb]
    rfl
  | step u k ih =>
    obtain ⟨hu, hk⟩ := hp s hs
    rw [run_step, hu]
    exact ih s hk hs

/-- Beside a silent program every interleaving is serial. -/
theorem serial_of_silent {a : α} (obs : σ → τ) (hp : Silent I a p) (hq : Keeps I q) (hs : I s) :
    Serial obs p q s := by
  intro r hr
  left
  rw [hp.par hr hq hs, seqLR, hp.run hs]

/-- No section of the program changes the observation `b`. -/
def Preserves (I : σ → Prop) {γ : Type} (b : σ → γ) : Prog σ β → Prop :=
  Each I (fun v _ => ∀ s, I s → b (v s) = b s)

/-- At most one section on any path changes it. -/
def SwitchesOnce (I : σ → Prop) {γ : Type} (b : σ → γ) : Prog σ β → Prop
  | .ret _ => True
  | .step v l =>
    ((∀ s, I s → b (v s) = b s) ∧ ∀ s, I s → SwitchesOnce I b (l s))
      ∨ ∀ s, I s → Preserves I b (l s)

section Switch

variable {I : σ → Prop} {b : σ → γ}

theorem Preserves.run (h : Preserves I b q) (hq : Keeps I q) (hs : I s) : b (q.run s).2 = b s := by
  induction q generalizing s with
  | ret c => rfl
  | step v l ih =>
    rw [run_step, ih s (h.2 s hs) (hq.2 s hs) (hq.1 s hs)]
    exact h.1 s hs

theorem Preserves.switchesOnce (h : Preserves I b q) : SwitchesOnce I b q := by
  induction q with
  | ret c => trivial
  | step v l ih => exact Or.inl ⟨h.1, fun s hs => ih s (h.2 s hs)⟩

theorem SwitchesOnce.read {δ : Type} {f : σ → δ} {g : δ → Prog σ α}
    (h : ∀ s, I s → SwitchesOnce I b (g (f s))) : SwitchesOnce I b (Prog.read f >>= g) :=
  Or.inl ⟨fun _ _ => rfl, h⟩

theorem SwitchesOnce.atomic {δ : Type} {f : σ → δ × σ} {g : δ → Prog σ α}
    (hf : ∀ s, I s → b (f s).2 = b s) (h : ∀ s, I s → SwitchesOnce I b (g (f s).1)) :
    SwitchesOnce I b (Prog.atomic f >>= g) := Or.inl ⟨hf, h⟩

/-- The section that switches, with nothing after it that does. -/
theorem SwitchesOnce.switch {δ : Type} {f : σ → δ × σ} {g : δ → Prog σ α}
    (h : ∀ s, I s → Preserves I b (g (f s).1)) : SwitchesOnce I b (Prog.atomic f >>= g) := Or.inr h

theorem SwitchesOnce.bind {f : α → Prog σ β} (hp : SwitchesOnce I b p)
    (hf : ∀ a, Preserves I b (f a)) : SwitchesOnce I b (p >>= f) := by
  induction p with
  | ret a => exact (hf a).switchesOnce
  | step u k ih =>
    rcases hp with ⟨hsame, hrest⟩ | hconst
    · exact Or.inl ⟨hsame, fun s hs => ih s (hrest s hs)⟩
    · exact Or.inr fun s hs => (hconst s hs).bind hf

end Switch

/-- **A reader is serial beside a program that switches once.** The program's first section looks at
`b` and decides the result; wherever it falls, it sees the value from before the other program or
the value from after it. -/
theorem serial_of_reader {b : σ → γ} (obs : σ → τ) (res : γ → α)
    (hk : ∀ s, I s → Silent I (res (b s)) (k s)) (hq : Keeps I q) (hb : SwitchesOnce I b q)
    (hs : I s) : Serial obs (.step id k) q s := by
  have hrun : ∀ s, I s → (Prog.step id k).run s = (res (b s), s) := fun s hs => (hk s hs).run hs
  have hfinal : ∀ (q : Prog σ β) {s : σ}, Keeps I q → I s → I (q.run s).2 := by
    intro q
    induction q with
    | ret c => exact fun _ hs => hs
    | step v l ih => exact fun hq hs => ih _ (hq.2 _ hs) (hq.1 _ hs)
  -- the result of the reader is one of two, and the other program runs as if alone
  have key : ∀ {p : Prog σ α} {q : Prog σ β} {s : σ} {r : α × β × σ}, Par p q s r →
      p = .step id k → Keeps I q → SwitchesOnce I b q → I s →
        r = (res (b s), q.run s) ∨ r = (res (b (q.run s).2), q.run s) := by
    intro p q s r h
    induction h with
    | done a c s => exact fun hp => absurd hp (by simp)
    | @left u k' q s r hpar _ =>
      intro hp hq _ hs
      obtain ⟨rfl, rfl⟩ := Prog.step.inj hp
      exact Or.inl ((hk s hs).par hpar hq hs)
    | @right p v l s r _ ih =>
      intro hp hq hb hs
      have hvs := hq.1 s hs
      rcases hb with ⟨hsame, hrest⟩ | hconst
      · rcases ih hp (hq.2 s hs) (hrest s hs) hvs with h' | h'
        · rw [hsame s hs] at h'
          exact Or.inl h'
        · exact Or.inr h'
      · have heq := (hconst s hs).run (hq.2 s hs) hvs
        rcases ih hp (hq.2 s hs) (hconst s hs).switchesOnce hvs with h' | h'
        · rw [← heq] at h'
          exact Or.inr h'
        · exact Or.inr h'
  intro r hr
  rcases key hr rfl hq hb hs with h' | h'
  · left
    rw [h', seqLR, hrun s hs]
  · right
    rw [h', seqRL, hrun _ (hfinal q hq hs)]

/-! ## One outcome -/

/-- Both orders are interleavings, so if all interleavings look the same they look like them. -/
theorem serial_of_forall {obs : σ → τ} {x : α × β × τ} (h : ∀ r, Par p q s r → observe obs r = x) :
    Serial obs p q s :=
  fun r hr => Or.inl ((h r hr).trans (h _ (par_seqLR p q s)).symm)

/-! ## Rely and guarantee -/

section Rely

variable {R G : σ → σ → Prop} {post : α → σ → Prop} {post' : β → σ → Prop}

/-- From `s` on, whatever others do between the sections within `R`, every section stays within `G`,
and the result satisfies `post` however long one waits. -/
def Safe (R G : σ → σ → Prop) (post : α → σ → Prop) : Prog σ α → σ → Prop
  | .ret a, s => ∀ s', R s s' → post a s'
  | .step u k, s => ∀ s', R s s' → G s' (u s') ∧ Safe R G post (k s') (u s')

theorem Safe.stable [IsTrans σ R] {s s' : σ} (h : Safe R G post p s) (hs : R s s') :
    Safe R G post p s' := by
  cases p with
  | ret a => exact fun s'' hs' => h s'' (IsTrans.trans _ _ _ hs hs')
  | step u k => exact fun s'' hs' => h s'' (IsTrans.trans _ _ _ hs hs')

/-- **Programs that rely on each other's guarantee keep their promises.** -/
theorem Par.safe [IsPreorder σ R] [IsPreorder σ G] (h : Par p q s r) (hp : Safe R G post p s)
    (hq : Safe G R post' q s) : post r.1 r.2.2 ∧ post' r.2.1 r.2.2 := by
  induction h with
  | done a b s => exact ⟨hp s (refl s), hq s (refl s)⟩
  | left _ ih =>
    obtain ⟨hu, hk⟩ := hp _ (refl _)
    exact ih hk (hq.stable hu)
  | right _ ih =>
    obtain ⟨hv, hl⟩ := hq _ (refl _)
    exact ih (hp.stable hv) hl

theorem Safe.read [IsPreorder σ G] (h : ∀ s', R s s' → Safe R G post (g (f s')) s') :
    Safe R G post (Prog.read f >>= g) s :=
  fun s' hs => ⟨refl s', h s' hs⟩

theorem Safe.atomic {f : σ → γ × σ}
    (h : ∀ s', R s s' → G s' (f s').2 ∧ Safe R G post (g (f s').1) (f s').2) :
    Safe R G post (Prog.atomic f >>= g) s := h

theorem Safe.bind [IsPreorder σ R] {f : α → Prog σ β} (h : Safe R G post p s)
    (hf : ∀ a s, post a s → Safe R G post' (f a) s) : Safe R G post' (p >>= f) s := by
  induction p generalizing s with
  | ret a => exact hf a s (h s (refl s))
  | step u k ih =>
    intro s' hs
    obtain ⟨hu, hk⟩ := h s' hs
    exact ⟨hu, ih s' hk⟩

end Rely

/-! ## Movers -/

section Movers

variable (I : σ → Prop)

/-- Two sections commute, and neither changes what the other's program does next. -/
def Commute (u : σ → σ) (k : σ → Prog σ α) (v : σ → σ) (l : σ → Prog σ β) : Prop :=
  ∀ s, I s → u (v s) = v (u s) ∧ k (v s) = k s ∧ l (u s) = l s

/-- Every section of `p` commutes with every section of `q`. -/
def Independent (p : Prog σ α) (q : Prog σ β) : Prop :=
  Each I (fun u k => Each I (fun v l => Commute I u k v l) q) p

/-- On every path `p` has at most one section that is not a mover for `q`. -/
def OnePivot (q : Prog σ β) : Prog σ α → Prop
  | .ret _ => True
  | .step u k =>
    (Each I (fun v l => Commute I u k v l) q ∧ ∀ s, I s → OnePivot q (k s))
      ∨ ∀ s, I s → Independent I (k s) q

variable {I}

theorem Commute.symm {u : σ → σ} {v : σ → σ} {l : σ → Prog σ β} (h : Commute I u k v l) :
    Commute I v l u k := by
  intro s hs
  obtain ⟨h1, h2, h3⟩ := h s hs
  exact ⟨h1.symm, h3, h2⟩

theorem Each.mono {P Q : (σ → σ) → (σ → Prog σ α) → Prop} (h : ∀ u k, P u k → Q u k) :
    ∀ {p : Prog σ α}, Each I P p → Each I Q p
  | .ret _, _ => trivial
  | .step _ _, hp => ⟨h _ _ hp.1, fun s hs => Each.mono h (hp.2 s hs)⟩

theorem Each.intro (h : ∀ u k, P u k) :
    ∀ p : Prog σ α, Each I P p
  | .ret _ => trivial
  | .step u k => ⟨h u k, fun s _ => Each.intro h (k s)⟩

/-- Quantifying over the sections of two programs may be done in either order. -/
theorem Each.swap {R : (σ → σ) → (σ → Prog σ α) → (σ → σ) → (σ → Prog σ β) → Prop} :
    ∀ {q : Prog σ β}, Each I (fun u k => Each I (fun v l => R u k v l) q) p →
      Each I (fun v l => Each I (fun u k => R u k v l) p) q
  | .ret _, _ => trivial
  | .step _ _, h =>
    ⟨Each.mono (fun _ _ hq => hq.1) h,
      fun s hs => Each.swap (Each.mono (fun _ _ hq => hq.2 s hs) h)⟩

theorem Independent.symm (h : Independent I p q) : Independent I q p :=
  Each.mono (fun _ _ hq => Each.mono (fun _ _ hc => hc.symm) hq) (Each.swap h)

/-- A mover slides past a whole run of the other program. -/
theorem run_mover {u : σ → σ} (hI : Keeps I q) (h : Each I (fun v l => Commute I u k v l) q)
    (hs : I s) : q.run (u s) = ((q.run s).1, u (q.run s).2) ∧ k (q.run s).2 = k s := by
  induction q generalizing s with
  | ret b => exact ⟨rfl, rfl⟩
  | step v l ih =>
    obtain ⟨h1, h2, h3⟩ := h.1 s hs
    obtain ⟨ih1, ih2⟩ := ih s (hI.2 s hs) (h.2 s hs) (hI.1 s hs)
    refine ⟨?_, ?_⟩
    · rw [run_step, run_step, h3, ← h1]
      exact ih1
    · rw [run_step, ih2, h2]

/-- Independent programs: every interleaving ends as the first one first does. -/
theorem eq_seqLR_of_independent (h : Par p q s r) (hp : Keeps I p) (hq : Keeps I q)
    (hpq : Independent I p q) (hs : I s) : r = seqLR p q s := by
  induction h with
  | done a b s => rfl
  | left _ ih => exact ih (hp.2 _ hs) hq (hpq.2 _ hs) (hp.1 _ hs)
  | @right p v l s r _ ih =>
    have hqp := hpq.symm
    have hrest : Independent I (l s) p := hqp.2 s hs
    rw [ih hp (hq.2 _ hs) hrest.symm (hq.1 _ hs)]
    obtain ⟨h1, h2⟩ := run_mover hp hqp.1 hs
    show (_, _, _) = (_, _, _)
    rw [h1, run_step, h2]

/-- **One pivot each makes every interleaving serial.** Movers slide to their own program's end of
the schedule; the order of the pivots is the order of the calls. -/
theorem serial_of_onePivot (h : Par p q s r) (hp : Keeps I p) (hq : Keeps I q)
    (hpq : OnePivot I q p) (hqp : OnePivot I p q) (hs : I s) :
    r = seqLR p q s ∨ r = seqRL p q s := by
  -- a step of the other program only shrinks what its sections are quantified over
  have shrink : ∀ {γ δ : Type} {v : σ → σ} {l : σ → Prog σ γ} (p : Prog σ δ) {s : σ}, I s →
      OnePivot I (.step v l) p → OnePivot I (l s) p := by
    intro γ δ v l p
    induction p with
    | ret _ => intro _ _ _; trivial
    | step u k ih =>
      intro s hs hone
      rcases hone with ⟨h1, h2⟩ | h1
      · exact Or.inl ⟨h1.2 s hs, fun s' hs' => ih s' hs (h2 s' hs')⟩
      · right
        intro s' hs'
        have hrest : Independent I (l s) (k s') := (h1 s' hs').symm.2 s hs
        exact hrest.symm
  induction h with
  | done a b s => exact Or.inl rfl
  | @left u k q s r hpar ih =>
    rcases hpq with ⟨hmov, hrest⟩ | hind
    · rcases ih (hp.2 _ hs) hq (hrest _ hs) (shrink q hs hqp) (hp.1 _ hs) with h' | h'
      · exact Or.inl h'
      · right
        obtain ⟨h1, h2⟩ := run_mover hq hmov hs
        rw [h']
        show (_, _, _) = (_, _, _)
        rw [h1, run_step, h2]
    · left
      have h' : r = seqLR (k s) q (u s) :=
        eq_seqLR_of_independent hpar (hp.2 _ hs) hq (hind _ hs) (hp.1 _ hs)
      exact h'
  | @right p v l s r hpar ih =>
    rcases hqp with ⟨hmov, hrest⟩ | hind
    · rcases ih hp (hq.2 _ hs) (shrink p hs hpq) (hrest _ hs) (hq.1 _ hs) with h' | h'
      · left
        obtain ⟨h1, h2⟩ := run_mover hp hmov hs
        rw [h']
        show (_, _, _) = (_, _, _)
        rw [h1, run_step, h2]
      · exact Or.inr h'
    · right
      have h' := eq_seqLR_of_independent hpar.symm (hq.2 _ hs) hp (hind _ hs) (hq.1 _ hs)
      have h1 : r.2.1 = ((l s).run (v s)).1 := congrArg (fun z => z.1) h'
      have h2 : r.1 = (p.run ((l s).run (v s)).2).1 := congrArg (fun z => z.2.1) h'
      have h3 : r.2.2 = (p.run ((l s).run (v s)).2).2 := congrArg (fun z => z.2.2) h'
      show r = (_, _, _)
      rw [run_step, ← h1, ← h2, ← h3]

end Movers

end Atomic
