import Mathlib.Data.DFinsupp.WellFounded
import Mathlib.Logic.Relation

/-!
# Threads that take locks

Data that several threads share is cut into parts, one for each lock, and a program (`Proc`) takes
locks, gives them back, and looks at one part at a time. Run alone, a program is a function (`run`).
Several of them side by side make a system (`Config`, `Step`): a lock that is held by someone cannot
be taken.

A program is *ordered* when it takes locks in the order of their ranks, gives back the one it took
last, and looks at a part only while it holds its lock. A system of ordered programs never has two
threads at the same part (`Sound.exclusive`), some thread can always go on until all have ended
(`Sound.progress`), and no run goes on for ever (`wellFounded_step`).
-/

namespace Locks

variable {L : Type} {Part : L → Type} {α β : Type}

/-- A program: its result, or one action and what follows. What follows an access may depend on the
data found. -/
inductive Proc (Part : L → Type) (α : Type) : Type where
  | ret (a : α)
  | acquire (l : L) (next : Proc Part α)
  | release (l : L) (next : Proc Part α)
  | access (l : L) (upd : Part l → Part l) (next : Part l → Proc Part α)

namespace Proc

/-- Sequential composition. -/
def bind : Proc Part α → (α → Proc Part β) → Proc Part β
  | .ret a, f => f a
  | .acquire l k, f => .acquire l (k.bind f)
  | .release l k, f => .release l (k.bind f)
  | .access l u k, f => .access l u fun x => (k x).bind f

instance : Monad (Proc Part) where
  pure := .ret
  bind := .bind

/-- Look at a part. -/
def read (l : L) (f : Part l → α) : Proc Part α := .access l id fun x => .ret (f x)

/-- Change a part. -/
def modify (l : L) (f : Part l → Part l) : Proc Part Unit := .access l f fun _ => .ret ()

/-- Change a part and return something. -/
def update (l : L) (f : Part l → α × Part l) : Proc Part α :=
  .access l (fun x => (f x).2) fun x => .ret (f x).1

/-- A block under a lock, which is given back however the block ends. -/
def guarded (l : L) (p : Proc Part α) : Proc Part α :=
  .acquire l (p.bind fun a => .release l (.ret a))

section Run

variable [DecidableEq L]

/-- Run alone, to the end. -/
def run : Proc Part α → (∀ l, Part l) → α × ∀ l, Part l
  | .ret a, m => (a, m)
  | .acquire _ k, m => k.run m
  | .release _ k, m => k.run m
  | .access l u k, m => (k (m l)).run (Function.update m l (u (m l)))

@[simp] theorem run_pure (a : α) (m : ∀ l, Part l) : (pure a : Proc Part α).run m = (a, m) := rfl

@[simp] theorem run_bind (p : Proc Part α) (f : α → Proc Part β) (m : ∀ l, Part l) :
    (p >>= f).run m = (f (p.run m).1).run (p.run m).2 := by
  show (p.bind f).run m = _
  induction p generalizing m with
  | ret a => rfl
  | acquire l k ih => exact ih m
  | release l k ih => exact ih m
  | access l u k ih => exact ih (m l) _

@[simp] theorem run_read (l : L) (f : Part l → α) (m : ∀ l, Part l) :
    (read l f).run m = (f (m l), m) := by
  show (f (m l), Function.update m l (id (m l))) = _
  rw [id, Function.update_eq_self]

@[simp] theorem run_modify (l : L) (f : Part l → Part l) (m : ∀ l, Part l) :
    (modify l f).run m = ((), Function.update m l (f (m l))) := rfl

@[simp] theorem run_update (l : L) (f : Part l → α × Part l) (m : ∀ l, Part l) :
    (update l f).run m = ((f (m l)).1, Function.update m l (f (m l)).2) := rfl

@[simp] theorem run_guarded (l : L) (p : Proc Part α) (m : ∀ l, Part l) :
    (guarded l p).run m = p.run m := by
  show (p >>= fun a => (Proc.release l (.ret a) : Proc Part α)).run m = _
  rw [run_bind]
  rfl

end Run

/-! ## Ordered programs -/

/-- Holding `held`, the lock taken last in front, the program takes locks of rising rank only, gives
back the one it took last, looks at a part only under its lock, and ends holding `left`. -/
def Ordered (rank : L → Nat) (left : List L) : List L → Proc Part α → Prop
  | held, .ret _ => held = left
  | held, .acquire l k => (∀ l' ∈ held, rank l' < rank l) ∧ Ordered rank left (l :: held) k
  | held, .release l k => ∃ rest, held = l :: rest ∧ Ordered rank left rest k
  | held, .access l _ k => l ∈ held ∧ ∀ x, Ordered rank left held (k x)

variable {rank : L → Nat} {held left mid : List L}

theorem Ordered.pure (a : α) : Ordered rank held held (pure a : Proc Part α) := rfl

theorem Ordered.bind {p : Proc Part α} {f : α → Proc Part β} (hp : Ordered rank mid held p)
    (hf : ∀ a, Ordered rank left mid (f a)) : Ordered rank left held (p >>= f) := by
  show Ordered rank left held (p.bind f)
  induction p generalizing held with
  | ret a =>
    have hheld : held = mid := hp
    rw [hheld]
    exact hf a
  | acquire l k ih => exact ⟨hp.1, ih hp.2⟩
  | release l k ih =>
    obtain ⟨rest, hheld, hk⟩ := hp
    exact ⟨rest, hheld, ih hk⟩
  | access l u k ih => exact ⟨hp.1, fun x => ih x (hp.2 x)⟩

theorem Ordered.read {l : L} (f : Part l → α) (hl : l ∈ held) :
    Ordered rank held held (read l f) := ⟨hl, fun _ => rfl⟩

theorem Ordered.modify {l : L} (f : Part l → Part l) (hl : l ∈ held) :
    Ordered rank held held (modify l f) := ⟨hl, fun _ => rfl⟩

theorem Ordered.update {l : L} (f : Part l → α × Part l) (hl : l ∈ held) :
    Ordered rank held held (update l f) := ⟨hl, fun _ => rfl⟩

theorem Ordered.guarded {l : L} {p : Proc Part α} (hl : ∀ l' ∈ held, rank l' < rank l)
    (hp : Ordered rank (l :: held) (l :: held) p) : Ordered rank held held (guarded l p) :=
  ⟨hl, Ordered.bind hp fun _ => ⟨held, rfl, rfl⟩⟩

end Proc

open Proc

/-! ## Systems -/

variable {ι : Type}

/-- A system: what each thread has left to do, the locks it holds, and the data. -/
structure Config (Part : L → Type) (α ι : Type) where
  proc : ι → Proc Part α
  held : ι → List L
  mem : ∀ l, Part l

namespace Config

/-- Nobody holds the lock. -/
def Free (c : Config Part α ι) (l : L) : Prop := ∀ i, l ∉ c.held i

/-- The thread has ended. -/
def Ended (c : Config Part α ι) (i : ι) : Prop := ∃ a, c.proc i = .ret a

/-- The next action of the thread is at the part of `l`. -/
def At (c : Config Part α ι) (i : ι) (l : L) : Prop := ∃ u k, c.proc i = .access l u k

/-- Programs before their first action. -/
def start (proc : ι → Proc Part α) (mem : ∀ l, Part l) : Config Part α ι := ⟨proc, fun _ => [], mem⟩

end Config

variable [DecidableEq L] [DecidableEq ι]

/-- One action of one thread. -/
inductive Step : Config Part α ι → Config Part α ι → Prop where
  | acquire {c : Config Part α ι} (i : ι) {l : L} {k : Proc Part α} (hp : c.proc i = .acquire l k)
      (hl : c.Free l) :
      Step c ⟨Function.update c.proc i k, Function.update c.held i (l :: c.held i), c.mem⟩
  | release {c : Config Part α ι} (i : ι) {l : L} {k : Proc Part α} (hp : c.proc i = .release l k) :
      Step c ⟨Function.update c.proc i k, Function.update c.held i ((c.held i).erase l), c.mem⟩
  | access {c : Config Part α ι} (i : ι) {l : L} {u : Part l → Part l} {k : Part l → Proc Part α}
      (hp : c.proc i = .access l u k) :
      Step c ⟨Function.update c.proc i (k (c.mem l)), c.held,
        Function.update c.mem l (u (c.mem l))⟩

/-- Some actions, one after another. -/
abbrev Steps : Config Part α ι → Config Part α ι → Prop := Relation.ReflTransGen Step

/-! ## Every run ends -/

/-- What is left of a program after one action. -/
inductive Rest : Proc Part α → Proc Part α → Prop where
  | acquire (l : L) (k : Proc Part α) : Rest k (.acquire l k)
  | release (l : L) (k : Proc Part α) : Rest k (.release l k)
  | access (l : L) (u : Part l → Part l) (k : Part l → Proc Part α) (x : Part l) :
      Rest (k x) (.access l u k)

omit [DecidableEq L] in
theorem wellFounded_rest : WellFounded (Rest : Proc Part α → Proc Part α → Prop) := by
  refine ⟨fun p => ?_⟩
  induction p with
  | ret a => exact ⟨_, fun q h => by cases h⟩
  | acquire l k ih => exact ⟨_, fun q h => by cases h with | acquire => exact ih⟩
  | release l k ih => exact ⟨_, fun q h => by cases h with | release => exact ih⟩
  | access l u k ih => exact ⟨_, fun q h => by cases h with | access _ _ _ x => exact ih x⟩

theorem Step.exists_rest {c c' : Config Part α ι} (h : Step c c') :
    ∃ i, Rest (c'.proc i) (c.proc i) ∧ ∀ j, j ≠ i → c'.proc j = c.proc j := by
  cases h with
  | @acquire i l k hp hl =>
    refine ⟨i, ?_, fun j hj => Function.update_of_ne hj _ _⟩
    simpa only [Function.update_self, hp] using Rest.acquire l k
  | @release i l k hp =>
    refine ⟨i, ?_, fun j hj => Function.update_of_ne hj _ _⟩
    simpa only [Function.update_self, hp] using Rest.release l k
  | @access i l u k hp =>
    refine ⟨i, ?_, fun j hj => Function.update_of_ne hj _ _⟩
    simpa only [Function.update_self, hp] using Rest.access l u k (c.mem l)

/-- **No run goes on for ever**: each action leaves less to do to one of finitely many threads, and
nothing more to the others. -/
theorem wellFounded_step [Finite ι] :
    WellFounded fun c' c : Config Part α ι => Step c c' := by
  have hlex := Pi.Lex.wellFounded (WellOrderingRel : ι → ι → Prop)
    fun _ : ι => (wellFounded_rest : WellFounded (Rest : Proc Part α → Proc Part α → Prop))
  refine Subrelation.wf (fun {c' c} h => ?_) (InvImage.wf (fun c => c.proc) hlex)
  obtain ⟨i, hi, hother⟩ := Step.exists_rest h
  refine ⟨i, fun j hj => hother j ?_, hi⟩
  rintro rfl
  exact irrefl_of WellOrderingRel j hj

/-! ## Systems of ordered programs -/

/-- Every thread is at some point of an ordered program that ends without locks, and no lock has two
holders. -/
structure Sound (rank : L → Nat) (c : Config Part α ι) : Prop where
  ordered : ∀ i, Ordered rank [] (c.held i) (c.proc i)
  oneHolder : ∀ i j l, l ∈ c.held i → l ∈ c.held j → i = j

variable {rank : L → Nat} {c c' : Config Part α ι}

omit [DecidableEq L] [DecidableEq ι] in
theorem Sound.start {proc : ι → Proc Part α} (h : ∀ i, Ordered rank [] [] (proc i))
    (mem : ∀ l, Part l) : Sound rank (Config.start proc mem) :=
  ⟨h, fun _ _ _ hi => absurd hi List.not_mem_nil⟩

theorem Sound.step (h : Sound rank c) (hstep : Step c c') : Sound rank c' := by
  cases hstep with
  | @acquire i l k hp hl =>
    have hi := h.ordered i
    rw [hp] at hi
    refine ⟨fun j => ?_, fun j j' l' hj hj' => ?_⟩
    · by_cases hji : j = i
      · subst hji
        simpa only [Function.update_self] using hi.2
      · simpa only [Function.update_of_ne hji] using h.ordered j
    · -- the lock that was taken was free, the others have the holders they had
      have hold : ∀ j, l' ∈ Function.update c.held i (l :: c.held i) j →
          l' ∈ c.held j ∨ (j = i ∧ l' = l) := by
        intro j hj
        by_cases hji : j = i
        · subst hji
          rw [Function.update_self, List.mem_cons] at hj
          exact hj.symm.imp_right fun e => ⟨rfl, e⟩
        · rw [Function.update_of_ne hji] at hj
          exact Or.inl hj
      rcases hold j hj with hj | ⟨hji, hll⟩
      · rcases hold j' hj' with hj' | ⟨-, hll⟩
        · exact h.oneHolder j j' l' hj hj'
        · exact absurd (hll ▸ hj) (hl j)
      · rcases hold j' hj' with hj' | ⟨hji', -⟩
        · exact absurd (hll ▸ hj') (hl j')
        · rw [hji, hji']
  | @release i l k hp =>
    have hi := h.ordered i
    rw [hp] at hi
    obtain ⟨rest, hheld, hk⟩ := hi
    refine ⟨fun j => ?_, fun j j' l' hj hj' => ?_⟩
    · by_cases hji : j = i
      · subst hji
        simpa only [Function.update_self, hheld, List.erase_cons_head] using hk
      · simpa only [Function.update_of_ne hji] using h.ordered j
    · have hold : ∀ j, l' ∈ Function.update c.held i ((c.held i).erase l) j → l' ∈ c.held j := by
        intro j hj
        by_cases hji : j = i
        · subst hji
          rw [Function.update_self] at hj
          exact List.mem_of_mem_erase hj
        · rwa [Function.update_of_ne hji] at hj
      exact h.oneHolder j j' l' (hold j hj) (hold j' hj')
  | @access i l u k hp =>
    have hi := h.ordered i
    rw [hp] at hi
    refine ⟨fun j => ?_, h.oneHolder⟩
    by_cases hji : j = i
    · subst hji
      simpa only [Function.update_self] using hi.2 (c.mem l)
    · simpa only [Function.update_of_ne hji] using h.ordered j

theorem Sound.steps (h : Sound rank c) (hsteps : Steps c c') : Sound rank c' := by
  induction hsteps with
  | refl => exact h
  | tail _ hstep ih => exact ih.step hstep

omit [DecidableEq L] [DecidableEq ι] in
/-- **No race.** Two threads are never at the same part. -/
theorem Sound.exclusive (h : Sound rank c) {i j : ι} {l : L} (hi : c.At i l) (hj : c.At j l) :
    i = j := by
  have hheld : ∀ {i}, c.At i l → l ∈ c.held i := by
    rintro i ⟨u, k, hp⟩
    have ho := h.ordered i
    rw [hp] at ho
    exact ho.1
  exact h.oneHolder i j l (hheld hi) (hheld hj)

omit [DecidableEq L] [DecidableEq ι] in
theorem Sound.held_of_ended (h : Sound rank c) {i : ι} (hi : c.Ended i) : c.held i = [] := by
  obtain ⟨a, ha⟩ := hi
  have ho := h.ordered i
  rw [ha] at ho
  exact ho

/-- A thread that can do nothing although it has not ended waits for a lock that someone holds. -/
theorem waits_of_stuck (hstuck : ∀ c', ¬ Step c c') {i : ι} (hi : ¬ c.Ended i) :
    ∃ l k j, c.proc i = .acquire l k ∧ l ∈ c.held j := by
  cases hp : c.proc i with
  | ret a => exact absurd ⟨a, hp⟩ hi
  | acquire l k =>
    by_contra hfree
    refine hstuck _ (Step.acquire i hp fun j hj => hfree ⟨l, k, j, rfl, hj⟩)
  | release l k => exact absurd (Step.release i hp) (hstuck _)
  | access l u k => exact absurd (Step.access i hp) (hstuck _)

/-- **No deadlock.** As long as a thread has not ended, some thread can go on: of the threads that
wait, look at one that waits for a lock of the highest rank. Its holder waits for a higher one. -/
theorem Sound.progress [Finite ι] (h : Sound rank c) {i : ι} (hi : ¬ c.Ended i) :
    ∃ c', Step c c' := by
  by_contra hnone
  have hstuck : ∀ c', ¬ Step c c' := fun c' hs => hnone ⟨c', hs⟩
  have := Fintype.ofFinite ι
  classical
  -- the rank of the lock a thread waits for
  let awaited : ι → Nat := fun i =>
    match c.proc i with
    | .acquire l _ => rank l
    | _ => 0
  have hawaited : ∀ {i l k}, c.proc i = .acquire l k → awaited i = rank l := by
    intro i l k hp
    simp only [awaited, hp]
  obtain ⟨j, hj, hmax⟩ := (Finset.univ.filter fun i => ¬ c.Ended i).exists_max_image awaited
    ⟨i, Finset.mem_filter.mpr ⟨Finset.mem_univ i, hi⟩⟩
  obtain ⟨l, k, j', hp, hj'⟩ := waits_of_stuck hstuck (Finset.mem_filter.mp hj).2
  have hend : ¬ c.Ended j' := by
    intro hend
    rw [h.held_of_ended hend] at hj'
    exact List.not_mem_nil hj'
  obtain ⟨l', k', -, hp', -⟩ := waits_of_stuck hstuck hend
  have hlt : rank l < rank l' := by
    have ho := h.ordered j'
    rw [hp'] at ho
    exact ho.1 l hj'
  have hle := hmax j' (Finset.mem_filter.mpr ⟨Finset.mem_univ j', hend⟩)
  rw [hawaited hp, hawaited hp'] at hle
  omega

/-- So a run that cannot be continued has brought every thread to its end. -/
theorem Sound.ended_of_stuck [Finite ι] (h : Sound rank c) (hstuck : ∀ c', ¬ Step c c') (i : ι) :
    c.Ended i := by
  by_contra hi
  obtain ⟨c', hstep⟩ := h.progress hi
  exact hstuck c' hstep

end Locks
