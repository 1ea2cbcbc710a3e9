import Rdc.WorkerLoop
import Rdc.Lib.Fair
import Rdc.Proof.PcieCache

/-!
# No task is forgotten

A task is pushed under the lock. So a worker that is about to block has seen the queue empty and
nobody can have pushed since; a worker that is blocked while there are tasks has a caller on its way
to `notify_all` (`LoopInv`). Therefore every task is taken at some time, whatever the other threads
do (`task_eventually_taken`).

What a step of the worker can be is said once (`Move`), and the invariant and the ranks follow from
that. On the cache, each step of the loop is a step of the machine in `PcieCache` or nothing at all
(`workerLoop_refines`).
-/

namespace Rdc.Proof.Worker

open Machine WorkerLoop

/-! ## What single steps do -/

/-- A request does nothing, or pushes its task without the lock being held. -/
theorem request_cases (s : WorkerLoop) (gpu : Nat) (field : PcieField) (now : Nat) :
    s.request gpu field now = s
      ∨ s.pc.holdsLock = false ∧ s.destructor = .notStarted
        ∧ s.request gpu field now
          = { s with
              cache := { s.cache with
                fetcher := { s.cache.fetcher with updatedTasks := s.tasks ++ [(gpu, field.id)] } }
              notifying := s.notifying + 1 } := by
  unfold WorkerLoop.request
  split
  · exact Or.inl rfl
  · rename_i hfree
    rw [Bool.or_eq_true, not_or, decide_eq_true_eq, not_not, Bool.not_eq_true] at hfree
    have hexec : s.cache.exec (.request gpu field now)
        = ((s.cache.fetcher.asyncGetPcieThroughput (gpu, field.id) now).1,
          { s.cache with
            fetcher := (s.cache.fetcher.asyncGetPcieThroughput (gpu, field.id) now).2 }) := rfl
    rw [hexec, MetricFetcher.asyncGetPcieThroughput]
    cases s.cache.fetcher.unexpired (gpu, field.id) now with
    | some metric => exact Or.inl rfl
    | none => exact Or.inr ⟨hfree.1, hfree.2, rfl⟩

/-- How many steps of its task the worker has left. -/
def stepsLeft : PcieWorker → Nat
  | .waiting => 0
  | .stamped _ _ => 1
  | .called _ => 2
  | .cleared _ => 3
  | .taken _ => 4

/-- A step inside a task brings the worker nearer to its end, and leaves the queue alone. -/
theorem next_stepsLeft (c : PcieCache) (input : WorkerInput) (h : c.worker ≠ .waiting) :
    stepsLeft (c.exec (c.worker.next input)).2.worker < stepsLeft c.worker
      ∧ (c.exec (c.worker.next input)).2.fetcher.updatedTasks = c.fetcher.updatedTasks := by
  obtain ⟨fetcher, w, calls⟩ := c
  cases w with
  | waiting => exact absurd rfl h
  | taken key =>
    refine ⟨?_, rfl⟩
    show stepsLeft (if _ then _ else _) < 4
    split
    · exact Nat.succ_pos 3
    · exact Nat.lt_succ_self 3
  | cleared key => exact ⟨Nat.lt_succ_self 2, rfl⟩
  | called call => exact ⟨Nat.lt_succ_self 1, rfl⟩
  | stamped call curTime => exact ⟨Nat.lt_succ_self 0, rfl⟩

/-- The calls into the library that the task at hand can still make. -/
def taskCallsLeft : PcieWorker → Nat
  | .taken _ | .cleared _ => 1
  | .waiting | .called _ | .stamped _ _ => 0

theorem next_calls (c : PcieCache) (input : WorkerInput) (h : c.worker ≠ .waiting) :
    (c.exec (c.worker.next input)).2.calls.length
        + taskCallsLeft (c.exec (c.worker.next input)).2.worker
      ≤ c.calls.length + taskCallsLeft c.worker := by
  obtain ⟨fetcher, w, calls⟩ := c
  cases w with
  | waiting => exact absurd rfl h
  | taken key =>
    show calls.length + taskCallsLeft (if _ then _ else _) ≤ calls.length + 1
    split
    · exact Nat.le_succ _
    · exact Nat.le_refl _
  | _ => exact Nat.le_refl _

/-! ## The invariant -/

/-- The worker is in a task when its place says so. It blocks only when the queue is empty, and is
blocked beside a task only while a caller is about to notify. -/
structure LoopInv (s : WorkerLoop) : Prop where
  worker : s.cache.worker = .waiting ↔ s.pc ≠ .task
  blocking : s.pc = .blocking → s.tasks = []
  blocked : s.pc = .blocked → s.tasks ≠ [] → 0 < s.notifying
  exited : s.pc = .exited → s.taskStarted = false
  started : s.taskStarted = true ↔ s.destructor = .notStarted
  quiet : s.destructor ≠ .notStarted → s.notifying = 0

/-- What a step of the worker can be. -/
inductive Move (s : WorkerLoop) : WorkerLoop → Prop where
  | enter (hpc : s.pc = .head) (hs : s.taskStarted = true) : Move s { s with pc := .locking }
  | leave (hpc : s.pc = .head) (hs : s.taskStarted = false) : Move s { s with pc := .exited }
  | lock (hpc : s.pc = .locking ∨ s.pc = .woken) : Move s { s with pc := .testing }
  | pass (hpc : s.pc = .testing) (hs : s.tasks ≠ [] ∨ s.taskStarted = false) :
      Move s { s with pc := .front }
  | fail (hpc : s.pc = .testing) (htasks : s.tasks = []) (hs : s.taskStarted = true) :
      Move s { s with pc := .blocking }
  | block (hpc : s.pc = .blocking) : Move s { s with pc := .blocked }
  | stay (hpc : s.pc = .blocked ∨ s.pc = .exited) : Move s s
  | again (hpc : s.pc = .front) (htasks : s.tasks = []) : Move s { s with pc := .head }
  | take (hpc : s.pc = .front) (key : RdcFieldKey) (rest : List RdcFieldKey)
      (htasks : s.tasks = key :: rest) :
      Move s { s with
        cache := { s.cache with
          fetcher := { s.cache.fetcher with updatedTasks := rest }, worker := .taken key }
        pc := .task }
  | work (hpc : s.pc = .task) (c : PcieCache) (htasks : c.fetcher.updatedTasks = s.tasks)
      (hleft : stepsLeft c.worker < stepsLeft s.cache.worker)
      (hcalls : c.calls.length + taskCallsLeft c.worker
        ≤ s.cache.calls.length + taskCallsLeft s.cache.worker) :
      Move s { s with cache := c, pc := if c.worker = .waiting then .head else .task }

variable {key : RdcFieldKey} {rest : List RdcFieldKey} {s : WorkerLoop} {op : LoopStep}

theorem take_eq {c : PcieCache} (hw : c.worker = .waiting)
    (htasks : c.fetcher.updatedTasks = key :: rest) :
    c.take = { c with
      fetcher := { c.fetcher with updatedTasks := rest }, worker := .taken key } := by
  unfold PcieCache.take
  rw [hw, htasks]

theorem LoopInv.move (h : LoopInv s) (input : WorkerInput) : Move s (s.worker input) := by
  unfold WorkerLoop.worker
  cases hpc : s.pc with
  | head =>
    dsimp only
    split
    · exact .enter hpc ‹_›
    · exact .leave hpc (Bool.eq_false_of_not_eq_true ‹_›)
  | locking => exact .lock (Or.inl hpc)
  | testing =>
    dsimp only
    split
    · rename_i hpred
      refine .pass hpc ?_
      simpa using hpred
    · rename_i hpred
      simp only [ne_eq, decide_not, Bool.or_eq_true, Bool.not_eq_true', decide_eq_false_iff_not,
        not_or, not_not, Bool.not_eq_false] at hpred
      exact .fail hpc hpred.1 hpred.2
  | blocking => exact .block hpc
  | blocked => exact .stay (Or.inl hpc)
  | woken => exact .lock (Or.inr hpc)
  | front =>
    have hw := h.worker.mpr (by rw [hpc]; decide)
    cases htasks : s.tasks with
    | nil => exact .again hpc htasks
    | cons key rest =>
      dsimp only
      rw [if_neg (List.cons_ne_nil key rest), take_eq hw htasks]
      exact .take hpc key rest htasks
  | task =>
    have hw : s.cache.worker ≠ .waiting := fun hw => h.worker.mp hw hpc
    have hleft := next_stepsLeft s.cache input hw
    exact .work hpc _ hleft.2 hleft.1 (next_calls s.cache input hw)
  | exited => exact .stay (Or.inr hpc)

theorem loopInv_init : LoopInv WorkerLoop.init := by
  constructor <;> decide

theorem notified_ne_blocked (pc : LoopPc) : pc.notified ≠ .blocked := by
  cases pc <;> decide

theorem notified_eq_iff {pc pc' : LoopPc} (h : pc' ≠ .blocked) (h' : pc' ≠ .woken) :
    pc.notified = pc' ↔ pc = pc' := by
  cases pc with
  | blocked => exact ⟨fun hw => absurd hw.symm h', fun hb => absurd hb.symm h⟩
  | _ => exact Iff.rfl

/-- A notification, whoever sends it, keeps the invariant. -/
theorem LoopInv.notified (h : LoopInv s) {n : Nat} {d : Destructor}
    (hd : d = .notStarted ↔ s.destructor = .notStarted) (hn : d ≠ .notStarted → n = 0) :
    LoopInv { s with pc := s.pc.notified, notifying := n, destructor := d } where
  worker := h.worker.trans (not_congr (notified_eq_iff (by decide) (by decide)).symm)
  blocking hpc := h.blocking ((notified_eq_iff (by decide) (by decide)).mp hpc)
  blocked hpc := absurd hpc (notified_ne_blocked s.pc)
  exited hpc := h.exited ((notified_eq_iff (by decide) (by decide)).mp hpc)
  started := h.started.trans hd.symm
  quiet := hn

theorem LoopInv.request (h : LoopInv s) (gpu : Nat) (field : PcieField) (now : Nat) :
    LoopInv (s.request gpu field now) := by
  obtain heq | ⟨hfree, hd, heq⟩ := request_cases s gpu field now
  · rw [heq]
    exact h
  · rw [heq]
    refine ⟨h.worker, fun hpc => ?_, fun _ _ => Nat.succ_pos _, h.exited, h.started,
      fun hne => absurd hd hne⟩
    -- a worker that is about to block has the lock
    rw [show s.pc = .blocking from hpc] at hfree
    exact absurd hfree (by decide)

theorem LoopInv.goto (h : LoopInv s) {pc : LoopPc} (hfrom : s.pc ≠ .task) (hto : pc ≠ .task)
    (hwait : pc = .blocking ∨ pc = .blocked → s.tasks = [])
    (hexit : pc = .exited → s.taskStarted = false) : LoopInv { s with pc := pc } where
  worker := h.worker.trans ⟨fun _ => hto, fun _ => hfrom⟩
  blocking hpc := hwait (Or.inl hpc)
  blocked hpc hne := absurd (hwait (Or.inr hpc)) hne
  exited := hexit
  started := h.started
  quiet := h.quiet

theorem LoopInv.of_move {s s' : WorkerLoop} (h : LoopInv s) (hmove : Move s s') : LoopInv s' := by
  cases hmove with
  | enter hpc hs => exact h.goto (by rw [hpc]; decide) (by decide) (by simp) (by simp)
  | leave hpc hs => exact h.goto (by rw [hpc]; decide) (by decide) (by simp) fun _ => hs
  | lock hpc =>
    have hfrom : s.pc ≠ .task := by
      rcases hpc with hpc | hpc
      · rw [hpc]
        decide
      · rw [hpc]
        decide
    exact h.goto hfrom (by decide) (by simp) (by simp)
  | pass hpc hs => exact h.goto (by rw [hpc]; decide) (by decide) (by simp) (by simp)
  | fail hpc htasks hs =>
    exact h.goto (by rw [hpc]; decide) (by decide) (fun _ => htasks) (by simp)
  | block hpc =>
    exact h.goto (by rw [hpc]; decide) (by decide) (fun _ => h.blocking hpc) (by simp)
  | stay hpc => exact h
  | again hpc htasks => exact h.goto (by rw [hpc]; decide) (by decide) (fun _ => htasks) (by simp)
  | take hpc key rest htasks =>
    exact ⟨⟨(nomatch ·), fun hne => absurd rfl hne⟩, (nomatch ·), (nomatch ·), (nomatch ·),
      h.started, h.quiet⟩
  | work hpc c htasks hleft hcalls =>
    by_cases hw : c.worker = .waiting
    · simp only [if_pos hw]
      exact ⟨⟨fun _ => (nomatch ·), fun _ => hw⟩, (nomatch ·), (nomatch ·), (nomatch ·),
        h.started, h.quiet⟩
    · simp only [if_neg hw]
      exact ⟨⟨fun hw' => absurd hw' hw, fun hne => absurd rfl hne⟩, (nomatch ·), (nomatch ·),
        (nomatch ·), h.started, h.quiet⟩

theorem LoopInv.destruct (h : LoopInv s) : LoopInv s.destruct := by
  unfold WorkerLoop.destruct
  cases hd : s.destructor with
  | notStarted =>
    dsimp only
    split
    · rename_i hn
      exact ⟨h.worker, h.blocking, h.blocked, fun _ => rfl, ⟨(nomatch ·), (nomatch ·)⟩,
        fun _ => hn⟩
    · exact h
  | flagged =>
    have hne : s.destructor ≠ .notStarted := by rw [hd]; decide
    exact h.notified ⟨(nomatch ·), fun h => absurd h hne⟩ fun _ => h.quiet hne
  | notified =>
    have hne : s.destructor ≠ .notStarted := by rw [hd]; decide
    exact ⟨h.worker, h.blocking, h.blocked, h.exited,
      h.started.trans ⟨fun h => absurd h hne, (nomatch ·)⟩, fun _ => h.quiet hne⟩
  | joining =>
    have hne : s.destructor ≠ .notStarted := by rw [hd]; decide
    dsimp only
    split
    · exact ⟨h.worker, h.blocking, h.blocked, h.exited,
        h.started.trans ⟨fun h => absurd h hne, (nomatch ·)⟩, fun _ => h.quiet hne⟩
    · exact h
  | gone => exact h

theorem LoopInv.step (h : LoopInv s) (op : LoopStep) : LoopInv (s.exec op).2 := by
  cases op with
  | request gpu field now => exact h.request gpu field now
  | notify =>
    show LoopInv s.notify
    unfold WorkerLoop.notify
    split
    · exact h
    · rename_i n hn
      refine h.notified Iff.rfl fun hne => ?_
      rw [h.quiet hne] at hn
      exact absurd hn (Nat.succ_ne_zero n).symm
  | worker input => exact h.of_move (h.move input)
  | spurious => exact h.notified Iff.rfl h.quiet
  | destruct => exact h.destruct

theorem loopInv_of_reachable (h : s.Reachable) : LoopInv s := by
  obtain ⟨steps, rfl⟩ := h
  exact run_invariant (fun s op hs => hs.step op) loopInv_init steps

/-! ## Every task is taken -/

/-- How many steps the worker is away from the front of a queue that is not empty. -/
def toFront (s : WorkerLoop) : Nat :=
  match s.pc with
  | .front => 1
  | .testing => 2
  | .locking | .woken => 3
  | .head | .blocked => 4
  | .task => 4 + stepsLeft s.cache.worker
  | .blocking | .exited => 0

/-- A blocked worker needs a caller that notifies. Otherwise the worker itself goes on. -/
def kindNeeded (blocked : Bool) (op : LoopStep) : Prop :=
  if blocked then op = .notify else op.isWorker = true

/-- These tasks are at the head of the queue, and the destructor has not started. -/
structure Queued (front : List RdcFieldKey) (s : WorkerLoop) : Prop where
  inv : LoopInv s
  alive : s.destructor = .notStarted
  tasks : front <+: s.tasks

theorem Queued.ne_nil (h : Queued (key :: rest) s) : s.tasks ≠ [] := by
  intro hnil
  have hprefix := h.tasks
  rw [hnil, List.prefix_nil] at hprefix
  exact absurd hprefix (List.cons_ne_nil key rest)

/-- The step changes nothing that matters to the front of the queue. -/
def Idle (s s' : WorkerLoop) : Prop :=
  toFront s' = toFront s ∧ decide (s'.pc = .blocked) = decide (s.pc = .blocked)

theorem Idle.of_eq {s s' : WorkerLoop} (hpc : s'.pc = s.pc)
    (hw : s'.cache.worker = s.cache.worker) : Idle s s' := by
  unfold Idle toFront
  rw [hpc, hw]
  exact ⟨rfl, rfl⟩

/-- A notification wakes a blocked worker, which is one step nearer then, and nobody else. -/
theorem toFront_notified (s s' : WorkerLoop) (hpc : s'.pc = s.pc.notified)
    (hw : s'.cache.worker = s.cache.worker) :
    s.pc = .blocked ∧ toFront s' < toFront s ∨ s.pc ≠ .blocked ∧ Idle s s' := by
  by_cases hb : s.pc = .blocked
  · refine Or.inl ⟨hb, ?_⟩
    unfold toFront
    rw [hpc, hb]
    exact Nat.lt_succ_self 3
  · refine Or.inr ⟨hb, Idle.of_eq (hpc.trans ?_) hw⟩
    cases hpc' : s.pc with
    | blocked => exact absurd hpc' hb
    | _ => rfl

/-- A step of the worker takes the first task or comes nearer to it, unless it is blocked. -/
theorem Queued.move {s s' : WorkerLoop} (h : Queued (key :: rest) s) (hmove : Move s s') :
    s'.cache.worker = .taken key ∧ Queued rest s'
      ∨ Queued (key :: rest) s' ∧ (toFront s' < toFront s ∨ s.pc = .blocked ∧ s' = s) := by
  have hinv := h.inv.of_move hmove
  cases hmove with
  | enter hpc hs =>
    refine Or.inr ⟨⟨hinv, h.alive, h.tasks⟩, Or.inl ?_⟩
    unfold toFront
    rw [hpc]
    exact Nat.lt_succ_self 3
  | leave hpc hs => exact absurd (h.inv.started.mpr h.alive) (by rw [hs]; decide)
  | lock hpc =>
    refine Or.inr ⟨⟨hinv, h.alive, h.tasks⟩, Or.inl ?_⟩
    unfold toFront
    rcases hpc with hpc | hpc
    · rw [hpc]
      exact Nat.lt_succ_self 2
    · rw [hpc]
      exact Nat.lt_succ_self 2
  | pass hpc hs =>
    refine Or.inr ⟨⟨hinv, h.alive, h.tasks⟩, Or.inl ?_⟩
    unfold toFront
    rw [hpc]
    exact Nat.lt_succ_self 1
  | fail hpc htasks hs => exact absurd htasks h.ne_nil
  | block hpc => exact absurd (h.inv.blocking hpc) h.ne_nil
  | stay hpc =>
    rcases hpc with hpc | hpc
    · exact Or.inr ⟨h, Or.inr ⟨hpc, rfl⟩⟩
    · exact absurd (h.inv.started.mpr h.alive) (by rw [h.inv.exited hpc]; decide)
  | again hpc htasks => exact absurd htasks h.ne_nil
  | take hpc key' rest' htasks =>
    refine Or.inl ?_
    have hprefix := h.tasks
    rw [htasks, List.cons_prefix_cons] at hprefix
    exact ⟨congrArg _ hprefix.1.symm, hinv, h.alive, hprefix.2⟩
  | work hpc c htasks hleft hcalls =>
    have hprefix : key :: rest <+: c.fetcher.updatedTasks := htasks ▸ h.tasks
    refine Or.inr ⟨⟨hinv, h.alive, hprefix⟩, Or.inl ?_⟩
    unfold toFront
    rw [hpc]
    by_cases hw : c.worker = .waiting
    · simp only [if_pos hw]
      omega
    · simp only [if_neg hw]
      omega

/-- What a step does for the first task of the queue: it is taken, or comes nearer to that, or the
step was not the one needed and changes nothing that matters. -/
def Advances (key : RdcFieldKey) (rest : List RdcFieldKey) (op : LoopStep) (s s' : WorkerLoop) :
    Prop :=
  (s'.cache.worker = .taken key ∧ Queued rest s')
    ∨ Queued (key :: rest) s'
      ∧ (toFront s' < toFront s ∨ ¬ kindNeeded (decide (s.pc = .blocked)) op ∧ Idle s s')

section

variable {key : RdcFieldKey} {rest : List RdcFieldKey} {s : WorkerLoop} (h : Queued (key :: rest) s)

include h

theorem Queued.advances_self (hkind : ¬ kindNeeded (decide (s.pc = .blocked)) op) :
    Advances key rest op s s :=
  Or.inr ⟨h, Or.inr ⟨hkind, Idle.of_eq rfl rfl⟩⟩

theorem Queued.advances_request (gpu : Nat) (field : PcieField) (now : Nat) :
    Advances key rest (.request gpu field now) s (s.request gpu field now) := by
  have hkind : ¬ kindNeeded (decide (s.pc = .blocked)) (.request gpu field now) := by
    unfold kindNeeded
    split <;> exact (nomatch ·)
  have hinv := h.inv.request gpu field now
  obtain heq | ⟨-, -, heq⟩ := request_cases s gpu field now
  · rw [heq]
    exact h.advances_self hkind
  · rw [heq] at hinv ⊢
    have hprefix : key :: rest <+: s.tasks ++ [(gpu, field.id)] :=
      h.tasks.trans (List.prefix_append _ _)
    exact Or.inr ⟨⟨hinv, h.alive, hprefix⟩, Or.inr ⟨hkind, Idle.of_eq rfl rfl⟩⟩

theorem Queued.advances_notified {n : Nat} (hkind : s.pc ≠ .blocked → ¬ kindNeeded false op) :
    Advances key rest op s { s with pc := s.pc.notified, notifying := n } := by
  have hinv : LoopInv { s with pc := s.pc.notified, notifying := n } :=
    h.inv.notified Iff.rfl fun hne => absurd h.alive hne
  refine Or.inr ⟨⟨hinv, h.alive, h.tasks⟩, ?_⟩
  obtain ⟨-, hlt⟩ | ⟨hpc, hidle⟩ :=
    toFront_notified s { s with pc := s.pc.notified, notifying := n } rfl rfl
  · exact Or.inl hlt
  · rw [decide_eq_false hpc]
    exact Or.inr ⟨hkind hpc, hidle⟩

theorem Queued.advances_notify : Advances key rest .notify s s.notify := by
  unfold WorkerLoop.notify
  split
  · rename_i hn
    -- a blocked worker beside a task has somebody who notifies
    have hpc : s.pc ≠ .blocked := fun hpc =>
      absurd (h.inv.blocked hpc h.ne_nil) (by rw [hn]; exact Nat.lt_irrefl 0)
    refine h.advances_self ?_
    rw [decide_eq_false hpc]
    exact (nomatch ·)
  · exact h.advances_notified fun _ => (nomatch ·)

theorem Queued.advances_worker (input : WorkerInput) :
    Advances key rest (.worker input) s (s.worker input) := by
  obtain htaken | ⟨hq, hlt | ⟨hpc, heq⟩⟩ := h.move (h.inv.move input)
  · exact Or.inl htaken
  · exact Or.inr ⟨hq, Or.inl hlt⟩
  · rw [heq]
    refine h.advances_self ?_
    rw [decide_eq_true hpc]
    exact (nomatch ·)

theorem Queued.advances (hop : op ≠ .destruct) : Advances key rest op s (s.exec op).2 := by
  cases op with
  | request gpu field now => exact h.advances_request gpu field now
  | notify => exact h.advances_notify
  | worker input => exact h.advances_worker input
  | spurious => exact h.advances_notified fun _ => (nomatch ·)
  | destruct => exact absurd rfl hop

end

variable {schedule : Nat → LoopStep}

/-- The first task of the queue is taken at some time, and the others move up. -/
theorem first_eventually_taken (hop : ∀ t, schedule t ≠ .destruct)
    (hworker : Recurs schedule (·.isWorker = true)) (hnotify : Recurs schedule (· = .notify))
    {t : Nat} (ht : Queued (key :: rest) (state exec s schedule t)) :
    ∃ u, t ≤ u ∧ (state exec s schedule u).cache.worker = .taken key
      ∧ Queued rest (state exec s schedule u) := by
  refine eventually_of_rank (P := (· ≠ .destruct)) (I := Queued (key :: rest))
    (Q := fun s => s.cache.worker = .taken key ∧ Queued rest s) toFront
    (fun s => decide (s.pc = .blocked)) kindNeeded (fun s op hop hI _ => ?_) hop ?_ ht
  · exact hI.advances hop
  · intro k
    cases k with
    | true => exact hnotify
    | false => exact hworker

/-- **Every task is taken.** Whatever the threads do in between, if the worker and the callers that
are about to notify go on again and again, the worker gets to each task in the queue, in the order
of the queue. -/
theorem task_eventually_taken {s : WorkerLoop} (hs : s.Reachable) (hd : s.destructor = .notStarted)
    {before after : List RdcFieldKey} {key : RdcFieldKey}
    (htasks : s.tasks = before ++ key :: after)
    (hop : ∀ t, schedule t ≠ .destruct) (hworker : Recurs schedule (·.isWorker = true))
    (hnotify : Recurs schedule (· = .notify)) :
    ∃ t, (state exec s schedule t).cache.worker = .taken key
      ∧ after <+: (state exec s schedule t).tasks := by
  have hqueued : Queued (before ++ key :: after) (state exec s schedule 0) :=
    ⟨loopInv_of_reachable hs, hd, htasks ▸ List.prefix_refl _⟩
  suffices hgoal : ∀ t, Queued (before ++ key :: after) (state exec s schedule t) →
      ∃ u, (state exec s schedule u).cache.worker = .taken key
        ∧ after <+: (state exec s schedule u).tasks from hgoal 0 hqueued
  clear hqueued htasks
  induction before with
  | nil =>
    intro t ht
    obtain ⟨u, -, hu, hrest⟩ := first_eventually_taken hop hworker hnotify ht
    exact ⟨u, hu, hrest.tasks⟩
  | cons first before ih =>
    intro t ht
    obtain ⟨u, -, -, hrest⟩ := first_eventually_taken hop hworker hnotify ht
    exact ih u hrest

/-- An input of zeros. -/
def zeroInput : WorkerInput := ⟨0, 0, 0, 0, 0, zeroMetric⟩

/-- The worker and another thread in turns. -/
def inTurns (other : LoopStep) (t : Nat) : LoopStep :=
  if t % 2 = 0 then .worker zeroInput else other

theorem recurs_worker_inTurns (other : LoopStep) :
    Recurs (inTurns other) (·.isWorker = true) := by
  intro t
  refine ⟨2 * t, by omega, ?_⟩
  rw [inTurns, if_pos (by omega)]
  rfl

theorem recurs_other_inTurns (other : LoopStep) : Recurs (inTurns other) (· = other) := by
  intro t
  refine ⟨2 * t + 1, by omega, ?_⟩
  rw [inTurns, if_neg (by omega)]

theorem inTurns_ne {op other : LoopStep} (hworker : op.isWorker = false) (hother : other ≠ op)
    (t : Nat) : inTurns other t ≠ op := by
  unfold inTurns
  split
  · rintro rfl
    exact absurd hworker (by decide)
  · exact hother

/-- Two requests while the worker is blocked. -/
def twoRequests : List LoopStep :=
  [.worker zeroInput, .worker zeroInput, .worker zeroInput, .worker zeroInput, .request 0 .tx 1,
    .request 1 .rx 2]

theorem task_eventually_taken_twoRequests :
    (run exec WorkerLoop.init twoRequests).pc = .blocked
      ∧ ∃ t, (state exec (run exec WorkerLoop.init twoRequests) (inTurns .notify) t).cache.worker
          = .taken (1, rdcFiPcieRx)
        ∧ [] <+: (state exec (run exec WorkerLoop.init twoRequests) (inTurns .notify) t).tasks :=
  ⟨by decide +kernel,
    task_eventually_taken ⟨twoRequests, rfl⟩ (by decide +kernel)
      (by decide +kernel : _ = [(0, rdcFiPcieTx)] ++ (1, rdcFiPcieRx) :: [])
      (inTurns_ne rfl (by decide)) (recurs_worker_inTurns _) (recurs_other_inTurns _)⟩

/-! ## The loop refines the worker behind the cache -/

/-- What a step is to the cache: one step of the machine without the loop, or nothing. -/
def onCache (s : WorkerLoop) : LoopStep → Option PcieStep
  | .request gpu field now =>
    if s.pc.holdsLock || s.destructor ≠ .notStarted then none else some (.request gpu field now)
  | .worker input =>
    match s.pc with
    | .front => if s.tasks = [] then none else some .take
    | .task => some (s.cache.worker.next input)
    | _ => none
  | .notify | .spurious | .destruct => none

theorem exec_cache (s : WorkerLoop) (op : LoopStep) :
    (s.exec op).2.cache = run PcieCache.exec s.cache (onCache s op).toList := by
  cases op with
  | request gpu field now =>
    show (s.request gpu field now).cache = run _ _ (ite _ _ _ : Option PcieStep).toList
    unfold WorkerLoop.request
    split
    · rfl
    · rfl
  | notify =>
    show s.notify.cache = s.cache
    unfold WorkerLoop.notify
    split
    · rfl
    · rfl
  | worker input =>
    show (s.worker input).cache = _
    unfold WorkerLoop.worker onCache
    cases s.pc with
    | front =>
      dsimp only
      split
      · rfl
      · rfl
    | _ => rfl
  | spurious => rfl
  | destruct =>
    show s.destruct.cache = s.cache
    unfold WorkerLoop.destruct
    cases s.destructor with
    | notStarted =>
      dsimp only
      split
      · rfl
      · rfl
    | joining =>
      dsimp only
      split
      · rfl
      · rfl
    | _ => rfl

theorem between_le {lo hi : Nat} (h : op.Between lo hi) : lo ≤ hi := by
  cases op with
  | request gpu field now => exact h.1.trans h.2
  | worker input => exact h.1.trans (h.2.1.trans h.2.2)
  | _ => exact h

theorem pcieBetween_mono {lo lo' hi : Nat} {step : PcieStep} (h : step.Between lo hi)
    (hle : lo' ≤ lo) : step.Between lo' hi := by
  cases step with
  | take => exact hle.trans h
  | store uninit => exact hle.trans h
  | _ => exact ⟨hle.trans h.1, h.2⟩

theorem clocked_mono {t t' : Nat} (hle : t ≤ t') {steps : List PcieStep}
    (h : Clocked PcieClock t' steps) : Clocked PcieClock t steps := by
  cases steps with
  | nil => trivial
  | cons step steps =>
    obtain ⟨u, hstep, hrest⟩ := h
    exact ⟨u, ⟨pcieBetween_mono hstep.1 hle, hstep.2⟩, hrest⟩

theorem between_onCache {lo hi : Nat} (h : op.Between lo hi) {step : PcieStep}
    (hstep : onCache s op = some step) : step.Between lo hi := by
  unfold onCache at hstep
  cases op with
  | request gpu field now =>
    dsimp only at hstep
    split at hstep
    · exact nomatch hstep
    · obtain rfl := Option.some.inj hstep
      exact h
  | worker input =>
    cases hpc : s.pc with
    | front =>
      simp only [hpc] at hstep
      split at hstep
      · exact nomatch hstep
      · obtain rfl := Option.some.inj hstep
        exact between_le h
    | task =>
      simp only [hpc] at hstep
      obtain rfl := Option.some.inj hstep
      cases s.cache.worker with
      | waiting => exact between_le h
      | taken key => exact ⟨h.1, h.2.1.trans h.2.2⟩
      | cleared key => exact h
      | called call => exact ⟨h.1, h.2.1.trans h.2.2⟩
      | stamped call curTime => exact between_le h
    | _ =>
      simp only [hpc] at hstep
      exact nomatch hstep
  | _ => exact nomatch hstep

/-- The clock of the cache, for the steps of the loop. -/
def LoopClock (lo hi : Nat) (op : LoopStep) : Prop :=
  op.Between lo hi ∧ hi + MetricFetcher.pcieCacheTtl < 2 ^ 64

/-- **The loop refines the worker behind the cache.** Whatever the threads do, the cache is in a
state that the machine without the loop reaches on the same clock. -/
theorem workerLoop_refines {t : Nat} {steps : List LoopStep} (hclock : Clocked LoopClock t steps) :
    ∃ psteps, Clocked PcieClock t psteps
      ∧ (run exec WorkerLoop.init steps).cache = PcieCache.after psteps := by
  suffices hgoal : ∀ s : WorkerLoop, ∃ psteps, Clocked PcieClock t psteps
      ∧ (run exec s steps).cache = run PcieCache.exec s.cache psteps from hgoal WorkerLoop.init
  induction steps generalizing t with
  | nil => exact fun s => ⟨[], trivial, rfl⟩
  | cons op steps ih =>
    intro s
    obtain ⟨t', hop, hrest⟩ := hclock
    obtain ⟨psteps, hclock', heq⟩ := ih hrest (s.exec op).2
    have hcache := exec_cache s op
    rw [run_cons, heq]
    cases hstep : onCache s op with
    | none =>
      rw [hstep] at hcache
      exact ⟨psteps, clocked_mono (between_le hop.1) hclock', by rw [hcache]; rfl⟩
    | some step =>
      rw [hstep] at hcache
      exact ⟨step :: psteps, ⟨t', ⟨between_onCache hop.1 hstep, hop.2⟩, hclock'⟩,
        by rw [hcache]; rfl⟩

theorem workerLoop_refines_twoTurns :
    Clocked LoopClock 0 [.worker zeroInput, .request 0 .tx 3, .worker ⟨4, 5, 0, 0, 0, zeroMetric⟩]
      ∧ ∃ psteps, Clocked PcieClock 0 psteps
        ∧ (run exec WorkerLoop.init
            [.worker zeroInput, .request 0 .tx 3, .worker ⟨4, 5, 0, 0, 0, zeroMetric⟩]).cache
          = PcieCache.after psteps := by
  have hclock : Clocked LoopClock 0
      [.worker zeroInput, .request 0 .tx 3, .worker ⟨4, 5, 0, 0, 0, zeroMetric⟩] := by
    refine ⟨0, ?_, 3, ?_, 5, ?_, trivial⟩ <;>
      exact ⟨by simp [LoopStep.Between, zeroInput], by decide⟩
  exact ⟨hclock, workerLoop_refines hclock⟩

end Rdc.Proof.Worker
