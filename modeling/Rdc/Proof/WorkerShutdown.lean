import Rdc.Proof.WorkerLoop

/-!
# When the destructor of the fetcher returns

The destructor clears `task_started_` and notifies, both without the lock. If the worker stands
between its predicate and the block when the notification comes, nobody hears it, and the destructor
waits for the worker for ever. That is the only way in which it can hang (`destructor_ends_iff`).
Otherwise it waits for one measurement at most, however long the queue is
(`destructor_calls_le_one`).
-/

namespace Rdc.Proof.Worker

open Machine WorkerLoop

variable {schedule : Nat → LoopStep}

/-! ## The worker and the destructor -/

/-- Once the destructor has started, only the worker changes the cache, and only notifications
change where the worker is. -/
structure OtherStep (s s' : WorkerLoop) : Prop where
  cache : s'.cache = s.cache
  pc : s'.pc = s.pc ∨ s'.pc = s.pc.notified
  started : s'.taskStarted = s.taskStarted
  destructor : s'.destructor ≠ .notStarted

variable {s s' : WorkerLoop}

theorem OtherStep.refl (h : s.destructor ≠ .notStarted) : OtherStep s s :=
  ⟨rfl, Or.inl rfl, rfl, h⟩

theorem request_of_started (h : s.destructor ≠ .notStarted) (gpu : Nat) (field : PcieField)
    (now : Nat) : s.request gpu field now = s := by
  unfold WorkerLoop.request
  rw [decide_eq_true h, Bool.or_true, if_pos rfl]

theorem LoopInv.notify_of_started (h : LoopInv s) (hd : s.destructor ≠ .notStarted) :
    s.notify = s := by
  unfold WorkerLoop.notify
  rw [h.quiet hd]

theorem LoopInv.otherStep (h : LoopInv s) (hd : s.destructor ≠ .notStarted) {op : LoopStep}
    (hop : op.isWorker = false) : OtherStep s (s.exec op).2 := by
  cases op with
  | request gpu field now =>
    show OtherStep s (s.request gpu field now)
    rw [request_of_started hd]
    exact .refl hd
  | notify =>
    show OtherStep s s.notify
    rw [h.notify_of_started hd]
    exact .refl hd
  | worker input => exact absurd hop Bool.noConfusion
  | spurious => exact ⟨rfl, Or.inr rfl, rfl, hd⟩
  | destruct =>
    show OtherStep s s.destruct
    unfold WorkerLoop.destruct
    cases hdes : s.destructor with
    | notStarted => exact absurd hdes hd
    | flagged => exact ⟨rfl, Or.inr rfl, rfl, (nomatch ·)⟩
    | notified => exact ⟨rfl, Or.inl rfl, rfl, (nomatch ·)⟩
    | joining =>
      dsimp only
      split
      · exact ⟨rfl, Or.inl rfl, rfl, (nomatch ·)⟩
      · exact .refl hd
    | gone => exact .refl hd

theorem Move.destructor (h : Move s s') :
    s'.destructor = s.destructor ∧ s'.taskStarted = s.taskStarted := by
  cases h <;> exact ⟨rfl, rfl⟩

/-- How many steps the worker is away from its end. -/
def toExit (s : WorkerLoop) : Nat :=
  match s.pc with
  | .exited => 0
  | .head => 1
  | .task => 1 + stepsLeft s.cache.worker
  | .front => 6
  | .testing => 7
  | .locking | .woken | .blocking | .blocked => 8

/-- The destructor has started, and the worker will see it. -/
structure Stopping (s : WorkerLoop) : Prop where
  inv : LoopInv s
  destructor : s.destructor ≠ .notStarted
  pc : s.pc ≠ .blocking ∧ s.pc ≠ .blocked

theorem LoopInv.not_started (h : LoopInv s) (hd : s.destructor ≠ .notStarted) :
    s.taskStarted = false :=
  Bool.eq_false_of_not_eq_true fun hs => hd (h.started.mp hs)

theorem Stopping.move (h : Stopping s) (hmove : Move s s') :
    Stopping s' ∧ (toExit s' < toExit s ∨ s.pc = .exited) := by
  have hinv := h.inv.of_move hmove
  have hstopped := h.inv.not_started h.destructor
  have hd : s'.destructor ≠ .notStarted := hmove.destructor.1 ▸ h.destructor
  cases hmove with
  | enter hpc hs => exact absurd hs (by rw [hstopped]; decide)
  | leave hpc hs =>
    refine ⟨⟨hinv, hd, (nomatch ·), (nomatch ·)⟩, Or.inl ?_⟩
    rw [toExit, toExit, hpc]
    exact Nat.one_pos
  | lock hpc =>
    refine ⟨⟨hinv, hd, (nomatch ·), (nomatch ·)⟩, Or.inl ?_⟩
    rcases hpc with hpc | hpc
    · rw [toExit, toExit, hpc]
      exact Nat.lt_succ_self 7
    · rw [toExit, toExit, hpc]
      exact Nat.lt_succ_self 7
  | pass hpc hs =>
    refine ⟨⟨hinv, hd, (nomatch ·), (nomatch ·)⟩, Or.inl ?_⟩
    rw [toExit, toExit, hpc]
    exact Nat.lt_succ_self 6
  | fail hpc htasks hs => exact absurd hs (by rw [hstopped]; decide)
  | block hpc => exact absurd hpc h.pc.1
  | stay hpc =>
    rcases hpc with hpc | hpc
    · exact absurd hpc h.pc.2
    · exact ⟨h, Or.inr hpc⟩
  | again hpc htasks =>
    refine ⟨⟨hinv, hd, (nomatch ·), (nomatch ·)⟩, Or.inl ?_⟩
    rw [toExit, toExit, hpc]
    exact (by decide : 1 < 6)
  | take hpc key rest htasks =>
    refine ⟨⟨hinv, hd, (nomatch ·), (nomatch ·)⟩, Or.inl ?_⟩
    rw [toExit, toExit, hpc]
    exact (by decide : 1 + 4 < 6)
  | work hpc c htasks hleft hcalls =>
    by_cases hw : c.worker = .waiting
    · simp only [if_pos hw] at hinv hd ⊢
      refine ⟨⟨hinv, hd, (nomatch ·), (nomatch ·)⟩, Or.inl ?_⟩
      rw [toExit, toExit, hpc]
      show 1 < 1 + stepsLeft s.cache.worker
      omega
    · simp only [if_neg hw] at hinv hd ⊢
      refine ⟨⟨hinv, hd, (nomatch ·), (nomatch ·)⟩, Or.inl ?_⟩
      rw [toExit, toExit, hpc]
      exact Nat.add_lt_add_left hleft 1

theorem notified_of_ne {pc : LoopPc} (h : pc ≠ .blocked) : pc.notified = pc := by
  cases pc with
  | blocked => exact absurd rfl h
  | _ => rfl

theorem Stopping.other (h : Stopping s) (hinv : LoopInv s') (hother : OtherStep s s') :
    Stopping s' ∧ s'.pc = s.pc ∧ toExit s' = toExit s := by
  have hpc : s'.pc = s.pc := by
    rcases hother.pc with hpc | hpc
    · exact hpc
    · rw [hpc, notified_of_ne h.pc.2]
  refine ⟨⟨hinv, hother.destructor, hpc ▸ h.pc⟩, hpc, ?_⟩
  rw [toExit, toExit, hpc, hother.cache]

theorem Stopping.eventually_exited {t : Nat} (h : Stopping (state exec s schedule t))
    (hworker : Recurs schedule (·.isWorker = true)) :
    ∃ u, t ≤ u ∧ (state exec s schedule u).pc = .exited
      ∧ Stopping (state exec s schedule u) := by
  refine eventually_of_rank (P := fun _ => True) (I := Stopping)
    (Q := fun s => s.pc = .exited ∧ Stopping s) toExit (fun _ => ())
    (fun _ op => op.isWorker = true) (fun s op _ hI hQ => Or.inr ?_) (fun _ => trivial)
    (fun _ => hworker) h
  cases hop : op.isWorker with
  | false =>
    obtain ⟨hI', -, hrank⟩ := hI.other (hI.inv.step op) (hI.inv.otherStep hI.destructor hop)
    exact ⟨hI', Or.inr ⟨Bool.noConfusion, hrank, rfl⟩⟩
  | true =>
    cases op with
    | worker input =>
      obtain ⟨hI', hlt | hpc⟩ := hI.move (hI.inv.move input)
      · exact ⟨hI', Or.inl hlt⟩
      · exact absurd ⟨hpc, hI⟩ hQ
    | _ => exact absurd hop Bool.noConfusion

theorem worker_of_exited (hpc : s.pc = .exited) (input : WorkerInput) : s.worker input = s := by
  unfold WorkerLoop.worker
  rw [hpc]

theorem Stopping.step_exited (h : Stopping s) (hpc : s.pc = .exited) (op : LoopStep) :
    (s.exec op).2.pc = .exited ∧ Stopping (s.exec op).2 := by
  cases hop : op.isWorker with
  | false =>
    obtain ⟨h', hpc', -⟩ := h.other (h.inv.step op) (h.inv.otherStep h.destructor hop)
    exact ⟨hpc'.trans hpc, h'⟩
  | true =>
    cases op with
    | worker input =>
      show (s.worker input).pc = .exited ∧ Stopping (s.worker input)
      rw [worker_of_exited hpc]
      exact ⟨hpc, h⟩
    | _ => exact absurd hop Bool.noConfusion

theorem LoopInv.destructor_eq (h : LoopInv s) {op : LoopStep} (hop : op ≠ .destruct) :
    (s.exec op).2.destructor = s.destructor := by
  cases op with
  | request gpu field now =>
    show (s.request gpu field now).destructor = s.destructor
    obtain heq | ⟨-, -, heq⟩ := request_cases s gpu field now
    · rw [heq]
    · rw [heq]
  | notify =>
    show s.notify.destructor = s.destructor
    unfold WorkerLoop.notify
    split
    · rfl
    · rfl
  | worker input => exact (h.move input).destructor.1
  | spurious => rfl
  | destruct => exact absurd rfl hop

/-- How many steps the destructor is away from its end, if the thread has ended. -/
def toGone : Destructor → Nat
  | .notStarted => 4
  | .flagged => 3
  | .notified => 2
  | .joining => 1
  | .gone => 0

/-- A destructor whose thread has ended comes to its end. -/
theorem eventually_gone {t : Nat}
    (h : (state exec s schedule t).pc = .exited ∧ Stopping (state exec s schedule t))
    (hdestruct : Recurs schedule (· = .destruct)) :
    ∃ u, t ≤ u ∧ (state exec s schedule u).destructor = .gone := by
  refine eventually_of_rank (P := fun _ => True) (I := fun s => s.pc = .exited ∧ Stopping s)
    (Q := fun s => s.destructor = .gone) (fun s => toGone s.destructor) (fun _ => ())
    (fun _ op => op = .destruct) (fun s op _ hI hQ => Or.inr ?_) (fun _ => trivial)
    (fun _ => hdestruct) h
  refine ⟨hI.2.step_exited hI.1 op, ?_⟩
  by_cases hop : op = .destruct
  · refine Or.inl ?_
    subst hop
    show toGone s.destruct.destructor < toGone s.destructor
    unfold WorkerLoop.destruct
    cases hd : s.destructor with
    | notStarted => exact absurd hd hI.2.destructor
    | flagged => exact Nat.lt_succ_self 2
    | notified => exact Nat.lt_succ_self 1
    | joining =>
      dsimp only
      rw [if_pos hI.1]
      exact Nat.one_pos
    | gone => exact absurd hd hQ
  · exact Or.inr ⟨hop, congrArg toGone (hI.2.inv.destructor_eq hop), rfl⟩

/-- The worker is at the condition variable, and whoever was to notify has done so. -/
structure Hung (s : WorkerLoop) : Prop where
  inv : LoopInv s
  destructor : s.destructor = .notified ∨ s.destructor = .joining
  pc : s.pc = .blocking ∨ s.pc = .blocked

theorem Hung.step (h : Hung s) {op : LoopStep} (hop : op ≠ .spurious) : Hung (s.exec op).2 := by
  have hd : s.destructor ≠ .notStarted := by
    rcases h.destructor with hd | hd
    · rw [hd]
      decide
    · rw [hd]
      decide
  have hinv := h.inv.step op
  cases op with
  | request gpu field now =>
    show Hung (s.request gpu field now)
    rw [request_of_started hd]
    exact h
  | notify =>
    show Hung s.notify
    rw [h.inv.notify_of_started hd]
    exact h
  | worker input =>
    refine ⟨hinv, ?_, Or.inr ?_⟩
    · rw [show (s.exec (.worker input)).2.destructor = s.destructor from
        (h.inv.move input).destructor.1]
      exact h.destructor
    · show (s.worker input).pc = .blocked
      unfold WorkerLoop.worker
      rcases h.pc with hpc | hpc
      · rw [hpc]
      · rw [hpc]
        exact hpc
  | spurious => exact absurd rfl hop
  | destruct =>
    have hne : s.pc ≠ .exited := by
      rcases h.pc with hpc | hpc
      · rw [hpc]
        decide
      · rw [hpc]
        decide
    have hstep : s.destruct = s ∨ s.destruct = { s with destructor := .joining } := by
      unfold WorkerLoop.destruct
      rcases h.destructor with hd | hd
      · rw [hd]
        exact Or.inr rfl
      · rw [hd]
        exact Or.inl (if_neg hne)
    rcases hstep with heq | heq
    · show Hung s.destruct
      rw [heq]
      exact h
    · exact ⟨hinv, Or.inr (congrArg WorkerLoop.destructor heq),
        (congrArg WorkerLoop.pc heq).symm ▸ h.pc⟩

/-- **When the destructor returns.** It is about to notify. Without spurious wake-ups it comes to
its end in every run in which the worker and the destructor go on again and again, unless the worker
has already found the predicate false and is not yet blocked: then it does in none. -/
theorem destructor_ends_iff {s : WorkerLoop} (hs : s.Reachable) (hd : s.destructor = .flagged)
    (hspurious : ∀ t, schedule t ≠ .spurious) (hworker : Recurs schedule (·.isWorker = true))
    (hdestruct : Recurs schedule (· = .destruct)) :
    (∃ t, (state exec s.destruct schedule t).destructor = .gone) ↔ s.pc ≠ .blocking := by
  have hinv : LoopInv s.destruct := (loopInv_of_reachable hs).destruct
  have heq : s.destruct = { s with pc := s.pc.notified, destructor := .notified } := by
    unfold WorkerLoop.destruct
    rw [hd]
  constructor
  · rintro ⟨t, hgone⟩ hpc
    have hhung : Hung (state exec s.destruct schedule 0) :=
      ⟨hinv, Or.inl (by rw [state, heq]), Or.inl (by rw [state, heq, hpc]; rfl)⟩
    have hlater := state_invariant (P := (· ≠ .spurious)) (I := Hung) (fun s op hop h => h.step hop)
      hspurious hhung (Nat.zero_le t)
    rcases hlater.destructor with h | h
    · exact absurd (hgone.symm.trans h) (by decide)
    · exact absurd (hgone.symm.trans h) (by decide)
  · intro hpc
    have hstop : Stopping (state exec s.destruct schedule 0) := by
      refine ⟨hinv, ?_, ?_, ?_⟩
      · rw [state, heq]
        exact Destructor.noConfusion
      · rw [state, heq]
        exact fun h => hpc ((notified_eq_iff (by decide) (by decide)).mp h)
      · rw [state, heq]
        exact notified_ne_blocked s.pc
    obtain ⟨u, -, hu⟩ := hstop.eventually_exited hworker
    obtain ⟨v, -, hv⟩ := eventually_gone hu hdestruct
    exact ⟨v, hv⟩

/-- The destructor has cleared `task_started_` after the worker has looked at it. -/
def flaggedTooLate : List LoopStep :=
  [.worker zeroInput, .worker zeroInput, .worker zeroInput, .destruct]

theorem destructor_ends_iff_flaggedTooLate :
    (run exec WorkerLoop.init flaggedTooLate).pc = .blocking
      ∧ ((∃ t, (state exec (run exec WorkerLoop.init flaggedTooLate).destruct (inTurns .destruct)
            t).destructor = .gone)
          ↔ (run exec WorkerLoop.init flaggedTooLate).pc ≠ .blocking) :=
  ⟨by decide +kernel,
    destructor_ends_iff ⟨flaggedTooLate, rfl⟩ (by decide +kernel)
      (inTurns_ne rfl (by decide)) (recurs_worker_inTurns _) (recurs_other_inTurns _)⟩

/-! ## How much the destructor waits for -/

/-- The calls into the library that a worker at this place can still make once `task_started_` is
false. -/
def callsLeft (w : PcieWorker) : LoopPc → Nat
  | .exited | .head => 0
  | .task => taskCallsLeft w
  | .front | .testing | .locking | .woken | .blocking | .blocked => 1

theorem callsLeft_le_one (w : PcieWorker) (pc : LoopPc) : callsLeft w pc ≤ 1 := by
  cases pc with
  | task => cases w <;> simp [callsLeft, taskCallsLeft]
  | _ => simp [callsLeft]

theorem callsLeft_notified (w : PcieWorker) (pc : LoopPc) :
    callsLeft w pc.notified = callsLeft w pc := by
  cases pc <;> rfl

/-- The calls made so far, and those that the worker can still make. -/
def callsAtMost (s : WorkerLoop) : Nat :=
  s.cache.calls.length + callsLeft s.cache.worker s.pc

theorem Move.callsAtMost_le (h : Move s s') (hs : s.taskStarted = false) :
    callsAtMost s' ≤ callsAtMost s := by
  unfold callsAtMost
  cases h with
  | enter hpc hs' => exact absurd hs' (by rw [hs]; decide)
  | leave hpc hs' => exact Nat.le_add_right _ _
  | lock hpc =>
    rcases hpc with hpc | hpc
    · rw [hpc]
      exact Nat.le_refl _
    · rw [hpc]
      exact Nat.le_refl _
  | pass hpc hs' =>
    rw [hpc]
    exact Nat.le_refl _
  | fail hpc htasks hs' => exact absurd hs' (by rw [hs]; decide)
  | block hpc =>
    rw [hpc]
    exact Nat.le_refl _
  | stay hpc => exact Nat.le_refl _
  | again hpc htasks => exact Nat.le_add_right _ _
  | take hpc key rest htasks =>
    rw [hpc]
    exact Nat.le_refl _
  | work hpc c htasks hleft hcalls =>
    rw [hpc]
    by_cases hw : c.worker = .waiting
    · simp only [if_pos hw]
      exact (Nat.le_add_right _ _).trans hcalls
    · simp only [if_neg hw]
      exact hcalls

/-- **The destructor waits for one measurement at most.** From the moment `task_started_` is false,
whatever the queue holds and whatever the threads do. -/
theorem destructor_calls_le_one {s : WorkerLoop} (hs : s.Reachable)
    (hd : s.destructor ≠ .notStarted) (steps : List LoopStep) :
    (run exec s steps).cache.calls.length ≤ s.cache.calls.length + 1 := by
  have hinv : LoopInv (run exec s steps) ∧ (run exec s steps).destructor ≠ .notStarted
      ∧ callsAtMost (run exec s steps) ≤ callsAtMost s := by
    refine run_invariant
      (I := fun s' => LoopInv s' ∧ s'.destructor ≠ .notStarted ∧ callsAtMost s' ≤ callsAtMost s)
      (fun s' op ⟨h, hd, hle⟩ => ⟨h.step op, ?_⟩) ⟨loopInv_of_reachable hs, hd, Nat.le_refl _⟩ steps
    cases hop : op.isWorker with
    | false =>
      have hother := h.otherStep hd hop
      refine ⟨hother.destructor, Nat.le_trans (Nat.le_of_eq ?_) hle⟩
      rw [callsAtMost, callsAtMost, hother.cache]
      rcases hother.pc with hpc | hpc
      · rw [hpc]
      · rw [hpc, callsLeft_notified]
    | true =>
      cases op with
      | worker input =>
        have hmove := h.move input
        exact ⟨hmove.destructor.1 ▸ hd, (hmove.callsAtMost_le (h.not_started hd)).trans hle⟩
      | _ => exact absurd hop Bool.noConfusion
  calc (run exec s steps).cache.calls.length
      ≤ callsAtMost (run exec s steps) := Nat.le_add_right _ _
    _ ≤ callsAtMost s := hinv.2.2
    _ ≤ s.cache.calls.length + 1 := Nat.add_le_add_left (callsLeft_le_one _ _) _

/-- Two tasks are queued when the destructor starts, and the worker is past its first test. -/
def flaggedBusy : List LoopStep :=
  [.worker zeroInput, .request 0 .tx 1, .request 1 .rx 2, .notify, .notify, .destruct]

theorem destructor_calls_le_one_flaggedBusy :
    (run exec WorkerLoop.init flaggedBusy).destructor ≠ .notStarted
      ∧ (run exec (run exec WorkerLoop.init flaggedBusy)
            (List.replicate 20 (.worker zeroInput))).cache.calls.length
          ≤ (run exec WorkerLoop.init flaggedBusy).cache.calls.length + 1 :=
  ⟨by decide +kernel, destructor_calls_le_one ⟨flaggedBusy, rfl⟩ (by decide +kernel) _⟩

end Rdc.Proof.Worker
