import Rdc.MetricsUpdater

/-!
# The end of the threads

When the handler lets go of the watch table none of its threads is left, whatever the schedule, and
on the way there each of them begins at most one more call (`teardown_safe`).
-/

namespace Rdc.Proof.Updater

open Machine HandlerThreads

variable {s : HandlerThreads}

/-! ## Which futures have been waited for -/

/-- The destructor has waited for the thread. -/
def joined : HandlerPlace → UpdaterThread → Prop
  | .joining .async, t => t = .incoming
  | .joining .notif, t => t = .incoming ∨ t = .async
  | .joining .update, t => t ≠ .update
  | .joining .incoming, _ => False
  | .released, _ => True
  | .starting _, _ | .idle, _ | .assigning, _ => False

/-- What the constructor, the destructor and the assignment rely on. -/
structure Orderly (s : HandlerThreads) : Prop where
  incoming : s.handler ≠ .assigning → s.thread .incoming = .none
  stopped : s.handler.stopping = true → s.started = false
  place : s.handler ≠ .joining .incoming
  joined : ∀ t, joined s.handler t → (s.thread t).over = true

/-- Before the destructor there is nothing else to rely on. -/
theorem orderly_of_running (hstop : s.handler.stopping = false)
    (hincoming : s.handler ≠ .assigning → s.thread .incoming = .none) : Orderly s := by
  refine ⟨hincoming, fun h => ?_, fun h => ?_, fun t h => ?_⟩
  · rw [hstop] at h
    cases h
  · rw [h] at hstop
    cases hstop
  · cases hplace : s.handler with
    | starting | idle | assigning =>
      rw [hplace] at h
      exact h.elim
    | joining | released =>
      rw [hplace] at hstop
      cases hstop

theorem init_orderly (mode : RdcOperationMode) : Orderly (init mode) := by
  cases mode <;> exact orderly_of_running rfl fun _ => rfl

theorem put_thread_self (s : HandlerThreads) (t : UpdaterThread) (place : ThreadPlace) :
    (s.put t place).thread t = place := Function.update_self ..

/-- A thread that is over stays so, and the others are not touched. -/
theorem threadStep_spec (s : HandlerThreads) (t : UpdaterThread) :
    (s.threadStep t).handler = s.handler ∧ (s.threadStep t).started = s.started
      ∧ (∀ u, u ≠ t → (s.threadStep t).thread u = s.thread u)
      ∧ ((s.thread t).over = true → s.threadStep t = s) := by
  unfold threadStep
  split
  case h_5 => exact ⟨rfl, rfl, fun _ _ => rfl, fun _ => rfl⟩
  case h_6 => exact ⟨rfl, rfl, fun _ _ => rfl, fun _ => rfl⟩
  all_goals
    next hplace =>
    refine ⟨rfl, rfl, fun u hu => Function.update_of_ne hu .., fun hover => ?_⟩
    rw [hplace] at hover
    cases hover

theorem threadStep_of_over {t u : UpdaterThread} (h : (s.thread u).over = true) :
    (s.threadStep t).thread u = s.thread u := by
  obtain ⟨-, -, hothers, hover⟩ := threadStep_spec s t
  by_cases hu : u = t
  · subst hu
    rw [hover h]
  · exact hothers u hu

theorem threadStep_orderly (h : Orderly s) (t : UpdaterThread) : Orderly (s.threadStep t) := by
  obtain ⟨hhandler, hstarted, -, -⟩ := threadStep_spec s t
  refine ⟨fun hne => ?_, ?_, ?_, fun u hu => ?_⟩
  · have hnone := h.incoming (hhandler ▸ hne)
    rw [threadStep_of_over (by rw [hnone]; rfl), hnone]
  · rw [hhandler, hstarted]
    exact h.stopped
  · rw [hhandler]
    exact h.place
  · have hover := h.joined u (hhandler ▸ hu)
    rw [threadStep_of_over hover]
    exact hover

/-- The destructor goes on only when the thread it waits for is over. -/
theorem joined_afterJoin {t u : UpdaterThread} (ht : t ≠ .incoming) (h : joined (afterJoin t) u) :
    u = t ∨ joined (.joining t) u := by
  cases t <;> cases u <;> simp_all [joined, afterJoin]

theorem handlerStep_orderly (h : Orderly s) : Orderly s.handlerStep := by
  unfold handlerStep
  split
  · next hplace => exact orderly_of_running rfl fun _ => h.incoming (by rw [hplace]; rintro ⟨⟩)
  · next hplace => exact orderly_of_running rfl fun _ => h.incoming (by rw [hplace]; rintro ⟨⟩)
  · split
    · exact orderly_of_running rfl fun _ =>
        put_thread_self (s.put .async (s.thread .incoming)) .incoming .none
    · exact h
  · next t hplace =>
    have ht : t ≠ .incoming := fun heq => h.place (heq ▸ hplace)
    have hstopped : s.started = false := h.stopped (by rw [hplace]; rfl)
    split
    · next hover =>
      refine ⟨fun _ => h.incoming (by rw [hplace]; rintro ⟨⟩), fun _ => hstopped, ?_, ?_⟩
      · cases t <;> rintro ⟨⟩
      · intro u hu
        rcases joined_afterJoin ht hu with rfl | hbefore
        · exact hover
        · exact h.joined u (hplace ▸ hbefore)
    · exact h
  · exact h
  · exact h

theorem exec_orderly (h : Orderly s) (op : HandlerStep) : Orderly (s.exec op).2 := by
  cases op with
  | thread t => exact threadStep_orderly h t
  | handler => exact handlerStep_orderly h
  | updateAll =>
    unfold exec
    dsimp only
    split
    · exact orderly_of_running rfl fun hne => absurd rfl hne
    · exact h
  | destroy =>
    unfold exec
    dsimp only
    split
    · next hidle =>
      have hnone := h.incoming (by rw [hidle]; decide)
      refine ⟨fun _ => hnone, fun _ => rfl, by rintro ⟨⟩, ?_⟩
      rintro u rfl
      show (s.thread .incoming).over = true
      rw [hnone]
      rfl
    · exact h

theorem run_orderly (mode : RdcOperationMode) (ops : List HandlerStep) :
    Orderly (run exec (init mode) ops) :=
  run_invariant (I := Orderly) (fun _ op h => exec_orderly h op) (init_orderly mode) ops

/-! ## After the flag is cleared -/

/-- The calls a thread has begun, with the one it has already decided on. -/
def decided (s : HandlerThreads) (t : UpdaterThread) : Nat :=
  s.calls t + if s.thread t = .entering then 1 else 0

theorem calls_le_decided (s : HandlerThreads) (t : UpdaterThread) : s.calls t ≤ decided s t :=
  Nat.le_add_right ..

theorem decided_le (s : HandlerThreads) (t : UpdaterThread) : decided s t ≤ s.calls t + 1 := by
  unfold decided
  split <;> omega

/-- A thread decides on no call when the flag is cleared. -/
theorem threadStep_decided (hstopped : s.started = false) (t u : UpdaterThread) :
    decided (s.threadStep t) u ≤ decided s u := by
  unfold threadStep
  split
  case h_5 => exact Nat.le_refl _
  case h_6 => exact Nat.le_refl _
  all_goals
    next hplace =>
    by_cases hu : u = t
    · subst hu
      simp only [decided, put, hplace, hstopped, Function.update_self]
      cases u <;> simp [afterCall]
    · simp only [decided, put, Function.update_of_ne hu]
      exact Nat.le_refl _

theorem exec_stopping (h : Orderly s) (hstop : s.handler.stopping = true) (op : HandlerStep) :
    (s.exec op).2.handler.stopping = true ∧ ∀ t, decided (s.exec op).2 t ≤ decided s t := by
  have hidle : s.handler ≠ .idle := by
    intro heq
    rw [heq] at hstop
    cases hstop
  cases op with
  | thread t =>
    refine ⟨?_, threadStep_decided (h.stopped hstop) t⟩
    show (s.threadStep t).handler.stopping = true
    rw [(threadStep_spec s t).1]
    exact hstop
  | handler =>
    show s.handlerStep.handler.stopping = true ∧ ∀ t, decided s.handlerStep t ≤ decided s t
    unfold handlerStep
    cases hplace : s.handler with
    | joining t =>
      dsimp only
      split
      · refine ⟨?_, fun _ => Nat.le_refl _⟩
        cases t <;> rfl
      · exact ⟨hstop, fun _ => Nat.le_refl _⟩
    | released => exact ⟨hstop, fun _ => Nat.le_refl _⟩
    | _ =>
      rw [hplace] at hstop
      cases hstop
  | updateAll =>
    simp only [exec, if_neg hidle]
    exact ⟨hstop, fun _ => Nat.le_refl _⟩
  | destroy =>
    simp only [exec, if_neg hidle]
    exact ⟨hstop, fun _ => Nat.le_refl _⟩

theorem exec_released (h : Orderly s) (hreleased : s.handler = .released) (op : HandlerStep) :
    (s.exec op).2 = s := by
  cases op with
  | thread t => exact (threadStep_spec s t).2.2.2 (h.joined t (by rw [hreleased]; trivial))
  | handler =>
    show s.handlerStep = s
    unfold handlerStep
    rw [hreleased]
  | updateAll => exact if_neg (by rw [hreleased]; decide)
  | destroy => exact if_neg (by rw [hreleased]; decide)

/-- **The teardown is safe.** From the moment the flag is cleared every thread begins at most one
more call of the watch table, and when the watch table is released no thread is left, and nothing
happens any more. -/
theorem teardown_safe (mode : RdcOperationMode) (before after : List HandlerStep)
    (hstop : (run exec (init mode) before).handler.stopping = true) :
    (∀ t, (run exec (init mode) (before ++ after)).calls t
        ≤ (run exec (init mode) before).calls t + 1)
      ∧ ((run exec (init mode) before).handler = .released →
          (∀ t, ((run exec (init mode) before).thread t).over = true)
            ∧ run exec (init mode) (before ++ after) = run exec (init mode) before) := by
  have hstart := run_orderly mode before
  rw [show run exec (init mode) (before ++ after) = run exec (run exec (init mode) before) after
    from List.foldl_append ..]
  generalize run exec (init mode) before = s at hstart hstop
  refine ⟨fun t => ?_, fun hreleased => ⟨fun t => ?_, ?_⟩⟩
  · have hend : Orderly (run exec s after) ∧ (run exec s after).handler.stopping = true
        ∧ decided (run exec s after) t ≤ decided s t := run_invariant
      (I := fun s' => Orderly s' ∧ s'.handler.stopping = true ∧ decided s' t ≤ decided s t)
      (fun s' op ⟨hs', hstop', hle⟩ => ⟨exec_orderly hs' op, (exec_stopping hs' hstop' op).1,
        Nat.le_trans ((exec_stopping hs' hstop' op).2 t) hle⟩) ⟨hstart, hstop, Nat.le_refl _⟩ after
    exact Nat.le_trans (calls_le_decided _ t) (Nat.le_trans hend.2.2 (decided_le s t))
  · exact hstart.joined t (by rw [hreleased]; trivial)
  · exact run_invariant (I := (· = s))
      (fun s' op heq => by rw [heq]; exact exec_released hstart hreleased op) rfl after

/-- A thread that has decided on a call when the handler is deleted. -/
def deletedLate : List HandlerStep := [.handler, .handler, .thread .update, .destroy]

theorem teardown_safe_deletedLate :
    (run exec (init .auto) deletedLate).handler.stopping = true
      ∧ (run exec (init .auto) (deletedLate ++ [.thread .update])).calls .update = 1
      ∧ ∀ t, (run exec (init .auto) (deletedLate ++ [.thread .update])).calls t
          ≤ (run exec (init .auto) deletedLate).calls t + 1 :=
  ⟨rfl, rfl, (teardown_safe .auto deletedLate [.thread .update] rfl).1⟩

end Rdc.Proof.Updater
