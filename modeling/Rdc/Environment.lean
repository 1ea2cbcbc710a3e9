import Rdc.System

/-!
# The world around the daemon

The operations take their clock readings, and whatever the modules answer, as arguments, so the runs
of the machine contain every behaviour of the outside. Results about time and about telemetry assume
the following of it.

There is one clock. The daemon reads it, and so do the telemetry modules, which stamp a value while
they fetch it, and the notification module, which stamps a batch of events. If the clock never goes
back, the readings of a call fall into the stretch of time the call takes, in the order they are
made (`Op.Between`). The modules answer what they are asked: telemetry delivers one value for each
requested key, labelled with that key, and what is reported as an event is one (`Answers`).
-/

namespace Rdc

open Machine

/-- The key a delivered value is labelled with. -/
def RdcGpuFieldValue.key (v : RdcGpuFieldValue) : RdcFieldKey := (v.gpuIndex, v.fieldValue.fieldId)

/-- An event as a delivered value, with the clock reading that becomes its timestamp. -/
def RdcEvntNotification.delivery (e : RdcEvntNotification) : Nat × RdcGpuFieldValue :=
  (e.field.ts, ⟨e.gpuId, e.field⟩)

/-- The clock readings of a call lie between `lo` and `hi`, in the order the call makes them. -/
def Op.Between (lo hi : Nat) : Op → Prop
  | .fieldUnwatch _ _ now => lo ≤ now ∧ now ≤ hi
  | .fieldUpdateAll now delivered clock =>
    lo ≤ now ∧ now ≤ clock.now
      -- a good value is stamped inside the fetch, before its callback reads the clock
      ∧ (∀ v ∈ delivered, now ≤ v.1 ∧ v.1 ≤ clock.now
        ∧ (v.2.fieldValue.status = 0 → now ≤ v.2.fieldValue.ts ∧ v.2.fieldValue.ts ≤ v.1))
      ∧ clock.now ≤ hi ∧ ∀ k, clock.now ≤ clock.evict k ∧ clock.evict k ≤ hi
  | .notifUpdateCache events => lo ≤ hi ∧ ∀ e ∈ events, lo ≤ e.field.ts ∧ e.field.ts ≤ hi
  | .jobStopStats _ _ clock => lo ≤ clock.now ∧ clock.now ≤ hi
  | .jobRemove _ clock => lo ≤ clock.now ∧ clock.now ≤ hi
  | .jobRemoveAll clock => lo ≤ hi ∧ ∀ jobId, lo ≤ (clock jobId).now ∧ (clock jobId).now ≤ hi
  | _ => lo ≤ hi

theorem Op.Between.le {lo hi : Nat} {op : Op} (h : op.Between lo hi) : lo ≤ hi := by
  cases op with
  | fieldUnwatch g fg now => exact le_trans h.1 h.2
  | fieldUpdateAll now delivered clock =>
    obtain ⟨h1, h2, -, h3, -⟩ := h
    exact le_trans h1 (le_trans h2 h3)
  | notifUpdateCache events => exact h.1
  | jobStopStats j gauges clock => exact le_trans h.1 h.2
  | jobRemove j clock => exact le_trans h.1 h.2
  | jobRemoveAll clock => exact h.1
  | _ => exact h

/-- The run takes place on a clock that never goes back. -/
def ClockForward (ops : List Op) : Prop := Clocked Op.Between 0 ops

/-- The modules answer what they were asked. -/
def Answers (d : Daemon) : Op → Prop
  | .fieldUpdateAll now delivered _ =>
    (delivered.map fun v => v.2.key).Perm (d.fieldsToFetch now)
  | .notifUpdateCache events => ∀ e ∈ events, isNotificationEvent e.field.fieldId = true
  | _ => True

instance (d : Daemon) : (op : Op) → Decidable (Answers d op)
  | .fieldUpdateAll now delivered _ =>
    inferInstanceAs (Decidable ((delivered.map fun v => v.2.key).Perm (d.fieldsToFetch now)))
  | .notifUpdateCache events =>
    inferInstanceAs (Decidable (∀ e ∈ events, isNotificationEvent e.field.fieldId = true))
  | .fieldWatch .. | .fieldUnwatch .. | .jobStartStats .. | .jobStopStats .. | .jobRemove ..
  | .jobRemoveAll .. | .jobGetStats .. | .groupGpuCreate .. | .groupGpuAdd ..
  | .groupGpuDestroy .. | .groupFieldCreate .. | .groupFieldDestroy .. => isTrue trivial

end Rdc
