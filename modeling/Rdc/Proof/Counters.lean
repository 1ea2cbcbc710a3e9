import Rdc.MetricFetcher
import Rdc.Lib.Machine

/-!
# Who owns a counter

A counter of the library belongs to `smi_data_` from the moment it is created. `acquire_smi_handle`
creates it, starts it and drops a capability before it notes the handle, and it notes nothing if one
of the last two fails; `delete_smi_handle` forgets the handle before the counter is destroyed if
stopping it fails. These two exits are where counters are lost, and there is no other
(`countersAccounted_iff`).
-/

namespace Rdc.Proof

open OrdMap Machine Lease MetricFetcher

/-- The handle that is stored for a key. -/
def heldHandle (m : MetricFetcher) (fk : RdcFieldKey) : Option Nat :=
  m.smiData[fk]?.map FieldSMIData.evtHandle

/-- Every counter that was created is stored under its key or has been destroyed. -/
def CountersAccounted (m : MetricFetcher) : Prop :=
  ∀ (handle : Nat) (fk : RdcFieldKey), m.counters.issued[handle]? = some fk →
    (∃ data, m.smiData[fk]? = some data ∧ data.evtHandle = handle)
      ∨ handle ∈ m.counters.returned

theorem countersAccounted_iff_noneLost (m : MetricFetcher) :
    CountersAccounted m ↔ NoneLost m.counters (heldHandle m) := by
  unfold CountersAccounted NoneLost heldHandle Book.Out
  refine ⟨?_, ?_⟩
  · intro h fk handle hout
    rcases h handle fk hout.1 with hdata | hret
    · exact Option.map_eq_some_iff.mpr hdata
    · exact absurd hret hout.2
  · intro h handle fk hissued
    by_cases hret : handle ∈ m.counters.returned
    · exact Or.inr hret
    · exact Or.inl (Option.map_eq_some_iff.mp (h fk handle ⟨hissued, hret⟩))

/-! ## What the two functions do -/

/-- The answers of a call that gets as far as creating a counter. -/
def Creatable (a : CounterAnswers) : Prop :=
  a.groupSupported = AmdsmiStatus.success ∧ a.availableCounters.1 = AmdsmiStatus.success
    ∧ a.availableCounters.2 ≠ 0 ∧ a.acquired = true ∧ a.create = AmdsmiStatus.success

/-- What has to go well after a counter has been created. -/
def Starts (a : CounterAnswers) : Prop := a.relinquished = true ∧ a.start = AmdsmiStatus.success

theorem initSmiCounter_created {a : CounterAnswers} (h : Creatable a) (b : Book RdcFieldKey)
    (fk : RdcFieldKey) :
    ∃ result, initSmiCounter a b fk = (result, some b.next, b.issue fk)
      ∧ (result = .ok ↔ Starts a) := by
  obtain ⟨hgroup, havail, hcount, hacq, hcreate⟩ := h
  unfold initSmiCounter Starts
  rw [if_neg (by simp [hgroup]), if_neg (by simp [havail]), if_neg hcount, if_neg (by simp [hacq]),
    if_neg (by simp [hcreate])]
  dsimp only
  by_cases hrel : a.relinquished = false
  · rw [if_pos hrel]
    exact ⟨_, rfl, by simp [hrel]⟩
  · rw [if_neg hrel]
    exact ⟨_, rfl, by simp [smi2RdcError_eq_ok, hrel]⟩

theorem initSmiCounter_refused {a : CounterAnswers} (h : ¬ Creatable a) (b : Book RdcFieldKey)
    (fk : RdcFieldKey) : ∃ result, initSmiCounter a b fk = (result, none, b) := by
  unfold initSmiCounter
  split_ifs with hgroup havail hcount hacq hcreate
  all_goals first
    | exact ⟨_, rfl⟩
    | exact absurd ⟨not_not.mp hgroup, not_not.mp havail, hcount, by simpa using hacq,
        not_not.mp hcreate⟩ h

/-- The library creates a counter during the call. -/
def Creates (m : MetricFetcher) (a : CounterAnswers) (fk : RdcFieldKey) : Prop :=
  eventGroup fk.2 ≠ none ∧ fk ∉ m.smiData ∧ Creatable a

/-- **`acquire_smi_handle`.** Without a counter created nothing changes; a counter that is created
is noted exactly when it starts and the capability is given back. -/
theorem acquireSmiHandle_cases (m : MetricFetcher) (a : CounterAnswers) (fk : RdcFieldKey) :
    (¬ Creates m a fk ∧ (m.acquireSmiHandle a fk).2 = m)
    ∨ (Creates m a fk ∧ Starts a ∧ (m.acquireSmiHandle a fk).2 = { m with
        smiData := m.smiData.insert fk ⟨m.counters.next, ⟨0, 0, 0⟩⟩
        counters := m.counters.issue fk })
    ∨ (Creates m a fk ∧ ¬ Starts a
        ∧ (m.acquireSmiHandle a fk).2 = { m with counters := m.counters.issue fk }) := by
  unfold acquireSmiHandle
  by_cases hgroup : eventGroup fk.2 = none
  · rw [if_pos hgroup]
    exact Or.inl ⟨fun hc => hc.1 hgroup, rfl⟩
  rw [if_neg hgroup]
  by_cases hmem : fk ∈ m.smiData
  · rw [if_pos hmem]
    exact Or.inl ⟨fun hc => hc.2.1 hmem, rfl⟩
  rw [if_neg hmem]
  -- the handle is stored only after the counter has been started
  by_cases ha : Creatable a
  · obtain ⟨result, heq, hok⟩ := initSmiCounter_created ha m.counters fk
    rw [heq]
    by_cases hs : Starts a
    · rw [hok.mpr hs]
      exact Or.inr (Or.inl ⟨⟨hgroup, hmem, ha⟩, hs, rfl⟩)
    · have hne : result ≠ .ok := fun h => hs (hok.mp h)
      refine Or.inr (Or.inr ⟨⟨hgroup, hmem, ha⟩, hs, ?_⟩)
      cases result with
      | ok => exact absurd rfl hne
      | _ => rfl
  · obtain ⟨result, heq⟩ := initSmiCounter_refused ha m.counters fk
    rw [heq]
    refine Or.inl ⟨fun hc => ha hc.2.2, ?_⟩
    cases result <;> rfl

/-- **`delete_smi_handle`.** What was stored is forgotten; it is returned exactly when the counter
could be stopped. -/
theorem deleteSmiHandle_cases (m : MetricFetcher) (a : CounterAnswers) (fk : RdcFieldKey) :
    ((eventGroup fk.2 = none ∨ m.smiData[fk]? = none) ∧ (m.deleteSmiHandle a fk).2 = m)
    ∨ ∃ data, eventGroup fk.2 ≠ none ∧ m.smiData[fk]? = some data
      ∧ ((a.stop ≠ AmdsmiStatus.success
          ∧ (m.deleteSmiHandle a fk).2 = { m with smiData := m.smiData.erase fk })
        ∨ (a.stop = AmdsmiStatus.success ∧ (m.deleteSmiHandle a fk).2 = { m with
            smiData := m.smiData.erase fk
            counters := m.counters.takeBack data.evtHandle })) := by
  unfold deleteSmiHandle
  by_cases hgroup : eventGroup fk.2 = none
  · rw [if_pos hgroup]
    exact Or.inl ⟨Or.inl hgroup, rfl⟩
  rw [if_neg hgroup]
  cases hdata : m.smiData[fk]? with
  | none => exact Or.inl ⟨Or.inr rfl, rfl⟩
  | some data =>
    refine Or.inr ⟨data, hgroup, rfl, ?_⟩
    dsimp only
    by_cases hstop : a.stop = AmdsmiStatus.success
    · rw [if_neg (not_not.mpr hstop)]
      exact Or.inr ⟨hstop, rfl⟩
    · rw [if_pos hstop]
      exact Or.inl ⟨hstop, rfl⟩

variable {m : MetricFetcher}

theorem heldHandle_of_getElem? {fk : RdcFieldKey} {data : FieldSMIData}
    (h : m.smiData[fk]? = some data) : heldHandle m fk = some data.evtHandle := by
  unfold heldHandle
  rw [h]
  rfl

theorem heldHandle_insert (m : MetricFetcher) (fk a : RdcFieldKey) (data : FieldSMIData)
    (counters : Book RdcFieldKey) :
    heldHandle { m with smiData := m.smiData.insert fk data, counters := counters } a
      = if fk = a then some data.evtHandle else heldHandle m a := by
  unfold heldHandle
  dsimp only
  rw [getElem?_insert']
  split <;> rfl

theorem heldHandle_erase (m : MetricFetcher) (fk a : RdcFieldKey) (counters : Book RdcFieldKey) :
    heldHandle { m with smiData := m.smiData.erase fk, counters := counters } a
      = if fk = a then none else heldHandle m a := by
  unfold heldHandle
  dsimp only
  rw [getElem?_erase']
  split <;> rfl

theorem heldHandle_eq_none {fk : RdcFieldKey} : heldHandle m fk = none ↔ fk ∉ m.smiData := by
  unfold heldHandle
  rw [not_mem_iff_getElem?, Option.map_eq_none_iff]

/-! ## Every sequence of calls -/

/-- The call creates a counter it does not note, or forgets one it cannot stop. -/
def LosesCounter (m : MetricFetcher) : CounterOp → Prop
  | .acquire fk a => Creates m a fk ∧ ¬ Starts a
  | .delete fk a => eventGroup fk.2 ≠ none ∧ fk ∈ m.smiData ∧ a.stop ≠ AmdsmiStatus.success

/-- Stored handles are those of counters that exist, whatever the calls do. -/
theorem holds_execCounter (h : Holds m.counters (heldHandle m)) (op : CounterOp) :
    Holds (m.execCounter op).2.counters (heldHandle (m.execCounter op).2) := by
  cases op with
  | acquire fk a =>
    show Holds (m.acquireSmiHandle a fk).2.counters (heldHandle (m.acquireSmiHandle a fk).2)
    rcases acquireSmiHandle_cases m a fk with ⟨_, heq⟩ | ⟨_, _, heq⟩ | ⟨_, _, heq⟩ <;> rw [heq]
    · exact h
    · exact h.keep fk fun k => heldHandle_insert ..
    · exact h.lose fk
  | delete fk a =>
    show Holds (m.deleteSmiHandle a fk).2.counters (heldHandle (m.deleteSmiHandle a fk).2)
    rcases deleteSmiHandle_cases m a fk with
      ⟨_, heq⟩ | ⟨data, _, hdata, ⟨_, heq⟩ | ⟨_, heq⟩⟩ <;> rw [heq]
    · exact h
    · exact h.drop fun k => heldHandle_erase m fk k m.counters
    · exact h.giveBack (heldHandle_of_getElem? hdata) fun k => heldHandle_erase m fk k _

/-- One call loses no counter exactly when it is not one of the two bad exits. -/
theorem noneLost_execCounter (h : Holds m.counters (heldHandle m))
    (hn : NoneLost m.counters (heldHandle m)) (op : CounterOp) :
    NoneLost (m.execCounter op).2.counters (heldHandle (m.execCounter op).2)
      ↔ ¬ LosesCounter m op := by
  cases op with
  | acquire fk a =>
    show NoneLost (m.acquireSmiHandle a fk).2.counters (heldHandle (m.acquireSmiHandle a fk).2)
      ↔ ¬ (Creates m a fk ∧ ¬ Starts a)
    rcases acquireSmiHandle_cases m a fk with ⟨hc, heq⟩ | ⟨hc, hs, heq⟩ | ⟨hc, hs, heq⟩ <;>
      rw [heq]
    · exact iff_of_true hn fun hl => hc hl.1
    · exact iff_of_true (hn.keep h (heldHandle_eq_none.mpr hc.2.1) fun k => heldHandle_insert ..)
        fun hl => hl.2 hs
    · exact iff_of_false (not_noneLost_lose h fk) fun hl => hl ⟨hc, hs⟩
  | delete fk a =>
    show NoneLost (m.deleteSmiHandle a fk).2.counters (heldHandle (m.deleteSmiHandle a fk).2)
      ↔ ¬ (eventGroup fk.2 ≠ none ∧ fk ∈ m.smiData ∧ a.stop ≠ AmdsmiStatus.success)
    rcases deleteSmiHandle_cases m a fk with
      ⟨hno, heq⟩ | ⟨data, hgroup, hdata, ⟨hstop, heq⟩ | ⟨hstop, heq⟩⟩ <;> rw [heq]
    · refine iff_of_true hn fun hl => ?_
      rcases hno with hgroup | hnone
      · exact hl.1 hgroup
      · exact (not_mem_iff_getElem? m.smiData fk).mpr hnone hl.2.1
    · exact iff_of_false
        (not_noneLost_drop h (heldHandle_of_getElem? hdata)
          fun k => heldHandle_erase m fk k m.counters)
        fun hl => hl ⟨hgroup, mem_of_getElem? hdata, hstop⟩
    · exact iff_of_true
        (hn.giveBack (heldHandle_of_getElem? hdata) fun k => heldHandle_erase m fk k _)
        fun hl => hl.2.2 hstop

theorem holds_init : Holds MetricFetcher.init.counters (heldHandle MetricFetcher.init) :=
  Holds.empty fun fk => by
    show (∅ : KeyMap FieldSMIData)[fk]?.map _ = none
    rw [Std.ExtTreeMap.getElem?_empty]
    rfl

/-- **No counter is lost** after any of the calls exactly when none of them takes a bad exit. -/
theorem countersAccounted_iff (ops : List CounterOp) :
    (∀ done rest, ops = done ++ rest → CountersAccounted (run execCounter MetricFetcher.init done))
      ↔ Along execCounter (fun m op => ¬ LosesCounter m op) MetricFetcher.init ops := by
  simp only [countersAccounted_iff_noneLost]
  exact Along.iff_forall_reached (G := fun m => Holds m.counters (heldHandle m))
    (fun m op h _ => holds_execCounter h op) (fun m op h _ hn => noneLost_execCounter h hn op)
    holds_init NoneLost.empty Along.always

/-- A counter that is created but cannot be started is neither stored nor destroyed. -/
theorem not_countersAccounted_start :
    ¬ CountersAccounted
      (run execCounter MetricFetcher.init
        [.acquire (0, rdcEvntXgmi0NopTx) { CounterAnswers.granted with start := 16 }]) := by
  intro h
  have hissued : (run execCounter MetricFetcher.init
      [.acquire (0, rdcEvntXgmi0NopTx)
        { CounterAnswers.granted with start := 16 }]).counters.issued[0]?
        = some (0, rdcEvntXgmi0NopTx) := by decide +kernel
  rcases h 0 (0, rdcEvntXgmi0NopTx) hissued with ⟨data, hdata, _⟩ | hret
  · exact absurd (mem_of_getElem? hdata) (by decide +kernel)
  · exact absurd hret (by decide +kernel)

end Rdc.Proof
