import Rdc.Profiler
import Rdc.SmiLib
import Rdc.Lib.Machine
import Mathlib.Algebra.BigOperators.Group.List.Basic
import Mathlib.Data.List.Sort

/-!
# The averaging table of the profiler

The table is made by a loop over the GPUs that passes the list of supported metrics on from one GPU
to the next. So a GPU is given the fields of all the GPUs before it as well, and the table is right
exactly if no GPU supports less than one before it (`perGpu_iff`).

A buffer of the table holds the last five raw values of its pair, whatever the other calls are
(`average_window`); that is the ring of the library, once for each pair.
-/

namespace Rdc.Proof

open Std (ExtTreeMap)
open OrdMap RdcRocpBase

/-! ## The GPUs and what they support -/

/-- The profiler lists the metric for the agent. -/
def Supports (infos : List RocprofilerInfo) (agent : HsaAgent) (metric : String) : Prop :=
  ∃ node, agent.driverNodeId = some node ∧ ⟨node, metric⟩ ∈ infos

/-- The GPUs among the agents, in their order. -/
def gpuAgents (agents : List HsaAgent) : List HsaAgent :=
  agents.filter fun agent => agent.device = some .gpu

theorem getAgents_eq {agents : List HsaAgent} (h : ∀ agent ∈ agents, agent.device ≠ none) :
    getAgents agents = some (gpuAgents agents) := by
  induction agents with
  | nil => rfl
  | cons agent agents ih =>
    obtain ⟨device, hdevice⟩ := Option.ne_none_iff_exists'.mp (h agent (List.mem_cons_self ..))
    unfold getAgents gpuAgents
    rw [hdevice, ih fun agent' h' => h agent' (List.mem_cons_of_mem _ h')]
    by_cases hgpu : device = .gpu <;> simp [hdevice, hgpu, gpuAgents]

variable {infos : List RocprofilerInfo} {gpus : List HsaAgent} {b : RdcRocpBase}

theorem mem_checkMetricsSupported {node : Nat} {metricsAll metricsGood : List String}
    {metric : String} :
    metric ∈ checkMetricsSupported infos node metricsAll metricsGood
      ↔ metric ∈ metricsGood ∨ metric ∈ metricsAll ∧ ⟨node, metric⟩ ∈ infos := by
  unfold checkMetricsSupported
  induction infos generalizing metricsGood with
  | nil => simp
  | cons info infos ih =>
    rw [List.foldl_cons, ih]
    obtain ⟨agentIndex, name⟩ := info
    by_cases hnode : agentIndex = node
    · by_cases hall : name ∈ metricsAll
      · by_cases hname : metric = name <;> simp [hnode, hall, hname]
      · have hne : metric ∈ metricsAll → metric ≠ name := fun h heq => hall (heq ▸ h)
        simp only [hnode, if_true, List.contains_eq_mem, hall, decide_false, Bool.false_eq_true,
          if_false, List.mem_cons, RocprofilerInfo.mk.injEq, true_and]
        exact or_congr_right (and_congr_right fun h => (or_iff_right (hne h)).symm)
    · simp [hnode, Ne.symm hnode]

/-! ## The fields of one GPU -/

/-- The metric of the field is in the list. -/
def FieldChecked (checkedFields : List String) (field : Nat) : Prop :=
  ∃ metric, (field, metric) ∈ tempFieldMapK ∧ metric ∈ checkedFields

section Insert

variable {gpuIndex : Nat} {checkedFields : List String}

/-- The fields that are inserted. -/
def checkedPairs (checkedFields : List String) : List (Nat × String) :=
  tempFieldMapK.filter fun p => checkedFields.contains p.2

theorem mem_checkedPairs {field : Nat} :
    field ∈ (checkedPairs checkedFields).map Prod.fst ↔ FieldChecked checkedFields field := by
  simp [checkedPairs, FieldChecked]

/-- The loop over the fields is two loops over those that are inserted. -/
theorem insertFields_eq (b : RdcRocpBase) :
    insertFields gpuIndex checkedFields b
      = ⟨(checkedPairs checkedFields).foldl (fun m p => m.insertIfNew p.1 p.2) b.fieldToMetric,
          (((checkedPairs checkedFields).map fun p => (gpuIndex, p.1)).foldl
            (fun m k => m.insertIfNew k emptyAverage) b.average)⟩ := by
  unfold insertFields checkedPairs
  generalize tempFieldMapK = pairs
  induction pairs generalizing b with
  | nil => rfl
  | cons p pairs ih =>
    rw [List.foldl_cons, ih, List.filter_cons]
    by_cases hp : checkedFields.contains p.2 = true
    · rw [if_pos hp, if_pos hp]
      rfl
    · rw [if_neg hp, if_neg hp]

theorem mem_insertIfNew_foldl (pairs : List (Nat × String)) (m : IdMap String) (field : Nat) :
    field ∈ pairs.foldl (fun m p => m.insertIfNew p.1 p.2) m
      ↔ field ∈ m ∨ field ∈ pairs.map Prod.fst := by
  induction pairs generalizing m with
  | nil => simp
  | cons p pairs ih =>
    rw [List.foldl_cons, ih, ExtTreeMap.mem_insertIfNew, List.map_cons, List.mem_cons,
      Std.LawfulEqCmp.compare_eq_iff_eq]
    simp only [eq_comm (a := p.1), or_assoc, or_left_comm]

theorem mem_fieldToMetric_insertFields (b : RdcRocpBase) (field : Nat) :
    field ∈ (insertFields gpuIndex checkedFields b).fieldToMetric
      ↔ field ∈ b.fieldToMetric ∨ FieldChecked checkedFields field := by
  rw [insertFields_eq, mem_insertIfNew_foldl, mem_checkedPairs]

open Classical in
theorem average_insertFields (b : RdcRocpBase) (k : RdcFieldKey) :
    (insertFields gpuIndex checkedFields b).average[k]?
      = b.average[k]?.or (if k.1 = gpuIndex ∧ FieldChecked checkedFields k.2
          then some emptyAverage else none) := by
  rw [insertFields_eq, getElem?_foldl_insertIfNew (fun _ => emptyAverage)]
  have hmem : k ∈ (checkedPairs checkedFields).map (fun p => (gpuIndex, p.1))
      ↔ k.1 = gpuIndex ∧ FieldChecked checkedFields k.2 := by
    rw [← mem_checkedPairs]
    obtain ⟨gpu, field⟩ := k
    simp [eq_comm (a := gpu), and_comm]
  simp only [hmem]

end Insert

/-! ## The loop over the GPUs -/

/-- One of the agents supports the metric of the field. -/
def SomeSupports (infos : List RocprofilerInfo) (agents : List HsaAgent) (field : Nat) : Prop :=
  ∃ metric, (field, metric) ∈ tempFieldMapK ∧ ∃ agent ∈ agents, Supports infos agent metric

theorem someSupports_iff {agents : List HsaAgent} {field : Nat} :
    SomeSupports infos agents field ↔ ∃ agent ∈ agents, SomeSupports infos [agent] field := by
  constructor
  · rintro ⟨metric, hfield, agent, hmem, hsupp⟩
    exact ⟨agent, hmem, metric, hfield, agent, List.mem_singleton_self agent, hsupp⟩
  · rintro ⟨agent, hmem, metric, hfield, agent', hagent', hsupp⟩
    exact ⟨metric, hfield, agent', List.mem_singleton.mp hagent' ▸ hmem, hsupp⟩

/-- After the turns of `gpus`: what has been checked has piled up, and the fields of a GPU are those
that it or a GPU before it supports. -/
structure Piled (infos : List RocprofilerInfo) (gpus : List HsaAgent) (s : AgentLoop) : Prop where
  checked : ∀ metric, metric ∈ s.checkedFields
    ↔ metric ∈ tempFieldMapK.map Prod.snd ∧ ∃ agent ∈ gpus, Supports infos agent metric
  fields : ∀ field, field ∈ s.base.fieldToMetric ↔ SomeSupports infos gpus field
  table : ∀ k : RdcFieldKey, k ∈ s.base.average
    ↔ k.1 < gpus.length ∧ SomeSupports infos (gpus.take (k.1 + 1)) k.2

theorem fieldChecked_iff {s : AgentLoop} (h : ∀ metric, metric ∈ s.checkedFields
      ↔ metric ∈ tempFieldMapK.map Prod.snd ∧ ∃ agent ∈ gpus, Supports infos agent metric)
    (field : Nat) : FieldChecked s.checkedFields field ↔ SomeSupports infos gpus field := by
  refine exists_congr fun metric => and_congr_right fun hfield => ?_
  rw [h]
  exact and_iff_right (List.mem_map.mpr ⟨_, hfield, rfl⟩)

/-- **Step.** -/
theorem Piled.turn {s : AgentLoop} (h : Piled infos gpus s) {agent : HsaAgent}
    (hnode : agent.driverNodeId ≠ none) :
    Piled infos (gpus ++ [agent]) (agentTurn infos s (agent, gpus.length)) := by
  obtain ⟨node, hnode⟩ := Option.ne_none_iff_exists'.mp hnode
  have hsupports : ∀ metric, Supports infos agent metric ↔ ⟨node, metric⟩ ∈ infos := by
    intro metric
    unfold Supports
    rw [hnode]
    simp
  have hchecked : ∀ metric, metric ∈ (agentTurn infos s (agent, gpus.length)).checkedFields
      ↔ metric ∈ tempFieldMapK.map Prod.snd
        ∧ ∃ agent' ∈ gpus ++ [agent], Supports infos agent' metric := by
    intro metric
    unfold agentTurn
    dsimp only
    rw [hnode, Option.getD_some, mem_checkMetricsSupported, h.checked, ← hsupports]
    simp only [List.mem_append, List.mem_singleton, or_and_right, exists_or, exists_eq_left,
      and_or_left]
  have hpiled := fieldChecked_iff hchecked
  have hlen : (gpus ++ [agent]).length = gpus.length + 1 := List.length_append
  have hget : ∀ k, (agentTurn infos s (agent, gpus.length)).base.average[k]? = _ :=
    fun k => average_insertFields s.base k
  refine ⟨hchecked, fun field => ?_, fun k => ?_⟩
  · refine (mem_fieldToMetric_insertFields s.base field).trans ?_
    rw [h.fields]
    refine (or_congr_right (hpiled field)).trans (or_iff_right_of_imp ?_)
    rintro ⟨metric, hfield, agent', hmem, hsupp⟩
    exact ⟨metric, hfield, agent', List.mem_append_left _ hmem, hsupp⟩
  · rw [ExtTreeMap.mem_iff_isSome_getElem?, hget, Option.isSome_or, Bool.or_eq_true,
      ← ExtTreeMap.mem_iff_isSome_getElem?, h.table, hlen]
    rcases Nat.lt_trichotomy k.1 gpus.length with hlt | heq | hgt
    · rw [List.take_append_of_le_length hlt]
      simp [hlt, hlt.ne, Nat.lt_succ_of_lt hlt]
    · rw [heq, ← hlen, List.take_length]
      simp only [Nat.lt_irrefl, false_and, true_and, false_or, hlen, Nat.lt_succ_self]
      rw [← hpiled]
      simp [agentTurn]
    · simp [hgt.ne', Nat.not_lt.mpr hgt.le, Nat.not_lt.mpr (Nat.succ_le_of_lt hgt)]

/-- **Run.** -/
theorem piled_foldl (infos : List RocprofilerInfo)
    (hnode : ∀ agent ∈ gpus, agent.driverNodeId ≠ none) :
    Piled infos gpus (gpus.zipIdx.foldl (agentTurn infos) ⟨0, [], ⟨∅, ∅⟩⟩) := by
  induction gpus using List.reverseRecOn with
  | nil => exact ⟨by simp, by simp [SomeSupports], by simp⟩
  | append_singleton gpus agent ih =>
    have hrest := ih fun agent' h => hnode agent' (List.mem_append_left _ h)
    rw [List.zipIdx_append, List.foldl_append, Nat.zero_add]
    exact hrest.turn (hnode agent (by simp))

theorem create_piled {a : RocpAnswers} (hinit : a.hsaInit = true)
    (hdevice : ∀ agent ∈ a.agents, agent.device ≠ none)
    (hnode : ∀ agent ∈ a.agents, agent.driverNodeId ≠ none) :
    ∃ s : AgentLoop, create a = some s.base ∧ Piled a.infos (gpuAgents a.agents) s := by
  refine ⟨_, ?_, piled_foldl a.infos fun agent h => hnode agent (List.mem_of_mem_filter h)⟩
  unfold create
  rw [if_pos hinit, getAgents_eq hdevice]

/-- The table has a buffer for a GPU and a field exactly if the GPU supports the metric of the
field, and the fields are those that some GPU supports. -/
def PerGpu (infos : List RocprofilerInfo) (gpus : List HsaAgent) (b : RdcRocpBase) : Prop :=
  (∀ gpu field, (gpu, field) ∈ b.average
    ↔ ∃ agent, gpus[gpu]? = some agent ∧ SomeSupports infos [agent] field)
  ∧ ∀ field, field ∈ b.fieldToMetric ↔ SomeSupports infos gpus field

/-- **The table is right exactly if** each GPU supports whatever a GPU before it supports. -/
theorem perGpu_iff (a : RocpAnswers) (hinit : a.hsaInit = true)
    (hdevice : ∀ agent ∈ a.agents, agent.device ≠ none)
    (hnode : ∀ agent ∈ a.agents, agent.driverNodeId ≠ none) :
    (∃ b, create a = some b ∧ PerGpu a.infos (gpuAgents a.agents) b)
      ↔ (gpuAgents a.agents).Pairwise fun agent later =>
          ∀ field, SomeSupports a.infos [agent] field → SomeSupports a.infos [later] field := by
  obtain ⟨s, hcreate, hpiled⟩ := create_piled hinit hdevice hnode
  generalize gpuAgents a.agents = gpus at hpiled ⊢
  rw [hcreate, List.pairwise_iff_getElem]
  constructor
  · rintro ⟨b, hb, htable, -⟩ i j hi hj hij field hsupp
    obtain rfl := Option.some.inj hb
    -- the later GPU is given the field of the earlier one, so it must support it
    have hmem : gpus[i] ∈ gpus.take (j + 1) :=
      List.mem_take_iff_getElem.mpr ⟨i, by omega, rfl⟩
    have hentry : (j, field) ∈ s.base.average :=
      (hpiled.table (j, field)).mpr ⟨hj, someSupports_iff.mpr ⟨_, hmem, hsupp⟩⟩
    obtain ⟨agent, hagent, hsupp'⟩ := (htable j field).mp hentry
    rw [List.getElem?_eq_getElem hj, Option.some.injEq] at hagent
    exact hagent ▸ hsupp'
  · intro hmono
    refine ⟨s.base, rfl, fun gpu field => ?_, hpiled.fields⟩
    rw [hpiled.table]
    constructor
    · rintro ⟨hgpu, hsome⟩
      obtain ⟨agent, hagent, hsupp⟩ := someSupports_iff.mp hsome
      obtain ⟨i, hi, rfl⟩ := List.mem_take_iff_getElem.mp hagent
      refine ⟨gpus[gpu], List.getElem?_eq_getElem hgpu, ?_⟩
      rcases Nat.lt_or_eq_of_le (show i ≤ gpu by omega) with hlt | rfl
      · exact hmono i gpu _ hgpu hlt field hsupp
      · exact hsupp
    · rintro ⟨agent, hagent, hsupp⟩
      obtain ⟨hgpu, rfl⟩ := List.getElem?_eq_some_iff.mp hagent
      exact ⟨hgpu, someSupports_iff.mpr
        ⟨_, List.mem_take_iff_getElem.mpr ⟨gpu, by omega, rfl⟩, hsupp⟩⟩

/-- Two GPUs, of which only the first has the metric of the first field. -/
def mixedGpus : RocpAnswers where
  hsaInit := true
  agents := [⟨some .cpu, some 0⟩, ⟨some .gpu, some 1⟩, ⟨some .gpu, some 2⟩]
  infos := [⟨1, "OccupancyPercent"⟩, ⟨1, "SQ_WAVES"⟩, ⟨2, "SQ_WAVES"⟩]

theorem perGpu_sameGpus :
    ∃ b, create { mixedGpus with infos := [⟨1, "SQ_WAVES"⟩, ⟨2, "SQ_WAVES"⟩] } = some b
      ∧ PerGpu [⟨1, "SQ_WAVES"⟩, ⟨2, "SQ_WAVES"⟩] (gpuAgents mixedGpus.agents) b := by
  refine (perGpu_iff { mixedGpus with infos := [⟨1, "SQ_WAVES"⟩, ⟨2, "SQ_WAVES"⟩] } rfl
    (by decide) (by decide)).mpr ?_
  have hgpus : gpuAgents mixedGpus.agents = [⟨some .gpu, some 1⟩, ⟨some .gpu, some 2⟩] := by decide
  show (gpuAgents mixedGpus.agents).Pairwise _
  rw [hgpus]
  refine List.pairwise_pair.mpr fun field hsupp => ?_
  obtain ⟨metric, hfield, agent, hagent, node, hnode, hinfo⟩ := hsupp
  obtain rfl := List.mem_singleton.mp hagent
  obtain rfl := Option.some.inj hnode
  have hmetric : metric = "SQ_WAVES" := by simpa using hinfo
  exact ⟨metric, hfield, _, List.mem_singleton_self _, 2, rfl, by simp [hmetric]⟩

/-- The second GPU is given a buffer for the metric it does not have. -/
theorem not_perGpu_mixedGpus :
    ∃ b, create mixedGpus = some b
      ∧ (1, 800) ∈ b.average
      ∧ ¬ PerGpu mixedGpus.infos (gpuAgents mixedGpus.agents) b := by
  have hentry : (create mixedGpus).map (fun b => decide ((1, 800) ∈ b.average)) = some true := by
    decide +kernel
  obtain ⟨b, hb, hmem⟩ := Option.map_eq_some_iff.mp hentry
  refine ⟨b, hb, of_decide_eq_true hmem, fun h => ?_⟩
  obtain ⟨agent, hagent, metric, hfield, agent', hagent', node, hnode, hinfo⟩ :=
    (h.1 1 800).mp (of_decide_eq_true hmem)
  have hsecond : (gpuAgents mixedGpus.agents)[1]? = some ⟨some .gpu, some 2⟩ := by decide
  rw [hsecond, Option.some.injEq] at hagent
  obtain rfl := List.mem_singleton.mp hagent'
  rw [← hagent, Option.some.injEq] at hnode
  have hmetric : metric = "OccupancyPercent" := by simpa [tempFieldMapK] using hfield
  rw [← hnode, hmetric] at hinfo
  exact absurd hinfo (by decide)

/-! ## The averages -/

/-- No buffer of the table has a value. -/
def AllEmpty (b : RdcRocpBase) : Prop :=
  ∀ (k : RdcFieldKey) avg, b.average[k]? = some avg → avg = emptyAverage

theorem AllEmpty.insertFields (h : AllEmpty b) (gpuIndex : Nat) (checkedFields : List String) :
    AllEmpty (RdcRocpBase.insertFields gpuIndex checkedFields b) := by
  intro k avg hk
  rw [average_insertFields] at hk
  cases hold : b.average[k]? with
  | some old =>
    rw [hold, Option.some_or, Option.some.injEq] at hk
    exact hk ▸ h k old hold
  | none =>
    rw [hold, Option.none_or] at hk
    split at hk
    · exact (Option.some.inj hk).symm
    · simp at hk

theorem create_allEmpty {a : RocpAnswers} (hb : create a = some b) : AllEmpty b := by
  have hstart : AllEmpty ⟨∅, ∅⟩ := fun k avg hk => absurd hk (by simp)
  have hloop : ∀ (gpus : List (HsaAgent × Nat)) (s : AgentLoop), AllEmpty s.base →
      AllEmpty (gpus.foldl (agentTurn a.infos) s).base := by
    intro gpus
    induction gpus with
    | nil => exact fun _ h => h
    | cons p gpus ih => exact fun s h => ih _ (h.insertFields _ _)
  unfold create at hb
  split at hb
  · split at hb
    · exact Option.some.inj hb ▸ hstart
    · exact Option.some.inj hb ▸ hloop _ _ hstart
  · simp at hb

/-- Each buffer holds the last values given for its pair. -/
def Averages (ops : List AverageOp) (b : RdcRocpBase) : Prop :=
  ∀ (pair : RdcFieldKey) avg, b.average[pair]? = some avg → avg.Holds (rawValues pair ops)

theorem rawValues_concat (pair : RdcFieldKey) (ops : List AverageOp) (op : AverageOp) :
    rawValues pair (ops ++ [op])
      = match op with
        | .getAverage p rawValue =>
          if p = pair then rawValues pair ops ++ [rawValue] else rawValues pair ops
        | .resetAverage p => if p = pair then [] else rawValues pair ops := by
  unfold rawValues
  rw [List.foldl_append]
  rfl

/-- What a call does to the buffer of a pair. -/
def bufferAfter (pair : RdcFieldKey) (op : AverageOp) (avg : RdcAverage) : RdcAverage :=
  match op with
  | .getAverage p rawValue => if p = pair then avg.push rawValue else avg
  | .resetAverage p => if p = pair then emptyAverage else avg

theorem getAverage_of_some {pair : RdcFieldKey} {avg : RdcAverage} (h : b.average[pair]? = some avg)
    (rawValue : ℚ) :
    b.getAverage pair rawValue
      = (some ((avg.push rawValue).buffer.sum / (avg.push rawValue).buffer.length),
          { b with average := b.average.insert pair (avg.push rawValue) }) := by
  unfold getAverage
  rw [h]

/-- A call changes the buffer of its own pair, if there is one. -/
theorem average_exec (b : RdcRocpBase) (op : AverageOp) (pair : RdcFieldKey) :
    (b.exec op).2.average[pair]? = b.average[pair]?.map (bufferAfter pair op) := by
  cases op with
  | getAverage p rawValue =>
    show (b.getAverage p rawValue).2.average[pair]? = _
    by_cases hp : p = pair
    · subst hp
      cases hget : b.average[p]? with
      | none =>
        unfold getAverage
        rw [hget]
        exact hget
      | some avg =>
        rw [getAverage_of_some hget, getElem?_insert', if_pos rfl]
        simp [bufferAfter]
    · have hother : (b.getAverage p rawValue).2.average[pair]? = b.average[pair]? := by
        unfold getAverage
        split
        · rfl
        · exact (getElem?_insert' ..).trans (if_neg hp)
      rw [hother]
      cases b.average[pair]? <;> simp [bufferAfter, hp]
  | resetAverage p =>
    show (b.resetAverage p).average[pair]? = _
    unfold resetAverage
    cases hget : b.average[p]? with
    | none =>
      by_cases hp : p = pair
      · rw [← hp, hget, Option.map_none]
      · cases b.average[pair]? <;> simp [bufferAfter, hp]
    | some avg =>
      dsimp only
      rw [getElem?_insert']
      by_cases hp : p = pair
      · rw [if_pos hp, ← hp, hget]
        simp [bufferAfter]
      · rw [if_neg hp]
        cases b.average[pair]? <;> simp [bufferAfter, hp]

/-- **Step.** -/
theorem Averages.exec {ops : List AverageOp} (h : Averages ops b) (op : AverageOp) :
    Averages (ops ++ [op]) (b.exec op).2 := by
  intro pair avg hget
  rw [average_exec] at hget
  obtain ⟨old, hold, rfl⟩ := Option.map_eq_some_iff.mp hget
  have hholds := h pair old hold
  rw [rawValues_concat]
  cases op with
  | getAverage p rawValue =>
    unfold bufferAfter
    dsimp only
    split
    · exact hholds.push rawValue
    · exact hholds
  | resetAverage p =>
    unfold bufferAfter
    dsimp only
    split
    · exact RingBuffer.holds_empty _
    · exact hholds

/-- **Run.** -/
theorem averages_run (h : AllEmpty b) (ops : List AverageOp) :
    Averages ops (Machine.run RdcRocpBase.exec b ops) := by
  induction ops using List.reverseRecOn with
  | nil =>
    intro pair avg hget
    rw [h pair avg hget]
    exact RingBuffer.holds_empty _
  | append_singleton ops op ih =>
    unfold Machine.run at ih ⊢
    rw [List.foldl_append]
    exact ih.exec op

theorem mem_average_run (b : RdcRocpBase) (ops : List AverageOp) (pair : RdcFieldKey) :
    pair ∈ (Machine.run RdcRocpBase.exec b ops).average ↔ pair ∈ b.average := by
  induction ops generalizing b with
  | nil => rfl
  | cons op ops ih =>
    rw [Machine.run_cons, ih, ExtTreeMap.mem_iff_isSome_getElem?, average_exec,
      Option.isSome_map, ← ExtTreeMap.mem_iff_isSome_getElem?]

/-- **The average is that of the last five values.** After any calls on the table that was made for
the hardware, a call for one of its pairs leaves the last five values of the pair in its buffer, in
some order, returns their mean, and touches no other buffer. -/
theorem average_window (a : RocpAnswers) (b : RdcRocpBase) (hb : create a = some b)
    (ops : List AverageOp) (pair : RdcFieldKey) (hpair : pair ∈ b.average) (rawValue : ℚ) :
    let before := Machine.run RdcRocpBase.exec b ops
    let after := before.getAverage pair rawValue
    let values := rawValues pair (ops ++ [.getAverage pair rawValue])
    ∃ window, window = RingBuffer.lastOf bufferLengthK values
      ∧ window.length = min values.length 5
      ∧ (∃ avg, after.2.average[pair]? = some avg ∧ avg.buffer.Perm window)
      ∧ after.1 = some (window.sum / window.length)
      ∧ ∀ other, other ≠ pair → after.2.average[other]? = before.average[other]? := by
  intro before after values
  obtain ⟨avg, hget⟩ := exists_getElem?_of_mem ((mem_average_run b ops pair).mpr hpair)
  have hholds : Averages ops before := averages_run (create_allEmpty hb) ops
  have hpushed : (avg.push rawValue).Holds values := by
    have hnew := (hholds pair avg hget).push rawValue
    rwa [show values = rawValues pair ops ++ [rawValue] from
      (rawValues_concat ..).trans (if_pos rfl)]
  have hafter : after = _ := getAverage_of_some hget rawValue
  refine ⟨_, rfl, RingBuffer.length_lastOf values, ⟨avg.push rawValue, ?_, hpushed.perm⟩, ?_, ?_⟩
  · rw [hafter, getElem?_insert', if_pos rfl]
  · rw [hafter, hpushed.perm.sum_eq, hpushed.perm.length_eq]
  · intro other hother
    rw [hafter, getElem?_insert', if_neg (Ne.symm hother)]

/-- Seven values for a pair with a reset after the first, and one for another pair in between. -/
def sevenValues : List AverageOp :=
  [.getAverage (0, 802) 100, .resetAverage (0, 802), .getAverage (0, 802) 1,
    .getAverage (0, 802) 2, .getAverage (1, 802) 50, .getAverage (0, 802) 3,
    .getAverage (0, 802) 4, .getAverage (0, 802) 5, .getAverage (0, 802) 6]

theorem average_window_sevenValues :
    ∃ b, create mixedGpus = some b
      ∧ ((Machine.run RdcRocpBase.exec b sevenValues).getAverage (0, 802) 7).1 = some 5 := by
  have hentry : (create mixedGpus).map (fun b => decide ((0, 802) ∈ b.average)) = some true := by
    decide +kernel
  obtain ⟨b, hb, hmem⟩ := Option.map_eq_some_iff.mp hentry
  obtain ⟨window, hwindow, -, -, hmean, -⟩ :=
    average_window mixedGpus b hb sevenValues (0, 802) (of_decide_eq_true hmem) 7
  refine ⟨b, hb, hmean.trans ?_⟩
  rw [hwindow]
  decide +kernel

end Rdc.Proof
