import Rdc.Proof.GroupStore
import Rdc.Proof.Percentage

/-!
# The array of the report

A report addresses sixteen records by GPU index and by position. Nothing before it keeps the indexes
that small: the handler lets a GPU into a group if the node has it, a job takes over the GPUs of its
group, and keeps them until it is started again or removed. So a report stays inside its array
exactly when the group did, at the start of the job.

The group store of the daemon is the one the handler works on. Its calls, once they are past the
handler's checks, are calls of the handler (`groupSettings_run`).
-/

namespace Rdc.Proof

open Std (ExtTreeMap)
open Daemon OrdMap Machine EmbeddedHandler

/-! ## The store of the daemon -/

/-- The call of the handler that a call on the store comes from. -/
def toGroupOp : Op → Option GroupOp
  | .groupGpuCreate name => some (.gpuCreate .empty name fun _ => none)
  | .groupGpuAdd g gpu => some (.gpuAdd g gpu none)
  | .groupGpuDestroy g => some (.gpuDestroy g)
  | .groupFieldCreate fields name => some (.fieldCreate fields name)
  | .groupFieldDestroy fg => some (.fieldDestroy fg)
  | _ => none

/-- The call is past the checks of the handler. -/
def Checked (deviceCount : Nat) : Op → Prop
  | .groupGpuAdd _ gpu => gpu < deviceCount
  | .groupFieldCreate fields _ => fields.all isFieldValid = true
  | _ => True

section Store

variable {deviceCount : Nat}

theorem handlerAdd_eq {gpu : Nat} (gs : GroupSettings) (g : Nat) (hgpu : gpu < deviceCount) :
    EmbeddedHandler.rdcGroupGpuAdd deviceCount gs g gpu none = gs.rdcGroupGpuAdd g gpu := by
  have hmem : (List.range deviceCount).contains gpu = true :=
    List.contains_iff_mem.mpr (List.mem_range.mpr hgpu)
  unfold EmbeddedHandler.rdcGroupGpuAdd
  dsimp only [rdcDeviceGetAll]
  rw [if_pos hmem]

theorem handlerCreate_empty_store (gs : GroupSettings) (name : List UInt8)
    (queries : Nat → Option Failure) :
    (EmbeddedHandler.rdcGroupGpuCreate deviceCount gs .empty name queries).2.2
      = (gs.rdcGroupGpuCreate name).2.2 := by
  rcases Nat.lt_or_ge gs.gpuGroup.size rdcMaxNumGroups with hroom | hfull
  · rw [create_empty hroom, storeCreate_of_room hroom]
  · rw [create_of_full .empty hfull, storeCreate_of_full hfull]

theorem handlerFieldCreate_store {fields : List Nat} (gs : GroupSettings) (name : List UInt8)
    (hvalid : fields.all isFieldValid = true) :
    (EmbeddedHandler.rdcGroupFieldCreate gs fields name).2.2
      = (gs.rdcGroupFieldCreate fields name).2.2 := by
  unfold EmbeddedHandler.rdcGroupFieldCreate
  by_cases hle : fields.length ≤ rdcMaxFieldIdsPerFieldGroup
  · rw [if_pos hle, if_pos hvalid]
  · rw [if_neg hle]
    unfold GroupSettings.rdcGroupFieldCreate
    rw [dif_neg hle]

/-- One call of the daemon is at most one call of the handler on its store. -/
theorem groupSettings_exec (tel : Telemetry) {d : Daemon} {s : GroupHistory} {op : Op}
    (hs : d.groupSettings = s.store) (hop : Checked deviceCount op) :
    (d.exec tel op).2.groupSettings
      = ((toGroupOp op).elim s fun gop => (s.exec deviceCount gop).2).store := by
  by_cases hcall : GroupCall op
  swap
  · rw [exec_groupSettings hcall, hs]
    cases op <;> first | rfl | exact absurd trivial hcall
  cases op with
  | groupGpuCreate name =>
    show (d.groupSettings.rdcGroupGpuCreate name).2.2
      = (EmbeddedHandler.rdcGroupGpuCreate deviceCount s.store .empty name _).2.2
    rw [handlerCreate_empty_store, hs]
  | groupGpuAdd g gpu =>
    show (d.groupSettings.rdcGroupGpuAdd g gpu).2
      = (EmbeddedHandler.rdcGroupGpuAdd deviceCount s.store g gpu none).2
    rw [handlerAdd_eq s.store g hop, hs]
  | groupGpuDestroy g =>
    show (d.groupSettings.rdcGroupGpuDestroy g).2 = (s.store.rdcGroupGpuDestroy g).2
    rw [hs]
  | groupFieldCreate fields name =>
    show (d.groupSettings.rdcGroupFieldCreate fields name).2.2
      = (EmbeddedHandler.rdcGroupFieldCreate s.store fields name).2.2
    rw [handlerFieldCreate_store s.store name hop, hs]
  | groupFieldDestroy fg =>
    show (d.groupSettings.rdcGroupFieldDestroy fg).2 = (s.store.rdcGroupFieldDestroy fg).2
    rw [hs]
  | _ => exact absurd hcall id

/-- **The daemon's store is the handler's.** -/
theorem groupSettings_run (tel : Telemetry) {ops : List Op}
    (hops : ∀ op ∈ ops, Checked deviceCount op) {d : Daemon} {s : GroupHistory}
    (hs : d.groupSettings = s.store) :
    (run (exec tel) d ops).groupSettings
      = (run (GroupHistory.exec deviceCount) s (ops.filterMap toGroupOp)).store := by
  induction ops generalizing d s with
  | nil => exact hs
  | cons op ops ih =>
    have hstep := groupSettings_exec tel hs (hops op (List.mem_cons_self ..))
    have hrest := fun op' h => hops op' (List.mem_cons_of_mem _ h)
    rw [run_cons, List.filterMap_cons]
    cases hgop : toGroupOp op with
    | none =>
      rw [hgop] at hstep
      exact ih hrest hstep
    | some gop =>
      rw [hgop] at hstep
      exact ih hrest hstep

theorem bounded_run (tel : Telemetry) {ops : List Op} (hops : ∀ op ∈ ops, Checked deviceCount op) :
    Bounded deviceCount (run (exec tel) init ops).groupSettings := by
  have hrun := groupSettings_run (d := init) (s := GroupHistory.init) tel hops rfl
  rw [hrun]
  exact bounded_after deviceCount (ops.filterMap toGroupOp)

theorem run_append (tel : Telemetry) (d : Daemon) (ops ops' : List Op) :
    run (exec tel) d (ops ++ ops') = run (exec tel) (run (exec tel) d ops) ops' :=
  List.foldl_append

end Store

/-! ## The GPUs of a job -/

/-- Job `j` has statistics for exactly these GPUs. -/
def JobGpus (j : JobId) (gpus : List Nat) (d : Daemon) : Prop :=
  ∃ job, d.cacheMgr.cacheJobs[j]? = some job ∧ ∀ gpu, gpu ∈ job.gpuStats ↔ gpu ∈ gpus

variable {gauges : RdcGpuGauges}

section JobGpus

variable {d : Daemon} {j : JobId} {gpus : List Nat}

theorem JobGpus.congr {d' : Daemon} (h : JobGpus j gpus d)
    (hc : d'.cacheMgr.cacheJobs[j]? = d.cacheMgr.cacheJobs[j]?) : JobGpus j gpus d' := by
  obtain ⟨job, hjob, hgpus⟩ := h
  exact ⟨job, hc.trans hjob, hgpus⟩

theorem JobGpus.of_sameStores {d' : Daemon} (h : JobGpus j gpus d) (hs : SameStores d d') :
    JobGpus j gpus d' :=
  h.congr (by rw [hs.2.1])

theorem rdcUpdateJobStats_gpus {c : CacheManager} {job : RdcJobStatsCacheEntry}
    (hjob : c.cacheJobs[j]? = some job) (gpu : Nat) (value : RdcFieldValue) :
    ∃ job', (c.rdcUpdateJobStats gpu j value).2.cacheJobs[j]? = some job'
      ∧ ∀ gpu', gpu' ∈ job'.gpuStats ↔ gpu' ∈ job.gpuStats := by
  unfold CacheManager.rdcUpdateJobStats
  rw [hjob]
  dsimp only
  cases hg : job.gpuStats[gpu]? with
  | none => exact ⟨job, hjob, fun _ => Iff.rfl⟩
  | some gstats =>
    dsimp only
    cases hf : gstats.fieldSummaries[value.fieldId]? with
    | none => exact ⟨job, hjob, fun _ => Iff.rfl⟩
    | some stats =>
      refine ⟨_, (getElem?_insert' ..).trans (if_pos rfl), fun gpu' => ?_⟩
      have hmem : gpu ∈ job.gpuStats := mem_of_getElem? hg
      rw [ExtTreeMap.mem_insert]
      refine ⟨fun h => ?_, Or.inr⟩
      rcases h with heq | hold
      · rw [← Std.LawfulEqCmp.eq_of_compare heq]
        exact hmem
      · exact hold

theorem JobGpus.deliver (h : JobGpus j gpus d) (time gpu : Nat) (value : RdcFieldValue) :
    JobGpus j gpus (d.deliver time gpu value) := by
  rcases deliver_cacheJobs d time gpu value with ⟨_, heq⟩ | ⟨j', _, _, heq⟩
  · exact h.congr (by rw [heq])
  by_cases hj : j = j'
  · subst hj
    obtain ⟨job, hjob, hgpus⟩ := h
    obtain ⟨job', hjob', hsame⟩ := rdcUpdateJobStats_gpus hjob gpu value
    exact ⟨job', by rw [heq, hjob'], fun gpu' => (hsame gpu').trans (hgpus gpu')⟩
  · rcases rdcUpdateJobStats_cases d.cacheMgr gpu j' value with ⟨_, hc⟩ | ⟨_, _, _, _, hothers⟩
    · exact h.congr (by rw [heq, hc])
    · exact h.congr (by rw [heq, hothers j hj])

theorem jobGpus_updateInv (j : JobId) (gpus : List Nat) : UpdateInv (JobGpus j gpus) where
  deliver time gpu value h := h.deliver time gpu value
  cleanUp clock h := h.congr (by rw [cleanUp_cacheJobs])
  log _ _ h := h

theorem JobGpus.stop (h : JobGpus j gpus d) (j' : JobId) (gauges : RdcGpuGauges)
    (clock : StopClock) : JobGpus j gpus ((rdcJobStopStats j' gauges clock).run d).2 := by
  rcases rdcJobStopStats_cases d j' gauges clock with ⟨_, heq⟩ | ⟨job, _, ⟨_, heq⟩ | ⟨_, heq⟩⟩
    <;> rw [heq]
  · exact h
  · exact h.of_sameStores (rdcFieldUnwatch_sameStores ..)
  have h' := h.of_sameStores (rdcFieldUnwatch_sameStores d job.groupId jobFieldId clock.now)
  generalize (d.rdcFieldUnwatch job.groupId jobFieldId clock.now).2 = d' at h' ⊢
  by_cases hj : j = j'
  · subst hj
    obtain ⟨stats, hstats, hgpus⟩ := h'
    show ∃ job, (d'.cacheMgr.rdcJobStopStats j gauges clock.time).2.cacheJobs[j]? = some job ∧ _
    unfold CacheManager.rdcJobStopStats
    rw [hstats]
    refine ⟨_, (getElem?_insert' ..).trans (if_pos rfl), fun gpu => ?_⟩
    exact ExtTreeMap.mem_map.trans (hgpus gpu)
  · exact h'.congr (rdcJobStopStats_cacheJobs _ j' gauges clock.time hj)

theorem JobGpus.start (h : JobGpus j gpus d) (tel : Telemetry) (g : Nat) {j' : JobId}
    (hne : j' ≠ j) (freq : Nat) (gauges : RdcGpuGauges) (time : Nat) :
    JobGpus j gpus ((rdcJobStartStats tel g j' freq gauges time).run d).2 := by
  rcases rdcJobStartStats_cases tel d g j' freq gauges time with
    ⟨_, heq⟩ | ⟨_, _, heq⟩ | ⟨_, ginfo, finfo, _, _, _, heq⟩ <;> rw [heq]
  · exact h
  · exact h
  · have hreg : JobGpus j gpus (registered d g j' gauges time ginfo finfo) :=
      h.congr ((getElem?_insert' ..).trans (if_neg hne))
    exact hreg.of_sameStores (rdcFieldWatch_sameStores ..)

/-- Until it is started again or removed, a job keeps its GPUs. -/
theorem jobGpus_exec (tel : Telemetry) {op : Op} (h : JobGpus j gpus d)
    (hs : ¬ StartsJob j op) (hf : ¬ ForgetsJob j op) : JobGpus j gpus (d.exec tel op).2 := by
  cases op with
  | fieldWatch g fg freq age samples => exact h.of_sameStores (rdcFieldWatch_sameStores ..)
  | fieldUnwatch g fg now => exact h.of_sameStores (rdcFieldUnwatch_sameStores ..)
  | fieldUpdateAll now delivered clock =>
    exact (jobGpus_updateInv j gpus).updateAll h now delivered clock
  | notifUpdateCache events => exact (jobGpus_updateInv j gpus).notifUpdateCache h events
  | jobStartStats g j' freq gauges time => exact h.start tel g hs freq gauges time
  | jobStopStats j' gauges clock => exact h.stop j' gauges clock
  | jobRemove j' clock =>
    show JobGpus j gpus ((rdcJobRemove j' clock).run d).2
    rw [rdcJobRemove_run]
    exact (h.stop j' ∅ clock).congr ((getElem?_erase' ..).trans (if_neg hf))
  | jobRemoveAll clock => exact absurd trivial hf
  | _ => exact h

theorem jobGpus_of_start_ok {tel : Telemetry} {g freq time : Nat}
    (hok : ((rdcJobStartStats tel g j freq gauges time).run d).1 = .ok) :
    JobGpus j (gpusOf d.groupSettings g) ((rdcJobStartStats tel g j freq gauges time).run d).2 := by
  rcases rdcJobStartStats_cases tel d g j freq gauges time with
    ⟨_, heq⟩ | ⟨_, _, heq⟩ | ⟨_, ginfo, finfo, hg, _, _, heq⟩ <;> rw [heq] at hok ⊢
  · cases hok
  · cases hok
  have hreg : JobGpus j (gpusOf d.groupSettings g)
      (registered d g j gauges time ginfo finfo) := by
    refine ⟨_, (getElem?_insert' ..).trans (if_pos rfl), fun gpu => ?_⟩
    rw [← getInfo_entityIds hg, ExtTreeMap.mem_iff_isSome_getElem?]
    unfold CacheManager.initJobEntry
    dsimp only
    rw [getElem?_foldl_insertIfNew (CacheManager.initGpuStats finfo gauges)]
    by_cases hin : gpu ∈ ginfo.entityIds <;> simp [hin]
  exact hreg.of_sameStores (rdcFieldWatch_sameStores ..)

end JobGpus

/-! ## Inside the array -/

section Client

variable (sqrt : ℚ → ℚ) (now : Nat) {deviceCount : Nat} {c : CacheManager} {jobId : JobId}
  {job : RdcJobStatsCacheEntry}

/-- With all GPUs below sixteen, none of the three loops leaves the array. -/
theorem client_ne_outOfBounds (query : Option Failure) (fetch : Nat → Nat → Except Failure Nat)
    (hjob : c.cacheJobs[jobId]? = some job) (hin : ∀ gpu ∈ job.gpuStats, gpu < jobInfoGpus)
    (serverInfo info : RdcJobInfo) :
    StandaloneHandler.rdcJobGetStats sqrt deviceCount query fetch c jobId now serverInfo info
      ≠ .error .outOfBounds := by
  cases hgauges : getGpuGauges deviceCount query fetch with
  | error status =>
    unfold StandaloneHandler.rdcJobGetStats ApiService.getJobStats
      EmbeddedHandler.rdcJobGetStats
    rw [hgauges]
    dsimp only
    rw [if_pos (getGpuGauges_error hgauges)]
    simp
  | ok gauges =>
    rcases rdcJobGetStats_cases sqrt now gauges hjob hin with hbad | hzero | ⟨hmem, hdiv⟩
    · obtain ⟨info', hres⟩ := hbad serverInfo
      unfold StandaloneHandler.rdcJobGetStats ApiService.getJobStats
        EmbeddedHandler.rdcJobGetStats
      rw [hgauges]
      dsimp only
      rw [hres]
      simp
    · unfold StandaloneHandler.rdcJobGetStats ApiService.getJobStats
        EmbeddedHandler.rdcJobGetStats
      rw [hgauges]
      dsimp only
      rw [hzero]
      simp
    · obtain ⟨info', hres, -⟩ := client_ok sqrt now hgauges hjob hin hmem hdiv serverInfo info
      rw [hres]
      simp

/-- With a GPU outside, and nothing else to stop the report, the first loop does. -/
theorem client_eq_outOfBounds {query : Option Failure} {fetch : Nat → Nat → Except Failure Nat}
    (hgauges : getGpuGauges deviceCount query fetch = .ok gauges)
    (hjob : c.cacheJobs[jobId]? = some job) (hdev : ∀ gpu ∈ job.gpuStats, gpu < deviceCount)
    (hdiv : 0 ∉ reportDivisors job gauges) {gpu : Nat} (hgpu : gpu ∈ job.gpuStats)
    (hout : jobInfoGpus ≤ gpu) (serverInfo info : RdcJobInfo) :
    StandaloneHandler.rdcJobGetStats sqrt deviceCount query fetch c jobId now serverInfo info
      = .error .outOfBounds := by
  have hfault := rdcJobGetStats_outOfBounds sqrt now hjob
    (fun gpu' h => getGpuGauges_memory hgauges (hdev gpu' h)) hdiv hgpu hout serverInfo
  unfold StandaloneHandler.rdcJobGetStats ApiService.getJobStats EmbeddedHandler.rdcJobGetStats
  rw [hgauges]
  dsimp only
  rw [hfault]

end Client

theorem gpusOf_lt {deviceCount : Nat} {gs : GroupSettings} (h : Bounded deviceCount gs) (g : Nat) :
    ∀ gpu ∈ gpusOf gs g, gpu < deviceCount := by
  intro gpu hgpu
  unfold gpusOf at hgpu
  cases hg : gs.gpuGroup[g]? with
  | none =>
    rw [hg] at hgpu
    exact absurd hgpu List.not_mem_nil
  | some info =>
    rw [hg] at hgpu
    exact h.devices g info hg gpu hgpu

/-- Every gauge shows what `someMemory` answers. -/
def ShowSomeMemory (gauges : RdcGpuGauges) : Prop :=
  ∀ (k : RdcFieldKey) (total : Nat), gauges[k]? = some total → total = 16000000000

theorem ShowSomeMemory.insertIfNew (h : ShowSomeMemory gauges) (key : RdcFieldKey) :
    ShowSomeMemory (gauges.insertIfNew key 16000000000) := by
  intro k total hget
  rw [ExtTreeMap.getElem?_insertIfNew] at hget
  split at hget
  · exact (Option.some.inj hget).symm
  · exact h k total hget

theorem getGpuGauges_someMemory (deviceCount : Nat) :
    ∃ gauges, getGpuGauges deviceCount none someMemory = .ok gauges ∧ ShowSomeMemory gauges := by
  have hloop : ∀ (gpus : List Nat) (gauges : RdcGpuGauges), ShowSomeMemory gauges →
      ∃ gauges', fetchGauges someMemory gpus gauges = .ok gauges' ∧ ShowSomeMemory gauges' := by
    intro gpus
    induction gpus with
    | nil => exact fun gauges h => ⟨gauges, rfl, h⟩
    | cons gpu gpus ih =>
      exact fun gauges h => ih _ (((h.insertIfNew _).insertIfNew _).insertIfNew _)
  refine hloop (List.range deviceCount) ∅ fun k total h => ?_
  rw [ExtTreeMap.getElem?_empty] at h
  cases h

/-- With these sizes a report of a job with a GPU divides by no zero. -/
theorem zero_notMem_reportDivisors {job : RdcJobStatsCacheEntry}
    (hmem : ∀ gpu ∈ job.gpuStats, (gpu, rdcFiGpuMemoryTotal) ∈ gauges)
    (hall : ShowSomeMemory gauges) {gpu : Nat} (hgpu : gpu ∈ job.gpuStats) :
    0 ∉ reportDivisors job gauges := by
  rw [zero_mem_reportDivisors]
  rintro (⟨gpu', hgpu', hadjuster⟩ | hsize)
  · obtain ⟨gstats, stats, hget, -⟩ := mem_sampledGpus.mp hgpu'
    obtain ⟨total, htotal⟩ := exists_getElem?_of_mem (hmem gpu' (mem_of_getElem? hget))
    rw [htotal, hall _ _ htotal] at hadjuster
    exact absurd hadjuster (by decide)
  · rw [← ExtTreeMap.length_keys, List.length_eq_zero_iff] at hsize
    exact List.ne_nil_of_mem (ExtTreeMap.mem_keys.mpr hgpu) hsize

/-- **Reports and their array.** A job was accepted on a group of the daemon, and has been neither
started again nor removed since. Every report of it stays inside the array, on the server and in the
client, exactly when every GPU the group had at the start is below sixteen. -/
theorem report_inBounds_iff (tel : Telemetry) (deviceCount : Nat) (before after : List Op)
    (g : Nat) (j : JobId) (freq : Nat) (gauges : RdcGpuGauges) (time : Nat)
    (hbefore : ∀ op ∈ before, Checked deviceCount op)
    (hok : ((run (exec tel) init before).exec tel (.jobStartStats g j freq gauges time)).1 = .ok)
    (hafter : ∀ op ∈ after, ¬ StartsJob j op ∧ ¬ ForgetsJob j op) :
    (∀ sqrt query fetch now serverInfo info,
        StandaloneHandler.rdcJobGetStats sqrt deviceCount query fetch
          (run (exec tel) init (before ++ .jobStartStats g j freq gauges time :: after)).cacheMgr j
          now serverInfo info ≠ .error .outOfBounds)
      ↔ ∀ gpu ∈ gpusOf (run (exec tel) init before).groupSettings g, gpu < 16 := by
  have hstart := jobGpus_of_start_ok hok
  have hrun : JobGpus j (gpusOf (run (exec tel) init before).groupSettings g)
      (run (exec tel) init (before ++ .jobStartStats g j freq gauges time :: after)) := by
    rw [run_append, run_cons]
    exact Along.invariant (P := fun _ op => ¬ StartsJob j op ∧ ¬ ForgetsJob j op)
      (fun _ _ h hop => jobGpus_exec tel h hop.1 hop.2) hstart
      (Along.of_forall fun op hop _ => hafter op hop)
  -- the group may have changed since; the job keeps the GPUs it was started with
  obtain ⟨job, hjob, hgpus⟩ := hrun
  have hdev : ∀ gpu ∈ job.gpuStats, gpu < deviceCount := fun gpu h =>
    gpusOf_lt (bounded_run tel hbefore) g gpu ((hgpus gpu).mp h)
  refine ⟨?_, ?_⟩
  · intro h gpu hgpu
    by_contra hlt
    obtain ⟨gauges', hgauges', hall⟩ := getGpuGauges_someMemory deviceCount
    have hmem : ∀ gpu ∈ job.gpuStats, (gpu, rdcFiGpuMemoryTotal) ∈ gauges' :=
      fun gpu h => getGpuGauges_memory hgauges' (hdev gpu h)
    have hjobGpu := (hgpus gpu).mpr hgpu
    exact h id none someMemory 0 (staleInfo 0) (staleInfo 0)
      (client_eq_outOfBounds id 0 hgauges' hjob hdev (zero_notMem_reportDivisors hmem hall hjobGpu)
        hjobGpu (Nat.le_of_not_lt hlt) _ _)
  · intro h sqrt query fetch now serverInfo info
    exact client_ne_outOfBounds sqrt now query fetch hjob
      (fun gpu hgpu => h gpu ((hgpus gpu).mp hgpu)) serverInfo info

/-- A group with one GPU. -/
def groupOn (gpu : Nat) : List Op := [.groupGpuCreate [103], .groupGpuAdd 1 gpu]

theorem checked_groupOn {deviceCount gpu : Nat} (h : gpu < deviceCount) :
    ∀ op ∈ groupOn gpu, Checked deviceCount op := by
  intro op hop
  rcases List.mem_cons.mp hop with heq | hop'
  · rw [heq]
    trivial
  · rw [List.mem_singleton.mp hop']
    exact h

theorem report_inBounds_gpuFifteen :
    gpusOf (run (exec Telemetry.smiOnly) init (groupOn 15)).groupSettings 1 = [15]
    ∧ StandaloneHandler.rdcJobGetStats id 128 none someMemory
        (run (exec Telemetry.smiOnly) init
          (groupOn 15 ++ [.jobStartStats 1 jobA 1000000 ∅ 5])).cacheMgr
        jobA 9 (staleInfo 77) (staleInfo 0) ≠ .error .outOfBounds := by
  have hgpus : gpusOf (run (exec Telemetry.smiOnly) init (groupOn 15)).groupSettings 1 = [15] := by
    decide +kernel
  refine ⟨hgpus, (report_inBounds_iff Telemetry.smiOnly 128 (groupOn 15) [] 1 jobA 1000000 ∅ 5
    (checked_groupOn (by omega)) (by decide +kernel) (fun op h => absurd h List.not_mem_nil)).mpr ?_
    id none someMemory 9 (staleInfo 77) (staleInfo 0)⟩
  intro gpu hgpu
  rw [hgpus, List.mem_singleton] at hgpu
  omega

/-- A node with seventeen GPUs and a job on the last of them: its report is written behind the
array. -/
theorem report_outOfBounds_gpuSixteen :
    (∀ op ∈ groupOn 16, Checked 17 op)
    ∧ ((run (exec Telemetry.smiOnly) init (groupOn 16)).exec Telemetry.smiOnly
        (.jobStartStats 1 jobA 1000000 ∅ 5)).1 = .ok
    ∧ StandaloneHandler.rdcJobGetStats id 17 none someMemory
        (run (exec Telemetry.smiOnly) init
          (groupOn 16 ++ [.jobStartStats 1 jobA 1000000 ∅ 5])).cacheMgr
        jobA 9 (staleInfo 77) (staleInfo 0) = .error .outOfBounds :=
  ⟨checked_groupOn (by omega), by decide +kernel, by decide +kernel⟩

end Rdc.Proof
