import Rdc.Proof.Percentage

/-!
# ECC counts across a stop

While a job runs, the record of a GPU holds the counter it started from, and a report subtracts that
from the gauge. A stop replaces the counter by the difference, and from then on a report gives what
is in the record. Both skip a gauge that could not be read, and not in the same way: a running job
then reports zero, and a stop keeps the counter, which is afterwards taken for a difference.
-/

namespace Rdc.Proof

open Std (ExtTreeMap)
open OrdMap

/-- The two ECC counts of a record. -/
def ecc (info : RdcGpuUsageInfo) : Nat × Nat := (info.eccCorrect, info.eccUncorrect)

/-- The counts a report gives for a GPU. -/
def eccOf (job : RdcJobStatsCacheEntry) (gauges : RdcGpuGauges) (p : Nat × GpuSummaryStats) :
    Nat × Nat :=
  (eccCount (job.endTime != 0) gauges[(p.1, rdcFiEccCorrectTotal)]? p.2.eccCorrectInit,
    eccCount (job.endTime != 0) gauges[(p.1, rdcFiEccUncorrectTotal)]? p.2.eccUncorrectInit)

/-- What a GPU adds to the counts of the summary. -/
def addEcc (s e : Nat × Nat) : Nat × Nat := (u64Add s.1 e.1, u64Add s.2 e.2)

theorem ecc_of_unmeasured {info info' : RdcGpuUsageInfo} (h : unmeasured info = unmeasured info') :
    ecc info = ecc info' := congrArg (·.2.2.2.2) h

/-! ## A report -/

section Report

variable (sqrt : ℚ → ℚ) (now : Nat) {job : RdcJobStatsCacheEntry} {gauges : RdcGpuGauges}

theorem ecc_gpuRecord (endTime tmemory gpu : Nat) (gstats : GpuSummaryStats)
    (old : RdcGpuUsageInfo) :
    ecc (gpuRecord sqrt tmemory job endTime gauges gpu gstats old)
      = eccOf job gauges (gpu, gstats) :=
  ecc_of_unmeasured (unmeasured_gpuRecord sqrt tmemory job endTime gauges gpu gstats old)

theorem ecc_turn {endTime : Nat} {p : Nat × GpuSummaryStats} (h : p.1 < jobInfoGpus)
    (info : RdcJobInfo) :
    ecc (turn sqrt job endTime gauges info p).summary
      = addEcc (ecc info.summary) (eccOf job gauges p) := by
  unfold turn
  rw [dif_pos h]
  exact ecc_of_unmeasured (unmeasured_foldl sqrt _ _ _).2

theorem ecc_foldl_turn {endTime : Nat} {ps : List (Nat × GpuSummaryStats)}
    (hin : ∀ p ∈ ps, p.1 < jobInfoGpus) (info : RdcJobInfo) :
    ecc (ps.foldl (turn sqrt job endTime gauges) info).summary
      = (ps.map (eccOf job gauges)).foldl addEcc (ecc info.summary) := by
  induction ps generalizing info with
  | nil => rfl
  | cons p ps ih =>
    rw [List.foldl_cons, ih (fun q hq => hin q (List.mem_cons_of_mem _ hq)),
      ecc_turn sqrt (hin p (List.mem_cons_self ..)), List.map_cons, List.foldl_cons]

theorem ecc_summary_closed (hin : ∀ gpu ∈ job.gpuStats, gpu < jobInfoGpus) (info : RdcJobInfo) :
    ecc (closed sqrt now job gauges info).summary
      = (job.gpuStats.toList.map (eccOf job gauges)).foldl addEcc (0, 0) :=
  ecc_foldl_turn sqrt (fun p hp => hin p.1 (mem_of_mem_toList hp)) _

theorem ecc_closed (hin : ∀ gpu ∈ job.gpuStats, gpu < jobInfoGpus) {gpu : Nat}
    {gstats : GpuSummaryStats} (hgpu : job.gpuStats[gpu]? = some gstats) (info : RdcJobInfo) :
    (closed sqrt now job gauges info).gpus[gpu]?.map ecc
      = some (eccOf job gauges (gpu, gstats)) := by
  obtain ⟨old, hold⟩ := exists_record info (hin gpu (mem_of_getElem? hgpu))
  rw [getElem?_gpus_closed sqrt now hgpu, hold, Option.map_some, Option.map_some, ecc_gpuRecord]

end Report

/-! ## A stop -/

/-- The job after a stop. -/
def stoppedJob (job : RdcJobStatsCacheEntry) (gauges : RdcGpuGauges) (time : Nat) :
    RdcJobStatsCacheEntry :=
  { job with endTime := time, gpuStats := job.gpuStats.map (CacheManager.stopGpuStats gauges) }

section Stop

variable {job : RdcJobStatsCacheEntry} {gauges : RdcGpuGauges} {time : Nat}

theorem getElem?_stopped {c : CacheManager} {j : JobId} (hjob : c.cacheJobs[j]? = some job)
    (gauges : RdcGpuGauges) (time : Nat) :
    (c.rdcJobStopStats j gauges time).2.cacheJobs[j]? = some (stoppedJob job gauges time) := by
  unfold CacheManager.rdcJobStopStats
  rw [hjob]
  exact (getElem?_insert' ..).trans (if_pos rfl)

theorem getElem?_gpuStats_stopped (gpu : Nat) :
    (stoppedJob job gauges time).gpuStats[gpu]?
      = job.gpuStats[gpu]?.map (CacheManager.stopGpuStats gauges gpu) := by
  simp [stoppedJob]

theorem mem_gpuStats_stopped (gpu : Nat) :
    gpu ∈ (stoppedJob job gauges time).gpuStats ↔ gpu ∈ job.gpuStats := by
  simp [stoppedJob]

theorem mem_sampledGpus_stopped (m : Metric) (gpu : Nat) :
    gpu ∈ sampledGpus (stoppedJob job gauges time) m ↔ gpu ∈ sampledGpus job m := by
  rw [mem_sampledGpus, mem_sampledGpus]
  constructor
  · rintro ⟨gstats, stats, hgstats, hstats, hcount⟩
    rw [getElem?_gpuStats_stopped, Option.map_eq_some_iff] at hgstats
    obtain ⟨old, hold, rfl⟩ := hgstats
    exact ⟨old, stats, hold, hstats, hcount⟩
  · rintro ⟨gstats, stats, hgstats, hstats, hcount⟩
    refine ⟨CacheManager.stopGpuStats gauges gpu gstats, stats, ?_, hstats, hcount⟩
    rw [getElem?_gpuStats_stopped, hgstats]
    rfl

theorem zero_mem_reportDivisors_stopped (gauges' : RdcGpuGauges) :
    0 ∈ reportDivisors (stoppedJob job gauges time) gauges' ↔ 0 ∈ reportDivisors job gauges' := by
  rw [zero_mem_reportDivisors, zero_mem_reportDivisors]
  simp only [mem_sampledGpus_stopped]
  simp [stoppedJob]

/-- One count is the same before and after. -/
def CountKept (time : Nat) (gauge : Option Nat) (init : Nat) : Prop :=
  match gauge with
  | none => time = 0 ∨ init = 0
  | some total => time ≠ 0 ∨ u64Sub total (u64Sub total init) = u64Sub total init

/-- What a stop does to a count. -/
def stopCount (gauge : Option Nat) (init : Nat) : Nat :=
  match gauge with
  | some total => u64Sub total init
  | none => init

theorem countKept_iff {gauge : Option Nat} {init : Nat} :
    eccCount (time != 0) gauge (stopCount gauge init) = eccCount false gauge init
      ↔ CountKept time gauge init := by
  unfold CountKept stopCount eccCount
  by_cases htime : time = 0
  · subst htime
    cases gauge with
    | none => simp
    | some total => simp
  · cases gauge with
    | none => simp [htime]
    | some total => simp [htime]

theorem toList_gpuStats_stopped :
    (stoppedJob job gauges time).gpuStats.toList
      = job.gpuStats.toList.map fun p => (p.1, CacheManager.stopGpuStats gauges p.1 p.2) :=
  ExtTreeMap.toList_map

theorem eccOf_stopped_iff (hrun : job.endTime = 0) (gpu : Nat) (gstats : GpuSummaryStats) :
    eccOf (stoppedJob job gauges time) gauges (gpu, CacheManager.stopGpuStats gauges gpu gstats)
        = eccOf job gauges (gpu, gstats)
      ↔ CountKept time gauges[(gpu, rdcFiEccCorrectTotal)]? gstats.eccCorrectInit
        ∧ CountKept time gauges[(gpu, rdcFiEccUncorrectTotal)]? gstats.eccUncorrectInit := by
  rw [← countKept_iff, ← countKept_iff, ← Prod.mk.injEq]
  have hrunning : (job.endTime != 0) = false := by rw [hrun]; rfl
  unfold eccOf
  rw [hrunning]
  rfl

/-- If each GPU keeps its counts, the summary adds up the same numbers. -/
theorem map_eccOf_stopped (hsame : ∀ (gpu : Nat) (gstats : GpuSummaryStats),
      job.gpuStats[gpu]? = some gstats →
      eccOf (stoppedJob job gauges time) gauges (gpu, CacheManager.stopGpuStats gauges gpu gstats)
        = eccOf job gauges (gpu, gstats)) :
    (stoppedJob job gauges time).gpuStats.toList.map (eccOf (stoppedJob job gauges time) gauges)
      = job.gpuStats.toList.map (eccOf job gauges) := by
  rw [toList_gpuStats_stopped, List.map_map]
  refine List.map_congr_left fun p hp => ?_
  exact hsame p.1 p.2 (ExtTreeMap.mem_toList_iff_getElem?_eq_some.mp hp)

end Stop

/-- Both reports come back, and with the same counts. -/
def EccUnchanged (sqrt : ℚ → ℚ) (c : CacheManager) (j : JobId) (job : RdcJobStatsCacheEntry)
    (gauges : RdcGpuGauges) (time now now' : Nat) (info info' : RdcJobInfo) : Prop :=
  ∃ r r', c.jobReport sqrt j gauges now info = some r
    ∧ (c.rdcJobStopStats j gauges time).2.jobReport sqrt j gauges now' info' = some r'
    ∧ (∀ gpu ∈ job.gpuStats, r'.gpus[gpu]?.map ecc = r.gpus[gpu]?.map ecc)
    ∧ ecc r'.summary = ecc r.summary

/-- **A stop leaves the ECC counts alone exactly if** the reports come back at all and every count
is kept: where the gauge is missing, the counter the GPU started from was zero. -/
theorem eccUnchanged_iff (c : CacheManager) (j : JobId) (job : RdcJobStatsCacheEntry)
    (hjob : c.cacheJobs[j]? = some job) (hrun : job.endTime = 0) (gauges : RdcGpuGauges)
    (hmem : ∀ gpu ∈ job.gpuStats, (gpu, rdcFiGpuMemoryTotal) ∈ gauges) (sqrt : ℚ → ℚ)
    (time now now' : Nat) (info info' : RdcJobInfo) :
    EccUnchanged sqrt c j job gauges time now now' info info'
      ↔ (∀ gpu ∈ job.gpuStats, gpu < jobInfoGpus) ∧ 0 ∉ reportDivisors job gauges
        ∧ ∀ (gpu : Nat) (gstats : GpuSummaryStats), job.gpuStats[gpu]? = some gstats →
          CountKept time gauges[(gpu, rdcFiEccCorrectTotal)]? gstats.eccCorrectInit
          ∧ CountKept time gauges[(gpu, rdcFiEccUncorrectTotal)]? gstats.eccUncorrectInit := by
  have hjob' := getElem?_stopped hjob gauges time
  have hgpu : ∀ {gpu : Nat} {gstats : GpuSummaryStats}, job.gpuStats[gpu]? = some gstats →
      (stoppedJob job gauges time).gpuStats[gpu]?
        = some (CacheManager.stopGpuStats gauges gpu gstats) := by
    intro gpu gstats hget
    rw [getElem?_gpuStats_stopped, hget]
    rfl
  constructor
  · rintro ⟨r, r', hr, hr', hgpus, -⟩
    obtain ⟨hplaces, hzero, rfl⟩ := (jobReport_eq_some sqrt now hjob).mp hr
    obtain ⟨hplaces', -, rfl⟩ := (jobReport_eq_some sqrt now' hjob').mp hr'
    refine ⟨fun gpu h => (hplaces gpu h).1, hzero, fun gpu gstats hget => ?_⟩
    have heq := hgpus gpu (mem_of_getElem? hget)
    rw [ecc_closed sqrt now (fun gpu h => (hplaces gpu h).1) hget,
      ecc_closed sqrt now' (fun gpu h => (hplaces' gpu h).1) (hgpu hget)] at heq
    exact (eccOf_stopped_iff hrun gpu gstats).mp (Option.some.inj heq)
  · rintro ⟨hin, hzero, hkept⟩
    have hin' : ∀ gpu ∈ (stoppedJob job gauges time).gpuStats, gpu < jobInfoGpus :=
      fun gpu h => hin gpu ((mem_gpuStats_stopped gpu).mp h)
    have hsame : ∀ (gpu : Nat) (gstats : GpuSummaryStats), job.gpuStats[gpu]? = some gstats →
        eccOf (stoppedJob job gauges time) gauges
            (gpu, CacheManager.stopGpuStats gauges gpu gstats)
          = eccOf job gauges (gpu, gstats) :=
      fun gpu gstats hget => (eccOf_stopped_iff hrun gpu gstats).mpr (hkept gpu gstats hget)
    refine ⟨_, _, (jobReport_eq_some sqrt now hjob).mpr
        ⟨fun gpu h => ⟨hin gpu h, hmem gpu h⟩, hzero, rfl⟩,
      (jobReport_eq_some sqrt now' hjob').mpr
        ⟨fun gpu h => ⟨hin' gpu h, hmem gpu ((mem_gpuStats_stopped gpu).mp h)⟩,
          (zero_mem_reportDivisors_stopped gauges).not.mpr hzero, rfl⟩, ?_, ?_⟩
    · intro gpu h
      obtain ⟨gstats, hget⟩ := exists_getElem?_of_mem h
      rw [ecc_closed sqrt now hin hget, ecc_closed sqrt now' hin' (hgpu hget),
        hsame gpu gstats hget]
    · rw [ecc_summary_closed sqrt now hin, ecc_summary_closed sqrt now' hin',
        map_eccOf_stopped hsame]

/-- The gauges of GPU 0: its memory, and its correctable errors if they could be read. -/
def gaugesOfZero (correct : Option Nat) : RdcGpuGauges :=
  match correct with
  | none => totalMemory 16000000000
  | some total => (totalMemory 16000000000).insert (0, rdcFiEccCorrectTotal) total

/-- A job on GPU 0, which has counted five errors before. -/
def cacheWithErrors : CacheManager :=
  (CacheManager.init.rdcJobStartStats jobA onlyGpu onlyPower (gaugesOfZero (some 5)) 7).2

theorem eccUnchanged_gauge_there :
    ∃ job, cacheWithErrors.cacheJobs[jobA]? = some job
      ∧ EccUnchanged id cacheWithErrors jobA job (gaugesOfZero (some 8)) 9 9 9 (staleInfo 0)
        (staleInfo 0) := by
  let job := (cacheWithErrors.cacheJobs[jobA]?).getD (jobOn 0)
  have hjob : cacheWithErrors.cacheJobs[jobA]? = some job := by decide +kernel
  have hkeys : ∀ gpu ∈ job.gpuStats, gpu = 0 := by
    have hall : ∀ gpu ∈ job.gpuStats.keys, gpu = 0 := by decide +kernel
    exact fun gpu hgpu => hall gpu (ExtTreeMap.mem_keys.mpr hgpu)
  refine ⟨job, hjob, (eccUnchanged_iff cacheWithErrors jobA job hjob (by decide +kernel)
    (gaugesOfZero (some 8)) ?_ id 9 9 9 (staleInfo 0) (staleInfo 0)).mpr ⟨?_, ?_, ?_⟩⟩
  · intro gpu hgpu
    rw [hkeys gpu hgpu]
    decide +kernel
  · intro gpu hgpu
    rw [hkeys gpu hgpu]
    decide
  · decide +kernel
  · intro gpu gstats hget
    obtain rfl := hkeys gpu (mem_of_getElem? hget)
    have hinit : ∀ p ∈ job.gpuStats.toList, p.2.eccUncorrectInit = 0 := by decide +kernel
    have hmissing : (gaugesOfZero (some 8))[(0, rdcFiEccUncorrectTotal)]? = none := by
      decide +kernel
    have hthere : (gaugesOfZero (some 8))[(0, rdcFiEccCorrectTotal)]? = some 8 := by
      decide +kernel
    rw [hmissing, hthere]
    refine ⟨Or.inl (by decide), Or.inr ?_⟩
    exact hinit (0, gstats) (ExtTreeMap.mem_toList_iff_getElem?_eq_some.mpr hget)

/-- When the gauge cannot be read, the running job has no errors and the stopped job has five. -/
theorem not_eccUnchanged_gauge_missing :
    ∃ job, cacheWithErrors.cacheJobs[jobA]? = some job ∧ job.endTime = 0
      ∧ (cacheWithErrors.jobReport id jobA (gaugesOfZero none) 9 (staleInfo 0)).map
          (fun r => ecc r.summary) = some (0, 0)
      ∧ ((cacheWithErrors.rdcJobStopStats jobA (gaugesOfZero none) 9).2.jobReport id jobA
          (gaugesOfZero none) 9 (staleInfo 0)).map (fun r => ecc r.summary) = some (5, 0)
      ∧ ¬ EccUnchanged id cacheWithErrors jobA job (gaugesOfZero none) 9 9 9 (staleInfo 0)
        (staleInfo 0) := by
  let job := (cacheWithErrors.cacheJobs[jobA]?).getD (jobOn 0)
  have hrunning : (cacheWithErrors.jobReport id jobA (gaugesOfZero none) 9 (staleInfo 0)).map
      (fun r => ecc r.summary) = some (0, 0) := by decide +kernel
  have hstopped : ((cacheWithErrors.rdcJobStopStats jobA (gaugesOfZero none) 9).2.jobReport id jobA
      (gaugesOfZero none) 9 (staleInfo 0)).map (fun r => ecc r.summary) = some (5, 0) := by
    decide +kernel
  refine ⟨job, by decide +kernel, by decide +kernel, hrunning, hstopped, ?_⟩
  rintro ⟨r, r', hr, hr', -, hsummary⟩
  rw [hr, Option.map_some] at hrunning
  rw [hr', Option.map_some] at hstopped
  rw [Option.some.inj hrunning, Option.some.inj hstopped] at hsummary
  exact absurd hsummary (by decide)

end Rdc.Proof
