import Rdc.Standalone
import Rdc.Proof.Delivery
import Mathlib.Data.List.Perm.Subperm

/-!
# From the cache to the client

The record of a GPU is written at its index, and read back by position: the server sends the first
`num_gpus` records of its buffer, and the client keeps them in that order. The loop over the GPUs is
described at one index (`getElem?_gpus_reported`): the record there is the one computed for the GPU
with this index, or what the buffer held before. So the client gets the records of the job exactly
when the indexes are an initial segment.
-/

namespace Rdc.Proof

open Std (ExtTreeMap)
open OrdMap Machine EmbeddedHandler

/-! ## Gauges -/

variable {gauges : RdcGpuGauges} {p : Nat × GpuSummaryStats} {ps : List (Nat × GpuSummaryStats)}

section Gauges

variable {fetch : Nat → Nat → Except Failure Nat}

theorem mem_insertFetched {gpu field : Nat} {k : RdcFieldKey} (h : k ∈ gauges) :
    k ∈ insertFetched fetch gpu field gauges := by
  unfold insertFetched
  split
  · exact h
  · exact ExtTreeMap.mem_insertIfNew.mpr (Or.inr h)

/-- A loop that succeeds has read the total memory of every device. -/
theorem fetchGauges_memory {gpus : List Nat} {gauges gauges' : RdcGpuGauges}
    (h : fetchGauges fetch gpus gauges = .ok gauges') :
    (∀ k ∈ gauges, k ∈ gauges') ∧ ∀ gpu ∈ gpus, (gpu, rdcFiGpuMemoryTotal) ∈ gauges' := by
  induction gpus generalizing gauges with
  | nil =>
    rw [fetchGauges, Except.ok.injEq] at h
    rw [← h]
    exact ⟨fun k hk => hk, fun gpu hgpu => absurd hgpu List.not_mem_nil⟩
  | cons gpu gpus ih =>
    rw [fetchGauges] at h
    split at h
    · cases h
    · obtain ⟨hkeep, hrest⟩ := ih h
      have hstep : ∀ k, k ∈ gauges ∨ k = (gpu, rdcFiGpuMemoryTotal) → k ∈ gauges' := by
        intro k hk
        refine hkeep k (mem_insertFetched (mem_insertFetched ?_))
        rcases hk with hold | hnew
        · exact ExtTreeMap.mem_insertIfNew.mpr (Or.inr hold)
        · rw [hnew]
          exact ExtTreeMap.mem_insertIfNew.mpr (Or.inl Std.ReflCmp.compare_self)
      refine ⟨fun k hk => hstep k (Or.inl hk), fun gpu' hgpu' => ?_⟩
      rcases List.mem_cons.mp hgpu' with hhead | htail
      · exact hstep _ (Or.inr (by rw [hhead]))
      · exact hrest gpu' htail

theorem getGpuGauges_memory {deviceCount gpu : Nat} {query : Option Failure}
    (h : getGpuGauges deviceCount query fetch = .ok gauges) (hgpu : gpu < deviceCount) :
    (gpu, rdcFiGpuMemoryTotal) ∈ gauges := by
  unfold getGpuGauges at h
  cases query with
  | some failure => cases h
  | none => exact (fetchGauges_memory h).2 gpu (List.mem_range.mpr hgpu)

theorem fetchGauges_error {gpus : List Nat} {status : Status}
    (h : fetchGauges fetch gpus gauges = .error status) : status ≠ .ok := by
  induction gpus generalizing gauges with
  | nil => cases h
  | cons gpu gpus ih =>
    rw [fetchGauges] at h
    split at h
    · rename_i failure _
      rw [← Except.error.inj h]
      exact failure.ne_ok
    · exact ih h

theorem getGpuGauges_error {deviceCount : Nat} {query : Option Failure} {status : Status}
    (h : getGpuGauges deviceCount query fetch = .error status) : status ≠ .ok := by
  unfold getGpuGauges at h
  cases query with
  | some failure =>
    rw [← Except.error.inj h]
    exact failure.ne_ok
  | none => exact fetchGauges_error h

end Gauges

/-! ## One record -/

section Record

variable (sqrt : ℚ → ℚ) (tmemory : Nat)

/-- One turn of the loop over the fields, as far as the record of the GPU is concerned. -/
def recordField (info : RdcGpuUsageInfo) (field : Nat × FieldSummaryStats) : RdcGpuUsageInfo :=
  (reportField sqrt tmemory (info, info) field).1

theorem reportField_fst (r : RdcGpuUsageInfo × RdcGpuUsageInfo) (field : Nat × FieldSummaryStats) :
    (reportField sqrt tmemory r field).1 = recordField sqrt tmemory r.1 field := by
  unfold recordField reportField
  split
  · rfl
  · dsimp only [setSummary]
    split <;> rfl

/-- The members of a record that the loop over the fields does not write. -/
def unmeasured (info : RdcGpuUsageInfo) : Nat × Nat × Nat × Nat × Nat × Nat :=
  (info.gpuId, info.startTime, info.endTime, info.energyConsumed, info.eccCorrect,
    info.eccUncorrect)

theorem unmeasured_reportField (r : RdcGpuUsageInfo × RdcGpuUsageInfo)
    (field : Nat × FieldSummaryStats) :
    unmeasured (reportField sqrt tmemory r field).1 = unmeasured r.1
      ∧ unmeasured (reportField sqrt tmemory r field).2 = unmeasured r.2 := by
  unfold reportField
  split
  · exact ⟨rfl, rfl⟩
  · rename_i metric _
    cases metric <;> exact ⟨rfl, rfl⟩

theorem unmeasured_foldl (fields : List (Nat × FieldSummaryStats))
    (r : RdcGpuUsageInfo × RdcGpuUsageInfo) :
    unmeasured (fields.foldl (reportField sqrt tmemory) r).1 = unmeasured r.1
      ∧ unmeasured (fields.foldl (reportField sqrt tmemory) r).2 = unmeasured r.2 := by
  induction fields generalizing r with
  | nil => exact ⟨rfl, rfl⟩
  | cons field fields ih =>
    obtain ⟨hgpu, hsummary⟩ := unmeasured_reportField sqrt tmemory r field
    rw [List.foldl_cons, (ih _).1, (ih _).2]
    exact ⟨hgpu, hsummary⟩

/-- The record of a GPU, written over `old`. -/
def gpuRecord (job : RdcJobStatsCacheEntry) (endTime : Nat) (gauges : RdcGpuGauges) (gpu : Nat)
    (gstats : GpuSummaryStats) (old : RdcGpuUsageInfo) : RdcGpuUsageInfo :=
  gstats.fieldSummaries.toList.foldl (recordField sqrt tmemory)
    (openRecord job endTime gauges gpu gstats old)

/-- The summary of the job does not influence the record of a GPU. -/
theorem foldl_reportField_fst (job : RdcJobStatsCacheEntry) (endTime : Nat) (gauges : RdcGpuGauges)
    (p : Nat × GpuSummaryStats) (r : RdcGpuUsageInfo × RdcGpuUsageInfo) :
    (p.2.fieldSummaries.toList.foldl (reportField sqrt tmemory) (openGpu job endTime gauges p r)).1
      = gpuRecord sqrt tmemory job endTime gauges p.1 p.2 r.1 :=
  (List.foldl_hom Prod.fst fun r field => (reportField_fst sqrt tmemory r field).symm).symm

theorem unmeasured_gpuRecord (job : RdcJobStatsCacheEntry) (endTime : Nat) (gauges : RdcGpuGauges)
    (gpu : Nat) (gstats : GpuSummaryStats) (old : RdcGpuUsageInfo) :
    unmeasured (gpuRecord sqrt tmemory job endTime gauges gpu gstats old)
      = unmeasured (openRecord job endTime gauges gpu gstats old) := by
  rw [← foldl_reportField_fst (r := (old, old)) sqrt tmemory job endTime gauges (gpu, gstats)]
  exact (unmeasured_foldl sqrt tmemory _ _).1

theorem gpuRecord_startTime (job : RdcJobStatsCacheEntry) (endTime : Nat) (gauges : RdcGpuGauges)
    (gpu : Nat) (gstats : GpuSummaryStats) (old : RdcGpuUsageInfo) :
    (gpuRecord sqrt tmemory job endTime gauges gpu gstats old).startTime = job.startTime :=
  congrArg (·.2.1) (unmeasured_gpuRecord sqrt tmemory job endTime gauges gpu gstats old)

end Record

/-! ## The loop over the GPUs -/

section Loop

variable (sqrt : ℚ → ℚ) (job : RdcJobStatsCacheEntry) (endTime : Nat) (gauges : RdcGpuGauges)

/-- One turn that goes through. -/
def turn (info : RdcJobInfo) (p : Nat × GpuSummaryStats) : RdcJobInfo :=
  if h : p.1 < jobInfoGpus then
    let tmemory := gauges[(p.1, rdcFiGpuMemoryTotal)]?.getD 0
    let r := p.2.fieldSummaries.toList.foldl (reportField sqrt tmemory)
      (openGpu job endTime gauges p (info.gpus.get ⟨p.1, h⟩, info.summary))
    { info with summary := r.2, gpus := info.gpus.set p.1 r.1 h }
  else info

/-- What a turn needs besides a place in the array: the memory size of the GPU is known, and nothing
is divided by zero. -/
def Measured (p : Nat × GpuSummaryStats) : Prop :=
  (p.1, rdcFiGpuMemoryTotal) ∈ gauges
    ∧ 0 ∉ reportGpuDivisors (gauges[(p.1, rdcFiGpuMemoryTotal)]?.getD 0) p.2

variable {gauges} in
theorem reportGpus_cons (h : p.1 < jobInfoGpus) (hp : Measured gauges p)
    (rest : List (Nat × GpuSummaryStats)) (info : RdcJobInfo) :
    reportGpus sqrt job endTime gauges (p :: rest) info
      = reportGpus sqrt job endTime gauges rest (turn sqrt job endTime gauges info p) := by
  obtain ⟨tmemory, ht⟩ := exists_getElem?_of_mem hp.1
  have hdiv := hp.2
  rw [ht, Option.getD_some] at hdiv
  rw [reportGpus, dif_pos h, turn, dif_pos h, ht]
  dsimp only
  rw [if_neg hdiv]
  rfl

variable {gauges} in
/-- A loop with all indexes inside the array and all GPUs measured goes through. -/
theorem reportGpus_ok (hin : ∀ p ∈ ps, p.1 < jobInfoGpus) (hps : ∀ p ∈ ps, Measured gauges p)
    (info : RdcJobInfo) :
    reportGpus sqrt job endTime gauges ps info
      = .ok (.ok, ps.foldl (turn sqrt job endTime gauges) info) := by
  induction ps generalizing info with
  | nil => rfl
  | cons p ps ih =>
    rw [reportGpus_cons sqrt job endTime (hin p (List.mem_cons_self ..))
        (hps p (List.mem_cons_self ..)),
      ih (fun q h => hin q (List.mem_cons_of_mem _ h))
        (fun q h => hps q (List.mem_cons_of_mem _ h)), List.foldl_cons]

/-- A turn on a GPU that is not measured is the last one, and what it does is not up to the
buffer. -/
theorem reportGpus_of_not_measured (h : p.1 < jobInfoGpus) (hp : ¬ Measured gauges p)
    (rest : List (Nat × GpuSummaryStats)) :
    (∀ info, ∃ info', reportGpus sqrt job endTime gauges (p :: rest) info
        = .ok (.badParameter, info'))
    ∨ ∀ info, reportGpus sqrt job endTime gauges (p :: rest) info = .error .divideByZero := by
  cases ht : gauges[(p.1, rdcFiGpuMemoryTotal)]? with
  | none =>
    refine .inl fun info => ?_
    rw [reportGpus, dif_pos h, ht]
    exact ⟨_, rfl⟩
  | some tmemory =>
    have hzero : 0 ∈ reportGpuDivisors tmemory p.2 := by
      by_contra hno
      refine hp ⟨mem_of_getElem? ht, ?_⟩
      rwa [ht, Option.getD_some]
    refine .inr fun info => ?_
    rw [reportGpus, dif_pos h, ht]
    exact if_pos hzero

/-- With all indexes inside the array the loop ends in one of three ways, whatever the buffer
held. -/
theorem reportGpus_cases (hin : ∀ p ∈ ps, p.1 < jobInfoGpus) :
    (∀ info, ∃ info', reportGpus sqrt job endTime gauges ps info = .ok (.badParameter, info'))
    ∨ (∀ info, reportGpus sqrt job endTime gauges ps info = .error .divideByZero)
    ∨ ∀ p ∈ ps, Measured gauges p := by
  induction ps with
  | nil => exact .inr (.inr fun p hp => absurd hp List.not_mem_nil)
  | cons p ps ih =>
    have hp := hin p (List.mem_cons_self ..)
    by_cases hm : Measured gauges p
    · have hcons := reportGpus_cons sqrt job endTime hp hm ps
      rcases ih fun q h => hin q (List.mem_cons_of_mem _ h) with hbad | hzero | hall
      · exact .inl fun info => by rw [hcons]; exact hbad _
      · exact .inr (.inl fun info => by rw [hcons]; exact hzero _)
      · exact .inr (.inr (List.forall_mem_cons.mpr ⟨hm, hall⟩))
    · exact (reportGpus_of_not_measured sqrt job endTime gauges hp hm ps).imp_right .inl

variable {gauges} in
/-- With all GPUs measured the loop gets to every index, and one outside is fatal. -/
theorem reportGpus_outOfBounds (hps : ∀ p ∈ ps, Measured gauges p)
    (hout : ∃ p ∈ ps, jobInfoGpus ≤ p.1) (info : RdcJobInfo) :
    reportGpus sqrt job endTime gauges ps info = .error .outOfBounds := by
  induction ps generalizing info with
  | nil =>
    obtain ⟨p, hp, -⟩ := hout
    exact absurd hp List.not_mem_nil
  | cons p ps ih =>
    by_cases h : p.1 < jobInfoGpus
    · rw [reportGpus_cons sqrt job endTime h (hps p (List.mem_cons_self ..))]
      refine ih (fun q hq => hps q (List.mem_cons_of_mem _ hq)) ?_ _
      obtain ⟨q, hq, hle⟩ := hout
      rcases List.mem_cons.mp hq with hhead | htail
      · rw [hhead] at hle
        omega
      · exact ⟨q, htail, hle⟩
    · rw [reportGpus, dif_neg h]

theorem turn_numGpus (info : RdcJobInfo) (p : Nat × GpuSummaryStats) :
    (turn sqrt job endTime gauges info p).numGpus = info.numGpus := by
  unfold turn
  split <;> rfl

theorem getElem?_gpus_turn (info : RdcJobInfo) (p : Nat × GpuSummaryStats) (i : Nat) :
    (turn sqrt job endTime gauges info p).gpus[i]?
      = if p.1 = i then
          info.gpus[i]?.map (gpuRecord sqrt (gauges[(i, rdcFiGpuMemoryTotal)]?.getD 0) job endTime
            gauges i p.2)
        else info.gpus[i]? := by
  unfold turn
  by_cases h : p.1 < jobInfoGpus
  · rw [dif_pos h]
    dsimp only
    rw [Vector.getElem?_set, foldl_reportField_fst]
    by_cases hi : p.1 = i
    · subst hi
      rw [if_pos rfl, if_pos rfl, Vector.getElem?_eq_getElem h]
      rfl
    · rw [if_neg hi, if_neg hi]
  · rw [dif_neg h]
    by_cases hi : p.1 = i
    · subst hi
      rw [if_pos rfl, Vector.getElem?_eq_none (by omega)]
      rfl
    · rw [if_neg hi]

/-- **The loop at one index.** The record there is the one of the GPU with this index, or what was
there before. -/
theorem getElem?_gpus_reported (info : RdcJobInfo) (i : Nat) :
    (job.gpuStats.toList.foldl (turn sqrt job endTime gauges) info).gpus[i]?
      = job.gpuStats[i]?.elim info.gpus[i]? fun gstats =>
          info.gpus[i]?.map (gpuRecord sqrt (gauges[(i, rdcFiGpuMemoryTotal)]?.getD 0) job endTime
            gauges i gstats) :=
  get_foldl_toList job.gpuStats (turn sqrt job endTime gauges) (fun info i => info.gpus[i]?)
    (fun i gstats old => old.map (gpuRecord sqrt (gauges[(i, rdcFiGpuMemoryTotal)]?.getD 0) job
      endTime gauges i gstats)) (getElem?_gpus_turn sqrt job endTime gauges) info i

theorem foldl_turn_numGpus (ps : List (Nat × GpuSummaryStats)) (info : RdcJobInfo) :
    (ps.foldl (turn sqrt job endTime gauges) info).numGpus = info.numGpus := by
  induction ps generalizing info with
  | nil => rfl
  | cons p ps ih => rw [List.foldl_cons, ih, turn_numGpus]

end Loop

/-! ## The call on the server -/

section Server

variable (sqrt : ℚ → ℚ) (now : Nat) {c : CacheManager} {jobId : JobId}
  {job : RdcJobStatsCacheEntry} {gauges : RdcGpuGauges}

theorem mem_of_mem_toList {m : IdMap GpuSummaryStats} (h : p ∈ m.toList) : p.1 ∈ m :=
  mem_of_getElem? (ExtTreeMap.mem_toList_iff_getElem?_eq_some.mp h)

/-- All GPUs are measured exactly if all memory sizes are known and no turn divides by zero. -/
theorem forall_measured_iff :
    (∀ p ∈ job.gpuStats.toList, Measured gauges p) ∧ job.gpuStats.size ≠ 0
      ↔ (∀ gpu ∈ job.gpuStats, (gpu, rdcFiGpuMemoryTotal) ∈ gauges)
        ∧ 0 ∉ reportDivisors job gauges := by
  unfold reportDivisors Measured
  rw [List.mem_append, List.mem_singleton, not_or, List.mem_flatMap, ← and_assoc, eq_comm (a := 0)]
  refine and_congr_left fun _ => ⟨fun h => ⟨fun gpu hgpu => ?_, ?_⟩, fun h p hp => ⟨?_, ?_⟩⟩
  · obtain ⟨gstats, hget⟩ := exists_getElem?_of_mem hgpu
    exact (h (gpu, gstats) (ExtTreeMap.mem_toList_iff_getElem?_eq_some.mpr hget)).1
  · rintro ⟨p, hp, hzero⟩
    exact (h p hp).2 hzero
  · exact h.1 p.1 (mem_of_mem_toList hp)
  · exact fun hzero => h.2 ⟨p, hp, hzero⟩

/-- A report that stays inside the array is refused, or divides by zero, or has all it needs; which
of these is not up to the buffer. -/
theorem rdcJobGetStats_cases (gauges : RdcGpuGauges) (hjob : c.cacheJobs[jobId]? = some job)
    (hin : ∀ gpu ∈ job.gpuStats, gpu < jobInfoGpus) :
    (∀ info, ∃ info', c.rdcJobGetStats sqrt jobId gauges now info = .ok (.badParameter, info'))
    ∨ (∀ info, c.rdcJobGetStats sqrt jobId gauges now info = .error .divideByZero)
    ∨ (∀ gpu ∈ job.gpuStats, (gpu, rdcFiGpuMemoryTotal) ∈ gauges)
      ∧ 0 ∉ reportDivisors job gauges := by
  have hin' : ∀ p ∈ job.gpuStats.toList, p.1 < jobInfoGpus :=
    fun p hp => hin p.1 (mem_of_mem_toList hp)
  unfold CacheManager.rdcJobGetStats
  rw [hjob]
  dsimp only
  rcases reportGpus_cases sqrt job (reportEndTime job now) gauges hin' with hbad | hzero | hall
  · refine .inl fun info => ?_
    obtain ⟨info', hres⟩ := hbad { info with
      summary := initSummary job (reportEndTime job now) info.summary
      numGpus := job.gpuStats.size }
    rw [hres]
    exact ⟨info', rfl⟩
  · refine .inr (.inl fun info => ?_)
    rw [hzero]
  · by_cases hsize : job.gpuStats.size = 0
    · -- the loop goes through, and the averages are divided by the number of GPUs
      refine .inr (.inl fun info => ?_)
      rw [reportGpus_ok sqrt job _ hin' hall]
      dsimp only
      rw [if_neg (fun h => h rfl), if_pos ((foldl_turn_numGpus ..).trans hsize)]
    · exact .inr (.inr (forall_measured_iff.mp ⟨hall, hsize⟩))

/-- A report of a job with known memory sizes that divides by no zero. -/
theorem rdcJobGetStats_ok (hjob : c.cacheJobs[jobId]? = some job)
    (hin : ∀ gpu ∈ job.gpuStats, gpu < jobInfoGpus)
    (hmem : ∀ gpu ∈ job.gpuStats, (gpu, rdcFiGpuMemoryTotal) ∈ gauges)
    (hdiv : 0 ∉ reportDivisors job gauges) (info : RdcJobInfo) :
    ∃ info', c.rdcJobGetStats sqrt jobId gauges now info = .ok (.ok, info')
      ∧ info'.numGpus = job.gpuStats.size
      ∧ ∀ i : Nat, info'.gpus[i]? = job.gpuStats[i]?.elim info.gpus[i]? fun gstats =>
          info.gpus[i]?.map (gpuRecord sqrt (gauges[(i, rdcFiGpuMemoryTotal)]?.getD 0) job
            (reportEndTime job now) gauges i gstats) := by
  obtain ⟨hall, hsize⟩ := forall_measured_iff.mpr ⟨hmem, hdiv⟩
  unfold CacheManager.rdcJobGetStats
  rw [hjob]
  dsimp only
  rw [reportGpus_ok sqrt job _ (fun p hp => hin p.1 (mem_of_mem_toList hp)) hall]
  dsimp only
  rw [if_neg (fun h => h rfl), if_neg ((foldl_turn_numGpus ..).trans_ne hsize)]
  exact ⟨_, rfl, foldl_turn_numGpus .., getElem?_gpus_reported sqrt job _ gauges _⟩

/-- If nothing else stops the report, one index outside the array is fatal. -/
theorem rdcJobGetStats_outOfBounds (hjob : c.cacheJobs[jobId]? = some job)
    (hmem : ∀ gpu ∈ job.gpuStats, (gpu, rdcFiGpuMemoryTotal) ∈ gauges)
    (hdiv : 0 ∉ reportDivisors job gauges) {gpu : Nat}
    (hgpu : gpu ∈ job.gpuStats) (hout : jobInfoGpus ≤ gpu) (info : RdcJobInfo) :
    c.rdcJobGetStats sqrt jobId gauges now info = .error .outOfBounds := by
  obtain ⟨gstats, hstats⟩ := exists_getElem?_of_mem hgpu
  have hbad : ∃ p ∈ job.gpuStats.toList, jobInfoGpus ≤ p.1 :=
    ⟨(gpu, gstats), ExtTreeMap.mem_toList_iff_getElem?_eq_some.mpr hstats, hout⟩
  unfold CacheManager.rdcJobGetStats
  rw [hjob]
  dsimp only
  rw [reportGpus_outOfBounds sqrt job _ (forall_measured_iff.mpr ⟨hmem, hdiv⟩).1 hbad]

theorem size_le_of_forall_lt {ν : Type} {m : IdMap ν} {n : Nat} (h : ∀ i ∈ m, i < n) :
    m.size ≤ n := by
  have hsub : m.keys ⊆ List.range n :=
    fun i hi => List.mem_range.mpr (h i (ExtTreeMap.mem_keys.mp hi))
  have hle := (List.subperm_of_subset ExtTreeMap.nodup_keys hsub).length_le
  rw [List.length_range, ExtTreeMap.length_keys] at hle
  exact hle

end Server

/-! ## Over the wire -/

theorem sendGpus_eq (gpus : Vector RdcGpuUsageInfo jobInfoGpus) {n i : Nat}
    (h : i + n ≤ jobInfoGpus) :
    ∃ records, ApiService.sendGpus gpus n i = .ok records ∧ records.length = n
      ∧ ∀ k < n, records[k]? = gpus[i + k]? := by
  induction n generalizing i with
  | zero => exact ⟨[], rfl, rfl, fun k hk => absurd hk (Nat.not_lt_zero k)⟩
  | succ n ih =>
    obtain ⟨records, hsend, hlen, hget⟩ := ih (i := i + 1) (by omega)
    have hi : i < jobInfoGpus := by omega
    refine ⟨gpus.get ⟨i, hi⟩ :: records, ?_, by rw [List.length_cons, hlen], ?_⟩
    · rw [ApiService.sendGpus, Vector.getElem?_eq_getElem hi, hsend]
      rfl
    · intro k hk
      cases k with
      | zero => exact (Vector.getElem?_eq_getElem hi).symm
      | succ k =>
        rw [List.getElem?_cons_succ, hget k (by omega)]
        congr 1
        omega

theorem receiveGpus_eq_fill (records : List RdcGpuUsageInfo) (i : Nat)
    (gpus : Vector RdcGpuUsageInfo jobInfoGpus) :
    StandaloneHandler.receiveGpus records i gpus
      = (Buffer.fill records i gpus).elim (.error .outOfBounds) .ok := by
  induction records generalizing i gpus with
  | nil => rfl
  | cons record records ih =>
    rw [StandaloneHandler.receiveGpus, Buffer.fill]
    split
    · exact ih (i + 1) _
    · rfl

theorem receiveGpus_eq {records : List RdcGpuUsageInfo} (h : records.length ≤ jobInfoGpus)
    (gpus : Vector RdcGpuUsageInfo jobInfoGpus) :
    ∃ out, StandaloneHandler.receiveGpus records 0 gpus = .ok out
      ∧ ∀ k < records.length, out[k]? = records[k]? := by
  have hfits : 0 + records.length ≤ jobInfoGpus := by omega
  obtain ⟨out, hout, hlist⟩ := Buffer.fill_eq_some hfits gpus
  refine ⟨out, by rw [receiveGpus_eq_fill, hout]; rfl, fun k hk => ?_⟩
  rw [← Vector.getElem?_toList, hlist, List.take_zero, List.nil_append,
    List.getElem?_append_left hk]

section Client

variable (sqrt : ℚ → ℚ) (now : Nat) {deviceCount : Nat} {query : Option Failure}
  {fetch : Nat → Nat → Except Failure Nat} {c : CacheManager} {jobId : JobId}
  {job : RdcJobStatsCacheEntry} {gauges : RdcGpuGauges}

/-- The client ends up with the first records of the server's buffer. -/
theorem client_ok (hgauges : getGpuGauges deviceCount query fetch = .ok gauges)
    (hjob : c.cacheJobs[jobId]? = some job) (hin : ∀ gpu ∈ job.gpuStats, gpu < jobInfoGpus)
    (hmem : ∀ gpu ∈ job.gpuStats, (gpu, rdcFiGpuMemoryTotal) ∈ gauges)
    (hdiv : 0 ∉ reportDivisors job gauges) (serverInfo info : RdcJobInfo) :
    ∃ info', StandaloneHandler.rdcJobGetStats sqrt deviceCount query fetch c jobId now serverInfo
        info = .ok (.ok, info')
      ∧ info'.numGpus = job.gpuStats.size
      ∧ ∀ i < job.gpuStats.size,
          info'.gpus[i]? = job.gpuStats[i]?.elim serverInfo.gpus[i]? fun gstats =>
            serverInfo.gpus[i]?.map (gpuRecord sqrt (gauges[(i, rdcFiGpuMemoryTotal)]?.getD 0) job
              (reportEndTime job now) gauges i gstats) := by
  obtain ⟨filled, hfilled, hnum, hgpus⟩ :=
    rdcJobGetStats_ok sqrt now hjob hin hmem hdiv serverInfo
  have hsize := size_le_of_forall_lt hin
  obtain ⟨records, hsend, hlen, hrecords⟩ :=
    sendGpus_eq filled.gpus (n := job.gpuStats.size) (i := 0) (by omega)
  obtain ⟨out, hout, hget⟩ := receiveGpus_eq (by rw [hlen]; exact hsize) info.gpus
  refine ⟨⟨job.gpuStats.size, filled.summary, out⟩, ?_, rfl, ?_⟩
  · unfold StandaloneHandler.rdcJobGetStats ApiService.getJobStats EmbeddedHandler.rdcJobGetStats
    rw [hgauges]
    dsimp only
    rw [hfilled]
    dsimp only
    rw [if_neg (fun h => h rfl), hnum, hsend]
    dsimp only
    rw [hout]
    rfl
  · intro i hi
    rw [hget i (by omega), hrecords i hi, Nat.zero_add, hgpus i]

end Client

/-! ## One record for each GPU -/

/-- The record is what the cache manager computes for the GPU, over whatever was in the buffer. -/
def IsRecordOf (sqrt : ℚ → ℚ) (job : RdcJobStatsCacheEntry) (endTime : Nat) (gauges : RdcGpuGauges)
    (gpu : Nat) (record : RdcGpuUsageInfo) : Prop :=
  ∃ gstats tmemory old, job.gpuStats[gpu]? = some gstats
    ∧ gauges[(gpu, rdcFiGpuMemoryTotal)]? = some tmemory
    ∧ record = gpuRecord sqrt tmemory job endTime gauges gpu gstats old

/-- The first `num_gpus` records are, in some order, one for each GPU of the job. -/
def OneRecordEach (sqrt : ℚ → ℚ) (job : RdcJobStatsCacheEntry) (endTime : Nat)
    (gauges : RdcGpuGauges) (info : RdcJobInfo) : Prop :=
  info.numGpus = job.gpuStats.size
  ∧ ∃ order : List Nat, order.Perm job.gpuStats.keys
    ∧ List.Forall₂ (IsRecordOf sqrt job endTime gauges) order (info.gpus.toList.take info.numGpus)

section Records

variable {sqrt : ℚ → ℚ} {job : RdcJobStatsCacheEntry} {endTime : Nat} {gauges : RdcGpuGauges}
  {info : RdcJobInfo}

/-- Every record the client looks at has the start time of the job. -/
theorem OneRecordEach.startTime (h : OneRecordEach sqrt job endTime gauges info) {i : Nat}
    (hi : i < job.gpuStats.size) {record : RdcGpuUsageInfo} (hrec : info.gpus[i]? = some record) :
    record.startTime = job.startTime := by
  obtain ⟨hnum, order, -, hall⟩ := h
  rw [hnum] at hall
  have hmem : record ∈ info.gpus.toList.take job.gpuStats.size := by
    refine List.mem_iff_getElem?.mpr ⟨i, ?_⟩
    rw [List.getElem?_take_of_lt hi, Vector.getElem?_toList, hrec]
  obtain ⟨gpu, gstats, tmemory, old, -, -, heq⟩ :
      ∃ gpu, IsRecordOf sqrt job endTime gauges gpu record := by
    obtain ⟨k, hk⟩ := List.mem_iff_get.mp hmem
    obtain ⟨hlen, hget⟩ := List.forall₂_iff_get.mp hall
    have hlt : k < order.length := by rw [hlen]; exact k.2
    exact ⟨order.get ⟨k, hlt⟩, hk ▸ hget k hlt k.2⟩
  rw [heq, gpuRecord_startTime]

/-- A table with as many indexes as it has, from zero on, has no others. -/
theorem mem_iff_lt_size {ν : Type} {m : IdMap ν} (h : ∀ i < m.size, i ∈ m) (i : Nat) :
    i ∈ m ↔ i < m.size := by
  have hsub : List.range m.size ⊆ m.keys :=
    fun i hi => ExtTreeMap.mem_keys.mpr (h i (List.mem_range.mp hi))
  have hperm : (List.range m.size).Perm m.keys := by
    refine (List.subperm_of_subset List.nodup_range hsub).perm_of_length_le ?_
    rw [List.length_range, ExtTreeMap.length_keys]
  rw [← ExtTreeMap.mem_keys, ← hperm.mem_iff, List.mem_range]

theorem oneRecordEach_of_initial (hinit : ∀ gpu, gpu ∈ job.gpuStats ↔ gpu < job.gpuStats.size)
    (hle : job.gpuStats.size ≤ jobInfoGpus) (hnum : info.numGpus = job.gpuStats.size)
    (hrec : ∀ gpu < job.gpuStats.size, ∃ record, info.gpus[gpu]? = some record
      ∧ IsRecordOf sqrt job endTime gauges gpu record) :
    OneRecordEach sqrt job endTime gauges info := by
  refine ⟨hnum, List.range job.gpuStats.size, ?_, ?_⟩
  · rw [List.perm_ext_iff_of_nodup List.nodup_range ExtTreeMap.nodup_keys]
    intro gpu
    rw [List.mem_range, ExtTreeMap.mem_keys, hinit]
  · rw [hnum, List.forall₂_iff_get]
    refine ⟨?_, ?_⟩
    · rw [List.length_range, List.length_take, Vector.length_toList, Nat.min_eq_left hle]
    · intro i h₁ h₂
      rw [List.length_range] at h₁
      obtain ⟨record, hget, his⟩ := hrec i h₁
      have hat : (info.gpus.toList.take job.gpuStats.size)[i]? = some record := by
        rw [List.getElem?_take_of_lt h₁, Vector.getElem?_toList, hget]
      rw [List.get_eq_getElem, List.get_eq_getElem, List.getElem_range,
        (List.getElem?_eq_some_iff.mp hat).2]
      exact his

end Records

/-- A record that nothing has been written to since it held this start time. -/
def staleRecord (startTime : Nat) : RdcGpuUsageInfo where
  gpuId := 0
  startTime := startTime
  endTime := 0
  energyConsumed := 0
  eccCorrect := 0
  eccUncorrect := 0
  pcieTx := emptySummary
  pcieRx := emptySummary
  powerUsage := emptySummary
  gpuClock := emptySummary
  memoryClock := emptySummary
  gpuUtilization := emptySummary
  gpuTemperature := emptySummary
  maxGpuMemoryUsed := 0
  memoryUtilization := emptySummary

/-- A buffer full of such records. -/
def staleInfo (startTime : Nat) : RdcJobInfo :=
  ⟨0, staleRecord startTime, Vector.replicate jobInfoGpus (staleRecord startTime)⟩

theorem getElem?_staleInfo {startTime i : Nat} (h : i < jobInfoGpus) :
    (staleInfo startTime).gpus[i]? = some (staleRecord startTime) := by
  show (Vector.replicate jobInfoGpus (staleRecord startTime))[i]? = _
  rw [Vector.getElem?_eq_getElem h, Vector.getElem_replicate]

theorem memory_of_status_ok {c : CacheManager} {jobId : JobId} {job : RdcJobStatsCacheEntry}
    (hjob : c.cacheJobs[jobId]? = some job) (hok : c.rdcJobGetStatsStatus jobId gauges = .ok) :
    ∀ gpu ∈ job.gpuStats, (gpu, rdcFiGpuMemoryTotal) ∈ gauges := by
  unfold CacheManager.rdcJobGetStatsStatus at hok
  rw [hjob] at hok
  dsimp only at hok
  split at hok
  · rename_i hall
    intro gpu hgpu
    exact List.all_eq_true.mp hall gpu (ExtTreeMap.mem_keys.mpr hgpu)
  · cases hok

/-- **Reports and their GPUs.** For a job on GPUs that all fit into the array, and a report that is
granted and divides by no zero, the client gets one record for each of them, whatever the buffers
held before, exactly when the GPUs are the first ones of the node. -/
theorem oneRecordEach_iff (sqrt : ℚ → ℚ) (deviceCount : Nat) (query : Option Failure)
    (fetch : Nat → Nat → Except Failure Nat) (c : CacheManager) (jobId : JobId) (now : Nat)
    (job : RdcJobStatsCacheEntry) (gauges : RdcGpuGauges)
    (hjob : c.cacheJobs[jobId]? = some job) (hin : ∀ gpu ∈ job.gpuStats, gpu < 16)
    (hgauges : getGpuGauges deviceCount query fetch = .ok gauges)
    (hok : c.rdcJobGetStatsStatus jobId gauges = .ok) (hdiv : 0 ∉ reportDivisors job gauges) :
    (∀ serverInfo info, ∃ info',
        StandaloneHandler.rdcJobGetStats sqrt deviceCount query fetch c jobId now serverInfo info
          = .ok (.ok, info')
        ∧ OneRecordEach sqrt job (reportEndTime job now) gauges info')
      ↔ ∀ gpu, gpu ∈ job.gpuStats ↔ gpu < job.gpuStats.size := by
  have hmem := memory_of_status_ok hjob hok
  have hle : job.gpuStats.size ≤ jobInfoGpus := size_le_of_forall_lt hin
  refine ⟨?_, ?_⟩
  · intro h
    refine mem_iff_lt_size fun i hi => ?_
    -- start from a buffer in which no record has the start time of the job
    obtain ⟨info', hres, heach⟩ := h (staleInfo (job.startTime + 1)) (staleInfo 0)
    obtain ⟨info₁, hres₁, -, hgpus⟩ := client_ok sqrt now hgauges hjob hin hmem hdiv
      (staleInfo (job.startTime + 1)) (staleInfo 0)
    rw [hres, Except.ok.injEq, Prod.mk.injEq] at hres₁
    rw [hres₁.2] at heach
    have hi' := hgpus i hi
    rw [getElem?_staleInfo (by omega)] at hi'
    by_contra hnot
    rw [(not_mem_iff_getElem? _ _).mp hnot] at hi'
    have hstart : job.startTime + 1 = job.startTime := heach.startTime hi hi'
    omega
  · intro hinit serverInfo info
    obtain ⟨info', hres, hnum, hgpus⟩ :=
      client_ok sqrt now hgauges hjob hin hmem hdiv serverInfo info
    refine ⟨info', hres, oneRecordEach_of_initial hinit hle hnum fun gpu hgpu => ?_⟩
    have hjobGpu := (hinit gpu).mpr hgpu
    obtain ⟨gstats, hstats⟩ := exists_getElem?_of_mem hjobGpu
    obtain ⟨tmemory, ht⟩ := exists_getElem?_of_mem (hmem gpu hjobGpu)
    have hold : serverInfo.gpus[gpu]? = some (serverInfo.gpus.get ⟨gpu, by omega⟩) :=
      Vector.getElem?_eq_getElem _
    have hget := hgpus gpu hgpu
    rw [hstats, ht, hold] at hget
    exact ⟨_, hget, gstats, tmemory, _, hstats, ht, rfl⟩

/-- The GPUs of the node all have some memory. -/
def someMemory : Nat → Nat → Except Failure Nat := fun _ _ => .ok 16000000000

/-- A job on one GPU, just started. -/
def jobOn (gpu : Nat) : RdcJobStatsCacheEntry :=
  CacheManager.initJobEntry ⟨[103], [gpu], by rw [List.length_singleton]; decide,
    List.nodup_singleton gpu⟩
    ⟨GroupSettings.jobFieldGroupName, GroupSettings.jobFields, GroupSettings.length_jobFields_le⟩
    ∅ 5

/-- A cache with this job. -/
def cacheOn (gpu : Nat) : CacheManager :=
  ⟨∅, (∅ : JobMap RdcJobStatsCacheEntry).insert jobA (jobOn gpu)⟩

theorem oneRecordEach_gpuZero :
    (jobOn 0).gpuStats.keys = [0]
    ∧ ∃ gauges info', StandaloneHandler.rdcJobGetStats id 1 none someMemory (cacheOn 0) jobA 9
        (staleInfo 77) (staleInfo 0) = .ok (.ok, info')
      ∧ OneRecordEach id (jobOn 0) 9 gauges info' := by
  have hkeys : (jobOn 0).gpuStats.keys = [0] := by decide +kernel
  have hmem : ∀ gpu, gpu ∈ (jobOn 0).gpuStats ↔ gpu = 0 := by
    intro gpu
    rw [← ExtTreeMap.mem_keys, hkeys, List.mem_singleton]
  have hsize : (jobOn 0).gpuStats.size = 1 := by
    rw [← ExtTreeMap.length_keys, hkeys]
    rfl
  have hjob : (cacheOn 0).cacheJobs[jobA]? = some (jobOn 0) :=
    (getElem?_insert' ..).trans (if_pos rfl)
  obtain ⟨gauges, hgauges⟩ : ∃ gauges, getGpuGauges 1 none someMemory = .ok gauges := ⟨_, rfl⟩
  have hok : (cacheOn 0).rdcJobGetStatsStatus jobA gauges = .ok := by
    unfold CacheManager.rdcJobGetStatsStatus
    rw [hjob]
    dsimp only
    rw [hkeys, if_pos]
    rw [List.all_cons, List.all_nil, Bool.and_true]
    exact getGpuGauges_memory hgauges (by omega)
  have hdiv : (getGpuGauges 1 none someMemory).map
      (fun gauges => decide (0 ∈ reportDivisors (jobOn 0) gauges)) = .ok false := by
    decide +kernel
  rw [hgauges] at hdiv
  refine ⟨hkeys, gauges, (oneRecordEach_iff id 1 none someMemory (cacheOn 0) jobA 9 (jobOn 0) gauges
    hjob ?_ hgauges hok (of_decide_eq_false (Except.ok.inj hdiv))).mpr ?_ (staleInfo 77)
      (staleInfo 0)⟩
  · intro gpu hgpu
    rw [(hmem gpu).mp hgpu]
    omega
  · intro gpu
    rw [hmem, hsize]
    omega

/-- The job runs on GPU 1, and the client looks at a record nobody has written. -/
theorem not_oneRecordEach_gpuOne :
    (jobOn 1).gpuStats.keys = [1] ∧ (jobOn 1).startTime = 5
    ∧ ∃ info', StandaloneHandler.rdcJobGetStats id 2 none someMemory (cacheOn 1) jobA 9
        (staleInfo 77) (staleInfo 0) = .ok (.ok, info')
      ∧ info'.gpus[0]?.map RdcGpuUsageInfo.startTime = some 77
      ∧ ∀ endTime gauges, ¬ OneRecordEach id (jobOn 1) endTime gauges info' := by
  have hkeys : (jobOn 1).gpuStats.keys = [1] := by decide +kernel
  have hrun : (StandaloneHandler.rdcJobGetStats id 2 none someMemory (cacheOn 1) jobA 9
      (staleInfo 77) (staleInfo 0)).map
        (fun r => (r.1, r.2.gpus[0]?.map RdcGpuUsageInfo.startTime)) = .ok (.ok, some 77) := by
    decide +kernel
  cases hres : StandaloneHandler.rdcJobGetStats id 2 none someMemory (cacheOn 1) jobA 9
      (staleInfo 77) (staleInfo 0) with
  | error fault =>
    rw [hres] at hrun
    cases hrun
  | ok result =>
  obtain ⟨status, info'⟩ := result
  rw [hres] at hrun
  have hvals := Except.ok.inj hrun
  rw [Prod.mk.injEq] at hvals
  refine ⟨hkeys, rfl, info', ?_, hvals.2, fun endTime gauges h => ?_⟩
  · rw [← hvals.1]
  · obtain ⟨record, hrec, hstart⟩ := Option.map_eq_some_iff.mp hvals.2
    have hsize : 0 < (jobOn 1).gpuStats.size := by
      rw [← ExtTreeMap.length_keys, hkeys]
      decide
    have hstart' : record.startTime = 5 := h.startTime hsize hrec
    omega

end Rdc.Proof
