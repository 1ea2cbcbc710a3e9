import Rdc.Proof.Report

/-!
# What a report says

A report that comes back has gone through all GPUs of the job (`jobReport_eq_some`). Each member of
the record of a GPU comes from one field, and each member of the summary from the same field of all
GPUs. `metric_gpuRecord` and `metric_closed` say what they are: the summary of a metric is the fold
of `merge` over the GPUs that have samples for it, and the other GPUs contribute nothing but to the
number that the averages are divided by.
-/

namespace Rdc.Proof

open Std (ExtTreeMap)
open OrdMap

/-! ## Metrics and fields -/

/-- The field a metric is made from. -/
def metricField : Metric → Nat
  | .powerUsage => rdcFiPowerUsage
  | .memoryUtilization => rdcFiGpuMemoryUsage
  | .gpuClock => rdcFiGpuClock
  | .gpuUtilization => rdcFiGpuUtil
  | .gpuTemperature => rdcFiGpuTemp
  | .memoryClock => rdcFiMemClock
  | .pcieTx => rdcFiPcieTx
  | .pcieRx => rdcFiPcieRx

theorem ofField_eq_some {field : Nat} {m : Metric} :
    Metric.ofField field = some m ↔ field = metricField m := by
  constructor
  · intro h
    unfold Metric.ofField at h
    split_ifs at h <;> (rw [← Option.some.inj h]; assumption)
  · rintro rfl
    cases m <;> rfl

theorem metricField_inj {m m' : Metric} (h : metricField m = metricField m') : m = m' :=
  Option.some.inj ((ofField_eq_some.mpr rfl).symm.trans (ofField_eq_some.mpr h))

theorem get_put_self (info : RdcGpuUsageInfo) (s : RdcStatsSummary) (m : Metric) :
    m.get (m.put info s) = s := by
  cases m <;> rfl

theorem get_put_other (info : RdcGpuUsageInfo) (s : RdcStatsSummary) {m m' : Metric} (h : m ≠ m') :
    m'.get (m.put info s) = m'.get info := by
  cases m <;> cases m' <;> first | rfl | exact absurd rfl h

theorem metric_reportField (sqrt : ℚ → ℚ) (tmemory : Nat) (r : RdcGpuUsageInfo × RdcGpuUsageInfo)
    (p : Nat × FieldSummaryStats) (m : Metric) :
    (m.get (reportField sqrt tmemory r p).1, m.get (reportField sqrt tmemory r p).2)
      = if p.1 = metricField m then
          setSummary sqrt p.2 (m.adjuster tmemory) (m.get r.1, m.get r.2)
        else (m.get r.1, m.get r.2) := by
  have hmemory : ∀ (info : RdcGpuUsageInfo) (used : Nat) (m : Metric),
      m.get { info with maxGpuMemoryUsed := used } = m.get info := by
    intro info used m
    cases m <;> rfl
  unfold reportField
  cases hm : Metric.ofField p.1 with
  | none =>
    rw [if_neg]
    intro heq
    rw [ofField_eq_some.mpr heq] at hm
    simp at hm
  | some metric =>
    rw [ofField_eq_some.mp hm]
    dsimp only
    by_cases heq : metric = m
    · subst heq
      rw [if_pos rfl]
      split <;> simp only [hmemory, get_put_self]
    · rw [if_neg fun h => heq (metricField_inj h)]
      split <;> simp only [hmemory, get_put_other _ _ heq]

theorem metric_foldl (sqrt : ℚ → ℚ) (tmemory : Nat) (fields : IdMap FieldSummaryStats)
    (r : RdcGpuUsageInfo × RdcGpuUsageInfo) (m : Metric) :
    (m.get (fields.toList.foldl (reportField sqrt tmemory) r).1,
        m.get (fields.toList.foldl (reportField sqrt tmemory) r).2)
      = fields[metricField m]?.elim (m.get r.1, m.get r.2) fun stats =>
          setSummary sqrt stats (m.adjuster tmemory) (m.get r.1, m.get r.2) := by
  have hfold := get_foldl_toList fields (reportField sqrt tmemory)
    (fun r field => (Metric.ofField field).map fun m => (m.get r.1, m.get r.2))
    (fun field stats o => (Metric.ofField field).elim o fun m =>
      o.map (setSummary sqrt stats (m.adjuster tmemory))) ?_ r (metricField m)
  · simp only [ofField_eq_some.mpr (rfl : metricField m = metricField m), Option.map_some,
      Option.elim_some] at hfold
    cases hm : fields[metricField m]? with
    | none =>
      rw [hm] at hfold
      exact Option.some.inj hfold
    | some stats =>
      rw [hm] at hfold
      exact Option.some.inj hfold
  · intro r p field
    cases hm : Metric.ofField field with
    | none => simp
    | some metric =>
      rw [Option.map_some, metric_reportField, ofField_eq_some.mp hm]
      split <;> rfl

/-! ## One turn of the loop over the GPUs -/

section Turn

variable (sqrt : ℚ → ℚ) (job : RdcJobStatsCacheEntry) (endTime : Nat) (gauges : RdcGpuGauges)

/-- What a GPU adds to the summary of a metric. -/
def merge (s gpu : RdcStatsSummary) : RdcStatsSummary where
  maxValue := max s.maxValue gpu.maxValue
  minValue := min s.minValue gpu.minValue
  average := u64Add s.average gpu.average
  standardDeviation := s.standardDeviation + gpu.standardDeviation

/-- The metric of a GPU, if it has samples for it. -/
def sampledMetric (m : Metric) (p : Nat × GpuSummaryStats) : Option RdcStatsSummary :=
  match p.2.fieldSummaries[metricField m]? with
  | none => none
  | some stats =>
    if stats.count = 0 then none
    else some (emptySummary.set sqrt stats
      (m.adjuster (gauges[(p.1, rdcFiGpuMemoryTotal)]?.getD 0)))

/-- With samples it does not matter what was in the buffer. -/
theorem set_of_count_ne_zero {stats : FieldSummaryStats} (h : stats.count ≠ 0) (adjuster : Nat)
    (gpu : RdcStatsSummary) :
    gpu.set sqrt stats adjuster = emptySummary.set sqrt stats adjuster := by
  unfold RdcStatsSummary.set
  rw [if_neg h, if_neg h]

theorem metric_turn {p : Nat × GpuSummaryStats} (h : p.1 < jobInfoGpus) (info : RdcJobInfo)
    (m : Metric) :
    m.get (turn sqrt job endTime gauges info p).summary
      = (sampledMetric sqrt gauges m p).elim (m.get info.summary) (merge (m.get info.summary)) := by
  have hopen : ∀ info s : RdcGpuUsageInfo, m.get (openSummary info s) = m.get s := by
    intro info s
    cases m <;> rfl
  have hfold := congrArg Prod.snd (metric_foldl sqrt (gauges[(p.1, rdcFiGpuMemoryTotal)]?.getD 0)
    p.2.fieldSummaries (openGpu job endTime gauges p (info.gpus.get ⟨p.1, h⟩, info.summary)) m)
  unfold turn sampledMetric
  rw [dif_pos h]
  dsimp only at hfold ⊢
  rw [hfold]
  cases p.2.fieldSummaries[metricField m]? with
  | none => exact hopen _ _
  | some stats =>
    unfold setSummary RdcStatsSummary.add
    dsimp only [Option.elim]
    by_cases hcount : stats.count = 0
    · rw [if_pos hcount, if_pos hcount]
      exact hopen _ _
    · rw [if_neg hcount, if_neg hcount, set_of_count_ne_zero sqrt hcount]
      dsimp only [openGpu]
      rw [hopen]
      rfl

/-- **The summary of a metric** is made from the GPUs that have samples for it. -/
theorem metric_foldl_turn {ps : List (Nat × GpuSummaryStats)} (hin : ∀ p ∈ ps, p.1 < jobInfoGpus)
    (info : RdcJobInfo) (m : Metric) :
    m.get (ps.foldl (turn sqrt job endTime gauges) info).summary
      = (ps.filterMap (sampledMetric sqrt gauges m)).foldl merge (m.get info.summary) := by
  induction ps generalizing info with
  | nil => rfl
  | cons p ps ih =>
    rw [List.foldl_cons, ih fun q hq => hin q (List.mem_cons_of_mem _ hq),
      metric_turn sqrt job endTime gauges (hin p (List.mem_cons_self ..)), List.filterMap_cons]
    cases sampledMetric sqrt gauges m p with
    | none => rfl
    | some s => rfl

theorem metric_gpuRecord {gpu : Nat} {gstats : GpuSummaryStats} {m : Metric} {s : RdcStatsSummary}
    (h : sampledMetric sqrt gauges m (gpu, gstats) = some s) (old : RdcGpuUsageInfo) :
    m.get (gpuRecord sqrt (gauges[(gpu, rdcFiGpuMemoryTotal)]?.getD 0) job endTime gauges gpu
      gstats old) = s := by
  rw [← foldl_reportField_fst (r := (old, old)) sqrt _ job endTime gauges (gpu, gstats)]
  refine (congrArg Prod.fst (metric_foldl sqrt _ gstats.fieldSummaries _ m)).trans ?_
  unfold sampledMetric at h
  dsimp only at h
  cases hstats : gstats.fieldSummaries[metricField m]? with
  | none =>
    rw [hstats] at h
    simp at h
  | some stats =>
    rw [hstats] at h
    dsimp only at h
    split at h
    · simp at h
    · rename_i hcount
      rw [← Option.some.inj h, ← set_of_count_ne_zero sqrt hcount]
      rfl

end Turn

/-! ## A report that comes back -/

section Report

variable (sqrt : ℚ → ℚ) (now : Nat) {c : CacheManager} {jobId : JobId}
  {job : RdcJobStatsCacheEntry} {gauges : RdcGpuGauges}

/-- The record before the loop. -/
def reportOpened (job : RdcJobStatsCacheEntry) (endTime : Nat) (info : RdcJobInfo) : RdcJobInfo :=
  { info with summary := initSummary job endTime info.summary, numGpus := job.gpuStats.size }

/-- The record after all GPUs. -/
def filled (job : RdcJobStatsCacheEntry) (gauges : RdcGpuGauges) (info : RdcJobInfo) :
    RdcJobInfo :=
  job.gpuStats.toList.foldl (turn sqrt job (reportEndTime job now) gauges)
    (reportOpened job (reportEndTime job now) info)

/-- The record a report comes back with. -/
def closed (job : RdcJobStatsCacheEntry) (gauges : RdcGpuGauges) (info : RdcJobInfo) :
    RdcJobInfo :=
  { filled sqrt now job gauges info with
    summary := averageSummary (filled sqrt now job gauges info).numGpus
      (filled sqrt now job gauges info).summary }

/-- The loop goes through exactly if every GPU has a place and is measured. -/
theorem reportGpus_eq_ok {ps : List (Nat × GpuSummaryStats)} {endTime : Nat}
    {info info' : RdcJobInfo} :
    reportGpus sqrt job endTime gauges ps info = .ok (.ok, info')
      ↔ (∀ p ∈ ps, p.1 < jobInfoGpus ∧ Measured gauges p)
        ∧ ps.foldl (turn sqrt job endTime gauges) info = info' := by
  induction ps generalizing info with
  | nil => simp [reportGpus]
  | cons p ps ih =>
    rw [List.forall_mem_cons, List.foldl_cons]
    by_cases h : p.1 < jobInfoGpus
    · by_cases hm : Measured gauges p
      · rw [reportGpus_cons sqrt job endTime h hm, ih]
        exact ⟨fun hr => ⟨⟨⟨h, hm⟩, hr.1⟩, hr.2⟩, fun hr => ⟨hr.1.2, hr.2⟩⟩
      · refine iff_of_false ?_ fun hr => hm hr.1.1.2
        rcases reportGpus_of_not_measured sqrt job endTime gauges h hm ps with hbad | hzero
        · obtain ⟨info'', hres⟩ := hbad info
          rw [hres]
          simp
        · rw [hzero]
          simp
    · refine iff_of_false ?_ fun hr => h hr.1.1.1
      rw [reportGpus, dif_neg h]
      simp

/-- The call succeeds exactly if every GPU of the job has a place in the record and a memory size,
and no divisor is zero. -/
theorem rdcJobGetStats_eq_ok (hjob : c.cacheJobs[jobId]? = some job) (info info' : RdcJobInfo) :
    c.rdcJobGetStats sqrt jobId gauges now info = .ok (.ok, info')
      ↔ (∀ gpu ∈ job.gpuStats, gpu < jobInfoGpus ∧ (gpu, rdcFiGpuMemoryTotal) ∈ gauges)
        ∧ 0 ∉ reportDivisors job gauges ∧ closed sqrt now job gauges info = info' := by
  constructor
  · intro h
    unfold CacheManager.rdcJobGetStats at h
    rw [hjob] at h
    dsimp only at h
    split at h
    · cases h
    · rename_i status filled hloop
      split at h
      · rename_i hst
        exact absurd (Prod.mk.inj (Except.ok.inj h)).1 hst
      · rename_i hst
        obtain rfl : status = .ok := not_not.mp hst
        obtain ⟨hall, hfold⟩ := (reportGpus_eq_ok sqrt).mp hloop
        split at h
        · cases h
        · rename_i hsize
          rw [← hfold] at h hsize
          have hmeasured := forall_measured_iff.mp
            ⟨fun p hp => (hall p hp).2, ((foldl_turn_numGpus ..).symm.trans_ne hsize)⟩
          refine ⟨fun gpu hgpu => ⟨?_, hmeasured.1 gpu hgpu⟩, hmeasured.2,
            (Prod.mk.inj (Except.ok.inj h)).2⟩
          obtain ⟨gstats, hget⟩ := exists_getElem?_of_mem hgpu
          exact (hall (gpu, gstats) (ExtTreeMap.mem_toList_iff_getElem?_eq_some.mpr hget)).1
  · rintro ⟨hall, hdiv, rfl⟩
    obtain ⟨hmeasured, hsize⟩ := forall_measured_iff.mpr ⟨fun gpu hgpu => (hall gpu hgpu).2, hdiv⟩
    unfold CacheManager.rdcJobGetStats
    rw [hjob]
    dsimp only
    rw [reportGpus_ok sqrt job _ (fun p hp => (hall p.1 (mem_of_mem_toList hp)).1) hmeasured]
    dsimp only
    rw [if_neg (fun h => h rfl), if_neg ((foldl_turn_numGpus ..).trans_ne hsize)]
    rfl

/-- **A report comes back exactly if** every GPU of the job has a place in the record and a memory
size, and no divisor is zero. -/
theorem jobReport_eq_some (hjob : c.cacheJobs[jobId]? = some job) {info info' : RdcJobInfo} :
    c.jobReport sqrt jobId gauges now info = some info'
      ↔ (∀ gpu ∈ job.gpuStats, gpu < jobInfoGpus ∧ (gpu, rdcFiGpuMemoryTotal) ∈ gauges)
        ∧ 0 ∉ reportDivisors job gauges ∧ closed sqrt now job gauges info = info' := by
  rw [← rdcJobGetStats_eq_ok sqrt now hjob info info']
  unfold CacheManager.jobReport
  split
  · rename_i i hres
    rw [hres]
    simp
  · rename_i hno
    exact iff_of_false (by simp) (hno info')

theorem getElem?_gpus_closed {gpu : Nat} {gstats : GpuSummaryStats}
    (hgpu : job.gpuStats[gpu]? = some gstats) (info : RdcJobInfo) :
    (closed sqrt now job gauges info).gpus[gpu]?
      = info.gpus[gpu]?.map (gpuRecord sqrt (gauges[(gpu, rdcFiGpuMemoryTotal)]?.getD 0) job
          (reportEndTime job now) gauges gpu gstats) := by
  have hloop := getElem?_gpus_reported sqrt job (reportEndTime job now) gauges
    (reportOpened job (reportEndTime job now) info) gpu
  rw [hgpu] at hloop
  exact hloop

theorem exists_record (info : RdcJobInfo) {gpu : Nat} (h : gpu < jobInfoGpus) :
    ∃ record, info.gpus[gpu]? = some record := ⟨_, Vector.getElem?_eq_getElem h⟩

theorem metric_closed (hin : ∀ gpu ∈ job.gpuStats, gpu < jobInfoGpus) (info : RdcJobInfo)
    (m : Metric) :
    m.get (closed sqrt now job gauges info).summary
      = setAverageSummary job.gpuStats.size
          ((job.gpuStats.toList.filterMap (sampledMetric sqrt gauges m)).foldl merge
            emptySummary) := by
  have haverage : ∀ (n : Nat) (s : RdcGpuUsageInfo),
      m.get (averageSummary n s) = setAverageSummary n (m.get s) := by
    intro n s
    cases m <;> rfl
  have hinit : m.get (reportOpened job (reportEndTime job now) info).summary = emptySummary := by
    cases m <;> rfl
  have hloop := metric_foldl_turn sqrt job (reportEndTime job now) gauges
    (fun p (hp : p ∈ job.gpuStats.toList) => hin p.1 (mem_of_mem_toList hp))
    (reportOpened job (reportEndTime job now) info) m
  rw [hinit] at hloop
  refine (haverage _ _).trans ?_
  rw [← hloop]
  exact congrArg (setAverageSummary · _) (foldl_turn_numGpus ..)

end Report

end Rdc.Proof
