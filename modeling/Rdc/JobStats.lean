import Rdc.CacheManager
import Rdc.Handler

/-!
# The report of a job

`rdc_job_get_stats`: the statistics of a job, as numbers for people, written into the caller's
`rdc_job_info_t`. The record of a GPU is `gpus[i]`, where `i` is the GPU index, in an array of
sixteen. The buffer comes in with whatever the caller left in it: `gpu_id` is never written, and
neither is the standard deviation of a field without samples.

A call that addresses the array outside its bounds has no result, and neither has one that divides
an integer by zero, as a memory size below 100 and a job without GPUs make it; the two are told
apart (`Fault`). What a call divides by is listed on its own (`reportDivisors`).

`std::sqrt` is a parameter. A `double` is a rational number here and has no root in general, and
nothing depends on which function it is.
-/

namespace Rdc

/-- What ends a call without a result. -/
inductive Fault where
  /-- an index outside its array -/
  | outOfBounds
  /-- an integer divided by zero -/
  | divideByZero
  deriving DecidableEq

/-- `rdc_stats_summary_t`. -/
structure RdcStatsSummary where
  maxValue : Nat
  minValue : Nat
  average : Nat
  standardDeviation : ℚ
  deriving DecidableEq

/-- `rdc_gpu_usage_info_t`. -/
structure RdcGpuUsageInfo where
  gpuId : Nat
  startTime : Nat
  endTime : Nat
  energyConsumed : Nat
  eccCorrect : Nat
  eccUncorrect : Nat
  pcieTx : RdcStatsSummary
  pcieRx : RdcStatsSummary
  powerUsage : RdcStatsSummary
  gpuClock : RdcStatsSummary
  memoryClock : RdcStatsSummary
  gpuUtilization : RdcStatsSummary
  gpuTemperature : RdcStatsSummary
  maxGpuMemoryUsed : Nat
  memoryUtilization : RdcStatsSummary
  deriving DecidableEq

/-- The length of `gpus` in `rdc_job_info_t`. -/
def jobInfoGpus : Nat := 16

/-- `rdc_job_info_t`. -/
structure RdcJobInfo where
  numGpus : Nat
  summary : RdcGpuUsageInfo
  gpus : Vector RdcGpuUsageInfo jobInfoGpus
  deriving DecidableEq

/-! ## One field of one GPU -/

/-- An `int64_t` stored in a `uint64_t`. -/
def u64OfInt (x : Int) : Nat := (x % 2 ^ 64).toNat

/-- What `set_summary` makes of the record of a field. The average is computed in `uint64_t`, the
extremes in `int64_t`. -/
def RdcStatsSummary.set (sqrt : ℚ → ℚ) (stats : FieldSummaryStats) (adjuster : Nat)
    (gpu : RdcStatsSummary) : RdcStatsSummary :=
  if stats.count = 0 then
    { gpu with minValue := 2 ^ 64 - 1, maxValue := 0, average := 0 }
  else
    { maxValue := u64OfInt (stats.maxValue.tdiv adjuster)
      minValue := u64OfInt (stats.minValue.tdiv adjuster)
      average := u64OfInt stats.totalValue / stats.count / adjuster
      standardDeviation :=
        sqrt (if stats.count > 1 then stats.newS / (stats.count - 1) else 0) / adjuster }

/-- What `set_summary` adds to the summary of the job. -/
def RdcStatsSummary.add (stats : FieldSummaryStats) (gpu summary : RdcStatsSummary) :
    RdcStatsSummary :=
  if stats.count = 0 then summary
  else
    { maxValue := max summary.maxValue gpu.maxValue
      minValue := min summary.minValue gpu.minValue
      average := u64Add summary.average gpu.average
      standardDeviation := summary.standardDeviation + gpu.standardDeviation }

/-- `set_summary`. -/
def setSummary (sqrt : ℚ → ℚ) (stats : FieldSummaryStats) (adjuster : Nat)
    (r : RdcStatsSummary × RdcStatsSummary) : RdcStatsSummary × RdcStatsSummary :=
  (r.1.set sqrt stats adjuster, RdcStatsSummary.add stats (r.1.set sqrt stats adjuster) r.2)

/-- `set_average_summary`. -/
def setAverageSummary (numGpus : Nat) (summary : RdcStatsSummary) : RdcStatsSummary :=
  { summary with
    average := summary.average / numGpus
    standardDeviation := summary.standardDeviation / numGpus }

/-- The members of `rdc_gpu_usage_info_t` that summarise a field. -/
inductive Metric where
  | powerUsage
  | memoryUtilization
  | gpuClock
  | gpuUtilization
  | gpuTemperature
  | memoryClock
  | pcieTx
  | pcieRx
  deriving DecidableEq

namespace Metric

/-- The branches of `rdc_job_get_stats` on the field id. -/
def ofField (field : Nat) : Option Metric :=
  if field = rdcFiPowerUsage then some powerUsage
  else if field = rdcFiGpuMemoryUsage then some memoryUtilization
  else if field = rdcFiGpuClock then some gpuClock
  else if field = rdcFiGpuUtil then some gpuUtilization
  else if field = rdcFiGpuTemp then some gpuTemperature
  else if field = rdcFiMemClock then some memoryClock
  else if field = rdcFiPcieTx then some pcieTx
  else if field = rdcFiPcieRx then some pcieRx
  else none

/-- The divisor each branch passes; it is an `unsigned int`. -/
def adjuster (tmemory : Nat) : Metric → Nat
  | powerUsage => 1000000
  | memoryUtilization => tmemory / 100 % 2 ^ 32
  | gpuClock => 1000000
  | gpuUtilization => 1
  | gpuTemperature => 1000
  | memoryClock => 1000000
  | pcieTx => 1024 * 1024
  | pcieRx => 1024 * 1024

/-- The member of a record. -/
def get (info : RdcGpuUsageInfo) : Metric → RdcStatsSummary
  | powerUsage => info.powerUsage
  | memoryUtilization => info.memoryUtilization
  | gpuClock => info.gpuClock
  | gpuUtilization => info.gpuUtilization
  | gpuTemperature => info.gpuTemperature
  | memoryClock => info.memoryClock
  | pcieTx => info.pcieTx
  | pcieRx => info.pcieRx

/-- Write the member of a record. -/
def put (info : RdcGpuUsageInfo) (s : RdcStatsSummary) : Metric → RdcGpuUsageInfo
  | powerUsage => { info with powerUsage := s }
  | memoryUtilization => { info with memoryUtilization := s }
  | gpuClock => { info with gpuClock := s }
  | gpuUtilization => { info with gpuUtilization := s }
  | gpuTemperature => { info with gpuTemperature := s }
  | memoryClock => { info with memoryClock := s }
  | pcieTx => { info with pcieTx := s }
  | pcieRx => { info with pcieRx := s }

end Metric

/-- One turn of the loop over the fields of a GPU: its record and the summary of the job. -/
def reportField (sqrt : ℚ → ℚ) (tmemory : Nat) (r : RdcGpuUsageInfo × RdcGpuUsageInfo)
    (field : Nat × FieldSummaryStats) : RdcGpuUsageInfo × RdcGpuUsageInfo :=
  match Metric.ofField field.1 with
  | none => r
  | some metric =>
    let s := setSummary sqrt field.2 (metric.adjuster tmemory) (metric.get r.1, metric.get r.2)
    let gpuInfo := metric.put r.1 s.1
    let summaryInfo := metric.put r.2 s.2
    -- only memory usage has a second member
    if metric = .memoryUtilization then
      let used := u64OfInt field.2.maxValue
      ({ gpuInfo with maxGpuMemoryUsed := used },
        { summaryInfo with maxGpuMemoryUsed := max summaryInfo.maxGpuMemoryUsed used })
    else
      (gpuInfo, summaryInfo)

/-! ## Divisions -/

/-- The integers `set_summary` divides by. -/
def setSummaryDivisors (stats : FieldSummaryStats) (adjuster : Nat) : List Nat :=
  if stats.count = 0 then [] else [adjuster, stats.count]

/-- Those of one turn of the loop over the fields. -/
def reportFieldDivisors (tmemory : Nat) (field : Nat × FieldSummaryStats) : List Nat :=
  match Metric.ofField field.1 with
  | none => []
  | some metric => setSummaryDivisors field.2 (metric.adjuster tmemory)

/-- Those of all fields of a GPU. -/
def reportGpuDivisors (tmemory : Nat) (gstats : GpuSummaryStats) : List Nat :=
  gstats.fieldSummaries.toList.flatMap (reportFieldDivisors tmemory)

/-- Those of a report that goes through; the last one is that of `set_average_summary`. -/
def reportDivisors (job : RdcJobStatsCacheEntry) (gauges : RdcGpuGauges) : List Nat :=
  (job.gpuStats.toList.flatMap fun p =>
    reportGpuDivisors (gauges[(p.1, rdcFiGpuMemoryTotal)]?.getD 0) p.2) ++ [job.gpuStats.size]

/-! ## One GPU -/

/-- The ECC count of a GPU: a stopped job has it, a running one subtracts its baseline from the
gauge, and without a gauge there is none. -/
def eccCount (stopped : Bool) (gauge : Option Nat) (init : Nat) : Nat :=
  if stopped then init
  else
    match gauge with
    | some total => u64Sub total init
    | none => 0

/-- The members that are written before the total memory is looked up. -/
def openRecord (job : RdcJobStatsCacheEntry) (endTime : Nat) (gauges : RdcGpuGauges) (gpu : Nat)
    (gstats : GpuSummaryStats) (info : RdcGpuUsageInfo) : RdcGpuUsageInfo :=
  { info with
    startTime := job.startTime
    endTime := endTime
    energyConsumed := gstats.energyConsumed
    eccCorrect :=
      eccCount (job.endTime != 0) gauges[(gpu, rdcFiEccCorrectTotal)]? gstats.eccCorrectInit
    eccUncorrect :=
      eccCount (job.endTime != 0) gauges[(gpu, rdcFiEccUncorrectTotal)]? gstats.eccUncorrectInit }

/-- What these members add to the summary. -/
def openSummary (info summary : RdcGpuUsageInfo) : RdcGpuUsageInfo :=
  { summary with
    energyConsumed := u64Add summary.energyConsumed info.energyConsumed
    eccCorrect := u64Add summary.eccCorrect info.eccCorrect
    eccUncorrect := u64Add summary.eccUncorrect info.eccUncorrect }

/-- One turn of the loop over the GPUs, as far as the total memory. -/
def openGpu (job : RdcJobStatsCacheEntry) (endTime : Nat) (gauges : RdcGpuGauges)
    (p : Nat × GpuSummaryStats) (r : RdcGpuUsageInfo × RdcGpuUsageInfo) :
    RdcGpuUsageInfo × RdcGpuUsageInfo :=
  (openRecord job endTime gauges p.1 p.2 r.1,
    openSummary (openRecord job endTime gauges p.1 p.2 r.1) r.2)

/-- The loop over the GPUs of a job, in the order of their indexes. -/
def reportGpus (sqrt : ℚ → ℚ) (job : RdcJobStatsCacheEntry) (endTime : Nat)
    (gauges : RdcGpuGauges) :
    List (Nat × GpuSummaryStats) → RdcJobInfo → Except Fault (Status × RdcJobInfo)
  | [], info => .ok (.ok, info)
  | p :: rest, info =>
    if h : p.1 < jobInfoGpus then
      let r := openGpu job endTime gauges p (info.gpus.get ⟨p.1, h⟩, info.summary)
      match gauges[(p.1, rdcFiGpuMemoryTotal)]? with
      | none =>
        .ok (.badParameter,
          { info with summary := r.2, gpus := info.gpus.set p.1 r.1 h })
      | some tmemory =>
        -- a division by zero ends the daemon, at whichever field of the GPU it is
        if 0 ∈ reportGpuDivisors tmemory p.2 then .error .divideByZero
        else
          let r := p.2.fieldSummaries.toList.foldl (reportField sqrt tmemory) r
          reportGpus sqrt job endTime gauges rest
            { info with summary := r.2, gpus := info.gpus.set p.1 r.1 h }
    else
      .error .outOfBounds

/-! ## The call -/

/-- What the summary of a field starts from. -/
def emptySummary : RdcStatsSummary := ⟨0, 2 ^ 64 - 1, 0, 0⟩

/-- The summary of the job before the loop. -/
def initSummary (job : RdcJobStatsCacheEntry) (endTime : Nat) (summary : RdcGpuUsageInfo) :
    RdcGpuUsageInfo where
  gpuId := summary.gpuId
  startTime := job.startTime
  endTime := endTime
  energyConsumed := 0
  eccCorrect := 0
  eccUncorrect := 0
  pcieTx := emptySummary
  pcieRx := emptySummary
  powerUsage := emptySummary
  gpuClock := emptySummary
  memoryClock := emptySummary
  gpuUtilization := emptySummary
  gpuTemperature := emptySummary
  maxGpuMemoryUsed := 0
  memoryUtilization := emptySummary

/-- The summary of the job after the loop. -/
def averageSummary (numGpus : Nat) (summary : RdcGpuUsageInfo) : RdcGpuUsageInfo :=
  { summary with
    powerUsage := setAverageSummary numGpus summary.powerUsage
    gpuClock := setAverageSummary numGpus summary.gpuClock
    gpuUtilization := setAverageSummary numGpus summary.gpuUtilization
    memoryUtilization := setAverageSummary numGpus summary.memoryUtilization
    pcieTx := setAverageSummary numGpus summary.pcieTx
    pcieRx := setAverageSummary numGpus summary.pcieRx
    gpuTemperature := setAverageSummary numGpus summary.gpuTemperature
    memoryClock := setAverageSummary numGpus summary.memoryClock }

/-- The end time of the report: that of the job, or now if it is still running. -/
def reportEndTime (job : RdcJobStatsCacheEntry) (now : Nat) : Nat :=
  if job.endTime = 0 then now else job.endTime

/-- `RdcCacheManagerImpl::rdc_job_get_stats`. -/
def CacheManager.rdcJobGetStats (sqrt : ℚ → ℚ) (c : CacheManager) (jobId : JobId)
    (gauges : RdcGpuGauges) (now : Nat) (info : RdcJobInfo) :
    Except Fault (Status × RdcJobInfo) :=
  match c.cacheJobs[jobId]? with
  | none => .ok (.notFound, info)
  | some job =>
    let endTime := reportEndTime job now
    let opened : RdcJobInfo :=
      { info with
        summary := initSummary job endTime info.summary
        numGpus := job.gpuStats.size }
    match reportGpus sqrt job endTime gauges job.gpuStats.toList opened with
    | .error fault => .error fault
    | .ok (status, info') =>
      if status ≠ .ok then .ok (status, info')
      else if info'.numGpus = 0 then .error .divideByZero
      else .ok (.ok, { info' with summary := averageSummary info'.numGpus info'.summary })

/-- The report of a job, if the call is successful. -/
def CacheManager.jobReport (sqrt : ℚ → ℚ) (c : CacheManager) (jobId : JobId)
    (gauges : RdcGpuGauges) (now : Nat) (info : RdcJobInfo) : Option RdcJobInfo :=
  match c.rdcJobGetStats sqrt jobId gauges now info with
  | .ok (.ok, info') => some info'
  | _ => none

/-- `RdcEmbeddedHandler::rdc_job_get_stats`. -/
def EmbeddedHandler.rdcJobGetStats (sqrt : ℚ → ℚ) (deviceCount : Nat) (query : Option Failure)
    (fetch : Nat → Nat → Except Failure Nat) (c : CacheManager) (jobId : JobId) (now : Nat)
    (info : RdcJobInfo) : Except Fault (Status × RdcJobInfo) :=
  match getGpuGauges deviceCount query fetch with
  | .error status => .ok (status, info)
  | .ok gauges => c.rdcJobGetStats sqrt jobId gauges now info

end Rdc
