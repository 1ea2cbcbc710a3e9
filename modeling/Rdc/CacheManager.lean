import Rdc.GroupSettings
import Mathlib.Algebra.Order.Ring.Rat

/-!
# The cache

`RdcCacheManagerImpl`: the cached samples of every (GPU, field) and the running statistics of every
job. Every public operation takes `cache_mutex_` for its whole body, so each is one atomic step.

`double` is exact rational arithmetic here. The members of `FieldSummaryStats` the source leaves
uninitialised start at zero; each of them is written before it is read.
-/

namespace Rdc

open Std

/-- `RdcCacheEntry`: one cached sample. -/
structure RdcCacheEntry where
  lastTime : Nat
  type : RdcFieldType
  value : RdcFieldValueData
  deriving DecidableEq, Repr

/-- `FieldSummaryStats`. -/
structure FieldSummaryStats where
  maxValue : Int := 0
  minValue : Int := 0
  totalValue : Int := 0
  oldM : ℚ := 0
  oldS : ℚ := 0
  newM : ℚ := 0
  newS : ℚ := 0
  lastTime : Nat := 0
  count : Nat := 0
  deriving DecidableEq

/-- `GpuSummaryStats`. -/
structure GpuSummaryStats where
  energyConsumed : Nat
  energyLastTime : Nat
  eccCorrectInit : Nat
  eccUncorrectInit : Nat
  fieldSummaries : IdMap FieldSummaryStats
  deriving DecidableEq

/-- `RdcJobStatsCacheEntry`. An `endTime` of zero means the job is running. -/
structure RdcJobStatsCacheEntry where
  startTime : Nat
  endTime : Nat
  gpuStats : IdMap GpuSummaryStats
  deriving DecidableEq

/-- `RdcCacheManagerImpl`. -/
structure CacheManager where
  cacheSamples : KeyMap (List RdcCacheEntry)
  cacheJobs : JobMap RdcJobStatsCacheEntry
  deriving DecidableEq

/-! ## One sample of one field of one GPU of one job -/

/-- The first sample of a field starts its statistics. -/
def FieldSummaryStats.firstItem (stats : FieldSummaryStats) (value : RdcFieldValue) :
    FieldSummaryStats :=
  let x := value.value.lIntOf
  { stats with
    count := 1
    maxValue := x
    minValue := x
    totalValue := x
    lastTime := value.ts
    oldS := 0
    oldM := x
    newM := x }

/-- A later sample is folded into the running mean and the running squared deviations. -/
def FieldSummaryStats.nextItem (stats : FieldSummaryStats) (value : RdcFieldValue) :
    FieldSummaryStats :=
  let x := value.value.lIntOf
  let count := stats.count + 1
  let newM := stats.oldM + (x - stats.oldM) / count
  let newS := stats.oldS + (x - stats.oldM) * (x - newM)
  { maxValue := max stats.maxValue x
    minValue := min stats.minValue x
    totalValue := stats.totalValue + x
    lastTime := value.ts
    count := count
    newM := newM
    newS := newS
    oldM := newM
    oldS := newS }

/-- What a sample does to the statistics of its field. -/
def FieldSummaryStats.update (stats : FieldSummaryStats) (value : RdcFieldValue) :
    FieldSummaryStats :=
  if stats.count = 0 then stats.firstItem value else stats.nextItem value

/-- What a sample does to the energy members of its GPU: the first power sample sets the reference
time, later ones add `(elapsed * power) / 10^9`, the product in `uint64_t`. -/
def GpuSummaryStats.updateEnergy (gstats : GpuSummaryStats) (count : Nat) (value : RdcFieldValue) :
    GpuSummaryStats :=
  if value.fieldId = rdcFiPowerUsage then
    if count = 0 then
      { gstats with energyLastTime := value.ts }
    else
      let timeElapsed := u64Sub value.ts gstats.energyLastTime
      let product : Int := (timeElapsed * value.value.lIntOf) % 2 ^ 64
      { gstats with
        energyConsumed := ((gstats.energyConsumed : ℚ) + product / (1000 * 1000000)).floor.toNat }
  else
    gstats

namespace CacheManager

/-! ## Samples -/

/-- The scan of `rdc_field_get_value_since`: the first sample at or after `since`, with the cursor
for the next call. -/
def scanSince (since : Nat) : List RdcCacheEntry → Option (RdcCacheEntry × Nat)
  | [] => none
  | entry :: rest =>
    if entry.lastTime ≥ since then
      match rest with
      | next :: _ => some (entry, next.lastTime)
      | [] => some (entry, u64Add entry.lastTime 1)
    else
      scanSince since rest

/-- `rdc_field_get_value_since`. The out-parameters come in with what the caller left in them and go
out with what the call wrote; `status` is never written. -/
def rdcFieldGetValueSince (c : CacheManager) (gpuIndex fieldId since : Nat)
    (nextSince : Nat) (value : RdcFieldValue) : Status × Nat × RdcFieldValue :=
  match c.cacheSamples[(gpuIndex, fieldId)]? with
  | none => (.notFound, nextSince, value)
  | some [] => (.notFound, nextSince, value)
  | some (entry :: entries) =>
    match scanSince since (entry :: entries) with
    | none => (.notFound, since, value)
    | some (found, next) =>
      (.ok, next,
        { value with
          ts := found.lastTime
          type := found.type
          value :=
            if found.type = .string then
              .str (strncpyWithNull found.value.strOf rdcMaxStrLength)
            else
              .lInt found.value.lIntOf
          fieldId := fieldId })

/-- `rdc_field_get_latest_value`. The whole union is copied, whatever the type; `status` is never
written. -/
def rdcFieldGetLatestValue (c : CacheManager) (gpuIndex fieldId : Nat) (value : RdcFieldValue) :
    Status × RdcFieldValue :=
  match c.cacheSamples[(gpuIndex, fieldId)]?.bind List.getLast? with
  | none => (.notFound, value)
  | some last =>
    (.ok,
      { value with
        ts := last.lastTime
        type := last.type
        value := last.value
        fieldId := fieldId })

/-- The age loop of `evict_cache`: drop from the front until a sample is young enough. -/
def dropOld (maxKeepAge : ℚ) (now : Nat) : List RdcCacheEntry → List RdcCacheEntry
  | [] => []
  | entry :: rest =>
    if (entry.lastTime : ℚ) + maxKeepAge * 1000 ≥ now then entry :: rest
    else dropOld maxKeepAge now rest

/-- `item_remove` in `evict_cache`. The number of samples to remove passes through an `int`. -/
def itemRemove (size maxKeepSamples : Nat) : Int :=
  Int.bmod ((size : Int) - maxKeepSamples) (2 ^ 32)

/-- The erasure of the first `item_remove` samples. What happens if there are fewer is undefined. -/
def eraseFront (itemRemove : Int) (values : List RdcCacheEntry) : Option (List RdcCacheEntry) :=
  if itemRemove > 0 then
    if itemRemove ≤ values.length then some (values.drop itemRemove.toNat) else none
  else
    some values

/-- `evict_cache`; `none` if the range to erase ends beyond the list. -/
def evictCache (c : CacheManager) (gpuIndex fieldId maxKeepSamples : Nat) (maxKeepAge : ℚ)
    (now : Nat) : Option (Status × CacheManager) :=
  match c.cacheSamples[(gpuIndex, fieldId)]? with
  | none => some (.notFound, c)
  | some [] => some (.notFound, c)
  | some (entry :: entries) =>
    let values := entry :: entries
    (eraseFront (itemRemove values.length maxKeepSamples) values).map fun values =>
      (.ok, { c with
        cacheSamples :=
          c.cacheSamples.insert (gpuIndex, fieldId) (dropOld maxKeepAge now values) })

/-- The cache after `evict_cache`, for the state machine of the daemon, which goes on in any case: a
range that ends beyond the list leaves an empty one. -/
def evict (c : CacheManager) (gpuIndex fieldId maxKeepSamples : Nat) (maxKeepAge : ℚ)
    (now : Nat) : CacheManager :=
  (c.evictCache gpuIndex fieldId maxKeepSamples maxKeepAge now).elim
    { c with cacheSamples := c.cacheSamples.insert (gpuIndex, fieldId) [] } Prod.snd

/-- `rdc_update_cache`. -/
def rdcUpdateCache (c : CacheManager) (gpuIndex : Nat) (value : RdcFieldValue) :
    Status × CacheManager :=
  let entry : RdcCacheEntry := ⟨value.ts, value.type, value.value⟩
  (.ok, { c with
    cacheSamples := c.cacheSamples.alter (gpuIndex, value.fieldId) fun
      | none => some [entry]
      | some entries => some (entries ++ [entry]) })

/-! ## Jobs -/

/-- `rdc_job_remove`. -/
def rdcJobRemove (c : CacheManager) (jobId : JobId) : Status × CacheManager :=
  (.ok, { c with cacheJobs := c.cacheJobs.erase jobId })

/-- `rdc_job_remove_all`. -/
def rdcJobRemoveAll (c : CacheManager) : Status × CacheManager :=
  (.ok, { c with cacheJobs := ∅ })

/-- `rdc_update_job_stats`. -/
def rdcUpdateJobStats (c : CacheManager) (gpuIndex : Nat) (jobId : JobId) (value : RdcFieldValue) :
    Status × CacheManager :=
  match c.cacheJobs[jobId]? with
  | none => (.notFound, c)
  | some job =>
    match job.gpuStats[gpuIndex]? with
    | none => (.notFound, c)
    | some gstats =>
      match gstats.fieldSummaries[value.fieldId]? with
      | none => (.notFound, c)
      | some fsummary =>
        let gstats := gstats.updateEnergy fsummary.count value
        let gstats :=
          { gstats with
            fieldSummaries :=
              gstats.fieldSummaries.insert value.fieldId (fsummary.update value) }
        let job := { job with gpuStats := job.gpuStats.insert gpuIndex gstats }
        (.ok, { c with cacheJobs := c.cacheJobs.insert jobId job })

/-- The statistics a job starts with for one GPU. -/
def initGpuStats (finfo : RdcFieldGroupInfo) (gauges : RdcGpuGauges) (gpu : Nat) :
    GpuSummaryStats where
  energyConsumed := 0
  energyLastTime := 0
  eccCorrectInit := gauges[(gpu, rdcFiEccCorrectTotal)]?.getD 0
  eccUncorrectInit := gauges[(gpu, rdcFiEccUncorrectTotal)]?.getD 0
  fieldSummaries := finfo.fieldIds.foldl (fun m field => m.insertIfNew field {}) ∅

/-- The entry `rdc_job_start_stats` builds before it takes the lock. -/
def initJobEntry (ginfo : RdcGroupInfo) (finfo : RdcFieldGroupInfo) (gauges : RdcGpuGauges)
    (time : Nat) : RdcJobStatsCacheEntry where
  startTime := time
  endTime := 0
  gpuStats :=
    ginfo.entityIds.foldl (fun m gpu => m.insertIfNew gpu (initGpuStats finfo gauges gpu)) ∅

/-- `rdc_job_start_stats`. -/
def rdcJobStartStats (c : CacheManager) (jobId : JobId) (ginfo : RdcGroupInfo)
    (finfo : RdcFieldGroupInfo) (gauges : RdcGpuGauges) (time : Nat) : Status × CacheManager :=
  (.ok, { c with
    cacheJobs := (c.cacheJobs.erase jobId).insertIfNew jobId
      (initJobEntry ginfo finfo gauges time) })

/-- Stopping turns an ECC baseline into the count since the start, where there is a gauge. -/
def stopGpuStats (gauges : RdcGpuGauges) (gpu : Nat) (gstats : GpuSummaryStats) : GpuSummaryStats :=
  { gstats with
    eccCorrectInit :=
      match gauges[(gpu, rdcFiEccCorrectTotal)]? with
      | some total => u64Sub total gstats.eccCorrectInit
      | none => gstats.eccCorrectInit
    eccUncorrectInit :=
      match gauges[(gpu, rdcFiEccUncorrectTotal)]? with
      | some total => u64Sub total gstats.eccUncorrectInit
      | none => gstats.eccUncorrectInit }

/-- `rdc_job_stop_stats`. -/
def rdcJobStopStats (c : CacheManager) (jobId : JobId) (gauges : RdcGpuGauges) (time : Nat) :
    Status × CacheManager :=
  match c.cacheJobs[jobId]? with
  | none => (.notFound, c)
  | some job =>
    let job := { job with endTime := time, gpuStats := job.gpuStats.map (stopGpuStats gauges) }
    (.ok, { c with cacheJobs := c.cacheJobs.insert jobId job })

/-- The status of `rdc_job_get_stats`, which reads the job cache and writes only to the caller's
buffer. A GPU without a total-memory gauge stops the report. -/
def rdcJobGetStatsStatus (c : CacheManager) (jobId : JobId) (gauges : RdcGpuGauges) : Status :=
  match c.cacheJobs[jobId]? with
  | none => .notFound
  | some job =>
    if job.gpuStats.keys.all fun gpu => gauges.contains (gpu, rdcFiGpuMemoryTotal) then .ok
    else .badParameter

/-- The constructor. -/
def init : CacheManager := ⟨∅, ∅⟩

end CacheManager

end Rdc
