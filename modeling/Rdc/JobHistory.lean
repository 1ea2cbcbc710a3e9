import Rdc.CacheManager
import Rdc.Lib.Machine

/-!
# The jobs and what was delivered to them

The statistics of a job are running figures: each sample is folded in and forgotten. What they stand
for can only be said next to the samples themselves, so this machine keeps them: it executes the
calls of the cache manager that change its jobs, and notes every sample that was delivered to a job
since the job was last started. The notes influence nothing.
-/

namespace Rdc

open Machine

/-- A call of the cache manager that changes its jobs. -/
inductive JobOp where
  | start (jobId : JobId) (ginfo : RdcGroupInfo) (finfo : RdcFieldGroupInfo)
      (gauges : RdcGpuGauges) (time : Nat)
  | sample (gpuIndex : Nat) (jobId : JobId) (value : RdcFieldValue)
  | stop (jobId : JobId) (gauges : RdcGpuGauges) (time : Nat)
  | remove (jobId : JobId)
  | removeAll

/-- The cache, and what was delivered to each job since its start. -/
structure JobHistory where
  cache : CacheManager
  delivered : JobId → List RdcGpuFieldValue

namespace JobHistory

/-- A new cache. -/
def init : JobHistory := ⟨CacheManager.init, fun _ => []⟩

/-- One call, and what it adds to the notes. -/
def exec (h : JobHistory) : JobOp → Status × JobHistory
  | .start jobId ginfo finfo gauges time =>
    let r := h.cache.rdcJobStartStats jobId ginfo finfo gauges time
    (r.1, ⟨r.2, Function.update h.delivered jobId []⟩)
  | .sample gpuIndex jobId value =>
    let r := h.cache.rdcUpdateJobStats gpuIndex jobId value
    (r.1, ⟨r.2, Function.update h.delivered jobId (h.delivered jobId ++ [⟨gpuIndex, value⟩])⟩)
  | .stop jobId gauges time =>
    let r := h.cache.rdcJobStopStats jobId gauges time
    (r.1, { h with cache := r.2 })
  | .remove jobId =>
    let r := h.cache.rdcJobRemove jobId
    (r.1, { h with cache := r.2 })
  | .removeAll =>
    let r := h.cache.rdcJobRemoveAll
    (r.1, { h with cache := r.2 })

/-- The history after a list of calls. -/
def after (ops : List JobOp) : JobHistory := run exec init ops

/-- What was delivered to a job for one GPU. -/
def gpuSamples (h : JobHistory) (jobId : JobId) (gpu : Nat) : List RdcFieldValue :=
  ((h.delivered jobId).filter fun v => v.gpuIndex = gpu).map (·.fieldValue)

/-- What was delivered to a job for one field of one GPU. -/
def samples (h : JobHistory) (jobId : JobId) (k : RdcFieldKey) : List RdcFieldValue :=
  (h.gpuSamples jobId k.1).filter fun v => v.fieldId = k.2

end JobHistory

end Rdc
