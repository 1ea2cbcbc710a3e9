import Rdc.MetricFetcher
import Rdc.Lib.Machine

/-!
# The worker behind the PCIe cache

The throughput of a PCIe link takes a second to measure, so `RdcMetricFetcherImpl` has a thread for
it: a request is answered from `async_metrics_` or left in `updated_tasks_`, and the worker takes a
task, looks at the cache again, calls `amdsmi_get_gpu_pci_throughput` without the lock, and stores
both directions.

One step is one section under `task_mutex_`, one call into the library, or the clock reading between
them, so the lock is free before and after every step, and any requests may come between two steps
of the worker. A step of the worker that is not its next one changes nothing. Resolving the handle
of the processor is not a step: its status is overwritten before anything looks at it.
-/

namespace Rdc

open Machine

/-- The two fields that are fetched in the background. -/
inductive PcieField where
  | tx
  | rx
  deriving DecidableEq

/-- `RDC_FI_PCIE_TX` and `RDC_FI_PCIE_RX`. -/
def PcieField.id : PcieField → Nat
  | .tx => rdcFiPcieTx
  | .rx => rdcFiPcieRx

/-- One call of `amdsmi_get_gpu_pci_throughput`, and when it was made. -/
structure ThroughputCall where
  gpu : Nat
  start : Nat
  finish : Nat
  ret : AmdsmiStatus
  sent : Nat
  received : Nat
  deriving DecidableEq

/-- What the call says about a direction. -/
def ThroughputCall.bytes (c : ThroughputCall) : PcieField → Nat
  | .tx => c.sent
  | .rx => c.received

/-- Where the worker is. -/
inductive PcieWorker where
  /-- At the condition variable. -/
  | waiting
  /-- A task is taken, the lock is released. -/
  | taken (key : RdcFieldKey)
  /-- The cache had no answer. -/
  | cleared (key : RdcFieldKey)
  /-- The library has answered. -/
  | called (call : ThroughputCall)
  /-- `curTime` is read. -/
  | stamped (call : ThroughputCall) (curTime : Nat)
  deriving DecidableEq

/-- A step of some thread. -/
inductive PcieStep where
  | request (gpu : Nat) (field : PcieField) (now : Nat)
  | take
  | check (now : Nat)
  | call (start finish : Nat) (ret : AmdsmiStatus) (sent received : Nat)
  | stamp (now : Nat)
  | store (uninit : MetricValue)
  deriving DecidableEq

/-- The fetcher and its worker. `calls` has the calls made so far, the latest first. -/
structure PcieCache where
  fetcher : MetricFetcher
  worker : PcieWorker
  calls : List ThroughputCall
  deriving DecidableEq

namespace PcieCache

/-- The constructor. -/
def init : PcieCache := ⟨MetricFetcher.init, .waiting, []⟩

/-- The worker takes a task. -/
def take (s : PcieCache) : PcieCache :=
  match s.worker, s.fetcher.updatedTasks with
  | .waiting, key :: tasks =>
    { s with fetcher := { s.fetcher with updatedTasks := tasks }, worker := .taken key }
  | _, _ => s

/-- The first section of `get_pcie_throughput`. -/
def check (s : PcieCache) (now : Nat) : PcieCache :=
  match s.worker with
  | .taken key =>
    { s with
      worker := if (s.fetcher.unexpired key now).isSome then .waiting else .cleared key }
  | _ => s

/-- The call into the library. -/
def call (s : PcieCache) (start finish : Nat) (ret : AmdsmiStatus) (sent received : Nat) :
    PcieCache :=
  match s.worker with
  | .cleared key =>
    let c : ThroughputCall := ⟨key.1, start, finish, ret, sent, received⟩
    { s with worker := .called c, calls := c :: s.calls }
  | _ => s

/-- The clock reading after the call. -/
def stamp (s : PcieCache) (now : Nat) : PcieCache :=
  match s.worker with
  | .called c => { s with worker := .stamped c now }
  | _ => s

/-- The last section of `get_pcie_throughput`. -/
def store (s : PcieCache) (uninit : MetricValue) : PcieCache :=
  match s.worker with
  | .stamped c curTime =>
    { s with
      fetcher := s.fetcher.storePcieThroughput c.gpu c.ret c.sent c.received curTime uninit
      worker := .waiting }
  | _ => s

/-- One step; only a request has an answer. -/
def exec (s : PcieCache) : PcieStep → Option MetricValue × PcieCache
  | .request gpu field now =>
    let r := s.fetcher.asyncGetPcieThroughput (gpu, field.id) now
    (r.1, { s with fetcher := r.2 })
  | .take => (none, s.take)
  | .check now => (none, s.check now)
  | .call start finish ret sent received => (none, s.call start finish ret sent received)
  | .stamp now => (none, s.stamp now)
  | .store uninit => (none, s.store uninit)

/-- The state after some steps. -/
def after (steps : List PcieStep) : PcieCache := run exec init steps

/-- The calls whose result is in the cache: all but the one the worker has in its hands. -/
def storedCalls (s : PcieCache) : List ThroughputCall :=
  match s.worker with
  | .called _ | .stamped _ _ => s.calls.tail
  | _ => s.calls

end PcieCache

/-- The latest call for a GPU that succeeded. -/
def latestSuccess (calls : List ThroughputCall) (gpu : Nat) : Option ThroughputCall :=
  calls.find? fun c => c.gpu = gpu ∧ c.ret = AmdsmiStatus.success

/-- The readings of a step lie between `lo` and `hi`, in their order. -/
def PcieStep.Between (lo hi : Nat) : PcieStep → Prop
  | .request _ _ now | .check now | .stamp now => lo ≤ now ∧ now ≤ hi
  | .call start finish _ _ _ => lo ≤ start ∧ start ≤ finish ∧ finish ≤ hi
  | .take | .store _ => lo ≤ hi

theorem PcieStep.Between.le {lo hi : Nat} {step : PcieStep} (h : step.Between lo hi) : lo ≤ hi := by
  cases step with
  | call start finish ret sent received => exact h.1.trans (h.2.1.trans h.2.2)
  | take => exact h
  | store uninit => exact h
  | _ => exact h.1.trans h.2

end Rdc
