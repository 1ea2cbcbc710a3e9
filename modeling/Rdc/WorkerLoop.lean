import Rdc.PcieCache

/-!
# The thread of the fetcher and its condition variable

`PcieCache` begins when the worker is let through and has a task in its hands. Here is the loop
around it: the test of `task_started_`, the lock, `cv_.wait` with its predicate, and the way back;
the callers of `async_get_pcie_throughput`, who push a task under the lock and notify after it; and
the destructor, which clears `task_started_` and notifies without the lock. `cv_` is a later member
than `updater_`, so it is destroyed before the future of the thread, and only the future waits.

`wait` evaluates the predicate with the lock held and then, in one step, releases the lock and
blocks. A notification that comes between the two finds nobody. A section of another thread under
`task_mutex_` is one step and waits while the worker has the lock, which here means that nothing
happens.
-/

namespace Rdc

open Machine

/-- Where the thread is. -/
inductive LoopPc where
  /-- At `while (task_started_)`. -/
  | head
  /-- About to construct `lk`. -/
  | locking
  /-- Inside `wait`, with the lock: the predicate is next. -/
  | testing
  /-- Inside `wait`, with the lock: the predicate was false. -/
  | blocking
  /-- Blocked, without the lock. -/
  | blocked
  /-- Notified, about to take the lock again. -/
  | woken
  /-- Behind `wait`, with the lock. -/
  | front
  /-- Running `item.task`. -/
  | task
  | exited
  deriving DecidableEq

/-- How far the destructor is. -/
inductive Destructor where
  | notStarted
  /-- `task_started_` is false. -/
  | flagged
  /-- `notify_all` has returned. -/
  | notified
  /-- `cv_` is gone; the destructor of `updater_` waits for the thread. -/
  | joining
  | gone
  deriving DecidableEq

/-- The fetcher, its thread, the callers that have pushed a task and not yet notified, and the
destructor. -/
structure WorkerLoop where
  cache : PcieCache
  pc : LoopPc
  taskStarted : Bool
  notifying : Nat
  destructor : Destructor
  deriving DecidableEq

/-- What the clock and the library answer at the next step of the worker. -/
structure WorkerInput where
  now : Nat
  finish : Nat
  ret : AmdsmiStatus
  sent : Nat
  received : Nat
  uninit : MetricValue
  deriving DecidableEq

/-- A step of some thread. -/
inductive LoopStep where
  | request (gpu : Nat) (field : PcieField) (now : Nat)
  | notify
  | worker (input : WorkerInput)
  /-- A wake-up without a notification, which `wait` allows. -/
  | spurious
  | destruct
  deriving DecidableEq

/-- The step is one of the worker. -/
def LoopStep.isWorker : LoopStep → Bool
  | .worker _ => true
  | _ => false

/-- The next step of the worker on the cache. -/
def PcieWorker.next (input : WorkerInput) : PcieWorker → PcieStep
  | .waiting => .take
  | .taken _ => .check input.now
  | .cleared _ => .call input.now input.finish input.ret input.sent input.received
  | .called _ => .stamp input.now
  | .stamped _ _ => .store input.uninit

/-- The worker has `task_mutex_`. -/
def LoopPc.holdsLock : LoopPc → Bool
  | .testing | .blocking | .front => true
  | _ => false

/-- What `notify_all` does to the worker. -/
def LoopPc.notified : LoopPc → LoopPc
  | .blocked => .woken
  | pc => pc

namespace WorkerLoop

/-- After the constructor. -/
def init : WorkerLoop := ⟨PcieCache.init, .head, true, 0, .notStarted⟩

/-- The tasks in `updated_tasks_`. -/
def tasks (s : WorkerLoop) : List RdcFieldKey := s.cache.fetcher.updatedTasks

/-- The section of `async_get_pcie_throughput` under the lock. Only a caller that has pushed a task
goes on to `notify_all`. No call is in progress once the destructor runs. -/
def request (s : WorkerLoop) (gpu : Nat) (field : PcieField) (now : Nat) : WorkerLoop :=
  if s.pc.holdsLock || s.destructor ≠ .notStarted then s
  else
    let r := s.cache.exec (.request gpu field now)
    { s with
      cache := r.2
      notifying := if r.1.isSome then s.notifying else s.notifying + 1 }

/-- A caller notifies. -/
def notify (s : WorkerLoop) : WorkerLoop :=
  match s.notifying with
  | 0 => s
  | n + 1 => { s with notifying := n, pc := s.pc.notified }

/-- One step of the thread. -/
def worker (s : WorkerLoop) (input : WorkerInput) : WorkerLoop :=
  match s.pc with
  | .head => { s with pc := if s.taskStarted then .locking else .exited }
  | .locking => { s with pc := .testing }
  | .testing => { s with pc := if s.tasks ≠ [] || !s.taskStarted then .front else .blocking }
  | .blocking => { s with pc := .blocked }
  | .blocked => s
  | .woken => { s with pc := .testing }
  | .front =>
    if s.tasks = [] then { s with pc := .head }
    else { s with cache := s.cache.take, pc := .task }
  | .task =>
    let cache := (s.cache.exec (s.cache.worker.next input)).2
    { s with cache := cache, pc := if cache.worker = .waiting then .head else .task }
  | .exited => s

/-- The next step of `~RdcMetricFetcherImpl`. It starts when no call is in progress. -/
def destruct (s : WorkerLoop) : WorkerLoop :=
  match s.destructor with
  | .notStarted =>
    if s.notifying = 0 then { s with taskStarted := false, destructor := .flagged } else s
  | .flagged => { s with pc := s.pc.notified, destructor := .notified }
  | .notified => { s with destructor := .joining }
  | .joining => if s.pc = .exited then { s with destructor := .gone } else s
  | .gone => s

/-- One step of some thread. -/
def exec (s : WorkerLoop) : LoopStep → Unit × WorkerLoop
  | .request gpu field now => ((), s.request gpu field now)
  | .notify => ((), s.notify)
  | .worker input => ((), s.worker input)
  | .spurious => ((), { s with pc := s.pc.notified })
  | .destruct => ((), s.destruct)

/-- A state that some interleaving leads to. -/
def Reachable (s : WorkerLoop) : Prop := ∃ steps, run exec init steps = s

end WorkerLoop

/-- The readings of a step lie between `lo` and `hi`, in their order. -/
def LoopStep.Between (lo hi : Nat) : LoopStep → Prop
  | .request _ _ now => lo ≤ now ∧ now ≤ hi
  | .worker input => lo ≤ input.now ∧ input.now ≤ input.finish ∧ input.finish ≤ hi
  | .notify | .spurious | .destruct => lo ≤ hi

end Rdc
