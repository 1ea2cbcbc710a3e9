import Rdc.Lib.Machine
import Mathlib.Logic.Function.Basic

/-!
# The threads of the embedded handler

`RdcMetricsUpdaterImpl` has two threads that call the watch table again and again, and
`rdc_field_update_all` of the handler makes a thread for an update that is not waited for. The
handler is made and deleted by one thread of the application, which also makes that call. There is
no lock: `started_` is an atomic, and every thread is behind a future that waits for it when it is
destroyed or assigned over.

The destructor clears `started_`, and then the members go in the reverse order of their
declarations: the future of the handler, then those of the updater, and last the watch table.
-/

namespace Rdc

/-- The threads, by their futures. -/
inductive UpdaterThread where
  /-- `notif_updater_` of the updater. -/
  | notif
  /-- `updater_` of the updater. -/
  | update
  /-- `updater_` of the handler. -/
  | async
  /-- What `std::async` has returned, before it is assigned to that one. -/
  | incoming
  deriving DecidableEq

/-- Where a thread is. -/
inductive ThreadPlace where
  /-- There is no thread behind the future. -/
  | none
  /-- At the condition of the loop. -/
  | testing
  /-- Before the call of the watch table. -/
  | entering
  | calling
  | sleeping
  | ended
  deriving DecidableEq

/-- A future does not wait for the thread. -/
def ThreadPlace.over : ThreadPlace → Bool
  | .none | .ended => true
  | .testing | .entering | .calling | .sleeping => false

/-- Where the thread is that has the handler. -/
inductive HandlerPlace where
  /-- `start`, at the `std::async` for a thread. -/
  | starting (thread : UpdaterThread)
  /-- Outside of these calls. -/
  | idle
  /-- The assignment in `rdc_field_update_all`, which waits for the thread assigned over. -/
  | assigning
  /-- The destructor, which waits for a thread. -/
  | joining (thread : UpdaterThread)
  /-- The destructor is past the watch table. -/
  | released
  deriving DecidableEq

/-- The destructor has called `stop`. -/
def HandlerPlace.stopping : HandlerPlace → Bool
  | .joining _ | .released => true
  | .starting _ | .idle | .assigning => false

/-- `RDC_OPERATION_MODE_AUTO` and `RDC_OPERATION_MODE_MANUAL`. -/
inductive RdcOperationMode where
  | auto
  | manual

/-- The handler with its threads. How many calls of the watch table each thread has begun is noted
on the side. -/
structure HandlerThreads where
  started : Bool
  thread : UpdaterThread → ThreadPlace
  handler : HandlerPlace
  calls : UpdaterThread → Nat

/-- One step. -/
inductive HandlerStep where
  | thread (thread : UpdaterThread)
  /-- The thread that has the handler goes on. -/
  | handler
  /-- It calls `rdc_field_update_all` and does not wait for the update. -/
  | updateAll
  /-- It deletes the handler. -/
  | destroy

namespace HandlerThreads

/-- The constructor, from where `start` has set `started_`, or has not been called. -/
def init : RdcOperationMode → HandlerThreads
  | .auto => ⟨true, fun _ => .none, .starting .notif, fun _ => 0⟩
  | .manual => ⟨false, fun _ => .none, .idle, fun _ => 0⟩

/-- A thread goes to a place. -/
def put (s : HandlerThreads) (t : UpdaterThread) (place : ThreadPlace) : HandlerThreads :=
  { s with thread := Function.update s.thread t place }

/-- Where a thread goes behind its call. An update that is not waited for is made once. -/
def afterCall : UpdaterThread → ThreadPlace
  | .notif | .update => .sleeping
  | .async | .incoming => .ended

/-- The next step of a thread. -/
def threadStep (s : HandlerThreads) (t : UpdaterThread) : HandlerThreads :=
  match s.thread t with
  | .testing => s.put t (if s.started then .entering else .ended)
  | .entering => { s.put t .calling with calls := Function.update s.calls t (s.calls t + 1) }
  | .calling => s.put t (afterCall t)
  | .sleeping => s.put t .testing
  | .none | .ended => s

/-- The member behind the future. -/
def afterJoin : UpdaterThread → HandlerPlace
  | .async => .joining .notif
  | .notif => .joining .update
  | .update | .incoming => .released

/-- The next step of the thread that has the handler. -/
def handlerStep (s : HandlerThreads) : HandlerThreads :=
  match s.handler with
  | .starting .notif => { s.put .notif .testing with handler := .starting .update }
  | .starting _ => { s.put .update .testing with handler := .idle }
  | .assigning =>
    if (s.thread .async).over then
      { (s.put .async (s.thread .incoming)).put .incoming .none with handler := .idle }
    else s
  | .joining t => if (s.thread t).over then { s with handler := afterJoin t } else s
  | .idle | .released => s

/-- Execute one step. -/
def exec (s : HandlerThreads) : HandlerStep → Unit × HandlerThreads
  | .thread t => ((), s.threadStep t)
  | .handler => ((), s.handlerStep)
  | .updateAll =>
    ((), if s.handler = .idle then { s.put .incoming .entering with handler := .assigning }
      else s)
  | .destroy =>
    ((), if s.handler = .idle then { s with started := false, handler := .joining .async } else s)

end HandlerThreads

end Rdc
