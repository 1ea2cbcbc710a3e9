import Rdc.RocpTelemetry
import Rdc.Notification
import Rdc.Environment
import Rdc.Lib.Partial

/-!
# The daemon with its modules

The operations of the daemon take what the modules bring as arguments. Here the modules are in the
picture: an update dispatches its fields, `RdcSmiLib` and `librdc_rocp` fetch their parts, and what
they give to the callback is what is delivered; the notification module turns reports of the driver
into events; the other calls of the daemon are passed on to the modules as they are logged. Outside
are the clients, the clock, and the answers of the libraries behind the modules.

The callback is `handle_fields`, which takes every batch. The worker of the PCIe cache may take a
task and may store a result between any two calls. A request outside of the arrays of the dispatcher
or of the profiler makes the result `none`, and so does a clean-up that erases samples beyond the
end of their list.
-/

namespace Rdc

/-- What is answered while one update fetches. `handled` are the clock readings of `handle_fields`,
one for each value. -/
structure FetchAnswers where
  smi : ValueGetAnswers
  rocp : RocpValueGetAnswers
  toBits : Option ℚ → Nat
  uninit : RdcFieldValue
  handled : Nat → Nat

/-- A call that does not bring values in. -/
def Op.isClient : Op → Bool
  | .fieldUpdateAll _ _ _ | .notifUpdateCache _ => false
  | _ => true

/-- A call of a client. -/
structure ClientCall where
  op : Op
  isClient : op.isClient = true

/-- One step. -/
inductive NodeOp where
  | client (call : ClientCall) (counter : RdcFieldKey → CounterAnswers) (uninit : RdcFieldValue)
  | update (now : Nat) (answers : FetchAnswers) (clock : Daemon.CleanUpClock)
  | listen (answer : Except Status (List SmiNotification)) (now : Nat)
  | pcieTake
  | pcieStore (gpu : Nat) (ret : AmdsmiStatus) (sent received curTime : Nat) (uninit : MetricValue)

/-- The clock readings of a step lie between `lo` and `hi`, in the order the step makes them. The
modules read the clock during a fetch, and the callback does for each value. -/
def NodeOp.Between (lo hi : Nat) : NodeOp → Prop
  | .client call _ _ => call.op.Between lo hi
  | .update now a clock =>
    lo ≤ now ∧ now ≤ clock.now
      ∧ (now ≤ a.smi.bulkNow ∧ (∀ i, now ≤ (a.smi.readings i).now) ∧ now ≤ a.rocp.curTime)
      ∧ (∀ i, now ≤ a.handled i ∧ a.handled i ≤ clock.now)
      ∧ clock.now ≤ hi ∧ ∀ k, clock.now ≤ clock.evict k ∧ clock.evict k ≤ hi
  | .listen _ now => lo ≤ now ∧ now ≤ hi
  | .pcieTake | .pcieStore .. => lo ≤ hi

theorem NodeOp.Between.le {lo hi : Nat} {op : NodeOp} (h : op.Between lo hi) : lo ≤ hi := by
  cases op with
  | client call counter uninit => exact Op.Between.le h
  | update now a clock =>
    obtain ⟨hlo, hnow, -, -, hhi, -⟩ := h
    exact le_trans hlo (le_trans hnow hhi)
  | listen answer now => exact le_trans h.1 h.2
  | pcieTake => exact h
  | pcieStore gpu ret sent received curTime uninit => exact h

/-- The daemon and the telemetry modules it owns. -/
structure Node where
  daemon : Daemon
  dispatcher : RdcTelemetryModule TelemetryLib
  smiLib : SmiLib
  rocp : Option RocpModule

namespace Node

/-- The constructors, with what became of the profiler module. -/
def create (rocp : Option RocpModule) (bulkFetchEnabled : Bool) : Option Node :=
  (RdcTelemetryModule.create (ProfilerSide.query rocp) [.smi, .rocp]).map fun dispatcher =>
    ⟨Daemon.init, dispatcher, ⟨MetricFetcher.init, bulkFetchEnabled, AmdsmiStatus.success⟩, rocp⟩

/-! ## A fetch -/

/-- What has been given to the callback, and the modules. -/
structure Fetching where
  values : List RdcGpuFieldValue
  smiLib : SmiLib
  rocp : Option RocpModule

section Fetch

variable (a : FetchAnswers)

/-- The callback takes everything. -/
def smiAnswers : ValueGetAnswers := { a.smi with callback := fun _ => .ok }

@[inherit_doc smiAnswers]
def rocpAnswers : RocpValueGetAnswers := { a.rocp with callback := fun _ => .ok }

/-- One turn of the loop over the modules of a request. -/
def fetchPart (s : Fetching) (part : TelemetryLib × List RdcFieldKey) : Option Fetching :=
  match part.1 with
  | .smi =>
    let r := s.smiLib.rdcTelemetryFieldsValueGet (smiAnswers a) part.2
    some { s with
      values := s.values ++ (r.1.bulk ++ r.1.delivered.flatten.map Delivery.value)
      smiLib := r.2 }
  | .rocp =>
    (RocpTelemetry.rdcTelemetryFieldsValueGet a.toBits (rocpAnswers a) s.rocp part.2).map fun r =>
      { s with values := s.values ++ r.2.1.flatten, rocp := r.2.2 }

/-- `rdc_telemetry_fields_value_get` of the dispatcher: what it gives to the callback. The
unsupported fields come last. -/
def rdcTelemetryFieldsValueGet (n : Node) (fields : List RdcFieldKey) :
    Option (List RdcGpuFieldValue × Node) :=
  let r := n.dispatcher.dispatch (.fieldsValueGet fields a.uninit)
  r.1.bind fun handed =>
    (handed.toModules.foldlM (fetchPart a) ⟨[], n.smiLib, n.rocp⟩).map fun s =>
      (s.values ++ handed.unsupportFields,
        { n with dispatcher := r.2, smiLib := s.smiLib, rocp := s.rocp })

end Fetch

/-! ## Steps -/

/-- The other calls of the daemon to telemetry. -/
def onCall (counter : RdcFieldKey → CounterAnswers) (uninit : RdcFieldValue) (n : Node) :
    ModuleCall → Node
  | .setListenEvents _ | .stopListening _ | .fieldsValueGet _ => n
  | .fieldsWatch fields =>
    let r := n.dispatcher.dispatch (.fieldsWatch fields uninit)
    { n with
      dispatcher := r.2
      smiLib := TelemetrySide.handTo (SmiLib.rdcTelemetryFieldsWatch counter) r.1 n.smiLib }
  | .fieldsUnwatch fields =>
    let r := n.dispatcher.dispatch (.fieldsUnwatch fields uninit)
    { n with
      dispatcher := r.2
      smiLib := TelemetrySide.handTo (SmiLib.rdcTelemetryFieldsUnwatch counter) r.1 n.smiLib
      rocp := (r.1.elim [] Handed.toModules).foldl
        (fun rocp part => if part.1 = .rocp then
          RocpTelemetry.rdcTelemetryFieldsUnwatch rocp part.2 else rocp) n.rocp }

/-- The fetcher of `RdcSmiLib`, changed by its worker. -/
def onFetcher (n : Node) (f : MetricFetcher → MetricFetcher) : Node :=
  { n with smiLib := { n.smiLib with metricFetcher := f n.smiLib.metricFetcher } }

/-- The values in the order they are handled, each with the clock reading taken for it. -/
def handledAt (handled : Nat → Nat) (values : List RdcGpuFieldValue) :
    List (Nat × RdcGpuFieldValue) :=
  values.zipIdx.map fun p => (handled p.2, p.1)

/-- The evictions of `clean_up`, one after the other. -/
def evictAll (clock : Daemon.CleanUpClock) (records : List (RdcFieldKey × FieldSettings))
    (c : CacheManager) : Option CacheManager :=
  records.foldlM
    (fun c f => (c.evictCache f.1.1 f.1.2 f.2.maxKeepSamples f.2.maxKeepAge (clock.evict f.1)).map
      Prod.snd) c

/-- `clean_up`, if its evictions have a result. -/
def cleanUp (d : Daemon) (clock : Daemon.CleanUpClock) : Option Daemon :=
  (evictAll clock d.fieldsToWatch.toList d.cacheMgr).map fun c =>
    { d.cleanUp clock with cacheMgr := c }

/-- `rdc_field_update_all`, if its clean-up has a result. -/
def rdcFieldUpdateAll (d : Daemon) (now : Nat) (delivered : List (Nat × RdcGpuFieldValue))
    (clock : Daemon.CleanUpClock) : Option Daemon :=
  let d := d.fetched now delivered
  if u64Sub now d.lastCleanupTime > 1000 then
    (cleanUp d clock).map fun d => { d with lastCleanupTime := now }
  else some d

/-- Execute one step. -/
def exec (tel : Telemetry) (top : Topology) (n : Node) : NodeOp → Option Node
  | .client call counter uninit =>
    let d := (n.daemon.exec tel call.op).2
    some ((d.moduleCalls.drop n.daemon.moduleCalls.length).foldl (onCall counter uninit)
      { n with daemon := d })
  | .update now a clock =>
    if n.daemon.fieldsToFetch now = [] then
      (rdcFieldUpdateAll n.daemon now [] clock).map fun d => { n with daemon := d }
    else
      (n.rdcTelemetryFieldsValueGet a (n.daemon.fieldsToFetch now)).bind fun r =>
        (rdcFieldUpdateAll n.daemon now (handledAt a.handled r.1) clock).map fun d =>
          { r.2 with daemon := d }
  | .listen answer now => some { n with daemon := (n.daemon.rdcFieldListenNotif top answer now).2 }
  | .pcieTake => some (n.onFetcher fun m => { m with updatedTasks := m.updatedTasks.tail })
  | .pcieStore gpu ret sent received curTime uninit =>
    some (n.onFetcher fun m => m.storePcieThroughput gpu ret sent received curTime uninit)

end Node

end Rdc
