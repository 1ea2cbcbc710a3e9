import Rdc.MetricFetcher
import Rdc.TelemetryModule
import Rdc.WatchTable

/-!
# The telemetry modules of the daemon

`RdcSmiLib` turns a list of fields into calls of the metric fetcher. Values are collected in an
array of sixteen and given to a callback whenever the array is full, and the array is then filled
again from the front. A value that is given to the callback is kept with the request it was fetched
for and how that fetch ended.

The last part connects the daemon to it: the calls the daemon makes to telemetry are dispatched to
the modules, and the part of `RdcSmiLib` is carried out. The daemon never hears back except through
the callback, so this side runs on the log of its calls.
-/

namespace Rdc

/-! ## Fetching -/

/-- `BULK_FIELDS_MAX`. -/
def bulkFieldsMax : Nat := 16

/-- `RdcSmiLib`, with the static variable of `bulk_fetch_smi_fields`. -/
structure SmiLib where
  metricFetcher : MetricFetcher
  bulkFetchEnabled : Bool
  bulkStatus : AmdsmiStatus

/-- What is answered during one call of `rdc_telemetry_fields_value_get`: the clock and the metrics
of the GPUs if it fetches in bulk, the readings of each field it fetches by itself, the answers of
the callback one after the other. `values` is what the local array holds at the beginning. -/
structure ValueGetAnswers where
  bulkNow : Nat
  metrics : Nat → AmdsmiStatus × AmdsmiGpuMetrics
  readings : Nat → SmiReadings
  callback : Nat → Status
  values : Vector RdcGpuFieldValue bulkFieldsMax

/-- A value given to the callback, the request it was fetched for, and what the fetch returned. -/
structure Delivery where
  request : RdcFieldKey
  fetched : Status
  value : RdcGpuFieldValue

/-- The working variables of the loop. `batch` are the requests whose values are in the array, so
its length is `bulk_count`; `delivered` are the batches given to the callback. -/
structure FetchLoop where
  metricFetcher : MetricFetcher
  values : Vector RdcGpuFieldValue bulkFieldsMax
  batch : List (RdcFieldKey × Status)
  delivered : List (List Delivery)

namespace FetchLoop

/-- The requests of the batch with the values in the array. -/
def deliveries (s : FetchLoop) : List Delivery :=
  (s.batch.zip s.values.toList).map fun p => ⟨p.1.1, p.1.2, p.2⟩

/-- Give the batch to the callback. -/
def flush (s : FetchLoop) : FetchLoop :=
  { s with batch := [], delivered := s.delivered ++ [s.deliveries] }

/-- Fetch one field into the next slot. What the fetch returns is ignored. -/
def fetchOne (a : SmiReadings) (s : FetchLoop) (key : RdcFieldKey) : FetchLoop :=
  if h : s.batch.length < bulkFieldsMax then
    let r := s.metricFetcher.fetchSmiField a key s.values[s.batch.length].fieldValue
    { s with
      metricFetcher := r.2.2
      values := s.values.set s.batch.length ⟨key.1, r.2.1⟩ h
      batch := s.batch ++ [(key, r.1)] }
  else s

/-- The loop over the fields that are left, of which the first is number `i`. A full array is given
to the callback before the next field is fetched, and an error of the callback ends the loop. -/
def loop (readings : Nat → SmiReadings) (callback : Nat → Status) :
    List RdcFieldKey → Nat → FetchLoop → Status × FetchLoop
  | [], _, s =>
    if s.batch = [] then (.ok, s) else (callback s.delivered.length, s.flush)
  | key :: keys, i, s =>
    if s.batch.length < bulkFieldsMax then
      loop readings callback keys (i + 1) (fetchOne (readings i) s key)
    else if callback s.delivered.length ≠ .ok then (callback s.delivered.length, s.flush)
    else loop readings callback keys (i + 1) (fetchOne (readings i) s.flush key)

end FetchLoop

/-- What one call of `rdc_telemetry_fields_value_get` gives to the callback: the values fetched in
bulk, if any, and the batches. -/
structure ValueGet where
  status : Status
  bulk : List RdcGpuFieldValue
  delivered : List (List Delivery)

namespace SmiLib

/-- The fields that were not fetched in bulk. -/
def leftFields (bulkResults : List RdcGpuFieldValue) (fields : List RdcFieldKey) :
    List RdcFieldKey :=
  fields.filter fun key =>
    !bulkResults.any fun v => v.gpuIndex = key.1 ∧ v.fieldValue.fieldId = key.2

/-- The bulk fetch at the beginning of a call, if it is enabled. -/
def bulkFetch (lib : SmiLib) (a : ValueGetAnswers) (fields : List RdcFieldKey) :
    AmdsmiStatus × List RdcGpuFieldValue :=
  if lib.bulkFetchEnabled then
    MetricFetcher.bulkFetchSmiFields lib.bulkStatus a.bulkNow a.metrics fields
  else (lib.bulkStatus, [])

/-- `rdc_telemetry_fields_value_get`. -/
def rdcTelemetryFieldsValueGet (lib : SmiLib) (a : ValueGetAnswers) (fields : List RdcFieldKey) :
    ValueGet × SmiLib :=
  let (bulkStatus, bulk) := lib.bulkFetch a fields
  let lib := { lib with bulkStatus := bulkStatus }
  -- the bulk results are the first call of the callback, if there are any
  let calls := if bulk = [] then 0 else 1
  if bulk ≠ [] ∧ a.callback 0 ≠ .ok then (⟨a.callback 0, bulk, []⟩, lib)
  else
    let r := FetchLoop.loop a.readings (fun n => a.callback (calls + n)) (leftFields bulk fields) 0
      ⟨lib.metricFetcher, a.values, [], []⟩
    (⟨r.1, bulk, r.2.delivered⟩, { lib with metricFetcher := r.2.metricFetcher })

/-! ## Watching -/

/-- `rdc_telemetry_fields_watch`. Errors are only logged. -/
def rdcTelemetryFieldsWatch (answers : RdcFieldKey → CounterAnswers) (lib : SmiLib)
    (fields : List RdcFieldKey) : SmiLib :=
  { lib with metricFetcher :=
      fields.foldl (fun m key => (m.acquireSmiHandle (answers key) key).2) lib.metricFetcher }

/-- `rdc_telemetry_fields_unwatch`. -/
def rdcTelemetryFieldsUnwatch (answers : RdcFieldKey → CounterAnswers) (lib : SmiLib)
    (fields : List RdcFieldKey) : SmiLib :=
  { lib with metricFetcher :=
      fields.foldl (fun m key => (m.deleteSmiHandle (answers key) key).2) lib.metricFetcher }

end SmiLib

/-! ## The telemetry side of the daemon -/

/-- The telemetry modules: `RdcSmiLib`, and `RdcRocpLib` behind it in the list. -/
inductive TelemetryLib where
  | smi
  | rocp
  deriving DecidableEq

/-- The order of the two pointers. -/
def TelemetryLib.address : TelemetryLib → Nat
  | .smi => 0
  | .rocp => 1

instance : Ord TelemetryLib := ⟨compareOn TelemetryLib.address⟩

instance : Std.TransOrd TelemetryLib :=
  inferInstanceAs (Std.TransCmp (compareOn TelemetryLib.address))

instance : Std.LawfulEqOrd TelemetryLib where
  compare_self {p} := by cases p <;> rfl
  eq_of_compare {p q} h := by
    have haddress : p.address = q.address := Nat.compare_eq_eq.mp h
    cases p <;> cases q <;> simp_all [TelemetryLib.address]

/-- The part of the profiler's table that the hardware has, or nothing if the module cannot be
loaded. -/
def profilerFields (available : Option (Nat → Bool)) : List Nat :=
  match available with
  | none => []
  | some has => rocpFields.filter has

theorem profilerFields_subset (available : Option (Nat → Bool)) :
    ∀ field ∈ profilerFields available, field ∈ rocpFields := by
  intro field h
  cases available with
  | none => exact absurd h (by simp [profilerFields])
  | some has => exact List.mem_of_mem_filter h

/-- What the two modules answer to a query. -/
def moduleFields (available : Option (Nat → Bool)) : TelemetryLib → Except Failure (List Nat)
  | .smi => .ok smiFields
  | .rocp =>
    match available with
    | none => .error ⟨.failLoadModule, by simp⟩
    | some _ => .ok (profilerFields available)

/-- The dispatcher and `RdcSmiLib`; `fetches` counts the fetches made so far. -/
structure TelemetrySide where
  dispatcher : RdcTelemetryModule TelemetryLib
  smiLib : SmiLib
  fetches : Nat

/-- What is answered to the calls of the daemon. -/
structure TelemetryAnswers where
  counter : RdcFieldKey → CounterAnswers
  valueGet : Nat → ValueGetAnswers
  uninit : RdcFieldValue

namespace TelemetrySide

/-- The constructors. -/
def create (available : Option (Nat → Bool)) (bulkFetchEnabled : Bool) : Option TelemetrySide :=
  (RdcTelemetryModule.create (moduleFields available) [.smi, .rocp]).map fun dispatcher =>
    ⟨dispatcher, ⟨MetricFetcher.init, bulkFetchEnabled, AmdsmiStatus.success⟩, 0⟩

/-- Carry out the part of `RdcSmiLib`; the profiler has no part in what is modelled here. -/
def handTo (f : SmiLib → List RdcFieldKey → SmiLib) (handed : Option (Handed TelemetryLib))
    (lib : SmiLib) : SmiLib :=
  match handed with
  | none => lib
  | some handed => handed.toModules.foldl
      (fun lib p => if p.1 = .smi then f lib p.2 else lib) lib

/-- One call of the daemon; calls to the notification module are not for this side. -/
def onCall (a : TelemetryAnswers) (s : TelemetrySide) : ModuleCall → TelemetrySide
  | .setListenEvents _ | .stopListening _ => s
  | .fieldsWatch fields =>
    let r := s.dispatcher.dispatch (.fieldsWatch fields a.uninit)
    { s with
      dispatcher := r.2
      smiLib := handTo (SmiLib.rdcTelemetryFieldsWatch a.counter) r.1 s.smiLib }
  | .fieldsUnwatch fields =>
    let r := s.dispatcher.dispatch (.fieldsUnwatch fields a.uninit)
    { s with
      dispatcher := r.2
      smiLib := handTo (SmiLib.rdcTelemetryFieldsUnwatch a.counter) r.1 s.smiLib }
  | .fieldsValueGet fields =>
    let r := s.dispatcher.dispatch (.fieldsValueGet fields a.uninit)
    { s with
      dispatcher := r.2
      smiLib := handTo
        (fun lib keys => (lib.rdcTelemetryFieldsValueGet (a.valueGet s.fetches) keys).2) r.1
        s.smiLib
      fetches := s.fetches + 1 }

/-- The telemetry side after a log of calls. -/
def replay (a : TelemetryAnswers) (s : TelemetrySide) (calls : List ModuleCall) : TelemetrySide :=
  calls.foldl (onCall a) s

end TelemetrySide

end Rdc
