import Rdc.Profiler
import Rdc.SmiLib
import Rdc.Lib.Batch

/-!
# Values of the profiler

`librdc_rocp` as a telemetry module. A requested field is looked up by running its counter for a
while; the reading goes through the averaging buffer of the pair, and for some fields the average is
divided by the time this one run took. The values are collected in an array of sixteen and given to
a callback, as in `RdcSmiLib`.

What a run of a counter gives is an argument. The arrays the profiler is driven with are indexed by
the GPU of the request without a check, and the name of the metric is looked up without one; a
request outside of them makes the result `none`. One of the arrays, `contexts`, is a vector with
room for the agents and no elements; it is taken to have its place for each of them. A run of the
counter with a call that fails, which an assertion follows, or with a reading that is not a finite
number makes the result `none` as well. A `double` that goes into a value is its bits, and `toBits`
is how a finite number, or what is not one, is written down.

The last part connects the daemon to it, on the log of its calls.
-/

namespace Rdc

/-! ## One lookup -/

/-- `rocprofiler_data_t`: the kinds that are told apart. A floating-point result is `none` if it is
not a finite number. -/
inductive RocprofilerData where
  | int32 (result : Int)
  | int64 (result : Int)
  | float (result : Option ℚ)
  | double (result : Option ℚ)
  | other

/-- `read_feature`. -/
def readFeature : RocprofilerData → Option ℚ
  | .double result => result
  | .int32 result => some result
  | .int64 result => some result
  | .float result => result
  | .other => some 0

/-- One call of `run_profiler`: whether the calls of the library succeed, what is read at the end,
and the milliseconds between two readings of a clock that may be set. -/
structure CounterRun where
  succeeds : Bool
  data : RocprofilerData
  elapsed : Int

/-- The number `run_profiler` returns, if there is one. -/
def CounterRun.rawValue (run : CounterRun) : Option ℚ :=
  if run.succeeds then readFeature run.data else none

/-- `eval_fields`. -/
def evalFields : List Nat := [806, 807, 808, 809, 810]

/-- `RDC_FI_PROF_GPU_UTIL_PERCENT`. -/
def rdcFiProfGpuUtilPercent : Nat := 805

/-- What `rocp_lookup` does to an average. Divided by no time it is not a finite number. -/
def scaled (field : Nat) (elapsed : Int) (value : ℚ) : Option ℚ :=
  if evalFields.contains field then
    if elapsed = 0 then none else some (value / elapsed)
  else if field = rdcFiProfGpuUtilPercent then some (value / 100)
  else some value

/-- What `rocp_p` points to, with the number of agents. -/
structure RocpModule where
  base : RdcRocpBase
  agentCount : Nat

namespace RocpModule

/-- The constructor of `RdcRocpBase`, with `agent_arr.count`. -/
def create (a : RocpAnswers) : Option RocpModule :=
  (RdcRocpBase.create a).map fun base =>
    ⟨base, ((RdcRocpBase.getAgents a.agents).getD []).length⟩

/-- `rocp_lookup`: the value, and the object after it. It returns `RDC_ST_OK`, with a number or
without. -/
def rocpLookup (m : RocpModule) (counterRun : CounterRun) (gpuField : RdcFieldKey) :
    Option (Option ℚ × RocpModule) :=
  if gpuField.1 < m.agentCount ∧ gpuField.2 ∈ m.base.fieldToMetric then
    counterRun.rawValue.map fun rawValue =>
      let r := m.base.getAverage gpuField rawValue
      (r.1.bind (scaled gpuField.2 counterRun.elapsed), { m with base := r.2 })
  else none

end RocpModule

/-! ## The module -/

/-- `is_rocp_disabled`, by the value of `RDC_DISABLE_ROCP`. -/
def isRocpDisabled (value : Option String) : Bool :=
  match value with
  | none => false
  | some value => ["yes", "true", "1", "on", "y", "t"].contains value.toLower

/-- `rdc_module_init`: the status, and what `rocp_p` is afterwards. It throws if HSA cannot be
initialised. -/
def rdcModuleInit (value : Option String) (a : RocpAnswers) : Option (Status × Option RocpModule) :=
  if isRocpDisabled value then some (.disabledModule, none)
  else (RocpModule.create a).map fun m => (.ok, some m)

/-- What is answered during one call of `rdc_telemetry_fields_value_get`: the clock, the runs of the
counters by the place of the field in the request, the answers of the callback. -/
structure RocpValueGetAnswers where
  curTime : Nat
  runs : Nat → CounterRun
  callback : Nat → Status

/-- `RDC_ST_OK`, as the `int` of a field value. -/
def rdcStOk : Int := 0

namespace RocpTelemetry

section ValueGet

variable (toBits : Option ℚ → Nat) (a : RocpValueGetAnswers)

/-- One turn of the loop. Every member of the slot is written. -/
def fetchOne (field : RdcFieldKey × Nat) (m : RocpModule) :
    Option (RdcGpuFieldValue × RocpModule) :=
  (m.rocpLookup (a.runs field.2) field.1).map fun r =>
    (⟨field.1.1, ⟨field.1.2, rdcStOk, a.curTime, .double, .dbl (toBits r.1)⟩⟩, r.2)

/-- `rdc_telemetry_fields_value_get`: the status, the batches given to the callback, and `rocp_p`
afterwards. -/
def rdcTelemetryFieldsValueGet (rocp : Option RocpModule) (fields : List RdcFieldKey) :
    Option (Status × List (List RdcGpuFieldValue) × Option RocpModule) :=
  match rocp with
  | none => some (.failLoadModule, [], none)
  | some m =>
    (Batch.loop bulkFieldsMax (fetchOne toBits a) a.callback (· = .ok) fields.zipIdx
      ⟨m, [], []⟩).map fun r =>
        (r.1.getD .unknownError, r.2.handed, some r.2.state)

end ValueGet

/-- `rdc_telemetry_fields_unwatch`. -/
def rdcTelemetryFieldsUnwatch (rocp : Option RocpModule) (fields : List RdcFieldKey) :
    Option RocpModule :=
  rocp.map fun m => { m with base := m.base.rdcTelemetryFieldsUnwatch fields }

theorem failLoadModule_ne_ok : Status.failLoadModule ≠ .ok := by decide

/-- `rdc_telemetry_fields_query`. -/
def rdcTelemetryFieldsQuery (rocp : Option RocpModule) : Except Failure (List Nat) :=
  match rocp with
  | none => .error ⟨.failLoadModule, failLoadModule_ne_ok⟩
  | some m => .ok m.base.getFieldIds

end RocpTelemetry

/-! ## The profiler side of the daemon -/

/-- The dispatcher and `librdc_rocp`; `fetches` counts the fetches made so far. -/
structure ProfilerSide where
  dispatcher : RdcTelemetryModule TelemetryLib
  rocp : Option RocpModule
  fetches : Nat

/-- What is answered to the calls of the daemon: the clock and the runs of each fetch, which all
read a number. The callback of the daemon is `handle_fields`, which accepts every batch. -/
structure ProfilerAnswers where
  curTime : Nat → Nat
  runs : Nat → Nat → CounterRun
  reads : ∀ fetch i, (runs fetch i).rawValue ≠ none
  toBits : Option ℚ → Nat
  uninit : RdcFieldValue

namespace ProfilerSide

open RocpTelemetry

/-- What the modules answer to a query. -/
def query (rocp : Option RocpModule) : TelemetryLib → Except Failure (List Nat)
  | .smi => .ok smiFields
  | .rocp => rdcTelemetryFieldsQuery rocp

/-- The constructors. -/
def create (rocp : Option RocpModule) : Option ProfilerSide :=
  (RdcTelemetryModule.create (query rocp) [.smi, .rocp]).map fun dispatcher => ⟨dispatcher, rocp, 0⟩

/-- Carry out the part of `librdc_rocp`. -/
def handTo (f : Option RocpModule → List RdcFieldKey → Option (Option RocpModule))
    (handed : Handed TelemetryLib) (rocp : Option RocpModule) : Option (Option RocpModule) :=
  handed.toModules.foldl
    (fun rocp p => if p.1 = .rocp then rocp.bind (f · p.2) else rocp) (some rocp)

/-- One fetch of the module, of which only what it leaves behind matters here. -/
def fetch (a : ProfilerAnswers) (fetches : Nat) (rocp : Option RocpModule)
    (fields : List RdcFieldKey) : Option (Option RocpModule) :=
  (rdcTelemetryFieldsValueGet a.toBits ⟨a.curTime fetches, a.runs fetches, fun _ => .ok⟩ rocp
    fields).map fun r => r.2.2

/-- One call of the daemon. A watch is only logged by this module. -/
def onCall (a : ProfilerAnswers) (s : ProfilerSide) : ModuleCall → Option ProfilerSide
  | .setListenEvents _ | .stopListening _ => some s
  | .fieldsWatch fields =>
    some { s with dispatcher := (s.dispatcher.dispatch (.fieldsWatch fields a.uninit)).2 }
  | .fieldsUnwatch fields =>
    let r := s.dispatcher.dispatch (.fieldsUnwatch fields a.uninit)
    (r.1.bind fun handed =>
      handTo (fun rocp keys => some (rdcTelemetryFieldsUnwatch rocp keys)) handed s.rocp).map
        fun rocp => { s with dispatcher := r.2, rocp := rocp }
  | .fieldsValueGet fields =>
    let r := s.dispatcher.dispatch (.fieldsValueGet fields a.uninit)
    (r.1.bind fun handed => handTo (fetch a s.fetches) handed s.rocp).map
      fun rocp => ⟨r.2, rocp, s.fetches + 1⟩

/-- The profiler side after a log of calls. -/
def replay (a : ProfilerAnswers) (s : ProfilerSide) (calls : List ModuleCall) :
    Option ProfilerSide :=
  calls.foldlM (onCall a) s

end ProfilerSide

end Rdc
