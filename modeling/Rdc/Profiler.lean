import Rdc.Telemetry
import Rdc.Lib.RingBuffer
import Mathlib.Algebra.Order.Ring.Rat

/-!
# The profiler module

`RdcRocpBase`, behind `librdc_rocp`. Its constructor asks the profiler which of eleven metrics the
GPUs have and makes a table with an averaging buffer for each GPU and field; afterwards every raw
value goes through its buffer, and a field that is no longer watched has its buffer reset.

What HSA and the profiler answer is an argument. Running a counter, the queues and the features that
are set up for it are left out, and `double` is taken as the rational numbers, so that the raw
values are numbers as well.
-/

namespace Rdc

/-- `buffer_length_k`. -/
def bufferLengthK : Nat := 5

/-- `rdc_average_t`. -/
abbrev RdcAverage := RingBuffer ℚ bufferLengthK

/-- A buffer without values. -/
def emptyAverage : RdcAverage := RingBuffer.empty (by decide)

/-- `temp_field_map_k`: the fields and the metrics they are read from. -/
def tempFieldMapK : List (Nat × String) :=
  [(800, "OccupancyPercent"), (801, "GRBM_GUI_ACTIVE"), (802, "SQ_WAVES"), (803, "GRBM_COUNT"),
    (804, "MfmaUtil"), (805, "GPU_UTIL"), (806, "FETCH_SIZE"), (807, "WRITE_SIZE"),
    (808, "TOTAL_16_OPS"), (809, "TOTAL_32_OPS"), (810, "FP64_ACTIVE")]

/-- An HSA agent: its `HSA_AGENT_INFO_DEVICE` and its `HSA_AMD_AGENT_INFO_DRIVER_NODE_ID`. `none` is
a call that fails. -/
structure HsaAgent where
  device : Option HsaDeviceType
  driverNodeId : Option Nat
  deriving DecidableEq

/-- `rocprofiler_info_data_t`: the members that are read. -/
structure RocprofilerInfo where
  agentIndex : Nat
  metricName : String
  deriving DecidableEq

/-- What is answered while the object is made: whether `hsa_init` succeeds, the agents in the order
of `hsa_iterate_agents`, and what `rocprofiler_iterate_info` goes through. -/
structure RocpAnswers where
  hsaInit : Bool
  agents : List HsaAgent
  infos : List RocprofilerInfo

/-- `RdcRocpBase`: the members that are modelled. -/
structure RdcRocpBase where
  fieldToMetric : IdMap String
  average : KeyMap RdcAverage

namespace RdcRocpBase

/-! ## The constructor -/

/-- `get_agents`: the GPUs among the agents. A type that cannot be read ends the iteration with an
error, and then there are none. -/
def getAgents : List HsaAgent → Option (List HsaAgent)
  | [] => some []
  | agent :: rest =>
    match agent.device with
    | none => none
    | some device =>
      (getAgents rest).map fun gpus => if device = .gpu then agent :: gpus else gpus

/-- `check_metrics_supported`. What is found is appended to `metricsGood`. -/
def checkMetricsSupported (infos : List RocprofilerInfo) (nodeId : Nat) (metricsAll : List String)
    (metricsGood : List String) : List String :=
  infos.foldl
    (fun good info =>
      if info.agentIndex = nodeId then
        if metricsAll.contains info.metricName then good ++ [info.metricName] else good
      else good)
    metricsGood

/-- The loop over the fields, for one GPU. -/
def insertFields (gpuIndex : Nat) (checkedFields : List String) (b : RdcRocpBase) : RdcRocpBase :=
  tempFieldMapK.foldl
    (fun b p =>
      if checkedFields.contains p.2 then
        ⟨b.fieldToMetric.insertIfNew p.1 p.2,
          b.average.insertIfNew (gpuIndex, p.1) emptyAverage⟩
      else b)
    b

/-- The working variables of the loop over the GPUs. -/
structure AgentLoop where
  driverNodeId : Nat
  checkedFields : List String
  base : RdcRocpBase

/-- One turn of the loop over the GPUs. `checked_fields` is declared before the loop, so it still
has what earlier GPUs support, and a node id that cannot be read is that of the GPU before. -/
def agentTurn (infos : List RocprofilerInfo) (s : AgentLoop) (p : HsaAgent × Nat) : AgentLoop :=
  let driverNodeId := p.1.driverNodeId.getD s.driverNodeId
  let checkedFields :=
    checkMetricsSupported infos driverNodeId (tempFieldMapK.map Prod.snd) s.checkedFields
  ⟨driverNodeId, checkedFields, insertFields p.2 checkedFields s.base⟩

/-- The constructor. It throws if HSA cannot be initialised. -/
def create (a : RocpAnswers) : Option RdcRocpBase :=
  if a.hsaInit then
    match getAgents a.agents with
    | none => some ⟨∅, ∅⟩
    | some gpus => some (gpus.zipIdx.foldl (agentTurn a.infos) ⟨0, [], ⟨∅, ∅⟩⟩).base
  else none

/-- `get_field_ids`. -/
def getFieldIds (b : RdcRocpBase) : List Nat := b.fieldToMetric.keys

/-! ## Averages -/

/-- `get_average`. Without a buffer the answer is not a number. -/
def getAverage (b : RdcRocpBase) (fieldPair : RdcFieldKey) (rawValue : ℚ) :
    Option ℚ × RdcRocpBase :=
  match b.average[fieldPair]? with
  | none => (none, b)
  | some avg =>
    let avg := avg.push rawValue
    (some (avg.buffer.sum / avg.buffer.length),
      { b with average := b.average.insert fieldPair avg })

/-- `reset_average`. -/
def resetAverage (b : RdcRocpBase) (pair : RdcFieldKey) : RdcRocpBase :=
  match b.average[pair]? with
  | none => b
  | some _ => { b with average := b.average.insert pair emptyAverage }

/-- `rdc_telemetry_fields_unwatch` of `librdc_rocp`. -/
def rdcTelemetryFieldsUnwatch (b : RdcRocpBase) (fields : List RdcFieldKey) : RdcRocpBase :=
  fields.foldl resetAverage b

end RdcRocpBase

/-- What is done to the table. -/
inductive AverageOp where
  | getAverage (fieldPair : RdcFieldKey) (rawValue : ℚ)
  | resetAverage (pair : RdcFieldKey)

/-- One call: the average, if it gives one, and the object after it. -/
def RdcRocpBase.exec (b : RdcRocpBase) : AverageOp → Option ℚ × RdcRocpBase
  | .getAverage fieldPair rawValue => b.getAverage fieldPair rawValue
  | .resetAverage pair => (none, b.resetAverage pair)

/-- The raw values given for a pair since its last reset. -/
def rawValues (pair : RdcFieldKey) (ops : List AverageOp) : List ℚ :=
  ops.foldl
    (fun values op =>
      match op with
      | .getAverage p rawValue => if p = pair then values ++ [rawValue] else values
      | .resetAverage p => if p = pair then [] else values)
    []

end Rdc
