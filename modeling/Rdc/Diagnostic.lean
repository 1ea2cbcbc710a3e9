import Rdc.MetricFetcher

/-!
# Diagnostics

`RdcDiagnosticModule`: a list of modules, each of which says which test cases it can run, and a map
from test cases to modules that is filled when the object is made. `rdc_diagnostic_run` runs the
test cases of a level one after the other, each into its own slot of the caller's response; the
status of a test case is not looked at.

The modules are `RdcSmiLib`, which reads the hardware, and two libraries behind a loader:
`librdc_rocr`, which runs kernels, and `librdc_rvs`. The module manager registers the first two.

The response comes in with whatever the caller left in it, and every function has the result it
writes to as an argument. What the hardware library, the kernels and `run_rvs_app` answer is an
argument as well. A processor handle is known by the GPU index it was looked up with. An access
behind the array of per-GPU results has no defined result; such a call is `none`.
-/

namespace Rdc

/-! ## Results -/

/-- `RDC_MAX_NUM_DEVICES`. -/
def rdcMaxNumDevices : Nat := 128

/-- `MAX_DIAG_MSG_LENGTH`. -/
def maxDiagMsgLength : Nat := 4096

/-- `rdc_diag_result_t`, from good to bad. -/
inductive RdcDiagResult where
  | pass
  | skip
  | warn
  | fail
  deriving DecidableEq

/-- `rdc_diag_test_cases_t`. -/
inductive RdcDiagTestCase where
  | computeProcess
  | computeQueue
  | sysMemCheck
  | nodeTopology
  | rvsTest
  | gpuParameters
  deriving DecidableEq

/-- `MAX_TEST_CASES`. -/
def maxTestCases : Nat := 6

/-- `rdc_diag_detail_t`. -/
structure RdcDiagDetail where
  msg : List UInt8
  code : Nat
  deriving DecidableEq

/-- `rdc_diag_per_gpu_result_t`. -/
structure RdcDiagPerGpuResult where
  gpuIndex : Nat
  gpuResult : RdcDiagDetail
  deriving DecidableEq

/-- `rdc_diag_test_result_t`. -/
structure RdcDiagTestResult where
  status : RdcDiagResult
  details : RdcDiagDetail
  testCase : RdcDiagTestCase
  perGpuResultCount : Nat
  gpuResults : Vector RdcDiagPerGpuResult rdcMaxNumDevices
  info : List UInt8
  deriving DecidableEq

/-- `rdc_diag_response_t`. -/
structure RdcDiagResponse where
  resultsCount : Nat
  diagInfo : Vector RdcDiagTestResult maxTestCases
  deriving DecidableEq

/-- `strncpy_with_null` into one of the message buffers. -/
def diagMsg (msg : List UInt8) : List UInt8 := strncpyWithNull msg maxDiagMsgLength

/-- The number of an enumerator; results are compared by it. -/
def RdcDiagResult.num : RdcDiagResult → Nat
  | pass => 0
  | skip => 1
  | warn => 2
  | fail => 3

/-- The number of an enumerator, which is the key of the map. -/
def RdcDiagTestCase.num : RdcDiagTestCase → Nat
  | computeProcess => 0
  | computeQueue => 1
  | sysMemCheck => 2
  | nodeTopology => 3
  | rvsTest => 4
  | gpuParameters => 5

namespace RdcDiagTestResult

/-- `*result = {}`. -/
def empty : RdcDiagTestResult where
  status := .pass
  details := ⟨[], 0⟩
  testCase := .computeProcess
  perGpuResultCount := 0
  gpuResults := Vector.replicate rdcMaxNumDevices ⟨0, [], 0⟩
  info := []

/-- Write to `gpu_results[i]`. -/
def modifyGpu (r : RdcDiagTestResult) (i : Nat) (f : RdcDiagPerGpuResult → RdcDiagPerGpuResult) :
    Option RdcDiagTestResult :=
  if h : i < rdcMaxNumDevices then
    some { r with gpuResults := r.gpuResults.set i (f (r.gpuResults.get ⟨i, h⟩)) h }
  else none

/-- Write to `gpu_results[i].gpu_result.msg`. -/
def setGpuMsg (r : RdcDiagTestResult) (i : Nat) (msg : List UInt8) : Option RdcDiagTestResult :=
  r.modifyGpu i fun per => { per with gpuResult := { per.gpuResult with msg := msg } }

/-- `gpu_results[i].gpu_result.msg`. -/
def gpuMsg (r : RdcDiagTestResult) (i : Nat) : Option (List UInt8) :=
  r.gpuResults[i]?.map (·.gpuResult.msg)

end RdcDiagTestResult

/-! ## The hardware library -/

/-- `amdsmi_process_info_t`: the members that are read. -/
structure AmdsmiProcessInfo where
  processId : Nat
  pasid : Nat
  vramUsage : Nat
  sdmaUsage : Nat
  cuOccupancy : Nat

/-- `amdsmi_temperature_type_t`, as far as `get_temperature_string` tells the sensors apart. -/
inductive TemperatureSensor where
  | edge
  | junction
  | vram
  | other (type : Nat)

/-- `amdsmi_temperature_metric_t`: the metrics that are read. -/
inductive TemperatureMetric where
  | current
  | max
  | min
  | critical
  | emergency
  | critMin

/-- `amdsmi_voltage_type_t`, as far as `get_voltage_string` tells the sensors apart. -/
inductive VoltageSensor where
  | vddgfx
  | other (type : Nat)

/-- `amdsmi_voltage_metric_t`: the metrics that are read. -/
inductive VoltageMetric where
  | current
  | max
  | min
  | maxCrit
  | minCrit

/-- What the library answers while the test cases of `RdcSmiLib` run: for each call its status, and
what it writes. -/
structure SmiDiagAnswers where
  processCount : AmdsmiStatus × Nat
  processes : AmdsmiStatus × List AmdsmiProcessInfo
  /-- The GPUs of a process, `none` if one of the two calls for them fails. -/
  processGpus : Nat → Option (List Nat)
  linkWeight : Nat → Nat → AmdsmiStatus × Nat
  /-- The sensors from `AMDSMI_TEMPERATURE_TYPE_FIRST` to `AMDSMI_TEMPERATURE_TYPE__MAX`. -/
  temperatureSensors : List TemperatureSensor
  tempMetric : Nat → TemperatureSensor → TemperatureMetric → AmdsmiStatus × Int
  /-- The sensors from `AMDSMI_VOLT_TYPE_FIRST` to `AMDSMI_VOLT_TYPE_LAST`. -/
  voltageSensors : List VoltageSensor
  /-- The voltage of a processor; `none` is the null handle. -/
  voltMetric : Option Nat → VoltageSensor → VoltageMetric → AmdsmiStatus × Int

namespace SmiDiagnostic

/-! ### Processes -/

/-- One turn of the loop over the processes: what is told about the process, and the processes of
each GPU so far. A process that occupies nothing is passed over. -/
def processTurn (a : SmiDiagAnswers) (s : List UInt8 × IdMap (List Nat)) (p : AmdsmiProcessInfo) :
    List UInt8 × IdMap (List Nat) :=
  if p.cuOccupancy = 0 then s
  else
    let info := s.1 ++ text " Process: " ++ decimal p.processId
      ++ text ", pasid: " ++ decimal p.pasid
      ++ text ", vram_usage: " ++ decimal p.vramUsage
      ++ text ", sdma_usage: " ++ decimal p.sdmaUsage
      ++ text ", cu_occupancy: " ++ decimal p.cuOccupancy ++ text "."
    match a.processGpus p.processId with
    -- the process has been told about all the same
    | none => (info, s.2)
    | some gpus =>
      (info, gpus.foldl
        (fun pids gpu => pids.alter gpu fun old => some (old.getD [] ++ [p.processId])) s.2)

/-- The loop that sets the per-GPU information. It ends when the array is full. -/
def perGpuLoop : List (Nat × List Nat) → RdcDiagTestResult → Option RdcDiagTestResult
  | [], r => some r
  | (gpu, pids) :: rest, r =>
    let msg :=
      pids.foldl (fun msg pid => msg ++ text " " ++ decimal pid) (text "Running process:")
    match r.modifyGpu r.perGpuResultCount fun _ => ⟨gpu, diagMsg msg, 0⟩ with
    | none => none
    | some r' =>
      let r'' := { r' with perGpuResultCount := r'.perGpuResultCount + 1 }
      if r''.perGpuResultCount ≥ rdcMaxNumDevices then some r'' else perGpuLoop rest r''

/-- `check_smi_process_info`. It resets what it is given. -/
def checkSmiProcessInfo (a : SmiDiagAnswers) (gpuIndex : List Nat) (_ : RdcDiagTestResult) :
    Option (Status × RdcDiagTestResult) :=
  let r : RdcDiagTestResult :=
    { RdcDiagTestResult.empty with testCase := .computeProcess, status := .skip }
  if a.processCount.1 ≠ AmdsmiStatus.success then
    some (smi2RdcError a.processCount.1,
      { r with info := diagMsg (text "Fail to retreive process information from amd_smi_lib") })
  else if a.processCount.2 = 0 then
    some (.ok,
      { r with status := .pass, info := diagMsg (text "No processes running on any devices.") })
  else if a.processes.1 ≠ AmdsmiStatus.success then
    -- no text has been put together yet
    some (smi2RdcError a.processes.1, { r with info := diagMsg [] })
  else
    let (info, pidsPerGpu) := a.processes.2.foldl (processTurn a) ([], ∅)
    if pidsPerGpu.isEmpty then
      -- the text about the processes is dropped
      some (.ok,
        { r with status := .pass, info := diagMsg (text "No processes running on any devices.") })
    else
      let status := if gpuIndex.any pidsPerGpu.contains then RdcDiagResult.fail else .pass
      (perGpuLoop pidsPerGpu.toList { r with status := status, info := diagMsg info }).map (.ok, ·)

/-! ### Topology -/

/-- The loops over pairs of GPUs, each with its place in the group: the links whose weight is asked
for, and the text or the error. Both handles of a link are looked up with the index of the first
GPU. -/
def linkLoop (a : SmiDiagAnswers) : List ((Nat × Nat) × (Nat × Nat)) → List UInt8 →
    List (Nat × Nat) × Except RdcDiagDetail (List UInt8)
  | [], info => ([], .ok info)
  | ((gpu, i), (gpu', j)) :: rest, info =>
    if gpu = gpu' then linkLoop a rest info
    else
      -- not `gpu'`: the second handle is looked up with the first index again
      let (err, weight) := a.linkWeight gpu gpu
      if err ≠ AmdsmiStatus.success then
        ([(gpu, gpu)], .error ⟨text "rsmi_topo_get_link_weight(" ++ decimal i ++ text ","
          ++ decimal j ++ text ", &weight)" ++ text " fail", (err % 2 ^ 32).toNat⟩)
      else
        let r := linkLoop a rest (info ++ decimal i ++ text "=>" ++ decimal j ++ text " weight:"
          ++ decimal weight ++ text " ")
        ((gpu, gpu) :: r.1, r.2)

/-- `check_smi_topo_info`. It resets what it is given. -/
def checkSmiTopoInfo (a : SmiDiagAnswers) (gpuIndex : List Nat) (_ : RdcDiagTestResult) :
    Option (Status × RdcDiagTestResult) :=
  let r : RdcDiagTestResult := { RdcDiagTestResult.empty with testCase := .nodeTopology }
  let pairs := gpuIndex.zipIdx.flatMap fun p => gpuIndex.zipIdx.map (p, ·)
  match (linkLoop a pairs []).2 with
  | .error detail =>
    some (.msiError,
      { r with
        status := .fail
        details := ⟨diagMsg detail.msg, detail.code⟩
        info := diagMsg detail.msg })
  | .ok info =>
    some (.ok,
      { r with
        status := .pass
        info := diagMsg (if info ≠ [] then info else text "No link detected.") })

/-! ### Parameters -/

/-- `get_temperature_string`. -/
def getTemperatureString : TemperatureSensor → List UInt8
  | .edge => text "Edge"
  | .junction => text "Junction"
  | .vram => text "Memory"
  | .other _ => text "Unknown"

/-- `get_voltage_string`. -/
def getVoltageString : VoltageSensor → List UInt8
  | .vddgfx => text "Vddgfx voltage"
  | .other _ => text "Unknown"

/-- The working variables of a level check. -/
structure Levels where
  result : RdcDiagResult
  info : List UInt8
  perGpuInfo : List UInt8

/-- One comparison with a limit. A limit that cannot be read is passed over. `perGpu` is told about
the GPU and `bad` in general if the limit is exceeded, `good` if it is not. -/
def checkLimit (limit : AmdsmiStatus × Int) (exceeded : Bool) (result : RdcDiagResult)
    (perGpu bad good : List UInt8) (s : Levels) : Levels :=
  if limit.1 ≠ AmdsmiStatus.success then s
  else if exceeded then ⟨result, s.info ++ bad, s.perGpuInfo ++ perGpu⟩
  else { s with info := s.info ++ good }

/-- What a level check is about. -/
structure LevelTexts where
  gpu : Nat
  name : List UInt8
  /-- `temperature` or `voltage`. -/
  quantity : List UInt8
  current : Int

namespace LevelTexts

/-- What is told about the GPU: which limit, and how it compares with the reading. -/
def perGpu (t : LevelTexts) (which : String) (limit : Int) (compares : String) : List UInt8 :=
  text which ++ t.name ++ text " " ++ t.quantity ++ text " " ++ decimal limit ++ text compares
    ++ t.quantity ++ text " " ++ decimal t.current ++ text ". "

/-- What is told in general; `verdict` is ` exceeds. ` or ` in range. `. -/
def general (t : LevelTexts) (which verdict : String) : List UInt8 :=
  text "GPU " ++ decimal t.gpu ++ text which ++ t.name ++ text " " ++ t.quantity ++ text verdict

/-- The same behind the name of the sensor. -/
def named (t : LevelTexts) (which verdict : String) : List UInt8 :=
  t.name ++ text ": " ++ t.general which verdict

end LevelTexts

/-- `check_temperature_level`, without the copying of the texts. The check against the emergency
limit compares with the critical one, which is zero if it could not be read. -/
def temperatureLevels (a : SmiDiagAnswers) (gpu : Nat) (type : TemperatureSensor) (current : Int)
    (s : Levels) : Levels :=
  let t : LevelTexts := ⟨gpu, getTemperatureString type, text "temperature", current⟩
  let max := a.tempMetric gpu type .max
  let min := a.tempMetric gpu type .min
  let critical := a.tempMetric gpu type .critical
  let criticalTemp := if critical.1 ≠ AmdsmiStatus.success then 0 else critical.2
  let emergency := a.tempMetric gpu type .emergency
  let critMin := a.tempMetric gpu type .critMin
  let s := checkLimit max (current ≥ max.2) .warn
    (t.perGpu "Max " max.2 " greater than current ")
    (t.named " max " " exceeds. ") (t.general " max " " in range. ") s
  let s := checkLimit min (current ≤ min.2) .warn
    (t.perGpu "Min " min.2 " less than current ")
    (t.general " min " " exceeds. ") (t.general " min " " in range. ") s
  let s := checkLimit critical (current ≥ critical.2) .fail
    (t.perGpu "Critical " critical.2 " greater than current ")
    (t.general " Critical " " exceeds. ") (t.general " Critical " " in range. ") s
  -- the limit that is told is not the limit that is compared with
  let s := checkLimit emergency (current ≥ criticalTemp) .fail
    (t.perGpu "Emergency " emergency.2 " greater than current ")
    (t.general " Emergency " " exceeds. ") (t.general " Emergency " " in range. ") s
  checkLimit critMin (current ≤ critMin.2) .fail
    (t.perGpu "Critical Min " critMin.2 " less than current ")
    (t.general " Critical Min " " exceeds. ") (t.general " Critical Min " " in range. ") s

/-- `check_voltage_level`, without the copying of the texts. The critical limits are asked for with
the null handle. -/
def voltageLevels (a : SmiDiagAnswers) (gpu : Nat) (type : VoltageSensor) (current : Int)
    (s : Levels) : Levels :=
  let t : LevelTexts := ⟨gpu, getVoltageString type, text "voltage", current⟩
  let max := a.voltMetric (some gpu) type .max
  let min := a.voltMetric (some gpu) type .min
  let maxCrit := a.voltMetric none type .maxCrit
  let minCrit := a.voltMetric none type .minCrit
  let s := checkLimit max (current ≥ max.2) .warn
    (t.perGpu "Max " max.2 " greater than current ")
    (t.named " max " " exceeds. ") (t.general " max " " in range. ") s
  let s := checkLimit min (current ≤ min.2) .warn
    (t.perGpu "Min " min.2 " less than current ")
    (t.named " min " " exceeds. ") (t.general " min " " in range. ") s
  let s := checkLimit maxCrit (current ≥ maxCrit.2) .fail
    (t.perGpu "Critical Max " maxCrit.2 " greater than current ")
    (t.named " Critical  max " " exceeds. ") (t.general " Critical  max " " in range. ") s
  checkLimit minCrit (current ≤ minCrit.2) .fail
    (t.perGpu "Critical Min " minCrit.2 " less than current ")
    (t.named " Critical min " " exceeds. ") (t.general " Critical min " " in range. ") s

/-- One turn of a loop over sensors: without a reading nothing happens, otherwise the texts are
copied back and the result becomes the worse of the two. -/
def levelTurn (reading : AmdsmiStatus × Int) (check : Int → Levels → Levels) (s : Levels) :
    Levels :=
  if reading.1 ≠ AmdsmiStatus.success then s
  else
    let s' := check reading.2 ⟨.pass, s.info, s.perGpuInfo⟩
    ⟨if s'.result.num > s.result.num then s'.result else s.result, diagMsg s'.info,
      diagMsg s'.perGpuInfo⟩

/-- The two loops over the sensors of a GPU. Either ends before the last sensor. -/
def sensorLoops (a : SmiDiagAnswers) (gpu : Nat) (s : Levels) : Levels :=
  let s := a.temperatureSensors.dropLast.foldl
    (fun s type => levelTurn (a.tempMetric gpu type .current) (temperatureLevels a gpu type) s) s
  a.voltageSensors.dropLast.foldl
    (fun s type =>
      levelTurn (a.voltMetric (some gpu) type .current) (voltageLevels a gpu type) s) s

/-- The loop over the GPUs of `check_smi_param_info`. The GPU index is written to the first record
each time. -/
def paramLoop (a : SmiDiagAnswers) :
    List Nat → Nat → RdcDiagTestResult → Option RdcDiagTestResult
  | [], _, r => some r
  | gpu :: rest, i, r => do
      let msg ← r.gpuMsg i
      let s := sensorLoops a gpu ⟨r.status, r.info, msg⟩
      let r' ← { r with status := s.result, info := s.info }.setGpuMsg i s.perGpuInfo
      -- `result->gpu_results->gpu_index`, which is `gpu_results[0]`
      let r'' ← r'.modifyGpu 0 fun per => { per with gpuIndex := gpu }
      paramLoop a rest (i + 1) { r'' with perGpuResultCount := r''.perGpuResultCount + 1 }

/-- `check_smi_param_info`. It resets what it is given. -/
def checkSmiParamInfo (a : SmiDiagAnswers) (gpuIndex : List Nat) (_ : RdcDiagTestResult) :
    Option (Status × RdcDiagTestResult) :=
  (paramLoop a gpuIndex 0
    { RdcDiagTestResult.empty with testCase := .gpuParameters, status := .pass }).map (.ok, ·)

end SmiDiagnostic

/-! ## The libraries behind a loader -/

/-- How a test on a GPU ends: with what it has to tell in general and about the GPU, or with an
exception. -/
inductive KernelTest where
  | passed (gpuInfo perGpuInfo : List UInt8)
  | skipException (what : List UInt8)
  | exception (what : List UInt8)

/-- How the tests of `librdc_rocr` end, on each GPU. -/
structure RocrAnswers where
  memoryTest : Nat → KernelTest
  memoryAccessTest : Nat → KernelTest
  computeQueueTest : Nat → KernelTest

namespace Rocr

/-- The working variables of a test: `result->status`, `info` and `per_gpu_info`. -/
abbrev Told := RdcDiagResult × List UInt8 × List UInt8

/-- One `try` block. -/
def tryTest (name : String) (gpu : Nat) (test : KernelTest) (s : Told) : Told :=
  match test with
  | .passed gpuInfo perGpuInfo => (s.1, s.2.1 ++ gpuInfo, s.2.2 ++ perGpuInfo)
  | .skipException what =>
    (.skip, s.2.1 ++ text "GPU " ++ decimal gpu ++ text " " ++ text name ++ text " is skipped: "
      ++ what ++ text ".", s.2.2 ++ text name ++ text " is skipped: " ++ what)
  | .exception what =>
    (.fail, s.2.1 ++ text "GPU " ++ decimal gpu ++ text " " ++ text name
      ++ text " returns with error " ++ what ++ text ".",
      s.2.2 ++ text name ++ text " returns with error " ++ what)

/-- A test function: it works on the texts of the result and copies them back. -/
def runTest (tests : Told → Told) (gpu : Nat) (r : RdcDiagTestResult) :
    Option RdcDiagTestResult := do
  let msg ← r.gpuMsg gpu
  let (status, info, perGpuInfo) := tests (r.status, r.info, msg)
  { r with status := status, info := diagMsg info }.setGpuMsg gpu (diagMsg perGpuInfo)

/-- `run_memory_test`. -/
def runMemoryTest (a : RocrAnswers) (gpu : Nat) : RdcDiagTestResult → Option RdcDiagTestResult :=
  runTest (fun s => tryTest "Memory Access" gpu (a.memoryAccessTest gpu)
    (tryTest "MaxSingleAllocationTest" gpu (a.memoryTest gpu) s)) gpu

/-- `run_compute_queue_test`. -/
def runComputeQueueTest (a : RocrAnswers) (gpu : Nat) :
    RdcDiagTestResult → Option RdcDiagTestResult :=
  runTest (tryTest "Compute Queue test" gpu (a.computeQueueTest gpu)) gpu

/-- `rdc_diag_test_cases_query` of `librdc_rocr`. -/
def rdcDiagTestCasesQuery : List RdcDiagTestCase := [.computeQueue, .sysMemCheck]

/-- `rdc_diag_test_case_run` of `librdc_rocr`. Without GPUs, and for a test case it does not know,
it writes nothing. -/
def rdcDiagTestCaseRun (a : RocrAnswers) (testCase : RdcDiagTestCase) (gpuIndex : List Nat)
    (r : RdcDiagTestResult) : Option (Status × RdcDiagTestResult) :=
  if gpuIndex.length = 0 then some (.badParameter, r)
  else
    let opened : RdcDiagTestResult :=
      { RdcDiagTestResult.empty with testCase := testCase, status := .pass }
    match testCase with
    | .sysMemCheck => (gpuIndex.foldlM (fun r gpu => runMemoryTest a gpu r) opened).map (.ok, ·)
    | .computeQueue =>
      (gpuIndex.foldlM (fun r gpu => runComputeQueueTest a gpu r) opened).map (.ok, ·)
    -- success, with nothing written
    | _ => some (.ok, r)

end Rocr

namespace Rvs

/-- `rdc_diag_test_cases_query` of `librdc_rvs`. -/
def rdcDiagTestCasesQuery : List RdcDiagTestCase := [.rvsTest]

/-- `rdc_diag_test_case_run` of `librdc_rvs`; `success` says how `run_rvs_app` ends. -/
def rdcDiagTestCaseRun (success : Bool) (testCase : RdcDiagTestCase) (gpuIndex : List Nat)
    (r : RdcDiagTestResult) : Option (Status × RdcDiagTestResult) :=
  if gpuIndex.length = 0 then some (.badParameter, r)
  else if testCase ≠ .rvsTest then some (.badParameter, r)
  else
    some (.ok,
      { RdcDiagTestResult.empty with
        testCase := testCase
        status := if success then .pass else .fail
        info := diagMsg (text "Finished running RDC_DIAG_RVS_TEST!") })

end Rvs

/-! ## Modules -/

/-- Which functions of a library have been found. -/
structure DiagSymbols where
  testCaseRun : Bool
  diagTestCasesQuery : Bool
  deriving DecidableEq

/-- A diagnostic module. -/
inductive DiagnosticLib where
  | smi
  | rocr (symbols : DiagSymbols)
  | rvs (symbols : DiagSymbols)
  deriving DecidableEq

/-- What is answered while diagnostics run. -/
structure DiagnosticAnswers where
  smi : SmiDiagAnswers
  rocr : RocrAnswers
  rvs : Bool

namespace DiagnosticLib

/-- `rdc_diag_test_cases_query`. -/
def rdcDiagTestCasesQuery : DiagnosticLib → Except Status (List RdcDiagTestCase)
  | smi => .ok [.computeProcess, .nodeTopology, .gpuParameters]
  | rocr symbols =>
    if symbols.diagTestCasesQuery then .ok Rocr.rdcDiagTestCasesQuery else .error .failLoadModule
  | rvs symbols =>
    if symbols.diagTestCasesQuery then .ok Rvs.rdcDiagTestCasesQuery else .error .failLoadModule

/-- `rdc_test_case_run`. -/
def rdcTestCaseRun (a : DiagnosticAnswers) (testCase : RdcDiagTestCase) (gpuIndex : List Nat)
    (r : RdcDiagTestResult) : DiagnosticLib → Option (Status × RdcDiagTestResult)
  | smi =>
    match testCase with
    | .computeProcess => SmiDiagnostic.checkSmiProcessInfo a.smi gpuIndex r
    | .nodeTopology => SmiDiagnostic.checkSmiTopoInfo a.smi gpuIndex r
    | .gpuParameters => SmiDiagnostic.checkSmiParamInfo a.smi gpuIndex r
    | _ => some (.notSupported, r)
  | rocr symbols =>
    if symbols.testCaseRun then Rocr.rdcDiagTestCaseRun a.rocr testCase gpuIndex r
    else some (.failLoadModule, r)
  | rvs symbols =>
    if symbols.testCaseRun then Rvs.rdcDiagTestCaseRun a.rvs testCase gpuIndex r
    else some (.failLoadModule, r)

end DiagnosticLib

/-- `RdcDiagnosticModule`. -/
structure RdcDiagnosticModule where
  diagnosticModules : List DiagnosticLib
  testcasesToModule : IdMap DiagnosticLib

/-- `RDC_DIAG_LVL_SHORT`. -/
def rdcDiagLvlShort : Nat := 1

/-- `RDC_DIAG_LVL_MED`. -/
def rdcDiagLvlMed : Nat := 2

/-- The test cases of a level. -/
def rdcRuns (level : Nat) : List RdcDiagTestCase :=
  (if level ≥ rdcDiagLvlShort then
    [.computeProcess, .nodeTopology, .gpuParameters, .computeQueue, .sysMemCheck] else [])
    ++ if level ≥ rdcDiagLvlMed then [.rvsTest] else []

namespace RdcDiagnosticModule

/-- One turn of the loop of the constructor. A test case keeps the first module that has it. -/
def claimTestCases (routes : IdMap DiagnosticLib) (lib : DiagnosticLib) : IdMap DiagnosticLib :=
  match lib.rdcDiagTestCasesQuery with
  | .error _ => routes
  | .ok testCases =>
    testCases.foldl (fun routes testCase => routes.insertIfNew testCase.num lib) routes

/-- The constructor. -/
def create (diagnosticModules : List DiagnosticLib) : RdcDiagnosticModule :=
  ⟨diagnosticModules, diagnosticModules.foldl claimTestCases ∅⟩

variable (m : RdcDiagnosticModule) (a : DiagnosticAnswers)

/-- `rdc_test_case_run`. -/
def rdcTestCaseRun (testCase : RdcDiagTestCase) (gpuIndex : List Nat) (r : RdcDiagTestResult) :
    Option (Status × RdcDiagTestResult) :=
  match m.testcasesToModule[testCase.num]? with
  | none =>
    some (.notSupported, { r with status := .skip, info := diagMsg (text "Not implemented") })
  | some lib => lib.rdcTestCaseRun a testCase gpuIndex r

/-- The loop of `rdc_diagnostic_run`. -/
def runLoop (gpuIndex : List Nat) :
    List RdcDiagTestCase → Nat → RdcDiagResponse → Option RdcDiagResponse
  | [], _, response => some response
  | testCase :: rest, i, response =>
    if h : i < maxTestCases then
      match m.rdcTestCaseRun a testCase gpuIndex
          { response.diagInfo.get ⟨i, h⟩ with testCase := testCase } with
      | none => none
      -- the status is dropped
      | some (_, r) =>
        runLoop gpuIndex rest (i + 1)
          ⟨response.resultsCount + 1, response.diagInfo.set i r h⟩
    else none

/-- `rdc_diagnostic_run`. -/
def rdcDiagnosticRun (gpus : RdcGroupInfo) (level : Nat) (response : RdcDiagResponse) :
    Option (Status × RdcDiagResponse) :=
  (m.runLoop a gpus.entityIds (rdcRuns level) 0 { response with resultsCount := 0 }).map (.ok, ·)

end RdcDiagnosticModule

/-! ## The server -/

/-- `DiagnosticTestResult`: a result as it is sent. -/
structure DiagnosticTestResultMessage where
  status : RdcDiagResult
  details : RdcDiagDetail
  testCase : RdcDiagTestCase
  perGpuResultCount : Nat
  gpuResults : List RdcDiagPerGpuResult
  info : List UInt8
  deriving DecidableEq

/-- A result as it is sent, if its count can be trusted. -/
def RdcDiagTestResult.message (r : RdcDiagTestResult) : DiagnosticTestResultMessage where
  status := r.status
  details := r.details
  testCase := r.testCase
  perGpuResultCount := r.perGpuResultCount
  gpuResults := r.gpuResults.toList.take r.perGpuResultCount
  info := r.info

end Rdc
