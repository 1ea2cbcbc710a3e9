import Rdc.Standalone
import Rdc.Diagnostic
import Rdc.Lib.CString

/-!
# The messages of the statistics and of the diagnostics

What `rdc.proto` has for them, and the two copies of each, made member by member: by the server into
the message, and by the client out of it. The numbers of a message have the widths of the members
they are copied from. A `string` of it has to be UTF-8, otherwise the receiver's library refuses the
whole message.
-/

namespace Rdc

/-! ## The usage of a GPU -/

/-- `JobStatsSummary`. -/
structure JobStatsSummary where
  maxValue : Nat
  minValue : Nat
  average : Nat
  standardDeviation : ℚ
  deriving DecidableEq

/-- `GpuUsageInfo`. -/
structure GpuUsageInfo where
  gpuId : Nat
  startTime : Nat
  endTime : Nat
  energyConsumed : Nat
  powerUsage : JobStatsSummary
  gpuClock : JobStatsSummary
  gpuUtilization : JobStatsSummary
  maxGpuMemoryUsed : Nat
  memoryUtilization : JobStatsSummary
  eccCorrect : Nat
  eccUncorrect : Nat
  pcieTx : JobStatsSummary
  pcieRx : JobStatsSummary
  memoryClock : JobStatsSummary
  gpuTemperature : JobStatsSummary
  deriving DecidableEq

namespace ApiService

/-- The four `set_` calls for a summary. -/
def copySummary (src : RdcStatsSummary) : JobStatsSummary where
  maxValue := src.maxValue
  minValue := src.minValue
  average := src.average
  standardDeviation := src.standardDeviation

/-- `RdcAPIServiceImpl::copy_gpu_usage_info`. -/
def copyGpuUsageInfo (src : RdcGpuUsageInfo) : GpuUsageInfo where
  gpuId := src.gpuId
  startTime := src.startTime
  endTime := src.endTime
  energyConsumed := src.energyConsumed
  maxGpuMemoryUsed := src.maxGpuMemoryUsed
  eccCorrect := src.eccCorrect
  eccUncorrect := src.eccUncorrect
  powerUsage := copySummary src.powerUsage
  gpuClock := copySummary src.gpuClock
  gpuUtilization := copySummary src.gpuUtilization
  memoryUtilization := copySummary src.memoryUtilization
  pcieTx := copySummary src.pcieTx
  pcieRx := copySummary src.pcieRx
  memoryClock := copySummary src.memoryClock
  gpuTemperature := copySummary src.gpuTemperature

end ApiService

namespace StandaloneHandler

/-- The four assignments for a summary. -/
def copySummary (src : JobStatsSummary) : RdcStatsSummary where
  maxValue := src.maxValue
  minValue := src.minValue
  average := src.average
  standardDeviation := src.standardDeviation

/-- `RdcStandaloneHandler::copy_gpu_usage_info`. -/
def copyGpuUsageInfo (src : GpuUsageInfo) : RdcGpuUsageInfo where
  gpuId := src.gpuId
  startTime := src.startTime
  endTime := src.endTime
  energyConsumed := src.energyConsumed
  maxGpuMemoryUsed := src.maxGpuMemoryUsed
  eccCorrect := src.eccCorrect
  eccUncorrect := src.eccUncorrect
  powerUsage := copySummary src.powerUsage
  gpuClock := copySummary src.gpuClock
  gpuUtilization := copySummary src.gpuUtilization
  memoryUtilization := copySummary src.memoryUtilization
  pcieTx := copySummary src.pcieTx
  pcieRx := copySummary src.pcieRx
  memoryClock := copySummary src.memoryClock
  gpuTemperature := copySummary src.gpuTemperature

end StandaloneHandler

/-! ## Diagnostics -/

/-- `DiagnosticDetail`. -/
structure DiagnosticDetail where
  msg : List UInt8
  code : Nat
  deriving DecidableEq

/-- `DiagnosticPerGpuResult`. -/
structure DiagnosticPerGpuResult where
  gpuIndex : Nat
  gpuResult : DiagnosticDetail
  deriving DecidableEq

/-- `DiagnosticTestResult`. The `enum` of the test case has other names for the numbers, but any
number can be sent in it. -/
structure DiagnosticTestResult where
  status : Nat
  details : DiagnosticDetail
  testCase : Nat
  perGpuResultCount : Nat
  gpuResults : List DiagnosticPerGpuResult
  info : List UInt8
  deriving DecidableEq

/-- `DiagnosticResponse`. The count is sent beside the results. -/
structure DiagnosticResponse where
  resultsCount : Nat
  diagInfo : List DiagnosticTestResult
  deriving DecidableEq

/-- Every `string` of a result is UTF-8. -/
def DiagnosticTestResult.parses (result : DiagnosticTestResult) : Bool :=
  CString.utf8 result.details.msg
    && result.gpuResults.all (fun per => CString.utf8 per.gpuResult.msg)
    && CString.utf8 result.info

/-- Every `string` of a response is UTF-8. -/
def DiagnosticResponse.parses (res : DiagnosticResponse) : Bool :=
  res.diagInfo.all DiagnosticTestResult.parses

namespace ApiService

/-- The copy of a detail. -/
def copyDetail (src : RdcDiagDetail) : DiagnosticDetail where
  code := src.code
  msg := src.msg

/-- The copy of a per-GPU entry. -/
def copyPerGpuResult (src : RdcDiagPerGpuResult) : DiagnosticPerGpuResult where
  gpuIndex := src.gpuIndex
  gpuResult := copyDetail src.gpuResult

/-- The copy of a result. The loop over `gpu_results` goes up to the count, which is taken as it
is. -/
def copyTestResult (testResult : RdcDiagTestResult) : Option DiagnosticTestResult :=
  (Buffer.read testResult.gpuResults testResult.perGpuResultCount 0).map fun gpuResults =>
    { status := testResult.status.num
      details := copyDetail testResult.details
      testCase := testResult.testCase.num
      perGpuResultCount := testResult.perGpuResultCount
      gpuResults := gpuResults.map copyPerGpuResult
      info := testResult.info }

/-- The part of `DiagnosticRun` behind the run. -/
def copyDiagResponse (diagResponse : RdcDiagResponse) : Option DiagnosticResponse :=
  match Buffer.read diagResponse.diagInfo diagResponse.resultsCount 0 with
  | none => none
  | some results => (results.mapM copyTestResult).map (⟨diagResponse.resultsCount, ·⟩)

end ApiService

/-- The cast from a number. One that is no enumerator's has no value here. -/
def RdcDiagResult.ofNum : Nat → Option RdcDiagResult
  | 0 => some pass
  | 1 => some skip
  | 2 => some warn
  | 3 => some fail
  | _ => none

/-- The cast from a number. -/
def RdcDiagTestCase.ofNum : Nat → Option RdcDiagTestCase
  | 0 => some computeProcess
  | 1 => some computeQueue
  | 2 => some sysMemCheck
  | 3 => some nodeTopology
  | 4 => some rvsTest
  | 5 => some gpuParameters
  | _ => none

namespace StandaloneHandler

/-- The copy of a detail. -/
def copyDetail (src : DiagnosticDetail) : RdcDiagDetail where
  code := src.code
  msg := diagMsg (CString.cStr src.msg)

/-- The copy of a per-GPU entry. -/
def copyPerGpuResult (src : DiagnosticPerGpuResult) : RdcDiagPerGpuResult where
  gpuIndex := src.gpuIndex
  gpuResult := copyDetail src.gpuResult

/-- The copy of a result into `to_result`. Too many per-GPU entries are turned away when the rest of
the result, but for `info`, has been written. -/
def copyTestResult (result : DiagnosticTestResult) (toResult : RdcDiagTestResult) :
    Option (Status × RdcDiagTestResult) :=
  match RdcDiagResult.ofNum result.status, RdcDiagTestCase.ofNum result.testCase with
  | some status, some testCase =>
    let toResult : RdcDiagTestResult :=
      { toResult with
        status := status
        details := copyDetail result.details
        testCase := testCase
        perGpuResultCount := result.perGpuResultCount }
    if result.gpuResults.length > rdcMaxNumDevices then some (.badParameter, toResult)
    else
      match Buffer.fill (result.gpuResults.map copyPerGpuResult) 0 toResult.gpuResults with
      | none => none
      | some gpuResults =>
        some (.ok,
          { toResult with
            gpuResults := gpuResults
            info := diagMsg (CString.cStr result.info) })
  | _, _ => none

/-- The loop over `diag_info`, from index `i` on. -/
def copyDiagInfo : List DiagnosticTestResult → Nat → Vector RdcDiagTestResult maxTestCases →
    Option (Status × Vector RdcDiagTestResult maxTestCases)
  | [], _, diagInfo => some (.ok, diagInfo)
  | result :: rest, i, diagInfo =>
    if h : i < maxTestCases then
      match copyTestResult result (diagInfo.get ⟨i, h⟩) with
      | none => none
      | some (status, toResult) =>
        if status ≠ .ok then some (status, diagInfo.set i toResult h)
        else copyDiagInfo rest (i + 1) (diagInfo.set i toResult h)
    else none

/-- The part of `rdc_diagnostic_run` behind the call. The count is written before the number of
results is compared with the limit. -/
def copyDiagResponse (res : DiagnosticResponse) (response : RdcDiagResponse) :
    Option (Status × RdcDiagResponse) :=
  let response := { response with resultsCount := res.resultsCount }
  if res.diagInfo.length > maxTestCases then some (.badParameter, response)
  else
    (copyDiagInfo res.diagInfo 0 response.diagInfo).map fun (status, diagInfo) =>
      (status, { response with diagInfo := diagInfo })

end StandaloneHandler

end Rdc
