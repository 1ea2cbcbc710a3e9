import Rdc.Handler
import Rdc.Lib.Lease

/-!
# Reading the hardware

`RdcMetricFetcherImpl`: one field of one GPU at a time, through `amdsmi`. The class keeps the event
counters it has created, one for each XGMI field that is watched, and a cache of PCIe throughputs
that a worker thread of its own refreshes.

What the library and the clock answer is an argument of each call. The counters the library has
created and destroyed are kept beside the table of handles (`counters`); a counter is named by when
it was created.

A fetch writes into a value of its caller, and not always all of it, so what a branch of the switch
writes is a value of its own (`FieldWrites`).
-/

namespace Rdc

/-! ## Status codes of the library -/

/-- `amdsmi_status_t`, by its number, which is what `rdc_field_value::status` holds. -/
abbrev AmdsmiStatus := Int

namespace AmdsmiStatus

/-- `AMDSMI_STATUS_SUCCESS`. -/
def success : AmdsmiStatus := 0

/-- `AMDSMI_STATUS_INVAL`. -/
def inval : AmdsmiStatus := 1

/-- `AMDSMI_STATUS_NOT_SUPPORTED`. -/
def notSupported : AmdsmiStatus := 2

/-- `AMDSMI_STATUS_NO_PERM`. -/
def noPerm : AmdsmiStatus := 10

/-- `AMDSMI_STATUS_FILE_ERROR`. -/
def fileError : AmdsmiStatus := 14

/-- `AMDSMI_STATUS_OUT_OF_RESOURCES`. -/
def outOfResources : AmdsmiStatus := 15

/-- `AMDSMI_STATUS_NOT_FOUND`. -/
def notFound : AmdsmiStatus := 31

/-- `AMDSMI_STATUS_NO_DATA`. -/
def noData : AmdsmiStatus := 40

end AmdsmiStatus

/-- `Smi2RdcError`. -/
def smi2RdcError (rsmi : AmdsmiStatus) : Status :=
  if rsmi = AmdsmiStatus.success then .ok
  else if rsmi = AmdsmiStatus.inval then .badParameter
  else if rsmi = AmdsmiStatus.notSupported then .notSupported
  else if rsmi = AmdsmiStatus.notFound then .notFound
  else if rsmi = AmdsmiStatus.outOfResources then .insuffResources
  else if rsmi = AmdsmiStatus.fileError then .fileError
  else if rsmi = AmdsmiStatus.noData then .noData
  else if rsmi = AmdsmiStatus.noPerm then .permError
  else .unknownError

theorem smi2RdcError_eq_ok {rsmi : AmdsmiStatus} :
    smi2RdcError rsmi = .ok ↔ rsmi = AmdsmiStatus.success := by
  unfold smi2RdcError
  split_ifs <;> simp_all

/-! ## Field ids -/

/-- `RDC_FI_GPU_COUNT`. -/
def rdcFiGpuCount : Nat := 1

/-- `RDC_FI_DEV_NAME`. -/
def rdcFiDevName : Nat := 2

/-- `RDC_FI_OAM_ID`. -/
def rdcFiOamId : Nat := 3

/-- `RDC_FI_MEMORY_TEMP`. -/
def rdcFiMemoryTemp : Nat := 200

/-- `RDC_FI_PCIE_BANDWIDTH`. -/
def rdcFiPcieBandwidth : Nat := 402

/-- `RDC_FI_GPU_MM_ENC_UTIL`. -/
def rdcFiGpuMmEncUtil : Nat := 503

/-- `RDC_FI_GPU_MM_DEC_UTIL`. -/
def rdcFiGpuMmDecUtil : Nat := 504

/-- `RDC_FI_GPU_MEMORY_ACTIVITY`. -/
def rdcFiGpuMemoryActivity : Nat := 505

/-- `RDC_FI_ECC_FIRST`. -/
def rdcFiEccFirst : Nat := 602

/-- `RDC_FI_ECC_LAST`. -/
def rdcFiEccLast : Nat := 639

/-- `RDC_FI_XGMI_0_READ_KB`, the first of eight. -/
def rdcFiXgmi0ReadKb : Nat := 700

/-- `RDC_FI_XGMI_0_WRITE_KB`, the first of eight. -/
def rdcFiXgmi0WriteKb : Nat := 708

/-- `RDC_FI_XGMI_TOTAL_READ_KB`. -/
def rdcFiXgmiTotalReadKb : Nat := 716

/-- `RDC_FI_XGMI_TOTAL_WRITE_KB`. -/
def rdcFiXgmiTotalWriteKb : Nat := 717

/-- `RDC_EVNT_XGMI_0_NOP_TX`, the first of eight counter events. -/
def rdcEvntXgmi0NopTx : Nat := 1000

/-- `RDC_EVNT_XGMI_0_THRPUT`, the first of six throughputs. -/
def rdcEvntXgmi0Thrput : Nat := 1500

/-- `amdsmi_event_group_t`. -/
inductive AmdsmiEventGroup where
  | xgmi
  | xgmiDataOut
  deriving DecidableEq

/-- The counter group of a field: the switch of `acquire_smi_handle`, which is also that of
`delete_smi_handle`. -/
def eventGroup (field : Nat) : Option AmdsmiEventGroup :=
  if rdcEvntXgmi0NopTx ≤ field ∧ field < rdcEvntXgmi0NopTx + 8 then some .xgmi
  else if rdcEvntXgmi0Thrput ≤ field ∧ field < rdcEvntXgmi0Thrput + 6 then some .xgmiDataOut
  else none

/-! ## State -/

/-- `amdsmi_counter_value_t`. -/
structure AmdsmiCounterValue where
  value : Nat
  timeEnabled : Nat
  timeRunning : Nat
  deriving DecidableEq, Inhabited

/-- `FieldSMIData`. -/
structure FieldSMIData where
  evtHandle : Nat
  counterVal : AmdsmiCounterValue
  deriving DecidableEq

/-- `MetricValue`. -/
structure MetricValue where
  cacheTtl : Nat
  lastTime : Nat
  value : RdcFieldValue
  deriving DecidableEq

/-- `RdcMetricFetcherImpl`, with the counters of the library. Every task in the queue is a
`get_pcie_throughput`, so a task is its key. -/
structure MetricFetcher where
  asyncMetrics : KeyMap MetricValue
  smiData : KeyMap FieldSMIData
  updatedTasks : List RdcFieldKey
  counters : Lease.Book RdcFieldKey
  deriving DecidableEq

namespace MetricFetcher

/-- The constructor. -/
def init : MetricFetcher := ⟨∅, ∅, [], Lease.Book.empty⟩

/-! ## Counters -/

end MetricFetcher

/-- What the library and the kernel answer to the calls made for one counter. -/
structure CounterAnswers where
  /-- `amdsmi_gpu_counter_group_supported`. -/
  groupSupported : AmdsmiStatus
  /-- `amdsmi_get_gpu_available_counters`, with the number it writes. -/
  availableCounters : AmdsmiStatus × Nat
  /-- Acquiring `CAP_DAC_OVERRIDE`. -/
  acquired : Bool
  /-- `amdsmi_gpu_create_counter`. -/
  create : AmdsmiStatus
  /-- `amdsmi_gpu_control_counter` with `AMDSMI_CNTR_CMD_START`. -/
  start : AmdsmiStatus
  /-- Giving the capability back. -/
  relinquished : Bool
  /-- `amdsmi_gpu_control_counter` with `AMDSMI_CNTR_CMD_STOP`. -/
  stop : AmdsmiStatus
  /-- `amdsmi_gpu_destroy_counter`. -/
  destroy : AmdsmiStatus
  deriving DecidableEq

/-- Every call succeeds, and a counter is available. -/
def CounterAnswers.granted : CounterAnswers where
  groupSupported := AmdsmiStatus.success
  availableCounters := (AmdsmiStatus.success, 1)
  acquired := true
  create := AmdsmiStatus.success
  start := AmdsmiStatus.success
  relinquished := true
  stop := AmdsmiStatus.success
  destroy := AmdsmiStatus.success

namespace MetricFetcher

/-- `init_smi_counter`: the status, the handle if one was written, and the counters. -/
def initSmiCounter (a : CounterAnswers) (counters : Lease.Book RdcFieldKey) (fk : RdcFieldKey) :
    Status × Option Nat × Lease.Book RdcFieldKey :=
  if a.groupSupported ≠ AmdsmiStatus.success then (smi2RdcError a.groupSupported, none, counters)
  else if a.availableCounters.1 ≠ AmdsmiStatus.success then
    (smi2RdcError a.availableCounters.1, none, counters)
  else if a.availableCounters.2 = 0 then (.insuffResources, none, counters)
  else if a.acquired = false then (.permError, none, counters)
  else if a.create ≠ AmdsmiStatus.success then (smi2RdcError a.create, none, counters)
  else
    -- the counter exists from here on, whatever else happens
    let handle := counters.next
    if a.relinquished = false then (.permError, some handle, counters.issue fk)
    else (smi2RdcError a.start, some handle, counters.issue fk)

/-- `acquire_smi_handle`. A field without a counter group needs no handle. -/
def acquireSmiHandle (m : MetricFetcher) (a : CounterAnswers) (fk : RdcFieldKey) :
    Status × MetricFetcher :=
  if eventGroup fk.2 = none then (.ok, m)
  else if fk ∈ m.smiData then (.alreadyExist, m)
  else
    match initSmiCounter a m.counters fk with
    | (.ok, some handle, counters) =>
      (.ok, { m with
        smiData := m.smiData.insert fk ⟨handle, ⟨0, 0, 0⟩⟩
        counters := counters })
    | (result, _, counters) => (result, { m with counters := counters })

/-- `delete_smi_handle`. The handle is forgotten even if the counter could not be stopped. -/
def deleteSmiHandle (m : MetricFetcher) (a : CounterAnswers) (fk : RdcFieldKey) :
    Status × MetricFetcher :=
  if eventGroup fk.2 = none then (.notSupported, m)
  else
    match m.smiData[fk]? with
    | none => (.notSupported, m)
    | some data =>
      if a.stop ≠ AmdsmiStatus.success then
        (smi2RdcError a.stop, { m with smiData := m.smiData.erase fk })
      else
        (smi2RdcError a.destroy, { m with
          smiData := m.smiData.erase fk
          counters := m.counters.takeBack data.evtHandle })

end MetricFetcher

/-- A call about a counter. -/
inductive CounterOp where
  | acquire (fk : RdcFieldKey) (answers : CounterAnswers)
  | delete (fk : RdcFieldKey) (answers : CounterAnswers)

/-- Execute one such call. -/
def MetricFetcher.execCounter (m : MetricFetcher) : CounterOp → Status × MetricFetcher
  | .acquire fk answers => m.acquireSmiHandle answers fk
  | .delete fk answers => m.deleteSmiHandle answers fk

/-! ## What a fetch reads -/

/-- `amdsmi_gpu_block_t`, in the order of its bits. -/
inductive AmdsmiGpuBlock where
  | invalid
  | umc
  | sdma
  | gfx
  | mmhub
  | athub
  | pcieBif
  | hdp
  | xgmiWafl
  | df
  | smn
  | sem
  | mp0
  | mp1
  | fuse
  | mca
  | vcn
  | jpeg
  | ih
  | mpio
  deriving DecidableEq

/-- The blocks from `AMDSMI_GPU_BLOCK_FIRST` to `AMDSMI_GPU_BLOCK_LAST`. -/
def AmdsmiGpuBlock.all : List AmdsmiGpuBlock :=
  [.umc, .sdma, .gfx, .mmhub, .athub, .pcieBif, .hdp, .xgmiWafl, .df, .smn, .sem, .mp0, .mp1, .fuse,
    .mca, .vcn, .jpeg, .ih, .mpio]

/-- `amdsmi_clk_type_t`: the two clocks that are read. -/
inductive AmdsmiClkType where
  | sys
  | mem
  deriving DecidableEq

/-- `amdsmi_temperature_type_t`: the three sensors that are read. -/
inductive AmdsmiTemperatureType where
  | edge
  | vram
  | junction
  deriving DecidableEq

/-- `amdsmi_gpu_metrics_t`: the members that are read. -/
structure AmdsmiGpuMetrics where
  currentGfxclk : Nat
  temperatureMem : Nat
  temperatureEdge : Nat
  averageSocketPower : Nat
  currentSocketPower : Nat
  averageGfxActivity : Nat
  xgmiReadDataAcc : Vector Nat 8
  xgmiWriteDataAcc : Vector Nat 8
  pcieBandwidthInst : Nat
  deriving Inhabited

/-- What the clock and the library answer while one field is fetched: for each call its status, and
what it writes. -/
structure SmiReadings where
  /-- `get_processor_handle_from_id`. -/
  handle : AmdsmiStatus
  /-- The reading that becomes the timestamp. -/
  now : Nat
  memoryUsage : AmdsmiStatus × Nat
  memoryTotal : AmdsmiStatus × Nat
  /-- `amdsmi_get_gpu_activity`: `gfx_activity` and `umc_activity`. -/
  activity : AmdsmiStatus × Nat × Nat
  processorCount : AmdsmiStatus × Nat
  /-- `amdsmi_get_power_info`: average and current socket power. -/
  powerInfo : AmdsmiStatus × Nat × Nat
  /-- `amdsmi_get_clk_freq`: the frequency that is current. -/
  clkFreq : AmdsmiClkType → AmdsmiStatus × Nat
  /-- `amdsmi_get_gpu_asic_info`: `market_name` and `oam_id`. -/
  asicInfo : AmdsmiStatus × List UInt8 × Nat
  tempMetric : AmdsmiTemperatureType → AmdsmiStatus × Int
  /-- `amdsmi_get_utilization_count` for the decoder. -/
  utilizationCount : AmdsmiStatus × Nat
  eccStatus : AmdsmiGpuBlock → AmdsmiStatus
  /-- `amdsmi_get_gpu_ecc_count`: correctable and uncorrectable errors. -/
  eccCount : AmdsmiGpuBlock → AmdsmiStatus × Nat × Nat
  gpuMetrics : AmdsmiStatus × AmdsmiGpuMetrics
  /-- `amdsmi_gpu_read_counter`, which may fail without writing. -/
  readCounter : AmdsmiStatus × Option AmdsmiCounterValue
  /-- The reading the PCIe cache is compared with. -/
  asyncNow : Nat
  deriving Inhabited

/-- What one branch of the switch writes into the value: always a status, sometimes a type and a
value, and the result of the call if the branch returns on its own. -/
structure FieldWrites where
  status : AmdsmiStatus
  type : Option RdcFieldType
  value : Option RdcFieldValueData
  result : Option Status
  deriving DecidableEq

namespace FieldWrites

/-- A branch that leaves only a status. -/
def statusOnly (status : AmdsmiStatus) : FieldWrites := ⟨status, none, none, none⟩

/-- The usual branch: an integer, if the call that reads it succeeds. -/
def integer (status : AmdsmiStatus) (value : Int) : FieldWrites :=
  ⟨status, some .integer, if status = AmdsmiStatus.success then some (.lInt value) else none, none⟩

/-- A branch that gives up with `RDC_ST_NO_DATA`. -/
def noData (type : Option RdcFieldType) : FieldWrites :=
  ⟨AmdsmiStatus.notSupported, type, none, some .noData⟩

/-- The value after the writes. -/
def applyTo (w : FieldWrites) (value : RdcFieldValue) : RdcFieldValue :=
  { value with
    status := w.status
    type := w.type.getD value.type
    value := w.value.getD value.value }

/-- What the call returns. -/
def returned (w : FieldWrites) : Status :=
  w.result.getD (if w.status = AmdsmiStatus.success then .ok else .msiError)

end FieldWrites

namespace SmiReadings

/-- The block an ECC field counts the errors of. -/
def fieldToBlock (field : Nat) : AmdsmiGpuBlock :=
  if field < rdcFiEccFirst then .invalid
  else
    [AmdsmiGpuBlock.sdma, .gfx, .mmhub, .athub, .pcieBif, .hdp, .xgmiWafl, .df, .smn, .sem, .mp0,
      .mp1, .fuse, .umc, .mca, .vcn, .jpeg, .ih, .mpio].getD ((field - rdcFiEccFirst) / 2) .invalid

/-- `get_ecc`. Correctable errors have the even ids. -/
def getEcc (a : SmiReadings) (field : Nat) : FieldWrites :=
  let block := fieldToBlock field
  if a.eccStatus block ≠ AmdsmiStatus.success then .statusOnly (a.eccStatus block)
  else
    let (err, correctable, uncorrectable) := a.eccCount block
    if err ≠ AmdsmiStatus.success then .statusOnly err
    else .integer AmdsmiStatus.success
      (asInt64 (if field % 2 = 0 then correctable else uncorrectable))

/-- The loop of `get_ecc_total`: a block that cannot be read is left out. -/
def eccTotals (a : SmiReadings) : Nat × Nat :=
  AmdsmiGpuBlock.all.foldl
    (fun total block =>
      if a.eccStatus block ≠ AmdsmiStatus.success then total
      else
        let (err, correctable, uncorrectable) := a.eccCount block
        if err = AmdsmiStatus.success then
          (u64Add total.1 correctable, u64Add total.2 uncorrectable)
        else total)
    (0, 0)

/-- `get_ecc_total`. -/
def getEccTotal (a : SmiReadings) (field : Nat) : FieldWrites :=
  .integer AmdsmiStatus.success
    (asInt64 (if field = rdcFiEccCorrectTotal then a.eccTotals.1 else a.eccTotals.2))

/-- The largest `uint64_t`, by which the metrics say that they have no value. -/
def notSupportedMetricsData : Nat := 2 ^ 64 - 1

/-- `sum_xgmi_read` and `sum_xgmi_write`. -/
def sumXgmi (acc : Vector Nat 8) : Nat :=
  let total := acc.toList.foldl
    (fun total data => if data = notSupportedMetricsData then total else u64Add total data) 0
  if total = 0 then notSupportedMetricsData else total

/-- `rdc_field_to_gpu_metrics`. -/
def fieldToGpuMetrics (metrics : AmdsmiGpuMetrics) (field : Nat) : Option Nat :=
  if field = rdcFiXgmiTotalReadKb then some (sumXgmi metrics.xgmiReadDataAcc)
  else if field = rdcFiXgmiTotalWriteKb then some (sumXgmi metrics.xgmiWriteDataAcc)
  else if field = rdcFiPcieBandwidth then some metrics.pcieBandwidthInst
  else if rdcFiXgmi0ReadKb ≤ field ∧ field < rdcFiXgmi0WriteKb then
    metrics.xgmiReadDataAcc[field - rdcFiXgmi0ReadKb]?
  else if rdcFiXgmi0WriteKb ≤ field ∧ field < rdcFiXgmiTotalReadKb then
    metrics.xgmiWriteDataAcc[field - rdcFiXgmi0WriteKb]?
  else none

/-- `read_gpu_metrics_uint64_t`. -/
def readGpuMetrics (a : SmiReadings) (field : Nat) : FieldWrites :=
  let (status, metrics) := a.gpuMetrics
  if status ≠ AmdsmiStatus.success then .statusOnly status
  else
    match fieldToGpuMetrics metrics field with
    | none => .statusOnly AmdsmiStatus.notSupported
    | some data =>
      if data = notSupportedMetricsData then .statusOnly AmdsmiStatus.notSupported
      else .integer status (asInt64 data)

/-- The branch of `RDC_FI_POWER_USAGE`: the average, or else the current power, in microwatts. -/
def readPower (a : SmiReadings) : FieldWrites :=
  let (status, average, current) := a.powerInfo
  if status ≠ AmdsmiStatus.success then .integer status 0
  else if average ≠ 65535 then .integer status (average * 1000 * 1000)
  else if current ≠ 65535 then .integer status (current * 1000 * 1000)
  else .noData (some .integer)

/-- The branch of the two temperatures. A card without an edge sensor is read at its hotspot. -/
def readTemp (a : SmiReadings) (field : Nat) : FieldWrites :=
  let sensor : AmdsmiTemperatureType := if field = rdcFiMemoryTemp then .vram else .edge
  let reading := a.tempMetric sensor
  let reading :=
    if sensor = .edge ∧ reading.1 = AmdsmiStatus.notSupported then a.tempMetric .junction
    else reading
  .integer reading.1 (reading.2 * 1000)

/-- The branch of `RDC_FI_DEV_NAME`. -/
def readDevName (a : SmiReadings) : FieldWrites :=
  let (status, marketName, _) := a.asicInfo
  ⟨status, some .string, if status = AmdsmiStatus.success then some (.str marketName) else none,
    none⟩

/-- The branch of `RDC_FI_OAM_ID`, where `0xFFFF` stands for no id. -/
def readOamId (a : SmiReadings) : FieldWrites :=
  let (status, _, oamId) := a.asicInfo
  if status = AmdsmiStatus.success ∧ oamId = 0xFFFF then .integer AmdsmiStatus.notSupported 0
  else .integer status oamId

/-- The branches of the switch that need no state. -/
def readField (a : SmiReadings) (field : Nat) : FieldWrites :=
  if field = rdcFiGpuMemoryUsage then .integer a.memoryUsage.1 (asInt64 a.memoryUsage.2)
  else if field = rdcFiGpuMemoryTotal then .integer a.memoryTotal.1 (asInt64 a.memoryTotal.2)
  else if field = rdcFiGpuMemoryActivity then .integer a.activity.1 a.activity.2.2
  else if field = rdcFiGpuCount then .integer a.processorCount.1 a.processorCount.2
  else if field = rdcFiPowerUsage then a.readPower
  else if field = rdcFiGpuClock then .integer (a.clkFreq .sys).1 (asInt64 (a.clkFreq .sys).2)
  else if field = rdcFiMemClock then .integer (a.clkFreq .mem).1 (asInt64 (a.clkFreq .mem).2)
  else if field = rdcFiGpuUtil then .integer a.activity.1 a.activity.2.1
  else if field = rdcFiDevName then a.readDevName
  else if field = rdcFiGpuTemp ∨ field = rdcFiMemoryTemp then a.readTemp field
  else if field = rdcFiOamId then a.readOamId
  else if field = rdcFiGpuMmEncUtil then .noData none
  else if field = rdcFiGpuMmDecUtil then
    .integer a.utilizationCount.1 (asInt64 a.utilizationCount.2)
  else if field = rdcFiEccCorrectTotal ∨ field = rdcFiEccUncorrectTotal then a.getEccTotal field
  else if rdcFiEccFirst ≤ field ∧ field ≤ rdcFiEccLast then a.getEcc field
  else if rdcFiXgmi0ReadKb ≤ field ∧ field ≤ rdcFiXgmiTotalWriteKb ∨ field = rdcFiPcieBandwidth then
    a.readGpuMetrics field
  else .statusOnly AmdsmiStatus.notSupported

end SmiReadings

namespace MetricFetcher

/-! ## The PCIe cache -/

/-- `cache_ttl`, in milliseconds. -/
def pcieCacheTtl : Nat := 30 * 1000

/-- The entry has not expired. -/
def unexpired (m : MetricFetcher) (key : RdcFieldKey) (now : Nat) : Option MetricValue :=
  m.asyncMetrics[key]?.filter fun metric => now < u64Add metric.lastTime metric.cacheTtl

/-- `async_get_pcie_throughput`: what is cached, or nothing and a task for the worker. -/
def asyncGetPcieThroughput (m : MetricFetcher) (key : RdcFieldKey) (now : Nat) :
    Option MetricValue × MetricFetcher :=
  match m.unexpired key now with
  | some metric => (some metric, m)
  | none => (none, { m with updatedTasks := m.updatedTasks ++ [key] })

/-- What the call of the worker does to one of the two entries. A failed one keeps the value. -/
def updateMetric (curTime : Nat) (ret : AmdsmiStatus) (bytes : Nat) (metric : MetricValue) :
    MetricValue :=
  { metric with
    lastTime := curTime
    value :=
      { metric.value with
        status := ret
        ts := curTime
        value :=
          if ret = AmdsmiStatus.success then .lInt (asInt64 bytes) else metric.value.value } }

/-- A new entry. `uninit` is what the local `value` happens to hold. -/
def newMetric (uninit : MetricValue) (field : Nat) : MetricValue :=
  { uninit with
    cacheTtl := pcieCacheTtl
    value := { uninit.value with type := .integer, fieldId := field } }

/-- The last section of `get_pcie_throughput`: both entries of the GPU, whichever was asked for. -/
def storePcieThroughput (m : MetricFetcher) (gpu : Nat) (ret : AmdsmiStatus)
    (sent received curTime : Nat) (uninit : MetricValue) : MetricFetcher :=
  { m with
    asyncMetrics :=
      (((m.asyncMetrics.insertIfNew (gpu, rdcFiPcieTx) (newMetric uninit rdcFiPcieTx)).insertIfNew
        (gpu, rdcFiPcieRx) (newMetric uninit rdcFiPcieRx)).modify
        (gpu, rdcFiPcieTx) (updateMetric curTime ret sent)).modify
        (gpu, rdcFiPcieRx) (updateMetric curTime ret received) }

/-! ## Fetching a field -/

/-- The PCIe branch. While the worker is busy the status stays as it was set before the switch. -/
def readPcie (m : MetricFetcher) (a : SmiReadings) (key : RdcFieldKey) :
    FieldWrites × MetricFetcher :=
  match m.asyncGetPcieThroughput key a.asyncNow with
  | (some metric, m') =>
    (⟨metric.value.status, some metric.value.type, some metric.value.value, none⟩, m')
  | (none, m') => (.statusOnly AmdsmiStatus.notSupported, m')

/-- Beats of 32 bytes in `timeRunning` nanoseconds, as bytes in a second. The code divides by
`time_running / 10^9` in double precision; here the quotient is exact and rounded once, and can
differ from the code's in the last digits. -/
def throughput (counter : AmdsmiCounterValue) : Int :=
  if 0 < counter.timeRunning then
    (asInt64 counter.value * 32 * 1000000000).tdiv counter.timeRunning
  else 0

/-- `read_smi_counter`, and for a throughput what follows it. The value is written even if the
counter could not be read. -/
def readSmiCounter (m : MetricFetcher) (a : SmiReadings) (key : RdcFieldKey)
    (group : AmdsmiEventGroup) : FieldWrites × MetricFetcher :=
  match m.smiData[key]? with
  | none => (.statusOnly AmdsmiStatus.notSupported, m)
  | some data =>
    let counter := a.readCounter.2.getD data.counterVal
    let value :=
      if group = .xgmiDataOut ∧ a.readCounter.1 = AmdsmiStatus.success then throughput counter
      else asInt64 counter.value
    (⟨a.readCounter.1, some .integer, some (.lInt value), none⟩,
      { m with smiData := m.smiData.insert key { data with counterVal := counter } })

/-- The switch of `fetch_smi_field`. -/
def readAny (m : MetricFetcher) (a : SmiReadings) (key : RdcFieldKey) :
    FieldWrites × MetricFetcher :=
  if key.2 = rdcFiPcieTx ∨ key.2 = rdcFiPcieRx then m.readPcie a key
  else
    match eventGroup key.2 with
    | some group => m.readSmiCounter a key group
    | none => (a.readField key.2, m)

/-- `fetch_smi_field`. It returns before it has labelled the value if the GPU cannot be resolved or
the field is unknown. -/
def fetchSmiField (m : MetricFetcher) (a : SmiReadings) (key : RdcFieldKey)
    (value : RdcFieldValue) : Status × RdcFieldValue × MetricFetcher :=
  if a.handle ≠ AmdsmiStatus.success then (smi2RdcError a.handle, value, m)
  else if isFieldValid key.2 = false then (.notSupported, value, m)
  else
    let (writes, m') := m.readAny a key
    (writes.returned, writes.applyTo { value with ts := a.now, fieldId := key.2 }, m')

/-! ## Fetching in bulk -/

/-- `rdc_bulk_fields`. -/
def rdcBulkFields : List Nat :=
  [rdcFiGpuClock, rdcFiMemoryTemp, rdcFiGpuTemp, rdcFiPowerUsage, rdcFiGpuUtil]

/-- The value of a bulk field; a power of zero is left to the regular way. -/
def bulkData (metrics : AmdsmiGpuMetrics) (field : Nat) : Option Int :=
  if field = rdcFiGpuClock then some (metrics.currentGfxclk * 1000000)
  else if field = rdcFiMemoryTemp then some (metrics.temperatureMem * 1000)
  else if field = rdcFiGpuTemp then some (metrics.temperatureEdge * 1000)
  else if field = rdcFiPowerUsage then
    let power :=
      if metrics.averageSocketPower = 65535 then metrics.currentSocketPower
      else metrics.averageSocketPower
    if power = 0 then none else some (power * 1000000)
  else if field = rdcFiGpuUtil then some metrics.averageGfxActivity
  else none

/-- The results for one GPU. -/
def bulkResults (now gpu : Nat) (metrics : AmdsmiGpuMetrics) (fields : List Nat) :
    List RdcGpuFieldValue :=
  fields.filterMap fun field => (bulkData metrics field).map fun data =>
    { gpuIndex := gpu
      fieldValue :=
        { fieldId := field
          status := AmdsmiStatus.success
          ts := now
          type := .integer
          value := .lInt data } }

/-- The loop over the GPUs: the last status, and what has been collected. A failure drops
everything. -/
def bulkLoop (now : Nat) (metrics : Nat → AmdsmiStatus × AmdsmiGpuMetrics) :
    List (Nat × List Nat) → List RdcGpuFieldValue → AmdsmiStatus × List RdcGpuFieldValue
  | [], results => (AmdsmiStatus.success, results)
  | (gpu, fields) :: rest, results =>
    let (rs, gpuMetrics) := metrics gpu
    if rs ≠ AmdsmiStatus.success then (rs, [])
    else bulkLoop now metrics rest (results ++ bulkResults now gpu gpuMetrics fields)

/-- The bulk fields of a request, by GPU. -/
def bulkFields (fields : List RdcFieldKey) : IdMap (List Nat) :=
  (fields.filter fun key => rdcBulkFields.contains key.2).foldl
    (fun m key => m.alter key.1 fun fields => some (fields.getD [] ++ [key.2])) ∅

/-- `bulk_fetch_smi_fields`. `rs` is the static variable that remembers the last try. -/
def bulkFetchSmiFields (rs : AmdsmiStatus) (now : Nat)
    (metrics : Nat → AmdsmiStatus × AmdsmiGpuMetrics) (fields : List RdcFieldKey) :
    AmdsmiStatus × List RdcGpuFieldValue :=
  if rs ≠ AmdsmiStatus.success then (rs, [])
  else bulkLoop now metrics (bulkFields fields).toList []

end MetricFetcher

end Rdc
