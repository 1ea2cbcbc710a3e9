import Rdc.System
import Rdc.Notification
import Rdc.Handler
import Rdc.PcieCache
import Rdc.Lib.Locks

/-!
# The calls with all their locks

In `WatchTable` a call is a function of the daemon's state, or a program of sections. Here the same
calls are written with every `lock_guard` they execute, also those inside another one: under
`watch_mutex_` the watch table asks the group store, the notification module, the cache and the
fetcher, and each of these has a mutex of its own. What a mutex guards is one part of the state
(`Data`), and all a call can do is look at a part.

The calls are those of the embedded handler, together with one turn of each of the threads the
daemon has: the updater calls `rdc_field_update_all`, the notification thread
`rdc_field_listen_notif`, and the worker of the fetcher takes a task from its queue. The hardware
library and the profiler have no mutex and are arguments, as before.

Only members that a mutex guards are here. `rdc_field_update_all(0)` assigns `updater_`, and
`get_diagnostic_module` makes its module at the first diagnostic run, both without a lock; that call
and the diagnostic runs are left out.
-/

namespace Rdc

open Std Locks
open Locks.Proc (read modify update guarded)

/-! ## Mutexes and what they guard -/

/-- The mutexes of the daemon. -/
inductive Mutex where
  /-- `RdcWatchTableImpl::watch_mutex_`. -/
  | watch
  /-- `RdcGroupSettingsImpl::group_mutex_`. -/
  | group
  /-- `RdcGroupSettingsImpl::field_group_mutex_`. -/
  | fieldGroup
  /-- `RdcNotificationImpl::notif_mutex_`. -/
  | notif
  /-- `RdcCacheManagerImpl::cache_mutex_`. -/
  | cache
  /-- `RdcMetricFetcherImpl::task_mutex_`. -/
  | task
  deriving DecidableEq

/-- What `watch_mutex_` guards. The calls to the modules are made under it, so their log is here. -/
structure WatchData where
  watchTable : KeyMap FieldSettings
  jobWatchTable : JobMap JobWatchTableEntry
  fieldsToWatch : KeyMap FieldSettings
  lastCleanupTime : Nat
  moduleCalls : List ModuleCall

/-- What `group_mutex_` guards. -/
structure GpuGroupData where
  gpuGroup : IdMap RdcGroupInfo
  curGroupId : Nat

/-- What `field_group_mutex_` guards. -/
structure FieldGroupData where
  fieldGroup : IdMap RdcFieldGroupInfo
  curFieldGroupId : Nat

/-- What `task_mutex_` guards. -/
structure TaskData where
  asyncMetrics : KeyMap MetricValue
  updatedTasks : List RdcFieldKey

/-- The part of the state under each mutex. -/
abbrev Data : Mutex → Type
  | .watch => WatchData
  | .group => GpuGroupData
  | .fieldGroup => FieldGroupData
  | .notif => IdMap Nat
  | .cache => CacheManager
  | .task => TaskData

/-- The store as far as a call under `group_mutex_` sees it. -/
def GpuGroupData.store (g : GpuGroupData) : GroupSettings := ⟨g.gpuGroup, ∅, g.curGroupId, 0⟩

/-- The store as far as a call under `field_group_mutex_` sees it. -/
def FieldGroupData.store (f : FieldGroupData) : GroupSettings :=
  ⟨∅, f.fieldGroup, 0, f.curFieldGroupId⟩

/-- The half under `group_mutex_`. -/
def GroupSettings.gpuData (gs : GroupSettings) : GpuGroupData := ⟨gs.gpuGroup, gs.curGroupId⟩

/-- The half under `field_group_mutex_`. -/
def GroupSettings.fieldData (gs : GroupSettings) : FieldGroupData :=
  ⟨gs.fieldGroup, gs.curFieldGroupId⟩

/-- The fetcher as far as `task_mutex_` is concerned. -/
def TaskData.fetcher (t : TaskData) : MetricFetcher :=
  { MetricFetcher.init with asyncMetrics := t.asyncMetrics, updatedTasks := t.updatedTasks }

/-- The part of the fetcher under `task_mutex_`. -/
def MetricFetcher.taskData (m : MetricFetcher) : TaskData := ⟨m.asyncMetrics, m.updatedTasks⟩

/-- The daemon that the parts make up. -/
def Daemon.ofData (m : ∀ l, Data l) : Daemon where
  groupSettings :=
    ⟨(m .group).gpuGroup, (m .fieldGroup).fieldGroup, (m .group).curGroupId,
      (m .fieldGroup).curFieldGroupId⟩
  cacheMgr := m .cache
  watchTable := (m .watch).watchTable
  jobWatchTable := (m .watch).jobWatchTable
  fieldsToWatch := (m .watch).fieldsToWatch
  lastCleanupTime := (m .watch).lastCleanupTime
  moduleCalls := (m .watch).moduleCalls

namespace Locked

/-! ## The group store -/

/-- `RdcGroupSettingsImpl::rdc_group_gpu_create`. -/
def rdcGroupGpuCreate (groupName : List UInt8) : Proc Data (Status × Option Nat) :=
  guarded .group (update .group fun g =>
    let r := g.store.rdcGroupGpuCreate groupName
    ((r.1, r.2.1), r.2.2.gpuData))

/-- `RdcGroupSettingsImpl::rdc_group_gpu_destroy`. -/
def rdcGroupGpuDestroy (groupId : Nat) : Proc Data Status :=
  guarded .group (update .group fun g =>
    let r := g.store.rdcGroupGpuDestroy groupId
    (r.1, r.2.gpuData))

/-- `RdcGroupSettingsImpl::rdc_group_gpu_add`. -/
def rdcGroupGpuAdd (groupId gpuIndex : Nat) : Proc Data Status :=
  guarded .group (update .group fun g =>
    let r := g.store.rdcGroupGpuAdd groupId gpuIndex
    (r.1, r.2.gpuData))

/-- `RdcGroupSettingsImpl::rdc_group_gpu_get_info`. -/
def rdcGroupGpuGetInfo (groupId : Nat) : Proc Data (Except Status RdcGroupInfo) :=
  guarded .group (read .group fun g => g.store.rdcGroupGpuGetInfo groupId)

/-- `RdcGroupSettingsImpl::rdc_group_get_all_ids`. -/
def rdcGroupGetAllIds : Proc Data (Status × List Nat) :=
  guarded .group (read .group fun g => g.store.rdcGroupGetAllIds)

/-- `RdcGroupSettingsImpl::rdc_group_field_create`. The length is tested before the lock is taken.
-/
def rdcGroupFieldCreate (fieldIds : List Nat) (fieldGroupName : List UInt8) :
    Proc Data (Status × Option Nat) :=
  if fieldIds.length ≤ rdcMaxFieldIdsPerFieldGroup then
    guarded .fieldGroup (update .fieldGroup fun f =>
      let r := f.store.rdcGroupFieldCreate fieldIds fieldGroupName
      ((r.1, r.2.1), r.2.2.fieldData))
  else return (.maxLimit, none)

/-- `RdcGroupSettingsImpl::rdc_group_field_destroy`. The group of the jobs is kept without a look at
the table. -/
def rdcGroupFieldDestroy (fieldGroupId : Nat) : Proc Data Status :=
  if fieldGroupId = jobFieldId then return .badParameter
  else
    guarded .fieldGroup (update .fieldGroup fun f =>
      let r := f.store.rdcGroupFieldDestroy fieldGroupId
      (r.1, r.2.fieldData))

/-- `RdcGroupSettingsImpl::rdc_group_field_get_info`. -/
def rdcGroupFieldGetInfo (fieldGroupId : Nat) : Proc Data (Except Status RdcFieldGroupInfo) :=
  guarded .fieldGroup (read .fieldGroup fun f => f.store.rdcGroupFieldGetInfo fieldGroupId)

/-- `RdcGroupSettingsImpl::rdc_group_field_get_all_ids`. -/
def rdcGroupFieldGetAllIds : Proc Data (Status × List Nat) :=
  guarded .fieldGroup (read .fieldGroup fun f => f.store.rdcGroupFieldGetAllIds)

/-- `RdcWatchTableImpl::get_fields_from_group`. The two groups are looked up under two locks. -/
def getFieldsFromGroup (groupId fieldGroupId : Nat) :
    Proc Data (Except Status (List RdcFieldKey)) := do
  match ← rdcGroupGpuGetInfo groupId with
  | .error result => return .error result
  | .ok ginfo =>
    match ← rdcGroupFieldGetInfo fieldGroupId with
    | .error result => return .error result
    | .ok finfo => return .ok (GroupSettings.expandGroups ginfo finfo)

/-! ## Groups through the handler -/

/-- `RdcEmbeddedHandler::rdc_group_gpu_add`. -/
def handlerGroupGpuAdd (deviceCount groupId gpuIndex : Nat) (query : Option Failure) :
    Proc Data Status :=
  match EmbeddedHandler.rdcDeviceGetAll deviceCount query with
  | .error status => return status
  | .ok gpuIndexList =>
    if gpuIndexList.contains gpuIndex then rdcGroupGpuAdd groupId gpuIndex else return .notFound

/-- The loop of `RdcEmbeddedHandler::rdc_group_gpu_create`. -/
def addAll (deviceCount groupId : Nat) (queries : Nat → Option Failure) :
    List Nat → Status → Proc Data Status
  | [], status => return status
  | gpu :: gpus, _ => do
      let status ← handlerGroupGpuAdd deviceCount groupId gpu (queries (gpu + 1))
      addAll deviceCount groupId queries gpus status

/-- `RdcEmbeddedHandler::rdc_group_gpu_create`. -/
def handlerGroupGpuCreate (deviceCount : Nat) (type : RdcGroupType) (groupName : List UInt8)
    (queries : Nat → Option Failure) : Proc Data (Status × Option Nat) := do
  match ← rdcGroupGpuCreate groupName with
  | (status, none) => return (status, none)
  | (status, some groupId) =>
    if status ≠ .ok ∨ type = .empty then return (status, some groupId)
    else
      match EmbeddedHandler.rdcDeviceGetAll deviceCount (queries 0) with
      | .error status => return (status, some groupId)
      | .ok gpuIndexList =>
        let status ← addAll deviceCount groupId queries gpuIndexList .ok
        return (status, some groupId)

/-- `RdcEmbeddedHandler::rdc_group_field_create`. -/
def handlerGroupFieldCreate (fieldIds : List Nat) (fieldGroupName : List UInt8) :
    Proc Data (Status × Option Nat) :=
  if fieldIds.length ≤ rdcMaxFieldIdsPerFieldGroup then
    if fieldIds.all isFieldValid then rdcGroupFieldCreate fieldIds fieldGroupName
    else return (.notSupported, none)
  else return (.maxLimit, none)

/-! ## Watching -/

/-- `set_listen_events`, as far as `gpu_evnt_notif_masks_` is concerned. -/
def setListenEvents (answers : SmiAnswers) (fields : List RdcFieldKey) : Proc Data Unit :=
  guarded .notif (modify .notif fun masks =>
    (Notification.setListenEvents answers ⟨masks, ∅⟩ fields).2.gpuEvntNotifMasks)

/-- `stop_listening`. The lock is taken for the table only, after the calls to the library. -/
def stopListening (answers : SmiAnswers) (gpu : Nat) : Proc Data Unit :=
  if (answers.handle gpu).isNone ∧ answers.stopped gpu then
    guarded .notif (modify .notif fun masks => masks.insert gpu 0)
  else return ()

/-- The part of `rdc_field_watch` after the lookup in `watch_table_`. -/
def watchNew (tel : Telemetry) (answers : SmiAnswers) (gkey : RdcFieldGroupKey)
    (f : FieldSettings) : Proc Data Status := do
  match ← getFieldsFromGroup gkey.1 gkey.2 with
  | .error result => return result
  | .ok fieldsInWatch =>
    setListenEvents answers fieldsInWatch
    modify .watch fun w =>
      let supported := fieldsInWatch.filter fun key => tel.supports key.2
      let fieldsToWatch := supported.foldl (fun m key => m.alter key (Daemon.mergeSettings f))
        w.fieldsToWatch
      let watching := (fieldsToWatch.filter fun _ settings => settings.isWatching).keys
      { w with
        fieldsToWatch := fieldsToWatch
        watchTable := w.watchTable.insertIfNew gkey f
        moduleCalls := w.moduleCalls ++ [.setListenEvents fieldsInWatch, .fieldsWatch watching] }
    return .ok

/-- `rdc_field_watch`. -/
def rdcFieldWatch (tel : Telemetry) (answers : SmiAnswers) (groupId fieldGroupId updateFreq : Nat)
    (maxKeepAge : ℚ) (maxKeepSamples : Nat) : Proc Data Status :=
  guarded .watch do
    let gkey := (groupId, fieldGroupId)
    let f := Daemon.watchSettings updateFreq maxKeepAge maxKeepSamples
    match ← read .watch fun w => w.watchTable[gkey]? with
    | some entry =>
      if entry.isWatching then return .conflict
      else
        modify .watch fun w => { w with watchTable := w.watchTable.erase gkey }
        watchNew tel answers gkey f
    | none => watchNew tel answers gkey f

/-! ## Unwatching -/

/-- The walk over `watch_table_`. Each watching entry has its groups looked up. -/
def updateFrequencies :
    List (RdcFieldGroupKey × FieldSettings) → KeyMap Nat → Proc Data (Except Status (KeyMap Nat))
  | [], frequencies => return .ok frequencies
  | (entry, settings) :: rest, frequencies =>
    if settings.isWatching = false then updateFrequencies rest frequencies
    else do
      match ← getFieldsFromGroup entry.1 entry.2 with
      | .error result => return .error result
      | .ok watchFields =>
        updateFrequencies rest (OrdMap.keepMin settings.updateFreq watchFields frequencies)

/-- The last loop of `update_field_in_table_when_unwatch`. -/
def unwatchFields (answers : SmiAnswers) (frequencies : KeyMap Nat) :
    List RdcFieldKey → Daemon.UnwatchLoop → Proc Data Daemon.UnwatchLoop
  | [], acc => return acc
  | key :: keys, acc => do
      (if isNotificationEvent key.2 then stopListening answers key.1 else return ())
      unwatchFields answers frequencies keys (Daemon.unwatchField frequencies acc key)

/-- `update_field_in_table_when_unwatch`. -/
def updateFieldInTableWhenUnwatch (answers : SmiAnswers) (entry : RdcFieldGroupKey) :
    Proc Data Status := do
  match ← getFieldsFromGroup entry.1 entry.2 with
  | .error result => return result
  | .ok fields =>
    let table ← read .watch fun w => w.watchTable.toList
    match ← updateFrequencies table ∅ with
    | .error result => return result
    | .ok frequencies =>
      let before ← read .watch fun w =>
        (⟨w.fieldsToWatch, [], w.moduleCalls⟩ : Daemon.UnwatchLoop)
      let acc ← unwatchFields answers frequencies fields before
      modify .watch fun w =>
        { w with
          fieldsToWatch := acc.fieldsToWatch
          moduleCalls := acc.moduleCalls ++ [.fieldsUnwatch acc.unwatchFields] }
      return .ok

/-- `rdc_field_unwatch`. -/
def rdcFieldUnwatch (answers : SmiAnswers) (groupId fieldGroupId now : Nat) : Proc Data Status :=
  guarded .watch do
    let gkey := (groupId, fieldGroupId)
    match ← read .watch fun w => w.watchTable[gkey]? with
    | none => return .notFound
    | some entry =>
      modify .watch fun w =>
        { w with
          watchTable := w.watchTable.insert gkey
            { entry with isWatching := false, lastUpdateTime := now } }
      updateFieldInTableWhenUnwatch answers gkey

/-! ## The periodic update and events -/

/-- Cache a valid value, and hand it to the job that watches its field. -/
def cacheValue (gpuIndex : Nat) (value : RdcFieldValue) : Proc Data Unit := do
  guarded .cache (modify .cache fun c => (c.rdcUpdateCache gpuIndex value).2)
  match ← read .watch fun w =>
      Daemon.isJobWatchField w.jobWatchTable (gpuIndex, value.fieldId) with
  | some jobId =>
    guarded .cache (modify .cache fun c => (c.rdcUpdateJobStats gpuIndex jobId value).2)
  | none => return ()

/-- What a delivered value does: the loop body of `handle_fields` and `rdc_notif_update_cache`. -/
def deliver (time gpuIndex : Nat) (value : RdcFieldValue) : Proc Data Unit := do
  modify .watch fun w =>
    { w with
      fieldsToWatch := w.fieldsToWatch.modify (gpuIndex, value.fieldId)
        fun settings => { settings with lastUpdateTime := time } }
  if value.status = 0 then cacheValue gpuIndex value else return ()

/-- `handle_fields`. -/
def handleFields : List (Nat × RdcGpuFieldValue) → Proc Data Unit
  | [] => return ()
  | v :: values => do
      deliver v.1 v.2.gpuIndex v.2.fieldValue
      handleFields values

/-- One batch that a module fetches and hands to the callback. -/
structure FetchedBatch where
  /-- The fields, each with the clock reading of `async_get_pcie_throughput`. -/
  fields : List (RdcFieldKey × Nat)
  delivered : List (Nat × RdcGpuFieldValue)

/-- A field that is fetched. The two PCIe fields go to the cache of the worker, or to its queue. -/
def fetchField (key : RdcFieldKey) (now : Nat) : Proc Data Unit :=
  if key.2 = rdcFiPcieTx ∨ key.2 = rdcFiPcieRx then
    guarded .task (modify .task fun t => (t.fetcher.asyncGetPcieThroughput key now).2.taskData)
  else return ()

/-- The fields of a batch. -/
def fetchFields : List (RdcFieldKey × Nat) → Proc Data Unit
  | [] => return ()
  | (key, now) :: rest => do
      fetchField key now
      fetchFields rest

/-- `rdc_telemetry_fields_value_get`: the fields are fetched and delivered batch by batch. -/
def fieldsValueGet : List FetchedBatch → Proc Data Unit
  | [] => return ()
  | batch :: rest => do
      fetchFields batch.fields
      handleFields batch.delivered
      fieldsValueGet rest

/-- The evictions of `clean_up`. -/
def evictAll (clock : Daemon.CleanUpClock) :
    List (RdcFieldKey × FieldSettings) → Proc Data Unit
  | [] => return ()
  | f :: rest => do
      guarded .cache (modify .cache fun c =>
        c.evict f.1.1 f.1.2 f.2.maxKeepSamples f.2.maxKeepAge (clock.evict f.1))
      evictAll clock rest

/-- `clean_up`. Every thirty seconds `debug_status` asks for the statistics of the cache. -/
def cleanUp (clock : Daemon.CleanUpClock) : Proc Data Unit := do
  let records ← read .watch fun w => w.fieldsToWatch.toList
  evictAll clock records
  modify .watch fun w =>
    { w with
      fieldsToWatch := w.fieldsToWatch.filter fun _ settings => !Daemon.expired clock.now settings
      watchTable := w.watchTable.filter fun _ settings => !Daemon.expired clock.now settings }
  if clock.now / 1000 % 30 = 0 then
    guarded .cache (read .cache fun _ => ())

/-- The fetch of `rdc_field_update_all`, if a field is due. -/
def fetchDue (now : Nat) (batches : List FetchedBatch) : Proc Data Unit := do
  let fields ← read .watch fun w =>
    Daemon.fieldsToFetch { Daemon.init with fieldsToWatch := w.fieldsToWatch } now
  if fields = [] then return ()
  else
    modify .watch fun w => { w with moduleCalls := w.moduleCalls ++ [.fieldsValueGet fields] }
    fieldsValueGet batches

/-- `RdcWatchTableImpl::rdc_field_update_all`. -/
def rdcFieldUpdateAll (now : Nat) (batches : List FetchedBatch) (clock : Daemon.CleanUpClock) :
    Proc Data Status :=
  guarded .watch do
    fetchDue now batches
    let lastCleanupTime ← read .watch fun w => w.lastCleanupTime
    if u64Sub now lastCleanupTime > 1000 then
      cleanUp clock
      modify .watch fun w => { w with lastCleanupTime := now }
      return .ok
    else return .ok

/-- The loop of `rdc_notif_update_cache`. -/
def deliverEvents : List RdcEvntNotification → Proc Data Unit
  | [] => return ()
  | e :: events => do
      deliver e.field.ts e.gpuId e.field
      deliverEvents events

/-- `rdc_notif_update_cache`. -/
def rdcNotifUpdateCache (events : List RdcEvntNotification) : Proc Data Status :=
  if events = [] then return .badParameter
  else
    guarded .watch do
      deliverEvents events
      return .ok

/-- `rdc_field_listen_notif`. Nothing is held while it waits for events. -/
def rdcFieldListenNotif (top : Topology) (answer : Except Status (List SmiNotification))
    (now : Nat) : Proc Data Status :=
  match top.listen kMaxRSMIEvents answer now with
  | (.ok, events) => if events = [] then return .ok else rdcNotifUpdateCache events
  | (result, _) => return result

/-! ## Jobs -/

/-- `rdc_job_start_stats` after the job has been entered in the job table. -/
def startRegistered (tel : Telemetry) (answers : SmiAnswers) (groupId : Nat) (jobId : JobId)
    (updateFreq : Nat) (gauges : RdcGpuGauges) (time : Nat) : Proc Data Status := do
  match ← rdcGroupGpuGetInfo groupId with
  | .error result => return result
  | .ok ginfo =>
    match ← rdcGroupFieldGetInfo jobFieldId with
    | .error result => return result
    | .ok finfo =>
      let result ← guarded .cache (update .cache fun c =>
        c.rdcJobStartStats jobId ginfo finfo gauges time)
      if result ≠ .ok then
        return result
      rdcFieldWatch tel answers groupId jobFieldId updateFreq 0 0

/-- `RdcWatchTableImpl::rdc_job_start_stats`. -/
def rdcJobStartStats (tel : Telemetry) (answers : SmiAnswers) (groupId : Nat) (jobId : JobId)
    (updateFreq : Nat) (gauges : RdcGpuGauges) (time : Nat) : Proc Data Status := do
  if ← guarded .watch (read .watch fun w => w.jobWatchTable.contains jobId) then
    return .alreadyExist
  match ← getFieldsFromGroup groupId jobFieldId with
  | .error result => return result
  | .ok fieldsInWatch =>
    if fieldsInWatch.length = 0 then
      return .notFound
    guarded .watch (modify .watch fun w =>
      { w with jobWatchTable := w.jobWatchTable.insertIfNew jobId ⟨groupId, fieldsInWatch⟩ })
    startRegistered tel answers groupId jobId updateFreq gauges time

/-- `RdcWatchTableImpl::rdc_job_stop_stats`. -/
def rdcJobStopStats (answers : SmiAnswers) (jobId : JobId) (gauges : RdcGpuGauges)
    (clock : Daemon.StopClock) : Proc Data Status := do
  match ← guarded .watch (read .watch fun w => w.jobWatchTable[jobId]?) with
  | none => return .notFound
  | some job =>
    let result ← rdcFieldUnwatch answers job.groupId jobFieldId clock.now
    if result ≠ .ok then
      return result
    guarded .watch (modify .watch fun w =>
      { w with jobWatchTable := w.jobWatchTable.erase jobId })
    guarded .cache (update .cache fun c => c.rdcJobStopStats jobId gauges clock.time)

/-- `RdcWatchTableImpl::rdc_job_remove`. -/
def rdcJobRemove (answers : SmiAnswers) (jobId : JobId) (clock : Daemon.StopClock) :
    Proc Data Status := do
  let _ ← rdcJobStopStats answers jobId ∅ clock
  guarded .cache (update .cache fun c => c.rdcJobRemove jobId)

/-- The stop loop of `rdc_job_remove_all`. -/
def stopJobs (answers : SmiAnswers) (clock : JobId → Daemon.StopClock) :
    List JobId → Proc Data Unit
  | [] => return ()
  | jobId :: rest => do
      let _ ← rdcJobStopStats answers jobId ∅ (clock jobId)
      stopJobs answers clock rest

/-- `RdcWatchTableImpl::rdc_job_remove_all`. -/
def rdcJobRemoveAll (answers : SmiAnswers) (clock : JobId → Daemon.StopClock) :
    Proc Data Status := do
  let jobs ← guarded .watch (read .watch fun w => w.jobWatchTable.keys)
  stopJobs answers clock jobs
  guarded .cache (update .cache fun c => c.rdcJobRemoveAll)

/-! ## The worker of the fetcher -/

/-- One turn of the worker, once the condition variable has let it through: it takes a task, looks
at the cache again and, after the measurement, stores both directions. -/
def workerTurn (checked : Nat) (ret : AmdsmiStatus) (sent received curTime : Nat)
    (uninit : MetricValue) : Proc Data Unit := do
  match ← guarded .task (update .task fun t =>
      (t.updatedTasks.head?, { t with updatedTasks := t.updatedTasks.tail })) with
  | none => return ()
  | some key =>
    if ← guarded .task (read .task fun t => (t.fetcher.unexpired key checked).isSome) then
      return ()
    guarded .task (modify .task fun t =>
      (t.fetcher.storePcieThroughput key.1 ret sent received curTime uninit).taskData)

end Locked

/-! ## What a thread can be doing -/

/-- A call of a client through the embedded handler, or a turn of one of the daemon's threads. The
total memory and the error counts that the handler reads for a job come without a lock, and so does
the number of devices. `fieldUpdateAll` is the call that waits; the other one and the diagnostic
runs write members that no mutex guards. -/
inductive LockedCall where
  | groupGpuCreate (deviceCount : Nat) (type : RdcGroupType) (groupName : List UInt8)
      (queries : Nat → Option Failure)
  | groupGpuAdd (deviceCount groupId gpuIndex : Nat) (query : Option Failure)
  | groupGpuDestroy (groupId : Nat)
  | groupGpuGetInfo (groupId : Nat)
  | groupGetAllIds
  | groupFieldCreate (fieldIds : List Nat) (fieldGroupName : List UInt8)
  | groupFieldDestroy (fieldGroupId : Nat)
  | groupFieldGetInfo (fieldGroupId : Nat)
  | groupFieldGetAllIds
  | fieldWatch (groupId fieldGroupId updateFreq : Nat) (maxKeepAge : ℚ) (maxKeepSamples : Nat)
  | fieldUnwatch (groupId fieldGroupId now : Nat)
  | fieldGetLatestValue (gpuIndex fieldId : Nat) (value : RdcFieldValue)
  | fieldGetValueSince (gpuIndex fieldId since nextSince : Nat) (value : RdcFieldValue)
  | fieldUpdateAll (now : Nat) (batches : List Locked.FetchedBatch) (clock : Daemon.CleanUpClock)
  | fieldListenNotif (top : Topology) (answer : Except Status (List SmiNotification)) (now : Nat)
  | jobStartStats (groupId : Nat) (jobId : JobId) (updateFreq : Nat)
      (gauges : Except Failure RdcGpuGauges) (time : Nat)
  | jobStopStats (jobId : JobId) (gauges : Except Failure RdcGpuGauges) (clock : Daemon.StopClock)
  | jobGetStats (jobId : JobId) (gauges : Except Failure RdcGpuGauges)
  | jobRemove (jobId : JobId) (clock : Daemon.StopClock)
  | jobRemoveAll (clock : JobId → Daemon.StopClock)
  | workerTurn (checked : Nat) (ret : AmdsmiStatus) (sent received curTime : Nat)
      (uninit : MetricValue)

namespace LockedCall

/-- What the handler does with the gauges of a job: without them it returns their status. -/
def withGauges (gauges : Except Failure RdcGpuGauges) (p : RdcGpuGauges → Proc Data Status) :
    Proc Data Status :=
  match gauges with
  | .error failure => return failure.status
  | .ok gauges => p gauges

/-- The program of a call, with its status as the result. -/
def proc (tel : Telemetry) (answers : SmiAnswers) : LockedCall → Proc Data Status
  | .groupGpuCreate deviceCount type groupName queries => do
      return (← Locked.handlerGroupGpuCreate deviceCount type groupName queries).1
  | .groupGpuAdd deviceCount groupId gpuIndex query =>
    Locked.handlerGroupGpuAdd deviceCount groupId gpuIndex query
  | .groupGpuDestroy groupId => Locked.rdcGroupGpuDestroy groupId
  | .groupGpuGetInfo groupId => do
      match ← Locked.rdcGroupGpuGetInfo groupId with
      | .error status => return status
      | .ok _ => return .ok
  | .groupGetAllIds => do return (← Locked.rdcGroupGetAllIds).1
  | .groupFieldCreate fieldIds fieldGroupName => do
      return (← Locked.handlerGroupFieldCreate fieldIds fieldGroupName).1
  | .groupFieldDestroy fieldGroupId => Locked.rdcGroupFieldDestroy fieldGroupId
  | .groupFieldGetInfo fieldGroupId => do
      match ← Locked.rdcGroupFieldGetInfo fieldGroupId with
      | .error status => return status
      | .ok _ => return .ok
  | .groupFieldGetAllIds => do return (← Locked.rdcGroupFieldGetAllIds).1
  | .fieldWatch groupId fieldGroupId updateFreq maxKeepAge maxKeepSamples =>
    Locked.rdcFieldWatch tel answers groupId fieldGroupId updateFreq maxKeepAge maxKeepSamples
  | .fieldUnwatch groupId fieldGroupId now =>
    Locked.rdcFieldUnwatch answers groupId fieldGroupId now
  | .fieldGetLatestValue gpuIndex fieldId value =>
    if isFieldValid fieldId then
      guarded .cache (read .cache fun c => (c.rdcFieldGetLatestValue gpuIndex fieldId value).1)
    else return .notSupported
  | .fieldGetValueSince gpuIndex fieldId since nextSince value =>
    if isFieldValid fieldId then
      guarded .cache (read .cache fun c =>
        (c.rdcFieldGetValueSince gpuIndex fieldId since nextSince value).1)
    else return .notSupported
  | .fieldUpdateAll now batches clock => Locked.rdcFieldUpdateAll now batches clock
  | .fieldListenNotif top answer now => Locked.rdcFieldListenNotif top answer now
  | .jobStartStats groupId jobId updateFreq gauges time =>
    withGauges gauges fun gauges =>
      Locked.rdcJobStartStats tel answers groupId jobId updateFreq gauges time
  | .jobStopStats jobId gauges clock =>
    withGauges gauges fun gauges => Locked.rdcJobStopStats answers jobId gauges clock
  | .jobGetStats jobId gauges =>
    withGauges gauges fun gauges =>
      guarded .cache (read .cache fun c => c.rdcJobGetStatsStatus jobId gauges)
  | .jobRemove jobId clock => Locked.rdcJobRemove answers jobId clock
  | .jobRemoveAll clock => Locked.rdcJobRemoveAll answers clock
  | .workerTurn checked ret sent received curTime uninit => do
      Locked.workerTurn checked ret sent received curTime uninit
      return .ok

/-- The same call on the daemon's state, without locks. -/
def exec (tel : Telemetry) (d : Daemon) : LockedCall → Status × Daemon
  | .groupGpuCreate deviceCount type groupName queries =>
    let r := EmbeddedHandler.rdcGroupGpuCreate deviceCount d.groupSettings type groupName queries
    d.onGroups (r.1, r.2.2)
  | .groupGpuAdd deviceCount groupId gpuIndex query =>
    d.onGroups (EmbeddedHandler.rdcGroupGpuAdd deviceCount d.groupSettings groupId gpuIndex query)
  | .groupGpuDestroy groupId => d.exec tel (.groupGpuDestroy groupId)
  | .groupGpuGetInfo groupId =>
    match d.groupSettings.rdcGroupGpuGetInfo groupId with
    | .error status => (status, d)
    | .ok _ => (.ok, d)
  | .groupGetAllIds => (d.groupSettings.rdcGroupGetAllIds.1, d)
  | .groupFieldCreate fieldIds fieldGroupName =>
    let r := EmbeddedHandler.rdcGroupFieldCreate d.groupSettings fieldIds fieldGroupName
    d.onGroups (r.1, r.2.2)
  | .groupFieldDestroy fieldGroupId => d.exec tel (.groupFieldDestroy fieldGroupId)
  | .groupFieldGetInfo fieldGroupId =>
    match d.groupSettings.rdcGroupFieldGetInfo fieldGroupId with
    | .error status => (status, d)
    | .ok _ => (.ok, d)
  | .groupFieldGetAllIds => (d.groupSettings.rdcGroupFieldGetAllIds.1, d)
  | .fieldWatch groupId fieldGroupId updateFreq maxKeepAge maxKeepSamples =>
    d.exec tel (.fieldWatch groupId fieldGroupId updateFreq maxKeepAge maxKeepSamples)
  | .fieldUnwatch groupId fieldGroupId now => d.exec tel (.fieldUnwatch groupId fieldGroupId now)
  | .fieldGetLatestValue gpuIndex fieldId value =>
    if isFieldValid fieldId then
      ((d.cacheMgr.rdcFieldGetLatestValue gpuIndex fieldId value).1, d)
    else (.notSupported, d)
  | .fieldGetValueSince gpuIndex fieldId since nextSince value =>
    if isFieldValid fieldId then
      ((d.cacheMgr.rdcFieldGetValueSince gpuIndex fieldId since nextSince value).1, d)
    else (.notSupported, d)
  | .fieldUpdateAll now batches clock =>
    d.exec tel (.fieldUpdateAll now (batches.flatMap (·.delivered)) clock)
  | .fieldListenNotif top answer now => d.rdcFieldListenNotif top answer now
  | .jobStartStats groupId jobId updateFreq gauges time =>
    match gauges with
    | .error failure => (failure.status, d)
    | .ok gauges => d.exec tel (.jobStartStats groupId jobId updateFreq gauges time)
  | .jobStopStats jobId gauges clock =>
    match gauges with
    | .error failure => (failure.status, d)
    | .ok gauges => d.exec tel (.jobStopStats jobId gauges clock)
  | .jobGetStats jobId gauges =>
    match gauges with
    | .error failure => (failure.status, d)
    | .ok gauges => d.exec tel (.jobGetStats jobId gauges)
  | .jobRemove jobId clock => d.exec tel (.jobRemove jobId clock)
  | .jobRemoveAll clock => d.exec tel (.jobRemoveAll clock)
  | .workerTurn _ _ _ _ _ _ => (.ok, d)

end LockedCall

end Rdc
