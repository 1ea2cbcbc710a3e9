import Rdc.CacheManager
import Rdc.Telemetry
import Rdc.Lib.Atomic

/-!
# The watch table

`RdcWatchTableImpl`: which pairs of groups are watched (`watch_table_`), what that means for each
(GPU, field) (`fields_to_watch_`), and which jobs are running (`job_watch_table_`). The class owns
its three tables and calls into the group store, the cache, and two modules it never hears back
from: notifications and telemetry. The calls it makes to those two are recorded in order.

The watch functions hold `watch_mutex_` from beginning to end and are plain functions on the state.
The job functions take and drop their locks several times; they are programs of atomic sections, one
for each `lock_guard` block, with the clock readings of the call as arguments.
-/

namespace Rdc

open Std Atomic

/-- `FieldSettings`. -/
structure FieldSettings where
  updateFreq : Nat
  maxKeepSamples : Nat
  maxKeepAge : ℚ
  isWatching : Bool
  lastUpdateTime : Nat
  deriving DecidableEq

/-- `JobWatchTableEntry`. -/
structure JobWatchTableEntry where
  groupId : Nat
  fields : List RdcFieldKey
  deriving DecidableEq

/-- A call into the notification or the telemetry module. -/
inductive ModuleCall where
  | setListenEvents (fields : List RdcFieldKey)
  | stopListening (gpu : Nat)
  | fieldsWatch (fields : List RdcFieldKey)
  | fieldsUnwatch (fields : List RdcFieldKey)
  | fieldsValueGet (fields : List RdcFieldKey)
  deriving DecidableEq

/-- The daemon: the watch table with the components it refers to. -/
structure Daemon where
  groupSettings : GroupSettings
  cacheMgr : CacheManager
  watchTable : KeyMap FieldSettings
  jobWatchTable : JobMap JobWatchTableEntry
  fieldsToWatch : KeyMap FieldSettings
  lastCleanupTime : Nat
  moduleCalls : List ModuleCall
  deriving DecidableEq

namespace Daemon

/-- All components freshly constructed. -/
def init : Daemon where
  groupSettings := GroupSettings.init
  cacheMgr := CacheManager.init
  watchTable := ∅
  jobWatchTable := ∅
  fieldsToWatch := ∅
  lastCleanupTime := 0
  moduleCalls := []

/-! ## Watching -/

/-- What a watch with settings `f` does to the record of one of its fields. -/
def mergeSettings (f : FieldSettings) : Option FieldSettings → Option FieldSettings
  | none => some f
  | some inTable =>
    some
      { inTable with
        maxKeepAge := max inTable.maxKeepAge f.maxKeepAge
        maxKeepSamples := max inTable.maxKeepSamples f.maxKeepSamples
        updateFreq :=
          if inTable.isWatching then min inTable.updateFreq f.updateFreq else f.updateFreq
        isWatching := true }

/-- The part of `rdc_field_watch` after the lookup in `watch_table_`. -/
def watchNew (tel : Telemetry) (d : Daemon) (gkey : RdcFieldGroupKey) (f : FieldSettings) :
    Status × Daemon :=
  match d.groupSettings.getFieldsFromGroup gkey.1 gkey.2 with
  | .error result => (result, d)
  | .ok fieldsInWatch =>
    -- unsupported fields are skipped, notification fields among them
    let supported := fieldsInWatch.filter fun key => tel.supports key.2
    let fieldsToWatch := supported.foldl (fun m key => m.alter key (mergeSettings f))
      d.fieldsToWatch
    let watching := (fieldsToWatch.filter fun _ settings => settings.isWatching).keys
    (.ok,
      { d with
        fieldsToWatch := fieldsToWatch
        watchTable := d.watchTable.insertIfNew gkey f
        moduleCalls := d.moduleCalls ++ [.setListenEvents fieldsInWatch, .fieldsWatch watching] })

/-- The settings `rdc_field_watch` builds. -/
def watchSettings (updateFreq : Nat) (maxKeepAge : ℚ) (maxKeepSamples : Nat) : FieldSettings where
  updateFreq := updateFreq
  maxKeepSamples := maxKeepSamples
  maxKeepAge := maxKeepAge
  isWatching := true
  lastUpdateTime := 0

/-- `rdc_field_watch`. -/
def rdcFieldWatch (tel : Telemetry) (d : Daemon) (groupId fieldGroupId updateFreq : Nat)
    (maxKeepAge : ℚ) (maxKeepSamples : Nat) : Status × Daemon :=
  let gkey := (groupId, fieldGroupId)
  let f := watchSettings updateFreq maxKeepAge maxKeepSamples
  match d.watchTable[gkey]? with
  | some entry =>
    if entry.isWatching then (.conflict, d)
    -- a lapsed entry is deleted before the groups are looked up
    else watchNew tel { d with watchTable := d.watchTable.erase gkey } gkey f
  | none => watchNew tel d gkey f

/-! ## Unwatching -/

/-- The walk over `watch_table_`: the smallest frequency any watching entry asks of each field. -/
def updateFrequencies (gs : GroupSettings) :
    List (RdcFieldGroupKey × FieldSettings) → KeyMap Nat → Except Status (KeyMap Nat)
  | [], frequencies => .ok frequencies
  | (entry, settings) :: rest, frequencies =>
    if settings.isWatching = false then updateFrequencies gs rest frequencies
    else
      match gs.getFieldsFromGroup entry.1 entry.2 with
      | .error result => .error result
      | .ok watchFields =>
        updateFrequencies gs rest (OrdMap.keepMin settings.updateFreq watchFields frequencies)

/-- What the last loop of `update_field_in_table_when_unwatch` carries along. -/
structure UnwatchLoop where
  fieldsToWatch : KeyMap FieldSettings
  unwatchFields : List RdcFieldKey
  moduleCalls : List ModuleCall

/-- The record of an unwatched field, given the frequency the others still ask for. -/
def unwatchSettings (frequency : Option Nat) (settings : FieldSettings) : FieldSettings :=
  match frequency with
  | none => { settings with isWatching := false }
  | some updateFreq => { settings with updateFreq := updateFreq }

/-- One turn of that loop. -/
def unwatchField (frequencies : KeyMap Nat) (acc : UnwatchLoop) (key : RdcFieldKey) :
    UnwatchLoop :=
  if isNotificationEvent key.2 then
    { acc with moduleCalls := acc.moduleCalls ++ [.stopListening key.1] }
  else if key ∉ acc.fieldsToWatch then
    { acc with unwatchFields := acc.unwatchFields ++ [key] }
  else
    { acc with
      fieldsToWatch := acc.fieldsToWatch.modify key (unwatchSettings frequencies[key]?)
      unwatchFields :=
        if key ∈ frequencies then acc.unwatchFields else acc.unwatchFields ++ [key] }

/-- `update_field_in_table_when_unwatch`. -/
def updateFieldInTableWhenUnwatch (d : Daemon) (entry : RdcFieldGroupKey) : Status × Daemon :=
  match d.groupSettings.getFieldsFromGroup entry.1 entry.2 with
  | .error result => (result, d)
  | .ok fields =>
    match updateFrequencies d.groupSettings d.watchTable.toList ∅ with
    | .error result => (result, d)
    | .ok frequencies =>
      let acc := fields.foldl (unwatchField frequencies) ⟨d.fieldsToWatch, [], d.moduleCalls⟩
      (.ok,
        { d with
          fieldsToWatch := acc.fieldsToWatch
          moduleCalls := acc.moduleCalls ++ [.fieldsUnwatch acc.unwatchFields] })

/-- `rdc_field_unwatch`. The entry is flagged off before its groups are looked up. -/
def rdcFieldUnwatch (d : Daemon) (groupId fieldGroupId now : Nat) : Status × Daemon :=
  let gkey := (groupId, fieldGroupId)
  match d.watchTable[gkey]? with
  | none => (.notFound, d)
  | some entry =>
    let entry := { entry with isWatching := false, lastUpdateTime := now }
    updateFieldInTableWhenUnwatch { d with watchTable := d.watchTable.insert gkey entry } gkey

/-! ## Delivery -/

/-- `is_job_watch_field`: the first job, in key order, that has the field. -/
def isJobWatchField (jobs : JobMap JobWatchTableEntry) (key : RdcFieldKey) : Option JobId :=
  (jobs.toList.find? fun job => key ∈ job.2.fields).map Prod.fst

/-- Cache a valid value, and hand it to the job that watches its field. -/
def cacheValue (jobs : JobMap JobWatchTableEntry) (c : CacheManager) (gpuIndex : Nat)
    (value : RdcFieldValue) : CacheManager :=
  let c := (c.rdcUpdateCache gpuIndex value).2
  match isJobWatchField jobs (gpuIndex, value.fieldId) with
  | some jobId => (c.rdcUpdateJobStats gpuIndex jobId value).2
  | none => c

/-- What a delivered value does, with `time` the new timestamp of its record: the loop body shared
by `handle_fields` and `rdc_notif_update_cache`. -/
def deliver (d : Daemon) (time gpuIndex : Nat) (value : RdcFieldValue) : Daemon :=
  { d with
    fieldsToWatch := d.fieldsToWatch.modify (gpuIndex, value.fieldId)
      fun settings => { settings with lastUpdateTime := time }
    -- only valid results are cached
    cacheMgr :=
      if value.status = 0 then cacheValue d.jobWatchTable d.cacheMgr gpuIndex value
      else d.cacheMgr }

/-- `handle_fields`, each value with the clock reading taken for it. -/
def handleFields (d : Daemon) (values : List (Nat × RdcGpuFieldValue)) : Daemon :=
  values.foldl (fun d v => d.deliver v.1 v.2.gpuIndex v.2.fieldValue) d

/-- `rdc_notif_update_cache`. -/
def rdcNotifUpdateCache (d : Daemon) (events : List RdcEvntNotification) : Status × Daemon :=
  if events = [] then (.badParameter, d)
  else (.ok, events.foldl (fun d e => d.deliver e.field.ts e.gpuId e.field) d)

/-! ## The periodic update -/

/-- The clock readings of one `clean_up`: its own, and one for each eviction. -/
structure CleanUpClock where
  now : Nat
  evict : RdcFieldKey → Nat

/-- A settings record that `clean_up` drops. -/
def expired (now : Nat) (settings : FieldSettings) : Bool :=
  !settings.isWatching && (settings.lastUpdateTime : ℚ) + settings.maxKeepAge * 1000 < now

/-- `clean_up`. Whether its evictions have a result is looked at in `Node`. -/
def cleanUp (d : Daemon) (clock : CleanUpClock) : Daemon :=
  { d with
    cacheMgr := d.fieldsToWatch.toList.foldl
      (fun c f => c.evict f.1.1 f.1.2 f.2.maxKeepSamples f.2.maxKeepAge (clock.evict f.1))
      d.cacheMgr
    fieldsToWatch := d.fieldsToWatch.filter fun _ settings => !expired clock.now settings
    watchTable := d.watchTable.filter fun _ settings => !expired clock.now settings }

/-- The fields `rdc_field_update_all` asks telemetry for. -/
def fieldsToFetch (d : Daemon) (now : Nat) : List RdcFieldKey :=
  (d.fieldsToWatch.toList.filter fun f =>
    f.2.isWatching && !(u64Add f.2.lastUpdateTime (f.2.updateFreq / 1000) > now)).map Prod.fst

/-- The daemon after telemetry has delivered what `rdc_field_update_all` asked for. -/
def fetched (d : Daemon) (now : Nat) (delivered : List (Nat × RdcGpuFieldValue)) : Daemon :=
  if d.fieldsToFetch now = [] then d
  else
    handleFields { d with moduleCalls := d.moduleCalls ++ [.fieldsValueGet (d.fieldsToFetch now)] }
      delivered

/-- `rdc_field_update_all`, with the values telemetry delivers to the callback. -/
def rdcFieldUpdateAll (d : Daemon) (now : Nat) (delivered : List (Nat × RdcGpuFieldValue))
    (clock : CleanUpClock) : Status × Daemon :=
  let d := d.fetched now delivered
  -- cleaning up is expensive, so it happens at most once a second
  if u64Sub now d.lastCleanupTime > 1000 then
    (.ok, { d.cleanUp clock with lastCleanupTime := now })
  else
    (.ok, d)

/-! ## Jobs -/

/-- The clock readings of one stop: `gettimeofday` in milliseconds and `time` in seconds. -/
structure StopClock where
  now : Nat
  time : Nat

/-- `get_fields_from_group`, as the two sections it is outside `watch_mutex_`. -/
def readFieldsFromGroup (groupId fieldGroupId : Nat) :
    Prog Daemon (Except Status (List RdcFieldKey)) := do
  match ← Prog.read (fun d : Daemon => d.groupSettings.rdcGroupGpuGetInfo groupId) with
  | .error result => return .error result
  | .ok ginfo =>
    match ← Prog.read (fun d : Daemon => d.groupSettings.rdcGroupFieldGetInfo fieldGroupId) with
    | .error result => return .error result
    | .ok finfo => return .ok (GroupSettings.expandGroups ginfo finfo)

/-- `rdc_job_start_stats` after the job has been entered in the job table. -/
def startRegistered (tel : Telemetry) (groupId : Nat) (jobId : JobId) (updateFreq : Nat)
    (gauges : RdcGpuGauges) (time : Nat) : Prog Daemon Status := do
  match ← Prog.read (fun d : Daemon => d.groupSettings.rdcGroupGpuGetInfo groupId) with
  | .error result => return result
  | .ok ginfo =>
    match ← Prog.read (fun d : Daemon => d.groupSettings.rdcGroupFieldGetInfo jobFieldId) with
    | .error result => return result
    | .ok finfo =>
      let result ← Prog.atomic fun d : Daemon =>
        let (result, c) := d.cacheMgr.rdcJobStartStats jobId ginfo finfo gauges time
        (result, { d with cacheMgr := c })
      if result ≠ .ok then
        return result
      -- at last, when everything is set up, the fields are watched
      Prog.atomic fun d => rdcFieldWatch tel d groupId jobFieldId updateFreq 0 0

/-- `rdc_job_start_stats`. -/
def rdcJobStartStats (tel : Telemetry) (groupId : Nat) (jobId : JobId) (updateFreq : Nat)
    (gauges : RdcGpuGauges) (time : Nat) : Prog Daemon Status := do
  if ← Prog.read (fun d : Daemon => d.jobWatchTable.contains jobId) then
    return .alreadyExist
  match ← readFieldsFromGroup groupId jobFieldId with
  | .error result => return result
  | .ok fieldsInWatch =>
    if fieldsInWatch.length = 0 then
      return .notFound
    Prog.atomic fun d =>
      ((), { d with
        jobWatchTable := d.jobWatchTable.insertIfNew jobId ⟨groupId, fieldsInWatch⟩ })
    startRegistered tel groupId jobId updateFreq gauges time

/-- `rdc_job_stop_stats`. -/
def rdcJobStopStats (jobId : JobId) (gauges : RdcGpuGauges) (clock : StopClock) :
    Prog Daemon Status := do
  match ← Prog.read (fun d : Daemon => d.jobWatchTable[jobId]?) with
  | none => return .notFound
  | some job =>
    let result ← Prog.atomic fun d => rdcFieldUnwatch d job.groupId jobFieldId clock.now
    if result ≠ .ok then
      return result
    Prog.atomic fun d => ((), { d with jobWatchTable := d.jobWatchTable.erase jobId })
    Prog.atomic fun d =>
      let (result, c) := d.cacheMgr.rdcJobStopStats jobId gauges clock.time
      (result, { d with cacheMgr := c })

/-- `rdc_job_remove`. The result of the stop is ignored. -/
def rdcJobRemove (jobId : JobId) (clock : StopClock) : Prog Daemon Status := do
  let _ ← rdcJobStopStats jobId ∅ clock
  Prog.atomic fun d =>
    let (result, c) := d.cacheMgr.rdcJobRemove jobId
    (result, { d with cacheMgr := c })

/-- The stop loop of `rdc_job_remove_all`. -/
def stopJobs (clock : JobId → StopClock) : List JobId → Prog Daemon Unit
  | [] => return ()
  | jobId :: rest => do
      let _ ← rdcJobStopStats jobId ∅ (clock jobId)
      stopJobs clock rest

/-- `rdc_job_remove_all`. -/
def rdcJobRemoveAll (clock : JobId → StopClock) : Prog Daemon Status := do
  let jobs ← Prog.read (fun d : Daemon => d.jobWatchTable.keys)
  stopJobs clock jobs
  Prog.atomic fun d =>
    let (result, c) := d.cacheMgr.rdcJobRemoveAll
    (result, { d with cacheMgr := c })

end Daemon

end Rdc
