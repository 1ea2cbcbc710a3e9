import Rdc.WatchTable
import Rdc.Lib.Machine

/-!
# Everything a client can do to the daemon

One operation for each entry point the daemon has, with the clock readings and the outside answers
of the call as arguments: the values telemetry delivers, the events that were reported, the gauges
read for a job. `exec` runs one operation alone. Any operation may follow any other with any
arguments, so the runs of this machine are all sequential histories of the daemon.
-/

namespace Rdc

open Machine

/-- One call. -/
inductive Op where
  | fieldWatch (groupId fieldGroupId updateFreq : Nat) (maxKeepAge : ℚ) (maxKeepSamples : Nat)
  | fieldUnwatch (groupId fieldGroupId now : Nat)
  | fieldUpdateAll (now : Nat) (delivered : List (Nat × RdcGpuFieldValue))
      (clock : Daemon.CleanUpClock)
  | notifUpdateCache (events : List RdcEvntNotification)
  | jobStartStats (groupId : Nat) (jobId : JobId) (updateFreq : Nat) (gauges : RdcGpuGauges)
      (time : Nat)
  | jobStopStats (jobId : JobId) (gauges : RdcGpuGauges) (clock : Daemon.StopClock)
  | jobRemove (jobId : JobId) (clock : Daemon.StopClock)
  | jobRemoveAll (clock : JobId → Daemon.StopClock)
  | jobGetStats (jobId : JobId) (gauges : RdcGpuGauges)
  | groupGpuCreate (groupName : List UInt8)
  | groupGpuAdd (groupId gpuIndex : Nat)
  | groupGpuDestroy (groupId : Nat)
  | groupFieldCreate (fieldIds : List Nat) (fieldGroupName : List UInt8)
  | groupFieldDestroy (fieldGroupId : Nat)

namespace Daemon

/-- Run one operation on the group store. -/
def onGroups (d : Daemon) (r : Status × GroupSettings) : Status × Daemon :=
  (r.1, { d with groupSettings := r.2 })

/-- Execute one operation by itself. -/
def exec (tel : Telemetry) (d : Daemon) : Op → Status × Daemon
  | .fieldWatch groupId fieldGroupId updateFreq maxKeepAge maxKeepSamples =>
    d.rdcFieldWatch tel groupId fieldGroupId updateFreq maxKeepAge maxKeepSamples
  | .fieldUnwatch groupId fieldGroupId now => d.rdcFieldUnwatch groupId fieldGroupId now
  | .fieldUpdateAll now delivered clock => d.rdcFieldUpdateAll now delivered clock
  | .notifUpdateCache events => d.rdcNotifUpdateCache events
  | .jobStartStats groupId jobId updateFreq gauges time =>
    (rdcJobStartStats tel groupId jobId updateFreq gauges time).run d
  | .jobStopStats jobId gauges clock => (rdcJobStopStats jobId gauges clock).run d
  | .jobRemove jobId clock => (rdcJobRemove jobId clock).run d
  | .jobRemoveAll clock => (rdcJobRemoveAll clock).run d
  | .jobGetStats jobId gauges => (d.cacheMgr.rdcJobGetStatsStatus jobId gauges, d)
  | .groupGpuCreate groupName =>
    let r := d.groupSettings.rdcGroupGpuCreate groupName
    d.onGroups (r.1, r.2.2)
  | .groupGpuAdd groupId gpuIndex => d.onGroups (d.groupSettings.rdcGroupGpuAdd groupId gpuIndex)
  | .groupGpuDestroy groupId => d.onGroups (d.groupSettings.rdcGroupGpuDestroy groupId)
  | .groupFieldCreate fieldIds fieldGroupName =>
    let r := d.groupSettings.rdcGroupFieldCreate fieldIds fieldGroupName
    d.onGroups (r.1, r.2.2)
  | .groupFieldDestroy fieldGroupId =>
    d.onGroups (d.groupSettings.rdcGroupFieldDestroy fieldGroupId)

/-- A state some history from the start leads to. -/
def Reachable (tel : Telemetry) (d : Daemon) : Prop := ∃ ops, run (exec tel) init ops = d

end Daemon

end Rdc
