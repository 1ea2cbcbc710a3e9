import Rdc.JobStats
import Rdc.Lib.Buffer

/-!
# Calls from another process

`RdcStandaloneHandler` in the client, `RdcAPIServiceImpl` in the daemon, and the messages between
them, for the calls whose results are arrays, the two group listings and the report of a job, and
for the one whose argument is an array, the creation of a field group. The transport is reliable, so
a call is the client's half after the server's half.

The server gives its own buffers to the embedded handler and copies what it finds in them into the
reply; the client copies the reply into the buffers of its caller.
-/

namespace Rdc

/-! ## Group listings -/

/-- What a caller of a listing ends up with: the status, the count if one was written, and the ids
that were written. -/
structure Listing where
  status : Status
  count : Option Nat
  ids : List Nat
  deriving DecidableEq

/-- The listing as the embedded handler returns it. -/
def EmbeddedHandler.listing (r : Status × List Nat) : Listing := ⟨r.1, some r.2.length, r.2⟩

/-- `EmbeddedHandler::rdc_group_get_all_ids`. -/
def EmbeddedHandler.rdcGroupGetAllIds (gs : GroupSettings) : Listing :=
  listing gs.rdcGroupGetAllIds

/-- `EmbeddedHandler::rdc_group_field_get_all_ids`. -/
def EmbeddedHandler.rdcGroupFieldGetAllIds (gs : GroupSettings) : Listing :=
  listing gs.rdcGroupFieldGetAllIds

/-- `GetGroupAllIdsResponse` and `GetFieldGroupAllIdsResponse`. -/
structure AllIdsResponse where
  status : Status
  ids : List Nat
  deriving DecidableEq

namespace ApiService

/-- The two listing calls of the server: a failed one sends its status only. -/
def getAllIds (r : Status × List Nat) : AllIdsResponse :=
  if r.1 ≠ .ok then ⟨r.1, []⟩ else ⟨r.1, r.2⟩

/-- `GetGroupAllIds`. -/
def getGroupAllIds (gs : GroupSettings) : AllIdsResponse := getAllIds gs.rdcGroupGetAllIds

/-- `GetFieldGroupAllIds`. -/
def getFieldGroupAllIds (gs : GroupSettings) : AllIdsResponse := getAllIds gs.rdcGroupFieldGetAllIds

end ApiService

namespace StandaloneHandler

/-- The two listing calls of the client. The count is written before it is compared with the limit,
and a full list is turned away. -/
def allIds (limit : Nat) (reply : AllIdsResponse) : Listing :=
  if reply.status ≠ .ok then ⟨reply.status, none, []⟩
  else if reply.ids.length ≥ limit then ⟨.maxLimit, some reply.ids.length, []⟩
  else ⟨.ok, some reply.ids.length, reply.ids⟩

/-- `rdc_group_get_all_ids`. -/
def rdcGroupGetAllIds (gs : GroupSettings) : Listing :=
  allIds rdcMaxNumGroups (ApiService.getGroupAllIds gs)

/-- `rdc_group_field_get_all_ids`. -/
def rdcGroupFieldGetAllIds (gs : GroupSettings) : Listing :=
  allIds rdcMaxNumFieldGroups (ApiService.getFieldGroupAllIds gs)

end StandaloneHandler

/-! ## Creating a field group -/

/-- A loop that copies ids into a local `field_ids[RDC_MAX_FIELD_IDS_PER_FIELD_GROUP]`, and what is
passed on: the array with the number of ids. -/
def copyFieldIds (fieldIds : List Nat) (fieldIdArray : Vector Nat rdcMaxFieldIdsPerFieldGroup) :
    Option (List Nat) :=
  (Buffer.fill fieldIds 0 fieldIdArray).map (·.toList.take fieldIds.length)

/-- `CreateFieldGroupResponse`. -/
structure CreateFieldGroupResponse where
  status : Status
  fieldGroupId : Option Nat
  deriving DecidableEq

/-- `CreateFieldGroup`. `fieldIdArray` is what the local array holds before it is filled. -/
def ApiService.createFieldGroup (gs : GroupSettings) (fieldIds : List Nat)
    (fieldGroupName : List UInt8) (fieldIdArray : Vector Nat rdcMaxFieldIdsPerFieldGroup) :
    Option (CreateFieldGroupResponse × GroupSettings) :=
  match copyFieldIds fieldIds fieldIdArray with
  | none => none
  | some copied =>
    let (status, id, gs') := EmbeddedHandler.rdcGroupFieldCreate gs copied fieldGroupName
    some (if status ≠ .ok then ⟨status, none⟩ else ⟨status, id⟩, gs')

/-- `rdc_group_field_create`: the status, the id if one was written, and the store. The client sends
the ids as they are. -/
def StandaloneHandler.rdcGroupFieldCreate (gs : GroupSettings) (fieldIds : List Nat)
    (fieldGroupName : List UInt8) (fieldIdArray : Vector Nat rdcMaxFieldIdsPerFieldGroup) :
    Option (Status × Option Nat × GroupSettings) :=
  match ApiService.createFieldGroup gs fieldIds fieldGroupName fieldIdArray with
  | none => none
  | some (reply, gs') =>
    some (if reply.status ≠ .ok then (reply.status, none, gs')
      else (.ok, reply.fieldGroupId, gs'))

/-! ## The report of a job -/

/-- `copy_gpu_usage_info`, of the server and of the client: the message has the members of the
structure. -/
def copyGpuUsageInfo (src : RdcGpuUsageInfo) : RdcGpuUsageInfo where
  gpuId := src.gpuId
  startTime := src.startTime
  endTime := src.endTime
  energyConsumed := src.energyConsumed
  maxGpuMemoryUsed := src.maxGpuMemoryUsed
  eccCorrect := src.eccCorrect
  eccUncorrect := src.eccUncorrect
  powerUsage := src.powerUsage
  gpuClock := src.gpuClock
  gpuUtilization := src.gpuUtilization
  memoryUtilization := src.memoryUtilization
  pcieTx := src.pcieTx
  pcieRx := src.pcieRx
  memoryClock := src.memoryClock
  gpuTemperature := src.gpuTemperature

/-- What `GetJobStatsResponse` carries besides the status. -/
structure JobStatsReply where
  numGpus : Nat
  summary : RdcGpuUsageInfo
  gpus : List RdcGpuUsageInfo
  deriving DecidableEq

namespace ApiService

/-- The server's loop: the next `n` records, from `gpus[i]` on. -/
def sendGpus (gpus : Vector RdcGpuUsageInfo jobInfoGpus) :
    Nat → Nat → Except Fault (List RdcGpuUsageInfo)
  | 0, _ => .ok []
  | n + 1, i =>
    match gpus[i]? with
    | none => .error .outOfBounds
    | some record => (sendGpus gpus n (i + 1)).map (copyGpuUsageInfo record :: ·)

/-- `GetJobStats`. `info` is what the local `job_info` holds before it is filled. A failed call
sends its status only. -/
def getJobStats (sqrt : ℚ → ℚ) (deviceCount : Nat) (query : Option Failure)
    (fetch : Nat → Nat → Except Failure Nat) (c : CacheManager) (jobId : JobId) (now : Nat)
    (info : RdcJobInfo) : Except Fault (Except Status JobStatsReply) :=
  match EmbeddedHandler.rdcJobGetStats sqrt deviceCount query fetch c jobId now info with
  | .error fault => .error fault
  | .ok (status, info') =>
    if status ≠ .ok then .ok (.error status)
    else
      match sendGpus info'.gpus info'.numGpus 0 with
      | .error fault => .error fault
      | .ok gpus => .ok (.ok ⟨info'.numGpus, copyGpuUsageInfo info'.summary, gpus⟩)

end ApiService

namespace StandaloneHandler

/-- The client's loop: the records of the reply go to `gpus[i]`, `gpus[i + 1]`, … -/
def receiveGpus : List RdcGpuUsageInfo → Nat → Vector RdcGpuUsageInfo jobInfoGpus →
    Except Fault (Vector RdcGpuUsageInfo jobInfoGpus)
  | [], _, gpus => .ok gpus
  | record :: records, i, gpus =>
    if h : i < jobInfoGpus then
      receiveGpus records (i + 1) (gpus.set i (copyGpuUsageInfo record) h)
    else
      .error .outOfBounds

/-- `rdc_job_get_stats`. `serverInfo` is what the server's buffer holds before the call, `info` what
the caller's does. -/
def rdcJobGetStats (sqrt : ℚ → ℚ) (deviceCount : Nat) (query : Option Failure)
    (fetch : Nat → Nat → Except Failure Nat) (c : CacheManager) (jobId : JobId) (now : Nat)
    (serverInfo info : RdcJobInfo) : Except Fault (Status × RdcJobInfo) :=
  match ApiService.getJobStats sqrt deviceCount query fetch c jobId now serverInfo with
  | .error fault => .error fault
  | .ok (.error status) => .ok (status, info)
  | .ok (.ok reply) =>
    match receiveGpus reply.gpus 0 info.gpus with
    | .error fault => .error fault
    | .ok gpus => .ok (.ok, ⟨reply.numGpus, copyGpuUsageInfo reply.summary, gpus⟩)

end StandaloneHandler

end Rdc
