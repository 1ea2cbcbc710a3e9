import Rdc.System
import Rdc.Diagnostic
import Rdc.GroupRequests
import Rdc.ReadRequests
import Rdc.Lib.Dialogue

/-!
# One interface, two handlers

`rdc.h` has one set of calls, and `RdcHandler` two implementations of them: `RdcEmbeddedHandler`
does the work in the process of the caller, and `RdcStandaloneHandler` sends a message to a daemon
in which `RdcAPIServiceImpl` gives it to an embedded handler. Here are the calls of the interface,
through either handler, on the same daemon, apart from the three that return a report:
`rdc_job_get_stats` (`Standalone`), `rdc_diagnostic_run` and `rdc_test_case_run` (`Messages`).

What a caller has of a call is its status, and with `RDC_ST_OK` what was written for it. The member
`status` of a field value is left out: the embedded handler leaves it as it is, and the standalone
one overwrites it with what was on the stack of the server (`ReadRequests`).
-/

namespace Rdc

open Dialogue

/-! ## The calls -/

/-- A `const char*` that a caller passes: the bytes before the zero. -/
structure CText where
  bytes : List UInt8
  noZero : 0 ∉ bytes

/-- `rdc_component_t`; any other number is refused. -/
inductive RdcComponent where
  | amdsmi
  | other
  deriving DecidableEq

/-- A call of `rdc.h`, with its arguments. The calls that return a report are not among them. -/
inductive ApiCall where
  | deviceGetAll
  | deviceGetAttributes (gpuIndex : Nat)
  | deviceGetComponentVersion (component : RdcComponent)
  | groupGpuCreate (type : RdcGroupType) (groupName : CText)
  | groupGpuAdd (groupId gpuIndex : Nat)
  | groupGpuGetInfo (groupId : Nat)
  | groupGetAllIds
  | groupGpuDestroy (groupId : Nat)
  | groupFieldCreate (fieldIds : List Nat) (fieldGroupName : CText)
  | groupFieldGetInfo (fieldGroupId : Nat)
  | groupFieldGetAllIds
  | groupFieldDestroy (fieldGroupId : Nat)
  | fieldWatch (groupId fieldGroupId updateFreq : Nat) (maxKeepAge : ℚ) (maxKeepSamples : Nat)
  | fieldUnwatch (groupId fieldGroupId : Nat)
  | fieldGetLatestValue (gpuIndex field : Nat)
  | fieldGetValueSince (gpuIndex field since : Nat)
  | fieldUpdateAll (waitForUpdate : Nat)
  | jobStartStats (groupId : Nat) (jobId : CText) (updateFreq : Nat)
  | jobStopStats (jobId : CText)
  | jobRemove (jobId : CText)
  | jobRemoveAll

/-- The member of the union that the type names. -/
def RdcFieldValue.member (value : RdcFieldValue) : RdcFieldValueData :=
  match value.type with
  | .integer => .lInt value.value.lIntOf
  | .double => .dbl value.value.dblOf
  | .string | .blob => .str value.value.strOf

/-- What a call with `RDC_ST_OK` has written for its caller, without the `status` of a value. -/
inductive ApiValue where
  | none
  | text (bytes : List UInt8)
  | id (id : Nat)
  | ids (ids : List Nat)
  | group (name : List UInt8) (members : List Nat)
  | sample (fieldId ts : Nat) (type : RdcFieldType) (data : RdcFieldValueData)
  | sampleSince (next fieldId ts : Nat) (type : RdcFieldType) (data : RdcFieldValueData)
  deriving DecidableEq

namespace ApiValue

/-- A field value without its status. -/
def ofValue (value : RdcFieldValue) : ApiValue :=
  .sample value.fieldId value.ts value.type value.member

/-- The same, with the time to go on from. -/
def ofSince (next : Nat) (value : RdcFieldValue) : ApiValue :=
  .sampleSince next value.fieldId value.ts value.type value.member

end ApiValue

/-- How a call ends for its caller. -/
abbrev ApiResult := Except Failure ApiValue

/-- The value if the status is `RDC_ST_OK`. -/
def apiResult (status : Status) (value : ApiValue) : ApiResult :=
  (Answer.ofStatus status value).result

/-! ## What a call meets -/

/-- A failed call into the hardware library. `RDC_ST_CLIENT_ERROR` is the client library's own. -/
structure SmiFailure extends Failure where
  ne_clientError : status ≠ .clientError

/-- What the hardware library and the clocks answer during a call. -/
structure CallAnswers where
  deviceCount : Nat
  deviceCount_le : deviceCount ≤ rdcMaxNumDevices
  /-- How the queries for the number of devices end, one after the other. -/
  query : Nat → Option SmiFailure
  /-- `fetch_smi_field` of a gauge. -/
  fetch : Nat → Nat → Except SmiFailure Nat
  /-- `fetch_smi_field` of `RDC_FI_DEV_NAME`: whether it failed, and what the buffer for the name
  holds then, which is text in either case. -/
  deviceName : Nat → Option SmiFailure × CText
  /-- `amdsmi_get_lib_version`: the build, if it succeeds. -/
  libVersion : Option CText
  now : Nat
  delivered : List (Nat × RdcGpuFieldValue)
  cleanUp : Daemon.CleanUpClock
  stop : JobId → Daemon.StopClock

/-- What the buffers of a call hold before it writes to them: those of the caller, and the local
variables of the server. -/
structure CallBuffers where
  value : RdcFieldValue
  nextSince : Nat
  version : CText
  serverValue : RdcFieldValue
  serverNext : Nat
  serverVersion : CText
  serverFieldIds : Vector Nat rdcMaxFieldIdsPerFieldGroup

/-- The surroundings of one call: what others do to the daemon before it, the answers it gets and
the buffers it finds. -/
structure Moment where
  others : List Op
  answers : CallAnswers
  buffers : CallBuffers

namespace CallAnswers

variable (answers : CallAnswers)

/-- The answers to the queries, as the handler takes them. -/
def queries (i : Nat) : Option Failure := (answers.query i).map (·.toFailure)

/-- `get_gpu_gauges`. -/
def gauges : Except Status RdcGpuGauges :=
  EmbeddedHandler.getGpuGauges answers.deviceCount (answers.queries 0) fun gpu field =>
    (answers.fetch gpu field).mapError (·.toFailure)

end CallAnswers

/-! ## In the process of the caller -/

namespace EmbeddedHandler

variable (tel : Telemetry) (answers : CallAnswers) (buffers : CallBuffers)

/-- `RDC_MAX_VERSION_STR_LENGTH`. -/
def rdcMaxVersionStrLength : Nat := 60

/-- `rdc_device_get_attributes`: the status, and the name that the attributes hold then. The name
is copied before anybody looks at the status. -/
def rdcDeviceGetAttributes (gpuIndex : Nat) : Status × List UInt8 :=
  ((answers.deviceName gpuIndex).1.elim .ok (·.status),
    strncpyWithNull (answers.deviceName gpuIndex).2.bytes rdcMaxStrLength)

/-- `rdc_device_get_component_version`, into a buffer that holds `version`. -/
def rdcDeviceGetComponentVersion (version : CText) : RdcComponent → Status × List UInt8
  | .amdsmi =>
    match answers.libVersion with
    | none => (.msiError, version.bytes)
    | some build => (.ok, strncpyWithNull build.bytes rdcMaxVersionStrLength)
  | .other => (.badParameter, version.bytes)

/-- What the two job calls do that read the gauges first. -/
def withGauges (d : Daemon) (call : RdcGpuGauges → Status × Daemon) : Status × Daemon :=
  match answers.gauges with
  | .error status => (status, d)
  | .ok gauges => call gauges

/-- `rdc_field_update_all`. An update that is not waited for is carried out by another thread. -/
def rdcFieldUpdateAll (d : Daemon) (waitForUpdate : Nat) : Status × Daemon :=
  if waitForUpdate = 1 then d.rdcFieldUpdateAll answers.now answers.delivered answers.cleanUp
  else (.ok, d)

/-- `rdc_job_start_stats`. -/
def rdcJobStartStats (d : Daemon) (groupId : Nat) (jobId : JobId) (updateFreq : Nat) :
    Status × Daemon :=
  withGauges answers d fun gauges =>
    (Daemon.rdcJobStartStats tel groupId jobId updateFreq gauges answers.now).run d

/-- `rdc_job_stop_stats`. -/
def rdcJobStopStats (d : Daemon) (jobId : JobId) : Status × Daemon :=
  withGauges answers d fun gauges =>
    (Daemon.rdcJobStopStats jobId gauges (answers.stop jobId)).run d

/-- `rdc_job_remove`. -/
def rdcJobRemove (d : Daemon) (jobId : JobId) : Status × Daemon :=
  (Daemon.rdcJobRemove jobId (answers.stop jobId)).run d

/-- A call that returns a status. -/
def returning (r : Status × Daemon) : ApiResult × Daemon := (apiResult r.1 .none, r.2)

/-- A call that returns what it has found. -/
def finding {α : Type} (r : Except Status α) (value : α → ApiValue) : ApiResult :=
  match r with
  | .error status => apiResult status .none
  | .ok found => .ok (value found)

/-- A call that creates a group. -/
def creating (d : Daemon) (r : Status × Option Nat × GroupSettings) : ApiResult × Daemon :=
  (apiResult r.1 (.id (r.2.1.getD 0)), { d with groupSettings := r.2.2 })

/-- A call of the embedded handler. -/
def call (d : Daemon) : ApiCall → ApiResult × Daemon
  | .deviceGetAll =>
    (finding (rdcDeviceGetAll answers.deviceCount (answers.queries 0)) .ids, d)
  | .deviceGetAttributes gpuIndex =>
    let r := rdcDeviceGetAttributes answers gpuIndex
    (apiResult r.1 (.text r.2), d)
  | .deviceGetComponentVersion component =>
    let r := rdcDeviceGetComponentVersion answers buffers.version component
    (apiResult r.1 (.text r.2), d)
  | .groupGpuCreate type groupName =>
    creating d (rdcGroupGpuCreate answers.deviceCount d.groupSettings type groupName.bytes
      answers.queries)
  | .groupGpuAdd groupId gpuIndex =>
    returning (d.onGroups (rdcGroupGpuAdd answers.deviceCount d.groupSettings groupId gpuIndex
      (answers.queries 0)))
  | .groupGpuGetInfo groupId =>
    (finding (d.groupSettings.rdcGroupGpuGetInfo groupId) fun info =>
      .group info.groupName info.entityIds, d)
  | .groupGetAllIds =>
    let listing := rdcGroupGetAllIds d.groupSettings
    (apiResult listing.status (.ids listing.ids), d)
  | .groupGpuDestroy groupId =>
    returning (d.onGroups (d.groupSettings.rdcGroupGpuDestroy groupId))
  | .groupFieldCreate fieldIds fieldGroupName =>
    creating d (rdcGroupFieldCreate d.groupSettings fieldIds fieldGroupName.bytes)
  | .groupFieldGetInfo fieldGroupId =>
    (finding (d.groupSettings.rdcGroupFieldGetInfo fieldGroupId) fun info =>
      .group info.groupName info.fieldIds, d)
  | .groupFieldGetAllIds =>
    let listing := rdcGroupFieldGetAllIds d.groupSettings
    (apiResult listing.status (.ids listing.ids), d)
  | .groupFieldDestroy fieldGroupId =>
    returning (d.onGroups (d.groupSettings.rdcGroupFieldDestroy fieldGroupId))
  | .fieldWatch groupId fieldGroupId updateFreq maxKeepAge maxKeepSamples =>
    returning (d.rdcFieldWatch tel groupId fieldGroupId updateFreq maxKeepAge maxKeepSamples)
  | .fieldUnwatch groupId fieldGroupId =>
    returning (d.rdcFieldUnwatch groupId fieldGroupId answers.now)
  | .fieldGetLatestValue gpuIndex field =>
    let r := rdcFieldGetLatestValue d.cacheMgr gpuIndex field buffers.value
    (apiResult r.1 (.ofValue r.2), d)
  | .fieldGetValueSince gpuIndex field since =>
    let r := rdcFieldGetValueSince d.cacheMgr gpuIndex field since buffers.nextSince buffers.value
    (apiResult r.1 (.ofSince r.2.1 r.2.2), d)
  | .fieldUpdateAll waitForUpdate => returning (rdcFieldUpdateAll answers d waitForUpdate)
  | .jobStartStats groupId jobId updateFreq =>
    returning (rdcJobStartStats tel answers d groupId jobId.bytes updateFreq)
  | .jobStopStats jobId => returning (rdcJobStopStats answers d jobId.bytes)
  | .jobRemove jobId => returning (rdcJobRemove answers d jobId.bytes)
  | .jobRemoveAll => returning ((Daemon.rdcJobRemoveAll answers.stop).run d)

end EmbeddedHandler

/-! ## Through the daemon

A status goes into a `uint32` and comes out as it was. Every `string` of a message, in a request as
in a reply, has to be UTF-8; a message with another one is refused by its receiver. -/

theorem clientError_ne_ok : Status.clientError ≠ .ok := by decide

/-- A call whose request was not accepted, or whose reply was not. -/
def refused : ApiResult := .error ⟨.clientError, clientError_ne_ok⟩

namespace ApiService

/-- `GetAllDevices`. -/
def getAllDevices (answers : CallAnswers) : AllIdsResponse :=
  match EmbeddedHandler.rdcDeviceGetAll answers.deviceCount (answers.queries 0) with
  | .error status => ⟨status, []⟩
  | .ok gpuIndexList => ⟨.ok, gpuIndexList⟩

/-- `CreateGpuGroup`, for a group of either type. -/
def createGpuGroupOfType (answers : CallAnswers) (gs : GroupSettings) (type : RdcGroupType)
    (groupName : List UInt8) : CreateGpuGroupResponse × GroupSettings :=
  let r := EmbeddedHandler.rdcGroupGpuCreate answers.deviceCount gs type (CString.cStr groupName)
    answers.queries
  (if r.1 ≠ .ok then ⟨r.1, none⟩ else ⟨r.1, r.2.1⟩, r.2.2)

/-- `GetFieldGroupInfo`. A failed call sends its status only. -/
def getFieldGroupInfo (gs : GroupSettings) (fieldGroupId : Nat) : Status × List UInt8 × List Nat :=
  match gs.rdcGroupFieldGetInfo fieldGroupId with
  | .error status => (status, [], [])
  | .ok info => (.ok, info.groupName, info.fieldIds)

end ApiService

namespace StandaloneHandler

variable (tel : Telemetry) (answers : CallAnswers) (buffers : CallBuffers)

/-- `rdc_device_get_all`. -/
def rdcDeviceGetAll : ApiResult :=
  let reply := ApiService.getAllDevices answers
  if reply.status ≠ .ok then apiResult reply.status .none
  else if reply.ids.length > rdcMaxNumDevices then apiResult .badParameter .none
  else .ok (.ids reply.ids)

/-- A reply with a status and a text. The server sends the text whatever the status. -/
def receiveText (reply : Status × List UInt8) (n : Nat) : ApiResult :=
  if CString.utf8 reply.2 then
    apiResult reply.1 (.text (strncpyWithNull (CString.cStr reply.2) n))
  else refused

/-- `rdc_device_get_attributes`. -/
def rdcDeviceGetAttributes (gpuIndex : Nat) : ApiResult :=
  receiveText (EmbeddedHandler.rdcDeviceGetAttributes answers gpuIndex) rdcMaxStrLength

/-- `rdc_device_get_component_version`. -/
def rdcDeviceGetComponentVersion (component : RdcComponent) : ApiResult :=
  receiveText (EmbeddedHandler.rdcDeviceGetComponentVersion answers buffers.serverVersion component)
    EmbeddedHandler.rdcMaxVersionStrLength

/-- `rdc_group_gpu_create`. -/
def rdcGroupGpuCreateOfType (d : Daemon) (type : RdcGroupType) (groupName : List UInt8) :
    ApiResult × Daemon :=
  if CString.utf8 groupName then
    let (reply, gs) := ApiService.createGpuGroupOfType answers d.groupSettings type groupName
    (apiResult reply.status (.id (reply.groupId.getD 0)), { d with groupSettings := gs })
  else (refused, d)

/-- `rdc_group_field_create`. -/
def createFieldGroup (d : Daemon) (fieldIds : List Nat) (fieldGroupName : List UInt8) :
    Option (ApiResult × Daemon) :=
  if CString.utf8 fieldGroupName then
    (rdcGroupFieldCreate d.groupSettings fieldIds (CString.cStr fieldGroupName)
      buffers.serverFieldIds).map fun r =>
        (apiResult r.1 (.id (r.2.1.getD 0)), { d with groupSettings := r.2.2 })
  else some (refused, d)

/-- `rdc_group_field_get_info`. -/
def rdcGroupFieldGetInfo (gs : GroupSettings) (fieldGroupId : Nat) : ApiResult :=
  let (status, groupName, fieldIds) := ApiService.getFieldGroupInfo gs fieldGroupId
  if CString.utf8 groupName then
    if status ≠ .ok then apiResult status .none
    else if fieldIds.length > rdcMaxFieldIdsPerFieldGroup then apiResult .maxLimit .none
    else .ok (.group (strncpyWithNull (CString.cStr groupName) rdcMaxStrLength) fieldIds)
  else refused

/-- A call whose request carries the name of a job. -/
def withJob (d : Daemon) (jobId : List UInt8) (serve : JobId → Status × Daemon) :
    ApiResult × Daemon :=
  if CString.utf8 jobId then EmbeddedHandler.returning (serve (CString.cStr jobId))
  else (refused, d)

/-- A call of the standalone handler, on the daemon at the other end. `none` is a call without a
defined result. -/
def call (d : Daemon) : ApiCall → Option (ApiResult × Daemon)
  | .deviceGetAll => some (rdcDeviceGetAll answers, d)
  | .deviceGetAttributes gpuIndex =>
    some (rdcDeviceGetAttributes answers gpuIndex, d)
  | .deviceGetComponentVersion component =>
    some (rdcDeviceGetComponentVersion answers buffers component, d)
  | .groupGpuCreate type groupName =>
    some (rdcGroupGpuCreateOfType answers d type groupName.bytes)
  | .groupGpuAdd groupId gpuIndex =>
    some (EmbeddedHandler.returning (d.onGroups (EmbeddedHandler.rdcGroupGpuAdd
      answers.deviceCount d.groupSettings groupId gpuIndex (answers.queries 0))))
  | .groupGpuGetInfo groupId =>
    some ((StandaloneHandler.rdcGroupGpuGetInfo [] d.groupSettings groupId).result.map
      (fun info => .group info.groupName info.entityIds), d)
  | .groupGetAllIds =>
    let listing := rdcGroupGetAllIds d.groupSettings
    some (apiResult listing.status (.ids listing.ids), d)
  | .groupGpuDestroy groupId =>
    some (EmbeddedHandler.returning (d.onGroups (d.groupSettings.rdcGroupGpuDestroy groupId)))
  | .groupFieldCreate fieldIds fieldGroupName =>
    createFieldGroup buffers d fieldIds fieldGroupName.bytes
  | .groupFieldGetInfo fieldGroupId =>
    some (rdcGroupFieldGetInfo d.groupSettings fieldGroupId, d)
  | .groupFieldGetAllIds =>
    let listing := rdcGroupFieldGetAllIds d.groupSettings
    some (apiResult listing.status (.ids listing.ids), d)
  | .groupFieldDestroy fieldGroupId =>
    some (EmbeddedHandler.returning
      (d.onGroups (d.groupSettings.rdcGroupFieldDestroy fieldGroupId)))
  | .fieldWatch groupId fieldGroupId updateFreq maxKeepAge maxKeepSamples =>
    some (EmbeddedHandler.returning
      (d.rdcFieldWatch tel groupId fieldGroupId updateFreq maxKeepAge maxKeepSamples))
  | .fieldUnwatch groupId fieldGroupId =>
    some (EmbeddedHandler.returning (d.rdcFieldUnwatch groupId fieldGroupId answers.now))
  | .fieldGetLatestValue gpuIndex field =>
    let r := rdcFieldGetLatestValue d.cacheMgr gpuIndex field buffers.serverValue buffers.value
    some (apiResult r.1 (.ofValue r.2), d)
  | .fieldGetValueSince gpuIndex field since =>
    let r := rdcFieldGetValueSince d.cacheMgr gpuIndex field since buffers.serverNext
      buffers.serverValue buffers.nextSince buffers.value
    some (apiResult r.1 (.ofSince r.2.1 r.2.2), d)
  | .fieldUpdateAll waitForUpdate =>
    some (EmbeddedHandler.returning (EmbeddedHandler.rdcFieldUpdateAll answers d waitForUpdate))
  | .jobStartStats groupId jobId updateFreq =>
    some (withJob d jobId.bytes fun jobId =>
      EmbeddedHandler.rdcJobStartStats tel answers d groupId jobId updateFreq)
  | .jobStopStats jobId =>
    some (withJob d jobId.bytes fun jobId => EmbeddedHandler.rdcJobStopStats answers d jobId)
  | .jobRemove jobId =>
    some (withJob d jobId.bytes fun jobId => EmbeddedHandler.rdcJobRemove answers d jobId)
  | .jobRemoveAll => some (EmbeddedHandler.returning ((Daemon.rdcJobRemoveAll answers.stop).run d))

end StandaloneHandler

/-! ## Clients

A client is any program that makes calls and goes on with what they return. Between its calls the
daemon serves others. -/

/-- A program over the interface. -/
abbrev ApiClient (α : Type) := Client ApiCall ApiResult α

namespace Moment

variable (tel : Telemetry) (m : Moment)

/-- The daemon when the call comes to it. -/
def before (d : Daemon) : Daemon := Machine.run (Daemon.exec tel) d m.others

/-- A call through the embedded handler. -/
def embedded (call : ApiCall) (d : Daemon) : Option (ApiResult × Daemon) :=
  some (EmbeddedHandler.call tel m.answers m.buffers (m.before tel d) call)

/-- A call through the standalone handler. -/
def standalone (call : ApiCall) (d : Daemon) : Option (ApiResult × Daemon) :=
  StandaloneHandler.call tel m.answers m.buffers (m.before tel d) call

end Moment

end Rdc
