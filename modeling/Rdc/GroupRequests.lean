import Rdc.Standalone
import Rdc.Lib.CString

/-!
# Requests about GPU groups

The calls that `rdci group` makes, through the server and the client library: create a group, add a
GPU to it, look at it, list all groups, destroy one. A `string` of a message has to be UTF-8, in a
request as in a reply. Otherwise the receiver's library refuses the message, and the client library
prints what the transport has to say about it.

A group goes out of the store as the server's local `group_info`, travels as a message, and ends up
in the `group_info` of the caller.
-/

namespace Rdc

/-! ## The server -/

/-- `CreateGpuGroupResponse`. -/
structure CreateGpuGroupResponse where
  status : Status
  groupId : Option Nat
  deriving DecidableEq

/-- `GetGpuGroupInfoResponse`. -/
structure GetGpuGroupInfoResponse where
  status : Status
  groupName : List UInt8
  entityIds : List Nat
  deriving DecidableEq

/-- What the hardware library answers when a GPU is added to a group. -/
structure DeviceAnswers where
  deviceCount : Nat
  query : Nat → Nat → Option Failure

namespace ApiService

/-- `CreateGpuGroup`, for an empty group. -/
def createGpuGroup (hw : DeviceAnswers) (gs : GroupSettings) (groupName : List UInt8) :
    CreateGpuGroupResponse × GroupSettings :=
  let r := EmbeddedHandler.rdcGroupGpuCreate hw.deviceCount gs .empty (CString.cStr groupName)
    fun _ => none
  (if r.1 ≠ .ok then ⟨r.1, none⟩ else ⟨r.1, r.2.1⟩, r.2.2)

/-- `AddToGpuGroup`. -/
def addToGpuGroup (hw : DeviceAnswers) (gs : GroupSettings) (groupId gpuIndex : Nat) :
    Status × GroupSettings :=
  EmbeddedHandler.rdcGroupGpuAdd hw.deviceCount gs groupId gpuIndex (hw.query groupId gpuIndex)

/-- `DestroyGpuGroup`. -/
def destroyGpuGroup (gs : GroupSettings) (groupId : Nat) : Status × GroupSettings :=
  gs.rdcGroupGpuDestroy groupId

/-- `GetGpuGroupInfo`. A failed call sends its status only. -/
def getGpuGroupInfo (gs : GroupSettings) (groupId : Nat) : GetGpuGroupInfoResponse :=
  match gs.rdcGroupGpuGetInfo groupId with
  | .error status => ⟨status, [], []⟩
  | .ok info => ⟨.ok, info.groupName, info.entityIds⟩

end ApiService

/-! ## The client -/

/-- What a call of the client library comes to: its result, and what it prints on the way. -/
structure Answer (α : Type) where
  result : Except Failure α
  printed : List UInt8

/-- `rdc_group_info_t` of a caller of `rdc_group_gpu_get_info`. -/
structure GroupInfo where
  groupName : List UInt8
  entityIds : List Nat
  count_le : entityIds.length ≤ rdcGroupMaxEntities

namespace Answer

/-- The value if the status is `RDC_ST_OK`. -/
def ofStatus {α : Type} (status : Status) (value : α) : Answer α :=
  ⟨if h : status = .ok then .ok value else .error ⟨status, h⟩, []⟩

/-- `error_handle` after a message that was refused. -/
def refused {α : Type} (grpcError : List UInt8) : Answer α :=
  ⟨.error ⟨.clientError, by decide⟩, grpcError⟩

end Answer

namespace StandaloneHandler

variable (grpcError : List UInt8)

/-- `rdc_group_gpu_create`, for an empty group. -/
def rdcGroupGpuCreate (hw : DeviceAnswers) (gs : GroupSettings) (groupName : List UInt8) :
    Answer Nat × GroupSettings :=
  if CString.utf8 groupName then
    let (reply, gs') := ApiService.createGpuGroup hw gs groupName
    (.ofStatus reply.status (reply.groupId.getD 0), gs')
  else (.refused grpcError, gs)

/-- `rdc_group_gpu_add`. -/
def rdcGroupGpuAdd (hw : DeviceAnswers) (gs : GroupSettings) (groupId gpuIndex : Nat) :
    Answer Unit × GroupSettings :=
  let r := ApiService.addToGpuGroup hw gs groupId gpuIndex
  (.ofStatus r.1 (), r.2)

/-- `rdc_group_gpu_destroy`. -/
def rdcGroupGpuDestroy (gs : GroupSettings) (groupId : Nat) : Answer Unit × GroupSettings :=
  let r := ApiService.destroyGpuGroup gs groupId
  (.ofStatus r.1 (), r.2)

/-- `rdc_group_gpu_get_info`. -/
def rdcGroupGpuGetInfo (gs : GroupSettings) (groupId : Nat) : Answer GroupInfo :=
  let reply := ApiService.getGpuGroupInfo gs groupId
  if CString.utf8 reply.groupName then
    if h : reply.entityIds.length ≤ rdcGroupMaxEntities then
      .ofStatus reply.status
        ⟨strncpyWithNull (CString.cStr reply.groupName) rdcMaxStrLength, reply.entityIds, h⟩
    else
      -- the status of the reply is looked at first
      ⟨.error (if hs : reply.status = .ok then ⟨.maxLimit, by decide⟩ else ⟨reply.status, hs⟩), []⟩
  else .refused grpcError

/-- `rdc_group_get_all_ids`, as a caller sees it who has room for the ids. -/
def listAllIds (gs : GroupSettings) : Answer (List Nat) :=
  let listing := rdcGroupGetAllIds gs
  .ofStatus listing.status listing.ids

end StandaloneHandler

/-! ## What a client is given -/

/-- The calls, over the state of whatever is at the other end. -/
structure GroupApi (σ : Type) where
  rdcGroupGpuCreate (groupName : List UInt8) : σ → Answer Nat × σ
  rdcGroupGpuAdd (groupId gpuIndex : Nat) : σ → Answer Unit × σ
  rdcGroupGpuDestroy (groupId : Nat) : σ → Answer Unit × σ
  rdcGroupGetAllIds : σ → Answer (List Nat) × σ
  rdcGroupGpuGetInfo (groupId : Nat) : σ → Answer GroupInfo × σ

/-- The client library, and a daemon that has no other client at the time. -/
def GroupApi.standalone (grpcError : List UInt8) (hw : DeviceAnswers) : GroupApi GroupSettings where
  rdcGroupGpuCreate groupName gs :=
    StandaloneHandler.rdcGroupGpuCreate grpcError hw gs groupName
  rdcGroupGpuAdd groupId gpuIndex gs := StandaloneHandler.rdcGroupGpuAdd hw gs groupId gpuIndex
  rdcGroupGpuDestroy groupId gs := StandaloneHandler.rdcGroupGpuDestroy gs groupId
  rdcGroupGetAllIds gs := (StandaloneHandler.listAllIds gs, gs)
  rdcGroupGpuGetInfo groupId gs :=
    (StandaloneHandler.rdcGroupGpuGetInfo grpcError gs groupId, gs)

end Rdc
