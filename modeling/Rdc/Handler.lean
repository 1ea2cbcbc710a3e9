import Rdc.GroupSettings
import Rdc.Lib.Machine

/-!
# The embedded handler

`RdcEmbeddedHandler` in front of the group store: it checks what clients pass against the hardware
and the field table, and it fills a default group with every device. Each check of a device asks
`amdsmi` for the number of devices again, and each of these queries can fail, so a call takes how
its queries end as an argument. The number of devices itself does not change.

The last part is the store as its clients see it: the calls that change it, together with the ids
they have handed out and the ids they have destroyed.
-/

namespace Rdc

open Machine

/-- `rdc_group_type_t`. -/
inductive RdcGroupType where
  | default
  | empty
  deriving DecidableEq

/-- How a failed call into the hardware library ends. -/
structure Failure where
  status : Status
  ne_ok : status ≠ .ok
  deriving DecidableEq

/-- The ids in `rdc_field.data`. -/
def fieldIdToDescript : List Nat :=
  [0, 1, 2, 3, 100, 101, 200, 201, 300, 400, 401, 402] ++ List.range' 500 6 ++ List.range' 600 40 ++
    List.range' 700 18 ++ List.range' 800 11 ++ List.range' 1000 8 ++ List.range' 1500 6 ++
    List.range' 2000 5

/-- `is_field_valid`; `RDC_FI_INVALID` is zero. -/
def isFieldValid (field : Nat) : Bool := field != 0 && fieldIdToDescript.contains field

namespace EmbeddedHandler

/-! ## Devices -/

/-- `rdc_device_get_all`. -/
def rdcDeviceGetAll (deviceCount : Nat) : Option Failure → Except Status (List Nat)
  | some failure => .error failure.status
  | none => .ok (List.range deviceCount)

/-- An optional gauge: a field that cannot be read is left out. -/
def insertFetched (fetch : Nat → Nat → Except Failure Nat) (gpu field : Nat)
    (gauges : RdcGpuGauges) : RdcGpuGauges :=
  match fetch gpu field with
  | .error _ => gauges
  | .ok value => gauges.insertIfNew (gpu, field) value

/-- The loop of `get_gpu_gauges`: total memory must be there, the two ECC counts need not. -/
def fetchGauges (fetch : Nat → Nat → Except Failure Nat) :
    List Nat → RdcGpuGauges → Except Status RdcGpuGauges
  | [], gauges => .ok gauges
  | gpu :: gpus, gauges =>
    match fetch gpu rdcFiGpuMemoryTotal with
    | .error failure => .error failure.status
    | .ok total =>
      fetchGauges fetch gpus
        (insertFetched fetch gpu rdcFiEccUncorrectTotal
          (insertFetched fetch gpu rdcFiEccCorrectTotal
            (gauges.insertIfNew (gpu, rdcFiGpuMemoryTotal) total)))

/-- `get_gpu_gauges`. -/
def getGpuGauges (deviceCount : Nat) (query : Option Failure)
    (fetch : Nat → Nat → Except Failure Nat) : Except Status RdcGpuGauges :=
  match rdcDeviceGetAll deviceCount query with
  | .error status => .error status
  | .ok gpuIndexList => fetchGauges fetch gpuIndexList ∅

/-! ## Groups -/

/-- `rdc_group_gpu_add`. -/
def rdcGroupGpuAdd (deviceCount : Nat) (gs : GroupSettings) (groupId gpuIndex : Nat)
    (query : Option Failure) : Status × GroupSettings :=
  match rdcDeviceGetAll deviceCount query with
  | .error status => (status, gs)
  | .ok gpuIndexList =>
    if gpuIndexList.contains gpuIndex then gs.rdcGroupGpuAdd groupId gpuIndex
    else (.notFound, gs)

/-- The loop of `rdc_group_gpu_create`: every device is tried, and the status is that of the last.
-/
def addAll (deviceCount : Nat) (groupId : Nat) (queries : Nat → Option Failure)
    (gpuIndexList : List Nat) (r : Status × GroupSettings) : Status × GroupSettings :=
  gpuIndexList.foldl
    (fun r gpu => rdcGroupGpuAdd deviceCount r.2 groupId gpu (queries (gpu + 1))) r

/-- `rdc_group_gpu_create`: the status, the id if one was written, and the store. Query `0` is the
call's own, query `i + 1` that of adding device `i`. -/
def rdcGroupGpuCreate (deviceCount : Nat) (gs : GroupSettings) (type : RdcGroupType)
    (groupName : List UInt8) (queries : Nat → Option Failure) :
    Status × Option Nat × GroupSettings :=
  match gs.rdcGroupGpuCreate groupName with
  | (status, none, gs') => (status, none, gs')
  | (status, some groupId, gs') =>
    if status ≠ .ok ∨ type = .empty then (status, some groupId, gs')
    else
      match rdcDeviceGetAll deviceCount (queries 0) with
      | .error status => (status, some groupId, gs')
      | .ok gpuIndexList =>
        let r := addAll deviceCount groupId queries gpuIndexList (.ok, gs')
        (r.1, some groupId, r.2)

/-- `rdc_group_field_create`. -/
def rdcGroupFieldCreate (gs : GroupSettings) (fieldIds : List Nat) (fieldGroupName : List UInt8) :
    Status × Option Nat × GroupSettings :=
  if fieldIds.length ≤ rdcMaxFieldIdsPerFieldGroup then
    if fieldIds.all isFieldValid then gs.rdcGroupFieldCreate fieldIds fieldGroupName
    else (.notSupported, none, gs)
  else
    (.maxLimit, none, gs)

end EmbeddedHandler

/-! ## The store and its history -/

/-- A call through the handler that may change the group store. -/
inductive GroupOp where
  | gpuCreate (type : RdcGroupType) (groupName : List UInt8) (queries : Nat → Option Failure)
  | gpuAdd (groupId gpuIndex : Nat) (query : Option Failure)
  | gpuDestroy (groupId : Nat)
  | fieldCreate (fieldIds : List Nat) (fieldGroupName : List UInt8)
  | fieldDestroy (fieldGroupId : Nat)

/-- The store, the ids handed out so far, and the ids destroyed so far. -/
structure GroupHistory where
  store : GroupSettings
  gpuIds : List Nat
  gpuGone : List Nat
  fieldIds : List Nat
  fieldGone : List Nat

namespace GroupHistory

/-- One call, and what it adds to the history. An id that was written counts as handed out, whatever
the status. -/
def exec (deviceCount : Nat) (s : GroupHistory) : GroupOp → Status × GroupHistory
  | .gpuCreate type groupName queries =>
    let r := EmbeddedHandler.rdcGroupGpuCreate deviceCount s.store type groupName queries
    (r.1, { s with store := r.2.2, gpuIds := s.gpuIds ++ r.2.1.toList })
  | .gpuAdd groupId gpuIndex query =>
    let r := EmbeddedHandler.rdcGroupGpuAdd deviceCount s.store groupId gpuIndex query
    (r.1, { s with store := r.2 })
  | .gpuDestroy groupId =>
    let r := s.store.rdcGroupGpuDestroy groupId
    (r.1, { s with
      store := r.2
      gpuGone := if r.1 = .ok then s.gpuGone ++ [groupId] else s.gpuGone })
  | .fieldCreate fieldIds fieldGroupName =>
    let r := EmbeddedHandler.rdcGroupFieldCreate s.store fieldIds fieldGroupName
    (r.1, { s with store := r.2.2, fieldIds := s.fieldIds ++ r.2.1.toList })
  | .fieldDestroy fieldGroupId =>
    let r := s.store.rdcGroupFieldDestroy fieldGroupId
    (r.1, { s with
      store := r.2
      fieldGone := if r.1 = .ok then s.fieldGone ++ [fieldGroupId] else s.fieldGone })

/-- A new handler. -/
def init : GroupHistory := ⟨GroupSettings.init, [], [], [], []⟩

/-- The history after a list of calls. -/
def after (deviceCount : Nat) (ops : List GroupOp) : GroupHistory := run (exec deviceCount) init ops

end GroupHistory

end Rdc
