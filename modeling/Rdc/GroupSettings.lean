import Rdc.Types
import Mathlib.Data.List.Nodup

/-!
# The group store

`RdcGroupSettingsImpl`: GPU groups and field groups under numeric ids. Ids come from two 32-bit
counters and are handed out in order; `emplace` leaves an existing group alone, which only matters
once a counter has wrapped. Field group `0` is created by the constructor and holds the fields every
job watches.

The arrays inside a group (`entity_ids`, `field_ids`) carry their capacity as part of the type, so
an overfull group cannot be written down.
-/

namespace Rdc

/-- `rdc_group_info_t`. `count` is the length of `entityIds`. -/
structure RdcGroupInfo where
  groupName : List UInt8
  entityIds : List Nat
  count_le : entityIds.length ≤ rdcGroupMaxEntities
  nodup : entityIds.Nodup
  deriving DecidableEq

/-- `rdc_field_group_info_t`. `count` is the length of `fieldIds`. -/
structure RdcFieldGroupInfo where
  groupName : List UInt8
  fieldIds : List Nat
  count_le : fieldIds.length ≤ rdcMaxFieldIdsPerFieldGroup
  deriving DecidableEq

/-- `RdcGroupSettingsImpl`. -/
structure GroupSettings where
  gpuGroup : IdMap RdcGroupInfo
  fieldGroup : IdMap RdcFieldGroupInfo
  curGroupId : Nat
  curFieldGroupId : Nat
  deriving DecidableEq

namespace GroupSettings

/-- `rdc_group_gpu_create`: the status and, on success, the id. -/
def rdcGroupGpuCreate (gs : GroupSettings) (groupName : List UInt8) :
    Status × Option Nat × GroupSettings :=
  if gs.gpuGroup.size ≥ rdcMaxNumGroups then
    (.maxLimit, none, gs)
  else
    let ginfo : RdcGroupInfo :=
      ⟨strncpyWithNull groupName rdcMaxStrLength, [], by decide, List.nodup_nil⟩
    (.ok, some gs.curGroupId,
      { gs with
        gpuGroup := gs.gpuGroup.insertIfNew gs.curGroupId ginfo
        curGroupId := u32Succ gs.curGroupId })

/-- `rdc_group_gpu_destroy`. -/
def rdcGroupGpuDestroy (gs : GroupSettings) (groupId : Nat) : Status × GroupSettings :=
  if groupId ∈ gs.gpuGroup then
    (.ok, { gs with gpuGroup := gs.gpuGroup.erase groupId })
  else
    (.notFound, gs)

/-- `rdc_group_gpu_add`. -/
def rdcGroupGpuAdd (gs : GroupSettings) (groupId gpuIndex : Nat) : Status × GroupSettings :=
  match gs.gpuGroup[groupId]? with
  | none => (.notFound, gs)
  | some info =>
    -- the loop over the existing members runs before the capacity test
    if hin : gpuIndex ∈ info.entityIds then
      (.badParameter, gs)
    else if hlt : info.entityIds.length < rdcGroupMaxEntities then
      let info' : RdcGroupInfo :=
        { info with
          entityIds := info.entityIds ++ [gpuIndex]
          count_le := by rw [List.length_append]; exact hlt
          nodup := List.Nodup.append info.nodup (List.nodup_singleton _)
            (List.disjoint_singleton.mpr hin) }
      (.ok, { gs with gpuGroup := gs.gpuGroup.insert groupId info' })
    else
      (.maxLimit, gs)

/-- `rdc_group_gpu_get_info`. -/
def rdcGroupGpuGetInfo (gs : GroupSettings) (groupId : Nat) : Except Status RdcGroupInfo :=
  match gs.gpuGroup[groupId]? with
  | none => .error .notFound
  | some info =>
    .ok { info with groupName := strncpyWithNull info.groupName rdcMaxStrLength }

/-- `rdc_group_field_create`: the status and, on success, the id. -/
def rdcGroupFieldCreate (gs : GroupSettings) (fieldIds : List Nat) (fieldGroupName : List UInt8) :
    Status × Option Nat × GroupSettings :=
  if hle : fieldIds.length ≤ rdcMaxFieldIdsPerFieldGroup then
    if gs.fieldGroup.size ≥ rdcMaxNumFieldGroups then
      (.maxLimit, none, gs)
    else
      let finfo : RdcFieldGroupInfo :=
        ⟨strncpyWithNull fieldGroupName rdcMaxStrLength, fieldIds, hle⟩
      (.ok, some gs.curFieldGroupId,
        { gs with
          fieldGroup := gs.fieldGroup.insertIfNew gs.curFieldGroupId finfo
          curFieldGroupId := u32Succ gs.curFieldGroupId })
  else
    (.maxLimit, none, gs)

/-- `rdc_group_field_destroy`. -/
def rdcGroupFieldDestroy (gs : GroupSettings) (fieldGroupId : Nat) : Status × GroupSettings :=
  if fieldGroupId = jobFieldId then
    (.badParameter, gs)
  else if fieldGroupId ∈ gs.fieldGroup then
    (.ok, { gs with fieldGroup := gs.fieldGroup.erase fieldGroupId })
  else
    (.notFound, gs)

/-- `rdc_group_field_get_info`. -/
def rdcGroupFieldGetInfo (gs : GroupSettings) (fieldGroupId : Nat) :
    Except Status RdcFieldGroupInfo :=
  match gs.fieldGroup[fieldGroupId]? with
  | none => .error .notFound
  | some info =>
    .ok { info with groupName := strncpyWithNull info.groupName rdcMaxStrLength }

/-- The listing loop over the ids of a table. The limit is tested before an id is skipped, and a
loop that stops there leaves what it has copied so far. -/
def listIds (limit : Nat) (skip : Nat → Bool) : List Nat → List Nat → Status × List Nat
  | [], copied => (.ok, copied)
  | id :: ids, copied =>
    if copied.length ≥ limit then (.maxLimit, copied)
    else if skip id then listIds limit skip ids copied
    else listIds limit skip ids (copied ++ [id])

/-- `rdc_group_get_all_ids`. `count` is the length of the list. -/
def rdcGroupGetAllIds (gs : GroupSettings) : Status × List Nat :=
  listIds rdcMaxNumGroups (fun _ => false) gs.gpuGroup.keys []

/-- `rdc_group_field_get_all_ids`. -/
def rdcGroupFieldGetAllIds (gs : GroupSettings) : Status × List Nat :=
  listIds rdcMaxNumFieldGroups (fun id => id == jobFieldId) gs.fieldGroup.keys []

/-- The fields the constructor puts into field group `JOB_FIELD_ID`. -/
def jobFields : List Nat :=
  [rdcFiGpuMemoryUsage, rdcFiPowerUsage, rdcFiGpuClock, rdcFiGpuUtil, rdcFiPcieTx, rdcFiPcieRx,
    rdcFiMemClock, rdcFiGpuTemp]

theorem length_jobFields_le : jobFields.length ≤ rdcMaxFieldIdsPerFieldGroup := by decide

/-- "JobStatsFields". -/
def jobFieldGroupName : List UInt8 :=
  [74, 111, 98, 83, 116, 97, 116, 115, 70, 105, 101, 108, 100, 115]

/-- The constructor. -/
def init : GroupSettings :=
  (rdcGroupFieldCreate ⟨∅, ∅, 1, 0⟩ jobFields jobFieldGroupName).2.2

/-! ## Which keys a pair of groups stands for -/

/-- Both groups of a watch table key are in the store. -/
def Live (gs : GroupSettings) (e : RdcFieldGroupKey) : Prop :=
  e.1 ∈ gs.gpuGroup ∧ e.2 ∈ gs.fieldGroup

instance (gs : GroupSettings) (e : RdcFieldGroupKey) : Decidable (gs.Live e) :=
  inferInstanceAs (Decidable (_ ∧ _))

/-- The GPU of `k` is in the GPU group of `e` and its field in the field group. -/
def Covers (gs : GroupSettings) (e : RdcFieldGroupKey) (k : RdcFieldKey) : Prop :=
  ∃ ginfo finfo, gs.gpuGroup[e.1]? = some ginfo ∧ gs.fieldGroup[e.2]? = some finfo
    ∧ k.1 ∈ ginfo.entityIds ∧ k.2 ∈ finfo.fieldIds

/-- The loops of `get_fields_from_group`: GPUs outside, fields inside. -/
def expandGroups (ginfo : RdcGroupInfo) (finfo : RdcFieldGroupInfo) : List RdcFieldKey :=
  ginfo.entityIds.flatMap fun gpu => finfo.fieldIds.map fun field => (gpu, field)

/-- `RdcWatchTableImpl::get_fields_from_group`. -/
def getFieldsFromGroup (gs : GroupSettings) (groupId fieldGroupId : Nat) :
    Except Status (List RdcFieldKey) := do
  let ginfo ← gs.rdcGroupGpuGetInfo groupId
  let finfo ← gs.rdcGroupFieldGetInfo fieldGroupId
  return expandGroups ginfo finfo

variable {e : RdcFieldGroupKey}

/-- Expanding a pair of groups fails only with `RDC_ST_NOT_FOUND`, when one of them is gone. -/
theorem getFieldsFromGroup_error {gs : GroupSettings} (h : ¬ gs.Live e) :
    gs.getFieldsFromGroup e.1 e.2 = .error .notFound := by
  unfold getFieldsFromGroup rdcGroupGpuGetInfo rdcGroupFieldGetInfo
  cases hg : gs.gpuGroup[e.1]? with
  | none => rfl
  | some ginfo =>
    cases hf : gs.fieldGroup[e.2]? with
    | none => rfl
    | some finfo =>
      refine absurd ⟨?_, ?_⟩ h
      · exact OrdMap.mem_of_getElem? hg
      · exact OrdMap.mem_of_getElem? hf

/-- Otherwise it succeeds, and lists exactly the keys the pair covers. -/
theorem getFieldsFromGroup_ok {gs : GroupSettings} (h : gs.Live e) :
    ∃ ks, gs.getFieldsFromGroup e.1 e.2 = .ok ks ∧ ∀ k, k ∈ ks ↔ gs.Covers e k := by
  obtain ⟨ginfo, hg⟩ := OrdMap.exists_getElem?_of_mem h.1
  obtain ⟨finfo, hf⟩ := OrdMap.exists_getElem?_of_mem h.2
  refine ⟨expandGroups ginfo finfo, ?_, ?_⟩
  · unfold getFieldsFromGroup rdcGroupGpuGetInfo rdcGroupFieldGetInfo
    rw [hg, hf]
    rfl
  · rintro ⟨gpu, field⟩
    simp only [expandGroups, List.mem_flatMap, List.mem_map, Prod.mk.injEq, Covers, hg, hf,
      Option.some.injEq]
    constructor
    · rintro ⟨i, hi, j, hj, rfl, rfl⟩
      exact ⟨ginfo, finfo, rfl, rfl, hi, hj⟩
    · rintro ⟨_, _, rfl, rfl, hi, hj⟩
      exact ⟨gpu, hi, field, hj, rfl, rfl⟩

theorem Covers.live {gs : GroupSettings} {k : RdcFieldKey} (h : gs.Covers e k) : gs.Live e := by
  obtain ⟨ginfo, finfo, hg, hf, -, -⟩ := h
  exact ⟨OrdMap.mem_of_getElem? hg, OrdMap.mem_of_getElem? hf⟩

end GroupSettings

end Rdc
