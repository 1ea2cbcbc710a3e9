import Rdc.Handler
import Mathlib.Data.List.Perm.Subperm

/-!
# Creating a default group

`rdc_group_gpu_create` with type `RDC_GROUP_DEFAULT` inserts an empty group and then adds the
devices one by one. Nothing is undone when an addition fails, and the status is that of the last
addition only. The loop is described once for any list of devices (`addAll_spec`), with the two runs
of it that say nothing or everything succeeded; the theorem at the end says exactly when the call as
a whole is all or nothing.
-/

namespace Rdc.Proof

open Std (ExtTreeMap)
open OrdMap EmbeddedHandler

/-! ## Adding one device -/

section Add

variable {deviceCount g gpu : Nat} {gs : GroupSettings} {info : RdcGroupInfo}

/-- Adding the device changes nothing: its query fails, or the store refuses. -/
def AddFails (queries : Nat → Option Failure) (info : RdcGroupInfo) (gpu : Nat) : Prop :=
  queries (gpu + 1) ≠ none ∨ gpu ∈ info.entityIds ∨ rdcGroupMaxEntities ≤ info.entityIds.length

/-- The store with one group replaced. -/
def withGroup (gs : GroupSettings) (g : Nat) (info : RdcGroupInfo) : GroupSettings :=
  { gs with gpuGroup := gs.gpuGroup.insert g info }

theorem getElem?_withGroup (gs : GroupSettings) (g a : Nat) (info : RdcGroupInfo) :
    (withGroup gs g info).gpuGroup[a]? = if g = a then some info else gs.gpuGroup[a]? :=
  getElem?_insert' ..

theorem withGroup_withGroup (gs : GroupSettings) (g : Nat) (info info' : RdcGroupInfo) :
    withGroup (withGroup gs g info) g info' = withGroup gs g info' := by
  have hmap : (gs.gpuGroup.insert g info).insert g info' = gs.gpuGroup.insert g info' := by
    refine ExtTreeMap.ext_getElem? fun a => ?_
    rw [getElem?_insert', getElem?_insert', getElem?_insert']
    split <;> rfl
  unfold withGroup
  rw [hmap]

theorem withGroup_self (hg : gs.gpuGroup[g]? = some info) : withGroup gs g info = gs := by
  have hmap : gs.gpuGroup.insert g info = gs.gpuGroup := by
    refine ExtTreeMap.ext_getElem? fun a => ?_
    rw [getElem?_insert']
    split
    · rename_i hga
      rw [← hga, hg]
    · rfl
  unfold withGroup
  rw [hmap]

theorem storeAdd_cases (hg : gs.gpuGroup[g]? = some info) (gpu : Nat) :
    ((gpu ∈ info.entityIds ∨ rdcGroupMaxEntities ≤ info.entityIds.length)
      ∧ ∃ status, status ≠ .ok ∧ gs.rdcGroupGpuAdd g gpu = (status, gs))
    ∨ (gpu ∉ info.entityIds ∧ info.entityIds.length < rdcGroupMaxEntities
      ∧ ∃ info' : RdcGroupInfo, info'.entityIds = info.entityIds ++ [gpu]
        ∧ gs.rdcGroupGpuAdd g gpu = (.ok, withGroup gs g info')) := by
  unfold GroupSettings.rdcGroupGpuAdd
  rw [hg]
  dsimp only
  by_cases hin : gpu ∈ info.entityIds
  · rw [dif_pos hin]
    exact Or.inl ⟨Or.inl hin, .badParameter, by decide, rfl⟩
  · rw [dif_neg hin]
    by_cases hlt : info.entityIds.length < rdcGroupMaxEntities
    · rw [dif_pos hlt]
      exact Or.inr ⟨hin, hlt, _, rfl, rfl⟩
    · rw [dif_neg hlt]
      exact Or.inl ⟨Or.inr (by omega), .maxLimit, by decide, rfl⟩

theorem add_cases (queries : Nat → Option Failure) (hg : gs.gpuGroup[g]? = some info)
    (hgpu : gpu < deviceCount) :
    (AddFails queries info gpu ∧ ∃ status, status ≠ .ok
      ∧ rdcGroupGpuAdd deviceCount gs g gpu (queries (gpu + 1)) = (status, gs))
    ∨ (¬ AddFails queries info gpu ∧ ∃ info' : RdcGroupInfo,
      info'.entityIds = info.entityIds ++ [gpu]
      ∧ rdcGroupGpuAdd deviceCount gs g gpu (queries (gpu + 1)) = (.ok, withGroup gs g info')) := by
  unfold rdcGroupGpuAdd AddFails
  cases hq : queries (gpu + 1) with
  | some failure =>
    exact Or.inl ⟨Or.inl (by simp), failure.status, failure.ne_ok, rfl⟩
  | none =>
    have hmem : (List.range deviceCount).contains gpu = true :=
      List.contains_iff_mem.mpr (List.mem_range.mpr hgpu)
    dsimp only [rdcDeviceGetAll]
    rw [if_pos hmem]
    rcases storeAdd_cases hg gpu with ⟨hno, hres⟩ | ⟨hin, hlt, hres⟩
    · exact Or.inl ⟨Or.inr hno, hres⟩
    · refine Or.inr ⟨?_, hres⟩
      intro hfail
      rcases hfail with hquery | hmember | hfull
      · exact hquery rfl
      · exact hin hmember
      · omega

end Add

/-! ## Adding a list of devices -/

variable {info : RdcGroupInfo}

section AddAll

variable {deviceCount g : Nat} (queries : Nat → Option Failure)

/-- The loop replaces the one group. It only appends devices whose query succeeded, and if it
appends none then every addition failed. -/
theorem addAll_spec {gpus : List Nat} (hlt : ∀ gpu ∈ gpus, gpu < deviceCount) {gs : GroupSettings}
    (hg : gs.gpuGroup[g]? = some info) (status : Status) :
    ∃ info' : RdcGroupInfo,
      (addAll deviceCount g queries gpus (status, gs)).2 = withGroup gs g info'
      ∧ info.entityIds <+: info'.entityIds
      ∧ (∀ gpu ∈ info'.entityIds, gpu ∈ info.entityIds ∨ (gpu ∈ gpus ∧ queries (gpu + 1) = none))
      ∧ (info' = info → ∀ gpu ∈ gpus, AddFails queries info gpu) := by
  induction gpus generalizing gs info status with
  | nil =>
    refine ⟨info, (withGroup_self hg).symm, List.prefix_rfl, fun gpu h => Or.inl h, ?_⟩
    intro _ gpu hgpu
    exact absurd hgpu List.not_mem_nil
  | cons gpu gpus ih =>
    have hlt' : ∀ gpu' ∈ gpus, gpu' < deviceCount := fun gpu' h =>
      hlt gpu' (List.mem_cons_of_mem _ h)
    rcases add_cases queries hg (hlt gpu (List.mem_cons_self ..)) with
      ⟨hfail, status', -, hres⟩ | ⟨hnot, info₁, hids, hres⟩
    · -- the loop goes on after a failure, with the group as it was
      obtain ⟨info', hstore, hpre, hmem, hsame⟩ := ih hlt' hg status'
      refine ⟨info', ?_, hpre, ?_, ?_⟩
      · rw [← hstore, addAll, List.foldl_cons, hres]
        rfl
      · intro gpu' h
        rcases hmem gpu' h with hold | ⟨hin, hq⟩
        · exact Or.inl hold
        · exact Or.inr ⟨List.mem_cons_of_mem _ hin, hq⟩
      · intro heq gpu' h
        rcases List.mem_cons.mp h with hhead | htail
        · rw [hhead]
          exact hfail
        · exact hsame heq gpu' htail
    · have hg₁ : (withGroup gs g info₁).gpuGroup[g]? = some info₁ := by
        rw [getElem?_withGroup, if_pos rfl]
      obtain ⟨info', hstore, hpre, hmem, -⟩ := ih hlt' hg₁ .ok
      rw [hids] at hpre
      refine ⟨info', ?_, (List.prefix_append _ _).trans hpre, ?_, ?_⟩
      · rw [← withGroup_withGroup gs g info₁, ← hstore, addAll, List.foldl_cons, hres]
        rfl
      · intro gpu' h
        rcases hmem gpu' h with hold | ⟨hin, hq⟩
        · rw [hids] at hold
          rcases List.mem_append.mp hold with hold | hnew
          · exact Or.inl hold
          · rw [List.mem_singleton.mp hnew]
            refine Or.inr ⟨List.mem_cons_self .., ?_⟩
            by_contra hq
            exact hnot (Or.inl hq)
        · exact Or.inr ⟨List.mem_cons_of_mem _ hin, hq⟩
      · -- the group has grown, so it is not what it was
        intro heq
        have hlen := hpre.length_le
        rw [heq, List.length_append, List.length_singleton] at hlen
        omega

/-- If every addition fails, the store stays as it is, and so does the status unless there was an
addition to fail. -/
theorem addAll_of_fails {gpus : List Nat} (hlt : ∀ gpu ∈ gpus, gpu < deviceCount)
    {gs : GroupSettings} (hg : gs.gpuGroup[g]? = some info)
    (hfail : ∀ gpu ∈ gpus, AddFails queries info gpu) (status : Status) :
    (addAll deviceCount g queries gpus (status, gs)).2 = gs
    ∧ ((addAll deviceCount g queries gpus (status, gs)).1 = .ok → gpus = [] ∧ status = .ok) := by
  induction gpus generalizing status with
  | nil => exact ⟨rfl, fun h => ⟨rfl, h⟩⟩
  | cons gpu gpus ih =>
    rcases add_cases queries hg (hlt gpu (List.mem_cons_self ..)) with
      ⟨-, status', hne, hres⟩ | ⟨hnot, -⟩
    · obtain ⟨hstore, hstatus⟩ := ih (fun gpu' h => hlt gpu' (List.mem_cons_of_mem _ h))
        (fun gpu' h => hfail gpu' (List.mem_cons_of_mem _ h)) status'
      have hstep : addAll deviceCount g queries (gpu :: gpus) (status, gs)
          = addAll deviceCount g queries gpus (status', gs) := by
        rw [addAll, List.foldl_cons, hres]
        rfl
      rw [hstep]
      exact ⟨hstore, fun h => absurd (hstatus h).2 hne⟩
    · exact absurd (hfail gpu (List.mem_cons_self ..)) hnot

/-- If every query succeeds and there is room, every device is added. -/
theorem addAll_of_succeeds {gpus : List Nat} (hlt : ∀ gpu ∈ gpus, gpu < deviceCount)
    (hnd : gpus.Nodup) {gs : GroupSettings} (hg : gs.gpuGroup[g]? = some info)
    (hq : ∀ gpu ∈ gpus, queries (gpu + 1) = none) (hnew : ∀ gpu ∈ gpus, gpu ∉ info.entityIds)
    (hroom : info.entityIds.length + gpus.length ≤ rdcGroupMaxEntities) :
    ∃ info' : RdcGroupInfo, info'.entityIds = info.entityIds ++ gpus
      ∧ addAll deviceCount g queries gpus (.ok, gs) = (.ok, withGroup gs g info') := by
  induction gpus generalizing gs info with
  | nil => exact ⟨info, (List.append_nil _).symm, by rw [withGroup_self hg]; rfl⟩
  | cons gpu gpus ih =>
    obtain ⟨hhead, hnd'⟩ := List.nodup_cons.mp hnd
    rw [List.length_cons] at hroom
    rcases add_cases queries hg (hlt gpu (List.mem_cons_self ..)) with
      ⟨hfail, -⟩ | ⟨-, info₁, hids, hres⟩
    · -- each way to fail is excluded by one of the hypotheses
      rcases hfail with hquery | hmember | hfull
      · exact absurd (hq gpu (List.mem_cons_self ..)) hquery
      · exact absurd hmember (hnew gpu (List.mem_cons_self ..))
      · omega
    · have hg₁ : (withGroup gs g info₁).gpuGroup[g]? = some info₁ := by
        rw [getElem?_withGroup, if_pos rfl]
      have hnew₁ : ∀ gpu' ∈ gpus, gpu' ∉ info₁.entityIds := by
        intro gpu' h hin
        rw [hids] at hin
        rcases List.mem_append.mp hin with hold | hlast
        · exact hnew gpu' (List.mem_cons_of_mem _ h) hold
        · rw [List.mem_singleton.mp hlast] at h
          exact hhead h
      have hroom₁ : info₁.entityIds.length + gpus.length ≤ rdcGroupMaxEntities := by
        rw [hids, List.length_append, List.length_singleton]
        omega
      obtain ⟨info', hids', hres'⟩ := ih (fun gpu' h => hlt gpu' (List.mem_cons_of_mem _ h)) hnd'
        hg₁ (fun gpu' h => hq gpu' (List.mem_cons_of_mem _ h)) hnew₁ hroom₁
      refine ⟨info', by rw [hids', hids, List.append_assoc]; rfl, ?_⟩
      rw [← withGroup_withGroup gs g info₁, ← hres', addAll, List.foldl_cons, hres]
      rfl

end AddAll

/-! ## The call -/

section Create

variable {deviceCount : Nat} {gs : GroupSettings} {name : List UInt8}
  {queries : Nat → Option Failure}

/-- The empty group every creation starts from. -/
def emptyGroup (name : List UInt8) : RdcGroupInfo :=
  ⟨strncpyWithNull name rdcMaxStrLength, [], Nat.zero_le _, List.nodup_nil⟩

/-- The store after the insertion of the empty group. -/
def inserted (gs : GroupSettings) (name : List UInt8) : GroupSettings :=
  { gs with
    gpuGroup := gs.gpuGroup.insertIfNew gs.curGroupId (emptyGroup name)
    curGroupId := u32Succ gs.curGroupId }

theorem storeCreate_of_full (hfull : rdcMaxNumGroups ≤ gs.gpuGroup.size) :
    gs.rdcGroupGpuCreate name = (.maxLimit, none, gs) := by
  unfold GroupSettings.rdcGroupGpuCreate
  rw [if_pos hfull]

theorem storeCreate_of_room (hroom : gs.gpuGroup.size < rdcMaxNumGroups) :
    gs.rdcGroupGpuCreate name = (.ok, some gs.curGroupId, inserted gs name) := by
  unfold GroupSettings.rdcGroupGpuCreate
  rw [if_neg (by omega)]
  rfl

theorem create_of_full (type : RdcGroupType) (hfull : rdcMaxNumGroups ≤ gs.gpuGroup.size) :
    rdcGroupGpuCreate deviceCount gs type name queries = (.maxLimit, none, gs) := by
  unfold rdcGroupGpuCreate
  rw [storeCreate_of_full hfull]

theorem create_empty (hroom : gs.gpuGroup.size < rdcMaxNumGroups) :
    rdcGroupGpuCreate deviceCount gs .empty name queries
      = (.ok, some gs.curGroupId, inserted gs name) := by
  unfold rdcGroupGpuCreate
  rw [storeCreate_of_room hroom]
  rfl

theorem create_of_failure (hroom : gs.gpuGroup.size < rdcMaxNumGroups) {failure : Failure}
    (hq : queries 0 = some failure) :
    rdcGroupGpuCreate deviceCount gs .default name queries
      = (failure.status, some gs.curGroupId, inserted gs name) := by
  unfold rdcGroupGpuCreate
  rw [storeCreate_of_room hroom, hq]
  rfl

theorem create_of_query (deviceCount : Nat) (name : List UInt8)
    (hroom : gs.gpuGroup.size < rdcMaxNumGroups) (hq : queries 0 = none) :
    rdcGroupGpuCreate deviceCount gs .default name queries
      = ((addAll deviceCount gs.curGroupId queries (List.range deviceCount)
            (.ok, inserted gs name)).1, some gs.curGroupId,
          (addAll deviceCount gs.curGroupId queries (List.range deviceCount)
            (.ok, inserted gs name)).2) := by
  unfold rdcGroupGpuCreate
  rw [storeCreate_of_room hroom, hq]
  rfl

theorem inserted_of_free (hfree : gs.gpuGroup[gs.curGroupId]? = none) :
    (inserted gs name).gpuGroup = gs.gpuGroup.insert gs.curGroupId (emptyGroup name) :=
  insertIfNew_of_getElem?_none hfree _

/-- After the counter has wrapped, the id may still belong to a group, which is then left alone. -/
theorem inserted_of_taken (htaken : gs.gpuGroup[gs.curGroupId]? = some info) :
    (inserted gs name).gpuGroup = gs.gpuGroup :=
  insertIfNew_of_getElem?_some htaken _

/-- The store with a new group. -/
def withNewGroup (gs : GroupSettings) (info : RdcGroupInfo) : GroupSettings :=
  { gs with
    gpuGroup := gs.gpuGroup.insert gs.curGroupId info
    curGroupId := u32Succ gs.curGroupId }

theorem withGroup_inserted (gs : GroupSettings) (name : List UInt8) (info : RdcGroupInfo) :
    withGroup (inserted gs name) gs.curGroupId info = withNewGroup gs info := by
  have hmap : (gs.gpuGroup.insertIfNew gs.curGroupId (emptyGroup name)).insert gs.curGroupId info
      = gs.gpuGroup.insert gs.curGroupId info := by
    refine ExtTreeMap.ext_getElem? fun a => ?_
    rw [insertIfNew_eq_alter, getElem?_insert', getElem?_insert', getElem?_alter_const]
    by_cases ha : gs.curGroupId = a
    · rw [if_pos ha, if_pos ha]
    · rw [if_neg ha, if_neg ha, if_neg ha]
  unfold withGroup inserted withNewGroup
  rw [hmap]

/-- The group the devices are added to: the new one, or the one that already has the id. -/
theorem getElem?_inserted (gs : GroupSettings) (name : List UInt8) :
    ∃ info, (inserted gs name).gpuGroup[gs.curGroupId]? = some info
      ∧ ∀ gpu ∈ info.entityIds,
          ∃ old, gs.gpuGroup[gs.curGroupId]? = some old ∧ gpu ∈ old.entityIds := by
  cases hcur : gs.gpuGroup[gs.curGroupId]? with
  | none =>
    refine ⟨emptyGroup name, ?_, fun gpu h => absurd h List.not_mem_nil⟩
    rw [inserted_of_free hcur, getElem?_insert', if_pos rfl]
  | some info =>
    refine ⟨info, ?_, fun gpu h => ⟨info, rfl, h⟩⟩
    rw [inserted_of_taken hcur, hcur]

/-- A call that finds room hands out the id of the counter. Whatever happens after that, the store
is the old one with a group of devices under this id. -/
theorem create_spec (gs : GroupSettings) (deviceCount : Nat) (type : RdcGroupType)
    (name : List UInt8) (queries : Nat → Option Failure)
    (hroom : gs.gpuGroup.size < rdcMaxNumGroups) :
    ∃ info : RdcGroupInfo,
      (rdcGroupGpuCreate deviceCount gs type name queries).2
          = (some gs.curGroupId, withNewGroup gs info)
      ∧ ∀ gpu ∈ info.entityIds, gpu < deviceCount
          ∨ ∃ old, gs.gpuGroup[gs.curGroupId]? = some old ∧ gpu ∈ old.entityIds := by
  obtain ⟨start, hstart, hold⟩ := getElem?_inserted gs name
  have hunfilled : inserted gs name = withNewGroup gs start := by
    rw [← withGroup_inserted gs name, withGroup_self hstart]
  cases type with
  | empty =>
    rw [create_empty hroom]
    exact ⟨start, by rw [hunfilled], fun gpu h => Or.inr (hold gpu h)⟩
  | default =>
    cases hq : queries 0 with
    | some failure =>
      rw [create_of_failure hroom hq]
      exact ⟨start, by rw [hunfilled], fun gpu h => Or.inr (hold gpu h)⟩
    | none =>
      rw [create_of_query deviceCount name hroom hq]
      obtain ⟨info, hstore, -, hmem, -⟩ := addAll_spec queries
        (fun gpu h => List.mem_range.mp h) hstart .ok
      refine ⟨info, by rw [hstore, withGroup_inserted], fun gpu h => ?_⟩
      rcases hmem gpu h with hin | ⟨hin, -⟩
      · exact Or.inr (hold gpu hin)
      · exact Or.inl (List.mem_range.mp hin)

end Create

/-- The call leaves a new group with every device, and says so, or it leaves the groups alone. -/
def AllOrNothing (deviceCount : Nat) (gs : GroupSettings) (name : List UInt8)
    (queries : Nat → Option Failure) : Prop :=
  ((rdcGroupGpuCreate deviceCount gs .default name queries).1 = .ok →
    ∃ id info, (rdcGroupGpuCreate deviceCount gs .default name queries).2.1 = some id
      ∧ gs.gpuGroup[id]? = none
      ∧ (rdcGroupGpuCreate deviceCount gs .default name queries).2.2.gpuGroup
          = gs.gpuGroup.insert id info
      ∧ ∀ gpu < deviceCount, gpu ∈ info.entityIds)
  ∧ ((rdcGroupGpuCreate deviceCount gs .default name queries).1 ≠ .ok →
    (rdcGroupGpuCreate deviceCount gs .default name queries).2.2.gpuGroup = gs.gpuGroup)

section Atomicity

variable {deviceCount : Nat} {gs : GroupSettings} {name : List UInt8}
  {queries : Nat → Option Failure}

theorem allOrNothing_of_full (hfull : rdcMaxNumGroups ≤ gs.gpuGroup.size) :
    AllOrNothing deviceCount gs name queries := by
  unfold AllOrNothing
  rw [create_of_full .default hfull]
  refine ⟨?_, fun _ => rfl⟩
  intro hok
  cases hok

theorem getElem?_inserted_of_free (hfree : gs.gpuGroup[gs.curGroupId]? = none) :
    (inserted gs name).gpuGroup[gs.curGroupId]? = some (emptyGroup name) := by
  rw [inserted_of_free hfree, getElem?_insert', if_pos rfl]

/-- A free id is in the store afterwards in any case, so only success is left. -/
theorem status_eq_ok_of_allOrNothing (hroom : gs.gpuGroup.size < rdcMaxNumGroups)
    (hfree : gs.gpuGroup[gs.curGroupId]? = none) (h : AllOrNothing deviceCount gs name queries) :
    (rdcGroupGpuCreate deviceCount gs .default name queries).1 = .ok := by
  obtain ⟨info', hres, -⟩ := create_spec gs deviceCount .default name queries hroom
  by_contra hne
  have hsame := congrArg (fun m => m[gs.curGroupId]?) (h.2 hne)
  rw [hres] at hsame
  dsimp only [withNewGroup] at hsame
  rw [getElem?_insert', if_pos rfl, hfree] at hsame
  cases hsame

theorem allOrNothing_of_fits (hroom : gs.gpuGroup.size < rdcMaxNumGroups)
    (hfree : gs.gpuGroup[gs.curGroupId]? = none) (hq : ∀ i ≤ deviceCount, queries i = none)
    (hfit : deviceCount ≤ rdcGroupMaxEntities) : AllOrNothing deviceCount gs name queries := by
  obtain ⟨info', hids, hres⟩ := addAll_of_succeeds queries (fun _ => List.mem_range.mp)
    List.nodup_range (getElem?_inserted_of_free hfree)
    (fun gpu h => hq (gpu + 1) (List.mem_range.mp h)) (fun _ _ => List.not_mem_nil)
    (by rw [List.length_range]; simpa [emptyGroup] using hfit)
  unfold AllOrNothing
  rw [create_of_query deviceCount name hroom (hq 0 (Nat.zero_le _)), hres]
  refine ⟨fun _ => ⟨gs.curGroupId, info', rfl, hfree, ?_, ?_⟩, fun hne => absurd rfl hne⟩
  · exact congrArg GroupSettings.gpuGroup (withGroup_inserted gs name info')
  · intro gpu hgpu
    rw [hids]
    exact List.mem_append_right _ (List.mem_range.mpr hgpu)

/-- Under a free id, it takes every query to succeed and every device to fit. -/
theorem allOrNothing_of_free (hroom : gs.gpuGroup.size < rdcMaxNumGroups)
    (hfree : gs.gpuGroup[gs.curGroupId]? = none) :
    AllOrNothing deviceCount gs name queries
      ↔ (∀ i ≤ deviceCount, queries i = none) ∧ deviceCount ≤ rdcGroupMaxEntities := by
  refine ⟨fun h => ?_, fun h => allOrNothing_of_fits hroom hfree h.1 h.2⟩
  have hok := status_eq_ok_of_allOrNothing hroom hfree h
  obtain ⟨id, info, hid, -, hstore, hall⟩ := h.1 hok
  cases hq : queries 0 with
  | some failure =>
    rw [create_of_failure hroom hq] at hok
    exact absurd hok failure.ne_ok
  | none =>
    obtain ⟨filled, hfilled, -, hmem, -⟩ := addAll_spec queries
      (fun gpu (h : gpu ∈ List.range deviceCount) => List.mem_range.mp h)
      (getElem?_inserted_of_free hfree) .ok
    rw [create_of_query deviceCount name hroom hq] at hid hstore
    have hinfo : info = filled := by
      have hat := congrArg (fun m => m[gs.curGroupId]?) hstore
      dsimp only at hat
      rw [hfilled, getElem?_withGroup, if_pos rfl, ← Option.some.inj hid, getElem?_insert',
        if_pos rfl] at hat
      exact (Option.some.inj hat).symm
    refine ⟨?_, ?_⟩
    · intro i hi
      cases i with
      | zero => exact hq
      | succ gpu =>
        rcases hmem gpu (hinfo ▸ hall gpu (by omega)) with hold | ⟨-, hquery⟩
        · exact absurd hold List.not_mem_nil
        · exact hquery
    · have hsub : List.range deviceCount ⊆ info.entityIds :=
        fun gpu h => hall gpu (List.mem_range.mp h)
      have hle := (List.subperm_of_subset List.nodup_range hsub).length_le
      rw [List.length_range] at hle
      exact le_trans hle info.count_le

/-- Under an id that is still in use, the call must fail and leave that group alone. -/
theorem allOrNothing_of_taken (hroom : gs.gpuGroup.size < rdcMaxNumGroups)
    (htaken : gs.gpuGroup[gs.curGroupId]? = some info) :
    AllOrNothing deviceCount gs name queries
      ↔ queries 0 ≠ none ∨ (0 < deviceCount ∧ ∀ gpu < deviceCount, AddFails queries info gpu) := by
  have hg : (inserted gs name).gpuGroup[gs.curGroupId]? = some info := by
    rw [inserted_of_taken htaken, htaken]
  have hlt : ∀ gpu ∈ List.range deviceCount, gpu < deviceCount := fun gpu h => List.mem_range.mp h
  cases hq : queries 0 with
  | some failure =>
    refine ⟨fun _ => Or.inl (by simp), fun _ => ?_⟩
    unfold AllOrNothing
    rw [create_of_failure hroom hq]
    exact ⟨fun hok => absurd hok failure.ne_ok, fun _ => inserted_of_taken htaken⟩
  | none =>
    have hcreate := create_of_query deviceCount name hroom hq
    refine ⟨?_, ?_⟩
    · intro h
      right
      -- it cannot have succeeded, since the id it returned was not free
      have hne : (rdcGroupGpuCreate deviceCount gs .default name queries).1 ≠ .ok := by
        intro hok
        obtain ⟨id, _, hid, hnone, -⟩ := h.1 hok
        rw [hcreate] at hid
        rw [← Option.some.inj hid, htaken] at hnone
        cases hnone
      have hsame := h.2 hne
      rw [hcreate] at hne hsame
      refine ⟨?_, ?_⟩
      · -- without devices the status of the insertion stands, and that is `RDC_ST_OK`
        by_contra hzero
        rw [Nat.eq_zero_of_not_pos hzero] at hne
        exact hne rfl
      · obtain ⟨info', hstore, -, -, hfails⟩ := addAll_spec queries hlt hg .ok
        have hinfo : info' = info := by
          have hat := congrArg (fun m => m[gs.curGroupId]?) hsame
          dsimp only at hat
          rw [hstore, getElem?_withGroup, if_pos rfl, htaken] at hat
          exact Option.some.inj hat
        exact fun gpu hgpu => hfails hinfo gpu (List.mem_range.mpr hgpu)
    · intro h
      rcases h with hquery | ⟨hpos, hfail⟩
      · exact absurd rfl hquery
      · obtain ⟨hstore, hstatus⟩ := addAll_of_fails queries hlt hg
          (fun gpu h => hfail gpu (List.mem_range.mp h)) .ok
        unfold AllOrNothing
        rw [hcreate]
        refine ⟨fun hok => ?_, fun _ => ?_⟩
        · have hnil := congrArg List.length (hstatus hok).1
          rw [List.length_range, List.length_nil] at hnil
          omega
        · rw [hstore]
          exact inserted_of_taken htaken

end Atomicity

/-- **Default groups.** Creating one is all or nothing exactly when the store is full, or the new id
is free, every query succeeds and the devices fit into one group, or the id is still in use and no
device can be added under it. -/
theorem allOrNothing_iff (deviceCount : Nat) (gs : GroupSettings) (name : List UInt8)
    (queries : Nat → Option Failure) :
    AllOrNothing deviceCount gs name queries ↔
      rdcMaxNumGroups ≤ gs.gpuGroup.size
      ∨ (gs.gpuGroup[gs.curGroupId]? = none ∧ (∀ i ≤ deviceCount, queries i = none)
          ∧ deviceCount ≤ rdcGroupMaxEntities)
      ∨ ∃ info, gs.gpuGroup[gs.curGroupId]? = some info
          ∧ (queries 0 ≠ none
            ∨ (0 < deviceCount ∧ ∀ gpu < deviceCount, AddFails queries info gpu)) := by
  rcases Nat.lt_or_ge gs.gpuGroup.size rdcMaxNumGroups with hroom | hfull
  · have hnot : ¬ rdcMaxNumGroups ≤ gs.gpuGroup.size := by omega
    cases hcur : gs.gpuGroup[gs.curGroupId]? with
    | none =>
      rw [allOrNothing_of_free hroom hcur]
      simp [hnot]
    | some info =>
      rw [allOrNothing_of_taken hroom hcur]
      simp [hnot]
  · exact ⟨fun _ => Or.inl hfull, fun _ => allOrNothing_of_full hfull⟩

/-- The query for device 0 fails and the one for device 1 does not. -/
def firstQueryFails : Nat → Option Failure
  | 1 => some ⟨.msiError, by decide⟩
  | _ => none

/-- The call reports success and leaves a group without device 0. -/
theorem not_allOrNothing_firstQueryFails :
    (rdcGroupGpuCreate 2 GroupSettings.init .default [97] firstQueryFails).1 = .ok
    ∧ (rdcGroupGpuCreate 2 GroupSettings.init .default [97] firstQueryFails).2.2.gpuGroup[1]?.map
        RdcGroupInfo.entityIds = some [1]
    ∧ ¬ AllOrNothing 2 GroupSettings.init [97] firstQueryFails := by
  have hgroup : (rdcGroupGpuCreate 2 GroupSettings.init .default [97]
      firstQueryFails).2.2.gpuGroup[1]?.map RdcGroupInfo.entityIds = some [1] := by decide +kernel
  have hok : (rdcGroupGpuCreate 2 GroupSettings.init .default [97] firstQueryFails).1 = .ok := by
    decide +kernel
  refine ⟨hok, hgroup, fun h => ?_⟩
  obtain ⟨id, info, hid, -, hstore, hall⟩ := h.1 hok
  have hone : id = 1 := by
    have hid' : (rdcGroupGpuCreate 2 GroupSettings.init .default [97] firstQueryFails).2.1
        = some 1 := by decide +kernel
    exact Option.some.inj (hid.symm.trans hid')
  rw [hstore, hone, getElem?_insert', if_pos rfl] at hgroup
  have hmem := hall 0 (by omega)
  rw [Option.some.inj hgroup] at hmem
  exact absurd hmem (by decide)

end Rdc.Proof
