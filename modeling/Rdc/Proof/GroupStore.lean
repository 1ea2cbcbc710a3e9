import Rdc.Proof.DefaultGroup
import Rdc.Lib.Issue
import Rdc.Standalone

/-!
# The group store over whole histories

Every call through the handler leaves the store as it was or does one of five things to it
(`HistoryStep`). Two kinds of facts follow. The capacities, the contents of the groups and the job
field group never go wrong (`Bounded`). Ids are fresh as long as their counter has not wrapped,
which is what the two ledgers say (`Ids`).

The listings walk the tables in key order. Their own limit is never the reason to stop, since a
table holds no more than the limit (`listIds_of_le`). The client repeats the test with the
comparison the other way round, and that one does stop a full list.
-/

namespace Rdc.Proof

open Std (ExtTreeMap)
open OrdMap Machine Issue

/-! ## What one call does -/

/-- What one call does to the store and its history. -/
inductive HistoryStep (deviceCount : Nat) (s : GroupHistory) : GroupHistory → Prop where
  | same : HistoryStep deviceCount s s
  | gpuCreate (info : RdcGroupInfo) (room : s.store.gpuGroup.size < rdcMaxNumGroups)
      (devices : ∀ gpu ∈ info.entityIds, gpu < deviceCount
        ∨ ∃ old, s.store.gpuGroup[s.store.curGroupId]? = some old ∧ gpu ∈ old.entityIds) :
      HistoryStep deviceCount s
        { s with
          store := withNewGroup s.store info
          gpuIds := s.gpuIds ++ [s.store.curGroupId] }
  | gpuAdd (g : Nat) (info info' : RdcGroupInfo) (known : s.store.gpuGroup[g]? = some info)
      (devices : ∀ gpu ∈ info'.entityIds, gpu ∈ info.entityIds ∨ gpu < deviceCount) :
      HistoryStep deviceCount s { s with store := withGroup s.store g info' }
  | gpuDestroy (g : Nat) (live : g ∈ s.store.gpuGroup) :
      HistoryStep deviceCount s
        { s with
          store := { s.store with gpuGroup := s.store.gpuGroup.erase g }
          gpuGone := s.gpuGone ++ [g] }
  | fieldCreate (info : RdcFieldGroupInfo)
      (room : s.store.fieldGroup.size < rdcMaxNumFieldGroups)
      (valid : ∀ field ∈ info.fieldIds, isFieldValid field = true) :
      HistoryStep deviceCount s
        { s with
          store :=
            { s.store with
              fieldGroup := s.store.fieldGroup.insertIfNew s.store.curFieldGroupId info
              curFieldGroupId := u32Succ s.store.curFieldGroupId }
          fieldIds := s.fieldIds ++ [s.store.curFieldGroupId] }
  | fieldDestroy (fg : Nat) (live : fg ∈ s.store.fieldGroup) (notJob : fg ≠ jobFieldId) :
      HistoryStep deviceCount s
        { s with
          store := { s.store with fieldGroup := s.store.fieldGroup.erase fg }
          fieldGone := s.fieldGone ++ [fg] }

section Step

variable (deviceCount : Nat) (s : GroupHistory)

theorem gpuCreate_step (type : RdcGroupType) (name : List UInt8) (queries : Nat → Option Failure) :
    HistoryStep deviceCount s (s.exec deviceCount (.gpuCreate type name queries)).2 := by
  dsimp only [GroupHistory.exec]
  rcases Nat.lt_or_ge s.store.gpuGroup.size rdcMaxNumGroups with hroom | hfull
  · obtain ⟨info, hres, hdevices⟩ := create_spec s.store deviceCount type name queries hroom
    rw [hres]
    exact .gpuCreate info hroom hdevices
  · rw [create_of_full type hfull]
    simpa using HistoryStep.same

theorem gpuAdd_step (g gpu : Nat) (query : Option Failure) :
    HistoryStep deviceCount s (s.exec deviceCount (.gpuAdd g gpu query)).2 := by
  dsimp only [GroupHistory.exec, EmbeddedHandler.rdcGroupGpuAdd]
  cases query with
  | some failure => exact .same
  | none =>
    dsimp only [EmbeddedHandler.rdcDeviceGetAll]
    split
    · rename_i hin
      have hlt : gpu < deviceCount := List.mem_range.mp (List.contains_iff_mem.mp hin)
      cases hg : s.store.gpuGroup[g]? with
      | none =>
        unfold GroupSettings.rdcGroupGpuAdd
        rw [hg]
        exact .same
      | some info =>
        rcases storeAdd_cases hg gpu with
          ⟨-, status, -, hres⟩ | ⟨-, -, info', hids, hres⟩ <;> rw [hres]
        · exact .same
        · refine .gpuAdd g info info' hg fun gpu' h => ?_
          rw [hids] at h
          rcases List.mem_append.mp h with hold | hnew
          · exact Or.inl hold
          · rw [List.mem_singleton.mp hnew]
            exact Or.inr hlt
    · exact .same

theorem gpuDestroy_step (g : Nat) :
    HistoryStep deviceCount s (s.exec deviceCount (.gpuDestroy g)).2 := by
  dsimp only [GroupHistory.exec]
  by_cases hlive : g ∈ s.store.gpuGroup
  · rw [show s.store.rdcGroupGpuDestroy g = _ from if_pos hlive]
    exact .gpuDestroy g hlive
  · rw [show s.store.rdcGroupGpuDestroy g = _ from if_neg hlive]
    exact .same

theorem fieldCreate_step (fields : List Nat) (name : List UInt8) :
    HistoryStep deviceCount s (s.exec deviceCount (.fieldCreate fields name)).2 := by
  have hsame : ∀ status : Status, HistoryStep deviceCount s
      { s with fieldIds := s.fieldIds ++ ((status, none, s.store) :
        Status × Option Nat × GroupSettings).2.1.toList } := by
    intro status
    simpa using HistoryStep.same
  dsimp only [GroupHistory.exec, EmbeddedHandler.rdcGroupFieldCreate]
  split
  · rename_i hle
    split
    · rename_i hvalid
      unfold GroupSettings.rdcGroupFieldCreate
      rw [dif_pos hle]
      split
      · exact hsame .maxLimit
      · rename_i hroom
        exact .fieldCreate _ (by omega) (List.all_eq_true.mp hvalid)
    · exact hsame .notSupported
  · exact hsame .maxLimit

theorem fieldDestroy_step (fg : Nat) :
    HistoryStep deviceCount s (s.exec deviceCount (.fieldDestroy fg)).2 := by
  dsimp only [GroupHistory.exec]
  by_cases hjob : fg = jobFieldId
  · rw [show s.store.rdcGroupFieldDestroy fg = _ from if_pos hjob]
    exact .same
  · by_cases hlive : fg ∈ s.store.fieldGroup
    · rw [show s.store.rdcGroupFieldDestroy fg = _ from (if_neg hjob).trans (if_pos hlive)]
      exact .fieldDestroy fg hlive hjob
    · rw [show s.store.rdcGroupFieldDestroy fg = _ from (if_neg hjob).trans (if_neg hlive)]
      exact .same

theorem exec_historyStep (op : GroupOp) :
    HistoryStep deviceCount s (s.exec deviceCount op).2 := by
  cases op with
  | gpuCreate type name queries => exact gpuCreate_step deviceCount s type name queries
  | gpuAdd g gpu query => exact gpuAdd_step deviceCount s g gpu query
  | gpuDestroy g => exact gpuDestroy_step deviceCount s g
  | fieldCreate fields name => exact fieldCreate_step deviceCount s fields name
  | fieldDestroy fg => exact fieldDestroy_step deviceCount s fg

end Step

/-! ## Capacities and contents -/

/-- The job field group, as the constructor makes it. -/
def jobFieldGroup : RdcFieldGroupInfo :=
  ⟨GroupSettings.jobFieldGroupName, GroupSettings.jobFields, GroupSettings.length_jobFields_le⟩

/-- The tables are within their limits and hold what the handler lets in. -/
structure Bounded (deviceCount : Nat) (gs : GroupSettings) : Prop where
  gpuSize : gs.gpuGroup.size ≤ rdcMaxNumGroups
  fieldSize : gs.fieldGroup.size ≤ rdcMaxNumFieldGroups
  devices : ∀ (g : Nat) (info : RdcGroupInfo), gs.gpuGroup[g]? = some info →
    ∀ gpu ∈ info.entityIds, gpu < deviceCount
  valid : ∀ (fg : Nat) (info : RdcFieldGroupInfo), gs.fieldGroup[fg]? = some info →
    ∀ field ∈ info.fieldIds, isFieldValid field = true
  jobGroup : gs.fieldGroup[jobFieldId]? = some jobFieldGroup

theorem getElem?_init (fg : Nat) :
    GroupSettings.init.fieldGroup[fg]? = if fg = jobFieldId then some jobFieldGroup else none := by
  show ((∅ : IdMap RdcFieldGroupInfo).insertIfNew jobFieldId jobFieldGroup)[fg]? = _
  rw [insertIfNew_of_getElem?_none ExtTreeMap.getElem?_empty, getElem?_insert',
    ExtTreeMap.getElem?_empty]
  by_cases hfg : fg = jobFieldId
  · rw [if_pos hfg.symm, if_pos hfg]
  · rw [if_neg (Ne.symm hfg), if_neg hfg]

theorem bounded_init (deviceCount : Nat) : Bounded deviceCount GroupSettings.init where
  gpuSize := by decide +kernel
  fieldSize := by decide +kernel
  devices := by
    intro g info h
    have hnone : GroupSettings.init.gpuGroup[g]? = none := ExtTreeMap.getElem?_empty
    rw [hnone] at h
    cases h
  valid := by
    intro fg info h
    rw [getElem?_init] at h
    split at h
    · rw [← Option.some.inj h]
      decide
    · cases h
  jobGroup := by rw [getElem?_init, if_pos rfl]

theorem bounded_step {deviceCount : Nat} {s s' : GroupHistory} (h : Bounded deviceCount s.store)
    (hs : HistoryStep deviceCount s s') : Bounded deviceCount s'.store := by
  cases hs with
  | same => exact h
  | gpuCreate info hroom hdevices =>
    refine { h with gpuSize := ?_, devices := ?_ }
    · exact le_trans ExtTreeMap.size_insert_le (by omega)
    · refine forall_insert h.devices ?_
      intro gpu hgpu
      rcases hdevices gpu hgpu with hlt | ⟨old, hold, hin⟩
      · exact hlt
      · exact h.devices _ old hold gpu hin
  | gpuAdd g info info' hknown hdevices =>
    refine { h with gpuSize := ?_, devices := ?_ }
    · have hmem : s.store.gpuGroup.contains g = true := mem_of_getElem? hknown
      -- an add replaces the group under its id
      show (s.store.gpuGroup.insert g info').size ≤ _
      rw [ExtTreeMap.size_insert, if_pos hmem]
      exact h.gpuSize
    · refine forall_insert h.devices ?_
      intro gpu hgpu
      rcases hdevices gpu hgpu with hold | hlt
      · exact h.devices g info hknown gpu hold
      · exact hlt
  | gpuDestroy g hlive =>
    refine { h with gpuSize := le_trans ExtTreeMap.size_erase_le h.gpuSize, devices := ?_ }
    intro a info hget
    exact h.devices a info (getElem?_erase_some hget).2
  | fieldCreate info hroom hvalid =>
    refine { h with fieldSize := ?_, valid := ?_, jobGroup := ?_ }
    · exact le_trans ExtTreeMap.size_insertIfNew_le (by omega)
    · dsimp only
      cases hcur : s.store.fieldGroup[s.store.curFieldGroupId]? with
      | none =>
        rw [insertIfNew_of_getElem?_none hcur]
        exact forall_insert h.valid hvalid
      | some old =>
        rw [insertIfNew_of_getElem?_some hcur]
        exact h.valid
    · -- the job field group is there, so emplacing cannot replace it
      show (s.store.fieldGroup.insertIfNew s.store.curFieldGroupId info)[jobFieldId]? = _
      rw [insertIfNew_eq_alter, getElem?_alter_const]
      split
      · rename_i hcur
        rw [hcur, h.jobGroup, Option.some_or]
      · exact h.jobGroup
  | fieldDestroy fg hlive hnot =>
    refine { h with
      fieldSize := le_trans ExtTreeMap.size_erase_le h.fieldSize, valid := ?_, jobGroup := ?_ }
    · intro a info hget
      exact h.valid a info (getElem?_erase_some hget).2
    · rw [getElem?_erase', if_neg hnot]
      exact h.jobGroup

theorem bounded_after (deviceCount : Nat) (ops : List GroupOp) :
    Bounded deviceCount (GroupHistory.after deviceCount ops).store :=
  run_invariant (I := fun s : GroupHistory => Bounded deviceCount s.store)
    (fun s op h => bounded_step h (exec_historyStep deviceCount s op)) (bounded_init deviceCount)
    ops

/-! ## Ids -/

/-- While fewer than `2 ^ 32` ids of a kind have been issued, its counter is ahead of all of them.
-/
structure Ids (s : GroupHistory) : Prop where
  gpu : s.gpuIds.length < 2 ^ 32 →
    Ledger (2 ^ 32) s.gpuIds s.gpuGone s.store.curGroupId (· ∈ s.store.gpuGroup)
  field : s.fieldIds.length < 2 ^ 32 →
    Ledger (2 ^ 32) s.fieldIds s.fieldGone s.store.curFieldGroupId (· ∈ s.store.fieldGroup)

theorem ids_init : Ids GroupHistory.init where
  gpu _ := Ledger.start (by omega) fun id h => absurd h ExtTreeMap.not_mem_empty
  field _ := by
    refine Ledger.start (by omega) fun id h => ?_
    show id = jobFieldId
    by_contra hne
    rw [show GroupHistory.init.store = GroupSettings.init from rfl,
      ExtTreeMap.mem_iff_isSome_getElem?, getElem?_init, if_neg hne] at h
    cases h

theorem ids_step {deviceCount : Nat} {s s' : GroupHistory} (h : Ids s)
    (hs : HistoryStep deviceCount s s') : Ids s' := by
  cases hs with
  | same => exact h
  | gpuCreate info hroom hdevices =>
    refine ⟨fun hlt => ?_, h.field⟩
    rw [List.length_append, List.length_singleton] at hlt
    refine (h.gpu (by omega)).issue hlt fun id hid => ?_
    rcases ExtTreeMap.mem_insert.mp hid with heq | hold
    · exact Or.inr (Std.LawfulEqCmp.eq_of_compare heq).symm
    · exact Or.inl hold
  | gpuAdd g info info' hknown hdevices =>
    refine ⟨fun hlt => (h.gpu hlt).mono fun id hid => ?_, h.field⟩
    rcases ExtTreeMap.mem_insert.mp hid with heq | hold
    · rw [← Std.LawfulEqCmp.eq_of_compare heq]
      exact mem_of_getElem? hknown
    · exact hold
  | gpuDestroy g hlive =>
    refine ⟨fun hlt => (h.gpu hlt).retire hlive (fun id hid => ?_) ?_, h.field⟩
    · exact (ExtTreeMap.mem_erase.mp hid).2
    · exact fun hid => (ExtTreeMap.mem_erase.mp hid).1 Std.ReflCmp.compare_self
  | fieldCreate info hroom hvalid =>
    refine ⟨h.gpu, fun hlt => ?_⟩
    rw [List.length_append, List.length_singleton] at hlt
    refine (h.field (by omega)).issue hlt fun id hid => ?_
    rcases ExtTreeMap.mem_insertIfNew.mp hid with heq | hold
    · exact Or.inr (Std.LawfulEqCmp.eq_of_compare heq).symm
    · exact Or.inl hold
  | fieldDestroy fg hlive hnot =>
    refine ⟨h.gpu, fun hlt => (h.field hlt).retire hlive (fun id hid => ?_) ?_⟩
    · exact (ExtTreeMap.mem_erase.mp hid).2
    · exact fun hid => (ExtTreeMap.mem_erase.mp hid).1 Std.ReflCmp.compare_self

theorem ids_after (deviceCount : Nat) (ops : List GroupOp) :
    Ids (GroupHistory.after deviceCount ops) :=
  run_invariant (fun s op h => ids_step h (exec_historyStep deviceCount s op)) ids_init ops

/-! ## Listings -/

/-- A loop over no more ids than its limit copies all of them but the skipped ones. -/
theorem listIds_of_le {limit : Nat} (skip : Nat → Bool) {ids copied : List Nat}
    (h : copied.length + ids.length ≤ limit) :
    GroupSettings.listIds limit skip ids copied
      = (.ok, copied ++ ids.filter fun id => !skip id) := by
  induction ids generalizing copied with
  | nil => simp [GroupSettings.listIds]
  | cons id ids ih =>
    rw [List.length_cons] at h
    rw [GroupSettings.listIds, if_neg (by omega)]
    cases hskip : skip id with
    | true =>
      rw [if_pos rfl, ih (by omega), List.filter_cons_of_neg (by simp [hskip])]
    | false =>
      rw [if_neg (by simp), ih (by rw [List.length_append, List.length_singleton]; omega),
        List.filter_cons_of_pos (by simp [hskip]), List.append_assoc]
      rfl

section Listings

variable {deviceCount : Nat} {gs : GroupSettings}

theorem rdcGroupGetAllIds_of_le (h : gs.gpuGroup.size ≤ rdcMaxNumGroups) :
    gs.rdcGroupGetAllIds = (.ok, gs.gpuGroup.keys) := by
  have hle : ([] : List Nat).length + gs.gpuGroup.keys.length ≤ rdcMaxNumGroups := by
    rw [List.length_nil, ExtTreeMap.length_keys, Nat.zero_add]
    exact h
  rw [GroupSettings.rdcGroupGetAllIds, listIds_of_le _ hle]
  simp

theorem rdcGroupGetAllIds_eq (h : Bounded deviceCount gs) :
    gs.rdcGroupGetAllIds = (.ok, gs.gpuGroup.keys) := rdcGroupGetAllIds_of_le h.gpuSize

theorem rdcGroupFieldGetAllIds_eq (h : Bounded deviceCount gs) :
    gs.rdcGroupFieldGetAllIds
      = (.ok, gs.fieldGroup.keys.filter fun id => !(id == jobFieldId)) := by
  have hle : ([] : List Nat).length + gs.fieldGroup.keys.length ≤ rdcMaxNumFieldGroups := by
    rw [List.length_nil, ExtTreeMap.length_keys, Nat.zero_add]
    exact h.fieldSize
  rw [GroupSettings.rdcGroupFieldGetAllIds, listIds_of_le _ hle, List.nil_append]

end Listings

/-! ## The store as its clients see it -/

/-- What the clients of the store rely on. -/
structure StoreConsistent (deviceCount : Nat) (s : GroupHistory) : Prop where
  gpuGroups : s.store.gpuGroup.size ≤ 64
  fieldGroups : s.store.fieldGroup.size ≤ 64
  entities : ∀ (g : Nat) (info : RdcGroupInfo), s.store.gpuGroup[g]? = some info →
    info.entityIds.Nodup ∧ info.entityIds.length ≤ 64 ∧ ∀ gpu ∈ info.entityIds, gpu < deviceCount
  fields : ∀ (fg : Nat) (info : RdcFieldGroupInfo), s.store.fieldGroup[fg]? = some info →
    info.fieldIds.length ≤ 128 ∧ ∀ field ∈ info.fieldIds, isFieldValid field = true
  jobGroup : s.store.fieldGroup[jobFieldId]? = some jobFieldGroup
  gpuGone : ∀ g ∈ s.gpuGone, s.store.rdcGroupGpuGetInfo g = .error .notFound
  fieldGone : ∀ fg ∈ s.fieldGone, s.store.rdcGroupFieldGetInfo fg = .error .notFound
  gpuIds : s.gpuIds.Nodup
  fieldIds : s.fieldIds.Nodup ∧ jobFieldId ∉ s.fieldIds
  gpuListing : ∃ ids, s.store.rdcGroupGetAllIds = (.ok, ids) ∧ ids.Pairwise (· < ·)
    ∧ ∀ id, id ∈ ids ↔ id ∈ s.store.gpuGroup
  fieldListing : ∃ ids, s.store.rdcGroupFieldGetAllIds = (.ok, ids) ∧ ids.Pairwise (· < ·)
    ∧ ∀ id, id ∈ ids ↔ id ∈ s.store.fieldGroup ∧ id ≠ jobFieldId

theorem getInfo_of_dead {gs : GroupSettings} {g : Nat} (h : g ∉ gs.gpuGroup) :
    gs.rdcGroupGpuGetInfo g = .error .notFound := by
  unfold GroupSettings.rdcGroupGpuGetInfo
  rw [(not_mem_iff_getElem? _ _).mp h]

theorem fieldGetInfo_of_dead {gs : GroupSettings} {fg : Nat} (h : fg ∉ gs.fieldGroup) :
    gs.rdcGroupFieldGetInfo fg = .error .notFound := by
  unfold GroupSettings.rdcGroupFieldGetInfo
  rw [(not_mem_iff_getElem? _ _).mp h]

/-- **The group store.** After every history in which fewer than `2 ^ 32` ids of each kind were
issued, the store is consistent. -/
theorem store_consistent (deviceCount : Nat) (ops : List GroupOp)
    (hgpu : (GroupHistory.after deviceCount ops).gpuIds.length < 2 ^ 32)
    (hfield : (GroupHistory.after deviceCount ops).fieldIds.length < 2 ^ 32) :
    StoreConsistent deviceCount (GroupHistory.after deviceCount ops) := by
  have hb := bounded_after deviceCount ops
  have hgpus := (ids_after deviceCount ops).gpu hgpu
  have hfields := (ids_after deviceCount ops).field hfield
  exact {
    gpuGroups := hb.gpuSize
    fieldGroups := hb.fieldSize
    entities := fun g info hg => ⟨info.nodup, info.count_le, hb.devices g info hg⟩
    fields := fun fg info hf => ⟨info.count_le, hb.valid fg info hf⟩
    jobGroup := hb.jobGroup
    gpuGone := fun g hg => getInfo_of_dead (hgpus.gone_dead g hg)
    fieldGone := fun fg hfg => fieldGetInfo_of_dead (hfields.gone_dead fg hfg)
    gpuIds := hgpus.nodup
    fieldIds := ⟨hfields.nodup, fun h => absurd (hfields.pos_of_mem h) (by decide)⟩
    gpuListing := ⟨_, rdcGroupGetAllIds_eq hb, keys_increasing _, fun id => ExtTreeMap.mem_keys⟩
    fieldListing := by
      refine ⟨_, rdcGroupFieldGetAllIds_eq hb, (keys_increasing _).filter _, fun id => ?_⟩
      rw [List.mem_filter, ExtTreeMap.mem_keys]
      simp }

/-- Two GPU groups and a field group are created, and one GPU group is destroyed. -/
def shortHistory : List GroupOp :=
  [.gpuCreate .default [97] fun _ => none, .gpuCreate .empty [98] fun _ => none,
    .gpuAdd 2 1 none, .fieldCreate [rdcFiPowerUsage] [99], .gpuDestroy 1]

theorem store_consistent_shortHistory :
    (GroupHistory.after 2 shortHistory).gpuIds = [1, 2]
    ∧ (GroupHistory.after 2 shortHistory).store.rdcGroupGpuGetInfo 1 = .error .notFound := by
  have hids : (GroupHistory.after 2 shortHistory).gpuIds = [1, 2] := by decide +kernel
  have hfields : (GroupHistory.after 2 shortHistory).fieldIds = [1] := by decide +kernel
  have hgone : (GroupHistory.after 2 shortHistory).gpuGone = [1] := by decide +kernel
  have hcons := store_consistent 2 shortHistory (by rw [hids]; decide) (by rw [hfields]; decide)
  exact ⟨hids, hcons.gpuGone 1 (by rw [hgone]; exact List.mem_singleton_self 1)⟩

/-! ## The same listings from another process -/

/-- Both listings look the same through the client as they do in the daemon. -/
def ListingsAgree (gs : GroupSettings) : Prop :=
  StandaloneHandler.rdcGroupGetAllIds gs = EmbeddedHandler.rdcGroupGetAllIds gs
  ∧ StandaloneHandler.rdcGroupFieldGetAllIds gs = EmbeddedHandler.rdcGroupFieldGetAllIds gs

/-- The client accepts a list that is shorter than its limit. -/
theorem allIds_eq_iff (limit : Nat) (ids : List Nat) :
    StandaloneHandler.allIds limit (ApiService.getAllIds (.ok, ids))
      = EmbeddedHandler.listing (.ok, ids) ↔ ids.length < limit := by
  have hsent : ApiService.getAllIds (.ok, ids) = ⟨.ok, ids⟩ := if_neg fun h => h rfl
  rw [hsent, StandaloneHandler.allIds, if_neg fun h => h rfl]
  by_cases hlt : ids.length < limit
  · rw [if_neg (by show ¬ limit ≤ ids.length; omega)]
    exact ⟨fun _ => hlt, fun _ => rfl⟩
  · rw [if_pos (by show limit ≤ ids.length; omega)]
    refine ⟨fun h => ?_, fun h => absurd h hlt⟩
    cases congrArg Listing.status h

/-- **Group listings.** For every store the handler can bring about, the client returns what the
daemon does exactly when there are fewer GPU groups than the limit. -/
theorem listingsAgree_iff (deviceCount : Nat) (ops : List GroupOp) :
    ListingsAgree (GroupHistory.after deviceCount ops).store
      ↔ (GroupHistory.after deviceCount ops).store.gpuGroup.size < rdcMaxNumGroups := by
  have hb := bounded_after deviceCount ops
  generalize (GroupHistory.after deviceCount ops).store = gs at hb
  -- the job field group is skipped, so the list of field groups is never full
  have hfield : (gs.fieldGroup.keys.filter fun id => !(id == jobFieldId)).length
      < rdcMaxNumFieldGroups := by
    have hjob : jobFieldId ∈ gs.fieldGroup.keys := by
      rw [ExtTreeMap.mem_keys, ExtTreeMap.mem_iff_isSome_getElem?, hb.jobGroup]
      rfl
    have hlt : (gs.fieldGroup.keys.filter fun id => !(id == jobFieldId)).length
        < gs.fieldGroup.keys.length := by
      rw [List.length_filter_lt_length_iff_exists]
      exact ⟨jobFieldId, hjob, by simp⟩
    rw [ExtTreeMap.length_keys] at hlt
    exact lt_of_lt_of_le hlt hb.fieldSize
  unfold ListingsAgree StandaloneHandler.rdcGroupGetAllIds EmbeddedHandler.rdcGroupGetAllIds
    StandaloneHandler.rdcGroupFieldGetAllIds EmbeddedHandler.rdcGroupFieldGetAllIds
    ApiService.getGroupAllIds ApiService.getFieldGroupAllIds
  rw [rdcGroupGetAllIds_eq hb, rdcGroupFieldGetAllIds_eq hb, allIds_eq_iff, allIds_eq_iff,
    ExtTreeMap.length_keys]
  exact ⟨fun h => h.1, fun h => ⟨h, hfield⟩⟩

/-- As many empty groups as the store takes. -/
def fullStore : List GroupOp := List.replicate 64 (.gpuCreate .empty [97] fun _ => none)

/-- The daemon lists all of them, the client reports the limit and none. -/
theorem not_listingsAgree_fullStore :
    (EmbeddedHandler.rdcGroupGetAllIds (GroupHistory.after 1 fullStore).store).status = .ok
    ∧ StandaloneHandler.rdcGroupGetAllIds (GroupHistory.after 1 fullStore).store
        = ⟨.maxLimit, some 64, []⟩
    ∧ ¬ ListingsAgree (GroupHistory.after 1 fullStore).store := by
  have hdaemon : (EmbeddedHandler.rdcGroupGetAllIds
      (GroupHistory.after 1 fullStore).store).status = .ok := by decide +kernel
  have hclient : StandaloneHandler.rdcGroupGetAllIds (GroupHistory.after 1 fullStore).store
      = ⟨.maxLimit, some 64, []⟩ := by decide +kernel
  refine ⟨hdaemon, hclient, fun h => ?_⟩
  rw [← h.1, hclient] at hdaemon
  cases hdaemon

end Rdc.Proof
