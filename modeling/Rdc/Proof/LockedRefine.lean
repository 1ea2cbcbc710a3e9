import Rdc.Proof.LockOrder

/-!
# The calls with their locks refine the calls without them

Run alone, a call with all its locks gives the status that the model without locks gives and leaves
the daemon that it leaves (`calls_refine`). The two parts of the state that are not in the daemon,
the event masks and the queue of the fetcher, have no influence on it.
-/

namespace Rdc.Proof

open Rdc Locks
open Locks.Proc (read modify update guarded)

variable {α β : Type}

/-! ## What a call does when it runs alone -/

/-- The result of the program and the daemon after it. -/
def onDaemon (p : Proc Data α) (m : ∀ l, Data l) : α × Daemon :=
  ((p.run m).1, Daemon.ofData (p.run m).2)

theorem onDaemon_bind (p : Proc Data α) (q : α → Proc Data β) (m : ∀ l, Data l) :
    onDaemon (p >>= q) m = onDaemon (q (p.run m).1) (p.run m).2 := by
  unfold onDaemon
  rw [Proc.run_bind]

theorem onDaemon_guarded (l : Mutex) (p : Proc Data α) (m : ∀ l, Data l) :
    onDaemon (guarded l p) m = onDaemon p m := by
  unfold onDaemon
  rw [Proc.run_guarded]

theorem onDaemon_read {l : Mutex} (f : Data l → α) (q : α → Proc Data β) (m : ∀ l, Data l) :
    onDaemon (Proc.read l f >>= q) m = onDaemon (q (f (m l))) m := by
  rw [onDaemon_bind, Proc.run_read]

theorem onDaemon_modify {l : Mutex} (f : Data l → Data l) (q : Unit → Proc Data β)
    (m : ∀ l, Data l) :
    onDaemon (Proc.modify l f >>= q) m = onDaemon (q ()) (Function.update m l (f (m l))) := by
  rw [onDaemon_bind, Proc.run_modify]

theorem onDaemon_update {l : Mutex} (f : Data l → α × Data l) (m : ∀ l, Data l) :
    onDaemon (Proc.update l f) m
      = ((f (m l)).1, Daemon.ofData (Function.update m l (f (m l)).2)) := by
  unfold onDaemon
  rw [Proc.run_update]

/-- Only the daemon that the first program leaves matters to the second, if this is so for the
second program. -/
theorem onDaemon_seq {p : Proc Data α} {q : α → Proc Data β} {m : ∀ l, Data l} {x : α × Daemon}
    {r : β × Daemon} (hp : onDaemon p m = x)
    (hq : ∀ m', Daemon.ofData m' = x.2 → onDaemon (q x.1) m' = r) : onDaemon (p >>= q) m = r := by
  subst hp
  rw [onDaemon_bind]
  exact hq _ rfl

/-- A step of a call on the part under `watch_mutex_`. -/
def onWatch (d : Daemon) (f : WatchData → WatchData) : Daemon :=
  let w := f ⟨d.watchTable, d.jobWatchTable, d.fieldsToWatch, d.lastCleanupTime, d.moduleCalls⟩
  { d with
    watchTable := w.watchTable
    jobWatchTable := w.jobWatchTable
    fieldsToWatch := w.fieldsToWatch
    lastCleanupTime := w.lastCleanupTime
    moduleCalls := w.moduleCalls }

theorem modifyWatch_onDaemon (f : WatchData → WatchData) (m : ∀ l, Data l) :
    onDaemon (Proc.modify .watch f : Proc Data Unit) m = ((), onWatch (Daemon.ofData m) f) := rfl

theorem updateCache_onDaemon (f : CacheManager → α × CacheManager) (m : ∀ l, Data l) :
    onDaemon (guarded .cache (Proc.update .cache f) : Proc Data α) m
      = ((f (Daemon.ofData m).cacheMgr).1,
          { Daemon.ofData m with cacheMgr := (f (Daemon.ofData m).cacheMgr).2 }) := rfl

theorem ofData_jobWatchTable (m : ∀ l, Data l) :
    (m .watch).jobWatchTable = (Daemon.ofData m).jobWatchTable := rfl

theorem ofData_watchTable (m : ∀ l, Data l) :
    (Daemon.ofData m).watchTable = (m .watch).watchTable := rfl

/-! ### The group store -/

theorem rdcGroupGpuGetInfo_run (g : Nat) (m : ∀ l, Data l) :
    (Locked.rdcGroupGpuGetInfo g).run m
      = ((Daemon.ofData m).groupSettings.rdcGroupGpuGetInfo g, m) := by
  rw [Locked.rdcGroupGpuGetInfo, Proc.run_guarded, Proc.run_read]
  rfl

theorem rdcGroupFieldGetInfo_run (fg : Nat) (m : ∀ l, Data l) :
    (Locked.rdcGroupFieldGetInfo fg).run m
      = ((Daemon.ofData m).groupSettings.rdcGroupFieldGetInfo fg, m) := by
  rw [Locked.rdcGroupFieldGetInfo, Proc.run_guarded, Proc.run_read]
  rfl

theorem getFieldsFromGroup_run (g fg : Nat) (m : ∀ l, Data l) :
    (Locked.getFieldsFromGroup g fg).run m =
      ((Daemon.ofData m).groupSettings.getFieldsFromGroup g fg, m) := by
  rw [Locked.getFieldsFromGroup, Proc.run_bind, rdcGroupGpuGetInfo_run,
    GroupSettings.getFieldsFromGroup]
  cases (Daemon.ofData m).groupSettings.rdcGroupGpuGetInfo g with
  | error result => rfl
  | ok ginfo =>
    dsimp only
    rw [Proc.run_bind, rdcGroupFieldGetInfo_run]
    cases (Daemon.ofData m).groupSettings.rdcGroupFieldGetInfo fg with
    | error result => rfl
    | ok finfo => rfl

/-- A call on the GPU groups neither sees nor changes the field groups. -/
structure OnGpuGroups (f : GroupSettings → α × GroupSettings) : Prop where
  value : ∀ gs, (f gs).1 = (f gs.gpuData.store).1
  gpuData : ∀ gs, (f gs).2.gpuData = (f gs.gpuData.store).2.gpuData
  fieldData : ∀ gs, (f gs).2.fieldData = gs.fieldData

/-- A call on the field groups neither sees nor changes the GPU groups. -/
structure OnFieldGroups (f : GroupSettings → α × GroupSettings) : Prop where
  value : ∀ gs, (f gs).1 = (f gs.fieldData.store).1
  fieldData : ∀ gs, (f gs).2.fieldData = (f gs.fieldData.store).2.fieldData
  gpuData : ∀ gs, (f gs).2.gpuData = gs.gpuData

theorem OnGpuGroups.onDaemon {f : GroupSettings → α × GroupSettings} (hf : OnGpuGroups f)
    (m : ∀ l, Data l) :
    onDaemon (guarded .group (Proc.update .group fun g => ((f g.store).1, (f g.store).2.gpuData))
        : Proc Data α) m
      = ((f (Daemon.ofData m).groupSettings).1,
          { Daemon.ofData m with groupSettings := (f (Daemon.ofData m).groupSettings).2 }) := by
  have hval := hf.value (Daemon.ofData m).groupSettings
  have hgpu := hf.gpuData (Daemon.ofData m).groupSettings
  have hfield := hf.fieldData (Daemon.ofData m).groupSettings
  have hstore : (Daemon.ofData m).groupSettings.gpuData = m .group := rfl
  rw [hstore] at hval hgpu
  rw [onDaemon_guarded, onDaemon_update, ← hval, ← hgpu]
  generalize f (Daemon.ofData m).groupSettings = r at hfield
  obtain ⟨a, gpuGroup, fieldGroup, curGroupId, curFieldGroupId⟩ := r
  obtain ⟨rfl, rfl⟩ := FieldGroupData.mk.inj hfield
  rfl

theorem OnFieldGroups.onDaemon {f : GroupSettings → α × GroupSettings} (hf : OnFieldGroups f)
    (m : ∀ l, Data l) :
    onDaemon (guarded .fieldGroup
        (Proc.update .fieldGroup fun g => ((f g.store).1, (f g.store).2.fieldData)) : Proc Data α) m
      = ((f (Daemon.ofData m).groupSettings).1,
          { Daemon.ofData m with groupSettings := (f (Daemon.ofData m).groupSettings).2 }) := by
  have hval := hf.value (Daemon.ofData m).groupSettings
  have hfield := hf.fieldData (Daemon.ofData m).groupSettings
  have hgpu := hf.gpuData (Daemon.ofData m).groupSettings
  have hstore : (Daemon.ofData m).groupSettings.fieldData = m .fieldGroup := rfl
  rw [hstore] at hval hfield
  rw [onDaemon_guarded, onDaemon_update, ← hval, ← hfield]
  generalize f (Daemon.ofData m).groupSettings = r at hgpu
  obtain ⟨a, gpuGroup, fieldGroup, curGroupId, curFieldGroupId⟩ := r
  obtain ⟨rfl, rfl⟩ := GpuGroupData.mk.inj hgpu
  rfl

theorem rdcGroupGpuCreate_onGpuGroups (name : List UInt8) :
    OnGpuGroups fun gs : GroupSettings =>
      let r := gs.rdcGroupGpuCreate name
      ((r.1, r.2.1), r.2.2) := by
  constructor <;> intro gs <;> obtain ⟨gpuGroup, fieldGroup, _, _⟩ := gs <;>
    dsimp only [GroupSettings.rdcGroupGpuCreate, GroupSettings.gpuData, GpuGroupData.store] <;>
    split <;> rfl

theorem rdcGroupGpuDestroy_onGpuGroups (groupId : Nat) :
    OnGpuGroups fun gs : GroupSettings => gs.rdcGroupGpuDestroy groupId := by
  constructor <;> intro gs <;> obtain ⟨gpuGroup, fieldGroup, _, _⟩ := gs <;>
    dsimp only [GroupSettings.rdcGroupGpuDestroy, GroupSettings.gpuData, GpuGroupData.store] <;>
    split <;> rfl

theorem rdcGroupGpuAdd_onGpuGroups (groupId gpuIndex : Nat) :
    OnGpuGroups fun gs : GroupSettings => gs.rdcGroupGpuAdd groupId gpuIndex := by
  constructor <;> intro gs <;> obtain ⟨gpuGroup, fieldGroup, _, _⟩ := gs <;>
    dsimp only [GroupSettings.rdcGroupGpuAdd, GroupSettings.gpuData, GpuGroupData.store] <;>
    split <;> try split <;> try split
  all_goals rfl

theorem rdcGroupFieldCreate_onFieldGroups (fieldIds : List Nat) (name : List UInt8) :
    OnFieldGroups fun gs : GroupSettings =>
      let r := gs.rdcGroupFieldCreate fieldIds name
      ((r.1, r.2.1), r.2.2) := by
  constructor <;> intro gs <;> obtain ⟨gpuGroup, fieldGroup, _, _⟩ := gs <;>
    dsimp only [GroupSettings.rdcGroupFieldCreate, GroupSettings.fieldData,
      FieldGroupData.store] <;>
    split <;> try split
  all_goals rfl

theorem rdcGroupFieldDestroy_onFieldGroups (fieldGroupId : Nat) :
    OnFieldGroups fun gs : GroupSettings => gs.rdcGroupFieldDestroy fieldGroupId := by
  constructor <;> intro gs <;> obtain ⟨gpuGroup, fieldGroup, _, _⟩ := gs <;>
    dsimp only [GroupSettings.rdcGroupFieldDestroy, GroupSettings.fieldData,
      FieldGroupData.store] <;>
    split <;> try split
  all_goals rfl

theorem handlerGroupGpuAdd_onDaemon (deviceCount groupId gpuIndex : Nat) (query : Option Failure)
    (m : ∀ l, Data l) :
    onDaemon (Locked.handlerGroupGpuAdd deviceCount groupId gpuIndex query) m
      = (Daemon.ofData m).onGroups (EmbeddedHandler.rdcGroupGpuAdd deviceCount
          (Daemon.ofData m).groupSettings groupId gpuIndex query) := by
  rw [Locked.handlerGroupGpuAdd, EmbeddedHandler.rdcGroupGpuAdd]
  cases EmbeddedHandler.rdcDeviceGetAll deviceCount query with
  | error status => rfl
  | ok gpuIndexList =>
    dsimp only
    split
    · exact (rdcGroupGpuAdd_onGpuGroups groupId gpuIndex).onDaemon m
    · rfl

theorem addAll_onDaemon (deviceCount groupId : Nat) (queries : Nat → Option Failure)
    (gpus : List Nat) (status : Status) (m : ∀ l, Data l) :
    onDaemon (Locked.addAll deviceCount groupId queries gpus status) m
      = (Daemon.ofData m).onGroups (EmbeddedHandler.addAll deviceCount groupId queries gpus
          (status, (Daemon.ofData m).groupSettings)) := by
  induction gpus generalizing status m with
  | nil => rfl
  | cons gpu gpus ih =>
    refine onDaemon_seq (handlerGroupGpuAdd_onDaemon deviceCount groupId gpu _ m) ?_
    intro m' hm'
    rw [ih, hm']
    rfl

theorem handlerGroupGpuCreate_onDaemon (deviceCount : Nat) (type : RdcGroupType)
    (name : List UInt8) (queries : Nat → Option Failure) (m : ∀ l, Data l) :
    onDaemon (Locked.handlerGroupGpuCreate deviceCount type name queries) m
      = let r := EmbeddedHandler.rdcGroupGpuCreate deviceCount (Daemon.ofData m).groupSettings type
          name queries
        ((r.1, r.2.1), { Daemon.ofData m with groupSettings := r.2.2 }) := by
  refine onDaemon_seq ((rdcGroupGpuCreate_onGpuGroups name).onDaemon m) fun m' hm' => ?_
  rw [EmbeddedHandler.rdcGroupGpuCreate]
  generalize (Daemon.ofData m).groupSettings.rdcGroupGpuCreate name = r at hm'
  obtain ⟨status, _ | groupId, gs⟩ := r
  · exact congrArg (Prod.mk _) hm'
  · dsimp only
    split
    · exact congrArg (Prod.mk _) hm'
    · cases EmbeddedHandler.rdcDeviceGetAll deviceCount (queries 0) with
      | error status => exact congrArg (Prod.mk _) hm'
      | ok gpuIndexList =>
        have hadd := addAll_onDaemon deviceCount groupId queries gpuIndexList .ok m'
        rw [hm'] at hadd
        exact onDaemon_seq hadd fun m'' hm'' => congrArg (Prod.mk _) hm''

theorem handlerGroupFieldCreate_onDaemon (fieldIds : List Nat) (name : List UInt8)
    (m : ∀ l, Data l) :
    onDaemon (Locked.handlerGroupFieldCreate fieldIds name) m
      = let r := EmbeddedHandler.rdcGroupFieldCreate (Daemon.ofData m).groupSettings fieldIds name
        ((r.1, r.2.1), { Daemon.ofData m with groupSettings := r.2.2 }) := by
  rw [Locked.handlerGroupFieldCreate, EmbeddedHandler.rdcGroupFieldCreate]
  split
  · rename_i hle
    split
    · rw [Locked.rdcGroupFieldCreate, if_pos hle]
      exact (rdcGroupFieldCreate_onFieldGroups fieldIds name).onDaemon m
    · rfl
  · rfl

theorem rdcGroupFieldDestroy_onDaemon (fieldGroupId : Nat) (m : ∀ l, Data l) :
    onDaemon (Locked.rdcGroupFieldDestroy fieldGroupId) m
      = (Daemon.ofData m).onGroups
          ((Daemon.ofData m).groupSettings.rdcGroupFieldDestroy fieldGroupId) := by
  have h := (rdcGroupFieldDestroy_onFieldGroups fieldGroupId).onDaemon m
  rw [Locked.rdcGroupFieldDestroy]
  split
  · rename_i hjob
    rw [GroupSettings.rdcGroupFieldDestroy, if_pos hjob]
    rfl
  · exact h

variable (tel : Telemetry) (answers : SmiAnswers)

/-! ### Watching and unwatching -/

theorem watchNew_onDaemon (gkey : RdcFieldGroupKey) (f : FieldSettings) (m : ∀ l, Data l) :
    onDaemon (Locked.watchNew tel answers gkey f) m
      = (Daemon.ofData m).watchNew tel gkey f := by
  rw [Locked.watchNew, onDaemon_bind, getFieldsFromGroup_run, Daemon.watchNew]
  cases (Daemon.ofData m).groupSettings.getFieldsFromGroup gkey.1 gkey.2 with
  | error result => rfl
  | ok fields => rfl

theorem rdcFieldWatch_onDaemon (g fg freq : Nat) (age : ℚ) (samples : Nat) (m : ∀ l, Data l) :
    onDaemon (Locked.rdcFieldWatch tel answers g fg freq age samples) m
      = (Daemon.ofData m).rdcFieldWatch tel g fg freq age samples := by
  rw [Locked.rdcFieldWatch, onDaemon_guarded, onDaemon_read, Daemon.rdcFieldWatch,
    ofData_watchTable]
  cases (m .watch).watchTable[(g, fg)]? with
  | none => exact watchNew_onDaemon tel answers _ _ m
  | some entry =>
    dsimp only
    split
    · rfl
    · rw [onDaemon_modify, watchNew_onDaemon]
      rfl

theorem updateFrequencies_run (table : List (RdcFieldGroupKey × FieldSettings))
    (frequencies : KeyMap Nat) (m : ∀ l, Data l) :
    (Locked.updateFrequencies table frequencies).run m
      = (Daemon.updateFrequencies (Daemon.ofData m).groupSettings table frequencies, m) := by
  induction table generalizing frequencies with
  | nil => rfl
  | cons entry table ih =>
    unfold Locked.updateFrequencies Daemon.updateFrequencies
    split
    · exact ih frequencies
    · rw [Proc.run_bind, getFieldsFromGroup_run]
      cases (Daemon.ofData m).groupSettings.getFieldsFromGroup entry.1.1 entry.1.2 with
      | error result => rfl
      | ok fields => exact ih _

theorem stopListening_onDaemon (gpu : Nat) (m : ∀ l, Data l) :
    Daemon.ofData ((Locked.stopListening answers gpu).run m).2 = Daemon.ofData m := by
  unfold Locked.stopListening
  split
  · rfl
  · rfl

theorem unwatchFields_onDaemon (frequencies : KeyMap Nat) (keys : List RdcFieldKey)
    (acc : Daemon.UnwatchLoop) (m : ∀ l, Data l) :
    onDaemon (Locked.unwatchFields answers frequencies keys acc) m
      = (keys.foldl (Daemon.unwatchField frequencies) acc, Daemon.ofData m) := by
  induction keys generalizing acc m with
  | nil => rfl
  | cons key keys ih =>
    rw [Locked.unwatchFields, onDaemon_bind, ih, List.foldl_cons]
    refine congrArg (Prod.mk _) ?_
    split
    · exact stopListening_onDaemon answers key.1 m
    · rfl

theorem updateFieldInTableWhenUnwatch_onDaemon (entry : RdcFieldGroupKey) (m : ∀ l, Data l) :
    onDaemon (Locked.updateFieldInTableWhenUnwatch answers entry) m
      = (Daemon.ofData m).updateFieldInTableWhenUnwatch entry := by
  rw [Locked.updateFieldInTableWhenUnwatch, onDaemon_bind, getFieldsFromGroup_run,
    Daemon.updateFieldInTableWhenUnwatch]
  cases (Daemon.ofData m).groupSettings.getFieldsFromGroup entry.1 entry.2 with
  | error result => rfl
  | ok fields =>
    dsimp only
    rw [onDaemon_read, onDaemon_bind, updateFrequencies_run, ofData_watchTable]
    cases Daemon.updateFrequencies (Daemon.ofData m).groupSettings
        (m .watch).watchTable.toList ∅ with
    | error result => rfl
    | ok frequencies =>
      dsimp only
      rw [onDaemon_read]
      refine onDaemon_seq (unwatchFields_onDaemon answers frequencies fields _ m) ?_
      intro m' hm'
      refine onDaemon_seq (modifyWatch_onDaemon _ m') fun m'' hm'' => ?_
      rw [hm'] at hm''
      exact congrArg (Prod.mk _) hm''

theorem rdcFieldUnwatch_onDaemon (g fg now : Nat) (m : ∀ l, Data l) :
    onDaemon (Locked.rdcFieldUnwatch answers g fg now) m
      = (Daemon.ofData m).rdcFieldUnwatch g fg now := by
  rw [Locked.rdcFieldUnwatch, onDaemon_guarded, onDaemon_read, Daemon.rdcFieldUnwatch,
    ofData_watchTable]
  cases (m .watch).watchTable[(g, fg)]? with
  | none => rfl
  | some entry =>
    dsimp only
    rw [onDaemon_modify, updateFieldInTableWhenUnwatch_onDaemon]
    rfl

/-! ### Updates and events -/

theorem cacheValue_onDaemon (gpu : Nat) (value : RdcFieldValue) (m : ∀ l, Data l) :
    onDaemon (Locked.cacheValue gpu value) m
      = ((), { Daemon.ofData m with
          cacheMgr := Daemon.cacheValue (m .watch).jobWatchTable (m .cache) gpu value }) := by
  rw [Locked.cacheValue, onDaemon_bind, Proc.run_guarded, Proc.run_modify, onDaemon_read,
    Daemon.cacheValue]
  dsimp only
  rw [Function.update_of_ne (by decide)]
  cases Daemon.isJobWatchField (m .watch).jobWatchTable (gpu, value.fieldId) with
  | none => rfl
  | some j => rfl

theorem deliver_onDaemon (time gpu : Nat) (value : RdcFieldValue) (m : ∀ l, Data l) :
    onDaemon (Locked.deliver time gpu value) m
      = ((), (Daemon.ofData m).deliver time gpu value) := by
  rw [Locked.deliver, onDaemon_modify, Daemon.deliver]
  split
  · rw [cacheValue_onDaemon]
    rfl
  · rfl

theorem handleFields_onDaemon (values : List (Nat × RdcGpuFieldValue)) (m : ∀ l, Data l) :
    onDaemon (Locked.handleFields values) m = ((), (Daemon.ofData m).handleFields values) := by
  induction values generalizing m with
  | nil => rfl
  | cons v values ih =>
    refine onDaemon_seq (deliver_onDaemon v.1 v.2.gpuIndex v.2.fieldValue m) ?_
    rintro m' hm'
    rw [ih, hm']
    rfl

/-- The queue of the fetcher is not a part of the daemon's tables. -/
theorem fetchFields_onDaemon (fields : List (RdcFieldKey × Nat)) (m : ∀ l, Data l) :
    onDaemon (Locked.fetchFields fields) m = ((), Daemon.ofData m) := by
  induction fields generalizing m with
  | nil => rfl
  | cons f fields ih =>
    have hfirst : onDaemon (Locked.fetchField f.1 f.2) m = ((), Daemon.ofData m) := by
      unfold Locked.fetchField
      split
      · rfl
      · rfl
    refine onDaemon_seq hfirst fun m' hm' => ?_
    rw [ih, hm']

theorem fieldsValueGet_onDaemon (batches : List Locked.FetchedBatch) (m : ∀ l, Data l) :
    onDaemon (Locked.fieldsValueGet batches) m
      = ((), (Daemon.ofData m).handleFields (batches.flatMap (·.delivered))) := by
  induction batches generalizing m with
  | nil => rfl
  | cons batch batches ih =>
    refine onDaemon_seq (fetchFields_onDaemon batch.fields m) fun m₁ h₁ => ?_
    refine onDaemon_seq (handleFields_onDaemon batch.delivered m₁) fun m₂ h₂ => ?_
    rw [ih, h₂, h₁, List.flatMap_cons, Daemon.handleFields, Daemon.handleFields,
      Daemon.handleFields, List.foldl_append]

theorem evictAll_onDaemon (clock : Daemon.CleanUpClock)
    (records : List (RdcFieldKey × FieldSettings)) (m : ∀ l, Data l) :
    onDaemon (Locked.evictAll clock records) m
      = ((), { Daemon.ofData m with
          cacheMgr := records.foldl
            (fun c f => c.evict f.1.1 f.1.2 f.2.maxKeepSamples f.2.maxKeepAge
              (clock.evict f.1)) (m .cache) }) := by
  induction records generalizing m with
  | nil => rfl
  | cons f records ih =>
    rw [Locked.evictAll, onDaemon_bind, ih]
    rfl

theorem cleanUp_onDaemon (clock : Daemon.CleanUpClock) (m : ∀ l, Data l) :
    onDaemon (Locked.cleanUp clock) m = ((), (Daemon.ofData m).cleanUp clock) := by
  rw [Locked.cleanUp, onDaemon_read]
  refine onDaemon_seq (evictAll_onDaemon clock _ m) fun m' hm' => ?_
  refine onDaemon_seq (modifyWatch_onDaemon _ m') fun m'' hm'' => ?_
  rw [hm'] at hm''
  split
  · exact congrArg (Prod.mk _) hm''
  · exact congrArg (Prod.mk _) hm''

theorem fetchDue_onDaemon (now : Nat) (batches : List Locked.FetchedBatch) (m : ∀ l, Data l) :
    onDaemon (Locked.fetchDue now batches) m
      = ((), (Daemon.ofData m).fetched now (batches.flatMap (·.delivered))) := by
  have hfields : Daemon.fieldsToFetch { Daemon.init with fieldsToWatch := (m .watch).fieldsToWatch }
      now = (Daemon.ofData m).fieldsToFetch now := rfl
  rw [Locked.fetchDue, onDaemon_read, hfields, Daemon.fetched]
  split
  · rfl
  · refine onDaemon_seq (modifyWatch_onDaemon _ m) fun m' hm' => ?_
    rw [fieldsValueGet_onDaemon, hm']
    rfl

theorem rdcFieldUpdateAll_onDaemon (now : Nat) (batches : List Locked.FetchedBatch)
    (clock : Daemon.CleanUpClock) (m : ∀ l, Data l) :
    onDaemon (Locked.rdcFieldUpdateAll now batches clock) m
      = (Daemon.ofData m).rdcFieldUpdateAll now (batches.flatMap (·.delivered)) clock := by
  rw [Locked.rdcFieldUpdateAll, onDaemon_guarded, Daemon.rdcFieldUpdateAll]
  refine onDaemon_seq (fetchDue_onDaemon now batches m) fun m₁ h₁ => ?_
  have htime : (m₁ .watch).lastCleanupTime = (Daemon.ofData m₁).lastCleanupTime := rfl
  rw [onDaemon_read, htime, h₁]
  split
  · refine onDaemon_seq (cleanUp_onDaemon clock m₁) fun m₂ h₂ => ?_
    refine onDaemon_seq (modifyWatch_onDaemon _ m₂) fun m₃ h₃ => ?_
    rw [h₂, h₁] at h₃
    exact congrArg (Prod.mk _) h₃
  · exact congrArg (Prod.mk _) h₁

theorem deliverEvents_onDaemon (events : List RdcEvntNotification) (m : ∀ l, Data l) :
    onDaemon (Locked.deliverEvents events) m
      = ((), events.foldl (fun d e => d.deliver e.field.ts e.gpuId e.field) (Daemon.ofData m)) := by
  induction events generalizing m with
  | nil => rfl
  | cons e events ih =>
    refine onDaemon_seq (deliver_onDaemon e.field.ts e.gpuId e.field m) fun m' hm' => ?_
    rw [ih, hm']
    rfl

theorem rdcNotifUpdateCache_onDaemon (events : List RdcEvntNotification) (m : ∀ l, Data l) :
    onDaemon (Locked.rdcNotifUpdateCache events) m
      = (Daemon.ofData m).rdcNotifUpdateCache events := by
  unfold Locked.rdcNotifUpdateCache Daemon.rdcNotifUpdateCache
  split
  · rfl
  · rw [onDaemon_guarded]
    exact onDaemon_seq (deliverEvents_onDaemon events m) fun m' hm' => congrArg (Prod.mk _) hm'

theorem rdcFieldListenNotif_onDaemon (top : Topology)
    (answer : Except Status (List SmiNotification)) (now : Nat) (m : ∀ l, Data l) :
    onDaemon (Locked.rdcFieldListenNotif top answer now) m
      = (Daemon.ofData m).rdcFieldListenNotif top answer now := by
  rw [Locked.rdcFieldListenNotif, Daemon.rdcFieldListenNotif]
  obtain ⟨result, events⟩ := top.listen kMaxRSMIEvents answer now
  cases result with
  | ok =>
    dsimp only
    split
    · rfl
    · exact rdcNotifUpdateCache_onDaemon _ m
  | _ => rfl

/-! ### Jobs -/

open Atomic in
theorem readFieldsFromGroup_run (g fg : Nat) (d : Daemon) :
    (Daemon.readFieldsFromGroup g fg).run d = (d.groupSettings.getFieldsFromGroup g fg, d) := by
  rw [Daemon.readFieldsFromGroup, Prog.run_bind, Prog.run_read, GroupSettings.getFieldsFromGroup]
  cases d.groupSettings.rdcGroupGpuGetInfo g with
  | error result => rfl
  | ok ginfo =>
    dsimp only
    rw [Prog.run_bind, Prog.run_read]
    cases d.groupSettings.rdcGroupFieldGetInfo fg with
    | error result => rfl
    | ok finfo => rfl

open Atomic in
theorem startRegistered_onDaemon (g : Nat) (jobId : JobId) (freq : Nat) (gauges : RdcGpuGauges)
    (time : Nat) (m : ∀ l, Data l) :
    onDaemon (Locked.startRegistered tel answers g jobId freq gauges time) m
      = (Daemon.startRegistered tel g jobId freq gauges time).run (Daemon.ofData m) := by
  rw [Locked.startRegistered, onDaemon_bind, rdcGroupGpuGetInfo_run, Daemon.startRegistered,
    Prog.run_bind, Prog.run_read]
  cases (Daemon.ofData m).groupSettings.rdcGroupGpuGetInfo g with
  | error result => rfl
  | ok ginfo =>
    dsimp only
    rw [onDaemon_bind, rdcGroupFieldGetInfo_run, Prog.run_bind, Prog.run_read]
    cases (Daemon.ofData m).groupSettings.rdcGroupFieldGetInfo jobFieldId with
    | error result => rfl
    | ok finfo =>
      dsimp only
      rw [Prog.run_bind, Prog.run_atomic]
      refine onDaemon_seq (updateCache_onDaemon _ m) fun m' hm' => ?_
      dsimp only
      split
      · exact congrArg (Prod.mk _) hm'
      · rw [rdcFieldWatch_onDaemon, hm']
        rfl

open Atomic in
theorem rdcJobStartStats_onDaemon (g : Nat) (jobId : JobId) (freq : Nat) (gauges : RdcGpuGauges)
    (time : Nat) (m : ∀ l, Data l) :
    onDaemon (Locked.rdcJobStartStats tel answers g jobId freq gauges time) m
      = (Daemon.rdcJobStartStats tel g jobId freq gauges time).run (Daemon.ofData m) := by
  rw [Locked.rdcJobStartStats, Daemon.rdcJobStartStats, onDaemon_bind, Proc.run_guarded,
    Proc.run_read, Prog.run_bind, Prog.run_read, ← ofData_jobWatchTable]
  split
  · rfl
  · rw [onDaemon_bind, getFieldsFromGroup_run, Prog.run_bind, readFieldsFromGroup_run]
    cases (Daemon.ofData m).groupSettings.getFieldsFromGroup g jobFieldId with
    | error result => rfl
    | ok fields =>
      dsimp only
      split
      · rfl
      · rw [Prog.run_bind, Prog.run_atomic]
        refine onDaemon_seq (onDaemon_guarded _ _ m) fun m' hm' => ?_
        rw [startRegistered_onDaemon, hm']
        rfl

open Atomic in
theorem rdcJobStopStats_onDaemon (jobId : JobId) (gauges : RdcGpuGauges)
    (clock : Daemon.StopClock) (m : ∀ l, Data l) :
    onDaemon (Locked.rdcJobStopStats answers jobId gauges clock) m
      = (Daemon.rdcJobStopStats jobId gauges clock).run (Daemon.ofData m) := by
  rw [Locked.rdcJobStopStats, onDaemon_bind, Proc.run_guarded, Proc.run_read,
    Daemon.rdcJobStopStats, Prog.run_bind, Prog.run_read, ← ofData_jobWatchTable]
  cases (m .watch).jobWatchTable[jobId]? with
  | none => rfl
  | some job =>
    dsimp only
    rw [Prog.run_bind, Prog.run_atomic]
    refine onDaemon_seq (rdcFieldUnwatch_onDaemon answers job.groupId jobFieldId clock.now m)
      fun m₁ h₁ => ?_
    split
    · exact congrArg (Prod.mk _) h₁
    · refine onDaemon_seq (onDaemon_guarded _ _ m₁) fun m₂ h₂ => ?_
      rw [updateCache_onDaemon, h₂, modifyWatch_onDaemon, h₁]
      rfl

open Atomic in
theorem stopJobs_onDaemon (clock : JobId → Daemon.StopClock) (jobs : List JobId)
    (m : ∀ l, Data l) :
    onDaemon (Locked.stopJobs answers clock jobs) m
      = (Daemon.stopJobs clock jobs).run (Daemon.ofData m) := by
  induction jobs generalizing m with
  | nil => rfl
  | cons jobId jobs ih =>
    rw [Daemon.stopJobs, Prog.run_bind]
    refine onDaemon_seq (rdcJobStopStats_onDaemon answers jobId ∅ (clock jobId) m) ?_
    intro m' hm'
    rw [ih, hm']

open Atomic in
theorem rdcJobRemove_onDaemon (jobId : JobId) (clock : Daemon.StopClock) (m : ∀ l, Data l) :
    onDaemon (Locked.rdcJobRemove answers jobId clock) m
      = (Daemon.rdcJobRemove jobId clock).run (Daemon.ofData m) := by
  rw [Daemon.rdcJobRemove, Prog.run_bind, Prog.run_atomic]
  refine onDaemon_seq (rdcJobStopStats_onDaemon answers jobId ∅ clock m) fun m' hm' => ?_
  rw [updateCache_onDaemon, hm']

open Atomic in
theorem rdcJobRemoveAll_onDaemon (clock : JobId → Daemon.StopClock) (m : ∀ l, Data l) :
    onDaemon (Locked.rdcJobRemoveAll answers clock) m
      = (Daemon.rdcJobRemoveAll clock).run (Daemon.ofData m) := by
  rw [Locked.rdcJobRemoveAll, onDaemon_bind, Proc.run_guarded, Proc.run_read,
    Daemon.rdcJobRemoveAll, Prog.run_bind, Prog.run_read, Prog.run_bind, Prog.run_atomic]
  refine onDaemon_seq (stopJobs_onDaemon answers clock _ m) fun m' hm' => ?_
  rw [updateCache_onDaemon, hm']
  rfl

theorem workerTurn_onDaemon (checked : Nat) (ret : AmdsmiStatus) (sent received curTime : Nat)
    (uninit : MetricValue) (m : ∀ l, Data l) :
    onDaemon (Locked.workerTurn checked ret sent received curTime uninit) m
      = ((), Daemon.ofData m) := by
  rw [Locked.workerTurn, onDaemon_bind, Proc.run_guarded, Proc.run_update]
  cases (m .task).updatedTasks.head? with
  | none => rfl
  | some key =>
    dsimp only
    rw [onDaemon_bind, Proc.run_guarded, Proc.run_read]
    split
    · rfl
    · rfl

/-- **Run alone, a call with its locks does what the model without them does.** -/
theorem calls_refine (call : LockedCall) (m : ∀ l, Data l) :
    onDaemon (call.proc tel answers) m = call.exec tel (Daemon.ofData m) := by
  cases call with
  | groupGpuCreate deviceCount type groupName queries =>
    refine onDaemon_seq (handlerGroupGpuCreate_onDaemon deviceCount type groupName queries m) ?_
    intro m' hm'
    exact congrArg (Prod.mk _) hm'
  | groupGpuAdd deviceCount groupId gpuIndex query =>
    exact handlerGroupGpuAdd_onDaemon deviceCount groupId gpuIndex query m
  | groupGpuDestroy groupId => exact (rdcGroupGpuDestroy_onGpuGroups groupId).onDaemon m
  | groupGpuGetInfo groupId =>
    rw [LockedCall.proc, onDaemon_bind, rdcGroupGpuGetInfo_run, LockedCall.exec]
    cases (Daemon.ofData m).groupSettings.rdcGroupGpuGetInfo groupId with
    | error status => rfl
    | ok info => rfl
  | groupGetAllIds => rfl
  | groupFieldCreate fieldIds fieldGroupName =>
    refine onDaemon_seq (handlerGroupFieldCreate_onDaemon fieldIds fieldGroupName m) ?_
    intro m' hm'
    exact congrArg (Prod.mk _) hm'
  | groupFieldDestroy fieldGroupId => exact rdcGroupFieldDestroy_onDaemon fieldGroupId m
  | groupFieldGetInfo fieldGroupId =>
    rw [LockedCall.proc, onDaemon_bind, rdcGroupFieldGetInfo_run, LockedCall.exec]
    cases (Daemon.ofData m).groupSettings.rdcGroupFieldGetInfo fieldGroupId with
    | error status => rfl
    | ok info => rfl
  | groupFieldGetAllIds => rfl
  | fieldWatch groupId fieldGroupId updateFreq maxKeepAge maxKeepSamples =>
    exact rdcFieldWatch_onDaemon tel answers _ _ _ _ _ m
  | fieldUnwatch groupId fieldGroupId now => exact rdcFieldUnwatch_onDaemon answers _ _ _ m
  | fieldGetLatestValue gpuIndex fieldId value =>
    rw [LockedCall.proc, LockedCall.exec]
    split
    · rfl
    · rfl
  | fieldGetValueSince gpuIndex fieldId since nextSince value =>
    rw [LockedCall.proc, LockedCall.exec]
    split
    · rfl
    · rfl
  | fieldUpdateAll now batches clock => exact rdcFieldUpdateAll_onDaemon now batches clock m
  | fieldListenNotif top answer now => exact rdcFieldListenNotif_onDaemon top answer now m
  | jobStartStats groupId jobId updateFreq gauges time =>
    cases gauges with
    | error failure => rfl
    | ok gauges => exact rdcJobStartStats_onDaemon tel answers _ _ _ _ _ m
  | jobStopStats jobId gauges clock =>
    cases gauges with
    | error failure => rfl
    | ok gauges => exact rdcJobStopStats_onDaemon answers _ _ _ m
  | jobGetStats jobId gauges =>
    cases gauges with
    | error failure => rfl
    | ok gauges => rfl
  | jobRemove jobId clock => exact rdcJobRemove_onDaemon answers jobId clock m
  | jobRemoveAll clock => exact rdcJobRemoveAll_onDaemon answers clock m
  | workerTurn checked ret sent received curTime uninit =>
    exact onDaemon_seq (workerTurn_onDaemon checked ret sent received curTime uninit m)
      fun m' hm' => congrArg (Prod.mk _) hm'

end Rdc.Proof
