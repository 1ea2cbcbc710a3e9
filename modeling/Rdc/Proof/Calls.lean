import Rdc.Proof.Tables

/-!
# What each call does, run alone

The job calls as functions: in which cases they stop early, and what they have done by then. A start
that gets past its lookups is a watch on the registered daemon; a stop is an unwatch, and only if
that succeeds the job leaves the job table.

Two rules carry the invariants. What a delivery and a clean-up preserve, the periodic update and the
notifications preserve (`UpdateInv`). And the tables are only ever
changed by watches, unwatches, deliveries and clean-ups, whichever call they are part of, so what
these four preserve every call preserves (`TableInv.exec`). An invariant that some unwatches would
break names the harmless ones, and the calls are then restricted to those.
-/

namespace Rdc.Proof

open Std Daemon OrdMap Atomic

variable {d : Daemon}

/-! ## Frames -/

/-- Everything the watch functions leave alone. -/
def SameStores (d d' : Daemon) : Prop :=
  d'.groupSettings = d.groupSettings ∧ d'.cacheMgr = d.cacheMgr
    ∧ d'.jobWatchTable = d.jobWatchTable

theorem rdcFieldWatch_sameStores (tel : Telemetry) (d : Daemon) (g fg freq : Nat) (age : ℚ)
    (samples : Nat) : SameStores d (d.rdcFieldWatch tel g fg freq age samples).2 := by
  rcases rdcFieldWatch_cases tel d g fg freq age samples with
    ⟨f, hw, heq⟩ | ⟨_, _, heq⟩ | ⟨_, _, F, calls, _, heq⟩ <;> rw [heq] <;> exact ⟨rfl, rfl, rfl⟩

theorem rdcFieldUnwatch_sameStores (d : Daemon) (g fg now : Nat) :
    SameStores d (d.rdcFieldUnwatch g fg now).2 := by
  rcases rdcFieldUnwatch_cases d g fg now with
    ⟨_, heq⟩ | ⟨entry, _, ⟨_, heq⟩ | ⟨_, _, F, calls, _, heq⟩⟩ <;> rw [heq] <;>
    exact ⟨rfl, rfl, rfl⟩

/-! ## The periodic update -/

theorem rdcFieldUpdateAll_eq (d : Daemon) (now : Nat) (delivered : List (Nat × RdcGpuFieldValue))
    (clock : CleanUpClock) :
    d.rdcFieldUpdateAll now delivered clock =
      if u64Sub now (fetched d now delivered).lastCleanupTime > 1000 then
        (.ok, { (fetched d now delivered).cleanUp clock with lastCleanupTime := now })
      else (.ok, fetched d now delivered) := rfl

theorem rdcFieldUpdateAll_moduleCalls (d : Daemon) (now : Nat)
    (delivered : List (Nat × RdcGpuFieldValue)) (clock : CleanUpClock) :
    (d.rdcFieldUpdateAll now delivered clock).2.moduleCalls
      = (fetched d now delivered).moduleCalls := by
  rw [rdcFieldUpdateAll_eq]
  split <;> rfl

/-- `P` is preserved by deliveries and clean-ups, and does not look at the bookkeeping of the
periodic update. -/
structure UpdateInv (P : Daemon → Prop) : Prop where
  deliver : ∀ {d} time gpu value, P d → P (d.deliver time gpu value)
  cleanUp : ∀ {d} clock, P d → P (d.cleanUp clock)
  log : ∀ {d} calls time, P d → P { d with moduleCalls := calls, lastCleanupTime := time }

namespace UpdateInv

variable {P : Daemon → Prop}

theorem handleFields (h : UpdateInv P) (values : List (Nat × RdcGpuFieldValue)) (hd : P d) :
    P (d.handleFields values) := by
  induction values generalizing d with
  | nil => exact hd
  | cons v values ih => exact ih (h.deliver v.1 v.2.gpuIndex v.2.fieldValue hd)

theorem fetched (h : UpdateInv P) (hd : P d) (now : Nat)
    (delivered : List (Nat × RdcGpuFieldValue)) : P (d.fetched now delivered) := by
  unfold Daemon.fetched
  split
  · exact hd
  · exact h.handleFields delivered (h.log _ d.lastCleanupTime hd)

theorem updateAll (h : UpdateInv P) (hd : P d) (now : Nat)
    (delivered : List (Nat × RdcGpuFieldValue)) (clock : CleanUpClock) :
    P (d.rdcFieldUpdateAll now delivered clock).2 := by
  have hfetched := h.fetched hd now delivered
  rw [rdcFieldUpdateAll_eq]
  split
  · exact h.log (d.fetched now delivered).moduleCalls now (h.cleanUp clock hfetched)
  · exact hfetched

theorem notifUpdateCache (h : UpdateInv P) (hd : P d) (events : List RdcEvntNotification) :
    P (d.rdcNotifUpdateCache events).2 := by
  unfold rdcNotifUpdateCache
  split
  · exact hd
  · have hloop : ∀ (events : List RdcEvntNotification) {d : Daemon}, P d →
        P (events.foldl (fun d e => d.deliver e.field.ts e.gpuId e.field) d) := by
      intro events
      induction events with
      | nil => exact fun hd => hd
      | cons e events ih => exact fun hd => ih (h.deliver e.field.ts e.gpuId e.field hd)
    exact hloop events hd

end UpdateInv

/-! ## Starting a job -/

/-- The daemon after a start has entered the job in the job table and in the job cache. -/
def registered (d : Daemon) (g : Nat) (j : JobId) (gauges : RdcGpuGauges) (time : Nat)
    (ginfo : RdcGroupInfo) (finfo : RdcFieldGroupInfo) : Daemon :=
  { d with
    jobWatchTable := d.jobWatchTable.insert j ⟨g, GroupSettings.expandGroups ginfo finfo⟩
    cacheMgr := { d.cacheMgr with
      cacheJobs := d.cacheMgr.cacheJobs.insert j
        (CacheManager.initJobEntry ginfo finfo gauges time) } }

/-- The group and the job field group exist, and there is something to watch. -/
def Startable (gs : GroupSettings) (g : Nat) : Prop :=
  ∃ ks, gs.getFieldsFromGroup g jobFieldId = .ok ks ∧ ks ≠ []

theorem getInfo_of_startable {gs : GroupSettings} {g : Nat} (h : Startable gs g) :
    ∃ ginfo finfo, gs.rdcGroupGpuGetInfo g = .ok ginfo
      ∧ gs.rdcGroupFieldGetInfo jobFieldId = .ok finfo
      ∧ GroupSettings.expandGroups ginfo finfo ≠ [] := by
  obtain ⟨ks, hks, hne⟩ := h
  unfold GroupSettings.getFieldsFromGroup at hks
  cases hg : gs.rdcGroupGpuGetInfo g with
  | error st =>
    rw [hg] at hks
    exact absurd hks (by simp [bind, Except.bind])
  | ok ginfo =>
    cases hf : gs.rdcGroupFieldGetInfo jobFieldId with
    | error st =>
      rw [hg, hf] at hks
      exact absurd hks (by simp [bind, Except.bind])
    | ok finfo =>
      rw [hg, hf] at hks
      refine ⟨ginfo, finfo, rfl, rfl, ?_⟩
      rw [show GroupSettings.expandGroups ginfo finfo = ks from Except.ok.inj hks]
      exact hne

theorem rdcGroupGpuGetInfo_error {gs : GroupSettings} {g : Nat} {st : Status}
    (h : gs.rdcGroupGpuGetInfo g = .error st) : st = .notFound := by
  unfold GroupSettings.rdcGroupGpuGetInfo at h
  split at h
  · exact (Except.error.inj h).symm
  · simp at h

theorem rdcGroupFieldGetInfo_error {gs : GroupSettings} {fg : Nat} {st : Status}
    (h : gs.rdcGroupFieldGetInfo fg = .error st) : st = .notFound := by
  unfold GroupSettings.rdcGroupFieldGetInfo at h
  split at h
  · exact (Except.error.inj h).symm
  · simp at h

/-- **`rdc_job_start_stats`.** A known id, a missing group or an empty one end the call before it
has done anything; otherwise the call ends as a watch does, with the job registered by then. -/
theorem rdcJobStartStats_cases (tel : Telemetry) (d : Daemon) (g : Nat) (j : JobId) (freq : Nat)
    (gauges : RdcGpuGauges) (time : Nat) :
    ((∃ job, d.jobWatchTable[j]? = some job)
      ∧ (rdcJobStartStats tel g j freq gauges time).run d = (.alreadyExist, d))
    ∨ (d.jobWatchTable[j]? = none
      ∧ ¬ Startable d.groupSettings g
      ∧ (rdcJobStartStats tel g j freq gauges time).run d = (.notFound, d))
    ∨ (d.jobWatchTable[j]? = none
      ∧ ∃ ginfo finfo, d.groupSettings.rdcGroupGpuGetInfo g = .ok ginfo
        ∧ d.groupSettings.rdcGroupFieldGetInfo jobFieldId = .ok finfo
        ∧ GroupSettings.expandGroups ginfo finfo ≠ []
        ∧ (rdcJobStartStats tel g j freq gauges time).run d
          = (registered d g j gauges time ginfo finfo).rdcFieldWatch tel g jobFieldId freq
              0 0) := by
  cases hj : d.jobWatchTable[j]? with
  | some job =>
    left
    refine ⟨⟨job, rfl⟩, ?_⟩
    have hc : d.jobWatchTable.contains j = true := by
      rw [ExtTreeMap.contains_eq_isSome_getElem?, hj]; rfl
    simp [rdcJobStartStats, hc]
  | none =>
    right
    have hc : d.jobWatchTable.contains j = false := by
      rw [ExtTreeMap.contains_eq_isSome_getElem?, hj]; rfl
    cases hg : d.groupSettings.rdcGroupGpuGetInfo g with
    | error st =>
      left
      refine ⟨rfl, ?_, ?_⟩
      · intro hst
        obtain ⟨ginfo, _, h, _⟩ := getInfo_of_startable hst
        rw [hg] at h
        cases h
      · simp [rdcJobStartStats, readFieldsFromGroup, hc, hg, rdcGroupGpuGetInfo_error hg]
    | ok ginfo =>
      cases hf : d.groupSettings.rdcGroupFieldGetInfo jobFieldId with
      | error st =>
        left
        refine ⟨rfl, ?_, ?_⟩
        · intro hst
          obtain ⟨_, finfo, _, h, _⟩ := getInfo_of_startable hst
          rw [hf] at h
          cases h
        · simp [rdcJobStartStats, readFieldsFromGroup, hc, hg, hf,
            rdcGroupFieldGetInfo_error hf]
      | ok finfo =>
        by_cases hks : GroupSettings.expandGroups ginfo finfo = []
        · left
          refine ⟨rfl, ?_, ?_⟩
          · intro hst
            obtain ⟨_, _, h, h', hne⟩ := getInfo_of_startable hst
            rw [hg] at h
            rw [hf] at h'
            cases h
            cases h'
            exact hne hks
          · simp [rdcJobStartStats, readFieldsFromGroup, hc, hg, hf, hks]
        · right
          refine ⟨rfl, ginfo, finfo, rfl, rfl, hks, ?_⟩
          -- `emplace` after `erase` overwrites, and the job was not in the job table
          simp [rdcJobStartStats, readFieldsFromGroup, startRegistered, hc, hg, hf, hks,
            CacheManager.rdcJobStartStats, insertIfNew_erase,
            insertIfNew_of_getElem?_none hj, registered]

/-! ## Stopping and removing jobs -/

/-- The end of a stop: the job leaves the job table and its statistics are closed. -/
def endJob (d : Daemon) (j : JobId) (gauges : RdcGpuGauges) (time : Nat) : Status × Daemon :=
  ((d.cacheMgr.rdcJobStopStats j gauges time).1,
    { d with
      jobWatchTable := d.jobWatchTable.erase j
      cacheMgr := (d.cacheMgr.rdcJobStopStats j gauges time).2 })

theorem endJob_jobs (d : Daemon) (j : JobId) (gauges : RdcGpuGauges) (time : Nat) :
    (endJob d j gauges time).2.jobWatchTable = d.jobWatchTable.erase j := rfl

/-- **`rdc_job_stop_stats`.** An unknown id ends the call; so does a failed unwatch. -/
theorem rdcJobStopStats_cases (d : Daemon) (j : JobId) (gauges : RdcGpuGauges)
    (clock : StopClock) :
    (d.jobWatchTable[j]? = none ∧ (rdcJobStopStats j gauges clock).run d = (.notFound, d))
    ∨ ∃ job, d.jobWatchTable[j]? = some job
      ∧ (((d.rdcFieldUnwatch job.groupId jobFieldId clock.now).1 ≠ .ok
          ∧ (rdcJobStopStats j gauges clock).run d
            = d.rdcFieldUnwatch job.groupId jobFieldId clock.now)
        ∨ ((d.rdcFieldUnwatch job.groupId jobFieldId clock.now).1 = .ok
          ∧ (rdcJobStopStats j gauges clock).run d
            = endJob (d.rdcFieldUnwatch job.groupId jobFieldId clock.now).2 j gauges
                clock.time)) := by
  cases hj : d.jobWatchTable[j]? with
  | none => exact Or.inl ⟨rfl, by simp [rdcJobStopStats, hj]⟩
  | some job =>
    right
    refine ⟨job, rfl, ?_⟩
    by_cases hst : (d.rdcFieldUnwatch job.groupId jobFieldId clock.now).1 = .ok
    · exact Or.inr ⟨hst, by simp [rdcJobStopStats, hj, hst, endJob]⟩
    · exact Or.inl ⟨hst, by simp [rdcJobStopStats, hj, hst]⟩

/-- The daemon without the statistics of `j`. -/
def forgetStats (d : Daemon) (j : JobId) : Daemon :=
  { d with cacheMgr := (d.cacheMgr.rdcJobRemove j).2 }

theorem rdcJobRemove_run (d : Daemon) (j : JobId) (clock : StopClock) :
    (rdcJobRemove j clock).run d
      = (.ok, forgetStats ((rdcJobStopStats j ∅ clock).run d).2 j) := by
  simp [rdcJobRemove, forgetStats, CacheManager.rdcJobRemove]

/-- The stop loop of `rdc_job_remove_all`, as a function. -/
def stopAll (clock : JobId → StopClock) (d : Daemon) (js : List JobId) : Daemon :=
  js.foldl (fun d j => ((rdcJobStopStats j ∅ (clock j)).run d).2) d

theorem stopJobs_run (clock : JobId → StopClock) (js : List JobId) (d : Daemon) :
    (stopJobs clock js).run d = ((), stopAll clock d js) := by
  induction js generalizing d with
  | nil => rfl
  | cons j js ih =>
    show ((rdcJobStopStats j ∅ (clock j)) >>= fun _ => stopJobs clock js).run d = _
    rw [Prog.run_bind, ih]
    rfl

theorem rdcJobRemoveAll_run (d : Daemon) (clock : JobId → StopClock) :
    (rdcJobRemoveAll clock).run d
      = (.ok, { stopAll clock d d.jobWatchTable.keys with
          cacheMgr := (stopAll clock d d.jobWatchTable.keys).cacheMgr.rdcJobRemoveAll.2 }) := by
  simp [rdcJobRemoveAll, stopJobs_run, CacheManager.rdcJobRemoveAll]

theorem rdcJobStopStats_jobs {j : JobId} {gauges : RdcGpuGauges} {clock : StopClock} {j' : JobId}
    {job : JobWatchTableEntry}
    (h : ((rdcJobStopStats j gauges clock).run d).2.jobWatchTable[j']? = some job) :
    d.jobWatchTable[j']? = some job := by
  rcases rdcJobStopStats_cases d j gauges clock with ⟨_, heq⟩ | ⟨job₀, _, ⟨_, heq⟩ | ⟨_, heq⟩⟩
  · rwa [heq] at h
  · rw [heq, (rdcFieldUnwatch_sameStores ..).2.2] at h
    exact h
  · rw [heq, endJob_jobs, (rdcFieldUnwatch_sameStores ..).2.2] at h
    exact (getElem?_erase_some h).2

/-! ## The rule for invariants of the tables -/

/-- The entries a call unwatches. -/
def Unwatches (d : Daemon) (e : RdcFieldGroupKey) : Op → Prop
  | .fieldUnwatch groupId fieldGroupId _ => e = (groupId, fieldGroupId)
  | .jobStopStats jobId _ _ => ∃ job, d.jobWatchTable[jobId]? = some job
      ∧ e = (job.groupId, jobFieldId)
  | .jobRemove jobId _ => ∃ job, d.jobWatchTable[jobId]? = some job
      ∧ e = (job.groupId, jobFieldId)
  | .jobRemoveAll _ => ∃ (jobId : JobId) (job : JobWatchTableEntry),
      d.jobWatchTable[jobId]? = some job
        ∧ e = (job.groupId, jobFieldId)
  | _ => False

/-- The calls of the group store. -/
def GroupCall : Op → Prop
  | .groupGpuCreate _ | .groupGpuAdd _ _ | .groupGpuDestroy _ | .groupFieldCreate _ _
  | .groupFieldDestroy _ => True
  | _ => False

/-- The two stores that decide what is watched, and the group store they refer to. -/
def SameTables (d d' : Daemon) : Prop :=
  d'.groupSettings = d.groupSettings ∧ d'.watchTable = d.watchTable
    ∧ d'.fieldsToWatch = d.fieldsToWatch

/-- `P` is a property of the tables that watches, deliveries, clean-ups and those unwatches that
are `Harmless` preserve. Unwatching one entry must not make another harmful. -/
structure TableInv (tel : Telemetry) (Harmless : Daemon → RdcFieldGroupKey → Prop)
    (P : Daemon → Prop) : Prop where
  frame : ∀ {d d'}, P d → SameTables d d' → P d'
  watch : ∀ {d} g fg freq age samples, P d → P (d.rdcFieldWatch tel g fg freq age samples).2
  unwatch : ∀ {d} g fg now, Harmless d (g, fg) → P d → P (d.rdcFieldUnwatch g fg now).2
  deliver : ∀ {d} time gpu value, P d → P (d.deliver time gpu value)
  cleanUp : ∀ {d} clock, P d → P (d.cleanUp clock)
  harmless_frame : ∀ {d d' e}, Harmless d e → SameTables d d' → Harmless d' e
  harmless_unwatch : ∀ {d e} g fg now, Harmless d e → Harmless (d.rdcFieldUnwatch g fg now).2 e

namespace TableInv

variable {tel : Telemetry} {Harmless : Daemon → RdcFieldGroupKey → Prop} {P : Daemon → Prop}

theorem updateInv (h : TableInv tel Harmless P) : UpdateInv P where
  deliver := h.deliver
  cleanUp := h.cleanUp
  log _ _ hd := h.frame hd ⟨rfl, rfl, rfl⟩

theorem start (h : TableInv tel Harmless P) (hd : P d) (g : Nat) (j : JobId) (freq : Nat)
    (gauges : RdcGpuGauges) (time : Nat) :
    P ((rdcJobStartStats tel g j freq gauges time).run d).2 := by
  rcases rdcJobStartStats_cases tel d g j freq gauges time with
    ⟨_, heq⟩ | ⟨_, _, heq⟩ | ⟨_, ginfo, finfo, _, _, _, heq⟩ <;> rw [heq]
  · exact hd
  · exact hd
  · exact h.watch _ _ _ _ _ (h.frame hd ⟨rfl, rfl, rfl⟩)

theorem stop (h : TableInv tel Harmless P) (hd : P d) (j : JobId) (gauges : RdcGpuGauges)
    (clock : StopClock)
    (hj : ∀ job, d.jobWatchTable[j]? = some job → Harmless d (job.groupId, jobFieldId)) :
    P ((rdcJobStopStats j gauges clock).run d).2
    ∧ ∀ e, Harmless d e → Harmless ((rdcJobStopStats j gauges clock).run d).2 e := by
  rcases rdcJobStopStats_cases d j gauges clock with ⟨_, heq⟩ | ⟨job, hjob, ⟨_, heq⟩ | ⟨_, heq⟩⟩
    <;> rw [heq]
  · exact ⟨hd, fun _ he => he⟩
  · exact ⟨h.unwatch _ _ _ (hj job hjob) hd, fun _ he => h.harmless_unwatch _ _ _ he⟩
  · have hsame : SameTables (d.rdcFieldUnwatch job.groupId jobFieldId clock.now).2
        (endJob (d.rdcFieldUnwatch job.groupId jobFieldId clock.now).2 j gauges clock.time).2 :=
      ⟨rfl, rfl, rfl⟩
    exact ⟨h.frame (h.unwatch _ _ _ (hj job hjob) hd) hsame,
      fun _ he => h.harmless_frame (h.harmless_unwatch _ _ _ he) hsame⟩

theorem stopAll (h : TableInv tel Harmless P) (clock : JobId → StopClock) (js : List JobId)
    (hd : P d) (hjs : ∀ (j : JobId) (job : JobWatchTableEntry), d.jobWatchTable[j]? = some job →
      Harmless d (job.groupId, jobFieldId)) : P (stopAll clock d js) := by
  induction js generalizing d with
  | nil => exact hd
  | cons j js ih =>
    obtain ⟨hP, hH⟩ := h.stop hd j ∅ (clock j) (hjs j)
    refine ih hP ?_
    intro j' job hjob
    exact hH _ (hjs j' job (rdcJobStopStats_jobs hjob))

/-- **The rule.** A call that only unwatches harmless entries preserves the invariant; the calls of
the group store are the invariant's own business. -/
theorem exec (h : TableInv tel Harmless P) {op : Op} (hd : P d)
    (hop : ∀ e, Unwatches d e op → Harmless d e) (hgroups : GroupCall op → P (d.exec tel op).2) :
    P (d.exec tel op).2 := by
  cases op with
  | fieldWatch g fg freq age samples => exact h.watch g fg freq age samples hd
  | fieldUnwatch g fg now => exact h.unwatch g fg now (hop _ rfl) hd
  | fieldUpdateAll now delivered clock => exact h.updateInv.updateAll hd now delivered clock
  | notifUpdateCache events => exact h.updateInv.notifUpdateCache hd events
  | jobStartStats g j freq gauges time => exact h.start hd g j freq gauges time
  | jobStopStats j gauges clock =>
    exact (h.stop hd j gauges clock fun job hjob => hop _ ⟨job, hjob, rfl⟩).1
  | jobRemove j clock =>
    show P ((rdcJobRemove j clock).run d).2
    rw [rdcJobRemove_run]
    exact h.frame (h.stop hd j ∅ clock fun job hjob => hop _ ⟨job, hjob, rfl⟩).1
      ⟨rfl, rfl, rfl⟩
  | jobRemoveAll clock =>
    show P ((rdcJobRemoveAll clock).run d).2
    rw [rdcJobRemoveAll_run]
    exact h.frame (h.stopAll clock _ hd fun j job hjob => hop _ ⟨j, job, hjob, rfl⟩)
      ⟨rfl, rfl, rfl⟩
  | jobGetStats j gauges => exact hd
  | _ => exact hgroups trivial

end TableInv

/-! ## The rule for what clients can do -/

/-- The settings a call asks for a pair of groups. -/
def Asks (f : FieldSettings) : Op → Prop
  | .fieldWatch _ _ updateFreq maxKeepAge maxKeepSamples =>
    f = watchSettings updateFreq maxKeepAge maxKeepSamples
  | .jobStartStats _ _ updateFreq _ _ => f = watchSettings updateFreq 0 0
  | _ => False

/-- The calls that bring values in: the periodic update and the events. -/
def Brings : Op → Prop
  | .fieldUpdateAll _ _ _ => True
  | .notifUpdateCache _ => True
  | _ => False

/-- `P` is preserved by unwatches and by watches with `Asked` settings, and does not look at the two
job tables. It may look at the cached samples, which is what sets it apart from `TableInv`. -/
structure ClientInv (tel : Telemetry) (Asked : FieldSettings → Prop) (P : Daemon → Prop) :
    Prop where
  jobs : ∀ {d} jobs cacheJobs, P d →
    P { d with jobWatchTable := jobs, cacheMgr := { d.cacheMgr with cacheJobs := cacheJobs } }
  watch : ∀ {d} g fg freq age samples, Asked (watchSettings freq age samples) → P d →
    P (d.rdcFieldWatch tel g fg freq age samples).2
  unwatch : ∀ {d} g fg now, P d → P (d.rdcFieldUnwatch g fg now).2

namespace ClientInv

variable {tel : Telemetry} {Asked : FieldSettings → Prop} {P : Daemon → Prop}

theorem stop (h : ClientInv tel Asked P) (hd : P d) (j : JobId) (gauges : RdcGpuGauges)
    (clock : StopClock) : P ((rdcJobStopStats j gauges clock).run d).2 := by
  rcases rdcJobStopStats_cases d j gauges clock with ⟨_, heq⟩ | ⟨job, _, ⟨_, heq⟩ | ⟨_, heq⟩⟩
    <;> rw [heq]
  · exact hd
  · exact h.unwatch _ _ _ hd
  · unfold endJob CacheManager.rdcJobStopStats
    split
    · exact h.jobs _ _ (h.unwatch _ _ _ hd)
    · exact h.jobs _ _ (h.unwatch _ _ _ hd)

theorem stopAll (h : ClientInv tel Asked P) (clock : JobId → StopClock) (js : List JobId)
    (hd : P d) : P (stopAll clock d js) := by
  induction js generalizing d with
  | nil => exact hd
  | cons j js ih => exact ih (h.stop hd j ∅ (clock j))

/-- **The rule.** A call that brings nothing in preserves the invariant, if it asks for settings it
may ask for; the calls of the group store are the invariant's own business. -/
theorem exec (h : ClientInv tel Asked P) {op : Op} (hd : P d) (hop : ¬ Brings op)
    (hask : ∀ f, Asks f op → Asked f) (hgroups : GroupCall op → P (d.exec tel op).2) :
    P (d.exec tel op).2 := by
  cases op with
  | fieldWatch g fg freq age samples => exact h.watch g fg freq age samples (hask _ rfl) hd
  | fieldUnwatch g fg now => exact h.unwatch g fg now hd
  | fieldUpdateAll now delivered clock => exact absurd trivial hop
  | notifUpdateCache events => exact absurd trivial hop
  | jobStartStats g j freq gauges time =>
    show P ((rdcJobStartStats tel g j freq gauges time).run d).2
    rcases rdcJobStartStats_cases tel d g j freq gauges time with
      ⟨_, heq⟩ | ⟨_, _, heq⟩ | ⟨_, ginfo, finfo, _, _, _, heq⟩ <;> rw [heq]
    · exact hd
    · exact hd
    · exact h.watch _ _ _ _ _ (hask _ rfl) (h.jobs _ _ hd)
  | jobStopStats j gauges clock => exact h.stop hd j gauges clock
  | jobRemove j clock =>
    show P ((rdcJobRemove j clock).run d).2
    rw [rdcJobRemove_run]
    exact h.jobs _ _ (h.stop hd j ∅ clock)
  | jobRemoveAll clock =>
    show P ((rdcJobRemoveAll clock).run d).2
    rw [rdcJobRemoveAll_run]
    exact h.jobs _ _ (h.stopAll clock _ hd)
  | jobGetStats j gauges => exact hd
  | _ => exact hgroups trivial

end ClientInv

end Rdc.Proof
