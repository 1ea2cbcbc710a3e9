import Rdc.Proof.Groups

/-!
# The two job tables

A job is known in two places: `job_watch_table_`, which decides who is handed samples and which ids
are taken, and `cache_jobs_`, which holds the statistics. A job enters both when it starts. It
leaves the first when a stop gets past its unwatch, and the second when it is removed, whether the
stop worked or not.

The step lemma is about a job that is not in the job table: only its own start brings it back, and
until then its statistics can only disappear (`absent_exec`). That gives two results about runs. The
statistics of a stopped job never change, and a removed id is free for good exactly when the stop
inside the removal succeeded. The third result is about a single call: a start that fails has left
something behind exactly when it failed in its last step.
-/

namespace Rdc.Proof

open Daemon OrdMap Machine

/-! ## Statistics of one job -/

/-- The statistics of one field of one GPU of one job. -/
def statsOf (c : CacheManager) (j : JobId) (k : RdcFieldKey) : Option FieldSummaryStats :=
  (c.cacheJobs[j]?.bind fun job => job.gpuStats[k.1]?).bind fun gstats =>
    gstats.fieldSummaries[k.2]?

theorem updateEnergy_fieldSummaries (gstats : GpuSummaryStats) (count : Nat)
    (value : RdcFieldValue) :
    (gstats.updateEnergy count value).fieldSummaries = gstats.fieldSummaries := by
  unfold GpuSummaryStats.updateEnergy
  split
  · split <;> rfl
  · rfl

/-- **`rdc_update_job_stats`.** Without statistics for the field nothing happens. Otherwise they are
updated once; every other statistics entry stays, and no other job is touched. -/
theorem rdcUpdateJobStats_cases (c : CacheManager) (gpu : Nat) (j : JobId) (value : RdcFieldValue) :
    (statsOf c j (gpu, value.fieldId) = none ∧ (c.rdcUpdateJobStats gpu j value).2 = c)
    ∨ ∃ stats, statsOf c j (gpu, value.fieldId) = some stats
      ∧ statsOf (c.rdcUpdateJobStats gpu j value).2 j (gpu, value.fieldId)
        = some (stats.update value)
      ∧ (∀ k, (statsOf (c.rdcUpdateJobStats gpu j value).2 j k).isSome = (statsOf c j k).isSome)
      ∧ ∀ j', j' ≠ j →
        (c.rdcUpdateJobStats gpu j value).2.cacheJobs[j']? = c.cacheJobs[j']? := by
  unfold CacheManager.rdcUpdateJobStats
  cases hj : c.cacheJobs[j]? with
  | none => exact Or.inl ⟨by simp [statsOf, hj], rfl⟩
  | some job =>
    cases hg : job.gpuStats[gpu]? with
    | none => exact Or.inl ⟨by simp [statsOf, hj, hg], by simp [hg]⟩
    | some gstats =>
      cases hs : gstats.fieldSummaries[value.fieldId]? with
      | none => exact Or.inl ⟨by simp [statsOf, hj, hg, hs], by simp [hg, hs]⟩
      | some stats =>
        right
        refine ⟨stats, by simp [statsOf, hj, hg, hs], ?_, ?_, ?_⟩
        · simp [statsOf, hg, hs]
        · intro k
          by_cases hk1 : gpu = k.1
          · subst hk1
            by_cases hk2 : value.fieldId = k.2
            · simp [statsOf, hj, hg, hs, ← hk2]
            · simp [statsOf, hj, hg, hs, getElem?_insert', hk2, updateEnergy_fieldSummaries]
          · simp [statsOf, hj, hg, hs, getElem?_insert', hk1]
        · intro j' hne
          simp [hg, hs, getElem?_insert', Ne.symm hne]

/-- The job is the first in the job table, in key order, that has the key. -/
structure FirstListener (jobs : JobMap JobWatchTableEntry) (k : RdcFieldKey) (j : JobId) :
    Prop where
  listens : ∃ job, jobs[j]? = some job ∧ k ∈ job.fields
  first : ∀ j' job', jobs[j']? = some job' → k ∈ job'.fields → compare j j' ≠ .gt

variable {j : JobId} {d : Daemon}

theorem firstListener_of_isJobWatchField {jobs : JobMap JobWatchTableEntry} {k : RdcFieldKey}
    (h : isJobWatchField jobs k = some j) : FirstListener jobs k j := by
  unfold isJobWatchField at h
  obtain ⟨p, hp, rfl⟩ := Option.map_eq_some_iff.mp h
  obtain ⟨hk, before, after, hsplit, hno⟩ := List.find?_eq_some_iff_append.mp hp
  have hmem := List.mem_of_find?_eq_some hp
  refine ⟨⟨p.2, Std.ExtTreeMap.mem_toList_iff_getElem?_eq_some.mp hmem, of_decide_eq_true hk⟩, ?_⟩
  intro j' job' hj' hk'
  have hmem' := Std.ExtTreeMap.mem_toList_iff_getElem?_eq_some.mpr hj'
  have hsorted := Std.ExtTreeMap.ordered_keys_toList (t := jobs)
  rw [hsplit] at hmem' hsorted
  rcases List.mem_append.mp hmem' with hbefore | hafter
  · have hfalse := hno _ hbefore
    simp [hk'] at hfalse
  · rcases List.mem_cons.mp hafter with rfl | hafter
    · simp
    · rw [(List.pairwise_cons.mp (List.pairwise_append.mp hsorted).2.1).1 _ hafter]
      decide

theorem isJobWatchField_eq_some_iff {jobs : JobMap JobWatchTableEntry} {k : RdcFieldKey} :
    isJobWatchField jobs k = some j ↔ FirstListener jobs k j := by
  refine ⟨firstListener_of_isJobWatchField, fun h => ?_⟩
  obtain ⟨job, hj, hk⟩ := h.listens
  have hfound : isJobWatchField jobs k ≠ none := by
    unfold isJobWatchField
    rw [ne_eq, Option.map_eq_none_iff, List.find?_eq_none]
    exact fun hnone => hnone _ (Std.ExtTreeMap.mem_toList_iff_getElem?_eq_some.mpr hj)
      (decide_eq_true hk)
  obtain ⟨j', hj'⟩ := Option.ne_none_iff_exists'.mp hfound
  have hfirst := firstListener_of_isJobWatchField hj'
  obtain ⟨job', hget, hin⟩ := hfirst.listens
  -- neither comes after the other
  have hle := h.first j' job' hget hin
  have hge := hfirst.first j job hj hk
  have heq : compare j j' = .eq := by
    cases hcmp : compare j j' with
    | eq => rfl
    | lt => exact absurd (Std.OrientedCmp.gt_of_lt hcmp) hge
    | gt => exact absurd hcmp hle
  rw [hj', Std.LawfulEqCmp.eq_of_compare heq]

/-- What a delivery does to the job cache: an update of the job it finds, if the value is valid. -/
theorem deliver_cacheJobs (d : Daemon) (time gpu : Nat) (value : RdcFieldValue) :
    ((value.status = 0 → isJobWatchField d.jobWatchTable (gpu, value.fieldId) = none)
      ∧ (d.deliver time gpu value).cacheMgr.cacheJobs = d.cacheMgr.cacheJobs)
    ∨ ∃ j, value.status = 0 ∧ isJobWatchField d.jobWatchTable (gpu, value.fieldId) = some j
      ∧ (d.deliver time gpu value).cacheMgr.cacheJobs
        = (d.cacheMgr.rdcUpdateJobStats gpu j value).2.cacheJobs := by
  unfold Daemon.deliver
  dsimp only
  split
  · rename_i hst
    unfold cacheValue
    dsimp only
    cases hj : isJobWatchField d.jobWatchTable (gpu, value.fieldId) with
    | none => exact Or.inl ⟨fun _ => rfl, rfl⟩
    | some j =>
      right
      refine ⟨j, hst, rfl, ?_⟩
      -- the sample list that was extended just before is not read
      unfold CacheManager.rdcUpdateJobStats CacheManager.rdcUpdateCache
      dsimp only
      split <;> try rfl
      split <;> try rfl
      split <;> rfl
  · rename_i hst
    exact Or.inl ⟨fun h => absurd h hst, rfl⟩

/-! ## A job that is not in the job table -/

/-- The call starts job `j`. -/
def StartsJob (j : JobId) : Op → Prop
  | .jobStartStats _ jobId _ _ _ => jobId = j
  | _ => False

/-- The call deletes the statistics of job `j`. -/
def ForgetsJob (j : JobId) : Op → Prop
  | .jobRemove jobId _ => jobId = j
  | .jobRemoveAll _ => True
  | _ => False

/-- `j` is not in the job table, and its statistics are `stats`. -/
def Absent (j : JobId) (stats : Option RdcJobStatsCacheEntry) (d : Daemon) : Prop :=
  d.jobWatchTable[j]? = none ∧ d.cacheMgr.cacheJobs[j]? = stats

section Absent

variable {d : Daemon} {j : JobId} {stats : Option RdcJobStatsCacheEntry}

theorem Absent.of_sameStores {d' : Daemon} (h : Absent j stats d) (hs : SameStores d d') :
    Absent j stats d' := by
  unfold Absent
  rw [hs.2.1, hs.2.2]
  exact h

theorem Absent.deliver (h : Absent j stats d) (time gpu : Nat) (value : RdcFieldValue) :
    Absent j stats (d.deliver time gpu value) := by
  refine ⟨h.1, ?_⟩
  rcases deliver_cacheJobs d time gpu value with ⟨_, heq⟩ | ⟨j', _, hj', heq⟩
  · rw [heq]
    exact h.2
  · obtain ⟨job, hjob, _⟩ := (isJobWatchField_eq_some_iff.mp hj').listens
    have hne : j ≠ j' := by
      intro hjj
      rw [← hjj, h.1] at hjob
      simp at hjob
    rw [heq]
    rcases rdcUpdateJobStats_cases d.cacheMgr gpu j' value with ⟨_, hc⟩ | ⟨_, _, _, _, hothers⟩
    · rw [hc]
      exact h.2
    · rw [hothers j hne]
      exact h.2

theorem evict_cacheJobs (c : CacheManager) (gpu field samples : Nat) (age : ℚ) (now : Nat) :
    (c.evict gpu field samples age now).cacheJobs = c.cacheJobs := by
  unfold CacheManager.evict CacheManager.evictCache
  split
  · rfl
  · rfl
  · dsimp only
    cases CacheManager.eraseFront _ _ <;> rfl

theorem cleanUp_cacheJobs (d : Daemon) (clock : CleanUpClock) :
    (d.cleanUp clock).cacheMgr.cacheJobs = d.cacheMgr.cacheJobs := by
  show (d.fieldsToWatch.toList.foldl _ d.cacheMgr).cacheJobs = _
  generalize d.cacheMgr = c
  induction d.fieldsToWatch.toList generalizing c with
  | nil => rfl
  | cons f fs ih =>
    rw [List.foldl_cons, ih]
    exact evict_cacheJobs ..

theorem rdcJobStopStats_cacheJobs (c : CacheManager) (j' : JobId) (gauges : RdcGpuGauges)
    (time : Nat) (h : j ≠ j') :
    (c.rdcJobStopStats j' gauges time).2.cacheJobs[j]? = c.cacheJobs[j]? := by
  unfold CacheManager.rdcJobStopStats
  split
  · rfl
  · exact (getElem?_insert' ..).trans (if_neg fun h' => h h'.symm)

theorem Absent.stop (h : Absent j stats d) (j' : JobId) (gauges : RdcGpuGauges)
    (clock : StopClock) : Absent j stats ((rdcJobStopStats j' gauges clock).run d).2 := by
  rcases rdcJobStopStats_cases d j' gauges clock with ⟨_, heq⟩ | ⟨job, hjob, ⟨_, heq⟩ | ⟨_, heq⟩⟩
    <;> rw [heq]
  · exact h
  · exact h.of_sameStores (rdcFieldUnwatch_sameStores ..)
  · have hne : j ≠ j' := by
      intro hjj
      rw [← hjj, h.1] at hjob
      simp at hjob
    have h' := h.of_sameStores (rdcFieldUnwatch_sameStores d job.groupId jobFieldId clock.now)
    refine ⟨?_, ?_⟩
    · rw [endJob_jobs, getElem?_erase', if_neg fun hjj => hne hjj.symm]
      exact h'.1
    · exact (rdcJobStopStats_cacheJobs _ j' gauges clock.time hne).trans h'.2

theorem Absent.stopAll (h : Absent j stats d) (clock : JobId → StopClock) (js : List JobId) :
    Absent j stats (stopAll clock d js) := by
  induction js generalizing d with
  | nil => exact h
  | cons j' js ih => exact ih (h.stop j' ∅ (clock j'))

theorem Absent.start (h : Absent j stats d) (tel : Telemetry) (g : Nat) {j' : JobId} (hne : j' ≠ j)
    (freq : Nat) (gauges : RdcGpuGauges) (time : Nat) :
    Absent j stats ((rdcJobStartStats tel g j' freq gauges time).run d).2 := by
  rcases rdcJobStartStats_cases tel d g j' freq gauges time with
    ⟨_, heq⟩ | ⟨_, _, heq⟩ | ⟨_, ginfo, finfo, _, _, _, heq⟩ <;> rw [heq]
  · exact h
  · exact h
  · have hreg : Absent j stats (registered d g j' gauges time ginfo finfo) :=
      ⟨((getElem?_insert' ..).trans (if_neg hne)).trans h.1,
        ((getElem?_insert' ..).trans (if_neg hne)).trans h.2⟩
    exact hreg.of_sameStores (rdcFieldWatch_sameStores ..)

theorem absent_updateInv (j : JobId) (stats : Option RdcJobStatsCacheEntry) :
    UpdateInv (Absent j stats) where
  deliver time gpu value h := h.deliver time gpu value
  cleanUp clock h := ⟨h.1, by rw [cleanUp_cacheJobs]; exact h.2⟩
  log _ _ h := h

/-- **Only its own start brings a job back.** Until then its statistics stay or are deleted. -/
theorem absent_exec (tel : Telemetry) {op : Op} (h : Absent j stats d) (hs : ¬ StartsJob j op) :
    Absent j stats (d.exec tel op).2
    ∨ (ForgetsJob j op ∧ Absent j none (d.exec tel op).2) := by
  cases op with
  | fieldWatch g fg freq age samples => exact Or.inl (h.of_sameStores (rdcFieldWatch_sameStores ..))
  | fieldUnwatch g fg now => exact Or.inl (h.of_sameStores (rdcFieldUnwatch_sameStores ..))
  | fieldUpdateAll now delivered clock =>
    exact Or.inl ((absent_updateInv j stats).updateAll h now delivered clock)
  | notifUpdateCache events => exact Or.inl ((absent_updateInv j stats).notifUpdateCache h events)
  | jobStartStats g j' freq gauges time => exact Or.inl (h.start tel g hs freq gauges time)
  | jobStopStats j' gauges clock => exact Or.inl (h.stop j' gauges clock)
  | jobRemove j' clock =>
    have hstop := h.stop j' ∅ clock
    show Absent j stats ((rdcJobRemove j' clock).run d).2
      ∨ (_ ∧ Absent j none ((rdcJobRemove j' clock).run d).2)
    rw [rdcJobRemove_run]
    by_cases hj : j' = j
    · exact Or.inr ⟨hj, hstop.1, (getElem?_erase' ..).trans (if_pos hj)⟩
    · exact Or.inl ⟨hstop.1, ((getElem?_erase' ..).trans (if_neg hj)).trans hstop.2⟩
  | jobRemoveAll clock =>
    right
    refine ⟨trivial, ?_⟩
    show Absent j none ((rdcJobRemoveAll clock).run d).2
    rw [rdcJobRemoveAll_run]
    exact ⟨(h.stopAll clock d.jobWatchTable.keys).1, Std.ExtTreeMap.getElem?_empty⟩
  | _ => exact Or.inl h

end Absent

/-! ## A stopped job -/

/-- A stop that returned OK has taken the job out of the job table and left it in the cache. -/
theorem absent_of_stop_ok {gauges : RdcGpuGauges} {clock : StopClock}
    (h : ((rdcJobStopStats j gauges clock).run d).1 = .ok) :
    ∃ stats, Absent j (some stats) ((rdcJobStopStats j gauges clock).run d).2 := by
  rcases rdcJobStopStats_cases d j gauges clock with ⟨_, heq⟩ | ⟨job, hjob, ⟨hno, heq⟩ | ⟨_, heq⟩⟩
    <;> rw [heq] at h ⊢
  · simp at h
  · exact absurd h hno
  · generalize (d.rdcFieldUnwatch job.groupId jobFieldId clock.now).2 = d' at h ⊢
    unfold endJob CacheManager.rdcJobStopStats at h ⊢
    cases hc : d'.cacheMgr.cacheJobs[j]? with
    | none =>
      rw [hc] at h
      simp at h
    | some stats =>
      exact ⟨_, (getElem?_erase' ..).trans (if_pos rfl), (getElem?_insert' ..).trans (if_pos rfl)⟩

/-- **The statistics of a stopped job are frozen** until its own start, its own removal or the
removal of all jobs. -/
theorem stats_frozen_after_stop (tel : Telemetry) (d : Daemon) (j : JobId) (gauges : RdcGpuGauges)
    (clock : StopClock) (hok : ((rdcJobStopStats j gauges clock).run d).1 = .ok) (ops : List Op)
    (hops : ∀ op ∈ ops, ¬ StartsJob j op ∧ ¬ ForgetsJob j op) :
    ∃ stats, ((rdcJobStopStats j gauges clock).run d).2.cacheMgr.cacheJobs[j]? = some stats
      ∧ (run (exec tel) ((rdcJobStopStats j gauges clock).run d).2 ops).cacheMgr.cacheJobs[j]?
        = some stats := by
  obtain ⟨stats, hstats⟩ := absent_of_stop_ok hok
  have hrun : Absent j (some stats)
      (run (exec tel) ((rdcJobStopStats j gauges clock).run d).2 ops) := by
    refine Along.invariant (P := fun _ op => ¬ StartsJob j op ∧ ¬ ForgetsJob j op) ?_ hstats
      (Along.of_forall fun op hop _ => hops op hop)
    intro d' op h hop
    rcases absent_exec tel h hop.1 with h' | ⟨hf, _⟩
    · exact h'
    · exact absurd hf hop.2
  exact ⟨stats, hstats.2, hrun.2⟩

def jobA : JobId := [97]

def jobB : JobId := [98]

/-- One group with one GPU, and a job on it. -/
def oneJob : List Op :=
  [.groupGpuCreate [103], .groupGpuAdd 1 0, .jobStartStats 1 jobA 1000000 ∅ 5]

/-- A valid power sample for GPU 0. -/
def powerSample (ts : Nat) : RdcFieldValue := ⟨rdcFiPowerUsage, 0, ts, .integer, .lInt 100⟩

/-- The job is stopped again, another job starts on its group, and samples arrive. -/
def afterStop : List Op :=
  [.jobStopStats jobA ∅ ⟨30, 9⟩, .jobStartStats 1 jobB 1000000 ∅ 10,
    .fieldUpdateAll 5000 [(5000, ⟨0, powerSample 5000⟩)] ⟨5001, fun _ => 5002⟩]

theorem stats_frozen_afterStop :
    ((rdcJobStopStats jobA ∅ ⟨20, 8⟩).run (run (exec Telemetry.smiOnly) init oneJob)).1 = .ok
    ∧ ∃ stats, ((rdcJobStopStats jobA ∅ ⟨20, 8⟩).run
          (run (exec Telemetry.smiOnly) init oneJob)).2.cacheMgr.cacheJobs[jobA]? = some stats
      ∧ (run (exec Telemetry.smiOnly) ((rdcJobStopStats jobA ∅ ⟨20, 8⟩).run
          (run (exec Telemetry.smiOnly) init oneJob)).2 afterStop).cacheMgr.cacheJobs[jobA]?
        = some stats := by
  have hok : ((rdcJobStopStats jobA ∅ ⟨20, 8⟩).run
      (run (exec Telemetry.smiOnly) init oneJob)).1 = .ok := by decide +kernel
  refine ⟨hok, stats_frozen_after_stop Telemetry.smiOnly _ jobA ∅ ⟨20, 8⟩ hok afterStop ?_⟩
  intro op hop
  simp only [afterStop, List.mem_cons, List.not_mem_nil, or_false] at hop
  rcases hop with rfl | rfl | rfl
  · exact ⟨id, id⟩
  · exact ⟨by simp [StartsJob, jobA, jobB], id⟩
  · exact ⟨id, id⟩

/-! ## A failed start -/

/-- The tables are as before, except that a lapsed entry for the group may be gone. -/
def SameUpToLapsed (d d' : Daemon) (g : Nat) : Prop :=
  d'.jobWatchTable = d.jobWatchTable ∧ d'.cacheMgr.cacheJobs = d.cacheMgr.cacheJobs
    ∧ d'.fieldsToWatch = d.fieldsToWatch
    ∧ (d'.watchTable = d.watchTable
      ∨ ((∀ f, ¬ Watching d (g, jobFieldId) f)
        ∧ d'.watchTable = d.watchTable.erase (g, jobFieldId)))

/-- A start that fails has no effect. -/
def StartAtomic (tel : Telemetry) (d : Daemon) (g : Nat) (j : JobId) (freq : Nat)
    (gauges : RdcGpuGauges) (time : Nat) : Prop :=
  ((rdcJobStartStats tel g j freq gauges time).run d).1 ≠ .ok →
    SameUpToLapsed d ((rdcJobStartStats tel g j freq gauges time).run d).2 g

theorem live_of_getInfo {gs : GroupSettings} {g fg : Nat} {ginfo : RdcGroupInfo}
    {finfo : RdcFieldGroupInfo} (hg : gs.rdcGroupGpuGetInfo g = .ok ginfo)
    (hf : gs.rdcGroupFieldGetInfo fg = .ok finfo) : gs.Live (g, fg) := by
  rw [live_iff]
  refine ⟨?_, ?_⟩
  · intro hnone
    unfold GroupSettings.rdcGroupGpuGetInfo at hg
    rw [hnone] at hg
    simp at hg
  · intro hnone
    unfold GroupSettings.rdcGroupFieldGetInfo at hf
    rw [hnone] at hf
    simp at hf

theorem startable_of_getInfo {gs : GroupSettings} {g : Nat} {ginfo : RdcGroupInfo}
    {finfo : RdcFieldGroupInfo} (hg : gs.rdcGroupGpuGetInfo g = .ok ginfo)
    (hf : gs.rdcGroupFieldGetInfo jobFieldId = .ok finfo)
    (hne : GroupSettings.expandGroups ginfo finfo ≠ []) : Startable gs g := by
  refine ⟨_, ?_, hne⟩
  unfold GroupSettings.getFieldsFromGroup
  rw [hg, hf]
  rfl

/-- **When a failed start leaves something behind.** The watch is the last step. If it finds the
group watched already, the job stays registered in both tables. -/
theorem startAtomic_iff (tel : Telemetry) (d : Daemon) (g : Nat) (j : JobId) (freq : Nat)
    (gauges : RdcGpuGauges) (time : Nat) :
    StartAtomic tel d g j freq gauges time
      ↔ ¬ (d.jobWatchTable[j]? = none ∧ Startable d.groupSettings g
        ∧ ∃ f, Watching d (g, jobFieldId) f) := by
  unfold StartAtomic
  rcases rdcJobStartStats_cases tel d g j freq gauges time with
    ⟨⟨job, hjob⟩, heq⟩ | ⟨_, hns, heq⟩ | ⟨hj, ginfo, finfo, hg, hf, hne, heq⟩ <;> rw [heq]
  · refine ⟨fun _ h => ?_, fun _ _ => ⟨rfl, rfl, rfl, Or.inl rfl⟩⟩
    rw [hjob] at h
    exact absurd h.1 (by simp)
  · exact ⟨fun _ h => hns h.2.1, fun _ _ => ⟨rfl, rfl, rfl, Or.inl rfl⟩⟩
  have hst := startable_of_getInfo hg hf hne
  rcases rdcFieldWatch_cases tel (registered d g j gauges time ginfo finfo) g jobFieldId freq 0 0
    with ⟨f, hw, heq'⟩ | ⟨_, hdead, _⟩ | ⟨hno, _, F, calls, _, heq'⟩
  · -- the watch conflicts: the call fails with the job registered
    refine ⟨fun h => ?_, fun h => absurd ⟨hj, hst, f, hw⟩ h⟩
    have hsame := h (by rw [heq']; simp)
    rw [heq'] at hsame
    have hins : (registered d g j gauges time ginfo finfo).jobWatchTable[j]?
        = some ⟨g, GroupSettings.expandGroups ginfo finfo⟩ :=
      (getElem?_insert' ..).trans (if_pos rfl)
    rw [hsame.1, hj] at hins
    simp at hins
  · exact absurd (live_of_getInfo hg hf) hdead
  · refine ⟨fun _ h => ?_, fun _ h => absurd (by rw [heq']) h⟩
    obtain ⟨f, hw⟩ := h.2.2
    exact hno f hw

theorem not_startAtomic_secondJob :
    Reachable Telemetry.smiOnly (run (exec Telemetry.smiOnly) init oneJob)
    ∧ ¬ StartAtomic Telemetry.smiOnly (run (exec Telemetry.smiOnly) init oneJob) 1 jobB 1000000
        ∅ 6 := by
  refine ⟨⟨_, rfl⟩, ?_⟩
  intro h
  have hst : ((rdcJobStartStats Telemetry.smiOnly 1 jobB 1000000 ∅ 6).run
      (run (exec Telemetry.smiOnly) init oneJob)).1 = .conflict := by decide +kernel
  have hjobs : ((rdcJobStartStats Telemetry.smiOnly 1 jobB 1000000 ∅ 6).run
      (run (exec Telemetry.smiOnly) init oneJob)).2.jobWatchTable
      ≠ (run (exec Telemetry.smiOnly) init oneJob).jobWatchTable := by decide +kernel
  exact hjobs (h (by rw [hst]; simp)).1

/-! ## A removed job -/

/-- The entry exists, with its own groups, and so do those of every other watching entry. -/
def Unwatchable (d : Daemon) (e : RdcFieldGroupKey) : Prop :=
  d.watchTable[e]?.isSome = true ∧ d.groupSettings.Live e ∧ OthersLive d e

theorem rdcFieldUnwatch_ok_iff (d : Daemon) (g fg now : Nat) :
    (d.rdcFieldUnwatch g fg now).1 = .ok ↔ Unwatchable d (g, fg) := by
  unfold Unwatchable
  rcases rdcFieldUnwatch_cases d g fg now with
    ⟨hnone, heq⟩ | ⟨entry, hentry, ⟨hno, heq⟩ | ⟨hl, ho, F, calls, _, heq⟩⟩ <;> rw [heq]
  · simp [hnone]
  · exact ⟨fun h => absurd h (by simp), fun h => absurd h.2 hno⟩
  · simp [hentry, hl, ho]

theorem rdcFieldUnwatch_isSome (d : Daemon) (g fg now : Nat) (e : RdcFieldGroupKey) :
    (d.rdcFieldUnwatch g fg now).2.watchTable[e]?.isSome = d.watchTable[e]?.isSome := by
  have hflag : ∀ entry, d.watchTable[(g, fg)]? = some entry →
      (flaggedOff d (g, fg) entry now).watchTable[e]?.isSome = d.watchTable[e]?.isSome := by
    intro entry hentry
    rw [flaggedOff_getElem?]
    split
    · rename_i he
      rw [← he, hentry]
      rfl
    · rfl
  rcases rdcFieldUnwatch_cases d g fg now with
    ⟨_, heq⟩ | ⟨entry, hentry, ⟨_, heq⟩ | ⟨_, _, F, calls, _, heq⟩⟩ <;> rw [heq]
  · exact hflag entry hentry
  · exact hflag entry hentry

/-- The entry that the stop of `j` would unwatch. -/
def JobEntry (d : Daemon) (j : JobId) (e : RdcFieldGroupKey) : Prop :=
  ∃ job, d.jobWatchTable[j]? = some job ∧ e = (job.groupId, jobFieldId)

theorem jobEntry_iff {job : JobWatchTableEntry} (hj : d.jobWatchTable[j]? = some job)
    (e : RdcFieldGroupKey) : JobEntry d j e ↔ e = (job.groupId, jobFieldId) := by
  unfold JobEntry
  rw [hj]
  simp

theorem not_jobEntry (hj : d.jobWatchTable[j]? = none) (e : RdcFieldGroupKey) :
    ¬ JobEntry d j e := by
  rintro ⟨job, hjob, _⟩
  rw [hj] at hjob
  simp at hjob

/-- `d'` has the tables of `d` after a stop of `j`, successful or not: the entry of the job has
stopped watching, and nothing else has changed except that the job may have gone. -/
structure StopFrame (d : Daemon) (j : JobId) (d' : Daemon) : Prop where
  watching : ∀ e f, Watching d' e f ↔ ¬ JobEntry d j e ∧ Watching d e f
  entries : ∀ e : RdcFieldGroupKey, d'.watchTable[e]?.isSome = d.watchTable[e]?.isSome
  groups : d'.groupSettings = d.groupSettings
  others : ∀ j', j' ≠ j → d'.jobWatchTable[j']? = d.jobWatchTable[j']?
  gone : d'.jobWatchTable[j]? = none ↔ ∀ e, JobEntry d j e → Unwatchable d e

/-- **What a stop leaves of the tables.** -/
theorem stop_frame (d : Daemon) (j : JobId) (gauges : RdcGpuGauges) (clock : StopClock) :
    StopFrame d j ((rdcJobStopStats j gauges clock).run d).2 := by
  rcases rdcJobStopStats_cases d j gauges clock with ⟨hnone, heq⟩ | ⟨job, hjob, hcases⟩
  · rw [heq]
    have hno := not_jobEntry hnone
    exact ⟨fun e f => ⟨fun h => ⟨hno e, h⟩, fun h => h.2⟩, fun _ => rfl, rfl, fun _ _ => rfl,
      fun _ e h => absurd h (hno e), fun _ => hnone⟩
  have hentry := jobEntry_iff hjob
  have hsame := rdcFieldUnwatch_sameStores d job.groupId jobFieldId clock.now
  have hok := rdcFieldUnwatch_ok_iff d job.groupId jobFieldId clock.now
  rcases hcases with ⟨hst, heq⟩ | ⟨hst, heq⟩ <;> rw [heq]
  · refine ⟨fun e f => ?_, fun e => rdcFieldUnwatch_isSome .., hsame.1, fun j' _ => ?_, ?_⟩
    · rw [watching_unwatch, hentry]
    · rw [hsame.2.2]
    · rw [hsame.2.2, hjob]
      refine ⟨fun h => absurd h (by simp), fun h => absurd (hok.mpr (h _ ((hentry _).mpr rfl))) hst⟩
  · refine ⟨fun e f => ?_, fun e => ?_, hsame.1, fun j' hne => ?_, ?_⟩
    · rw [hentry]
      exact watching_unwatch (d := d) (f := f)
    · exact rdcFieldUnwatch_isSome d job.groupId jobFieldId clock.now e
    · rw [endJob_jobs, hsame.2.2, getElem?_erase', if_neg fun h => hne h.symm]
    · rw [endJob_jobs, getElem?_erase', if_pos rfl]
      refine ⟨fun _ e he => ?_, fun _ => rfl⟩
      rw [(hentry e).mp he]
      exact hok.mp hst

/-- The stop loop, over distinct jobs: the entries of all of them have stopped watching. -/
theorem stopAll_frame (clock : JobId → StopClock) {js : List JobId} (hnd : js.Nodup) (d : Daemon) :
    (∀ e f, Watching (stopAll clock d js) e f ↔ (∀ i ∈ js, ¬ JobEntry d i e) ∧ Watching d e f)
    ∧ (∀ e : RdcFieldGroupKey,
      (stopAll clock d js).watchTable[e]?.isSome = d.watchTable[e]?.isSome)
    ∧ (stopAll clock d js).groupSettings = d.groupSettings
    ∧ (∀ j', j' ∉ js → (stopAll clock d js).jobWatchTable[j']? = d.jobWatchTable[j']?) := by
  induction js generalizing d with
  | nil => exact ⟨fun e f => by simp [stopAll], fun _ => rfl, rfl, fun _ _ => rfl⟩
  | cons i js ih =>
    obtain ⟨hi, hnd'⟩ := List.nodup_cons.mp hnd
    obtain ⟨hw, hsome, hgs, hjobs, _⟩ := stop_frame d i ∅ (clock i)
    obtain ⟨hw', hsome', hgs', hjobs'⟩ := ih hnd' ((rdcJobStopStats i ∅ (clock i)).run d).2
    -- the jobs still to be stopped have kept their entries
    have hentry : ∀ i' ∈ js, ∀ e,
        JobEntry ((rdcJobStopStats i ∅ (clock i)).run d).2 i' e ↔ JobEntry d i' e := by
      intro i' hi' e
      have hne : i' ≠ i := by
        intro h
        rw [h] at hi'
        exact hi hi'
      unfold JobEntry
      rw [hjobs i' hne]
    refine ⟨fun e f => ?_, fun e => (hsome' e).trans (hsome e), hgs'.trans hgs, fun j' hj' => ?_⟩
    · refine (hw' e f).trans ?_
      rw [hw, List.forall_mem_cons]
      refine ⟨fun h => ⟨⟨h.2.1, fun i' hi' => ?_⟩, h.2.2⟩,
        fun h => ⟨fun i' hi' => ?_, h.1.1, h.2⟩⟩
      · rw [← hentry i' hi' e]
        exact h.1 i' hi'
      · rw [hentry i' hi' e]
        exact h.1.2 i' hi'
    · rw [List.mem_cons, not_or] at hj'
      exact (hjobs' j' hj'.2).trans (hjobs j' hj'.1)

/-- The same for a job whose turn in `rdc_job_remove_all` comes after those with a smaller id: their
entries no longer count. -/
def UnwatchableInTurn (d : Daemon) (j : JobId) (e : RdcFieldGroupKey) : Prop :=
  d.watchTable[e]?.isSome = true ∧ d.groupSettings.Live e
    ∧ ∀ e' f, e' ≠ e → Watching d e' f → (∀ i, compare i j = .lt → ¬ JobEntry d i e') →
      d.groupSettings.Live e'

theorem stopAll_keys_iff (clock : JobId → StopClock) (d : Daemon) (j : JobId) :
    (stopAll clock d d.jobWatchTable.keys).jobWatchTable[j]? = none
      ↔ ∀ e, JobEntry d j e → UnwatchableInTurn d j e := by
  cases hj : d.jobWatchTable[j]? with
  | none =>
    have habs : Absent j _ d := ⟨hj, rfl⟩
    exact ⟨fun _ e he => absurd he (not_jobEntry hj e),
      fun _ => (habs.stopAll clock d.jobWatchTable.keys).1⟩
  | some job =>
    -- the stops run in key order: those before `j` decide what `j` finds, those after leave it
    obtain ⟨before, after, hsplit, hbefore, hafter, hjb, hja, hmem⟩ :=
      keys_split (mem_of_getElem? hj)
    obtain ⟨hw, hsome, hgs, hjobs⟩ := stopAll_frame clock hbefore d
    generalize hd₁ : stopAll clock d before = d₁ at hw hsome hgs hjobs
    have hrun : stopAll clock d d.jobWatchTable.keys
        = stopAll clock ((rdcJobStopStats j ∅ (clock j)).run d₁).2 after := by
      rw [hsplit, ← hd₁]
      unfold stopAll
      rw [List.foldl_append, List.foldl_cons]
    obtain ⟨_, _, _, hjobs'⟩ :=
      stopAll_frame clock hafter ((rdcJobStopStats j ∅ (clock j)).run d₁).2
    rw [hrun, hjobs' j hja, (stop_frame d₁ j ∅ (clock j)).gone]
    refine forall_congr' fun e => ?_
    have hentry : JobEntry d₁ j e ↔ JobEntry d j e := by
      unfold JobEntry
      rw [hjobs j hjb]
    have hturn : ∀ e', (∀ i ∈ before, ¬ JobEntry d i e')
        ↔ ∀ i, compare i j = .lt → ¬ JobEntry d i e' := by
      intro e'
      refine ⟨fun h i hlt hi => ?_, fun h i hi => h i ((hmem i).mp hi).2⟩
      obtain ⟨job', hjob', he'⟩ := hi
      have hin : i ∈ d.jobWatchTable :=
        mem_of_getElem? hjob'
      exact h i ((hmem i).mpr ⟨hin, hlt⟩) ⟨job', hjob', he'⟩
    rw [hentry]
    unfold Unwatchable UnwatchableInTurn OthersLive
    rw [hsome, hgs]
    simp only [hw, hturn]
    refine imp_congr Iff.rfl (and_congr Iff.rfl (and_congr Iff.rfl ?_))
    exact ⟨fun h e' f hne hwf ht => h e' f hne ⟨ht, hwf⟩,
      fun h e' f hne hwf => h e' f hne hwf.2 hwf.1⟩

/-- The id `j` is in neither job table, so a start cannot find it taken. -/
def Freed (tel : Telemetry) (j : JobId) (d : Daemon) : Prop :=
  d.jobWatchTable[j]? = none ∧ d.cacheMgr.cacheJobs[j]? = none
    ∧ ∀ g freq gauges time, ((rdcJobStartStats tel g j freq gauges time).run d).1 ≠ .alreadyExist

theorem freed_of_absent (tel : Telemetry) (h : Absent j none d) : Freed tel j d := by
  refine ⟨h.1, h.2, ?_⟩
  intro g freq gauges time
  rcases rdcJobStartStats_cases tel d g j freq gauges time with
    ⟨⟨job, hjob⟩, _⟩ | ⟨_, _, heq⟩ | ⟨_, ginfo, finfo, _, _, _, heq⟩
  · rw [h.1] at hjob
    simp at hjob
  · rw [heq]
    simp
  · rw [heq]
    rcases rdcFieldWatch_cases tel (registered d g j gauges time ginfo finfo) g jobFieldId freq 0 0
      with ⟨_, _, heq'⟩ | ⟨_, _, heq'⟩ | ⟨_, _, _, _, _, heq'⟩ <;> rw [heq'] <;> simp

/-- The stop inside the removal succeeds for `j`. -/
def Freeable (d : Daemon) (j : JobId) : Op → Prop
  | .jobRemoveAll _ => ∀ e, JobEntry d j e → UnwatchableInTurn d j e
  | _ => ∀ e, JobEntry d j e → Unwatchable d e

theorem absent_of_freeable (tel : Telemetry) {op : Op} (hop : ForgetsJob j op) :
    (d.exec tel op).2.cacheMgr.cacheJobs[j]? = none
      ∧ ((d.exec tel op).2.jobWatchTable[j]? = none ↔ Freeable d j op) := by
  cases op with
  | jobRemove j' clock =>
    have hj : j' = j := hop
    subst hj
    show ((rdcJobRemove j' clock).run d).2.cacheMgr.cacheJobs[j']? = none
      ∧ (((rdcJobRemove j' clock).run d).2.jobWatchTable[j']? = none ↔ _)
    rw [rdcJobRemove_run]
    exact ⟨(getElem?_erase' ..).trans (if_pos rfl), (stop_frame d j' ∅ clock).gone⟩
  | jobRemoveAll clock =>
    show ((rdcJobRemoveAll clock).run d).2.cacheMgr.cacheJobs[j]? = none
      ∧ (((rdcJobRemoveAll clock).run d).2.jobWatchTable[j]? = none ↔ _)
    rw [rdcJobRemoveAll_run]
    exact ⟨Std.ExtTreeMap.getElem?_empty, stopAll_keys_iff clock d j⟩
  | _ => exact absurd hop id

/-- **When a removal frees the id.** A removal always returns OK and always deletes the statistics.
The id is free from then on, until the next start, exactly when the stop inside the removal got past
its unwatch. -/
theorem removed_freed_iff (tel : Telemetry) (d : Daemon) (j : JobId) (op : Op)
    (hop : ForgetsJob j op) :
    (d.exec tel op).1 = .ok
    ∧ ((∀ ops, (∀ o ∈ ops, ¬ StartsJob j o) → Freed tel j (run (exec tel) (d.exec tel op).2 ops))
      ↔ Freeable d j op) := by
  obtain ⟨hcache, hjobs⟩ := absent_of_freeable tel (d := d) hop
  refine ⟨?_, fun h => hjobs.mp (h [] (by simp)).1, fun h ops hops => ?_⟩
  · cases op with
    | jobRemove j' clock =>
      show ((rdcJobRemove j' clock).run d).1 = .ok
      rw [rdcJobRemove_run]
    | jobRemoveAll clock =>
      show ((rdcJobRemoveAll clock).run d).1 = .ok
      rw [rdcJobRemoveAll_run]
    | _ => exact absurd hop id
  · have habs : Absent j none (run (exec tel) (d.exec tel op).2 ops) := by
      refine Along.invariant (P := fun _ o => ¬ StartsJob j o) ?_ ⟨hjobs.mpr h, hcache⟩
        (Along.of_forall fun o ho _ => hops o ho)
      intro d' o hd' ho
      rcases absent_exec tel hd' ho with h' | ⟨_, h'⟩ <;> exact h'
    exact freed_of_absent tel habs

theorem removed_freed_oneJob :
    Freeable (run (exec Telemetry.smiOnly) init oneJob) jobA (.jobRemove jobA ⟨20, 8⟩)
    ∧ ∀ ops, (∀ o ∈ ops, ¬ StartsJob jobA o) → Freed Telemetry.smiOnly jobA
      (run (exec Telemetry.smiOnly)
        ((run (exec Telemetry.smiOnly) init oneJob).exec Telemetry.smiOnly
          (.jobRemove jobA ⟨20, 8⟩)).2 ops) := by
  have hall : ∀ p ∈ (run (exec Telemetry.smiOnly) init oneJob).watchTable.toList,
      (run (exec Telemetry.smiOnly) init oneJob).groupSettings.Live p.1 := by decide +kernel
  have hjob : (run (exec Telemetry.smiOnly) init oneJob).jobWatchTable[jobA]?.map (·.groupId)
      = some 1 := by decide +kernel
  have hfree : Freeable (run (exec Telemetry.smiOnly) init oneJob) jobA
      (.jobRemove jobA ⟨20, 8⟩) := by
    rintro e ⟨job, hget, rfl⟩
    rw [hget] at hjob
    have hg : job.groupId = 1 := Option.some.inj hjob
    rw [hg]
    exact ⟨by decide +kernel, by decide +kernel, fun e' f _ hw =>
      hall (e', f) (Std.ExtTreeMap.mem_toList_iff_getElem?_eq_some.mpr hw.1)⟩
  exact ⟨hfree,
    (removed_freed_iff Telemetry.smiOnly _ jobA (.jobRemove jobA ⟨20, 8⟩) rfl).2.mpr hfree⟩

/-- The group is destroyed while the job runs. -/
def destroyedUnderJob : List Op := oneJob ++ [.groupGpuDestroy 1]

theorem not_freed_destroyedUnderJob :
    ((run (exec Telemetry.smiOnly) init destroyedUnderJob).exec Telemetry.smiOnly
        (.jobRemove jobA ⟨20, 8⟩)).1 = .ok
    ∧ ¬ Freed Telemetry.smiOnly jobA
      ((run (exec Telemetry.smiOnly) init destroyedUnderJob).exec Telemetry.smiOnly
        (.jobRemove jobA ⟨20, 8⟩)).2
    ∧ ((rdcJobStartStats Telemetry.smiOnly 1 jobA 1000000 ∅ 9).run
        ((run (exec Telemetry.smiOnly) init destroyedUnderJob).exec Telemetry.smiOnly
          (.jobRemove jobA ⟨20, 8⟩)).2).1 = .alreadyExist := by
  have hst : ((rdcJobStartStats Telemetry.smiOnly 1 jobA 1000000 ∅ 9).run
      ((run (exec Telemetry.smiOnly) init destroyedUnderJob).exec Telemetry.smiOnly
        (.jobRemove jobA ⟨20, 8⟩)).2).1 = .alreadyExist := by decide +kernel
  exact ⟨by decide +kernel, fun h => h.2.2 1 1000000 ∅ 9 hst, hst⟩

end Rdc.Proof
