import Rdc.Proof.Jobs

/-!
# Who gets a sample

A job that runs should accumulate every valid sample of the fields it covers. `handle_fields` asks
`is_job_watch_field` for *the* job of a key and hands the sample to that one, so two running jobs
that share a GPU cannot both get it.

To say which jobs run, the machine is watched from outside: a monitor notes the jobs whose start
returned OK, with the GPUs of their group at that moment, and strikes them out when they are stopped
or removed. The invariant is that a job on this list is registered in both job tables, with the keys
and the statistics its GPUs call for. Then a delivery reaches all the running jobs it should, and
nobody else, exactly when the job that `is_job_watch_field` finds is the only one there is.
-/

namespace Rdc.Proof

open Daemon OrdMap Machine

/-! ## The monitor -/

/-- The daemon, and the jobs that run with the GPUs each of them started on. -/
structure Monitored where
  daemon : Daemon
  running : JobMap (List Nat)

/-- The GPUs of a group. -/
def gpusOf (gs : GroupSettings) (g : Nat) : List Nat := (gs.gpuGroup[g]?.map (·.entityIds)).getD []

namespace Monitored

/-- What the monitor notes about a call that returned `result`. -/
def track (m : Monitored) (op : Op) (result : Status) : JobMap (List Nat) :=
  match op with
  | .jobStartStats groupId jobId _ _ _ =>
    if result = .ok then m.running.insert jobId (gpusOf m.daemon.groupSettings groupId)
    else m.running
  | .jobStopStats jobId _ _ => if result = .ok then m.running.erase jobId else m.running
  | .jobRemove jobId _ => m.running.erase jobId
  | .jobRemoveAll _ => ∅
  | _ => m.running

def init : Monitored := ⟨Daemon.init, ∅⟩

def exec (tel : Telemetry) (m : Monitored) (op : Op) : Status × Monitored :=
  ((m.daemon.exec tel op).1, ⟨(m.daemon.exec tel op).2, m.track op (m.daemon.exec tel op).1⟩)

/-- `j` runs and covers `k`. -/
def Runs (m : Monitored) (j : JobId) (k : RdcFieldKey) : Prop :=
  ∃ gpus, m.running[j]? = some gpus ∧ k.1 ∈ gpus ∧ k.2 ∈ GroupSettings.jobFields

end Monitored

theorem monitored_daemon (tel : Telemetry) (m : Monitored) (ops : List Op) :
    (run (Monitored.exec tel) m ops).daemon = run (Daemon.exec tel) m.daemon ops := by
  induction ops generalizing m with
  | nil => rfl
  | cons op ops ih => exact ih _

/-! ## Registered jobs -/

/-- `j` is in both job tables, with exactly the keys of `gpus` and statistics for each of them. -/
structure Registered (j : JobId) (gpus : List Nat) (d : Daemon) : Prop where
  listed : ∃ job, d.jobWatchTable[j]? = some job
    ∧ ∀ k, k ∈ job.fields ↔ k.1 ∈ gpus ∧ k.2 ∈ GroupSettings.jobFields
  cached : d.cacheMgr.cacheJobs[j]?.isSome = true
  stats : ∀ k : RdcFieldKey, k.1 ∈ gpus → k.2 ∈ GroupSettings.jobFields →
    (statsOf d.cacheMgr j k).isSome = true

theorem statsOf_congr {c c' : CacheManager} {j : JobId} (h : c'.cacheJobs[j]? = c.cacheJobs[j]?)
    (k : RdcFieldKey) : statsOf c' j k = statsOf c j k := by
  unfold statsOf
  rw [h]

section Registered

variable {d : Daemon} {j : JobId} {gpus : List Nat}

theorem Registered.congr {d' : Daemon} (h : Registered j gpus d)
    (hj : d'.jobWatchTable[j]? = d.jobWatchTable[j]?)
    (hc : d'.cacheMgr.cacheJobs[j]? = d.cacheMgr.cacheJobs[j]?) : Registered j gpus d' := by
  refine ⟨?_, ?_, ?_⟩
  · rw [hj]
    exact h.listed
  · rw [hc]
    exact h.cached
  · intro k h1 h2
    rw [statsOf_congr hc]
    exact h.stats k h1 h2

theorem Registered.of_sameStores {d' : Daemon} (h : Registered j gpus d) (hs : SameStores d d') :
    Registered j gpus d' :=
  h.congr (by rw [hs.2.2]) (by rw [hs.2.1])

theorem Registered.deliver (h : Registered j gpus d) (time gpu : Nat) (value : RdcFieldValue) :
    Registered j gpus (d.deliver time gpu value) := by
  rcases deliver_cacheJobs d time gpu value with ⟨_, heq⟩ | ⟨j', _, _, heq⟩
  · exact h.congr rfl (by rw [heq])
  rcases rdcUpdateJobStats_cases d.cacheMgr gpu j' value with ⟨_, hc⟩ | ⟨_, _, hupd, hsome, hothers⟩
  · exact h.congr rfl (by rw [heq, hc])
  by_cases hj : j = j'
  · subst hj
    have hstats : ∀ k, statsOf (d.deliver time gpu value).cacheMgr j k
        = statsOf (d.cacheMgr.rdcUpdateJobStats gpu j value).2 j k :=
      statsOf_congr (by rw [heq])
    refine ⟨h.listed, ?_, ?_⟩
    · -- the field that was updated has statistics, so the job is still cached
      cases hc : (d.deliver time gpu value).cacheMgr.cacheJobs[j]? with
      | some job => rfl
      | none =>
        have hnone : statsOf (d.deliver time gpu value).cacheMgr j (gpu, value.fieldId)
            = none := by
          unfold statsOf
          rw [hc]
          rfl
        rw [hstats, hupd] at hnone
        simp at hnone
    · intro k h1 h2
      rw [hstats, hsome]
      exact h.stats k h1 h2
  · exact h.congr rfl (by rw [heq, hothers j hj])

theorem registered_updateInv (j : JobId) (gpus : List Nat) : UpdateInv (Registered j gpus) where
  deliver time gpu value h := h.deliver time gpu value
  cleanUp clock h := h.congr rfl (by rw [cleanUp_cacheJobs])
  log _ _ h := h.congr rfl rfl

/-- A stop of another job does not matter; a stop of this one that fails has stopped at its
unwatch. -/
theorem Registered.stop (h : Registered j gpus d) (j' : JobId) (gauges : RdcGpuGauges)
    (clock : StopClock)
    (hj : j' = j → ((rdcJobStopStats j' gauges clock).run d).1 ≠ .ok) :
    Registered j gpus ((rdcJobStopStats j' gauges clock).run d).2 := by
  rcases rdcJobStopStats_cases d j' gauges clock with ⟨_, heq⟩ | ⟨job, hjob, ⟨_, heq⟩ | ⟨_, heq⟩⟩
    <;> rw [heq] at hj ⊢
  · exact h
  · exact h.of_sameStores (rdcFieldUnwatch_sameStores ..)
  have h' := h.of_sameStores (rdcFieldUnwatch_sameStores d job.groupId jobFieldId clock.now)
  generalize (d.rdcFieldUnwatch job.groupId jobFieldId clock.now).2 = d' at h' hj ⊢
  by_cases hjj : j' = j
  · -- the job is cached, so the end of the stop would have succeeded
    subst hjj
    refine absurd ?_ (hj rfl)
    obtain ⟨stats, hstats⟩ := Option.isSome_iff_exists.mp h'.cached
    unfold endJob CacheManager.rdcJobStopStats
    rw [hstats]
  · refine h'.congr ?_ (rdcJobStopStats_cacheJobs _ j' gauges clock.time fun hj' => hjj hj'.symm)
    rw [endJob_jobs, getElem?_erase', if_neg hjj]

/-- Nor does a start of another job; and a registered id cannot be started again. -/
theorem Registered.start (h : Registered j gpus d) (tel : Telemetry) (g : Nat) (j' : JobId)
    (freq : Nat) (gauges : RdcGpuGauges) (time : Nat) :
    Registered j gpus ((rdcJobStartStats tel g j' freq gauges time).run d).2 := by
  rcases rdcJobStartStats_cases tel d g j' freq gauges time with
    ⟨_, heq⟩ | ⟨_, _, heq⟩ | ⟨hnone, ginfo, finfo, _, _, _, heq⟩ <;> rw [heq]
  · exact h
  · exact h
  · have hne : j' ≠ j := by
      intro hjj
      obtain ⟨job, hjob, _⟩ := h.listed
      rw [← hjj, hnone] at hjob
      simp at hjob
    have hreg : Registered j gpus (registered d g j' gauges time ginfo finfo) :=
      h.congr ((getElem?_insert' ..).trans (if_neg hne)) ((getElem?_insert' ..).trans (if_neg hne))
    exact hreg.of_sameStores (rdcFieldWatch_sameStores ..)

theorem Registered.remove (h : Registered j gpus d) {j' : JobId} (hne : j' ≠ j)
    (clock : StopClock) : Registered j gpus ((rdcJobRemove j' clock).run d).2 := by
  rw [rdcJobRemove_run]
  exact (h.stop j' ∅ clock fun hj => absurd hj hne).congr rfl
    ((getElem?_erase' ..).trans (if_neg hne))

end Registered

/-! ## A start that succeeds -/

theorem getInfo_entityIds {gs : GroupSettings} {g : Nat} {ginfo : RdcGroupInfo}
    (h : gs.rdcGroupGpuGetInfo g = .ok ginfo) : ginfo.entityIds = gpusOf gs g := by
  unfold GroupSettings.rdcGroupGpuGetInfo at h
  unfold gpusOf
  cases hg : gs.gpuGroup[g]? with
  | none =>
    rw [hg] at h
    simp at h
  | some info =>
    rw [hg] at h
    rw [← Except.ok.inj h]
    rfl

theorem getInfo_fieldIds {gs : GroupSettings} {fg : Nat} {finfo info : RdcFieldGroupInfo}
    (h : gs.rdcGroupFieldGetInfo fg = .ok finfo) (hinfo : gs.fieldGroup[fg]? = some info) :
    finfo.fieldIds = info.fieldIds := by
  unfold GroupSettings.rdcGroupFieldGetInfo at h
  rw [hinfo] at h
  rw [← Except.ok.inj h]

theorem mem_expandGroups {ginfo : RdcGroupInfo} {finfo : RdcFieldGroupInfo} {k : RdcFieldKey} :
    k ∈ GroupSettings.expandGroups ginfo finfo
      ↔ k.1 ∈ ginfo.entityIds ∧ k.2 ∈ finfo.fieldIds := by
  obtain ⟨gpu, field⟩ := k
  simp [GroupSettings.expandGroups]

/-- The entry a job starts with has statistics for every field of every GPU. -/
theorem initJobEntry_stats (ginfo : RdcGroupInfo) (finfo : RdcFieldGroupInfo)
    (gauges : RdcGpuGauges) (time : Nat) {k : RdcFieldKey} (h1 : k.1 ∈ ginfo.entityIds)
    (h2 : k.2 ∈ finfo.fieldIds) :
    ∃ gstats, (CacheManager.initJobEntry ginfo finfo gauges time).gpuStats[k.1]? = some gstats
      ∧ gstats.fieldSummaries[k.2]?.isSome = true := by
  refine ⟨CacheManager.initGpuStats finfo gauges k.1, ?_, ?_⟩
  · refine (getElem?_foldl_insertIfNew _ ginfo.entityIds ∅ k.1).trans ?_
    simp [h1]
  · have hget := getElem?_foldl_insertIfNew (fun _ => ({} : FieldSummaryStats)) finfo.fieldIds
      (∅ : IdMap FieldSummaryStats) k.2
    unfold CacheManager.initGpuStats
    rw [hget]
    simp [h2]

theorem registered_of_start_ok {tel : Telemetry} {d : Daemon} {g : Nat} {j : JobId} {freq : Nat}
    {gauges : RdcGpuGauges} {time : Nat} {info : RdcFieldGroupInfo}
    (hinfo : d.groupSettings.fieldGroup[jobFieldId]? = some info)
    (hids : info.fieldIds = GroupSettings.jobFields)
    (hok : ((rdcJobStartStats tel g j freq gauges time).run d).1 = .ok) :
    Registered j (gpusOf d.groupSettings g)
      ((rdcJobStartStats tel g j freq gauges time).run d).2 := by
  rcases rdcJobStartStats_cases tel d g j freq gauges time with
    ⟨_, heq⟩ | ⟨_, _, heq⟩ | ⟨_, ginfo, finfo, hg, hf, _, heq⟩ <;> rw [heq] at hok ⊢
  · simp at hok
  · simp at hok
  have hgpus := getInfo_entityIds hg
  have hfields : finfo.fieldIds = GroupSettings.jobFields := (getInfo_fieldIds hf hinfo).trans hids
  have hcached : (registered d g j gauges time ginfo finfo).cacheMgr.cacheJobs[j]?
      = some (CacheManager.initJobEntry ginfo finfo gauges time) :=
    (getElem?_insert' ..).trans (if_pos rfl)
  have hreg : Registered j (gpusOf d.groupSettings g)
      (registered d g j gauges time ginfo finfo) := by
    refine ⟨⟨_, (getElem?_insert' ..).trans (if_pos rfl), ?_⟩, by rw [hcached]; rfl, ?_⟩
    · intro k
      rw [mem_expandGroups, hgpus, hfields]
    · intro k h1 h2
      rw [← hgpus] at h1
      rw [← hfields] at h2
      obtain ⟨gstats, hgs, hfs⟩ := initJobEntry_stats ginfo finfo gauges time h1 h2
      unfold statsOf
      rw [hcached, Option.bind_some, hgs, Option.bind_some]
      exact hfs
  exact hreg.of_sameStores (rdcFieldWatch_sameStores ..)

/-! ## What the monitor knows -/

/-- Every job on the monitor's list is registered. -/
structure Tracked (m : Monitored) : Prop where
  jobFields : ∃ info, m.daemon.groupSettings.fieldGroup[jobFieldId]? = some info
    ∧ info.fieldIds = GroupSettings.jobFields
  jobs : ∀ (j : JobId) (gpus : List Nat), m.running[j]? = some gpus → Registered j gpus m.daemon

theorem tracked_init : Tracked Monitored.init := by
  refine ⟨⟨⟨GroupSettings.jobFieldGroupName, GroupSettings.jobFields,
      GroupSettings.length_jobFields_le⟩, ?_, rfl⟩, ?_⟩
  · decide +kernel
  · intro j gpus h
    exact absurd h (by simp [Monitored.init])

variable {m : Monitored}

theorem tracked_jobs_exec (tel : Telemetry) (h : Tracked m) (op : Op) {j : JobId} {gpus : List Nat}
    (hrun : (m.exec tel op).2.running[j]? = some gpus) :
    Registered j gpus (m.daemon.exec tel op).2 := by
  cases op with
  | fieldWatch g fg freq age samples =>
    exact (h.jobs j gpus hrun).of_sameStores (rdcFieldWatch_sameStores ..)
  | fieldUnwatch g fg now =>
    exact (h.jobs j gpus hrun).of_sameStores (rdcFieldUnwatch_sameStores ..)
  | fieldUpdateAll now delivered clock =>
    exact (registered_updateInv j gpus).updateAll (h.jobs j gpus hrun) now delivered clock
  | notifUpdateCache events =>
    exact (registered_updateInv j gpus).notifUpdateCache (h.jobs j gpus hrun) events
  | jobStartStats g j' freq gauges time =>
    have hrun' : (if ((rdcJobStartStats tel g j' freq gauges time).run m.daemon).1 = .ok then
        m.running.insert j' (gpusOf m.daemon.groupSettings g) else m.running)[j]?
        = some gpus := hrun
    split at hrun'
    · rename_i hok
      rw [getElem?_insert'] at hrun'
      split at hrun'
      · rename_i hjj
        subst hjj
        rw [← Option.some.inj hrun']
        obtain ⟨info, hinfo, hids⟩ := h.jobFields
        exact registered_of_start_ok hinfo hids hok
      · exact (h.jobs j gpus hrun').start tel g j' freq gauges time
    · exact (h.jobs j gpus hrun').start tel g j' freq gauges time
  | jobStopStats j' gauges clock =>
    have hrun' : (if ((rdcJobStopStats j' gauges clock).run m.daemon).1 = .ok then
        m.running.erase j' else m.running)[j]? = some gpus := hrun
    split at hrun'
    · obtain ⟨hne, hrun''⟩ := getElem?_erase_some hrun'
      exact (h.jobs j gpus hrun'').stop j' gauges clock fun hj => absurd hj hne
    · rename_i hno
      exact (h.jobs j gpus hrun').stop j' gauges clock fun _ => hno
  | jobRemove j' clock =>
    have hrun' : (m.running.erase j')[j]? = some gpus := hrun
    obtain ⟨hne, hrun''⟩ := getElem?_erase_some hrun'
    exact (h.jobs j gpus hrun'').remove hne clock
  | jobRemoveAll clock => exact absurd hrun (by simp [Monitored.exec, Monitored.track])
  | jobGetStats j' gauges => exact h.jobs j gpus hrun
  | _ => exact (h.jobs j gpus hrun).congr rfl rfl

theorem tracked_exec (tel : Telemetry) (h : Tracked m) (op : Op) : Tracked (m.exec tel op).2 := by
  refine ⟨?_, fun j gpus hrun => tracked_jobs_exec tel h op hrun⟩
  obtain ⟨info, hinfo, hids⟩ := h.jobFields
  rcases exec_fieldGroup tel m.daemon op jobFieldId with heq | ⟨_, hne, _⟩ | ⟨_, _, _, hnone, _⟩
  · exact ⟨info, heq.trans hinfo, hids⟩
  · exact absurd rfl hne
  · rw [hinfo] at hnone
    simp at hnone

theorem tracked_run (tel : Telemetry) (ops : List Op) :
    Tracked (run (Monitored.exec tel) Monitored.init ops) :=
  run_invariant (I := Tracked) (fun _ op h => tracked_exec tel h op) tracked_init ops

/-! ## One delivery -/

/-- The value reaches every running job that covers its key, once, and no other job. -/
def FansOut (m : Monitored) (d : Daemon) (time gpu : Nat) (value : RdcFieldValue) : Prop :=
  (∀ j, m.Runs j (gpu, value.fieldId) → ∃ stats,
      statsOf d.cacheMgr j (gpu, value.fieldId) = some stats
      ∧ statsOf (d.deliver time gpu value).cacheMgr j (gpu, value.fieldId)
        = some (stats.update value)
      ∧ (stats.update value).count = stats.count + 1)
  ∧ ∀ j, ¬ m.Runs j (gpu, value.fieldId) →
    (d.deliver time gpu value).cacheMgr.cacheJobs[j]? = d.cacheMgr.cacheJobs[j]?

/-- Every running job that covers the key is the first in the job table that has it; and if the
first does not run, it has no statistics for the key. -/
def SoleListener (m : Monitored) (d : Daemon) (k : RdcFieldKey) : Prop :=
  (∀ j, m.Runs j k → FirstListener d.jobWatchTable k j)
    ∧ ∀ j, FirstListener d.jobWatchTable k j → ¬ m.Runs j k → statsOf d.cacheMgr j k = none

theorem update_count (stats : FieldSummaryStats) (value : RdcFieldValue) :
    (stats.update value).count = stats.count + 1 := by
  unfold FieldSummaryStats.update
  split
  · rename_i h
    rw [h]
    rfl
  · rfl

theorem update_ne (stats : FieldSummaryStats) (value : RdcFieldValue) :
    stats.update value ≠ stats := by
  intro h
  have hcount := update_count stats value
  rw [h] at hcount
  omega

variable {value : RdcFieldValue}

/-- **What a delivery does to the statistics of its key**: nothing, or one more sample for the one
job that `is_job_watch_field` finds. -/
theorem deliver_stats (d : Daemon) (time gpu : Nat) (hst : value.status = 0) :
    ((isJobWatchField d.jobWatchTable (gpu, value.fieldId) = none
        ∨ ∃ j, isJobWatchField d.jobWatchTable (gpu, value.fieldId) = some j
          ∧ statsOf d.cacheMgr j (gpu, value.fieldId) = none)
      ∧ (d.deliver time gpu value).cacheMgr.cacheJobs = d.cacheMgr.cacheJobs)
    ∨ ∃ j stats, isJobWatchField d.jobWatchTable (gpu, value.fieldId) = some j
      ∧ statsOf d.cacheMgr j (gpu, value.fieldId) = some stats
      ∧ statsOf (d.deliver time gpu value).cacheMgr j (gpu, value.fieldId)
        = some (stats.update value)
      ∧ ∀ i, i ≠ j →
        (d.deliver time gpu value).cacheMgr.cacheJobs[i]? = d.cacheMgr.cacheJobs[i]? := by
  rcases deliver_cacheJobs d time gpu value with ⟨hnone, heq⟩ | ⟨j, _, hj, heq⟩
  · exact Or.inl ⟨Or.inl (hnone hst), heq⟩
  · rcases rdcUpdateJobStats_cases d.cacheMgr gpu j value with
      ⟨hnone, hc⟩ | ⟨stats, hsome, hupd, _, hothers⟩
    · exact Or.inl ⟨Or.inr ⟨j, hj, hnone⟩, by rw [heq, hc]⟩
    · refine Or.inr ⟨j, stats, hj, hsome, ?_, fun i hi => ?_⟩
      · exact (statsOf_congr (by rw [heq]) _).trans hupd
      · rw [heq]
        exact hothers i hi

/-- A value that changes nothing fans out when nobody runs. -/
theorem fansOut_iff_none_runs {d : Daemon} {time gpu : Nat}
    (hsame : (d.deliver time gpu value).cacheMgr.cacheJobs = d.cacheMgr.cacheJobs) :
    FansOut m d time gpu value ↔ ∀ j, ¬ m.Runs j (gpu, value.fieldId) := by
  refine ⟨fun h j hrun => ?_, fun h => ⟨fun j hrun => absurd hrun (h j), fun j _ => by rw [hsame]⟩⟩
  obtain ⟨stats, h1, h2, _⟩ := h.1 j hrun
  have hstats : statsOf (d.deliver time gpu value).cacheMgr j (gpu, value.fieldId)
      = statsOf d.cacheMgr j (gpu, value.fieldId) := statsOf_congr (by rw [hsame]) _
  rw [hstats, h1] at h2
  exact update_ne stats value (Option.some.inj h2).symm

theorem fansOut_iff_of_registered {d : Daemon} (time gpu : Nat) (hst : value.status = 0)
    (hreg : ∀ (j : JobId) (gpus : List Nat), m.running[j]? = some gpus → Registered j gpus d) :
    FansOut m d time gpu value ↔ SoleListener m d (gpu, value.fieldId) := by
  unfold SoleListener
  simp only [← isJobWatchField_eq_some_iff]
  have hstats : ∀ j, m.Runs j (gpu, value.fieldId) →
      statsOf d.cacheMgr j (gpu, value.fieldId) ≠ none := by
    intro j hrun hnone
    obtain ⟨gpus, hrun, h1, h2⟩ := hrun
    have hsome := (hreg j gpus hrun).stats _ h1 h2
    rw [hnone] at hsome
    simp at hsome
  rcases deliver_stats d time gpu hst with ⟨hfound, hsame⟩ | ⟨j₀, stats, hj₀, hsome, hupd, hothers⟩
  · -- nothing happens, so nobody may run
    rw [fansOut_iff_none_runs hsame]
    refine ⟨fun h => ⟨fun j hrun => absurd hrun (h j), fun j hj _ => ?_⟩, fun h j hrun => ?_⟩
    · rcases hfound with hnone | ⟨j₀, hj₀, hnone⟩
      · rw [hnone] at hj
        simp at hj
      · rw [hj₀] at hj
        rw [← Option.some.inj hj]
        exact hnone
    · have hj := h.1 j hrun
      rcases hfound with hnone | ⟨j₀, hj₀, hnone⟩
      · rw [hnone] at hj
        simp at hj
      · rw [hj₀] at hj
        rw [Option.some.inj hj] at hnone
        exact hstats j hrun hnone
  · refine ⟨fun h => ⟨fun j hrun => ?_, fun j hj hrun => ?_⟩,
      fun h => ⟨fun j hrun => ?_, fun j hrun => hothers j ?_⟩⟩
    · -- a running job has been updated, so it is the one
      by_cases hjj : j = j₀
      · rw [hjj]
        exact hj₀
      · obtain ⟨stats', h1, h2, _⟩ := h.1 j hrun
        rw [statsOf_congr (hothers j hjj), h1] at h2
        exact absurd (Option.some.inj h2).symm (update_ne stats' value)
    · -- a job that does not run would have been updated
      rw [hj₀] at hj
      have hjj := Option.some.inj hj
      subst hjj
      have hsame := statsOf_congr (h.2 j₀ hrun) (gpu, value.fieldId)
      rw [hupd, hsome] at hsame
      exact absurd (Option.some.inj hsame) (update_ne stats value)
    · have hj := h.1 j hrun
      rw [hj₀] at hj
      rw [← Option.some.inj hj]
      exact ⟨stats, hsome, hupd, update_count stats value⟩
    · intro hjj
      rw [hjj] at hrun
      rw [h.2 j₀ hj₀ hrun] at hsome
      simp at hsome

/-- **Who gets a sample.** In every state a history leads to, and after any part of a batch, a valid
value fans out to the running jobs exactly when there is a sole listener. -/
theorem fansOut_iff_soleListener (tel : Telemetry) (ops : List Op)
    (batch : List (Nat × RdcGpuFieldValue)) (time gpu : Nat) (value : RdcFieldValue)
    (hst : value.status = 0) :
    FansOut (run (Monitored.exec tel) Monitored.init ops)
        ((run (Daemon.exec tel) Daemon.init ops).handleFields batch) time gpu value
      ↔ SoleListener (run (Monitored.exec tel) Monitored.init ops)
        ((run (Daemon.exec tel) Daemon.init ops).handleFields batch) (gpu, value.fieldId) := by
  have htracked := tracked_run tel ops
  have hdaemon : (run (Monitored.exec tel) Monitored.init ops).daemon
      = run (Daemon.exec tel) Daemon.init ops := monitored_daemon tel Monitored.init ops
  rw [← hdaemon]
  refine fansOut_iff_of_registered time gpu hst fun j gpus hrun => ?_
  exact (registered_updateInv j gpus).handleFields batch (htracked.jobs j gpus hrun)

theorem fansOut_oneJob :
    FansOut (run (Monitored.exec Telemetry.smiOnly) Monitored.init oneJob)
      ((run (Daemon.exec Telemetry.smiOnly) Daemon.init oneJob).handleFields []) 10 0
      (powerSample 10) := by
  have hfound : isJobWatchField
      ((run (Daemon.exec Telemetry.smiOnly) Daemon.init oneJob).handleFields []).jobWatchTable
      (0, rdcFiPowerUsage) = some jobA := by decide +kernel
  have hjobs : ∀ p ∈ (run (Monitored.exec Telemetry.smiOnly) Monitored.init oneJob).running.toList,
      p.1 = jobA := by decide +kernel
  have hrunning : (run (Monitored.exec Telemetry.smiOnly) Monitored.init oneJob).running[jobA]?
      = some [0] := by decide +kernel
  refine (fansOut_iff_soleListener Telemetry.smiOnly oneJob [] 10 0 (powerSample 10) rfl).mpr ?_
  refine ⟨?_, ?_⟩
  · rintro j ⟨gpus, hrun, _⟩
    have hj : j = jobA :=
      hjobs (j, gpus) (Std.ExtTreeMap.mem_toList_iff_getElem?_eq_some.mpr hrun)
    rw [hj]
    exact isJobWatchField_eq_some_iff.mp hfound
  · intro j hj hno
    have hjj : jobA = j :=
      Option.some.inj (hfound.symm.trans (isJobWatchField_eq_some_iff.mpr hj))
    subst hjj
    exact absurd ⟨[0], hrunning, by decide, by decide⟩ hno

/-- Two jobs on two groups that share GPU 0. -/
def sharedGpu : List Op :=
  [.groupGpuCreate [103], .groupGpuAdd 1 0, .groupGpuCreate [104], .groupGpuAdd 2 0,
    .jobStartStats 1 jobA 1000000 ∅ 5, .jobStartStats 2 jobB 1000000 ∅ 6]

theorem not_fansOut_sharedGpu :
    (run (Monitored.exec Telemetry.smiOnly) Monitored.init sharedGpu).Runs jobB (0, rdcFiPowerUsage)
    ∧ ¬ FansOut (run (Monitored.exec Telemetry.smiOnly) Monitored.init sharedGpu)
      (run (Daemon.exec Telemetry.smiOnly) Daemon.init sharedGpu) 10 0 (powerSample 10) := by
  have hrun : (run (Monitored.exec Telemetry.smiOnly) Monitored.init sharedGpu).Runs jobB
      (0, rdcFiPowerUsage) := ⟨[0], by decide +kernel, by decide, by decide⟩
  have hbefore : statsOf (run (Daemon.exec Telemetry.smiOnly) Daemon.init sharedGpu).cacheMgr jobB
      (0, rdcFiPowerUsage) = some {} := by decide +kernel
  have hafter : statsOf ((run (Daemon.exec Telemetry.smiOnly) Daemon.init sharedGpu).deliver 10 0
      (powerSample 10)).cacheMgr jobB (0, rdcFiPowerUsage) = some {} := by decide +kernel
  refine ⟨hrun, fun h => ?_⟩
  obtain ⟨stats, h1, h2, _⟩ := h.1 jobB hrun
  have hstats : stats = {} := Option.some.inj (h1.symm.trans hbefore)
  have hupd : stats.update (powerSample 10) = {} := Option.some.inj (h2.symm.trans hafter)
  rw [hstats] at hupd
  exact update_ne {} (powerSample 10) hupd

end Rdc.Proof
