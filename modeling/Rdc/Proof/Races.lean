import Rdc.Proof.Footprint
import Rdc.Proof.Untimed

/-!
# Races between job calls

Two calls for the same job, on two threads, and the tables they leave. A call looks the job up in
one lock section and acts on what it found in later ones, so a second call that runs in between is
acted upon as if it had not. This file says when two calls race, and refutes the serial orders for
each race with one schedule: the second call runs as a whole in the middle of the first.
-/

namespace Rdc.Proof

open Std Daemon OrdMap Atomic

/-! ## The calls -/

/-- A call for a job. -/
inductive JobCall where
  | start (groupId updateFreq : Nat) (gauges : RdcGpuGauges) (time : Nat)
  | stop (gauges : RdcGpuGauges) (clock : StopClock)
  | remove (clock : StopClock)

/-- The sections of a call. -/
def JobCall.prog (tel : Telemetry) (j : JobId) : JobCall → Prog Daemon Status
  | .start groupId updateFreq gauges time => rdcJobStartStats tel groupId j updateFreq gauges time
  | .stop gauges clock => rdcJobStopStats j gauges clock
  | .remove clock => rdcJobRemove j clock

/-- The end time a stop writes is not the mark of a running job. -/
def JobCall.Timely : JobCall → Prop
  | .stop _ clock => clock.time ≠ 0
  | _ => True

theorem JobCall.footprint (tel : Telemetry) (j : JobId) (c : JobCall) :
    Footprint j (c.prog tel j) 1 := by
  cases c with
  | start groupId updateFreq gauges time => exact rdcJobStartStats_footprint ..
  | stop gauges clock => exact rdcJobStopStats_footprint ..
  | remove clock => exact rdcJobRemove_footprint ..

/-- The job is known and its entry can be unwatched, so a stop of it takes effect. -/
def Stoppable (d : Daemon) (j : JobId) : Prop :=
  ∃ job, d.jobWatchTable[j]? = some job ∧ Unwatchable d (job.groupId, jobFieldId)

variable {job : JobWatchTableEntry}

theorem stoppable_iff {d : Daemon} {j : JobId} (hj : d.jobWatchTable[j]? = some job) :
    Stoppable d j ↔ Unwatchable d (job.groupId, jobFieldId) := by
  refine ⟨fun h => ?_, fun h => ⟨job, hj, h⟩⟩
  obtain ⟨job', hjob', hu⟩ := h
  rw [hj] at hjob'
  rw [Option.some.inj hjob']
  exact hu

/-- Unwatching the entry of the group before a start has watched it is more than a new timestamp. -/
def Interferes (d : Daemon) (g : Nat) : Prop :=
  d.watchTable[(g, jobFieldId)]?.isSome = true
    ∧ ((∃ f, Watching d (g, jobFieldId) f) ∨ OthersLive d (g, jobFieldId))

/-- The calls for job `j` that race, by what they find. -/
def Race (d : Daemon) (j : JobId) : JobCall → JobCall → Prop
  | .start g _ _ _, .start g' _ _ _ =>
    d.jobWatchTable[j]? = none ∧ Startable d.groupSettings g ∧ Startable d.groupSettings g'
  | .start g _ _ _, .stop _ _ | .stop _ _, .start g _ _ _ =>
    Startable d.groupSettings g
      ∧ (Stoppable d j ∨ d.jobWatchTable[j]? = none ∧ Interferes d g)
  | .start g _ _ _, .remove _ | .remove _, .start g _ _ _ =>
    Startable d.groupSettings g ∧ (Stoppable d j ∨ d.jobWatchTable[j]? = none)
  | .stop _ _, .stop _ _ => Stoppable d j ∧ d.cacheMgr.cacheJobs[j]?.isSome = true
  | _, _ => False

/-! ## What a start has done by when -/

section Start

variable {d : Daemon} {g : Nat} {j : JobId} (tel : Telemetry) (freq : Nat) (gauges : RdcGpuGauges)
  (time : Nat)

/-- What is left once a start has gone past its registration. -/
structure Started (d : Daemon) (j : JobId) (g : Nat) (r : Status × Daemon) : Prop where
  status : (r.1 = .conflict ∧ ∃ f, Watching d (g, jobFieldId) f)
    ∨ (r.1 = .ok ∧ ∀ f, ¬ Watching d (g, jobFieldId) f)
  groups : r.2.groupSettings = d.groupSettings
  jobs : r.2.jobWatchTable = d.jobWatchTable
  running : ∃ entry, r.2.cacheMgr.cacheJobs[j]? = some entry ∧ entry.endTime = 0
  watching : ∃ f, Watching r.2 (g, jobFieldId) f

/-- The daemon after a start has entered the job in the job table only. -/
def listed (d : Daemon) (j : JobId) (job : JobWatchTableEntry) : Daemon :=
  { d with jobWatchTable := d.jobWatchTable.insertIfNew j job }

theorem listed_job (hj : d.jobWatchTable[j]? = none) (job : JobWatchTableEntry) :
    (listed d j job).jobWatchTable[j]? = some job := by
  show (d.jobWatchTable.insertIfNew j job)[j]? = _
  rw [insertIfNew_of_getElem?_none hj, getElem?_insert', if_pos rfl]

theorem Started.known {r : Status × Daemon} (h : Started (listed d j job) j g r)
    (hj : d.jobWatchTable[j]? = none) : r.2.jobWatchTable[j]? = some job := by
  rw [h.jobs]
  exact listed_job hj job

theorem Started.ne_alreadyExist {r : Status × Daemon} (h : Started d j g r) :
    r.1 ≠ .alreadyExist := by
  rcases h.status with ⟨hst, _⟩ | ⟨hst, _⟩ <;> rw [hst] <;> simp

/-- The daemon after a start has opened the statistics of the job. -/
def opened (d : Daemon) (j : JobId) (ginfo : RdcGroupInfo) (finfo : RdcFieldGroupInfo)
    (gauges : RdcGpuGauges) (time : Nat) : Daemon :=
  { d with cacheMgr := (d.cacheMgr.rdcJobStartStats j ginfo finfo gauges time).2 }

theorem opened_stats (d : Daemon) (j : JobId) (ginfo : RdcGroupInfo) (finfo : RdcFieldGroupInfo) :
    (opened d j ginfo finfo gauges time).cacheMgr.cacheJobs[j]?
      = some (CacheManager.initJobEntry ginfo finfo gauges time) := by
  show ((d.cacheMgr.cacheJobs.erase j).insertIfNew j _)[j]? = _
  rw [insertIfNew_erase, getElem?_insert', if_pos rfl]

theorem startRegistered_run {ginfo : RdcGroupInfo} {finfo : RdcFieldGroupInfo}
    (hg : d.groupSettings.rdcGroupGpuGetInfo g = .ok ginfo)
    (hf : d.groupSettings.rdcGroupFieldGetInfo jobFieldId = .ok finfo) :
    (startRegistered tel g j freq gauges time).run d
      = (opened d j ginfo finfo gauges time).rdcFieldWatch tel g jobFieldId freq 0 0 := by
  simp [startRegistered, hg, hf, CacheManager.rdcJobStartStats, opened]

theorem startRegistered_started (hst : Startable d.groupSettings g) :
    Started d j g ((startRegistered tel g j freq gauges time).run d) := by
  obtain ⟨ginfo, finfo, hg, hf, _⟩ := getInfo_of_startable hst
  rw [startRegistered_run tel freq gauges time hg hf]
  have hentry := opened_stats gauges time d j ginfo finfo
  have hlive : (opened d j ginfo finfo gauges time).groupSettings.Live (g, jobFieldId) :=
    live_of_getInfo hg hf
  have hsame := rdcFieldWatch_sameStores tel (opened d j ginfo finfo gauges time) g jobFieldId freq
    0 0
  rcases rdcFieldWatch_cases tel (opened d j ginfo finfo gauges time) g jobFieldId freq 0 0 with
    ⟨f, hw, heq⟩ | ⟨_, hdead, _⟩ | ⟨hno, _, F, calls, _, heq⟩
  · refine ⟨Or.inl ⟨by rw [heq], f, hw⟩, hsame.1, hsame.2.2, ?_, f, by rw [heq]; exact hw⟩
    rw [hsame.2.1]
    exact ⟨_, hentry, rfl⟩
  · exact absurd hlive hdead
  · refine ⟨Or.inr ⟨by rw [heq], hno⟩, hsame.1, hsame.2.2, ?_, ?_⟩
    · rw [hsame.2.1]
      exact ⟨_, hentry, rfl⟩
    · rw [heq]
      exact ⟨watchSettings freq 0 0, (getElem?_insert' ..).trans (if_pos rfl), rfl⟩

theorem start_known (hj : d.jobWatchTable[j]? = some job) :
    (rdcJobStartStats tel g j freq gauges time).run d = (.alreadyExist, d) := by
  rcases rdcJobStartStats_cases tel d g j freq gauges time with
    ⟨_, heq⟩ | ⟨hnone, _⟩ | ⟨hnone, _⟩
  · exact heq
  · rw [hj] at hnone
    simp at hnone
  · rw [hj] at hnone
    simp at hnone

theorem start_steps (hj : d.jobWatchTable[j]? = none) :
    Steps (rdcJobStartStats tel g j freq gauges time) d
      (startChecked tel g j freq gauges time) d := by
  have hc : d.jobWatchTable.contains j = false := by
    rw [ExtTreeMap.contains_eq_isSome_getElem?, hj]
    rfl
  rw [rdcJobStartStats_eq]
  refine Steps.read ?_
  rw [hc]
  exact Steps.refl _ d

theorem startChecked_steps {ginfo : RdcGroupInfo} {finfo : RdcFieldGroupInfo}
    (hg : d.groupSettings.rdcGroupGpuGetInfo g = .ok ginfo)
    (hf : d.groupSettings.rdcGroupFieldGetInfo jobFieldId = .ok finfo)
    (hne : GroupSettings.expandGroups ginfo finfo ≠ []) :
    Steps (startChecked tel g j freq gauges time) d (startRegistered tel g j freq gauges time)
      (listed d j ⟨g, GroupSettings.expandGroups ginfo finfo⟩) := by
  refine Steps.read ?_
  rw [hg]
  refine Steps.read ?_
  rw [hf]
  have hlen : (GroupSettings.expandGroups ginfo finfo).length ≠ 0 :=
    fun h => hne (List.eq_nil_of_length_eq_zero h)
  dsimp only
  rw [if_neg hlen]
  exact Steps.atomic (Steps.refl _ _)

theorem startChecked_started (hst : Startable d.groupSettings g) :
    ∃ ks, Started (listed d j ⟨g, ks⟩) j g ((startChecked tel g j freq gauges time).run d) := by
  obtain ⟨ginfo, finfo, hg, hf, hne⟩ := getInfo_of_startable hst
  refine ⟨GroupSettings.expandGroups ginfo finfo, ?_⟩
  rw [(startChecked_steps tel freq gauges time hg hf hne).run_eq]
  exact startRegistered_started tel freq gauges time hst

theorem start_started (hj : d.jobWatchTable[j]? = none) (hst : Startable d.groupSettings g) :
    ∃ ks, Started (listed d j ⟨g, ks⟩) j g ((rdcJobStartStats tel g j freq gauges time).run d) := by
  rw [(start_steps tel freq gauges time hj).run_eq]
  exact startChecked_started tel freq gauges time hst

end Start

/-! ## What a stop has done by when -/

section Stop

variable {d : Daemon} {j : JobId} {job : JobWatchTableEntry} (gauges : RdcGpuGauges)
  (clock : StopClock)

/-- The last section of a stop. -/
def closeStats (j : JobId) (gauges : RdcGpuGauges) (time : Nat) : Prog Daemon Status :=
  Prog.atomic fun d : Daemon =>
    ((d.cacheMgr.rdcJobStopStats j gauges time).1,
      { d with cacheMgr := (d.cacheMgr.rdcJobStopStats j gauges time).2 })

/-- The rest of `rdc_job_stop_stats` once the job has been unwatched, by how that went. -/
def stopUnwatched (j : JobId) (gauges : RdcGpuGauges) (time : Nat) (result : Status) :
    Prog Daemon Status :=
  if result ≠ .ok then pure result
  else
    (Prog.atomic fun d : Daemon =>
      ((), { d with jobWatchTable := d.jobWatchTable.erase j })) >>= fun _ =>
      closeStats j gauges time

/-- The rest of `rdc_job_stop_stats` once the job has been found. -/
def stopFound (j : JobId) (job : JobWatchTableEntry) (gauges : RdcGpuGauges) (clock : StopClock) :
    Prog Daemon Status :=
  (Prog.atomic fun d : Daemon => d.rdcFieldUnwatch job.groupId jobFieldId clock.now) >>=
    stopUnwatched j gauges clock.time

theorem rdcJobStopStats_sections (j : JobId) : rdcJobStopStats j gauges clock =
    (Prog.read fun d : Daemon => d.jobWatchTable[j]?) >>= fun
      | none => pure .notFound
      | some job => stopFound j job gauges clock := rfl

theorem stopUnwatched_failed {result : Status} (time : Nat) (h : result ≠ .ok) :
    stopUnwatched j gauges time result = pure result := if_pos h

theorem stop_unknown (hj : d.jobWatchTable[j]? = none) :
    (rdcJobStopStats j gauges clock).run d = (.notFound, d) := by
  rcases rdcJobStopStats_cases d j gauges clock with ⟨_, heq⟩ | ⟨job, hjob, _⟩
  · exact heq
  · rw [hj] at hjob
    simp at hjob

theorem stop_steps_found (hj : d.jobWatchTable[j]? = some job) :
    Steps (rdcJobStopStats j gauges clock) d (stopFound j job gauges clock) d := by
  refine Steps.read ?_
  rw [hj]
  exact Steps.refl _ d

/-- The daemon after the job has been unwatched and has left the job table. -/
def unlisted (d : Daemon) (j : JobId) (g now : Nat) : Daemon :=
  { (d.rdcFieldUnwatch g jobFieldId now).2 with
    jobWatchTable := (d.rdcFieldUnwatch g jobFieldId now).2.jobWatchTable.erase j }

theorem stopFound_steps (hu : Unwatchable d (job.groupId, jobFieldId)) :
    Steps (stopFound j job gauges clock) d (closeStats j gauges clock.time)
      (unlisted d j job.groupId clock.now) := by
  have hok := (rdcFieldUnwatch_ok_iff d job.groupId jobFieldId clock.now).mpr hu
  refine Steps.atomic ?_
  rw [hok, stopUnwatched, if_neg (by simp)]
  exact Steps.atomic (Steps.refl _ _)

theorem unlisted_jobs (d : Daemon) (j : JobId) (g now : Nat) :
    (unlisted d j g now).jobWatchTable = d.jobWatchTable.erase j := by
  show (d.rdcFieldUnwatch g jobFieldId now).2.jobWatchTable.erase j = _
  rw [(rdcFieldUnwatch_sameStores ..).2.2]

theorem unlisted_job (d : Daemon) (j : JobId) (g now : Nat) :
    (unlisted d j g now).jobWatchTable[j]? = none := by
  rw [unlisted_jobs, getElem?_erase', if_pos rfl]

theorem unlisted_groups (d : Daemon) (j : JobId) (g now : Nat) :
    (unlisted d j g now).groupSettings = d.groupSettings :=
  (rdcFieldUnwatch_sameStores d g jobFieldId now).1

theorem unlisted_cache (d : Daemon) (j : JobId) (g now : Nat) :
    (unlisted d j g now).cacheMgr = d.cacheMgr :=
  (rdcFieldUnwatch_sameStores d g jobFieldId now).2.1

theorem closeStats_run {entry : RdcJobStatsCacheEntry} (time : Nat)
    (h : d.cacheMgr.cacheJobs[j]? = some entry) :
    ((closeStats j gauges time).run d).1 = .ok
      ∧ ((closeStats j gauges time).run d).2.cacheMgr.cacheJobs[j]?
        = some (closeEntry gauges time entry)
      ∧ ((closeStats j gauges time).run d).2.jobWatchTable = d.jobWatchTable := by
  unfold closeStats
  rw [Prog.run_atomic, rdcJobStopStats_eq]
  refine ⟨by simp [h], ?_, rfl⟩
  show (d.cacheMgr.cacheJobs.alter j fun _ => _)[j]? = _
  rw [getElem?_alter_const, if_pos rfl, h]
  rfl

theorem stop_stoppable (hj : d.jobWatchTable[j]? = some job)
    (hu : Unwatchable d (job.groupId, jobFieldId)) :
    (rdcJobStopStats j gauges clock).run d
      = (closeStats j gauges clock.time).run (unlisted d j job.groupId clock.now) := by
  rw [(stop_steps_found gauges clock hj).run_eq, (stopFound_steps gauges clock hu).run_eq]

/-- A stop, successful or not, leaves the entry of its job off. -/
theorem not_watching_stop (hj : d.jobWatchTable[j]? = some job) (f : FieldSettings) :
    ¬ Watching ((rdcJobStopStats j gauges clock).run d).2 (job.groupId, jobFieldId) f :=
  fun hw => (((stop_frame d j gauges clock).watching _ f).mp hw).1 ⟨job, hj, rfl⟩

theorem unwatchable_stop {e : RdcFieldGroupKey} (hu : Unwatchable d e) :
    Unwatchable ((rdcJobStopStats j gauges clock).run d).2 e := by
  have hframe := stop_frame d j gauges clock
  refine ⟨(hframe.entries e).trans hu.1, ?_, ?_⟩
  · rw [hframe.groups]
    exact hu.2.1
  · intro e' f hne hwf
    rw [hframe.groups]
    exact hu.2.2 e' f hne ((hframe.watching e' f).mp hwf).2

/-- A stop takes the job off the job table if it can unwatch its entry. -/
theorem stop_gone (h : ∀ job, d.jobWatchTable[j]? = some job →
      Unwatchable d (job.groupId, jobFieldId)) :
    ((rdcJobStopStats j gauges clock).run d).2.jobWatchTable[j]? = none := by
  refine (stop_frame d j gauges clock).gone.mpr ?_
  rintro e ⟨job, hjob, rfl⟩
  exact h job hjob

/-- The last section of a removal. -/
def dropStats (j : JobId) : Prog Daemon Status :=
  Prog.atomic fun d : Daemon =>
    ((d.cacheMgr.rdcJobRemove j).1, { d with cacheMgr := (d.cacheMgr.rdcJobRemove j).2 })

theorem rdcJobRemove_sections (j : JobId) :
    rdcJobRemove j clock = rdcJobStopStats j ∅ clock >>= fun _ => dropStats j := rfl

/-- A removal that does not find the job has only its last section to do. -/
theorem remove_steps_unknown (hj : d.jobWatchTable[j]? = none) :
    Steps (rdcJobRemove j clock) d (dropStats j) d := by
  have hlook : Steps (rdcJobStopStats j ∅ clock) d (pure .notFound) d := by
    refine Steps.read ?_
    rw [hj]
    exact Steps.refl _ d
  exact hlook.bind fun _ => dropStats j

theorem dropStats_stats (d : Daemon) (j : JobId) :
    ((dropStats j).run d).2.cacheMgr.cacheJobs[j]? = none :=
  (getElem?_erase' ..).trans (if_pos rfl)

end Stop

/-! ## The schedules -/

section Schedules

variable {d : Daemon} {j : JobId} {g g' : Nat} (tel : Telemetry) (freq freq' : Nat)
  (gauges gauges' : RdcGpuGauges) (time time' : Nat) (clock clock' : StopClock)

/-- Both starts look the job up before either enters it, and neither finds it taken. -/
theorem start_start_race (hj : d.jobWatchTable[j]? = none) (hg : Startable d.groupSettings g)
    (hg' : Startable d.groupSettings g') :
    ¬ Serial observed (rdcJobStartStats tel g j freq gauges time)
      (rdcJobStartStats tel g' j freq' gauges' time') d := by
  intro hserial
  obtain ⟨ks, hfirst⟩ := start_started tel freq gauges time hj hg
  obtain ⟨ks', hsecond⟩ := start_started tel freq' gauges' time' hj hg'
  rcases hserial.of_steps (start_steps tel freq gauges time hj) with ⟨_, hst, _⟩ | ⟨hst, _, _⟩
  · rw [start_known tel freq' gauges' time' (hfirst.known hj)] at hst
    exact hsecond.ne_alreadyExist hst
  · rw [start_known tel freq gauges time (hsecond.known hj)] at hst
    have hg₁ : Startable ((rdcJobStartStats tel g' j freq' gauges' time').run d).2.groupSettings
        g := by
      rw [hsecond.groups]
      exact hg
    obtain ⟨_, hlast⟩ := startChecked_started (j := j) tel freq gauges time hg₁
    exact hlast.ne_alreadyExist hst

/-- The stop has taken the job off the job table but not yet closed its statistics when it is
started again: the new statistics are closed. -/
theorem stop_start_race (hs : Stoppable d j) (hg : Startable d.groupSettings g)
    (htime : clock.time ≠ 0) :
    ¬ Serial observed (rdcJobStopStats j gauges clock)
      (rdcJobStartStats tel g j freq gauges' time) d := by
  intro hserial
  obtain ⟨job, hjob, hu⟩ := hs
  have hsteps := (stop_steps_found gauges clock hjob).trans (stopFound_steps gauges clock hu)
  have hg₁ : Startable (unlisted d j job.groupId clock.now).groupSettings g := by
    rw [unlisted_groups]
    exact hg
  obtain ⟨ks, hstarted⟩ :=
    start_started tel freq gauges' time (unlisted_job d j job.groupId clock.now) hg₁
  rcases hserial.of_steps hsteps with ⟨_, _, hobs⟩ | ⟨_, hst, _⟩
  · -- in sequence the start comes last, and leaves a running job
    have hrun := hsteps.run_eq
    have hj₁ : ((rdcJobStopStats j gauges clock).run d).2.jobWatchTable[j]? = none := by
      rw [hrun]
      exact unlisted_job d j job.groupId clock.now
    have hg₂ : Startable ((rdcJobStopStats j gauges clock).run d).2.groupSettings g := by
      rw [hrun]
      exact hg₁
    obtain ⟨_, hlast⟩ := start_started tel freq gauges' time hj₁ hg₂
    obtain ⟨entry, hentry, _⟩ := hstarted.running
    obtain ⟨entry', hentry', hzero⟩ := hlast.running
    have hstats := stats_of_observed hobs j
    rw [(closeStats_run gauges clock.time hentry).2.1, hentry'] at hstats
    have hend : (untimedJob (closeEntry gauges clock.time entry)).endTime
        = (untimedJob entry').endTime := congrArg _ (Option.some.inj hstats)
    simp [untimedJob, closeEntry, htime, hzero] at hend
  · -- with the start first, it finds the id taken
    rw [start_known tel freq gauges' time hjob] at hst
    exact hstarted.ne_alreadyExist hst

/-- After a removal that could stop the job, or that found none, the job can be started again. -/
theorem start_after_remove (hs : ∀ job, d.jobWatchTable[j]? = some job →
      Unwatchable d (job.groupId, jobFieldId)) (hg : Startable d.groupSettings g) :
    ∃ entry, ((rdcJobStartStats tel g j freq gauges time).run
      ((rdcJobRemove j clock).run d).2).2.cacheMgr.cacheJobs[j]? = some entry := by
  rw [rdcJobRemove_run]
  have hj : (forgetStats ((rdcJobStopStats j ∅ clock).run d).2 j).jobWatchTable[j]? = none :=
    stop_gone ∅ clock hs
  have hg₁ : Startable (forgetStats ((rdcJobStopStats j ∅ clock).run d).2 j).groupSettings g := by
    show Startable ((rdcJobStopStats j ∅ clock).run d).2.groupSettings g
    rw [(stop_frame d j ∅ clock).groups]
    exact hg
  obtain ⟨_, hstarted⟩ := start_started tel freq gauges time hj hg₁
  obtain ⟨entry, hentry, _⟩ := hstarted.running
  exact ⟨entry, hentry⟩

/-- The same with a removal, which then forgets the new statistics; and that it does even if the
job was not known when the removal looked. -/
theorem remove_start_race (hs : Stoppable d j ∨ d.jobWatchTable[j]? = none)
    (hg : Startable d.groupSettings g) :
    ¬ Serial observed (rdcJobRemove j clock) (rdcJobStartStats tel g j freq gauges time) d := by
  intro hserial
  -- if the removal comes first, the job is running in the end, with statistics
  have hall : ∀ job, d.jobWatchTable[j]? = some job →
      Unwatchable d (job.groupId, jobFieldId) := by
    intro job hjob
    rcases hs with hs | hnone
    · exact (stoppable_iff hjob).mp hs
    · rw [hnone] at hjob
      simp at hjob
  obtain ⟨entry, hentry⟩ := start_after_remove tel freq gauges time clock hall hg
  rcases hs with ⟨job, hjob, hu⟩ | hnone
  · -- the removal has taken the job off the job table when the start comes
    have hsteps := ((stop_steps_found ∅ clock hjob).trans (stopFound_steps ∅ clock hu)).bind
      (fun _ => dropStats j)
    have hg₁ : Startable (unlisted d j job.groupId clock.now).groupSettings g := by
      rw [unlisted_groups]
      exact hg
    obtain ⟨ks, hstarted⟩ :=
      start_started tel freq gauges time (unlisted_job d j job.groupId clock.now) hg₁
    rcases hserial.of_steps hsteps with ⟨_, _, hobs⟩ | ⟨_, hst, _⟩
    · have hstats := stats_of_observed hobs j
      rw [hentry, Prog.run_bind, dropStats_stats] at hstats
      simp at hstats
    · rw [start_known tel freq gauges time hjob] at hst
      exact hstarted.ne_alreadyExist hst
  · -- the removal has not found the job, and has only its last section to do
    have hsteps := remove_steps_unknown clock hnone
    obtain ⟨ks, hstarted⟩ := start_started tel freq gauges time hnone hg
    rcases hserial.of_steps hsteps with ⟨_, _, hobs⟩ | ⟨_, _, hobs⟩
    · have hstats := stats_of_observed hobs j
      rw [hentry, dropStats_stats] at hstats
      simp at hstats
    · -- a removal after the start would have unwatched its entry
      obtain ⟨f, hw⟩ := hstarted.watching
      obtain ⟨f', hw'⟩ := watching_of_observed hobs (show Watching _ (g, jobFieldId) f from hw)
      rw [rdcJobRemove_run] at hw'
      exact not_watching_stop ∅ clock (hstarted.known hnone) f' hw'

/-- The start has entered the job, and not yet watched its fields, when it is stopped. -/
theorem start_stop_race (hj : d.jobWatchTable[j]? = none) (hg : Startable d.groupSettings g)
    (hi : Interferes d g) :
    ¬ Serial observed (rdcJobStartStats tel g j freq gauges time)
      (rdcJobStopStats j gauges' clock) d := by
  intro hserial
  obtain ⟨ginfo, finfo, hginfo, hfinfo, hne⟩ := getInfo_of_startable hg
  have hsteps := (start_steps tel freq gauges time hj).trans
    (startChecked_steps tel freq gauges time hginfo hfinfo hne)
  generalize GroupSettings.expandGroups ginfo finfo = ks at hsteps
  obtain ⟨_, hstarted⟩ := start_started tel freq gauges time hj hg
  have hlisted := listed_job hj ⟨g, ks⟩
  have hgs := (stop_frame (listed d j ⟨g, ks⟩) j gauges' clock).groups
  have hoff := not_watching_stop gauges' clock hlisted
  -- the start goes on with its entry unwatched, and succeeds
  have hresumed : Started ((rdcJobStopStats j gauges' clock).run (listed d j ⟨g, ks⟩)).2 j g
      ((startRegistered tel g j freq gauges time).run
        ((rdcJobStopStats j gauges' clock).run (listed d j ⟨g, ks⟩)).2) := by
    refine startRegistered_started tel freq gauges time ?_
    rw [hgs]
    exact hg
  obtain ⟨f, hw⟩ := hresumed.watching
  have hok : ((startRegistered tel g j freq gauges time).run
      ((rdcJobStopStats j gauges' clock).run (listed d j ⟨g, ks⟩)).2).1 = .ok := by
    rcases hresumed.status with ⟨_, f, hw⟩ | ⟨hst, _⟩
    · exact absurd hw (hoff f)
    · exact hst
  have hcases := hserial.of_steps hsteps
  rw [stop_unknown gauges' clock hj] at hcases
  rcases hi.2 with ⟨f₀, hw₀⟩ | hothers
  · -- the entry was being watched, so in sequence the start conflicts
    have hconflict : ((rdcJobStartStats tel g j freq gauges time).run d).1 = .conflict := by
      rcases hstarted.status with ⟨hst, _⟩ | ⟨_, hno⟩
      · exact hst
      · exact absurd hw₀ (hno f₀)
    rcases hcases with ⟨hst, _, _⟩ | ⟨hst, _, _⟩ <;> rw [hok, hconflict] at hst <;>
      simp at hst
  · -- the stop succeeds, so the job is gone, but its entry is watched
    have hu : Unwatchable d (g, jobFieldId) := ⟨hi.1, live_of_getInfo hginfo hfinfo, hothers⟩
    rcases hcases with ⟨_, _, hobs⟩ | ⟨_, _, hobs⟩
    · obtain ⟨f', hw'⟩ := watching_of_observed hobs hw
      exact not_watching_stop gauges' clock (hstarted.known hj) f' hw'
    · have hjobs : _ = ((rdcJobStartStats tel g j freq gauges time).run d).2.jobWatchTable :=
        jobs_of_observed hobs
      have hnone := stop_gone gauges' clock fun job hjob =>
        (stoppable_iff hjob).mp ⟨⟨g, ks⟩, hlisted, hu⟩
      rw [← hresumed.jobs, hjobs, hstarted.known hj] at hnone
      simp at hnone

theorem stop_stop_race (hs : Stoppable d j) (hc : d.cacheMgr.cacheJobs[j]?.isSome = true) :
    ¬ Serial observed (rdcJobStopStats j gauges clock) (rdcJobStopStats j gauges' clock') d := by
  intro hserial
  obtain ⟨job, hjob, hu⟩ := hs
  obtain ⟨entry, hentry⟩ := Option.isSome_iff_exists.mp hc
  -- one stop alone succeeds and leaves the job unknown
  have halone : ∀ gauges clock, ((rdcJobStopStats j gauges clock).run d).1 = .ok
      ∧ (∃ entry, ((rdcJobStopStats j gauges clock).run d).2.cacheMgr.cacheJobs[j]? = some entry)
      ∧ ((rdcJobStopStats j gauges clock).run d).2.jobWatchTable[j]? = none := by
    intro gauges clock
    rw [stop_stoppable gauges clock hjob hu]
    obtain ⟨h1, h2, h3⟩ := closeStats_run gauges clock.time
      (d := unlisted d j job.groupId clock.now) (by rw [unlisted_cache]; exact hentry)
    exact ⟨h1, ⟨_, h2⟩, by rw [h3]; exact unlisted_job ..⟩
  obtain ⟨hok, _, hgone⟩ := halone gauges clock
  obtain ⟨hok', ⟨entry', hentry'⟩, hgone'⟩ := halone gauges' clock'
  -- and the other one, having found the job, succeeds on what that leaves
  have hagain : ((stopFound j job gauges clock).run
      ((rdcJobStopStats j gauges' clock').run d).2).1 = .ok := by
    rw [(stopFound_steps gauges clock (unwatchable_stop gauges' clock' hu)).run_eq]
    exact (closeStats_run gauges clock.time (by rw [unlisted_cache]; exact hentry')).1
  rcases hserial.of_steps (stop_steps_found gauges clock hjob) with ⟨_, hst, _⟩ | ⟨hst, _, _⟩
  · rw [hok', stop_unknown gauges' clock' hgone] at hst
    simp at hst
  · rw [hagain, stop_unknown gauges clock hgone'] at hst
    simp at hst

end Schedules

/-- **A race has no serial order.** -/
theorem not_serial_of_race (tel : Telemetry) {d : Daemon} {j : JobId} {c c' : JobCall}
    (hc : c.Timely) (hc' : c'.Timely) (h : Race d j c c') :
    ¬ Serial observed (c.prog tel j) (c'.prog tel j) d := by
  cases c with
  | start g freq gauges time =>
    cases c' with
    | start g' freq' gauges' time' => exact start_start_race tel _ _ _ _ _ _ h.1 h.2.1 h.2.2
    | stop gauges' clock =>
      rcases h.2 with hs | ⟨hj, hi⟩
      · exact fun hserial => stop_start_race tel _ _ _ _ _ hs h.1 hc' hserial.symm
      · exact start_stop_race tel _ _ _ _ _ hj h.1 hi
    | remove clock => exact fun hserial => remove_start_race tel _ _ _ _ h.2 h.1 hserial.symm
  | stop gauges clock =>
    cases c' with
    | start g freq gauges' time =>
      rcases h.2 with hs | ⟨hj, hi⟩
      · exact stop_start_race tel _ _ _ _ _ hs h.1 hc
      · exact fun hserial => start_stop_race tel _ _ _ _ _ hj h.1 hi hserial.symm
    | stop gauges' clock' => exact stop_stop_race _ _ _ _ h.1 h.2
    | remove clock' => exact absurd h id
  | remove clock =>
    cases c' with
    | start g freq gauges time => exact remove_start_race tel _ _ _ _ h.2 h.1
    | stop gauges' clock' => exact absurd h id
    | remove clock' => exact absurd h id

end Rdc.Proof
