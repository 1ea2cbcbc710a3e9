import Rdc.Proof.Settle

/-!
# When the job calls are linearizable

Calls for different jobs always are. Two calls for one job are exactly when they do not race: then
there is no start, or the start has nothing to do, or the stop beside it comes too early or too late
to be noticed.
-/

namespace Rdc.Proof

open Std Daemon OrdMap Atomic Machine

/-! ## Starts that do nothing -/

variable {job : JobWatchTableEntry}

section Start

variable {d : Daemon} {g : Nat} {j : JobId} (tel : Telemetry) (freq : Nat) (gauges : RdcGpuGauges)
  (time : Nat)

theorem contains_of_getElem? {jobs : JobMap JobWatchTableEntry} (h : jobs[j]? = some job) :
    jobs.contains j = true := by
  rw [ExtTreeMap.contains_eq_isSome_getElem?, h]
  rfl

/-- While the job is known, a start of it does nothing. -/
theorem start_silent {I : Daemon → Prop} (hI : ∀ d, I d → d.jobWatchTable[j]? = some job) :
    Silent I .alreadyExist (rdcJobStartStats tel g j freq gauges time) := by
  rw [rdcJobStartStats_eq]
  refine Silent.read fun d hd => ?_
  rw [contains_of_getElem? (hI d hd)]
  rfl

theorem start_keeps_known (job : JobWatchTableEntry) :
    Keeps (fun d => d.jobWatchTable[j]? = some job)
      (rdcJobStartStats tel g j freq gauges time) := by
  rw [rdcJobStartStats_eq]
  refine Keeps.read fun d hd => ?_
  rw [contains_of_getElem? hd]
  trivial

/-- While the entry of a known job cannot be unwatched, the job stays known. -/
def Stuck (j : JobId) (job : JobWatchTableEntry) (d : Daemon) : Prop :=
  d.jobWatchTable[j]? = some job ∧ ¬ Unwatchable d (job.groupId, jobFieldId)

theorem stop_keeps_stuck (job : JobWatchTableEntry) (clock : StopClock) :
    Keeps (Stuck j job) (rdcJobStopStats j gauges clock) := by
  rw [rdcJobStopStats_sections]
  refine Keeps.read fun d hd => ?_
  rw [hd.1]
  refine Keeps.atomic (fun d hd => ⟨?_, ?_⟩) fun d hd => ?_
  · rw [(rdcFieldUnwatch_sameStores ..).2.2]
    exact hd.1
  · exact fun hu => hd.2 ((unwatchable_unwatch_iff ..).mp hu)
  · have hst : (d.rdcFieldUnwatch job.groupId jobFieldId clock.now).1 ≠ .ok :=
      fun h => hd.2 ((rdcFieldUnwatch_ok_iff ..).mp h)
    rw [stopUnwatched_failed gauges clock.time hst]
    trivial

theorem remove_keeps_stuck (job : JobWatchTableEntry) (clock : StopClock) :
    Keeps (Stuck j job) (rdcJobRemove j clock) := by
  rw [rdcJobRemove_sections]
  exact Each.bind (stop_keeps_stuck ∅ job clock) fun _ => ⟨fun _ hd => hd, fun _ _ => trivial⟩

/-! ## Starts that only look -/

/-- Without the groups, a start does nothing after its lookup. -/
theorem startChecked_silent {gs : GroupSettings} (hg : ¬ Startable gs g) :
    Silent (fun d => d.groupSettings = gs) .notFound
      (startChecked tel g j freq gauges time) := by
  unfold startChecked
  refine Silent.read fun d hd => ?_
  cases hginfo : d.groupSettings.rdcGroupGpuGetInfo g with
  | error result => exact rdcGroupGpuGetInfo_error hginfo
  | ok ginfo =>
    refine Silent.read fun d' hd' => ?_
    cases hfinfo : d'.groupSettings.rdcGroupFieldGetInfo jobFieldId with
    | error result => exact rdcGroupFieldGetInfo_error hfinfo
    | ok finfo =>
      have hempty : (GroupSettings.expandGroups ginfo finfo).length = 0 := by
        by_contra hne
        rw [hd] at hginfo
        rw [hd'] at hfinfo
        exact hg (startable_of_getInfo hginfo hfinfo fun h => hne (by rw [h]; rfl))
      dsimp only
      rw [if_pos hempty]
      rfl

/-- The last sections of a start leave the groups and the job table alone. -/
theorem startRegistered_each (I : Daemon → Prop) :
    Each I (fun u _ => ∀ d, (u d).groupSettings = d.groupSettings
      ∧ (u d).jobWatchTable = d.jobWatchTable)
      (startRegistered tel g j freq gauges time) := by
  unfold startRegistered
  refine Each.read (fun _ => ⟨rfl, rfl⟩) fun d _ => ?_
  cases d.groupSettings.rdcGroupGpuGetInfo g with
  | error result => trivial
  | ok ginfo =>
    refine Each.read (fun _ => ⟨rfl, rfl⟩) fun d _ => ?_
    cases d.groupSettings.rdcGroupFieldGetInfo jobFieldId with
    | error result => trivial
    | ok finfo =>
      refine ⟨fun _ => ⟨rfl, rfl⟩, fun d _ => ⟨fun d => ?_, fun _ _ => trivial⟩⟩
      have hsame := rdcFieldWatch_sameStores tel d g jobFieldId freq 0 0
      exact ⟨hsame.1, hsame.2.2⟩

/-- Whether the job is known changes once in a start, when it is entered. -/
theorem start_switchesOnce (I : Daemon → Prop) :
    SwitchesOnce I (fun d => d.jobWatchTable.contains j)
      (rdcJobStartStats tel g j freq gauges time) := by
  rw [rdcJobStartStats_eq]
  refine SwitchesOnce.read fun d _ => ?_
  split
  · trivial
  · unfold startChecked
    refine SwitchesOnce.read fun d _ => ?_
    cases d.groupSettings.rdcGroupGpuGetInfo g with
    | error result => trivial
    | ok ginfo =>
      refine SwitchesOnce.read fun d _ => ?_
      cases d.groupSettings.rdcGroupFieldGetInfo jobFieldId with
      | error result => trivial
      | ok finfo =>
        dsimp only
        split
        · trivial
        · refine SwitchesOnce.switch fun d _ => ?_
          refine Each.mono (fun u _ hu d _ => ?_) (startRegistered_each tel freq gauges time I)
          show (u d).jobWatchTable.contains j = d.jobWatchTable.contains j
          rw [(hu d).2]

theorem stop_switchesOnce (I : Daemon → Prop) (clock : StopClock) :
    SwitchesOnce I (fun d => d.jobWatchTable.contains j) (rdcJobStopStats j gauges clock) := by
  rw [rdcJobStopStats_sections]
  refine SwitchesOnce.read fun d _ => ?_
  cases d.jobWatchTable[j]? with
  | none => trivial
  | some job =>
    refine SwitchesOnce.atomic (fun d _ => ?_) fun d _ => ?_
    · rw [(rdcFieldUnwatch_sameStores ..).2.2]
    · unfold stopUnwatched
      split
      · trivial
      · exact SwitchesOnce.switch fun d _ => ⟨fun _ _ => rfl, fun _ _ => trivial⟩

theorem JobCall.switchesOnce (I : Daemon → Prop) (j : JobId) (c : JobCall) :
    SwitchesOnce I (fun d => d.jobWatchTable.contains j) (c.prog tel j) := by
  cases c with
  | start g freq gauges time => exact start_switchesOnce tel freq gauges time I
  | stop gauges clock => exact stop_switchesOnce gauges I clock
  | remove clock =>
    exact (stop_switchesOnce ∅ I clock).bind fun _ => ⟨fun _ _ => rfl, fun _ _ => trivial⟩

/-- **A start without its groups is serial beside any call**: it returns what its lookup saw. -/
theorem start_serial_of_not_startable (hg : ¬ Startable d.groupSettings g) (c : JobCall) :
    Serial observed (rdcJobStartStats tel g j freq gauges time) (c.prog tel j) d := by
  rw [rdcJobStartStats_eq]
  refine serial_of_reader (I := fun d' => d'.groupSettings = d.groupSettings)
    (b := fun d => d.jobWatchTable.contains j) observed
    (fun known => if known then .alreadyExist else .notFound) (fun d' _ => ?_)
    ((c.footprint tel j).keeps_groups d.groupSettings) (c.switchesOnce tel _ j) rfl
  show Silent _ (if d'.jobWatchTable.contains j = true then _ else _)
    (if d'.jobWatchTable.contains j = true then _ else _)
  split
  · rfl
  · exact startChecked_silent tel freq gauges time hg

/-- **Starts of a known job are serial**: both find it taken. -/
theorem start_start_serial (hj : d.jobWatchTable[j]? = some job) (g' freq' : Nat)
    (gauges' : RdcGpuGauges) (time' : Nat) :
    Serial observed (rdcJobStartStats tel g j freq gauges time)
      (rdcJobStartStats tel g' j freq' gauges' time') d :=
  serial_of_silent observed (start_silent tel freq gauges time fun _ h => h)
    (start_keeps_known tel freq' gauges' time' job) hj

/-- **So is a start beside a stop or a removal that cannot unwatch the job.** -/
theorem start_serial_of_stuck (h : Stuck j job d) {q : Prog Daemon Status}
    (hq : Keeps (Stuck j job) q) :
    Serial observed (rdcJobStartStats tel g j freq gauges time) q d :=
  serial_of_silent observed (start_silent tel freq gauges time fun _ h => h.1) hq h

/-! ## A start that the stop sees too late -/

/-- Where it does not interfere, an unwatch fails, and a watch that follows does not see that it was
there. -/
theorem unwatch_idle (hi : ¬ Interferes d g) (now : Nat) :
    (d.rdcFieldUnwatch g jobFieldId now).1 = .notFound
      ∧ ∀ c, rdcFieldWatch tel { (d.rdcFieldUnwatch g jobFieldId now).2 with cacheMgr := c } g
          jobFieldId freq 0 0
        = rdcFieldWatch tel { d with cacheMgr := c } g jobFieldId freq 0 0 := by
  rcases rdcFieldUnwatch_cases d g jobFieldId now with
    ⟨_, heq⟩ | ⟨entry, hentry, ⟨_, heq⟩ | ⟨_, ho, _⟩⟩
  · rw [heq]
    exact ⟨rfl, fun _ => rfl⟩
  · rw [heq]
    refine ⟨rfl, fun c => ?_⟩
    have hoff : entry.isWatching = false := by
      cases hw : entry.isWatching with
      | false => rfl
      | true => exact absurd ⟨by rw [hentry]; rfl, Or.inl ⟨entry, hentry, hw⟩⟩ hi
    have hflag : (d.watchTable.insert (g, jobFieldId)
        { entry with isWatching := false, lastUpdateTime := now })[(g, jobFieldId)]?
          = some { entry with isWatching := false, lastUpdateTime := now } :=
      (getElem?_insert' ..).trans (if_pos rfl)
    unfold rdcFieldWatch flaggedOff
    simp only [hflag, hentry, hoff, erase_insert]
    rfl
  · exact absurd ⟨by rw [hentry]; rfl, Or.inr ho⟩ hi

theorem watch_after_idle (hi : ¬ Interferes d g) (now : Nat) :
    (d.rdcFieldUnwatch g jobFieldId now).2.rdcFieldWatch tel g jobFieldId freq 0 0
      = d.rdcFieldWatch tel g jobFieldId freq 0 0 := by
  have h : (d.rdcFieldUnwatch g jobFieldId now).2.rdcFieldWatch tel g jobFieldId freq 0 0
      = rdcFieldWatch tel
        { d with cacheMgr := (d.rdcFieldUnwatch g jobFieldId now).2.cacheMgr } g jobFieldId freq 0
        0 := (unwatch_idle tel freq hi now).2 _
  rw [(rdcFieldUnwatch_sameStores d g jobFieldId now).2.1] at h
  exact h

theorem stop_keeps_unknown (gs : GroupSettings) (clock : StopClock) :
    Keeps (fun d => d.groupSettings = gs ∧ d.jobWatchTable[j]? = none)
      (rdcJobStopStats j gauges clock) := by
  rw [rdcJobStopStats_sections]
  refine Keeps.read fun d hd => ?_
  rw [hd.2]
  trivial

theorem startRegistered_keeps_known (gs : GroupSettings) (job : JobWatchTableEntry) :
    Keeps (fun d => d.groupSettings = gs ∧ d.jobWatchTable[j]? = some job)
      (startRegistered tel g j freq gauges time) := by
  refine Each.mono (fun u _ hu d hd => ?_) (startRegistered_each tel freq gauges time _)
  show (u d).groupSettings = gs ∧ (u d).jobWatchTable[j]? = some job
  rw [(hu d).1, (hu d).2]
  exact hd

theorem stopFound_keeps_groups (gs : GroupSettings) (job : JobWatchTableEntry) (clock : StopClock) :
    Keeps (fun d => d.groupSettings = gs) (stopFound j job gauges clock) := by
  unfold stopFound
  refine Keeps.atomic (fun d hd => ?_) fun d _ => ?_
  · rw [(rdcFieldUnwatch_sameStores ..).1]
    exact hd
  · unfold stopUnwatched
    split
    · trivial
    · exact ⟨fun _ hd => hd, fun _ _ => ⟨fun _ hd => hd, fun _ _ => trivial⟩⟩

/-- Once the start has entered the job, the order of the watch and the unwatch decides. -/
theorem startRegistered_stopFound (hg : Startable d.groupSettings g) (hi : ¬ Interferes d g)
    (clock : StopClock) (gauges' : RdcGpuGauges) (job : JobWatchTableEntry) (hjob : job.groupId = g)
    {r : Status × Status × Daemon}
    (hr : Par (startRegistered tel g j freq gauges time) (stopFound j job gauges' clock) d r) :
    r = seqLR (startRegistered tel g j freq gauges time) (stopFound j job gauges' clock) d
      ∨ r = (((startRegistered tel g j freq gauges time).run d).1, .notFound,
        ((startRegistered tel g j freq gauges time).run d).2) := by
  obtain ⟨ginfo, finfo, hginfo, hfinfo, _⟩ := getInfo_of_startable hg
  have hrun := startRegistered_run tel freq gauges time (j := j) hginfo hfinfo
  have hgroups := stopFound_keeps_groups (j := j) gauges' d.groupSettings job clock
  -- the two reads of the start see the groups as they are
  have h1 := hr.skip_read (c := .ok ginfo) (fun d' hd' => by rw [hd']; exact hginfo) hgroups rfl
  have h2 := h1.skip_read (c := .ok finfo) (fun d' hd' => by rw [hd']; exact hfinfo) hgroups rfl
  subst hjob
  -- an unwatch before the watch ends the stop
  have hearly : ∀ {p : Prog Daemon Status} {d' : Daemon} {x : Status × Daemon},
      ¬ Interferes d' job.groupId →
      p.run (d'.rdcFieldUnwatch job.groupId jobFieldId clock.now).2 = x →
      Par p (stopUnwatched j gauges' clock.time
        (d'.rdcFieldUnwatch job.groupId jobFieldId clock.now).1)
        (d'.rdcFieldUnwatch job.groupId jobFieldId clock.now).2 r → r = (x.1, .notFound, x.2) := by
    intro p d' x hi' hx h
    rw [(unwatch_idle tel freq hi' clock.now).1,
      stopUnwatched_failed gauges' clock.time (by simp)] at h
    rw [← hx]
    exact par_ret_right_iff h
  rw [hrun]
  rcases par_step_cases h2 with h3 | h3
  · have h4 : Par (Prog.atomic fun d => rdcFieldWatch tel d job.groupId jobFieldId freq 0 0)
        (stopFound j job gauges' clock) (opened d j ginfo finfo gauges time) r := h3
    rcases par_step_cases h4 with h5 | h5
    · left
      refine (par_ret_left_iff h5).trans ?_
      rw [seqLR, hrun]
      rfl
    · right
      have hi' : ¬ Interferes (opened d j ginfo finfo gauges time) job.groupId := hi
      refine hearly hi' ?_ h5
      exact watch_after_idle tel freq hi' clock.now
  · right
    refine hearly hi ?_ h3
    show (opened _ j ginfo finfo gauges time).rdcFieldWatch tel job.groupId jobFieldId freq 0 0 = _
    unfold opened
    rw [(rdcFieldUnwatch_sameStores d job.groupId jobFieldId clock.now).2.1]
    exact (unwatch_idle tel freq hi clock.now).2 _

/-- **A start and a stop of an unknown job are serial unless the stop interferes.** -/
theorem start_stop_serial (hj : d.jobWatchTable[j]? = none) (hg : Startable d.groupSettings g)
    (hi : ¬ Interferes d g) (gauges' : RdcGpuGauges) (clock : StopClock) :
    Serial observed (rdcJobStartStats tel g j freq gauges time)
      (rdcJobStopStats j gauges' clock) d := by
  intro r hr
  obtain ⟨ginfo, finfo, hginfo, hfinfo, hne⟩ := getInfo_of_startable hg
  have hlen : (GroupSettings.expandGroups ginfo finfo).length ≠ 0 :=
    fun h => hne (List.eq_nil_of_length_eq_zero h)
  have hkeep := stop_keeps_unknown (j := j) gauges' d.groupSettings clock
  have hknown : ∀ d' : Daemon, d'.groupSettings = d.groupSettings ∧ d'.jobWatchTable[j]? = none →
      d'.jobWatchTable.contains j = false := by
    intro d' hd'
    rw [ExtTreeMap.contains_eq_isSome_getElem?, hd'.2]
    rfl
  -- what the start reads before it enters the job does not change
  rw [rdcJobStartStats_eq] at hr
  have h1 := hr.skip_read hknown hkeep ⟨rfl, hj⟩
  have h2 := h1.skip_read (c := .ok ginfo) (fun d' hd' => by rw [hd'.1]; exact hginfo) hkeep
    ⟨rfl, hj⟩
  have h3 := h2.skip_read (c := .ok finfo) (fun d' hd' => by rw [hd'.1]; exact hfinfo) hkeep
    ⟨rfl, hj⟩
  dsimp only at h3
  rw [if_neg hlen] at h3
  have hrun := ((start_steps tel freq gauges time hj).trans
    (startChecked_steps tel freq gauges time hginfo hfinfo hne)).run_eq
  have hRL : seqRL (rdcJobStartStats tel g j freq gauges time) (rdcJobStopStats j gauges' clock) d
      = (((rdcJobStartStats tel g j freq gauges time).run d).1, .notFound,
        ((rdcJobStartStats tel g j freq gauges time).run d).2) := by
    rw [seqRL, stop_unknown gauges' clock hj]
  rcases par_step_cases h3 with h4 | h4
  · -- the stop finds the job, whenever it looks
    have hlisted := listed_job hj ⟨g, GroupSettings.expandGroups ginfo finfo⟩
    have h5 := h4.symm.skip_read (fun d' hd' => hd'.2) (startRegistered_keeps_known tel freq gauges
      time d.groupSettings ⟨g, GroupSettings.expandGroups ginfo finfo⟩) ⟨rfl, hlisted⟩
    generalize GroupSettings.expandGroups ginfo finfo = ks at h5 hrun
    have hstarted := startRegistered_started (d := listed d j ⟨g, ks⟩) (j := j) tel freq gauges
      time hg
    have h6 : Par (startRegistered tel g j freq gauges time) (stopFound j ⟨g, ks⟩ gauges' clock)
        (listed d j ⟨g, ks⟩) r := h5.symm
    rcases startRegistered_stopFound (d := listed d j ⟨g, ks⟩) tel freq gauges time hg hi clock
      gauges' _ rfl h6 with h7 | h7
    · left
      refine congrArg (observe observed) (h7.trans ?_)
      rw [seqLR, seqLR, hrun, (stop_steps_found gauges' clock (hstarted.known hj)).run_eq]
    · right
      refine congrArg (observe observed) (h7.trans ?_)
      rw [hRL, hrun]
  · -- the stop looks the job up before it is entered
    right
    beta_reduce at h4
    rw [hj] at h4
    refine congrArg (observe observed) ((par_ret_right_iff h4).trans ?_)
    rw [hRL, hrun]
    rfl

end Start

/-! ## The theorem -/

theorem start_serial_of_not_race (tel : Telemetry) {d : Daemon} {j : JobId} {g freq : Nat}
    {gauges : RdcGpuGauges} {time : Nat} {c : JobCall}
    (h : ¬ Race d j (.start g freq gauges time) c) :
    Serial observed (rdcJobStartStats tel g j freq gauges time) (c.prog tel j) d := by
  by_cases hg : Startable d.groupSettings g
  · cases hj : d.jobWatchTable[j]? with
    | none =>
      cases c with
      | start g' freq' gauges' time' =>
        have hg' : ¬ Startable d.groupSettings g' := fun hg' => h ⟨hj, hg, hg'⟩
        exact (start_serial_of_not_startable tel freq' gauges' time' hg'
          (.start g freq gauges time)).symm
      | stop gauges' clock =>
        exact start_stop_serial tel freq gauges time hj hg
          (fun hi => h ⟨hg, Or.inr ⟨hj, hi⟩⟩) gauges' clock
      | remove clock => exact absurd ⟨hg, Or.inr hj⟩ h
    | some job =>
      cases c with
      | start g' freq' gauges' time' =>
        exact start_start_serial tel freq gauges time hj g' freq' gauges' time'
      | stop gauges' clock =>
        have hstuck : Stuck j job d := ⟨hj, fun hu => h ⟨hg, Or.inl ⟨job, hj, hu⟩⟩⟩
        exact start_serial_of_stuck tel freq gauges time hstuck
          (stop_keeps_stuck gauges' job clock)
      | remove clock =>
        have hstuck : Stuck j job d := ⟨hj, fun hu => h ⟨hg, Or.inl ⟨job, hj, hu⟩⟩⟩
        exact start_serial_of_stuck tel freq gauges time hstuck (remove_keeps_stuck job clock)
  · exact start_serial_of_not_startable tel freq gauges time hg c

/-- **The job calls are linearizable exactly when they do not race.** From any state, two calls with
any arguments, every interleaving of their lock sections: the statuses and the tables, timestamps
aside, are those of one of the two orders, unless both calls are for one job and race for it. -/
theorem linearizable_iff_not_race (tel : Telemetry) (d : Daemon) (j j' : JobId) (c c' : JobCall)
    (hc : c.Timely) (hc' : c'.Timely) :
    Serial observed (c.prog tel j) (c'.prog tel j') d ↔ ¬ (j = j' ∧ Race d j c c') := by
  refine ⟨fun hserial hrace => ?_, fun h => ?_⟩
  · obtain ⟨rfl, hrace⟩ := hrace
    exact not_serial_of_race tel hc hc' hrace hserial
  · by_cases hj : j = j'
    · subst hj
      have hno : ¬ Race d j c c' := fun hrace => h ⟨rfl, hrace⟩
      cases c with
      | start g freq gauges time => exact start_serial_of_not_race tel hno
      | stop gauges clock =>
        cases c' with
        | start g freq gauges' time => exact (start_serial_of_not_race tel hno).symm
        | stop gauges' clock' => exact stop_stop_serial hno gauges gauges' clock clock'
        | remove clock' => exact stop_remove_serial d j gauges clock clock'
      | remove clock =>
        cases c' with
        | start g freq gauges time => exact (start_serial_of_not_race tel hno).symm
        | stop gauges clock' => exact (stop_remove_serial d j gauges clock' clock).symm
        | remove clock' => exact remove_remove_serial d j clock clock'
    · exact serial_of_footprint hj observed (c.footprint tel j) (c'.footprint tel j') d

/-- A running job, stopped on one thread and removed on another. -/
theorem linearizable_stopAndRemove :
    (JobCall.stop ∅ ⟨7000, 7⟩).Timely ∧ (JobCall.remove ⟨8000, 8⟩).Timely
    ∧ Serial observed ((JobCall.stop ∅ ⟨7000, 7⟩).prog Telemetry.smiOnly jobA)
      ((JobCall.remove ⟨8000, 8⟩).prog Telemetry.smiOnly jobA)
      (run (exec Telemetry.smiOnly) init oneJob) := by
  have htimely : (JobCall.stop ∅ ⟨7000, 7⟩).Timely := by
    show 7 ≠ 0
    omega
  exact ⟨htimely, trivial, (linearizable_iff_not_race Telemetry.smiOnly _ jobA jobA _
    (.remove ⟨8000, 8⟩) htimely trivial).mpr fun h => h.2⟩

/-- A running job, stopped on two threads: both stops return `RDC_ST_OK` when both look the job up
before either has taken it off the job table. -/
theorem not_linearizable_twoStops :
    Reachable Telemetry.smiOnly (run (exec Telemetry.smiOnly) init oneJob)
    ∧ ¬ Serial observed ((JobCall.stop ∅ ⟨7000, 7⟩).prog Telemetry.smiOnly jobA)
      ((JobCall.stop ∅ ⟨8000, 8⟩).prog Telemetry.smiOnly jobA)
      (run (exec Telemetry.smiOnly) init oneJob) := by
  refine ⟨⟨_, rfl⟩, stop_stop_race ∅ ∅ ⟨7000, 7⟩ ⟨8000, 8⟩ ?_ (by decide +kernel)⟩
  have hgroup : (run (exec Telemetry.smiOnly) init oneJob).jobWatchTable[(jobA : JobId)]?.map
      JobWatchTableEntry.groupId = some 1 := by decide +kernel
  obtain ⟨job, hjob, hid⟩ := Option.map_eq_some_iff.mp hgroup
  refine ⟨job, hjob, ?_⟩
  rw [hid]
  exact (rdcFieldUnwatch_ok_iff _ 1 jobFieldId 0).mp (by decide +kernel)

end Rdc.Proof
